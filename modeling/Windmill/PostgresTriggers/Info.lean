import Windmill.PostgresTriggers.Handler
import Windmill.PostgresTriggers.Publication

/-!
# Postgres triggers: reading a publication back

`get_publication_info` (`postgres_triggers/handler.rs`) returns the `PublicationData` of an
existing publication: the operations it publishes, read from `pg_publication` by
`get_publication_scope_and_transaction`, and, unless it publishes all tables, the relations it
tracks, read from `pg_publication_tables` by `get_tracked_relations`.  The client edits this data
and sends it back to `alter_publication`, whose request is deserialized through
`check_if_valid_relation` and `check_if_valid_transaction_type`.

`get_tracked_relations` files the rows by schema in a `HashMap<String, Relations>`: the first row
of a schema inserts a relation holding its table, each later row of that schema pushes its
table.  The map is modelled as its relations in insertion order.  `into_values` lists them in an
order the code does not fix, so the model takes that order as a function `intoValues`, and the
results hold for every function that only permutes the list.

Each relation read back holds exactly the tables of the rows of its schema, in row order, and no
schema comes twice (`trackedRelations_group`).  A row with a NULL name stops the loop with the
error of the first such row (`getTrackedRelations_eq_error`).  What is read back passes the
validators of the request: when the catalog's names are set, the update accepts the relations
unchanged and the operations up to their order (`publicationInfo_round_trip`).
-/

namespace Windmill.PostgresTriggers

open Windmill.Sql (isBlank)

/-! ## The tracked relations -/

/-- A row of the query of `get_tracked_relations`: `schemaname`, `tablename` and `attnames` of
`pg_publication_tables` (the query selects `NULL` columns on PostgreSQL 14).  The `rowfilter`
goes into `where_clause`, which nothing here reads. -/
structure PublicationTableRow where
  schemaName : Option String
  tableName : Option String
  columns : Option (List String)
  deriving DecidableEq, Repr

/-- The error for a row with no schema name. -/
def nullSchemaName (publicationName : String) : String :=
  "Unexpected NULL `schema_name` in publication entry (pubname: `" ++ publicationName ++
    "`). This should never happen unless PostgreSQL internals are corrupted."

/-- The error for a row with no table name. -/
def nullTableName (schemaName publicationName : String) : String :=
  "Unexpected NULL `table_name` for schema `" ++ schemaName ++ "` in publication `" ++
    publicationName ++ "`. This should never happen unless PostgreSQL internals are corrupted."

/-- `Relations::add_new_table`. -/
def Relations.addNewTable (relations : Relations) (tableToTrack : TableToTrack) : Relations :=
  ⟨relations.schemaName, relations.tableToTrack ++ [tableToTrack]⟩

/-- `table_to_track.entry(schema_name)` and its two arms, on the map as a list in insertion
order: an occupied entry gets the table pushed, a vacant one a new relation with the table
alone. -/
def trackTable (schemaName : String) (tableToTrack : TableToTrack) :
    List Relations → List Relations
  | [] => [⟨schemaName, [tableToTrack]⟩]
  | relations :: rest =>
    if relations.schemaName = schemaName then relations.addNewTable tableToTrack :: rest
    else relations :: trackTable schemaName tableToTrack rest

/-- The loop of `get_tracked_relations` over the rows. -/
def collectRelations (publicationName : String) (tableToTrack : List Relations) :
    List PublicationTableRow → Except String (List Relations)
  | [] => .ok tableToTrack
  | row :: rows =>
    match row.schemaName with
    | none => .error (nullSchemaName publicationName)
    | some schemaName =>
      match row.tableName with
      | none => .error (nullTableName schemaName publicationName)
      | some tableName =>
        collectRelations publicationName
          (trackTable schemaName ⟨tableName, row.columns⟩ tableToTrack) rows

/-- `get_tracked_relations` after its query; `intoValues` is the order `into_values` lists the
map in. -/
def getTrackedRelations (intoValues : List Relations → List Relations) (publicationName : String)
    (rows : List PublicationTableRow) : Except String (List Relations) :=
  (collectRelations publicationName [] rows).map intoValues

/-! ## What the loop builds -/

/-- The tables the map holds under a schema. -/
def tablesOf (schemaName : String) (tableToTrack : List Relations) : List TableToTrack :=
  ((tableToTrack.find? (·.schemaName = schemaName)).map (·.tableToTrack)).getD []

/-- The tables of the rows of a schema, in row order. -/
def rowTables (schemaName : String) (rows : List PublicationTableRow) : List TableToTrack :=
  rows.filterMap fun row =>
    if row.schemaName = some schemaName then row.tableName.map (⟨·, row.columns⟩) else none

/-- A row with both names set. -/
def PublicationTableRow.named (row : PublicationTableRow) : Bool :=
  row.schemaName.isSome && row.tableName.isSome

theorem PublicationTableRow.named_iff {row : PublicationTableRow} :
    row.named ↔ ∃ schemaName tableName,
      row.schemaName = some schemaName ∧ row.tableName = some tableName := by
  simp [PublicationTableRow.named, Option.isSome_iff_exists]

/-- The error the loop stops with at a row that lacks a name. -/
def rowError (publicationName : String) (row : PublicationTableRow) : String :=
  match row.schemaName with
  | none => nullSchemaName publicationName
  | some schemaName => nullTableName schemaName publicationName

/-- A row with both names puts its table under its schema, before the later rows' tables. -/
theorem rowTables_cons_of_named {row : PublicationTableRow} {schemaName tableName : String}
    (hs : row.schemaName = some schemaName) (ht : row.tableName = some tableName)
    (name : String) (rows : List PublicationTableRow) :
    rowTables name (row :: rows) =
      (if schemaName = name then [⟨tableName, row.columns⟩] else []) ++ rowTables name rows := by
  by_cases same : schemaName = name <;> simp [rowTables, hs, ht, same]

theorem tablesOf_cons (schemaName : String) (r : Relations) (rest : List Relations) :
    tablesOf schemaName (r :: rest) =
      if r.schemaName = schemaName then r.tableToTrack else tablesOf schemaName rest := by
  by_cases here : r.schemaName = schemaName <;> simp [tablesOf, List.find?_cons, here]

/-- One step of the loop, whichever way it goes. -/
theorem collectRelations_cons (publicationName : String) (tableToTrack : List Relations)
    (row : PublicationTableRow) (rows : List PublicationTableRow) :
    collectRelations publicationName tableToTrack (row :: rows) =
      match row.schemaName, row.tableName with
      | some schemaName, some tableName =>
        collectRelations publicationName
          (trackTable schemaName ⟨tableName, row.columns⟩ tableToTrack) rows
      | _, _ => .error (rowError publicationName row) := by
  rw [collectRelations, rowError]
  cases row.schemaName <;> cases row.tableName <;> rfl

/-- The schema names of the map: an occupied entry leaves them, a vacant one appends one. -/
theorem trackTable_names (schemaName : String) (tableToTrack : TableToTrack) :
    ∀ relations : List Relations,
      (trackTable schemaName tableToTrack relations).map (·.schemaName) =
        if schemaName ∈ relations.map (·.schemaName) then relations.map (·.schemaName)
        else relations.map (·.schemaName) ++ [schemaName]
  | [] => rfl
  | r :: rest => by
    by_cases same : r.schemaName = schemaName
    · simp [trackTable, same, Relations.addNewTable]
    · simp only [trackTable, if_neg same, List.map_cons, trackTable_names schemaName tableToTrack rest,
        List.mem_cons, Ne.symm same, false_or]
      split <;> rfl

theorem nodup_trackTable {schemaName : String} {tableToTrack : TableToTrack}
    {relations : List Relations} (nodup : (relations.map (·.schemaName)).Nodup) :
    ((trackTable schemaName tableToTrack relations).map (·.schemaName)).Nodup := by
  rw [trackTable_names]
  split
  · exact nodup
  · rename_i fresh
    exact List.nodup_append.mpr ⟨nodup, List.nodup_singleton _, List.disjoint_singleton.mpr fresh⟩

theorem mem_names_trackTable {name schemaName : String} {tableToTrack : TableToTrack}
    {relations : List Relations} :
    name ∈ (trackTable schemaName tableToTrack relations).map (·.schemaName) ↔
      name = schemaName ∨ name ∈ relations.map (·.schemaName) := by
  rw [trackTable_names]
  split
  · rename_i found
    exact ⟨.inr, fun named => named.elim (· ▸ found) id⟩
  · rw [List.mem_append, List.mem_singleton, or_comm]

/-- An insertion only adds the table under its own schema, after the ones already there. -/
theorem tablesOf_trackTable (name schemaName : String) (tableToTrack : TableToTrack) :
    ∀ relations : List Relations,
      tablesOf name (trackTable schemaName tableToTrack relations) =
        tablesOf name relations ++ if schemaName = name then [tableToTrack] else []
  | [] => by by_cases same : schemaName = name <;> simp [trackTable, tablesOf, same]
  | r :: rest => by
    by_cases same : r.schemaName = schemaName
    · subst same
      by_cases here : r.schemaName = name <;>
        simp [trackTable, tablesOf_cons, here, Relations.addNewTable]
    · by_cases here : r.schemaName = name
      · subst here
        simp [trackTable, same, tablesOf_cons, Ne.symm same]
      · simp [trackTable, same, here, tablesOf_cons, tablesOf_trackTable name schemaName _ rest]

/-- With distinct schema names, a relation is the one its name finds. -/
theorem tablesOf_of_mem {r : Relations} :
    ∀ {relations : List Relations}, (relations.map (·.schemaName)).Nodup → r ∈ relations →
      tablesOf r.schemaName relations = r.tableToTrack
  | s :: rest, nodup, mem => by
    rw [List.map_cons, List.nodup_cons] at nodup
    rcases List.mem_cons.mp mem with rfl | later
    · simp [tablesOf, List.find?_cons]
    · have other : s.schemaName ≠ r.schemaName := fun same =>
        nodup.1 (same ▸ List.mem_map_of_mem _ later)
      simpa [tablesOf, List.find?_cons, other] using tablesOf_of_mem nodup.2 later

/-! ## The loop over the rows -/

section Loop

variable {publicationName : String}

/-- The loop fails exactly at the first row that lacks a name. -/
theorem collectRelations_eq_error (tableToTrack : List Relations) (e : String) :
    ∀ rows : List PublicationTableRow,
      collectRelations publicationName tableToTrack rows = .error e ↔
        ∃ row, rows.find? (!·.named) = some row ∧ rowError publicationName row = e
  | [] => by simp [collectRelations]
  | row :: rows => by
    rw [collectRelations_cons]
    cases hs : row.schemaName <;> cases ht : row.tableName <;>
      simp [PublicationTableRow.named, hs, ht, List.find?_cons,
        collectRelations_eq_error _ e rows]

/-- A run that succeeds read every row's names, kept distinct schema names, and put each row's
table under its schema after the tables already there. -/
theorem collectRelations_ok {tableToTrack out : List Relations} :
    ∀ {rows : List PublicationTableRow},
      collectRelations publicationName tableToTrack rows = .ok out →
        (∀ row ∈ rows, row.named) ∧
        ((tableToTrack.map (·.schemaName)).Nodup → (out.map (·.schemaName)).Nodup) ∧
        (∀ name, tablesOf name out = tablesOf name tableToTrack ++ rowTables name rows) ∧
        ∀ name, name ∈ out.map (·.schemaName) ↔
          name ∈ tableToTrack.map (·.schemaName) ∨ ∃ row ∈ rows, row.schemaName = some name
  | [], run => by
    cases run
    exact ⟨fun _ mem => absurd mem (List.not_mem_nil _), id, fun _ => (List.append_nil _).symm,
      fun _ => (or_iff_left fun ⟨_, mem, _⟩ => List.not_mem_nil _ mem).symm⟩
  | row :: rows, run => by
    rw [collectRelations_cons] at run
    split at run
    · rename_i schemaName tableName hs ht
      obtain ⟨named, nodup, tables, names⟩ := collectRelations_ok run
      refine ⟨?_, fun n => nodup (nodup_trackTable n), fun name => ?_, fun name => ?_⟩
      · exact List.forall_mem_cons.mpr ⟨PublicationTableRow.named_iff.mpr ⟨_, _, hs, ht⟩, named⟩
      · rw [tables, tablesOf_trackTable, rowTables_cons_of_named hs ht, List.append_assoc]
      · rw [names, mem_names_trackTable]
        simp only [List.mem_cons, exists_eq_or_imp, hs, Option.some.injEq, @eq_comm _ schemaName,
          or_assoc, or_left_comm]
    · cases run

end Loop

/-- What a successful `get_tracked_relations` returns, in whatever order `into_values` lists
it: every row had both names, no schema comes twice, each relation holds the tables of the rows
of its schema in row order, and the schemas are those of the rows. -/
theorem getTrackedRelations_ok {intoValues : List Relations → List Relations}
    (order : ∀ relations, (intoValues relations).Perm relations) {publicationName : String}
    {rows : List PublicationTableRow} {out : List Relations}
    (read : getTrackedRelations intoValues publicationName rows = .ok out) :
    (∀ row ∈ rows, row.named) ∧ (out.map (·.schemaName)).Nodup ∧
      (∀ r ∈ out, r.tableToTrack = rowTables r.schemaName rows) ∧
      ∀ name, name ∈ out.map (·.schemaName) ↔ ∃ row ∈ rows, row.schemaName = some name := by
  obtain ⟨built, run, rfl⟩ : ∃ built, collectRelations publicationName [] rows = .ok built ∧
      intoValues built = out := by
    simp only [getTrackedRelations] at read
    cases run : collectRelations publicationName [] rows <;> simp_all [Except.map]
  obtain ⟨named, nodup, tables, names⟩ := collectRelations_ok run
  have nodup := nodup List.nodup_nil
  have perm := (order built).map (·.schemaName)
  refine ⟨named, perm.nodup_iff.mpr nodup, fun r mem => ?_, fun name => ?_⟩
  · rw [← tablesOf_of_mem nodup ((order built).mem_iff.mp mem), tables]
    simp [tablesOf]
  · simp [perm.mem_iff, names]

/-- The relations `get_tracked_relations` returns, in whatever order `into_values` lists them:
no schema comes twice, each relation holds the tables of the rows of its schema in row order,
and every row's schema has its relation.  So no row is lost and none is counted twice. -/
theorem trackedRelations_group {intoValues : List Relations → List Relations}
    (order : ∀ relations, (intoValues relations).Perm relations) {publicationName : String}
    {rows : List PublicationTableRow} {out : List Relations}
    (read : getTrackedRelations intoValues publicationName rows = .ok out) :
    (out.map (·.schemaName)).Nodup ∧
      (∀ r ∈ out, r.tableToTrack = rowTables r.schemaName rows) ∧
      ∀ row ∈ rows, ∃ r ∈ out, row.schemaName = some r.schemaName := by
  obtain ⟨named, nodup, tables, names⟩ := getTrackedRelations_ok order read
  refine ⟨nodup, tables, fun row mem => ?_⟩
  obtain ⟨name, -, hs, -⟩ := PublicationTableRow.named_iff.mp (named row mem)
  obtain ⟨r, mem', rfl⟩ := List.mem_map.mp ((names name).mpr ⟨row, mem, hs⟩)
  exact ⟨r, mem', hs⟩

/-- Two rows of `public` around one of `audit`. -/
def publicAuditRows : List PublicationTableRow :=
  [⟨some "public", some "users", none⟩, ⟨some "audit", some "log", none⟩,
    ⟨some "public", some "orders", some ["id"]⟩]

/-- The relations `get_tracked_relations` files those rows in, in insertion order. -/
def publicAuditRelations : List Relations :=
  [⟨"public", [⟨"users", none⟩, ⟨"orders", some ["id"]⟩]⟩, ⟨"audit", [⟨"log", none⟩]⟩]

theorem trackedRelations_group_two_schemas :
    (publicAuditRelations.map (·.schemaName)).Nodup ∧
      (∀ r ∈ publicAuditRelations, r.tableToTrack = rowTables r.schemaName publicAuditRows) ∧
      ∀ row ∈ publicAuditRows, ∃ r ∈ publicAuditRelations, row.schemaName = some r.schemaName :=
  @trackedRelations_group id (fun _ => .refl _) "pub" publicAuditRows publicAuditRelations rfl

/-- `get_tracked_relations` fails exactly when some row lacks a name, with the error of the
first such row. -/
theorem getTrackedRelations_eq_error (intoValues : List Relations → List Relations)
    (publicationName : String) (rows : List PublicationTableRow) (e : String) :
    getTrackedRelations intoValues publicationName rows = .error e ↔
      ∃ row, rows.find? (!·.named) = some row ∧ rowError publicationName row = e := by
  rw [getTrackedRelations, ← collectRelations_eq_error [] e rows]
  cases collectRelations publicationName [] rows <;> simp [Except.map]

/-- The example of the docstring above: two rows of `public` and one of `audit`. -/
example :
    getTrackedRelations id "pub"
        [⟨some "public", some "users", none⟩, ⟨some "audit", some "log", none⟩,
          ⟨some "public", some "orders", some ["id"]⟩] =
      .ok [⟨"public", [⟨"users", none⟩, ⟨"orders", some ["id"]⟩]⟩, ⟨"audit", [⟨"log", none⟩]⟩] :=
  rfl

/-! ## The publication read back -/

/-- The flags of the `pg_publication` row that `get_publication_scope_and_transaction` reads. -/
structure PgPublication where
  allTable : Bool
  insert : Bool
  update : Bool
  delete : Bool
  deriving DecidableEq, Repr

/-- The `transaction_to_track` that `get_publication_scope_and_transaction` pushes the flags'
operations onto. -/
def PgPublication.transactionToTrack (row : PgPublication) : List String :=
  (if row.insert then ["insert"] else []) ++ (if row.update then ["update"] else []) ++
    (if row.delete then ["delete"] else [])

/-- `get_publication_scope_and_transaction`: whether the publication publishes all tables, and
the operations it publishes; `None` when no publication has the name. -/
def getPublicationScopeAndTransaction : Option PgPublication → Option (Bool × List String)
  | none => none
  | some row => some (row.allTable, row.transactionToTrack)

/-- `PublicationData`: the relations a publication tracks, `None` when it tracks all tables,
and the operations it publishes. -/
structure PublicationData where
  tableToTrack : Option (List Relations)
  transactionToTrack : List String
  deriving DecidableEq, Repr

/-- How `get_publication_info` fails: `NotFound` when no publication has the name, or the error
of `get_tracked_relations`. -/
inductive PublicationInfoError
  | publicationNameNotExists
  | trackedRelations (message : String)
  deriving DecidableEq, Repr

/-- `get_publication_info` on the catalog's rows: `publication` is the `pg_publication` row of
the name, `rows` its `pg_publication_tables` rows. -/
def getPublicationInfo (intoValues : List Relations → List Relations) (publicationName : String)
    (publication : Option PgPublication) (rows : List PublicationTableRow) :
    Except PublicationInfoError PublicationData :=
  match getPublicationScopeAndTransaction publication with
  | none => .error .publicationNameNotExists
  | some (allTable, transactionToTrack) =>
    if !allTable then
      match getTrackedRelations intoValues publicationName rows with
      | .error e => .error (.trackedRelations e)
      | .ok relations => .ok ⟨some relations, transactionToTrack⟩
    else .ok ⟨none, transactionToTrack⟩

/-- The checks the `Deserialize` of `PublicationData` runs on a request, `table_to_track` first
as the response's `Serialize` writes it. -/
def PublicationData.validate (data : PublicationData) : Except String PublicationData := do
  let tableToTrack ← checkIfValidRelation data.tableToTrack
  let transactionToTrack ← checkIfValidTransactionType data.transactionToTrack
  pure ⟨tableToTrack, transactionToTrack⟩

/-- The operations read back are distinct, at most three, and each an operation. -/
theorem transactionToTrack_valid (row : PgPublication) :
    row.transactionToTrack.Nodup ∧ row.transactionToTrack.length ≤ 3 ∧
      ∀ x ∈ row.transactionToTrack, toLowercase x ∈ transactionTypes := by
  simp only [PgPublication.transactionToTrack]
  cases row.insert <;> cases row.update <;> cases row.delete <;> decide

/-- What a successful `get_publication_info` is made of. -/
theorem getPublicationInfo_ok {intoValues : List Relations → List Relations}
    {publicationName : String} {publication : Option PgPublication}
    {rows : List PublicationTableRow} {data : PublicationData}
    (info : getPublicationInfo intoValues publicationName publication rows = .ok data) :
    ∃ row, publication = some row ∧ data.transactionToTrack = row.transactionToTrack ∧
      (data.tableToTrack = none ∨
        ∃ out, getTrackedRelations intoValues publicationName rows = .ok out ∧
          data.tableToTrack = some out) := by
  cases publication with
  | none => cases info
  | some row =>
    simp only [getPublicationInfo, getPublicationScopeAndTransaction] at info
    split at info
    · split at info
      · cases info
      · cases info
        exact ⟨row, rfl, rfl, .inr ⟨_, ‹_›, rfl⟩⟩
    · cases info
      exact ⟨row, rfl, rfl, .inl rfl⟩

/-- No relation that tracks a whole schema, so none with another relation after it. -/
theorem wholeSchemaNotLast_eq_false :
    ∀ {relations : List Relations}, (∀ r ∈ relations, r.tableToTrack ≠ []) →
      wholeSchemaNotLast relations = false
  | [], _ => rfl
  | r :: rest, tables => by
    simp [wholeSchemaNotLast, tables r (List.mem_cons_self r rest),
      wholeSchemaNotLast_eq_false fun r' mem => tables r' (List.mem_cons_of_mem r mem)]

/-- The validator accepts, unchanged, relations with set names, distinct schemas and no
whole-schema relation. -/
theorem checkIfValidRelation_of_tables {relations : List Relations}
    (valid : namesValid relations = true) (tables : ∀ r ∈ relations, r.tableToTrack ≠ [])
    (nodup : (relations.map (·.schemaName)).Nodup) :
    checkIfValidRelation (some relations) = .ok (some relations) := by
  have loop := (checkRelations_false_ok false relations).mpr
    ⟨valid, by simp [wholeSchemaNotLast_eq_false tables]⟩
  simp [checkIfValidRelation, loop, nodup]

theorem mem_rowTables {t : TableToTrack} {schemaName : String} {rows : List PublicationTableRow} :
    t ∈ rowTables schemaName rows ↔
      ∃ row ∈ rows, row.schemaName = some schemaName ∧ row.tableName = some t.tableName ∧
        row.columns = t.columnsName := by
  obtain ⟨tableName, columnsName⟩ := t
  simp only [rowTables, List.mem_filterMap]
  refine exists_congr fun row => and_congr_right fun _ => ?_
  split
  · cases row.tableName <;> simp_all [eq_comm]
  · simp_all

/-- The relations `get_tracked_relations` reads from a catalog whose names are set pass
`check_if_valid_relation` unchanged, in whatever order `into_values` lists them. -/
theorem trackedRelations_accepted {intoValues : List Relations → List Relations}
    (order : ∀ relations, (intoValues relations).Perm relations) {publicationName : String}
    {rows : List PublicationTableRow} {out : List Relations}
    (read : getTrackedRelations intoValues publicationName rows = .ok out)
    (names : ∀ row ∈ rows, row.schemaName ≠ some "" ∧
      ∀ tableName, row.tableName = some tableName → isBlank tableName = false) :
    checkIfValidRelation (some out) = .ok (some out) := by
  obtain ⟨named, nodup, tables, schemas⟩ := getTrackedRelations_ok order read
  have ofRow : ∀ r ∈ out, ∃ row ∈ rows, row.schemaName = some r.schemaName :=
    fun r mem => (schemas r.schemaName).mp (List.mem_map_of_mem _ mem)
  refine checkIfValidRelation_of_tables ?_ (fun r mem => ?_) nodup
  · simp only [namesValid, List.all_eq_true, Bool.and_eq_true, Bool.not_eq_true']
    intro r mem
    obtain ⟨row, mem', hs⟩ := ofRow r mem
    refine ⟨?_, fun t table => ?_⟩
    · have nonEmpty := (names row mem').1
      rw [hs, Ne, Option.some.injEq] at nonEmpty
      exact Bool.eq_false_iff.mpr fun empty => nonEmpty ((String.isEmpty_iff _).mp empty)
    · obtain ⟨row', mem'', -, ht, -⟩ := mem_rowTables.mp (tables r mem ▸ table)
      exact (names row' mem'').2 _ ht
  · obtain ⟨row, mem', hs⟩ := ofRow r mem
    obtain ⟨-, tableName, -, ht⟩ := PublicationTableRow.named_iff.mp (named row mem')
    rw [tables r mem]
    exact List.ne_nil_of_mem (mem_rowTables.mpr ⟨row, mem', hs, ht, rfl⟩ : ⟨tableName, row.columns⟩ ∈ _)

/-- What `get_publication_info` returns passes the checks of a request that sends it back: when
the catalog's schema names are non-empty and its table names not blank, the relations, in
whatever order `into_values` lists them, are accepted unchanged, and the operations are
accepted reordered, none lost or added. -/
theorem publicationInfo_round_trip {intoValues : List Relations → List Relations}
    (order : ∀ relations, (intoValues relations).Perm relations) {publicationName : String}
    {publication : Option PgPublication} {rows : List PublicationTableRow} {data : PublicationData}
    (info : getPublicationInfo intoValues publicationName publication rows = .ok data)
    (names : ∀ row ∈ rows, row.schemaName ≠ some "" ∧
      ∀ tableName, row.tableName = some tableName → isBlank tableName = false) :
    ∃ transactionToTrack, data.validate = .ok ⟨data.tableToTrack, transactionToTrack⟩ ∧
      transactionToTrack.Perm data.transactionToTrack := by
  obtain ⟨row, -, operations, relations⟩ := getPublicationInfo_ok info
  have accepted : checkIfValidRelation data.tableToTrack = .ok data.tableToTrack := by
    rcases relations with none | ⟨out, read, some⟩
    · rw [none]; rfl
    · rw [some]; exact trackedRelations_accepted order read names
  obtain ⟨nodup, short, types⟩ := transactionToTrack_valid row
  rw [← operations] at nodup short types
  have sorted := dedup_pairwise_lt (List.sorted_insertionSort (· ≤ ·) data.transactionToTrack)
  refine ⟨_, ?_, (List.perm_ext_iff_of_nodup (sorted.imp ne_of_lt) nodup).mpr
    fun _ => mem_dedup_insertionSort⟩
  rw [PublicationData.validate, accepted, checkIfValidTransactionType_eq_ok.mpr ⟨short, types, rfl⟩]
  rfl

theorem publicationInfo_round_trip_users :
    ∃ transactionToTrack,
      PublicationData.validate ⟨some [⟨"public", [⟨"users", none⟩]⟩], ["insert", "update"]⟩ =
        .ok ⟨some [⟨"public", [⟨"users", none⟩]⟩], transactionToTrack⟩ ∧
      transactionToTrack.Perm ["insert", "update"] :=
  @publicationInfo_round_trip id (fun _ => .refl _) "pub" (some ⟨false, true, true, false⟩)
    [⟨some "public", some "users", none⟩] ⟨some [⟨"public", [⟨"users", none⟩]⟩], ["insert", "update"]⟩
    rfl (by simp only [List.mem_singleton, forall_eq]; exact ⟨by decide, fun _ h => by cases h; decide⟩)

end Windmill.PostgresTriggers
