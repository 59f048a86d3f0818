import Windmill.Jobs.Filters

/-!
# Postgres triggers: the listing and the relation validator

Two parts of `postgres_triggers/handler.rs`.  `list_postgres_triggers` filters the triggers of a
workspace through a `SqlBuilder`, like the job listings; `listPostgresTriggers_wheres` gives its
WHERE list as the rendering of conditions, and the `path_start` filter is a `LIKE` prefix
pattern.

`check_if_valid_relation` validates the relations a publication tracks when a request is
deserialized.  It walks the list once with two flags: whether some relation tracks a whole
schema (no table listed) and whether some table selects columns; it rejects the list when both
are set.  The first whole-schema relation sets its flag and skips the rest of the loop body,
the check included, so whether a list is accepted can depend on the order of its relations
(`checkIfValidRelation_depends_on_order`).
-/

namespace Windmill.PostgresTriggers

open Windmill.Sql Windmill.Jobs

/-! ## The listing -/

/-- The fields of `ListPostgresTriggerQuery` that filter; `page` and `per_page` only paginate. -/
structure ListPostgresTriggerQuery where
  path : Option String := none
  isFlow : Option Bool := none
  pathStart : Option String := none

/-- The WHERE entries of `list_postgres_triggers`. -/
def listPostgresTriggers (wId : String) (lst : ListPostgresTriggerQuery) : SqlBuilder :=
  (SqlBuilder.mk []).andWhere (bind "workspace_id = ?" (.str wId))
  |> ifSome lst.path (fun path b => b.andWhereEq "script_path" (bound path))
  |> ifSome lst.isFlow (fun isFlow b => b.andWhereEq "is_flow" (bind "?" (.bool isFlow)))
  |> ifSome lst.pathStart (fun pathStart b => b.andWhereLikeLeft "path" pathStart)

/-- The conditions of `list_postgres_triggers`. -/
def listPostgresTriggersConds (wId : String) (lst : ListPostgresTriggerQuery) : List Cond :=
  [.eq .workspaceId wId] ++
  someConds lst.path (fun path => [.eq .scriptPath path]) ++
  someConds lst.isFlow (fun isFlow => [.cmp .isFlow .eq (.sqlBool isFlow)]) ++
  someConds lst.pathStart (fun pathStart => [.like .path (pathStart ++ "%")])

theorem bind_bool (b : Bool) : bind "?" (.bool b) = (Rhs.sqlBool b).render := by
  cases b <;> decide

theorem workspace_appends (wId : String) :
    Appends [.eq .workspaceId wId] (·.andWhere (bind "workspace_id = ?" (.str wId))) := by
  rw [show "workspace_id = ?" = "workspace_id = " ++ "?" by decide, bind_suffix _ _ (by decide)]
  exact Appends.text _ (by simp) (String.ext (by simp [Cond.render, Column.name]))

/-- `and_where_like_left` writes the `LIKE` test of the prefix pattern `mask%`. -/
theorem likeLeft_appends (c : Column) (mask : String) :
    Appends [.like c (mask ++ "%")] (·.andWhereLikeLeft c.name mask) :=
  Appends.text _ (by simp)
    (String.ext (by simp [Cond.render, quote, ← esc_append_percent]))

theorem listPostgresTriggers_wheres (wId : String) (lst : ListPostgresTriggerQuery) :
    (listPostgresTriggers wId lst).wheres = (listPostgresTriggersConds wId lst).map Cond.render := by
  have appends : Appends (listPostgresTriggersConds wId lst)
      (fun b => b.andWhere (bind "workspace_id = ?" (.str wId))
        |> ifSome lst.path (fun path b => b.andWhereEq "script_path" (bound path))
        |> ifSome lst.isFlow (fun isFlow b => b.andWhereEq "is_flow" (bind "?" (.bool isFlow)))
        |> ifSome lst.pathStart (fun pathStart b => b.andWhereLikeLeft "path" pathStart)) :=
    workspace_appends wId
    |>.comp (.ifSome fun path => .eq .scriptPath path)
    |>.comp (.ifSome fun isFlow => by rw [bind_bool]; exact .cmp .isFlow .eq (.sqlBool isFlow))
    |>.comp (.ifSome fun pathStart => likeLeft_appends .path pathStart)
  exact congrArg SqlBuilder.wheres (appends ⟨[]⟩)

/-! ## The relation validator -/

/-- `TableToTrack` as deserialized: `columns_name` is `None` also when it was an empty list.  The
`where_clause` is not read by the validator. -/
structure TableToTrack where
  tableName : String
  columnsName : Option (List String)
  deriving DecidableEq, Repr

structure Relations where
  schemaName : String
  tableToTrack : List TableToTrack
  deriving DecidableEq, Repr

/-- The message of the rejection for mixed tracking options. -/
def incompatibleTracking : String :=
  "Incompatible tracking options. Schema-level tracking and specific table tracking with column selection cannot be used together. Refer to the documentation for valid configurations."

/-- The loop over a relation's tables: each name must not be blank, and the column flag is set
by the first table that selects columns. -/
def checkTables (trackSpecificColumnsInTable : Bool) : List TableToTrack → Except String Bool
  | [] => .ok trackSpecificColumnsInTable
  | t :: ts =>
    if isBlank t.tableName then .error "Table name must not be empty"
    else checkTables (trackSpecificColumnsInTable || t.columnsName.isSome) ts

/-- The loop of `check_if_valid_relation` over the relations, with its two flags. -/
def checkRelations (trackAllTableInSchema trackSpecificColumnsInTable : Bool) :
    List Relations → Except String Unit
  | [] => .ok ()
  | relation :: rest =>
    if relation.schemaName.isEmpty then .error "Schema Name must not be empty"
    else if !trackAllTableInSchema && relation.tableToTrack.isEmpty then
      checkRelations true trackSpecificColumnsInTable rest
    else
      match checkTables trackSpecificColumnsInTable relation.tableToTrack with
      | .error e => .error e
      | .ok columns =>
        if trackAllTableInSchema && columns then .error incompatibleTracking
        else checkRelations trackAllTableInSchema columns rest

/-- `check_if_valid_relation`, after the list itself has been deserialized. -/
def checkIfValidRelation : Option (List Relations) → Except String (Option (List Relations))
  | none => .ok none
  | some relations =>
    match checkRelations false false relations with
    | .error e => .error e
    | .ok () =>
      if (relations.map (·.schemaName)).Nodup then .ok (some relations)
      else .error "You cannot choose a schema more than one time"

/-- A relation that selects columns of one table. -/
def columnsRelation : Relations := ⟨"public", [⟨"users", some ["id"]⟩]⟩

/-- A relation that tracks a whole schema. -/
def wholeSchemaRelation : Relations := ⟨"audit", []⟩

/-- The two relations are accepted in one order and rejected as incompatible in the other. -/
theorem checkIfValidRelation_depends_on_order :
    checkIfValidRelation (some [columnsRelation, wholeSchemaRelation]) =
      .ok (some [columnsRelation, wholeSchemaRelation]) ∧
    checkIfValidRelation (some [wholeSchemaRelation, columnsRelation]) =
      .error incompatibleTracking :=
  ⟨rfl, rfl⟩

/-! ## What the validator accepts

The loop's two flags reduce to properties of the whole list: the relations pass the loop exactly
when every name is set and it is not the case that some table selects columns while a
whole-schema relation has another relation after it.  Only the position of the whole-schema
relation matters, so a list mixing both kinds passes when that relation comes last. -/

/-- Every schema name is non-empty and every table name non-blank. -/
def namesValid (relations : List Relations) : Bool :=
  relations.all fun r => !r.schemaName.isEmpty && r.tableToTrack.all fun t => !isBlank t.tableName

/-- Some table of the relations selects columns. -/
def selectsColumns (relations : List Relations) : Bool :=
  relations.any fun r => r.tableToTrack.any (·.columnsName.isSome)

/-- Some relation that tracks a whole schema has another relation after it. -/
def wholeSchemaNotLast : List Relations → Bool
  | [] => false
  | r :: rest => (r.tableToTrack.isEmpty && !rest.isEmpty) || wholeSchemaNotLast rest

@[simp] theorem namesValid_cons (r : Relations) (rest : List Relations) :
    namesValid (r :: rest) =
      (!r.schemaName.isEmpty && r.tableToTrack.all (fun t => !isBlank t.tableName) &&
        namesValid rest) := rfl

@[simp] theorem selectsColumns_cons (r : Relations) (rest : List Relations) :
    selectsColumns (r :: rest) =
      (r.tableToTrack.any (·.columnsName.isSome) || selectsColumns rest) := rfl

/-- The table loop fails on a blank name and otherwise raises the column flag for any table that
selects columns. -/
theorem checkTables_eq (columns : Bool) (tables : List TableToTrack) :
    checkTables columns tables =
      if tables.all (fun t => !isBlank t.tableName) then
        .ok (columns || tables.any (·.columnsName.isSome))
      else .error "Table name must not be empty" := by
  induction tables generalizing columns with
  | nil => simp [checkTables]
  | cons t ts ih =>
    by_cases blank : isBlank t.tableName <;> simp [checkTables, blank, ih, Bool.or_assoc]

/-- One relation of the loop, with the table loop replaced by what it computes. -/
theorem checkRelations_cons (trackAll columns : Bool) (r : Relations) (rest : List Relations) :
    checkRelations trackAll columns (r :: rest) =
      if r.schemaName.isEmpty then .error "Schema Name must not be empty"
      else if !trackAll && r.tableToTrack.isEmpty then checkRelations true columns rest
      else if r.tableToTrack.all (fun t => !isBlank t.tableName) then
        if trackAll && (columns || r.tableToTrack.any (·.columnsName.isSome)) then
          .error incompatibleTracking
        else checkRelations trackAll (columns || r.tableToTrack.any (·.columnsName.isSome)) rest
      else .error "Table name must not be empty" := by
  rw [checkRelations, checkTables_eq]
  by_cases tables : r.tableToTrack.all (fun t => !isBlank t.tableName) <;>
    simp only [tables, Bool.false_eq_true, ↓reduceIte]

/-- Once a whole schema is tracked, every later relation is checked against the column flag. -/
theorem checkRelations_true_ok (columns : Bool) (relations : List Relations) :
    checkRelations true columns relations = .ok () ↔
      namesValid relations = true ∧
        (relations = [] ∨ (columns || selectsColumns relations) = false) := by
  induction relations generalizing columns with
  | nil => simp [checkRelations, namesValid]
  | cons r rest ih =>
    rw [checkRelations_cons, namesValid_cons, selectsColumns_cons]
    by_cases schema : r.schemaName.isEmpty
    · simp [schema]
    by_cases tables : r.tableToTrack.all (fun t => !isBlank t.tableName)
    swap
    · simp [schema, tables]
    by_cases clash : (columns || r.tableToTrack.any (·.columnsName.isSome)) = true
    · simp [schema, tables, ← Bool.or_assoc, clash]
    · rw [Bool.not_eq_true] at clash
      rw [if_neg (by simpa using schema), if_neg (by simp), if_pos tables, if_neg (by simp [clash]), ih,
        ← Bool.or_assoc, clash, Bool.false_or, or_iff_right_of_imp fun empty => empty ▸ rfl]
      simp [schema, tables]

/-- Before a whole schema is tracked, the first relation with no table raises the schema flag
and skips the check. -/
theorem checkRelations_false_ok (columns : Bool) (relations : List Relations) :
    checkRelations false columns relations = .ok () ↔
      namesValid relations = true ∧
        ¬((columns || selectsColumns relations) = true ∧ wholeSchemaNotLast relations = true) := by
  induction relations generalizing columns with
  | nil => simp [checkRelations, namesValid, wholeSchemaNotLast]
  | cons r rest ih =>
    rw [checkRelations_cons, namesValid_cons, selectsColumns_cons, wholeSchemaNotLast]
    by_cases schema : r.schemaName.isEmpty
    · simp [schema]
    rw [if_neg schema]
    by_cases whole : r.tableToTrack = []
    · rw [if_pos (by simp [whole]), checkRelations_true_ok, whole]
      cases rest <;> simp [schema, wholeSchemaNotLast]
    · have notEmpty : r.tableToTrack.isEmpty = false := by simpa using whole
      rw [if_neg (by simp [notEmpty]), notEmpty]
      simp only [Bool.false_and, Bool.false_or]
      by_cases tables : r.tableToTrack.all (fun t => !isBlank t.tableName)
      · rw [if_pos tables, if_neg (by simp), ih, Bool.or_assoc]
        simp [schema, tables]
      · simp [tables]

/-- `check_if_valid_relation` answers `Ok` for a list exactly when its names are set, its
schemas distinct, and no table selects columns while a whole-schema relation has another
relation after it; its `Ok` is then the list unchanged, never `None` nor another list. -/
theorem checkIfValidRelation_accepts_iff (relations : List Relations)
    (out : Option (List Relations)) :
    checkIfValidRelation (some relations) = .ok out ↔
      out = some relations ∧ namesValid relations = true ∧
        ¬(selectsColumns relations = true ∧ wholeSchemaNotLast relations = true) ∧
        (relations.map (·.schemaName)).Nodup := by
  have loop := checkRelations_false_ok false relations
  rw [Bool.false_or] at loop
  simp only [checkIfValidRelation]
  split
  · rename_i failed
    rw [failed] at loop
    simp only [reduceCtorEq, false_iff] at loop ⊢
    exact fun ⟨_, valid, noClash, _⟩ => loop ⟨valid, noClash⟩
  · rename_i passed
    obtain ⟨valid, noClash⟩ := loop.mp passed
    by_cases nodup : (relations.map (·.schemaName)).Nodup
    · rw [if_pos nodup, Except.ok.injEq, @eq_comm _ (some relations)]
      simp [valid, noClash, nodup]
    · simp [nodup]

end Windmill.PostgresTriggers
