import Mathlib.Data.List.Basic
import Mathlib.Data.String.Basic

/-!
# The `sql_builder` operations the job filters call

`filter_list_queue_query`, `filter_list_completed_query` and `list_postgres_triggers` write
their SQL through the `sql_builder` crate.  This module models the part of the crate they call,
following the crate's source: `esc` and `quote`, the `?` placeholder of `Bind`, and the WHERE
list of a `SqlBuilder`, grown by `and_where`, `or_where` and their `_eq`/`_in`/`_is_null`
variants and written out by `make_wheres`.

Only the WHERE list of a builder is kept.  The field list, the joins, `ORDER BY`, `LIMIT` and
`OFFSET` are written from constants and numbers of the server, and no modelled function reads
them back.
-/

namespace Windmill.Sql

/-! ## Rust string operations -/

/-- `str::replace` with a one-character pattern, over the characters of a string. -/
def replaceChars (c : Char) (r : List Char) : List Char → List Char
  | [] => []
  | d :: ds => if d = c then r ++ replaceChars c r ds else d :: replaceChars c r ds

/-- `s.replace(c, r)` for a one-character pattern `c`. -/
def strReplace (s : String) (c : Char) (r : String) : String :=
  ⟨replaceChars c r.data s.data⟩

/-- `str::replacen(c, r, 1)`: only the first occurrence is replaced. -/
def replaceFirst (c : Char) (r : List Char) : List Char → List Char
  | [] => []
  | d :: ds => if d = c then r ++ ds else d :: replaceFirst c r ds

/-- `[String]::join(sep)`. -/
def join (sep : String) : List String → String
  | [] => ""
  | [a] => a
  | a :: b :: rest => a ++ sep ++ join sep (b :: rest)

/-- `s.split(c)`: the pieces between the occurrences of `c`, at least one. -/
def splitChars (c : Char) : List Char → List (List Char)
  | [] => [[]]
  | d :: ds =>
    if d = c then [] :: splitChars c ds
    else
      match splitChars c ds with
      | p :: ps => (d :: p) :: ps
      | [] => [[d]]

theorem splitChars_ne_nil (c : Char) : ∀ cs : List Char, splitChars c cs ≠ []
  | [] => by simp [splitChars]
  | d :: ds => by
    unfold splitChars
    split
    · simp
    · split <;> simp

theorem splitChars_of_not_mem {c : Char} : ∀ {xs : List Char}, c ∉ xs → splitChars c xs = [xs]
  | [], _ => rfl
  | d :: ds, absent => by
    have hd : d ≠ c := fun h => absent (h ▸ List.mem_cons_self d ds)
    simp [splitChars, hd, splitChars_of_not_mem (fun h => absent (List.mem_cons_of_mem d h))]

theorem splitChars_sep {c : Char} (ys : List Char) :
    ∀ {xs : List Char}, c ∉ xs → splitChars c (xs ++ c :: ys) = xs :: splitChars c ys
  | [], _ => by simp [splitChars]
  | d :: ds, absent => by
    have hd : d ≠ c := fun h => absent (h ▸ List.mem_cons_self d ds)
    simp [splitChars, hd, splitChars_sep ys (fun h => absent (List.mem_cons_of_mem d h))]

/-- The first piece of a split is a prefix of the text. -/
theorem head_splitChars (c : Char) :
    ∀ cs : List Char, ∃ p rest, splitChars c cs = p :: rest ∧ p <+: cs
  | [] => ⟨[], [], rfl, List.nil_prefix⟩
  | d :: ds => by
    obtain ⟨p, rest, pieces, pre⟩ := head_splitChars c ds
    by_cases hd : d = c
    · exact ⟨[], splitChars c ds, by simp [splitChars, hd], List.nil_prefix⟩
    · exact ⟨d :: p, rest, by simp [splitChars, hd, pieces], List.prefix_cons_inj d |>.mpr pre⟩

/-- A split ends with a last piece. -/
theorem splitChars_eq_concat (c : Char) (cs : List Char) :
    ∃ init last, splitChars c cs = init ++ [last] := by
  obtain ⟨p, rest, pieces, -⟩ := head_splitChars c cs
  obtain ⟨init, last, eq⟩ := (List.eq_nil_or_concat (p :: rest)).resolve_left (List.cons_ne_nil p rest)
  exact ⟨init, last, pieces.trans (by simpa using eq)⟩

/-- A separator between two texts splits each of them on its own. -/
theorem splitChars_append_sep (c : Char) (ys : List Char) :
    ∀ xs : List Char, splitChars c (xs ++ c :: ys) = splitChars c xs ++ splitChars c ys
  | [] => by simp [splitChars]
  | d :: ds => by
    have tail := splitChars_append_sep c ys ds
    by_cases hd : d = c
    · simp [splitChars, hd, tail]
    · obtain ⟨q, qs, pieces⟩ := List.exists_cons_of_ne_nil (splitChars_ne_nil c ds)
      simp [splitChars, hd, tail, pieces]

/-- Joining two non-empty lists puts the separator between their joins. -/
theorem join_append (sep : String) {l' : List String} (nonempty' : l' ≠ []) :
    ∀ {l : List String}, l ≠ [] → join sep (l ++ l') = join sep l ++ sep ++ join sep l'
  | [a], _ => by
    obtain ⟨b, rest, rfl⟩ := List.exists_cons_of_ne_nil nonempty'
    rfl
  | a :: c :: rest, _ => by
    rw [List.cons_append, List.cons_append, join, ← List.cons_append,
      join_append sep nonempty' (List.cons_ne_nil c rest), join]
    simp only [String.append_assoc]

/-- A character of a joined text is one of the separator's or of an item's. -/
theorem mem_join_data {sep : String} {c : Char} :
    ∀ {items : List String}, c ∈ (join sep items).data →
      c ∈ sep.data ∨ ∃ item ∈ items, c ∈ item.data
  | [], mem => by simp [join] at mem
  | [a], mem => .inr ⟨a, List.mem_singleton_self a, mem⟩
  | a :: b :: rest, mem => by
    simp only [join, String.data_append, List.mem_append] at mem
    rcases mem with (mem | mem) | mem
    · exact .inr ⟨a, List.mem_cons_self _ _, mem⟩
    · exact .inl mem
    · rcases mem_join_data mem with mem | ⟨item, inRest, mem⟩
      · exact .inl mem
      · exact .inr ⟨item, List.mem_cons_of_mem _ inRest, mem⟩

/-- Items without a comma are read back by splitting their comma join. -/
theorem splitChars_join : ∀ {items : List String}, items ≠ [] →
    (∀ item ∈ items, ',' ∉ item.data) → splitChars ',' (join "," items).data = items.map String.data
  | [a], _, absent => by simp [join, splitChars_of_not_mem (absent a (List.mem_singleton_self a))]
  | a :: b :: rest, _, absent => by
    have joined : (join "," (a :: b :: rest)).data = a.data ++ ',' :: (join "," (b :: rest)).data := by
      simp only [join, String.data_append, List.append_assoc]
      rfl
    rw [joined, splitChars_sep _ (absent a (List.mem_cons_self a _)),
      splitChars_join (List.cons_ne_nil b rest) fun item mem => absent item (List.mem_cons_of_mem a mem)]
    rfl

/-- `char::is_whitespace`: the characters of Unicode's `White_Space` property. -/
def isWhitespace (c : Char) : Bool :=
  let n := c.toNat
  n == 0x20 || (0x09 ≤ n && n ≤ 0x0D) || n == 0x85 || n == 0xA0 || n == 0x1680 ||
    (0x2000 ≤ n && n ≤ 0x200A) || n == 0x2028 || n == 0x2029 || n == 0x202F || n == 0x205F ||
    n == 0x3000

/-- `s.trim().is_empty()`: every character is whitespace. -/
def isBlank (s : String) : Bool := s.data.all isWhitespace

@[simp] theorem replaceChars_nil (c : Char) (r : List Char) : replaceChars c r [] = [] := rfl

@[simp] theorem replaceChars_cons (c d : Char) (r ds : List Char) :
    replaceChars c r (d :: ds) =
      if d = c then r ++ replaceChars c r ds else d :: replaceChars c r ds := rfl

theorem replaceChars_append (c : Char) (r xs ys : List Char) :
    replaceChars c r (xs ++ ys) = replaceChars c r xs ++ replaceChars c r ys := by
  induction xs with
  | nil => rfl
  | cons d ds ih => by_cases hd : d = c <;> simp [hd, ih]

/-- A replacement leaves a string without the pattern unchanged. -/
theorem replaceChars_of_not_mem {c : Char} {r : List Char} :
    ∀ {xs : List Char}, c ∉ xs → replaceChars c r xs = xs
  | [], _ => rfl
  | d :: ds, absent => by
    have hd : d ≠ c := fun h => absent (h ▸ List.mem_cons_self d ds)
    simp [hd, replaceChars_of_not_mem (fun h => absent (List.mem_cons_of_mem d h))]

/-! ## Escaping and binding -/

/-- `sql_builder::esc`: every apostrophe doubled. -/
def esc (s : String) : String := strReplace s '\'' "''"

/-- `sql_builder::quote`: the escaped string between apostrophes. -/
def quote (s : String) : String := "'" ++ esc s ++ "'"

/-- The arguments the code passes to `Bind::bind`: `SqlArg` quotes a string and writes a
boolean as `TRUE` or `FALSE`. -/
inductive SqlArg where
  | str (s : String)
  | bool (b : Bool)

/-- `SqlArg::sql_arg`. -/
def SqlArg.sqlArg : SqlArg → String
  | .str s => quote s
  | .bool b => if b then "TRUE" else "FALSE"

/-- `template.bind(arg)`: the first `?` of the template becomes the argument's SQL. -/
def bind (template : String) (arg : SqlArg) : String :=
  ⟨replaceFirst '?' arg.sqlArg.data template.data⟩

theorem esc_data (s : String) : (esc s).data = replaceChars '\'' ['\'', '\''] s.data := rfl

@[simp] theorem bind_placeholder (s : String) : bind "?" (.str s) = quote s := by
  simp [bind, replaceFirst, SqlArg.sqlArg]

/-- A template that ends in its only `?` keeps its text and takes the quoted argument. -/
theorem bind_suffix (t s : String) (noMark : '?' ∉ t.data) :
    bind (t ++ "?") (.str s) = t ++ quote s := by
  have hfirst : ∀ xs : List Char, '?' ∉ xs →
      replaceFirst '?' (quote s).data (xs ++ ['?']) = xs ++ (quote s).data := by
    intro xs
    induction xs with
    | nil => intro _; simp [replaceFirst]
    | cons d ds ih =>
      intro absent
      have hd : d ≠ '?' := fun h => absent (h ▸ List.mem_cons_self d ds)
      simp [replaceFirst, hd, ih (fun h => absent (List.mem_cons_of_mem d h))]
  exact String.ext (hfirst t.data noMark)

/-! ## The WHERE list of a builder -/

/-- The WHERE list of a `SqlBuilder`, one entry per `and_where`, in the order they were
added. -/
structure SqlBuilder where
  wheres : List String
  deriving Repr

namespace SqlBuilder

/-- `SqlBuilder::and_where`: an empty condition is dropped. -/
@[irreducible] def andWhere (b : SqlBuilder) (cond : String) : SqlBuilder :=
  if cond.isEmpty then b else ⟨b.wheres ++ [cond]⟩

/-- `SqlBuilder::or_where`: the condition is appended to the last entry after `OR`. -/
@[irreducible] def orWhere (b : SqlBuilder) (cond : String) : SqlBuilder :=
  if cond.isEmpty then b
  else
    match b.wheres.getLast? with
    | none => ⟨[cond]⟩
    | some last => ⟨b.wheres.dropLast ++ [last ++ " OR " ++ cond]⟩

/-- The `and_where_<op>` family: `field`, the operator, the value. -/
def andWhereOp (b : SqlBuilder) (op field value : String) : SqlBuilder :=
  b.andWhere (field ++ op ++ value)

def andWhereEq (b : SqlBuilder) (field value : String) : SqlBuilder :=
  b.andWhereOp " = " field value

def andWhereNe (b : SqlBuilder) (field value : String) : SqlBuilder :=
  b.andWhereOp " <> " field value

def andWhereLe (b : SqlBuilder) (field value : String) : SqlBuilder :=
  b.andWhereOp " <= " field value

def andWhereGe (b : SqlBuilder) (field value : String) : SqlBuilder :=
  b.andWhereOp " >= " field value

def andWhereGt (b : SqlBuilder) (field value : String) : SqlBuilder :=
  b.andWhereOp " > " field value

/-- `SqlBuilder::or_where_eq`. -/
def orWhereEq (b : SqlBuilder) (field value : String) : SqlBuilder :=
  b.orWhere (field ++ " = " ++ value)

/-- The `IN (...)` condition text of `and_where_in`. -/
def inText (field : String) (list : List String) : String :=
  field ++ " IN (" ++ join ", " list ++ ")"

/-- The `NOT IN (...)` condition text of `and_where_not_in`. -/
def notInText (field : String) (list : List String) : String :=
  field ++ " NOT IN (" ++ join ", " list ++ ")"

def andWhereIn (b : SqlBuilder) (field : String) (list : List String) : SqlBuilder :=
  b.andWhere (inText field list)

def andWhereNotIn (b : SqlBuilder) (field : String) (list : List String) : SqlBuilder :=
  b.andWhere (notInText field list)

def andWhereIsNull (b : SqlBuilder) (field : String) : SqlBuilder :=
  b.andWhere (field ++ " IS NULL")

def andWhereIsNotNull (b : SqlBuilder) (field : String) : SqlBuilder :=
  b.andWhere (field ++ " IS NOT NULL")

/-- `SqlBuilder::and_where_like_left`: the escaped mask followed by `%`. -/
def andWhereLikeLeft (b : SqlBuilder) (field mask : String) : SqlBuilder :=
  b.andWhere (field ++ " LIKE '" ++ esc mask ++ "%'")

theorem isEmpty_of_ne {s : String} (nonempty : s ≠ "") : s.isEmpty = false := by
  rw [Bool.eq_false_iff, ne_eq, String.isEmpty_iff]
  exact nonempty

theorem andWhere_of_ne {cond : String} (b : SqlBuilder) (nonempty : cond ≠ "") :
    b.andWhere cond = ⟨b.wheres ++ [cond]⟩ := by
  simp [andWhere, isEmpty_of_ne nonempty]

/-- `or_where` right after an `and_where` joins the two conditions into one entry. -/
theorem orWhere_andWhere {a c : String} (b : SqlBuilder) (ha : a ≠ "") (hc : c ≠ "") :
    (b.andWhere a).orWhere c = ⟨b.wheres ++ [a ++ " OR " ++ c]⟩ := by
  simp [andWhere_of_ne b ha, orWhere, isEmpty_of_ne hc]

end SqlBuilder

/-- `SqlBuilder::make_wheres`: one condition is written bare; several are each put in
parentheses and joined by `AND`. -/
def makeWheres : List String → String
  | [] => ""
  | [w] => " WHERE " ++ w
  | w :: v :: ws => " WHERE " ++ join " AND " ((w :: v :: ws).map fun x => "(" ++ x ++ ")")

end Windmill.Sql
