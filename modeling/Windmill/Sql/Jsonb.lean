import Windmill.Sql.Like

/-!
# The jsonb operators the label filters use

A completed job's `result` is a jsonb value, and its labels are the array under the key
`wm_labels`.  The label filters read it with four operators: `->` (the value under a key),
`?` (whether a string is a top-level key or element), `jsonb_typeof(...) = 'array'`, and
`jsonb_array_elements_text`, which gives each element as text.  This module models the values
and those operators as PostgreSQL defines them, and `labelsLike`, the truth of the `EXISTS`
subquery of the wildcard label filter.
-/

namespace Windmill.Sql

/-- A jsonb value; a number is kept as its canonical text. -/
inductive Json where
  | null
  | bool (b : Bool)
  | num (text : String)
  | str (s : String)
  | arr (xs : List Json)
  | obj (kvs : List (String × Json))
  deriving Repr

namespace Json

/-- A jsonb string's characters as the text output escapes them. -/
def escapeChar (c : Char) : List Char :=
  if c = '"' then ['\\', '"']
  else if c = '\\' then ['\\', '\\']
  else if c = '\n' then ['\\', 'n']
  else if c = '\r' then ['\\', 'r']
  else if c = '\t' then ['\\', 't']
  else if c = '\x08' then ['\\', 'b']
  else if c = '\x0c' then ['\\', 'f']
  else if c.toNat < 0x20 then
    ['\\', 'u', '0', '0', Nat.digitChar (c.toNat / 16), Nat.digitChar (c.toNat % 16)]
  else [c]

def quoteStr (s : String) : String := ⟨'"' :: (s.data.flatMap escapeChar ++ ['"'])⟩

mutual
/-- The text output of a jsonb value. -/
def render : Json → String
  | .null => "null"
  | .bool b => if b then "true" else "false"
  | .num t => t
  | .str s => quoteStr s
  | .arr xs => "[" ++ renderElems xs ++ "]"
  | .obj kvs => "\x7b" ++ renderFields kvs ++ "\x7d"
def renderElems : List Json → String
  | [] => ""
  | [x] => render x
  | x :: y :: xs => render x ++ ", " ++ renderElems (y :: xs)
def renderFields : List (String × Json) → String
  | [] => ""
  | [(k, v)] => quoteStr k ++ ": " ++ render v
  | (k, v) :: kv :: kvs => quoteStr k ++ ": " ++ render v ++ ", " ++ renderFields (kv :: kvs)
end

/-- `j -> key`: the value under `key` of an object, SQL NULL for anything else. -/
def get : Json → String → Option Json
  | .obj kvs, k => kvs.lookup k
  | _, _ => none

/-- Whether a jsonb value is the string `k`. -/
def isStr : Json → String → Bool
  | .str s, k => s == k
  | _, _ => false

/-- `j ? k`: `k` is a key of an object, a string element of an array, or the string itself. -/
def hasKey : Json → String → Bool
  | .obj kvs, k => kvs.any fun kv => kv.1 == k
  | .arr xs, k => xs.any fun x => x.isStr k
  | .str s, k => s == k
  | _, _ => false

/-- One element as `jsonb_array_elements_text` gives it: a string without its quotes, JSON
`null` as SQL NULL, anything else as its text output. -/
def elemText : Json → Option String
  | .null => none
  | .str s => some s
  | j => some j.render

end Json

/-- The truth of `EXISTS (SELECT 1 FROM jsonb_array_elements_text(l) lbl WHERE
jsonb_typeof(l) = 'array' AND lbl LIKE p)` for the labels value `l`.  The type test does not
depend on `lbl`, so PostgreSQL evaluates it once and reads no element of a non-array; for
SQL NULL, `jsonb_array_elements_text` gives no row. -/
def labelsLike (l : Option Json) (p : List Char) : Bool :=
  match l with
  | some (.arr xs) => xs.any fun x =>
    match x.elemText with
    | some t => likeMatch p t.data
    | none => false
  | _ => false

/-- The labels are absent, JSON `null`, or an array of strings: the shape `wm_labels` is
written in. -/
def LabelsWellFormed : Option Json → Prop
  | none => True
  | some .null => True
  | some (.arr xs) => ∀ x ∈ xs, ∃ s, x = .str s
  | some _ => False

/-- On an array of strings, the `LIKE` subquery with a plain pattern is the `?` test. -/
theorem labelsLike_eq_hasKey {v : List Char} (plain : NoLikeMeta v) (noStar : '*' ∉ v) :
    ∀ {xs : List Json}, (∀ x ∈ xs, ∃ s, x = .str s) →
      labelsLike (some (.arr xs)) v = (Json.arr xs).hasKey ⟨v⟩
  | [], _ => rfl
  | x :: xs, strings => by
    obtain ⟨s, rfl⟩ := strings x (List.mem_cons_self x xs)
    have tail := labelsLike_eq_hasKey plain noStar
      (fun y hy => strings y (List.mem_cons_of_mem _ hy))
    simp only [labelsLike, Json.hasKey, List.any_cons, Json.elemText] at tail ⊢
    have same : (v == s.data) = (s == ⟨v⟩) := by
      cases s with
      | mk cs =>
        by_cases h : v = cs
        · simp [h]
        · have ne : String.mk cs ≠ String.mk v := fun e => h (congrArg String.data e).symm
          simp [h, ne]
    rw [tail, likeMatch_eq_of_plain plain noStar, same]
    rfl

end Windmill.Sql
