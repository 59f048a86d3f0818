import Windmill.Sql.Builder
import Mathlib.Data.List.Sort

/-!
# Postgres triggers: the transaction types of a publication

`check_if_valid_transaction_type` (`postgres_triggers/handler.rs`) validates the
`transaction_to_track` list of a publication when a request is deserialized.  It refuses a list
of more than three entries.  It then sorts the list and drops repeated neighbours
(`sort_unstable`, `dedup`), and refuses the list if an entry does not lowercase to `insert`,
`update` or `delete`.  `update_pg_publication` joins the result with commas into the
`publish = '...'` parameter of its `ALTER PUBLICATION` and `CREATE PUBLICATION` statements.

The length is checked before the repeats are dropped, so four copies of `insert` are refused.
`dedup` compares entries as they are written, so `Insert` and `insert` are both kept.  What
holds is that the validator accepts exactly the lists of at most three entries that all
lowercase to an operation, and returns their distinct entries in increasing order.  Every entry
it returns is made of letters, so the `publish` text holds no apostrophe and splits back at its
commas into the entries.  The result is its own normal form: validated again, it comes back
unchanged.
-/

namespace Windmill.PostgresTriggers

open Windmill.Sql (join splitChars splitChars_join mem_join_data)

/-! ## The validator -/

/-- `str::to_lowercase`, on the test the validator makes with it.  Rust lowers by the Unicode
tables; this lowers the ASCII letters only.  The two agree on whether the result is `insert`,
`update` or `delete`.  The only characters outside ASCII whose lowercase holds an ASCII letter
are `İ`, which lowers to `i` and a combining dot outside ASCII, and the Kelvin sign, which
lowers to `k`, a letter none of the three words holds. -/
def toLowercase (s : String) : String := ⟨s.data.map Char.toLower⟩

/-- The operations a publication can track, lowercased. -/
def transactionTypes : List String := ["insert", "update", "delete"]

/-- The `match` on `transaction.to_lowercase()`: the three arms that accept. -/
def isTransactionType (transaction : String) : Bool :=
  match toLowercase transaction with
  | "insert" | "update" | "delete" => true
  | _ => false

/-- `Vec::dedup`: of each run of equal neighbours, the first is kept. -/
def dedup : List String → List String
  | a :: b :: rest => if a = b then dedup (b :: rest) else a :: dedup (b :: rest)
  | l => l

/-- The error for a list of more than three entries. -/
def tooManyTransactionTypes : String :=
  "More than 3 transaction type which is not authorized, you are only allowed to those 3 " ++
    "transaction types: Insert, Update and Delete"

/-- The error for an entry that is not an operation. -/
def invalidTransactionType : String :=
  "Only the following transaction types are allowed: Insert, Update and Delete (case insensitive)"

/-- `check_if_valid_transaction_type`, on the deserialized list.  `sort_unstable` orders strings
by their characters, as `List.insertionSort` does here; equal strings are identical, so the
order it leaves them in does not matter. -/
def checkIfValidTransactionType (transactionType : List String) : Except String (List String) :=
  if transactionType.length > 3 then .error tooManyTransactionTypes
  else
    let transactionType := dedup (transactionType.insertionSort (· ≤ ·))
    if transactionType.all isTransactionType then .ok transactionType
    else .error invalidTransactionType

/-- `transaction_to_track.iter().join(",")`: the value of the `publish` parameter. -/
def transactionToTrackAsStr (transactionToTrack : List String) : String :=
  join "," transactionToTrack

/-! ## Lowercasing -/

theorem isTransactionType_iff {transaction : String} :
    isTransactionType transaction = true ↔ toLowercase transaction ∈ transactionTypes := by
  unfold isTransactionType
  split <;> simp_all [transactionTypes]

/-- A character that lowercasing keeps and that no operation holds is in no entry that lowercases
to an operation. -/
theorem not_mem_of_transactionType {transaction : String} {c : Char}
    (valid : toLowercase transaction ∈ transactionTypes) (kept : c.toLower = c)
    (absent : ∀ t ∈ transactionTypes, c ∉ t.data) : c ∉ transaction.data := fun mem =>
  absent _ valid (kept ▸ List.mem_map_of_mem Char.toLower mem)

/-- An entry that lowercases to an operation holds no comma and no apostrophe. -/
theorem transactionType_plain {transaction : String}
    (valid : toLowercase transaction ∈ transactionTypes) :
    ',' ∉ transaction.data ∧ '\'' ∉ transaction.data :=
  ⟨not_mem_of_transactionType valid (by decide) (by decide),
    not_mem_of_transactionType valid (by decide) (by decide)⟩

/-! ## Sorting and dropping repeats -/

theorem mem_dedup {x : String} : ∀ {l : List String}, x ∈ dedup l ↔ x ∈ l
  | [] => Iff.rfl
  | [_] => Iff.rfl
  | a :: b :: rest => by
    have tail := @mem_dedup x (b :: rest)
    by_cases same : a = b
    · subst same
      simp [dedup, tail]
    · simp [dedup, same, tail]

theorem dedup_sublist : ∀ l : List String, (dedup l).Sublist l
  | [] => .slnil
  | [_] => List.Sublist.refl _
  | a :: b :: rest => by
    unfold dedup
    split
    · exact (dedup_sublist (b :: rest)).cons a
    · exact (dedup_sublist (b :: rest)).cons₂ a

/-- Dropping the repeats of a sorted list leaves it strictly increasing. -/
theorem dedup_pairwise_lt : ∀ {l : List String}, l.Pairwise (· ≤ ·) → (dedup l).Pairwise (· < ·)
  | [], _ => .nil
  | [a], _ => List.pairwise_singleton _ a
  | a :: b :: rest, sorted => by
    obtain ⟨below, sorted'⟩ := List.pairwise_cons.mp sorted
    have tail := dedup_pairwise_lt sorted'
    unfold dedup
    split
    · exact tail
    · rename_i differ
      have first : a < b := lt_of_le_of_ne (below b (List.mem_cons_self b rest)) differ
      refine List.pairwise_cons.mpr ⟨fun y mem => ?_, tail⟩
      rcases List.mem_cons.mp (mem_dedup.mp mem) with rfl | later
      · exact first
      · exact lt_of_lt_of_le first ((List.pairwise_cons.mp sorted').1 y later)

theorem mem_dedup_insertionSort {x : String} {xs : List String} :
    x ∈ dedup (xs.insertionSort (· ≤ ·)) ↔ x ∈ xs := by
  rw [mem_dedup, (List.perm_insertionSort _ xs).mem_iff]

theorem length_dedup_insertionSort_le (xs : List String) :
    (dedup (xs.insertionSort (· ≤ ·))).length ≤ xs.length :=
  (dedup_sublist _).length_le.trans (List.perm_insertionSort _ xs).length_eq.le

/-- A strictly increasing list has no repeats to drop. -/
theorem dedup_of_pairwise_lt : ∀ {l : List String}, l.Pairwise (· < ·) → dedup l = l
  | [], _ => rfl
  | [_], _ => rfl
  | a :: b :: rest, increasing => by
    obtain ⟨above, increasing'⟩ := List.pairwise_cons.mp increasing
    rw [dedup, if_neg (ne_of_lt (above b (List.mem_cons_self b rest))),
      dedup_of_pairwise_lt increasing']

/-- The validator's check of each entry holds exactly when every entry of the list lowercases
to an operation. -/
theorem all_isTransactionType_iff {xs : List String} :
    (dedup (xs.insertionSort (· ≤ ·))).all isTransactionType = true ↔
      ∀ x ∈ xs, toLowercase x ∈ transactionTypes := by
  simp only [List.all_eq_true, isTransactionType_iff, mem_dedup_insertionSort]

theorem checkIfValidTransactionType_eq_ok {xs ys : List String} :
    checkIfValidTransactionType xs = .ok ys ↔
      xs.length ≤ 3 ∧ (∀ x ∈ xs, toLowercase x ∈ transactionTypes) ∧
        ys = dedup (xs.insertionSort (· ≤ ·)) := by
  unfold checkIfValidTransactionType
  by_cases long : xs.length > 3
  · simp only [long, ↓reduceIte, reduceCtorEq, false_iff]
    omega
  · have short : xs.length ≤ 3 := by omega
    rw [if_neg long]
    by_cases types : ∀ x ∈ xs, toLowercase x ∈ transactionTypes
    · rw [if_pos (all_isTransactionType_iff.mpr types), Except.ok.injEq]
      exact ⟨fun found => ⟨short, types, found.symm⟩, fun ⟨_, _, found⟩ => found.symm⟩
    · rw [if_neg (mt all_isTransactionType_iff.mp types)]
      simp [types]

/-- Four copies of `insert` are refused, since the length is checked before the repeats are
dropped; and `Insert` and `insert` are both kept, since repeats are compared as written. -/
theorem checkIfValidTransactionType_counts_repeats :
    checkIfValidTransactionType ["insert", "insert", "insert", "insert"] =
        .error tooManyTransactionTypes ∧
      checkIfValidTransactionType ["Insert", "insert"] = .ok ["Insert", "insert"] :=
  ⟨rfl, by simp [checkIfValidTransactionType, List.insertionSort, List.orderedInsert, dedup,
    isTransactionType, toLowercase]⟩

/-- `check_if_valid_transaction_type` accepts exactly the lists of at most three entries that all
lowercase to an operation.  It returns their distinct entries in increasing order: at most
three, and each of them an entry of the list.  The comma join that `update_pg_publication` puts
in `publish = '...'` holds no apostrophe, and splits back at its commas into those entries. -/
theorem checkIfValidTransactionType_accepts (xs : List String) :
    ((∃ ys, checkIfValidTransactionType xs = .ok ys) ↔
      xs.length ≤ 3 ∧ ∀ x ∈ xs, toLowercase x ∈ transactionTypes) ∧
    ∀ ys, checkIfValidTransactionType xs = .ok ys →
      (∀ y, y ∈ ys ↔ y ∈ xs) ∧ ys.Pairwise (· < ·) ∧ ys.length ≤ 3 ∧
      '\'' ∉ (transactionToTrackAsStr ys).data ∧
      (ys ≠ [] → splitChars ',' (transactionToTrackAsStr ys).data = ys.map String.data) := by
  refine ⟨⟨fun ⟨_, ok⟩ => ?_, fun ⟨short, types⟩ => ?_⟩, fun ys ok => ?_⟩
  · obtain ⟨short, types, -⟩ := checkIfValidTransactionType_eq_ok.mp ok
    exact ⟨short, types⟩
  · exact ⟨_, checkIfValidTransactionType_eq_ok.mpr ⟨short, types, rfl⟩⟩
  · obtain ⟨short, types, rfl⟩ := checkIfValidTransactionType_eq_ok.mp ok
    have plain : ∀ y ∈ dedup (xs.insertionSort (· ≤ ·)), ',' ∉ y.data ∧ '\'' ∉ y.data :=
      fun y mem => transactionType_plain (types y (mem_dedup_insertionSort.mp mem))
    refine ⟨fun _ => mem_dedup_insertionSort, dedup_pairwise_lt (List.sorted_insertionSort _ xs),
      (length_dedup_insertionSort_le xs).trans short, fun mem => ?_,
      fun nonempty => splitChars_join nonempty fun y mem => (plain y mem).1⟩
    rcases mem_join_data mem with mem | ⟨y, inResult, mem⟩
    · exact absurd mem (by decide)
    · exact (plain y inResult).2 mem

/-- `update` and `Insert` are accepted, sorted, and both kept. -/
theorem checkIfValidTransactionType_accepts_update_insert :
    ((∃ ys, checkIfValidTransactionType ["update", "Insert"] = .ok ys) ↔
      ["update", "Insert"].length ≤ 3 ∧
        ∀ x ∈ ["update", "Insert"], toLowercase x ∈ transactionTypes) ∧
    checkIfValidTransactionType ["update", "Insert"] = .ok ["Insert", "update"] ∧
    (∀ y, y ∈ ["Insert", "update"] ↔ y ∈ ["update", "Insert"]) ∧
      ["Insert", "update"].Pairwise (· < ·) ∧ ["Insert", "update"].length ≤ 3 ∧
      '\'' ∉ (transactionToTrackAsStr ["Insert", "update"]).data ∧
      (["Insert", "update"] ≠ [] →
        splitChars ',' (transactionToTrackAsStr ["Insert", "update"]).data =
          ["Insert", "update"].map String.data) :=
  have ok : checkIfValidTransactionType ["update", "Insert"] = .ok ["Insert", "update"] := by
    simp [checkIfValidTransactionType, List.insertionSort, List.orderedInsert, dedup,
      isTransactionType, toLowercase]
  have accepts := checkIfValidTransactionType_accepts ["update", "Insert"]
  ⟨accepts.1, ok, accepts.2 _ ok⟩

/-! ## Validating again -/

/-- The validator's result passes it again unchanged: a list of transaction types read back from
a publication and sent again is accepted as it is. -/
theorem checkIfValidTransactionType_idempotent {xs ys : List String}
    (ok : checkIfValidTransactionType xs = .ok ys) : checkIfValidTransactionType ys = .ok ys := by
  obtain ⟨short, types, rfl⟩ := checkIfValidTransactionType_eq_ok.mp ok
  have increasing := dedup_pairwise_lt (List.sorted_insertionSort (· ≤ ·) xs)
  refine checkIfValidTransactionType_eq_ok.mpr ⟨(length_dedup_insertionSort_le xs).trans short,
    fun y mem => types y (mem_dedup_insertionSort.mp mem), ?_⟩
  rw [List.Sorted.insertionSort_eq (increasing.imp le_of_lt), dedup_of_pairwise_lt increasing]

theorem checkIfValidTransactionType_idempotent_update_insert :
    checkIfValidTransactionType ["Insert", "update"] = .ok ["Insert", "update"] :=
  @checkIfValidTransactionType_idempotent ["update", "Insert"] _
    (by simp [checkIfValidTransactionType, List.insertionSort, List.orderedInsert, dedup,
      isTransactionType, toLowercase])

end Windmill.PostgresTriggers
