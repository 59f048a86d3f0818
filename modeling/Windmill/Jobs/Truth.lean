import Windmill.Jobs.Filters

/-!
# Truth of the filters' connectives

The builders join the clauses of a filter with `OR` or `AND` (`Cond.orList`, `Cond.andList`) and
wrap groups in parentheses.  This module evaluates those joins once, for a list of clauses built
value by value: when every clause has a truth value the join is `any` or `all` of them, when
every clause is unknown (a NULL column) so is the join, and two joins whose clauses agree one by
one agree.  PostgreSQL accepts a join when it is not empty and accepts each clause.
-/

namespace Windmill.Jobs

open Windmill.Sql

@[simp] theorem sqlAnd_some (a b : Bool) : sqlAnd (some a) (some b) = some (a && b) := by
  cases a <;> cases b <;> rfl

@[simp] theorem sqlOr_some (a b : Bool) : sqlOr (some a) (some b) = some (a || b) := by
  cases a <;> cases b <;> rfl

@[simp] theorem sqlOr_true (b : Option Bool) : sqlOr (some true) b = some true := by
  rcases b with _ | _ | _ <;> rfl

namespace Cond

variable {r : Row} {α : Type} (f : α → Cond)

theorem eval_orList_map {g : α → Bool} : ∀ {xs : List α}, xs ≠ [] →
    (∀ x ∈ xs, (f x).eval r = some (g x)) → (orList (xs.map f)).eval r = some (xs.any g)
  | [], nonempty, _ => absurd rfl nonempty
  | [x], _, evals => by simp [orList, evals x (List.mem_singleton_self x)]
  | x :: y :: xs, _, evals => by
    rw [List.map_cons, List.map_cons, orList, eval, evals x (List.mem_cons_self x _), ← List.map_cons,
      eval_orList_map (List.cons_ne_nil y xs) fun z hz => evals z (List.mem_cons_of_mem x hz)]
    simp

theorem eval_andList_map {g : α → Bool} : ∀ {xs : List α}, xs ≠ [] →
    (∀ x ∈ xs, (f x).eval r = some (g x)) → (andList (xs.map f)).eval r = some (xs.all g)
  | [], nonempty, _ => absurd rfl nonempty
  | [x], _, evals => by simp [andList, evals x (List.mem_singleton_self x)]
  | x :: y :: xs, _, evals => by
    rw [List.map_cons, List.map_cons, andList, eval, evals x (List.mem_cons_self x _), ← List.map_cons,
      eval_andList_map (List.cons_ne_nil y xs) fun z hz => evals z (List.mem_cons_of_mem x hz)]
    simp

theorem eval_orList_unknown : ∀ {xs : List α}, (∀ x ∈ xs, (f x).eval r = none) →
    (orList (xs.map f)).eval r = none
  | [], _ => rfl
  | [x], unknown => unknown x (List.mem_singleton_self x)
  | x :: y :: xs, unknown => by
    rw [List.map_cons, List.map_cons, orList, eval, unknown x (List.mem_cons_self x _), ← List.map_cons,
      eval_orList_unknown fun z hz => unknown z (List.mem_cons_of_mem x hz)]
    rfl

theorem eval_andList_unknown : ∀ {xs : List α}, (∀ x ∈ xs, (f x).eval r = none) →
    (andList (xs.map f)).eval r = none
  | [], _ => rfl
  | [x], unknown => unknown x (List.mem_singleton_self x)
  | x :: y :: xs, unknown => by
    rw [List.map_cons, List.map_cons, andList, eval, unknown x (List.mem_cons_self x _), ← List.map_cons,
      eval_andList_unknown fun z hz => unknown z (List.mem_cons_of_mem x hz)]
    rfl

theorem eval_orList_congr (g : α → Cond) : ∀ {xs : List α},
    (∀ x ∈ xs, (f x).eval r = (g x).eval r) →
      (orList (xs.map f)).eval r = (orList (xs.map g)).eval r
  | [], _ => rfl
  | [x], same => same x (List.mem_singleton_self x)
  | x :: y :: xs, same => by
    rw [List.map_cons, List.map_cons, List.map_cons, List.map_cons, orList, orList, eval, eval,
      same x (List.mem_cons_self x _), ← List.map_cons, ← List.map_cons,
      eval_orList_congr g fun z hz => same z (List.mem_cons_of_mem x hz)]

theorem eval_andList_congr (g : α → Cond) : ∀ {xs : List α},
    (∀ x ∈ xs, (f x).eval r = (g x).eval r) →
      (andList (xs.map f)).eval r = (andList (xs.map g)).eval r
  | [], _ => rfl
  | [x], same => same x (List.mem_singleton_self x)
  | x :: y :: xs, same => by
    rw [List.map_cons, List.map_cons, List.map_cons, List.map_cons, andList, andList, eval, eval,
      same x (List.mem_cons_self x _), ← List.map_cons, ← List.map_cons,
      eval_andList_congr g fun z hz => same z (List.mem_cons_of_mem x hz)]

@[simp] theorem eval_paren (a : Cond) : (paren a).eval r = a.eval r := rfl

@[simp] theorem valid_paren (a : Cond) : (paren a).valid = a.valid := rfl

theorem valid_orList : ∀ cs : List Cond, (orList cs).valid = (!cs.isEmpty && cs.all valid)
  | [] => rfl
  | [c] => by simp [orList]
  | c :: d :: cs => by simp [orList, valid, valid_orList (d :: cs)]

theorem valid_andList : ∀ cs : List Cond, (andList cs).valid = (!cs.isEmpty && cs.all valid)
  | [] => rfl
  | [c] => by simp [andList]
  | c :: d :: cs => by simp [andList, valid, valid_andList (d :: cs)]

end Cond

@[simp] theorem selects_singleton {c : Cond} {r : Row} :
    Selects [c] r ↔ c.valid = true ∧ c.eval r = some true := by
  simp [Selects]

@[simp] theorem selects_nil {r : Row} : Selects [] r := fun _ h => nomatch h

/-- The WHERE clause is a conjunction: two lists of entries select a row together. -/
theorem selects_append {cs ds : List Cond} {r : Row} :
    Selects (cs ++ ds) r ↔ Selects cs r ∧ Selects ds r :=
  List.forall_mem_append

/-- An `if let Some` block whose conditions select the same rows for each value. -/
theorem selects_someConds_congr {α : Type} {field : Option α} {conds conds' : α → List Cond}
    {r : Row} (same : ∀ x ∈ field, Selects (conds x) r ↔ Selects (conds' x) r) :
    Selects (someConds field conds) r ↔ Selects (someConds field conds') r := by
  cases field with
  | none => rfl
  | some x => exact same x rfl


/-- The row with every column NULL, from which the concrete rows below are built. -/
def Row.null : Row := ⟨fun _ => none, fun _ => none, fun _ _ _ => none, fun _ _ => none⟩

/-- The row with the given scalar columns set and every other column NULL. -/
def Row.withValues (values : List (Column × String)) : Row :=
  { Row.null with value := fun c => values.lookup c }

end Windmill.Jobs
