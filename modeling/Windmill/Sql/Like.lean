import Mathlib.Data.List.Infix
import Windmill.Sql.Builder

/-!
# `LIKE` patterns and globs

PostgreSQL's `LIKE` with its default escape character: `%` matches any sequence, `_` any one
character, and `\` makes the character after it literal; a pattern that ends in an unpaired `\`
is an error.  Against it, the reading the job filters promise their users: `globMatch`, where `*`
matches any sequence and every other character only itself.

`likeMatch_starToPercent` is what the wildcard filters get right: for a value with none of
`%`, `_` and `\`, the pattern they build (`*` turned into `%`) matches exactly what the glob
matches.  Without that hypothesis the two part, as `likeMatch` on `a_c` shows.
-/

namespace Windmill.Sql

/-- PostgreSQL `LIKE`, by recursion on the pattern. -/
def likeMatch : List Char → List Char → Bool
  | [], s => s.isEmpty
  | '%' :: p, s => s.tails.any (likeMatch p)
  | '_' :: p, s =>
    match s with
    | [] => false
    | _ :: s => likeMatch p s
  | '\\' :: c :: p, s =>
    match s with
    | [] => false
    | d :: s => c == d && likeMatch p s
  | c :: p, s =>
    match s with
    | [] => false
    | d :: s => c == d && likeMatch p s

/-- A pattern PostgreSQL accepts: it does not end in an unpaired escape character. -/
def likeValid : List Char → Bool
  | [] => true
  | ['\\'] => false
  | '\\' :: _ :: p => likeValid p
  | _ :: p => likeValid p

/-- A pattern ending in `%` is always accepted: the `%` is either escaped or a wildcard. -/
theorem likeValid_append_percent : ∀ v : List Char, likeValid (v ++ ['%']) = true
  | [] => rfl
  | c :: p => by
    by_cases escape : c = '\\'
    · subst escape
      cases p with
      | nil => rfl
      | cons d q => simpa [likeValid] using likeValid_append_percent q
    · simpa [likeValid, escape] using likeValid_append_percent p

/-- A value read as a glob: `*` matches any sequence, every other character only itself. -/
def globMatch : List Char → List Char → Bool
  | [], s => s.isEmpty
  | '*' :: p, s => s.tails.any (globMatch p)
  | c :: p, s =>
    match s with
    | [] => false
    | d :: s => c == d && globMatch p s

/-- `v.replace("*", "%")`. -/
def starToPercent (v : List Char) : List Char := replaceChars '*' ['%'] v

/-- None of the three characters `LIKE` reads specially. -/
def NoLikeMeta (v : List Char) : Prop := '%' ∉ v ∧ '_' ∉ v ∧ '\\' ∉ v

instance (v : List Char) : Decidable (NoLikeMeta v) :=
  inferInstanceAs (Decidable ('%' ∉ v ∧ '_' ∉ v ∧ '\\' ∉ v))

theorem NoLikeMeta.tail {c : Char} {v : List Char} (h : NoLikeMeta (c :: v)) : NoLikeMeta v :=
  ⟨fun m => h.1 (List.mem_cons_of_mem c m), fun m => h.2.1 (List.mem_cons_of_mem c m),
    fun m => h.2.2 (List.mem_cons_of_mem c m)⟩

/-- A literal character of the pattern matches only itself. -/
theorem likeMatch_cons_plain {c : Char} (p s : List Char) (h1 : c ≠ '%') (h2 : c ≠ '_')
    (h3 : c ≠ '\\') :
    likeMatch (c :: p) s = match s with
      | [] => false
      | d :: s => c == d && likeMatch p s := by
  cases s <;> simp [likeMatch, h1, h2, h3]

/-- The wildcard filters' pattern matches what the value matches as a glob. -/
theorem likeMatch_starToPercent : ∀ {v : List Char}, NoLikeMeta v →
    ∀ s, likeMatch (starToPercent v) s = globMatch v s
  | [], _, s => rfl
  | c :: v, h, s => by
    have ih := likeMatch_starToPercent h.tail
    by_cases hstar : c = '*'
    · subst hstar
      have unfolded : starToPercent ('*' :: v) = '%' :: starToPercent v := by
        simp [starToPercent]
      rw [unfolded, likeMatch, globMatch, funext ih]
    · have h1 : c ≠ '%' := fun e => h.1 (e ▸ List.mem_cons_self c v)
      have h2 : c ≠ '_' := fun e => h.2.1 (e ▸ List.mem_cons_self c v)
      have h3 : c ≠ '\\' := fun e => h.2.2 (e ▸ List.mem_cons_self c v)
      have unfolded : starToPercent (c :: v) = c :: starToPercent v := by
        simp [starToPercent, hstar]
      rw [unfolded, likeMatch_cons_plain _ _ h1 h2 h3]
      cases s <;> simp [globMatch, hstar, ih]

/-- Without `*`, a glob matches only the value itself. -/
theorem globMatch_eq_of_not_star : ∀ {v : List Char}, '*' ∉ v → ∀ s, globMatch v s = (v == s)
  | [], _, s => by cases s <;> rfl
  | c :: v, h, s => by
    have hc : c ≠ '*' := fun e => h (e ▸ List.mem_cons_self c v)
    have ih := globMatch_eq_of_not_star (fun m => h (List.mem_cons_of_mem c m))
    cases s with
    | nil => simp [globMatch, hc]
    | cons d s => simp [globMatch, hc, ih, List.cons_beq_cons]

/-- A pattern without `%`, `_`, `\` or `*` matches only the value itself. -/
theorem likeMatch_eq_of_plain {v : List Char} (h : NoLikeMeta v) (hstar : '*' ∉ v) (s : List Char) :
    likeMatch v s = (v == s) := by
  have same : starToPercent v = v := replaceChars_of_not_mem hstar
  calc likeMatch v s = likeMatch (starToPercent v) s := by rw [same]
    _ = globMatch v s := likeMatch_starToPercent h s
    _ = (v == s) := globMatch_eq_of_not_star hstar s

/-- `'v%'` for a value without `%`, `_` and `\` matches exactly the strings `v` begins. -/
theorem likeMatch_prefix : ∀ {v : List Char}, NoLikeMeta v →
    ∀ s, likeMatch (v ++ ['%']) s = v.isPrefixOf s
  | [], _, s => by
    simp only [List.nil_append, likeMatch, List.isPrefixOf, List.any_eq_true]
    exact ⟨[], by simp [List.mem_tails], rfl⟩
  | c :: v, h, s => by
    have h1 : c ≠ '%' := fun e => h.1 (e ▸ List.mem_cons_self c v)
    have h2 : c ≠ '_' := fun e => h.2.1 (e ▸ List.mem_cons_self c v)
    have h3 : c ≠ '\\' := fun e => h.2.2 (e ▸ List.mem_cons_self c v)
    rw [List.cons_append, likeMatch_cons_plain _ _ h1 h2 h3]
    cases s with
    | nil => rfl
    | cons d s => simp [List.isPrefixOf, likeMatch_prefix h.tail s]

/-- A value without `\` gives a pattern PostgreSQL accepts. -/
theorem likeValid_of_not_backslash : ∀ {v : List Char}, '\\' ∉ v → likeValid v = true
  | [], _ => rfl
  | [c], h => by
    have : c ≠ '\\' := fun e => h (e ▸ List.mem_singleton_self c)
    simp [likeValid, this]
  | c :: d :: v, h => by
    have hc : c ≠ '\\' := fun e => h (e ▸ List.mem_cons_self c _)
    have ih := likeValid_of_not_backslash (v := d :: v) (fun m => h (List.mem_cons_of_mem c m))
    simp [likeValid, hc, ih]

end Windmill.Sql
