import Windmill.Jobs.Truth
import Windmill.Jobs.Scoping
import Windmill.PostgresTriggers.Handler

/-!
# Wildcard filters against exact filters

With `allow_wildcards`, the worker, tag and label filters turn each value into a `LIKE` pattern
(`*` becomes `%`); without it they compare values exactly.  For a value with none of `*`, `%`,
`_` and `\` (`PlainValue`) the pattern matches only the value itself, so the two forms should
select the same rows.  They do for the worker and tag filters.  The label filters differ in how
they read `wm_labels`: the exact form asks `?`, which also looks into an object, while the
`LIKE` form reads only an array; and the negated exact form is unknown, not true, for a job
without labels.  On the listings themselves, the other blocks of the WHERE clause do not read
`allow_wildcards`, so the two forms of a whole request select the same jobs wherever the three
filters agree (`listJobs_wildcards_agree`).
-/

namespace Windmill.Jobs

open Windmill.Sql

/-- A filter value without `*`, `%`, `_` and `\`: the wildcard filters read it literally. -/
def PlainValue (v : String) : Prop := NoLikeMeta v.data ∧ '*' ∉ v.data

instance (v : String) : Decidable (PlainValue v) :=
  inferInstanceAs (Decidable (NoLikeMeta v.data ∧ '*' ∉ v.data))

theorem starPattern_of_plain {v : String} (plain : PlainValue v) : starPattern v = v :=
  String.ext (replaceChars_of_not_mem plain.2)

theorem likeMatch_star_of_plain {v : String} (plain : PlainValue v) (x : String) :
    likeMatch (starPattern v).data x.data = (x == v) := by
  rw [starPattern_of_plain plain, likeMatch_eq_of_plain plain.1 plain.2]
  by_cases same : x = v
  · subst same; simp
  · have : v.data ≠ x.data := fun e => same (String.ext e).symm
    simp [same, this]

theorem likeValid_star_of_plain {v : String} (plain : PlainValue v) :
    likeValid (starPattern v).data = true := by
  rw [starPattern_of_plain plain]
  exact likeValid_of_not_backslash plain.1.2.2

section Plain

variable {vs : List String} (plain : ∀ v ∈ vs, PlainValue v) (c : Column) (r : Row)
include plain

/-- On plain values the `LIKE` alternatives read as the `IN` list. -/
theorem eval_likes (nonempty : vs ≠ []) :
    (Cond.orList (vs.map fun v => .like c (starPattern v))).eval r = (Cond.inList c vs).eval r := by
  cases value : r.value c with
  | none =>
    rw [Cond.eval_orList_unknown _ fun v _ => by simp [Cond.eval, value]]
    simp [Cond.eval, value]
  | some x =>
    rw [Cond.eval_orList_map _ nonempty (g := fun v => x == v)
      fun v hv => by simp [Cond.eval, value, likeMatch_star_of_plain (plain v hv)]]
    simp only [Cond.eval, value, Option.map_some', List.contains_eq_any_beq]

/-- On plain values the `NOT LIKE` conjunction reads as the `NOT IN` list. -/
theorem eval_notLikes (nonempty : vs ≠ []) :
    (Cond.andList (vs.map fun v => .notLike c (starPattern v))).eval r =
      (Cond.notInList c vs).eval r := by
  cases value : r.value c with
  | none =>
    rw [Cond.eval_andList_unknown _ fun v _ => by simp [Cond.eval, value]]
    simp [Cond.eval, value]
  | some x =>
    rw [Cond.eval_andList_map _ nonempty (g := fun v => !(x == v))
      fun v hv => by simp [Cond.eval, value, likeMatch_star_of_plain (plain v hv)]]
    simp only [Cond.eval, value, Option.map_some', List.contains_eq_any_beq,
      List.all_eq_not_any_not, Bool.not_not]

theorem valid_likes : (vs.map fun v => Cond.like c (starPattern v)).all Cond.valid = true := by
  simpa [Cond.valid] using fun v hv => likeValid_star_of_plain (plain v hv)

theorem valid_notLikes :
    (vs.map fun v => Cond.notLike c (starPattern v)).all Cond.valid = true := by
  simpa [Cond.valid] using fun v hv => likeValid_star_of_plain (plain v hv)

theorem selects_likes_iff :
    Selects [.paren (Cond.orList (vs.map fun v => .like c (starPattern v)))] r ↔
      Selects [.inList c vs] r := by
  by_cases empty : vs = []
  · subst empty
    simp [Cond.valid, Cond.orList]
  · simp [Cond.valid, Cond.valid_orList, valid_likes plain, eval_likes plain c r empty, empty]

theorem selects_notLikes_iff :
    Selects [.paren (Cond.andList (vs.map fun v => .notLike c (starPattern v)))] r ↔
      Selects [.notInList c vs] r := by
  by_cases empty : vs = []
  · subst empty
    simp [Cond.valid, Cond.andList]
  · simp [Cond.valid, Cond.valid_andList, valid_notLikes plain, eval_notLikes plain c r empty, empty]

theorem selects_nullableNotLikes_iff :
    Selects [.paren (.or (.isNull c)
        (.paren (Cond.andList (vs.map fun v => .notLike c (starPattern v)))))] r ↔
      Selects [.notInNullable c vs] r := by
  by_cases empty : vs = []
  · subst empty
    simp [Cond.valid, Cond.andList]
  · have same : (Cond.notInNullable c vs).eval r =
        sqlOr (some (r.value c).isNone) ((Cond.notInList c vs).eval r) := rfl
    simp [Cond.valid, Cond.valid_andList, valid_notLikes plain, Cond.eval,
      eval_notLikes plain c r empty, empty, same]


end Plain

theorem workerCond_wildcard_iff (c : Column) {f : NegatedListFilter}
    (plain : ∀ v ∈ f.values, PlainValue v) (r : Row) :
    Selects [workerCond c (some true) f] r ↔ Selects [workerCond c none f] r := by
  obtain ⟨vs, negated⟩ := f
  cases negated
  · simpa [workerCond, nullableLikeCond, nullableInCond, likeJoin, likeConds] using
      selects_likes_iff plain c r
  · simpa [workerCond, nullableLikeCond, nullableInCond, likeJoin, likeConds] using
      selects_nullableNotLikes_iff plain c r

theorem tagCond_wildcard_iff {f : NegatedListFilter} (plain : ∀ v ∈ f.values, PlainValue v)
    (r : Row) : Selects [tagCond (some true) f] r ↔ Selects [tagCond none f] r := by
  obtain ⟨vs, negated⟩ := f
  cases negated
  · simpa [tagCond, inCond, likeJoin, likeConds] using selects_likes_iff plain .jobTag r
  · simpa [tagCond, inCond, likeJoin, likeConds] using selects_notLikes_iff plain .jobTag r


/-- On labels in the shape they are written in, the wildcard test of a plain value is the `?`
test. -/
theorem labelsLike_of_wellFormed {j : Json} (wellFormed : LabelsWellFormed (some j)) {v : String}
    (plain : PlainValue v) : labelsLike (some j) (starPattern v).data = j.hasKey v := by
  rw [starPattern_of_plain plain]
  cases j with
  | null => rfl
  | arr xs => exact labelsLike_eq_hasKey plain.1 plain.2 wellFormed
  | _ => exact wellFormed.elim

theorem labelConds_wildcard_iff {f : NegatedListFilter} (plain : ∀ v ∈ f.values, PlainValue v)
    {r : Row} (wellFormed : LabelsWellFormed r.labels) (present : f.negated = true → r.labels ≠ none) :
    Selects (labelConds (some true) f) r ↔ Selects (labelConds none f) r := by
  obtain ⟨vs, negated⟩ := f
  cases labels : r.labels with
  | none =>
    cases negated
    · have wild : (Cond.orList (vs.map fun v => .labelLike (starPattern v))).eval r ≠ some true := by
        by_cases empty : vs = []
        · subst empty
          simp [Cond.orList, Cond.eval]
        · rw [Cond.eval_orList_map _ empty (g := fun _ => false)
            fun v _ => by simp [Cond.eval, labels, labelsLike]]
          simp
      have exact : (Cond.orList (vs.map Cond.labelHas)).eval r = none :=
        Cond.eval_orList_unknown _ fun v _ => by simp [Cond.eval, labels]
      simp [labelConds, likeJoin, Selects, wild, exact]
    · exact absurd labels (present rfl)
  | some j =>
    have same : ∀ v ∈ vs, (Cond.labelLike (starPattern v)).eval r = (Cond.labelHas v).eval r :=
      fun v hv => by
        simp [Cond.eval, labels, labelsLike_of_wellFormed (labels ▸ wellFormed) (plain v hv)]
    have valid : ∀ v ∈ vs, likeValid (starPattern v).data = true :=
      fun v hv => likeValid_star_of_plain (plain v hv)
    cases negated
    · have evals := Cond.eval_orList_congr _ Cond.labelHas same
      have allValid : (vs.map fun v => Cond.labelLike (starPattern v)).all Cond.valid = true := by
        simpa [Cond.valid] using valid
      simp [labelConds, likeJoin, Selects, evals, Cond.valid_orList, allValid, Cond.valid]
    · have allValid :
          (vs.map fun v => Cond.not (.labelLike (starPattern v))).all Cond.valid = true := by
        simpa [Cond.valid] using valid
      have evals : (Cond.andList (vs.map fun v => .not (.labelLike (starPattern v)))).eval r =
          (Cond.andList (vs.map fun v => .not (.paren (.labelHas v)))).eval r :=
        Cond.eval_andList_congr _ _ fun v hv => congrArg (Option.map (!·)) (same v hv)
      simp [labelConds, likeJoin, Selects, evals, Cond.valid_andList, allValid, Cond.valid]


/-! ## The claims on the two forms -/

/-- A completed job whose `wm_labels` is the object `{"deploy": true}`. -/
def objectLabelsRow : Row :=
  { Row.null with
    json := fun c =>
      if c = .result then some (.obj [("wm_labels", .obj [("deploy", .bool true)])]) else none }

/-- The exact label filter selects that job for `deploy`, the wildcard filter does not. -/
theorem label_wildcard_differs_on_object_labels :
    Selects (labelConds none ⟨["deploy"], false⟩) objectLabelsRow ∧
      ¬Selects (labelConds (some true) ⟨["deploy"], false⟩) objectLabelsRow := by
  decide

/-- With plain values, the wildcard and the exact filters select the same rows: the worker
filter on either builder's column and the tag filter on every row, the label filter on rows
whose labels are in the shape they are written in and, when negated, present. -/
theorem wildcard_agrees_with_exact {f : NegatedListFilter}
    (plain : ∀ v ∈ f.values, PlainValue v) (r : Row) :
    (∀ c : Column, Selects [workerCond c (some true) f] r ↔ Selects [workerCond c none f] r) ∧
    (Selects [tagCond (some true) f] r ↔ Selects [tagCond none f] r) ∧
    (LabelsWellFormed r.labels → (f.negated = true → r.labels ≠ none) →
      (Selects (labelConds (some true) f) r ↔ Selects (labelConds none f) r)) :=
  ⟨fun c => workerCond_wildcard_iff c plain r, tagCond_wildcard_iff plain r,
    fun wellFormed present => labelConds_wildcard_iff plain wellFormed present⟩

/-- A job run by worker `w1` with tag `gpu`, whose result labels it `staging`. -/
def stagingRow : Row :=
  { Row.withValues [(.queueWorker, "w1"), (.completedWorker, "w1"), (.jobTag, "gpu")] with
    json := fun c => if c = .result then some (.obj [("wm_labels", .arr [.str "staging"])]) else none }

/-- The negated filter `!deploy,!gpu` on that job: both forms keep it for its worker and its
labels, and both drop it for its tag. -/
theorem wildcard_agrees_with_exact_staging :
    Selects [workerCond .queueWorker none ⟨["deploy", "gpu"], true⟩] stagingRow ∧
    ¬Selects [tagCond none ⟨["deploy", "gpu"], true⟩] stagingRow ∧
    Selects (labelConds none ⟨["deploy", "gpu"], true⟩) stagingRow ∧
    (∀ c : Column, Selects [workerCond c (some true) ⟨["deploy", "gpu"], true⟩] stagingRow ↔
      Selects [workerCond c none ⟨["deploy", "gpu"], true⟩] stagingRow) ∧
    (Selects [tagCond (some true) ⟨["deploy", "gpu"], true⟩] stagingRow ↔
      Selects [tagCond none ⟨["deploy", "gpu"], true⟩] stagingRow) ∧
    (Selects (labelConds (some true) ⟨["deploy", "gpu"], true⟩) stagingRow ↔
      Selects (labelConds none ⟨["deploy", "gpu"], true⟩) stagingRow) :=
  have agree := wildcard_agrees_with_exact (f := ⟨["deploy", "gpu"], true⟩) (by decide) stagingRow
  ⟨by decide, by decide, by decide, agree.1, agree.2.1,
    agree.2.2 (fun _ mem => ⟨"staging", List.mem_singleton.mp mem⟩) (fun _ => nofun)⟩

/-- `_` in a value matches any one character: the tag wildcard filter for `a_c` selects the tag
`abc`, which the glob `a_c` does not match, and the prefix filters of the job listings and of
the trigger listing for `f/a_` select `f/ab`, which does not start with `f/a_`. -/
theorem underscore_matches_any_character :
    Selects [tagCond (some true) ⟨["a_c"], false⟩] (Row.withValues [(.jobTag, "abc")]) ∧
    globMatch "a_c".data "abc".data = false ∧
    Selects [scriptPathStartCond ⟨["f/a_"], false⟩] (Row.withValues [(.runnablePath, "f/ab")]) ∧
    Selects (PostgresTriggers.listPostgresTriggersConds "ws" { pathStart := some "f/a_" })
      (Row.withValues [(.workspaceId, "ws"), (.path, "f/ab")]) ∧
    "f/a_".data.isPrefixOf "f/ab".data = false := by
  decide

/-! ## On the listings -/

/-- Every value of the filter, if it is set, is plain. -/
def PlainFilter (filter : Option NegatedListFilter) : Prop :=
  ∀ f ∈ filter, ∀ v ∈ f.values, PlainValue v

instance (filter : Option NegatedListFilter) : Decidable (PlainFilter filter) :=
  inferInstanceAs (Decidable (∀ f ∈ filter, ∀ v ∈ f.values, PlainValue v))

/-- On the listings themselves: with plain values in the worker and tag filters, the queue
listing selects the same jobs with `allow_wildcards` as without it; so does the completed
listing, with plain label values too, on jobs whose labels are in the shape they are written in
and, for a negated label filter, present. -/
theorem listJobs_wildcards_agree (wId : String) (tags : Option (List String))
    (lq : ListQueueQuery) (lc : ListCompletedQuery)
    (plainQueue : PlainFilter lq.worker ∧ PlainFilter lq.tag)
    (plainCompleted : PlainFilter lc.worker ∧ PlainFilter lc.tag ∧ PlainFilter lc.label)
    (r : Row) :
    (∀ lq, WhereOf (listQueueJobsQuery wId lq tags).wheres (listQueueJobsConds wId lq tags)) ∧
    (∀ lc, WhereOf (listCompletedJobsQuery wId lc tags).wheres
      (listCompletedJobsConds wId lc tags)) ∧
    (Selects (listQueueJobsConds wId { lq with allowWildcards := some true } tags) r ↔
      Selects (listQueueJobsConds wId { lq with allowWildcards := none } tags) r) ∧
    (LabelsWellFormed r.labels → (∀ f ∈ lc.label, f.negated = true → r.labels ≠ none) →
      (Selects (listCompletedJobsConds wId { lc with allowWildcards := some true } tags) r ↔
        Selects (listCompletedJobsConds wId { lc with allowWildcards := none } tags) r)) := by
  refine ⟨fun lq => .of_entries (listQueueJobsQuery_wheres wId lq tags),
    fun lc => .of_entries (listCompletedJobsQuery_wheres wId lc tags), ?_,
    fun wellFormed present => ?_⟩
  · have worker := selects_someConds_congr fun f mem =>
      workerCond_wildcard_iff .queueWorker (plainQueue.1 f mem) r
    have tag := selects_someConds_congr fun f mem => tagCond_wildcard_iff (plainQueue.2 f mem) r
    simp only [listQueueJobsConds, filterListQueueConds, queueWorkspaceConds, selects_append,
      worker, tag]
  · have worker := selects_someConds_congr fun f mem =>
      workerCond_wildcard_iff .completedWorker (plainCompleted.1 f mem) r
    have tag := selects_someConds_congr fun f mem => tagCond_wildcard_iff (plainCompleted.2.1 f mem) r
    have label := selects_someConds_congr fun f mem =>
      labelConds_wildcard_iff (plainCompleted.2.2 f mem) wellFormed (present f mem)
    simp only [listCompletedJobsConds, filterListCompletedConds, completedWorkspaceConds,
      selects_append, worker, tag, label]

/-- A queue request for worker `w1` and not tag `gpu`, and a completed request for label
`deploy`, on the job of `stagingRow`. -/
theorem listJobs_wildcards_agree_staging :
    (∀ lq, WhereOf (listQueueJobsQuery "ws" lq none).wheres (listQueueJobsConds "ws" lq none)) ∧
    (∀ lc, WhereOf (listCompletedJobsQuery "ws" lc none).wheres
      (listCompletedJobsConds "ws" lc none)) ∧
    (Selects (listQueueJobsConds "ws"
        { worker := some ⟨["w1"], false⟩, tag := some ⟨["gpu"], true⟩, allowWildcards := some true }
        none) stagingRow ↔
      Selects (listQueueJobsConds "ws"
        { worker := some ⟨["w1"], false⟩, tag := some ⟨["gpu"], true⟩, allowWildcards := none }
        none) stagingRow) ∧
    (LabelsWellFormed stagingRow.labels →
      (∀ f ∈ (some ⟨["deploy"], false⟩ : Option NegatedListFilter), f.negated = true →
        stagingRow.labels ≠ none) →
      (Selects (listCompletedJobsConds "ws"
          { label := some ⟨["deploy"], false⟩, allowWildcards := some true } none) stagingRow ↔
        Selects (listCompletedJobsConds "ws"
          { label := some ⟨["deploy"], false⟩, allowWildcards := none } none) stagingRow)) :=
  listJobs_wildcards_agree "ws" none
    { worker := some ⟨["w1"], false⟩, tag := some ⟨["gpu"], true⟩ }
    { label := some ⟨["deploy"], false⟩ } (by decide) (by decide) stagingRow

end Windmill.Jobs
