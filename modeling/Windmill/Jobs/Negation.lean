import Windmill.Jobs.Truth
import Windmill.Jobs.Scoping

/-!
# Negated filters

A filter value starting with `!` selects the jobs the filter without `!` leaves out.  For a
nullable column the builders write `IS NULL OR ... NOT IN (...)` (`not_in_nullable`), so that a
job whose column is NULL is kept by the negated filter.  The exact label filter has no such arm:
for a job without labels, `result->'wm_labels'` is NULL, `NOT (NULL ? 'v')` is unknown, and the
job is selected by neither polarity (`exactLabel_selects_neither`), whereas the negated wildcard
label filter, written with `NOT EXISTS`, does select it.

The other filters keep the promise (`negatedFilters_select_complement`): with the `IS NULL` arm
wherever the column may be NULL, on rows where the other columns are set, and, for `LIKE`
groups, on patterns PostgreSQL accepts (a value ending in an unpaired `\` makes both polarities
an error).  On the listings themselves, the WHERE clause is a conjunction, so negating one of
these filters selects, among the jobs the rest of the request selects, exactly those the positive
filter leaves out (`listJobs_negation_complement`).
-/

namespace Windmill.Jobs

open Windmill.Sql

/-- Without labels, each exact label test is unknown. -/
theorem labelHas_unknown {r : Row} (noLabels : r.labels = none) (v : String) :
    (Cond.labelHas v).eval r = none := by
  simp [Cond.eval, noLabels]

/-- A job without labels is selected by neither the exact label filter nor its negation. -/
theorem exactLabel_selects_neither (vs : List String) {r : Row} (noLabels : r.labels = none) :
    ¬Selects (labelConds none ⟨vs, false⟩) r ∧ ¬Selects (labelConds none ⟨vs, true⟩) r := by
  constructor
  · intro selected
    have group := (selected (.paren (Cond.orList (vs.map Cond.labelHas))) (by simp [labelConds])).2
    simp [Cond.eval_orList_unknown _ fun v _ => labelHas_unknown noLabels v] at group
  · intro selected
    have group := (selected (.paren (Cond.andList (vs.map fun v => .not (.paren (.labelHas v)))))
      (by simp [labelConds])).2
    have unknown : ∀ v ∈ vs, (Cond.not (.paren (.labelHas v))).eval r = none := fun v _ => by
      simp [Cond.eval, noLabels]
    simp [Cond.eval_andList_unknown _ unknown] at group

/-- A completed job whose result is the empty object. -/
def emptyResultRow : Row :=
  { Row.null with json := fun c => if c = .result then some (.obj []) else none }

theorem exactLabel_selects_neither_deploy :
    ¬Selects (labelConds none ⟨["deploy"], false⟩) emptyResultRow ∧
      ¬Selects (labelConds none ⟨["deploy"], true⟩) emptyResultRow :=
  exactLabel_selects_neither ["deploy"] rfl

/-! ## The other negated filters -/

/-- The negated conditions `neg` select exactly the rows the positive conditions `pos` leave
out. -/
def SelectsComplement (neg pos : List Cond) (r : Row) : Prop := Selects neg r ↔ ¬Selects pos r

section Complement

variable {vs : List String} (nonempty : vs ≠ []) (c : Column) (r : Row)
include nonempty

theorem nullableIn_complement :
    SelectsComplement [nullableInCond c ⟨vs, true⟩] [nullableInCond c ⟨vs, false⟩] r := by
  cases value : r.value c <;>
    simp [SelectsComplement, nullableInCond, Cond.valid, Cond.eval, value, nonempty]

theorem in_complement (present : r.value c ≠ none) :
    SelectsComplement [inCond c ⟨vs, true⟩] [inCond c ⟨vs, false⟩] r := by
  obtain ⟨x, value⟩ := Option.ne_none_iff_exists'.mp present
  simp [SelectsComplement, inCond, Cond.valid, Cond.eval, value, nonempty]

variable (pattern : String → String)

theorem eval_likeAny {x : String} (value : r.value c = some x) :
    (Cond.orList (vs.map fun v => .like c (pattern v))).eval r =
      some (vs.any fun v => likeMatch (pattern v).data x.data) :=
  Cond.eval_orList_map _ nonempty fun v _ => by simp [Cond.eval, value]

theorem eval_notLikeAll {x : String} (value : r.value c = some x) :
    (Cond.andList (vs.map fun v => .notLike c (pattern v))).eval r =
      some (!vs.any fun v => likeMatch (pattern v).data x.data) := by
  have evals : ∀ v ∈ vs,
      (Cond.notLike c (pattern v)).eval r = some (!likeMatch (pattern v).data x.data) :=
    fun v _ => by simp [Cond.eval, value]
  rw [Cond.eval_andList_map _ nonempty evals]
  simp [List.all_eq_not_any_not]

variable {pattern} (accepted : ∀ v ∈ vs, likeValid (pattern v).data = true)
include accepted

omit nonempty in
theorem valid_likeConds :
    (vs.map fun v => Cond.like c (pattern v)).all Cond.valid = true ∧
      (vs.map fun v => Cond.notLike c (pattern v)).all Cond.valid = true := by
  constructor <;> simpa [Cond.valid] using accepted

theorem nullableLike_complement :
    SelectsComplement [nullableLikeCond c pattern ⟨vs, true⟩] [nullableLikeCond c pattern ⟨vs, false⟩]
      r := by
  obtain ⟨likes, notLikes⟩ := valid_likeConds c accepted
  cases value : r.value c with
  | none =>
    have unknowns : ∀ v ∈ vs, (Cond.like c (pattern v)).eval r = none :=
      fun v _ => by simp [Cond.eval, value]
    have unknown := Cond.eval_orList_unknown _ unknowns
    simp [SelectsComplement, nullableLikeCond, likeJoin, likeConds, Cond.valid, Cond.valid_orList,
      Cond.valid_andList, Cond.eval, value, nonempty, likes, notLikes, unknown]
  | some x =>
    simp [SelectsComplement, nullableLikeCond, likeJoin, likeConds, Cond.valid, Cond.valid_orList,
      Cond.valid_andList, Cond.eval, value, nonempty, likes, notLikes,
      eval_likeAny nonempty c r pattern value, eval_notLikeAll nonempty c r pattern value]

theorem like_complement (present : r.value c ≠ none) :
    SelectsComplement [.paren (likeJoin ⟨vs, true⟩ (likeConds c pattern ⟨vs, true⟩))]
      [.paren (likeJoin ⟨vs, false⟩ (likeConds c pattern ⟨vs, false⟩))] r := by
  obtain ⟨likes, notLikes⟩ := valid_likeConds c accepted
  obtain ⟨x, value⟩ := Option.ne_none_iff_exists'.mp present
  simp [SelectsComplement, likeJoin, likeConds, Cond.valid_orList, Cond.valid_andList, nonempty,
    likes, notLikes, eval_likeAny nonempty c r pattern value,
    eval_notLikeAll nonempty c r pattern value]

end Complement

/-- The worker filter of either builder, with or without wildcards. -/
theorem workerCond_complement {vs : List String} (nonempty : vs ≠ []) (c : Column)
    {allowWildcards : Option Bool}
    (accepted : allowWildcards.getD false = true → ∀ v ∈ vs, likeValid (starPattern v).data = true)
    (r : Row) :
    SelectsComplement [workerCond c allowWildcards ⟨vs, true⟩]
      [workerCond c allowWildcards ⟨vs, false⟩] r := by
  unfold workerCond
  split
  · exact nullableLike_complement nonempty c r (accepted ‹_›)
  · exact nullableIn_complement nonempty c r

/-- The `script_path_start` filter, whose prefix patterns PostgreSQL always accepts. -/
theorem scriptPathStartCond_complement {vs : List String} (nonempty : vs ≠ []) (r : Row) :
    SelectsComplement [scriptPathStartCond ⟨vs, true⟩] [scriptPathStartCond ⟨vs, false⟩] r :=
  nullableLike_complement nonempty .runnablePath r fun v _ => by
    simpa using likeValid_append_percent v.data

/-- The tag filter, with or without wildcards, on a row with a tag. -/
theorem tagCond_complement {vs : List String} (nonempty : vs ≠ []) {allowWildcards : Option Bool}
    (accepted : allowWildcards.getD false = true → ∀ v ∈ vs, likeValid (starPattern v).data = true)
    {r : Row} (present : r.value .jobTag ≠ none) :
    SelectsComplement [tagCond allowWildcards ⟨vs, true⟩] [tagCond allowWildcards ⟨vs, false⟩] r := by
  unfold tagCond
  split
  · exact like_complement nonempty .jobTag r (accepted ‹_›) present
  · exact in_complement nonempty .jobTag r present

/-- Apart from the label filter, a negated filter selects exactly the rows its positive form
leaves out, for every non-empty value list: the worker filter of either builder, the
`script_path_start` filter and the `IN` filters with an `IS NULL` arm (`script_path_exact`,
`trigger_kind`, `trigger_path`) on every row, and the `created_by`, `job_kinds` and tag filters
on rows where their column is set.  With `allow_wildcards` the patterns must be ones PostgreSQL
accepts. -/
theorem negatedFilters_select_complement {vs : List String} (nonempty : vs ≠ [])
    (allowWildcards : Option Bool)
    (accepted : allowWildcards.getD false = true → ∀ v ∈ vs, likeValid (starPattern v).data = true)
    (r : Row) :
    (∀ c, SelectsComplement [workerCond c allowWildcards ⟨vs, true⟩]
      [workerCond c allowWildcards ⟨vs, false⟩] r) ∧
    SelectsComplement [scriptPathStartCond ⟨vs, true⟩] [scriptPathStartCond ⟨vs, false⟩] r ∧
    (∀ c, SelectsComplement [nullableInCond c ⟨vs, true⟩] [nullableInCond c ⟨vs, false⟩] r) ∧
    (∀ c, r.value c ≠ none → SelectsComplement [inCond c ⟨vs, true⟩] [inCond c ⟨vs, false⟩] r) ∧
    (r.value .jobTag ≠ none → SelectsComplement [tagCond allowWildcards ⟨vs, true⟩]
      [tagCond allowWildcards ⟨vs, false⟩] r) :=
  ⟨fun c => workerCond_complement nonempty c accepted r, scriptPathStartCond_complement nonempty r,
    fun c => nullableIn_complement nonempty c r, fun c => in_complement nonempty c r,
    tagCond_complement nonempty accepted⟩

theorem negatedFilters_select_complement_deploy :
    let r := Row.withValues [(.jobTag, "deploy")]
    (∀ c, SelectsComplement [workerCond c (some true) ⟨["dep*"], true⟩]
      [workerCond c (some true) ⟨["dep*"], false⟩] r) ∧
    SelectsComplement [scriptPathStartCond ⟨["dep*"], true⟩]
      [scriptPathStartCond ⟨["dep*"], false⟩] r ∧
    (∀ c, SelectsComplement [nullableInCond c ⟨["dep*"], true⟩]
      [nullableInCond c ⟨["dep*"], false⟩] r) ∧
    (∀ c, r.value c ≠ none → SelectsComplement [inCond c ⟨["dep*"], true⟩]
      [inCond c ⟨["dep*"], false⟩] r) ∧
    (r.value .jobTag ≠ none → SelectsComplement [tagCond (some true) ⟨["dep*"], true⟩]
      [tagCond (some true) ⟨["dep*"], false⟩] r) :=
  negatedFilters_select_complement (List.cons_ne_nil _ _) (some true) (fun _ => by decide) _

/-! ## On the listings -/

/-- Negating the filter `x` of a listing request: the jobs selected with the negated filter are
those selected without the filter and not selected with the positive one. -/
def NegationComplement (conds : Option NegatedListFilter → List Cond) (vs : List String)
    (r : Row) : Prop :=
  Selects (conds (some ⟨vs, true⟩)) r ↔
    Selects (conds none) r ∧ ¬Selects (conds (some ⟨vs, false⟩)) r

/-- A filter whose block is one condition, whose negation is the complement of that condition,
is the complement within the rest of the listing. -/
theorem NegationComplement.of_split {conds : Option NegatedListFilter → List Cond}
    (cond : NegatedListFilter → Cond) {vs : List String} {r : Row}
    (split : ∀ f, Selects (conds (some f)) r ↔ Selects (conds none) r ∧ Selects [cond f] r)
    (complement : SelectsComplement [cond ⟨vs, true⟩] [cond ⟨vs, false⟩] r) :
    NegationComplement conds vs r := by
  unfold SelectsComplement at complement
  rw [NegationComplement, split, split, complement]
  tauto

/-- The filters of `list_queue_jobs_query` whose negation is a complement, each within the rest
of the request. -/
structure QueueNegation (wId : String) (tags : Option (List String)) (lq : ListQueueQuery)
    (vs : List String) (r : Row) : Prop where
  worker :
    NegationComplement (fun x => listQueueJobsConds wId { lq with worker := x } tags) vs r
  scriptPathStart :
    NegationComplement (fun x => listQueueJobsConds wId { lq with scriptPathStart := x } tags) vs r
  scriptPathExact :
    NegationComplement (fun x => listQueueJobsConds wId { lq with scriptPathExact := x } tags) vs r
  triggerKind :
    NegationComplement (fun x => listQueueJobsConds wId { lq with triggerKind := x } tags) vs r
  triggerPath :
    NegationComplement (fun x => listQueueJobsConds wId { lq with triggerPath := x } tags) vs r
  createdBy : r.value .createdBy ≠ none →
    NegationComplement (fun x => listQueueJobsConds wId { lq with createdBy := x } tags) vs r
  jobKinds : r.value .kind ≠ none →
    NegationComplement (fun x => listQueueJobsConds wId { lq with jobKinds := x } tags) vs r
  tag : r.value .jobTag ≠ none →
    NegationComplement (fun x => listQueueJobsConds wId { lq with tag := x } tags) vs r

/-- The same filters of `list_completed_jobs_query`. -/
structure CompletedNegation (wId : String) (tags : Option (List String)) (lc : ListCompletedQuery)
    (vs : List String) (r : Row) : Prop where
  worker :
    NegationComplement (fun x => listCompletedJobsConds wId { lc with worker := x } tags) vs r
  scriptPathStart :
    NegationComplement (fun x => listCompletedJobsConds wId { lc with scriptPathStart := x } tags) vs r
  scriptPathExact :
    NegationComplement (fun x => listCompletedJobsConds wId { lc with scriptPathExact := x } tags) vs r
  triggerKind :
    NegationComplement (fun x => listCompletedJobsConds wId { lc with triggerKind := x } tags) vs r
  triggerPath :
    NegationComplement (fun x => listCompletedJobsConds wId { lc with triggerPath := x } tags) vs r
  createdBy : r.value .createdBy ≠ none →
    NegationComplement (fun x => listCompletedJobsConds wId { lc with createdBy := x } tags) vs r
  jobKinds : r.value .kind ≠ none →
    NegationComplement (fun x => listCompletedJobsConds wId { lc with jobKinds := x } tags) vs r
  tag : r.value .jobTag ≠ none →
    NegationComplement (fun x => listCompletedJobsConds wId { lc with tag := x } tags) vs r

/-- On the listings themselves: the WHERE list each builder writes reads as its conditions, and
negating one of the filters of `negatedFilters_select_complement` selects, among the jobs the
request without that filter selects, exactly those the positive filter leaves out. -/
theorem listJobs_negation_complement {vs : List String} (nonempty : vs ≠ []) (wId : String)
    (tags : Option (List String)) (lq : ListQueueQuery) (lc : ListCompletedQuery)
    (acceptedQueue : lq.allowWildcards.getD false = true →
      ∀ v ∈ vs, likeValid (starPattern v).data = true)
    (acceptedCompleted : lc.allowWildcards.getD false = true →
      ∀ v ∈ vs, likeValid (starPattern v).data = true)
    (r : Row) :
    (∀ lq, WhereOf (listQueueJobsQuery wId lq tags).wheres (listQueueJobsConds wId lq tags)) ∧
    (∀ lc, WhereOf (listCompletedJobsQuery wId lc tags).wheres
      (listCompletedJobsConds wId lc tags)) ∧
    QueueNegation wId tags lq vs r ∧ CompletedNegation wId tags lc vs r := by
  refine ⟨fun lq => .of_entries (listQueueJobsQuery_wheres wId lq tags),
    fun lc => .of_entries (listCompletedJobsQuery_wheres wId lc tags),
    ⟨.of_split _ ?_ (workerCond_complement nonempty .queueWorker acceptedQueue r),
      .of_split _ ?_ (scriptPathStartCond_complement nonempty r),
      .of_split _ ?_ (nullableIn_complement nonempty .runnablePath r),
      .of_split _ ?_ (nullableIn_complement nonempty .triggerKind r),
      .of_split _ ?_ (nullableIn_complement nonempty .trigger r),
      fun present => .of_split _ ?_ (in_complement nonempty .createdBy r present),
      fun present => .of_split _ ?_ (in_complement nonempty .kind r present),
      fun present => .of_split _ ?_ (tagCond_complement nonempty acceptedQueue present)⟩,
    ⟨.of_split _ ?_ (workerCond_complement nonempty .completedWorker acceptedCompleted r),
      .of_split _ ?_ (scriptPathStartCond_complement nonempty r),
      .of_split _ ?_ (nullableIn_complement nonempty .runnablePath r),
      .of_split _ ?_ (nullableIn_complement nonempty .triggerKind r),
      .of_split _ ?_ (nullableIn_complement nonempty .trigger r),
      fun present => .of_split _ ?_ (in_complement nonempty .createdBy r present),
      fun present => .of_split _ ?_ (in_complement nonempty .kind r present),
      fun present => .of_split _ ?_ (tagCond_complement nonempty acceptedCompleted present)⟩⟩
  -- each filter's block moved to the end of the conjunction, past the blocks after it
  all_goals
    intro f
    simp only [listQueueJobsConds, filterListQueueConds, queueWorkspaceConds,
      listCompletedJobsConds, filterListCompletedConds, completedWorkspaceConds, selects_append,
      someConds_none, selects_nil, and_true, and_right_comm (b := Selects (someConds (some _) _) r),
      ← and_assoc]
    rfl

theorem listJobs_negation_complement_dep :
    (∀ lq, WhereOf (listQueueJobsQuery "ws" lq none).wheres (listQueueJobsConds "ws" lq none)) ∧
    (∀ lc, WhereOf (listCompletedJobsQuery "ws" lc none).wheres
      (listCompletedJobsConds "ws" lc none)) ∧
    QueueNegation "ws" none { allowWildcards := some true } ["dep*"]
      (Row.withValues [(.jobTag, "deploy")]) ∧
    CompletedNegation "ws" none {} ["dep*"] (Row.withValues [(.jobTag, "deploy")]) :=
  listJobs_negation_complement (List.cons_ne_nil _ _) "ws" none { allowWildcards := some true } {}
    (fun _ => by decide) (fun h => absurd h (by decide)) _

end Windmill.Jobs
