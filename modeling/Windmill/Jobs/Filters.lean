import Windmill.Jobs.Query

/-!
# The conditions the job-list builders write

Each block of `filter_list_queue_query` and `filter_list_completed_query` appends the texts
of a few conditions to the WHERE list.  This module names those conditions block by block and
proves, in `filterListQueueQuery_appends` and `filterListCompletedQuery_appends`, that a
builder's final WHERE list is the rendering of the conditions of its blocks, in order.  What
the text means, how PostgreSQL lexes it and which rows it selects, is from then on a question
about a list of `Cond`.
-/

namespace Windmill.Jobs

open Windmill.Sql

/-! ## Appending conditions -/

/-- The builder step `f` appends the texts of the conditions `cs` to the WHERE list. -/
def Appends (cs : List Cond) (f : SqlBuilder → SqlBuilder) : Prop :=
  ∀ b : SqlBuilder, f b = ⟨b.wheres ++ cs.map Cond.render⟩

/-- The conditions of an `if let Some(x) = field` block. -/
def someConds {α : Type} (field : Option α) (conds : α → List Cond) : List Cond :=
  match field with
  | some x => conds x
  | none => []

@[simp] theorem someConds_none {α : Type} (conds : α → List Cond) : someConds none conds = [] := rfl

namespace Appends

variable {f g : SqlBuilder → SqlBuilder} {cs ds : List Cond}

theorem nil : Appends [] (fun b => b) := fun b => by simp

theorem single {c : Cond} (nonempty : c ≠ .empty) : Appends [c] (·.andWhere c.render) :=
  fun b => andWhere_render b nonempty

/-- A block that adds the text `t` of the condition `c`. -/
theorem text {t : String} (c : Cond) (nonempty : c ≠ .empty) (same : t = c.render) :
    Appends [c] (·.andWhere t) :=
  same ▸ single nonempty

theorem comp (hf : Appends cs f) (hg : Appends ds g) : Appends (cs ++ ds) (fun b => g (f b)) :=
  fun b => by simp only [hf b, hg _, List.map_append, List.append_assoc]

theorem ite (p : Prop) [Decidable p] (hf : Appends cs f) (hg : Appends ds g) :
    Appends (if p then cs else ds) (fun b => if p then f b else g b) := by
  intro b
  by_cases hp : p <;> simp [hp, hf b, hg b]

theorem ifSome {α : Type} {field : Option α} {block : α → SqlBuilder → SqlBuilder}
    {conds : α → List Cond} (h : ∀ x, Appends (conds x) (block x)) :
    Appends (someConds field conds) (Jobs.ifSome field block) := by
  intro b
  cases field with
  | none => simp [Jobs.ifSome, someConds]
  | some x => exact h x b

theorem eq (c : Column) (v : String) : Appends [.eq c v] (·.andWhereEq c.name (bound v)) := by
  simpa only [bound, bind_placeholder] using single (c := .eq c v) (by simp)

theorem cmp (c : Column) (op : CmpOp) (v : Rhs) :
    Appends [.cmp c op v] (·.andWhereOp op.text c.name v.render) :=
  single (by simp)

theorem cmp_bound (c : Column) (op : CmpOp) (s : String) :
    Appends [.cmp c op (.lit s)] (·.andWhereOp op.text c.name (bound s)) := by
  simpa only [bound, bind_placeholder] using cmp c op (.lit s)

end Appends

/-! ## Filter values -/

/-- The pattern a wildcard value denotes, `*` turned into `%`. -/
def starPattern (v : String) : String := strReplace v '*' "%"

theorem esc_append_percent (v : String) : esc v ++ "%" = esc (v ++ "%") :=
  String.ext (by simp [esc_data, replaceChars_append])

/-- The `IN` filters that keep NULL rows when negated. -/
def nullableInCond (c : Column) (f : NegatedListFilter) : Cond :=
  if f.negated then .notInNullable c f.values else .inList c f.values

/-- The `IN` filters with a plain `NOT IN` when negated. -/
def inCond (c : Column) (f : NegatedListFilter) : Cond :=
  if f.negated then .notInList c f.values else .inList c f.values

/-- One `LIKE` condition per value, `pattern v` being the pattern the value denotes. -/
def likeConds (c : Column) (pattern : String → String) (f : NegatedListFilter) : List Cond :=
  f.values.map fun v => if f.negated then .notLike c (pattern v) else .like c (pattern v)

/-- `AND` of the clauses when negated, `OR` otherwise. -/
def likeJoin (f : NegatedListFilter) (cs : List Cond) : Cond :=
  if f.negated then Cond.andList cs else Cond.orList cs

/-- The `LIKE` group that keeps NULL rows when negated. -/
def nullableLikeCond (c : Column) (pattern : String → String) (f : NegatedListFilter) : Cond :=
  if f.negated then .paren (.or (.isNull c) (.paren (likeJoin f (likeConds c pattern f))))
  else .paren (likeJoin f (likeConds c pattern f))

def workerCond (c : Column) (allowWildcards : Option Bool) (w : NegatedListFilter) : Cond :=
  if allowWildcards.getD false then nullableLikeCond c starPattern w else nullableInCond c w

def scriptPathStartCond (ps : NegatedListFilter) : Cond :=
  nullableLikeCond .runnablePath (· ++ "%") ps

def tagCond (allowWildcards : Option Bool) (t : NegatedListFilter) : Cond :=
  if allowWildcards.getD false then .paren (likeJoin t (likeConds .jobTag starPattern t))
  else inCond .jobTag t

def labelConds (allowWildcards : Option Bool) (label : NegatedListFilter) : List Cond :=
  if allowWildcards.getD false then
    (if label.negated then [] else [.hasKey .result "wm_labels"]) ++
      [.paren (likeJoin label (label.values.map fun v =>
        if label.negated then .not (.labelLike (starPattern v)) else .labelLike (starPattern v)))]
  else if label.negated then
    [.paren (Cond.andList (label.values.map fun v => .not (.paren (.labelHas v))))]
  else [.hasKey .result "wm_labels", .paren (Cond.orList (label.values.map .labelHas))]

theorem render_likeJoin (f : NegatedListFilter) (cs : List Cond) :
    (likeJoin f cs).render = join (likeSep f) (cs.map Cond.render) := by
  unfold likeJoin likeSep
  split
  · exact Cond.render_andList cs
  · exact Cond.render_orList cs

/-- Texts written value by value are the renderings of conditions built value by value. -/
theorem map_text {α : Type} (xs : List α) {text : α → String} (cond : α → Cond)
    (same : ∀ x, text x = (cond x).render) : xs.map text = (xs.map cond).map Cond.render := by
  rw [List.map_map]
  exact List.map_congr_left fun x _ => same x

/-- A group of clauses in parentheses, joined by the filter's separator, is the text of the
group of their conditions. -/
theorem paren_join_text {α : Type} (f : NegatedListFilter) (xs : List α) {text : α → String}
    (cond : α → Cond) (same : ∀ x, text x = (cond x).render) :
    "(" ++ join (likeSep f) (xs.map text) ++ ")" =
      (Cond.paren (likeJoin f (xs.map cond))).render := by
  rw [map_text xs cond same, Cond.render, render_likeJoin]

theorem likeClauses_eq (c : Column) (pattern : String → String) (f : NegatedListFilter) :
    likeClauses c.name (fun v => esc (pattern v)) f = (likeConds c pattern f).map Cond.render :=
  map_text f.values _ fun v => by split <;> exact String.ext (by simp [Cond.render, quote])

theorem nullableInFilter_appends (c : Column) (f : NegatedListFilter) :
    Appends [nullableInCond c f] (nullableInFilter c.name f) := by
  unfold nullableInFilter nullableInCond
  split
  · exact Appends.single (by simp)
  · exact Appends.single (by simp)

theorem inFilter_appends (c : Column) (f : NegatedListFilter) :
    Appends [inCond c f] (inFilter c.name f) := by
  unfold inFilter inCond
  split
  · exact Appends.single (by simp)
  · exact Appends.single (by simp)

theorem nullableLikeGroup_appends (c : Column) (pattern : String → String)
    (f : NegatedListFilter) :
    Appends [nullableLikeCond c pattern f]
      (nullableLikeGroup c.name (fun v => esc (pattern v)) f) := by
  unfold nullableLikeGroup nullableLikeCond
  rw [likeClauses_eq, ← render_likeJoin]
  split
  · exact Appends.text _ (by simp) (String.ext (by simp [Cond.render]))
  · exact Appends.single (by simp)

theorem workerFilter_appends (c : Column) (allowWildcards : Option Bool)
    (w : NegatedListFilter) :
    Appends [workerCond c allowWildcards w] (workerFilter c.name allowWildcards w) := by
  unfold workerFilter workerCond
  split
  · exact nullableLikeGroup_appends c starPattern w
  · exact nullableInFilter_appends c w

theorem scriptPathStartFilter_appends (ps : NegatedListFilter) :
    Appends [scriptPathStartCond ps] (scriptPathStartFilter ps) := by
  unfold scriptPathStartFilter
  simp only [esc_append_percent]
  exact nullableLikeGroup_appends .runnablePath (· ++ "%") ps

theorem tagFilter_appends (allowWildcards : Option Bool) (t : NegatedListFilter) :
    Appends [tagCond allowWildcards t] (tagFilter allowWildcards t) := by
  unfold tagFilter tagCond
  split
  · rw [show likeClauses "v2_job.tag" wildcardPattern t = _ from
      likeClauses_eq .jobTag starPattern t, ← render_likeJoin]
    exact Appends.single (by simp)
  · exact inFilter_appends .jobTag t

/-- The text of the `EXISTS` label test, its constant part written out. -/
theorem render_labelLike (p : String) :
    (Cond.labelLike p).render =
      "EXISTS (SELECT 1 FROM jsonb_array_elements_text(result->'wm_labels') lbl WHERE " ++
        "jsonb_typeof(result->'wm_labels') = 'array' AND lbl LIKE " ++ quote p ++ ")" := by
  have constant : "EXISTS (SELECT 1 FROM jsonb_array_elements_text(result->" ++
      quote "wm_labels" ++ ") lbl WHERE jsonb_typeof(result->" ++ quote "wm_labels" ++ ") = " ++
      quote "array" ++ " AND lbl LIKE " =
      "EXISTS (SELECT 1 FROM jsonb_array_elements_text(result->'wm_labels') lbl WHERE " ++
        "jsonb_typeof(result->'wm_labels') = 'array' AND lbl LIKE " := by decide
  rw [Cond.render, constant]

theorem labelFilter_appends (allowWildcards : Option Bool) (label : NegatedListFilter) :
    Appends (labelConds allowWildcards label) (labelFilter allowWildcards label) := by
  have hasLabels : Appends [.hasKey .result "wm_labels"] (·.andWhere "result ? 'wm_labels'") :=
    Appends.text _ (by simp) (by decide)
  unfold labelFilter labelConds
  split
  · cases label.negated
    · refine hasLabels.comp (Appends.text _ (by simp) ?_)
      exact paren_join_text label label.values _ fun v => by
        simp only [Bool.false_eq_true, if_false]
        rw [render_labelLike]
        exact String.ext (by
          simp only [String.data_append, List.append_assoc, quote, wildcardPattern, starPattern]
          rfl)
    · refine Appends.text _ (by simp) ?_
      exact paren_join_text label label.values _ fun v => by
        simp only [if_true]
        rw [Cond.render, render_labelLike]
        exact String.ext (by
          simp only [String.data_append, List.append_assoc, quote, wildcardPattern, starPattern]
          rfl)
  · split
    · refine Appends.text _ (by simp) ?_
      rw [map_text label.values (fun v => .not (.paren (.labelHas v))) fun v =>
        String.ext (by simp [Cond.render, quote, esc_data]), Cond.render, Cond.render_andList]
    · refine hasLabels.comp (Appends.text _ (by simp) ?_)
      rw [map_text label.values Cond.labelHas fun v =>
        String.ext (by simp [Cond.render, quote, esc_data]), Cond.render, Cond.render_orList]

/-! ## The other blocks -/

/-- `and_where` then `or_where`: one entry, the two texts joined by `OR`. -/
theorem Appends.orWhere_text {a c : String} (cond : Cond) (ha : a ≠ "") (hc : c ≠ "")
    (same : a ++ " OR " ++ c = cond.render) : Appends [cond] (fun b => (b.andWhere a).orWhere c) :=
  fun b => by
    show (b.andWhere a).orWhere c = _
    rw [SqlBuilder.orWhere_andWhere b ha hc, same]
    rfl

def schedulePathConds (p : String) : List Cond := [.eq .trigger p, .eq .triggerKind "schedule"]

theorem schedulePathFilter_appends (p : String) :
    Appends (schedulePathConds p) (schedulePathFilter p) := by
  refine (Appends.eq .trigger p).comp (Appends.text _ ?_ ?_)
  · simp
  · decide

def isFlowStepCond (fs : Bool) : Cond := if fs then .isNotNull .flowStepId else .isNull .flowStepId

theorem isFlowStepFilter_appends (fs : Bool) : Appends [isFlowStepCond fs] (isFlowStepFilter fs) := by
  cases fs <;> exact Appends.single (by simp [isFlowStepCond])

def hasNullParentConds (fs : Bool) : List Cond := if fs then [.isNull .parentJob] else []

theorem hasNullParentFilter_appends (fs : Bool) :
    Appends (hasNullParentConds fs) (hasNullParentFilter fs) := by
  cases fs
  · exact Appends.nil
  · exact Appends.single (by simp)

/-- The `args @> ?` and `result @> ?` blocks: the literal holds the escaped text. -/
theorem containsFilter_appends (c : Column) (json : String) {template : String}
    (spelled : template = c.name ++ " @> " ++ "?") (noMark : '?' ∉ c.name.data) :
    Appends [.contains c (esc json)] (containsFilter template json) := by
  subst spelled
  unfold containsFilter
  rw [bind_suffix _ _ (by simpa using noMark)]
  exact Appends.text _ (by simp) (String.ext (by simp [Cond.render, esc]))

def isNotScheduleConds (isNotSchedule : Option Bool) : List Cond :=
  if isNotSchedule.getD false then [.distinctFrom .triggerKind "schedule"] else []

theorem isNotScheduleFilter_appends (isNotSchedule : Option Bool) :
    Appends (isNotScheduleConds isNotSchedule) (isNotScheduleFilter isNotSchedule) := by
  unfold isNotScheduleFilter isNotScheduleConds
  split
  · refine Appends.text _ (by simp) ?_
    decide
  · exact Appends.nil

/-- `(started_at IS NOT NULL AND started_at op t) OR (started_at IS NULL AND v2_job.created_at
op t)` for the time `t` given in milliseconds. -/
def createdOrStartedCond (op : CmpOp) (ms : Int) : Cond :=
  .or (.paren (.and (.isNotNull .startedAt) (.cmp .startedAt op (.toTimestamp ms))))
    (.paren (.and (.isNull .startedAt) (.cmp .jobCreatedAt op (.toTimestamp ms))))

theorem createdOrStartedQueueFilter_appends (op : CmpOp) {sym : String}
    (spaced : op.text = " " ++ sym ++ " ") (dt : DateTime) :
    Appends [createdOrStartedCond op dt.timestampMillis] (createdOrStartedQueueFilter sym dt) :=
  Appends.text _ (by simp [createdOrStartedCond])
    (String.ext (by
      simp only [createdOrStartedCond, Cond.render, Rhs.render, Column.name, spaced,
        String.data_append, List.append_assoc]
      rfl))

def suspendedCond (s : Bool) : Cond :=
  if s then .cmp .suspend .gt (.num 0) else .isNull .suspendUntil

theorem suspended_appends (s : Bool) :
    Appends [suspendedCond s]
      (fun b => if s then b.andWhereGt "suspend" (toString 0) else b.andWhereIsNull "suspend_until") := by
  cases s <;> exact Appends.single (by simp [suspendedCond])

def queueWorkspaceConds (lq : ListQueueQuery) (wId : String) : List Cond :=
  if wId != "admins" || !(lq.allWorkspaces == some true) then [.eq .queueWorkspaceId wId] else []

theorem queueWorkspaceFilter_appends (lq : ListQueueQuery) (wId : String) :
    Appends (queueWorkspaceConds lq wId) (queueWorkspaceFilter lq wId) :=
  Appends.ite _ (Appends.eq .queueWorkspaceId wId) Appends.nil

def tagsConds (tags : Option (List String)) : List Cond :=
  someConds tags fun tags => [.inList .jobTag tags]

theorem tagsFilter_appends (tags : Option (List String)) :
    Appends (tagsConds tags) (tagsFilter tags) :=
  Appends.ifSome fun _ => Appends.single (by simp)

def successCond (r : Bool) : Cond :=
  if r then .or (.eq .status "success") (.eq .status "skipped")
  else .or (.eq .status "failure") (.eq .status "canceled")

theorem successFilter_appends (r : Bool) : Appends [successCond r] (successFilter r) := by
  cases r <;> simp only [successFilter, successCond, Bool.false_eq_true, if_false, if_true] <;>
    refine Appends.orWhere_text _ ?_ ?_ ?_ <;> decide

def createdOrStartedAfterCompletedCond (ts : String) : Cond :=
  .paren (.or (.cmp .createdAt .ge (.lit ts)) (.cmp .startedAt .ge (.lit ts)))

theorem createdOrStartedAfterCompletedFilter_appends (dt : DateTime) :
    Appends [createdOrStartedAfterCompletedCond dt.rfc3339]
      (createdOrStartedAfterCompletedFilter dt) :=
  Appends.text _ (by simp [createdOrStartedAfterCompletedCond])
    (String.ext (by simp [createdOrStartedAfterCompletedCond, Cond.render, Rhs.render, Column.name,
      CmpOp.text, quote, esc]))

def isSkippedCond (sk : Bool) : Cond :=
  if sk then .eq .status "skipped" else .cmp .status .ne (.lit "skipped")

theorem isSkipped_appends (sk : Bool) :
    Appends [isSkippedCond sk]
      (fun b => if sk then b.andWhereEq "status" "'skipped'" else b.andWhereNe "status" "'skipped'") := by
  cases sk <;> simp only [isSkippedCond, Bool.false_eq_true, if_false, if_true] <;>
    refine Appends.text _ (by simp) ?_ <;> decide

def completedWorkspaceConds (lq : ListCompletedQuery) (wId : String) : List Cond :=
  if wId != "admins" || !(lq.allWorkspaces == some true) then
    [.eq .completedWorkspaceId wId, .eq .jobWorkspaceId wId]
  else []

theorem completedWorkspaceFilter_appends (lq : ListCompletedQuery) (wId : String) :
    Appends (completedWorkspaceConds lq wId) (completedWorkspaceFilter lq wId) :=
  Appends.ite _ ((Appends.eq .completedWorkspaceId wId).comp (Appends.eq .jobWorkspaceId wId))
    Appends.nil

/-! ## The builders -/

/-- The conditions of `filter_list_queue_query`, block by block. -/
def filterListQueueConds (lq : ListQueueQuery) (wId : String) : List Cond :=
  queueWorkspaceConds lq wId ++
  someConds lq.worker (fun w => [workerCond .queueWorker lq.allowWildcards w]) ++
  someConds lq.scriptPathStart (fun ps => [scriptPathStartCond ps]) ++
  someConds lq.scriptPathExact (fun p => [nullableInCond .runnablePath p]) ++
  someConds lq.schedulePath schedulePathConds ++
  someConds lq.scriptHash (fun h => [.eq .runnableId h]) ++
  someConds lq.createdBy (fun cb => [inCond .createdBy cb]) ++
  someConds lq.tag (fun t => [tagCond lq.allowWildcards t]) ++
  someConds lq.running (fun r => [.cmp .running .eq (.bool r)]) ++
  someConds lq.parentJob (fun pj => [.eq .parentJob pj]) ++
  someConds lq.startedBefore (fun dt => [.cmp .startedAt .le (.lit dt.rfc3339)]) ++
  someConds lq.startedAfter (fun dt => [.cmp .startedAt .ge (.lit dt.rfc3339)]) ++
  someConds lq.isFlowStep (fun fs => [isFlowStepCond fs]) ++
  someConds lq.hasNullParent hasNullParentConds ++
  someConds lq.createdBefore (fun dt => [.cmp .jobCreatedAt .le (.lit dt.rfc3339)]) ++
  someConds lq.createdAfter (fun dt => [.cmp .jobCreatedAt .ge (.lit dt.rfc3339)]) ++
  someConds lq.createdOrStartedAfter (fun dt => [createdOrStartedCond .ge dt.timestampMillis]) ++
  someConds lq.createdOrStartedBefore (fun dt => [createdOrStartedCond .lt dt.timestampMillis]) ++
  someConds lq.suspended (fun s => [suspendedCond s]) ++
  someConds lq.jobKinds (fun jk => [inCond .kind jk]) ++
  someConds lq.args (fun a => [.contains .args (esc a)]) ++
  (if lq.scheduledForBeforeNow == some true then [.cmp .scheduledFor .le .now] else []) ++
  isNotScheduleConds lq.isNotSchedule ++
  someConds lq.triggerKind (fun tk => [nullableInCond .triggerKind tk]) ++
  someConds lq.triggerPath (fun tp => [nullableInCond .trigger tp])

/-- `filter_list_queue_query` appends the texts of `filterListQueueConds`. -/
theorem filterListQueueQuery_appends (lq : ListQueueQuery) (wId : String) :
    Appends (filterListQueueConds lq wId) (filterListQueueQuery · lq wId) := by
  unfold filterListQueueQuery filterListQueueConds
  exact queueWorkspaceFilter_appends lq wId
  |>.comp (.ifSome fun w => workerFilter_appends .queueWorker lq.allowWildcards w)
  |>.comp (.ifSome scriptPathStartFilter_appends)
  |>.comp (.ifSome (nullableInFilter_appends .runnablePath))
  |>.comp (.ifSome schedulePathFilter_appends)
  |>.comp (.ifSome fun h => .eq .runnableId h)
  |>.comp (.ifSome (inFilter_appends .createdBy))
  |>.comp (.ifSome (tagFilter_appends lq.allowWildcards))
  |>.comp (.ifSome fun r => .cmp .running .eq (.bool r))
  |>.comp (.ifSome fun pj => .eq .parentJob pj)
  |>.comp (.ifSome fun (dt : DateTime) => .cmp_bound .startedAt .le dt.rfc3339)
  |>.comp (.ifSome fun (dt : DateTime) => .cmp_bound .startedAt .ge dt.rfc3339)
  |>.comp (.ifSome isFlowStepFilter_appends)
  |>.comp (.ifSome hasNullParentFilter_appends)
  |>.comp (.ifSome fun (dt : DateTime) => .cmp_bound .jobCreatedAt .le dt.rfc3339)
  |>.comp (.ifSome fun (dt : DateTime) => .cmp_bound .jobCreatedAt .ge dt.rfc3339)
  |>.comp (.ifSome (createdOrStartedQueueFilter_appends .ge (by decide)))
  |>.comp (.ifSome (createdOrStartedQueueFilter_appends .lt (by decide)))
  |>.comp (.ifSome suspended_appends)
  |>.comp (.ifSome (inFilter_appends .kind))
  |>.comp (.ifSome fun a => containsFilter_appends .args a (by decide) (by decide))
  |>.comp (.ite _ (.cmp .scheduledFor .le .now) .nil)
  |>.comp (isNotScheduleFilter_appends lq.isNotSchedule)
  |>.comp (.ifSome (nullableInFilter_appends .triggerKind))
  |>.comp (.ifSome (nullableInFilter_appends .trigger))

/-- The conditions of `filter_list_completed_query`, block by block. -/
def filterListCompletedConds (lq : ListCompletedQuery) (wId : String) : List Cond :=
  someConds lq.label (labelConds lq.allowWildcards) ++
  someConds lq.worker (fun w => [workerCond .completedWorker lq.allowWildcards w]) ++
  completedWorkspaceConds lq wId ++
  someConds lq.schedulePath schedulePathConds ++
  someConds lq.scriptPathStart (fun ps => [scriptPathStartCond ps]) ++
  someConds lq.scriptPathExact (fun p => [nullableInCond .runnablePath p]) ++
  someConds lq.scriptHash (fun h => [.eq .runnableId h]) ++
  someConds lq.tag (fun t => [tagCond lq.allowWildcards t]) ++
  someConds lq.createdBy (fun cb => [inCond .createdBy cb]) ++
  someConds lq.success (fun r => [successCond r]) ++
  someConds lq.parentJob (fun pj => [.eq .parentJob pj]) ++
  someConds lq.startedBefore (fun dt => [.cmp .startedAt .le (.lit dt.rfc3339)]) ++
  someConds lq.startedAfter (fun dt => [.cmp .startedAt .ge (.lit dt.rfc3339)]) ++
  someConds lq.createdOrStartedBefore (fun dt => [.cmp .startedAt .le (.lit dt.rfc3339)]) ++
  someConds lq.createdOrStartedAfter
    (fun dt => [createdOrStartedAfterCompletedCond dt.rfc3339]) ++
  someConds lq.createdBefore (fun dt => [.cmp .createdAt .le (.lit dt.rfc3339)]) ++
  someConds lq.createdAfter (fun dt => [.cmp .createdAt .ge (.lit dt.rfc3339)]) ++
  someConds lq.createdOrStartedAfterCompletedJobs
    (fun dt => [.cmp .startedAt .ge (.lit dt.rfc3339)]) ++
  someConds lq.completedAfter (fun dt => [.cmp .completedAt .ge (.lit dt.rfc3339)]) ++
  someConds lq.completedBefore (fun dt => [.cmp .completedAt .le (.lit dt.rfc3339)]) ++
  someConds lq.isSkipped (fun sk => [isSkippedCond sk]) ++
  someConds lq.isFlowStep (fun fs => [isFlowStepCond fs]) ++
  someConds lq.hasNullParent hasNullParentConds ++
  someConds lq.jobKinds (fun jk => [inCond .kind jk]) ++
  someConds lq.args (fun a => [.contains .args (esc a)]) ++
  someConds lq.result (fun r => [.contains .result (esc r)]) ++
  isNotScheduleConds lq.isNotSchedule ++
  someConds lq.triggerKind (fun tk => [nullableInCond .triggerKind tk]) ++
  someConds lq.triggerPath (fun tp => [nullableInCond .trigger tp])

/-- `filter_list_completed_query` appends the texts of `filterListCompletedConds`. -/
theorem filterListCompletedQuery_appends (lq : ListCompletedQuery) (wId : String) :
    Appends (filterListCompletedConds lq wId) (filterListCompletedQuery · lq wId) := by
  unfold filterListCompletedQuery filterListCompletedConds
  exact Appends.ifSome (labelFilter_appends lq.allowWildcards)
  |>.comp (.ifSome fun w => workerFilter_appends .completedWorker lq.allowWildcards w)
  |>.comp (completedWorkspaceFilter_appends lq wId)
  |>.comp (.ifSome schedulePathFilter_appends)
  |>.comp (.ifSome scriptPathStartFilter_appends)
  |>.comp (.ifSome (nullableInFilter_appends .runnablePath))
  |>.comp (.ifSome fun h => .eq .runnableId h)
  |>.comp (.ifSome (tagFilter_appends lq.allowWildcards))
  |>.comp (.ifSome (inFilter_appends .createdBy))
  |>.comp (.ifSome successFilter_appends)
  |>.comp (.ifSome fun pj => .eq .parentJob pj)
  |>.comp (.ifSome fun (dt : DateTime) => .cmp_bound .startedAt .le dt.rfc3339)
  |>.comp (.ifSome fun (dt : DateTime) => .cmp_bound .startedAt .ge dt.rfc3339)
  |>.comp (.ifSome fun (dt : DateTime) => .cmp_bound .startedAt .le dt.rfc3339)
  |>.comp (.ifSome createdOrStartedAfterCompletedFilter_appends)
  |>.comp (.ifSome fun (dt : DateTime) => .cmp_bound .createdAt .le dt.rfc3339)
  |>.comp (.ifSome fun (dt : DateTime) => .cmp_bound .createdAt .ge dt.rfc3339)
  |>.comp (.ifSome fun (dt : DateTime) => .cmp_bound .startedAt .ge dt.rfc3339)
  |>.comp (.ifSome fun (dt : DateTime) => .cmp_bound .completedAt .ge dt.rfc3339)
  |>.comp (.ifSome fun (dt : DateTime) => .cmp_bound .completedAt .le dt.rfc3339)
  |>.comp (.ifSome isSkipped_appends)
  |>.comp (.ifSome isFlowStepFilter_appends)
  |>.comp (.ifSome hasNullParentFilter_appends)
  |>.comp (.ifSome (inFilter_appends .kind))
  |>.comp (.ifSome fun a => containsFilter_appends .args a (by decide) (by decide))
  |>.comp (.ifSome fun r => containsFilter_appends .result r (by decide) (by decide))
  |>.comp (isNotScheduleFilter_appends lq.isNotSchedule)
  |>.comp (.ifSome (nullableInFilter_appends .triggerKind))
  |>.comp (.ifSome (nullableInFilter_appends .trigger))

/-- The conditions of `list_queue_jobs_query`: the tag restriction, then the filters. -/
def listQueueJobsConds (wId : String) (lq : ListQueueQuery) (tags : Option (List String)) :
    List Cond :=
  tagsConds tags ++ filterListQueueConds lq wId

/-- The conditions of `list_completed_jobs_query`: the tag restriction, then the filters. -/
def listCompletedJobsConds (wId : String) (lq : ListCompletedQuery)
    (tags : Option (List String)) : List Cond :=
  tagsConds tags ++ filterListCompletedConds lq wId

theorem listQueueJobsQuery_wheres (wId : String) (lq : ListQueueQuery)
    (tags : Option (List String)) :
    (listQueueJobsQuery wId lq tags).wheres = (listQueueJobsConds wId lq tags).map Cond.render :=
  congrArg SqlBuilder.wheres
    ((tagsFilter_appends tags).comp (filterListQueueQuery_appends lq wId) ⟨[]⟩)

theorem listCompletedJobsQuery_wheres (wId : String) (lq : ListCompletedQuery)
    (tags : Option (List String)) :
    (listCompletedJobsQuery wId lq tags).wheres =
      (listCompletedJobsConds wId lq tags).map Cond.render :=
  congrArg SqlBuilder.wheres
    ((tagsFilter_appends tags).comp (filterListCompletedQuery_appends lq wId) ⟨[]⟩)

end Windmill.Jobs
