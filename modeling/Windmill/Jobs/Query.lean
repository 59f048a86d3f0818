import Windmill.Jobs.Cond

/-!
# The job-list query builders

`filter_list_queue_query` and `filter_list_completed_query` of `query.rs` turn the optional
fields of a `ListQueueQuery` or a `ListCompletedQuery` into entries of a builder's WHERE list,
one block of code per field; `list_queue_jobs_query` and `list_completed_jobs_query` start a
builder, restrict it to the caller's tags, and hand it to them.  This module translates the
four functions block by block, with the filter values as `negated_filter.rs` deserializes
them.

Each block is a function `SqlBuilder → SqlBuilder`, and a builder is the blocks applied in the
source's order.  Blocks that the source writes several times with another column (the `IN`
filters, the `LIKE` groups) are one definition with the column as a parameter.
-/

namespace Windmill.Jobs

open Windmill.Sql

/-! ## Filter values -/

/-- `NegatedListFilter<String>`: comma-separated values sharing one negation sense. -/
structure NegatedListFilter where
  values : List String
  negated : Bool
  deriving Repr

/-- `item.strip_prefix('!')`, with the item itself when it has no `!`. -/
def stripBang : List Char → List Char
  | '!' :: rest => rest
  | item => item

/-- `NegatedListFilterVisitor::visit_str` for string values: the text split at commas, a
leading `!` stripped from every item, and the sense read from the first item only.  Every
string is a valid `String`, so the visitor never fails here. -/
def NegatedListFilter.visitStr (s : String) : NegatedListFilter :=
  let items := splitChars ',' s.data
  { values := items.map fun item => ⟨stripBang item⟩
    negated := match items.head? with
      | some ('!' :: _) => true
      | _ => false }

/-- A deserialized filter always has a value: splitting never gives an empty list. -/
theorem NegatedListFilter.visitStr_values_ne_nil (s : String) : (visitStr s).values ≠ [] := by
  simpa [visitStr] using splitChars_ne_nil ',' s.data

/-- A `chrono::DateTime<Utc>` as the builders read it: its RFC 3339 text and its milliseconds
since the epoch. -/
structure DateTime where
  rfc3339 : String
  timestampMillis : Int
  deriving Repr

/-- The fields of `ListQueueQuery` that `filter_list_queue_query` reads; the defaults are
`empty_queue_query` of the tests. -/
structure ListQueueQuery where
  scriptPathStart : Option NegatedListFilter := none
  scriptPathExact : Option NegatedListFilter := none
  scriptHash : Option String := none
  createdBy : Option NegatedListFilter := none
  startedBefore : Option DateTime := none
  startedAfter : Option DateTime := none
  createdBefore : Option DateTime := none
  createdAfter : Option DateTime := none
  createdOrStartedBefore : Option DateTime := none
  createdOrStartedAfter : Option DateTime := none
  running : Option Bool := none
  parentJob : Option String := none
  jobKinds : Option NegatedListFilter := none
  suspended : Option Bool := none
  args : Option String := none
  tag : Option NegatedListFilter := none
  schedulePath : Option String := none
  scheduledForBeforeNow : Option Bool := none
  allWorkspaces : Option Bool := none
  isFlowStep : Option Bool := none
  hasNullParent : Option Bool := none
  isNotSchedule : Option Bool := none
  worker : Option NegatedListFilter := none
  allowWildcards : Option Bool := none
  /-- The trigger kinds, each as its `Display` text. -/
  triggerKind : Option NegatedListFilter := none
  triggerPath : Option NegatedListFilter := none

/-- The fields of `ListCompletedQuery` that `filter_list_completed_query` reads; the defaults
are `empty_completed_query` of the tests. -/
structure ListCompletedQuery where
  scriptPathStart : Option NegatedListFilter := none
  scriptPathExact : Option NegatedListFilter := none
  scriptHash : Option String := none
  createdBy : Option NegatedListFilter := none
  startedBefore : Option DateTime := none
  startedAfter : Option DateTime := none
  createdBefore : Option DateTime := none
  createdAfter : Option DateTime := none
  createdOrStartedBefore : Option DateTime := none
  createdOrStartedAfter : Option DateTime := none
  createdOrStartedAfterCompletedJobs : Option DateTime := none
  completedAfter : Option DateTime := none
  completedBefore : Option DateTime := none
  success : Option Bool := none
  parentJob : Option String := none
  jobKinds : Option NegatedListFilter := none
  isSkipped : Option Bool := none
  isFlowStep : Option Bool := none
  schedulePath : Option String := none
  args : Option String := none
  result : Option String := none
  tag : Option NegatedListFilter := none
  allWorkspaces : Option Bool := none
  hasNullParent : Option Bool := none
  label : Option NegatedListFilter := none
  isNotSchedule : Option Bool := none
  worker : Option NegatedListFilter := none
  allowWildcards : Option Bool := none
  /-- The trigger kinds, each as its `Display` text. -/
  triggerKind : Option NegatedListFilter := none
  triggerPath : Option NegatedListFilter := none

/-! ## The blocks -/

/-- `if let Some(x) = field { block }`. -/
def ifSome {α : Type} (field : Option α) (block : α → SqlBuilder → SqlBuilder)
    (sqlb : SqlBuilder) : SqlBuilder :=
  match field with
  | some x => block x sqlb
  | none => sqlb

/-- `"?".bind(s)` in an `and_where_<op>` call: the quoted string. -/
def bound (s : String) : String := bind "?" (.str s)

/-- The pattern text of a wildcard filter: `v.replace("*", "%").replace("'", "''")`. -/
def wildcardPattern (v : String) : String := esc (strReplace v '*' "%")

/-- The blocks of `script_path_exact`, `trigger_kind`, `trigger_path` and of the worker without
wildcards: `IN` the quoted values, or negated, `not_in_nullable`. -/
def nullableInFilter (col : String) (f : NegatedListFilter) (sqlb : SqlBuilder) : SqlBuilder :=
  let quoted := f.values.map quote
  if f.negated then sqlb.andWhere (notInNullable col quoted) else sqlb.andWhereIn col quoted

/-- The blocks of `created_by`, `job_kinds` and of the tag without wildcards: `IN` or
`NOT IN` the quoted values. -/
def inFilter (col : String) (f : NegatedListFilter) (sqlb : SqlBuilder) : SqlBuilder :=
  let quoted := f.values.map quote
  if f.negated then sqlb.andWhereNotIn col quoted else sqlb.andWhereIn col quoted

/-- One `LIKE` clause per value, `NOT LIKE` when the filter is negated; `pattern v` is the
pattern text between the apostrophes. -/
def likeClauses (col : String) (pattern : String → String) (f : NegatedListFilter) :
    List String :=
  f.values.map fun v =>
    if f.negated then col ++ " NOT LIKE '" ++ pattern v ++ "'"
    else col ++ " LIKE '" ++ pattern v ++ "'"

/-- `if f.negated { " AND " } else { " OR " }`. -/
def likeSep (f : NegatedListFilter) : String := if f.negated then " AND " else " OR "

/-- The blocks of the worker with wildcards and of `script_path_start`: the clauses joined in
parentheses, and when negated, the rows where the column is NULL kept as well. -/
def nullableLikeGroup (col : String) (pattern : String → String) (f : NegatedListFilter)
    (sqlb : SqlBuilder) : SqlBuilder :=
  let inner := join (likeSep f) (likeClauses col pattern f)
  if f.negated then sqlb.andWhere ("(" ++ col ++ " IS NULL OR (" ++ inner ++ "))")
  else sqlb.andWhere ("(" ++ inner ++ ")")

/-- The worker block of either builder, on that builder's worker column. -/
def workerFilter (col : String) (allowWildcards : Option Bool) (w : NegatedListFilter)
    (sqlb : SqlBuilder) : SqlBuilder :=
  if allowWildcards.getD false then nullableLikeGroup col wildcardPattern w sqlb
  else nullableInFilter col w sqlb

/-- The `script_path_start` block: `'{e}%'` with `e` the escaped value. -/
def scriptPathStartFilter (ps : NegatedListFilter) (sqlb : SqlBuilder) : SqlBuilder :=
  nullableLikeGroup "runnable_path" (fun v => esc v ++ "%") ps sqlb

/-- The tag block of either builder.  Unlike the worker block, its negated wildcard group has
no `IS NULL` arm. -/
def tagFilter (allowWildcards : Option Bool) (t : NegatedListFilter) (sqlb : SqlBuilder) :
    SqlBuilder :=
  if allowWildcards.getD false then
    sqlb.andWhere ("(" ++ join (likeSep t) (likeClauses "v2_job.tag" wildcardPattern t) ++ ")")
  else inFilter "v2_job.tag" t sqlb

/-- The label block of `filter_list_completed_query`. -/
def labelFilter (allowWildcards : Option Bool) (label : NegatedListFilter) (sqlb : SqlBuilder) :
    SqlBuilder :=
  if allowWildcards.getD false then
    let clauses := label.values.map fun v =>
      let p := wildcardPattern v
      if label.negated then
        "NOT EXISTS (SELECT 1 FROM jsonb_array_elements_text(result->'wm_labels') lbl WHERE jsonb_typeof(result->'wm_labels') = 'array' AND lbl LIKE '" ++ p ++ "')"
      else
        "EXISTS (SELECT 1 FROM jsonb_array_elements_text(result->'wm_labels') lbl WHERE jsonb_typeof(result->'wm_labels') = 'array' AND lbl LIKE '" ++ p ++ "')"
    let sqlb := if !label.negated then sqlb.andWhere "result ? 'wm_labels'" else sqlb
    sqlb.andWhere ("(" ++ join (likeSep label) clauses ++ ")")
  else if label.negated then
    let clauses := label.values.map fun v => "NOT (result->'wm_labels' ? '" ++ esc v ++ "')"
    sqlb.andWhere ("(" ++ join " AND " clauses ++ ")")
  else
    let clauses := label.values.map fun v => "result->'wm_labels' ? '" ++ esc v ++ "'"
    (sqlb.andWhere "result ? 'wm_labels'").andWhere ("(" ++ join " OR " clauses ++ ")")

/-- The `schedule_path` block of either builder. -/
def schedulePathFilter (p : String) (sqlb : SqlBuilder) : SqlBuilder :=
  (sqlb.andWhereEq "trigger" (bound p)).andWhereEq "trigger_kind" "'schedule'"

/-- The `is_flow_step` block of either builder. -/
def isFlowStepFilter (fs : Bool) (sqlb : SqlBuilder) : SqlBuilder :=
  if fs then sqlb.andWhereIsNotNull "flow_step_id" else sqlb.andWhereIsNull "flow_step_id"

/-- The `has_null_parent` block of either builder. -/
def hasNullParentFilter (fs : Bool) (sqlb : SqlBuilder) : SqlBuilder :=
  if fs then sqlb.andWhereIsNull "parent_job" else sqlb

/-- The `args @> ?` and `result @> ?` blocks: the text is escaped, then bound. -/
def containsFilter (template : String) (json : String) (sqlb : SqlBuilder) : SqlBuilder :=
  sqlb.andWhere (bind template (.str (strReplace json '\'' "''")))

/-- The `is_not_schedule` block of either builder. -/
def isNotScheduleFilter (isNotSchedule : Option Bool) (sqlb : SqlBuilder) : SqlBuilder :=
  if isNotSchedule.getD false then sqlb.andWhere "trigger_kind IS DISTINCT FROM 'schedule'"
  else sqlb

/-- The queue's `created_or_started_after` and `_before` blocks, with the operator. -/
def createdOrStartedQueueFilter (op : String) (dt : DateTime) (sqlb : SqlBuilder) :
    SqlBuilder :=
  let ts := toString dt.timestampMillis
  sqlb.andWhere ("(started_at IS NOT NULL AND started_at " ++ op ++ " to_timestamp(" ++ ts ++
    "  / 1000.0)) OR (started_at IS NULL AND v2_job.created_at " ++ op ++ " to_timestamp(" ++
    ts ++ "  / 1000.0))")

/-! ## The builders -/

/-- The workspace block of `filter_list_queue_query`. -/
def queueWorkspaceFilter (lq : ListQueueQuery) (wId : String) (sqlb : SqlBuilder) :
    SqlBuilder :=
  if wId != "admins" || !(lq.allWorkspaces == some true) then
    sqlb.andWhereEq "v2_job_queue.workspace_id" (bound wId)
  else sqlb

/-- `filter_list_queue_query`: the WHERE entries of a queue listing. -/
def filterListQueueQuery (sqlb : SqlBuilder) (lq : ListQueueQuery) (wId : String) :
    SqlBuilder :=
  sqlb
  |> queueWorkspaceFilter lq wId
  |> ifSome lq.worker (workerFilter "v2_job_queue.worker" lq.allowWildcards)
  |> ifSome lq.scriptPathStart scriptPathStartFilter
  |> ifSome lq.scriptPathExact (nullableInFilter "runnable_path")
  |> ifSome lq.schedulePath schedulePathFilter
  |> ifSome lq.scriptHash (fun h b => b.andWhereEq "runnable_id" (bound h))
  |> ifSome lq.createdBy (inFilter "created_by")
  |> ifSome lq.tag (tagFilter lq.allowWildcards)
  |> ifSome lq.running (fun r b => b.andWhereEq "running" (toString r))
  |> ifSome lq.parentJob (fun pj b => b.andWhereEq "parent_job" (bound pj))
  |> ifSome lq.startedBefore (fun dt b => b.andWhereLe "started_at" (bound dt.rfc3339))
  |> ifSome lq.startedAfter (fun dt b => b.andWhereGe "started_at" (bound dt.rfc3339))
  |> ifSome lq.isFlowStep isFlowStepFilter
  |> ifSome lq.hasNullParent hasNullParentFilter
  |> ifSome lq.createdBefore (fun dt b => b.andWhereLe "v2_job.created_at" (bound dt.rfc3339))
  |> ifSome lq.createdAfter (fun dt b => b.andWhereGe "v2_job.created_at" (bound dt.rfc3339))
  |> ifSome lq.createdOrStartedAfter (createdOrStartedQueueFilter ">=")
  |> ifSome lq.createdOrStartedBefore (createdOrStartedQueueFilter "<")
  |> ifSome lq.suspended (fun s b =>
      if s then b.andWhereGt "suspend" (toString 0) else b.andWhereIsNull "suspend_until")
  |> ifSome lq.jobKinds (inFilter "kind")
  |> ifSome lq.args (containsFilter "args @> ?")
  |> (fun b => if lq.scheduledForBeforeNow == some true then
      b.andWhereLe "scheduled_for" "now()" else b)
  |> isNotScheduleFilter lq.isNotSchedule
  |> ifSome lq.triggerKind (nullableInFilter "trigger_kind")
  |> ifSome lq.triggerPath (nullableInFilter "trigger")

/-- The tag restriction both listings start with. -/
def tagsFilter (tags : Option (List String)) (sqlb : SqlBuilder) : SqlBuilder :=
  ifSome tags (fun tags b => b.andWhereIn "v2_job.tag" (tags.map quote)) sqlb

/-- `list_queue_jobs_query`, from a builder with no WHERE entry yet. -/
def listQueueJobsQuery (wId : String) (lq : ListQueueQuery) (tags : Option (List String)) :
    SqlBuilder :=
  filterListQueueQuery (tagsFilter tags ⟨[]⟩) lq wId

/-- The workspace block of `filter_list_completed_query`: both workspace columns. -/
def completedWorkspaceFilter (lq : ListCompletedQuery) (wId : String) (sqlb : SqlBuilder) :
    SqlBuilder :=
  if wId != "admins" || !(lq.allWorkspaces == some true) then
    (sqlb.andWhereEq "v2_job_completed.workspace_id" (bound wId)).andWhereEq
      "v2_job.workspace_id" (bound wId)
  else sqlb

/-- The `success` block: an `OR` joined onto the entry it has just added. -/
def successFilter (r : Bool) (sqlb : SqlBuilder) : SqlBuilder :=
  if r then (sqlb.andWhereEq "status" "'success'").orWhereEq "status" "'skipped'"
  else (sqlb.andWhereEq "status" "'failure'").orWhereEq "status" "'canceled'"

/-- The completed listing's `created_or_started_after` block. -/
def createdOrStartedAfterCompletedFilter (dt : DateTime) (sqlb : SqlBuilder) : SqlBuilder :=
  let ts := dt.rfc3339
  sqlb.andWhere ("(created_at >= '" ++ strReplace ts '\'' "''" ++ "' OR started_at >= '" ++
    strReplace ts '\'' "''" ++ "')")

/-- `filter_list_completed_query`: the WHERE entries of a completed-jobs listing. -/
def filterListCompletedQuery (sqlb : SqlBuilder) (lq : ListCompletedQuery) (wId : String) :
    SqlBuilder :=
  sqlb
  |> ifSome lq.label (labelFilter lq.allowWildcards)
  |> ifSome lq.worker (workerFilter "v2_job_completed.worker" lq.allowWildcards)
  |> completedWorkspaceFilter lq wId
  |> ifSome lq.schedulePath schedulePathFilter
  |> ifSome lq.scriptPathStart scriptPathStartFilter
  |> ifSome lq.scriptPathExact (nullableInFilter "runnable_path")
  |> ifSome lq.scriptHash (fun h b => b.andWhereEq "runnable_id" (bound h))
  |> ifSome lq.tag (tagFilter lq.allowWildcards)
  |> ifSome lq.createdBy (inFilter "created_by")
  |> ifSome lq.success successFilter
  |> ifSome lq.parentJob (fun pj b => b.andWhereEq "parent_job" (bound pj))
  |> ifSome lq.startedBefore (fun dt b => b.andWhereLe "started_at" (bound dt.rfc3339))
  |> ifSome lq.startedAfter (fun dt b => b.andWhereGe "started_at" (bound dt.rfc3339))
  |> ifSome lq.createdOrStartedBefore (fun dt b => b.andWhereLe "started_at" (bound dt.rfc3339))
  |> ifSome lq.createdOrStartedAfter createdOrStartedAfterCompletedFilter
  |> ifSome lq.createdBefore (fun dt b => b.andWhereLe "created_at" (bound dt.rfc3339))
  |> ifSome lq.createdAfter (fun dt b => b.andWhereGe "created_at" (bound dt.rfc3339))
  |> ifSome lq.createdOrStartedAfterCompletedJobs (fun dt b =>
      b.andWhereGe "started_at" (bound dt.rfc3339))
  |> ifSome lq.completedAfter (fun dt b => b.andWhereGe "completed_at" (bound dt.rfc3339))
  |> ifSome lq.completedBefore (fun dt b => b.andWhereLe "completed_at" (bound dt.rfc3339))
  |> ifSome lq.isSkipped (fun sk b =>
      if sk then b.andWhereEq "status" "'skipped'" else b.andWhereNe "status" "'skipped'")
  |> ifSome lq.isFlowStep isFlowStepFilter
  |> ifSome lq.hasNullParent hasNullParentFilter
  |> ifSome lq.jobKinds (inFilter "kind")
  |> ifSome lq.args (containsFilter "args @> ?")
  |> ifSome lq.result (containsFilter "result @> ?")
  |> isNotScheduleFilter lq.isNotSchedule
  |> ifSome lq.triggerKind (nullableInFilter "trigger_kind")
  |> ifSome lq.triggerPath (nullableInFilter "trigger")

/-- `list_completed_jobs_query`, from a builder with no WHERE entry yet. -/
def listCompletedJobsQuery (wId : String) (lq : ListCompletedQuery)
    (tags : Option (List String)) : SqlBuilder :=
  filterListCompletedQuery (tagsFilter tags ⟨[]⟩) lq wId

end Windmill.Jobs
