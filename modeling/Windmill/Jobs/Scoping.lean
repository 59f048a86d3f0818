import Windmill.Jobs.Filters

/-!
# Workspace scoping of the job listings

A listing that is not an admin's request for all workspaces must return only jobs of the
caller's workspace.  The builders guarantee it by adding the workspace test as one entry of the
WHERE list, and `make_wheres` puts every entry in its own parentheses under `AND`.  This is
safe only if no filter value can end its literal or close a parenthesis it did not open: then
PostgreSQL reads the clause as the conjunction of the entries, and a row that satisfies it
satisfies the workspace test.

`listJobs_scoped_to_workspace` proves this for both listings and for every query: the lexer
reads the clause as the conjuncts' tokens (`Cond.lex_makeWheres`, each value one literal), each
conjunct is balanced (`Cond.balanced`), and the workspace test is among the conjuncts.

Each value is one literal, but not always a literal of the value: the `args @> ?` and
`result @> ?` filters escape the JSON text and then bind it, which escapes it again
(`jsonFilter_literal_doubles_apostrophes`).
-/

namespace Windmill.Jobs

open Windmill.Sql

/-- The WHERE list `wheres` is the conjunction of the conditions `cs`: its entries are their
texts, PostgreSQL reads the clause `make_wheres` writes as their tokens laid out as `whereToks`,
and each conjunct's parentheses are balanced. -/
structure WhereOf (wheres : List String) (cs : List Cond) : Prop where
  entries : wheres = cs.map Cond.render
  lexes : lex (makeWheres wheres) = some (whereToks (cs.map Cond.toks))
  balanced : ∀ c ∈ cs, Balanced c.toks

theorem WhereOf.of_entries {wheres : List String} {cs : List Cond}
    (entries : wheres = cs.map Cond.render) : WhereOf wheres cs :=
  ⟨entries, entries ▸ Cond.lex_makeWheres cs, fun c _ => c.balanced⟩

theorem Cond.eval_eq_true {r : Row} {c : Column} {v : String} :
    (Cond.eq c v).eval r = some true ↔ r.value c = some v := by
  cases h : r.value c <;> simp [Cond.eval, h]

/-- A row selected by a conjunction with the test `c = 'v'` has `v` in column `c`. -/
theorem Selects.value_eq {cs : List Cond} {r : Row} (selected : Selects cs r) {c : Column}
    {v : String} (mem : Cond.eq c v ∈ cs) : r.value c = some v :=
  Cond.eval_eq_true.mp (selected _ mem).2

theorem notAll_iff {wId : String} {allWorkspaces : Option Bool} :
    (wId != "admins" || !(allWorkspaces == some true)) = true ↔
      ¬(wId = "admins" ∧ allWorkspaces = some true) := by
  rw [not_and_or]
  simp

theorem queueWorkspace_mem {wId : String} {lq : ListQueueQuery} (tags : Option (List String))
    (notAll : ¬(wId = "admins" ∧ lq.allWorkspaces = some true)) :
    Cond.eq .queueWorkspaceId wId ∈ listQueueJobsConds wId lq tags := by
  simp [listQueueJobsConds, filterListQueueConds, queueWorkspaceConds, notAll_iff.mpr notAll]

theorem completedWorkspace_mem {wId : String} {lq : ListCompletedQuery}
    (tags : Option (List String)) (notAll : ¬(wId = "admins" ∧ lq.allWorkspaces = some true)) :
    Cond.eq .completedWorkspaceId wId ∈ listCompletedJobsConds wId lq tags ∧
      Cond.eq .jobWorkspaceId wId ∈ listCompletedJobsConds wId lq tags := by
  simp [listCompletedJobsConds, filterListCompletedConds, completedWorkspaceConds,
    notAll_iff.mpr notAll]

/-- Unless an admin lists all workspaces, each listing's WHERE clause is read as a conjunction
holding the workspace test, and every row it selects is in the caller's workspace. -/
theorem listJobs_scoped_to_workspace (wId : String) (tags : Option (List String))
    (lq : ListQueueQuery) (lc : ListCompletedQuery) :
    (¬(wId = "admins" ∧ lq.allWorkspaces = some true) →
      WhereOf (listQueueJobsQuery wId lq tags).wheres (listQueueJobsConds wId lq tags) ∧
      Cond.eq .queueWorkspaceId wId ∈ listQueueJobsConds wId lq tags ∧
      ∀ r, Selects (listQueueJobsConds wId lq tags) r → r.value .queueWorkspaceId = some wId) ∧
    (¬(wId = "admins" ∧ lc.allWorkspaces = some true) →
      WhereOf (listCompletedJobsQuery wId lc tags).wheres (listCompletedJobsConds wId lc tags) ∧
      Cond.eq .completedWorkspaceId wId ∈ listCompletedJobsConds wId lc tags ∧
      Cond.eq .jobWorkspaceId wId ∈ listCompletedJobsConds wId lc tags ∧
      ∀ r, Selects (listCompletedJobsConds wId lc tags) r →
        r.value .completedWorkspaceId = some wId ∧ r.value .jobWorkspaceId = some wId) := by
  constructor
  · intro notAll
    have mem := queueWorkspace_mem tags notAll
    exact ⟨.of_entries (listQueueJobsQuery_wheres wId lq tags), mem,
      fun r selected => selected.value_eq mem⟩
  · intro notAll
    obtain ⟨memCompleted, memJob⟩ := completedWorkspace_mem tags notAll
    exact ⟨.of_entries (listCompletedJobsQuery_wheres wId lc tags), memCompleted, memJob,
      fun r selected => ⟨selected.value_eq memCompleted, selected.value_eq memJob⟩⟩

/-- A caller of workspace `ws` who asks for all workspaces, which only `admins` may, with
filter values holding an apostrophe, a `?` and parentheses. -/
def allWorkspacesQueue : ListQueueQuery :=
  { createdBy := some ⟨["o'brien"], false⟩, tag := some ⟨["gpu?"], true⟩,
    scriptPathStart := some ⟨["f/(a)"], false⟩, allWorkspaces := some true }

/-- The same caller on the completed jobs, with the `success` filter, written with `or_where`. -/
def allWorkspacesCompleted : ListCompletedQuery :=
  { createdBy := some ⟨["o'brien"], false⟩, label := some ⟨["a?b"], false⟩,
    scriptPathExact := some ⟨["f/x)"], false⟩, success := some false, allWorkspaces := some true }

theorem listJobs_scoped_to_workspace_ws :
    (WhereOf (listQueueJobsQuery "ws" allWorkspacesQueue (some ["t'1", "(x)?"])).wheres
        (listQueueJobsConds "ws" allWorkspacesQueue (some ["t'1", "(x)?"])) ∧
      Cond.eq .queueWorkspaceId "ws" ∈ listQueueJobsConds "ws" allWorkspacesQueue (some ["t'1", "(x)?"]) ∧
      ∀ r, Selects (listQueueJobsConds "ws" allWorkspacesQueue (some ["t'1", "(x)?"])) r →
        r.value .queueWorkspaceId = some "ws") ∧
    (WhereOf (listCompletedJobsQuery "ws" allWorkspacesCompleted (some ["t'1", "(x)?"])).wheres
        (listCompletedJobsConds "ws" allWorkspacesCompleted (some ["t'1", "(x)?"])) ∧
      Cond.eq .completedWorkspaceId "ws" ∈
        listCompletedJobsConds "ws" allWorkspacesCompleted (some ["t'1", "(x)?"]) ∧
      Cond.eq .jobWorkspaceId "ws" ∈
        listCompletedJobsConds "ws" allWorkspacesCompleted (some ["t'1", "(x)?"]) ∧
      ∀ r, Selects (listCompletedJobsConds "ws" allWorkspacesCompleted (some ["t'1", "(x)?"])) r →
        r.value .completedWorkspaceId = some "ws" ∧ r.value .jobWorkspaceId = some "ws") :=
  ⟨(listJobs_scoped_to_workspace "ws" (some ["t'1", "(x)?"]) allWorkspacesQueue
      allWorkspacesCompleted).1 (by decide),
    (listJobs_scoped_to_workspace "ws" (some ["t'1", "(x)?"]) allWorkspacesQueue
      allWorkspacesCompleted).2 (by decide)⟩

/-! ## The JSON containment filters -/

/-- `{"a":"it's"}`. -/
def argsWithApostrophe : String := "\x7b\"a\":\"it's\"\x7d"

/-- The literal of the `args` and `result` filters denotes the JSON text with its apostrophes
doubled, not the text itself. -/
theorem jsonFilter_literal_doubles_apostrophes :
    lex (makeWheres (listQueueJobsQuery "admins"
        { args := some argsWithApostrophe, allWorkspaces := some true } none).wheres) =
      some (whereToks [plainToks "args @> " ++ [.lit "\x7b\"a\":\"it''s\"\x7d"]]) ∧
    lex (makeWheres (listCompletedJobsQuery "admins"
        { result := some argsWithApostrophe, allWorkspaces := some true } none).wheres) =
      some (whereToks [plainToks "result @> " ++ [.lit "\x7b\"a\":\"it''s\"\x7d"]]) ∧
    "\x7b\"a\":\"it''s\"\x7d" ≠ argsWithApostrophe := by
  rw [listQueueJobsQuery_wheres, Cond.lex_makeWheres, listCompletedJobsQuery_wheres,
    Cond.lex_makeWheres]
  decide

end Windmill.Jobs
