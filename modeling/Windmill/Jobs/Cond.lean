import Windmill.Sql.Lexer
import Windmill.Sql.Jsonb

/-!
# The conditions the job filters write

Every entry the job-list builders add to a WHERE list has one of a few shapes: a column
compared with a quoted value, `IN` and `NOT IN` lists, `LIKE` patterns, the jsonb label tests,
and `AND`, `OR`, `NOT` and parentheses around those.  `Cond` is that set of shapes, and
`Cond.render` writes each one exactly as the builders' `format!` strings and `sql_builder`
calls do; `Jobs/Query.lean` proves that the builders' text is the rendering of their
conditions.

Two readings of a condition rest on that: `Cond.toks`, how PostgreSQL's lexer reads the text
(`lexFrom_render`: every value is one literal denoting it, and `Cond.balanced`: parentheses
match); and `Cond.eval`, SQL's three-valued truth of the condition on a row.
-/

namespace Windmill.Jobs

open Windmill.Sql

/-! ## Columns and values -/

/-- The columns the job filters and the trigger listing name. -/
inductive Column where
  | queueWorkspaceId
  | completedWorkspaceId
  | jobWorkspaceId
  | queueWorker
  | completedWorker
  | runnablePath
  | trigger
  | triggerKind
  | runnableId
  | createdBy
  | jobTag
  | running
  | parentJob
  | startedAt
  | flowStepId
  | jobCreatedAt
  | createdAt
  | suspend
  | suspendUntil
  | kind
  | args
  | result
  | scheduledFor
  | status
  | completedAt
  | workspaceId
  | scriptPath
  | isFlow
  | path
  deriving DecidableEq, Repr

/-- The column as the code writes it. -/
def Column.name : Column → String
  | .queueWorkspaceId => "v2_job_queue.workspace_id"
  | .completedWorkspaceId => "v2_job_completed.workspace_id"
  | .jobWorkspaceId => "v2_job.workspace_id"
  | .queueWorker => "v2_job_queue.worker"
  | .completedWorker => "v2_job_completed.worker"
  | .runnablePath => "runnable_path"
  | .trigger => "trigger"
  | .triggerKind => "trigger_kind"
  | .runnableId => "runnable_id"
  | .createdBy => "created_by"
  | .jobTag => "v2_job.tag"
  | .running => "running"
  | .parentJob => "parent_job"
  | .startedAt => "started_at"
  | .flowStepId => "flow_step_id"
  | .jobCreatedAt => "v2_job.created_at"
  | .createdAt => "created_at"
  | .suspend => "suspend"
  | .suspendUntil => "suspend_until"
  | .kind => "kind"
  | .args => "args"
  | .result => "result"
  | .scheduledFor => "scheduled_for"
  | .status => "status"
  | .completedAt => "completed_at"
  | .workspaceId => "workspace_id"
  | .scriptPath => "script_path"
  | .isFlow => "is_flow"
  | .path => "path"

/-- Text the lexer reads character by character, with no parenthesis. -/
def PlainText (t : List Char) : Prop := ∀ c ∈ t, c ≠ '\'' ∧ c ≠ '(' ∧ c ≠ ')'

instance (t : List Char) : Decidable (PlainText t) :=
  inferInstanceAs (Decidable (∀ c ∈ t, c ≠ '\'' ∧ c ≠ '(' ∧ c ≠ ')'))

theorem Column.plain (c : Column) : PlainText c.name.data := by
  cases c <;> decide

theorem Column.name_ne (c : Column) : c.name.data ≠ [] := by
  cases c <;> decide

theorem PlainText.noQuote {t : List Char} (h : PlainText t) : '\'' ∉ t :=
  fun m => (h _ m).1 rfl

theorem PlainText.depth {t : List Char} (h : PlainText t) (d : Nat) :
    depth d (t.map symTok) = some d := by
  induction t with
  | nil => rfl
  | cons c t ih =>
    obtain ⟨_, hl, hr⟩ := h c (List.mem_cons_self c t)
    simp only [List.map_cons, symTok, hl, hr, if_false, Sql.depth]
    exact ih (fun x hx => h x (List.mem_cons_of_mem c hx))

theorem digitChar_plain : ∀ k < 10, PlainText [Nat.digitChar k] := by
  decide

theorem toDigitsCore_plain :
    ∀ (fuel n : Nat) (ds : List Char), PlainText ds → PlainText (Nat.toDigitsCore 10 fuel n ds)
  | 0, _, _, h => h
  | fuel + 1, n, ds, h => by
    have digit : PlainText (Nat.digitChar (n % 10) :: ds) := by
      intro c hc
      rcases List.mem_cons.mp hc with rfl | hc
      · exact digitChar_plain _ (Nat.mod_lt n (by decide)) _ (List.mem_singleton_self _)
      · exact h c hc
    have unfolded : Nat.toDigitsCore 10 (fuel + 1) n ds =
        if n / 10 = 0 then Nat.digitChar (n % 10) :: ds
        else Nat.toDigitsCore 10 fuel (n / 10) (Nat.digitChar (n % 10) :: ds) := rfl
    rw [unfolded]
    split
    · exact digit
    · exact toDigitsCore_plain fuel _ _ digit

theorem Nat.repr_plain (n : Nat) : PlainText (toString n).data :=
  toDigitsCore_plain (n + 1) n [] (fun _ h => absurd h (List.not_mem_nil _))

theorem Int.repr_plain : ∀ i : Int, PlainText (toString i).data
  | .ofNat n => Nat.repr_plain n
  | .negSucc n => by
    intro c hc
    change c ∈ '-' :: (toString (n + 1)).data at hc
    rcases List.mem_cons.mp hc with rfl | hc
    · decide
    · exact Nat.repr_plain (n + 1) c hc

/-- The right-hand sides of comparisons: a quoted value, or a constant the code writes. -/
inductive Rhs where
  | lit (s : String)
  /-- A `bool` through `ToString`. -/
  | bool (b : Bool)
  /-- A `bool` through `SqlArg`. -/
  | sqlBool (b : Bool)
  | num (n : Nat)
  | now
  /-- `to_timestamp(ms  / 1000.0)`. -/
  | toTimestamp (ms : Int)
  deriving DecidableEq, Repr

def Rhs.render : Rhs → String
  | .lit s => quote s
  | .bool b => toString b
  | .sqlBool b => if b then "TRUE" else "FALSE"
  | .num n => toString n
  | .now => "now()"
  | .toTimestamp ms => "to_timestamp(" ++ toString ms ++ "  / 1000.0)"

def Rhs.toks : Rhs → List Tok
  | .lit s => [.lit s]
  | .bool b => plainToks (toString b)
  | .sqlBool b => plainToks (if b then "TRUE" else "FALSE")
  | .num n => plainToks (toString n)
  | .now => plainToks "now()"
  | .toTimestamp ms => plainToks "to_timestamp(" ++ plainToks (toString ms) ++ plainToks "  / 1000.0)"

/-- The comparison operators the builders write. -/
inductive CmpOp where
  | eq
  | ne
  | le
  | ge
  | gt
  | lt
  deriving DecidableEq, Repr

def CmpOp.text : CmpOp → String
  | .eq => " = "
  | .ne => " <> "
  | .le => " <= "
  | .ge => " >= "
  | .gt => " > "
  | .lt => " < "

/-! ## Conditions and their text -/

/-- `not_in_nullable` of `query.rs`: `NOT IN` that also keeps the rows where the column is
NULL. -/
def notInNullable (col : String) (quoted : List String) : String :=
  "(" ++ col ++ " IS NULL OR " ++ col ++ " NOT IN (" ++ join ", " quoted ++ "))"

/-- The shapes of condition the job-list builders write. -/
inductive Cond where
  /-- `c = 'v'`. -/
  | eq (c : Column) (v : String)
  /-- A comparison the model leaves to the database: timestamps, counters, flags. -/
  | cmp (c : Column) (op : CmpOp) (v : Rhs)
  | isNull (c : Column)
  | isNotNull (c : Column)
  | inList (c : Column) (vs : List String)
  | notInList (c : Column) (vs : List String)
  | notInNullable (c : Column) (vs : List String)
  | like (c : Column) (p : String)
  | notLike (c : Column) (p : String)
  | distinctFrom (c : Column) (v : String)
  /-- `c @> 'json'`, jsonb containment. -/
  | contains (c : Column) (json : String)
  /-- `c ? 'k'`. -/
  | hasKey (c : Column) (k : String)
  /-- `result->'wm_labels' ? 'k'`. -/
  | labelHas (k : String)
  /-- The `EXISTS` subquery over the elements of `result->'wm_labels'`. -/
  | labelLike (p : String)
  | not (a : Cond)
  | and (a b : Cond)
  | or (a b : Cond)
  | paren (a : Cond)
  /-- What an empty list of clauses joins to. -/
  | empty
  deriving Repr

namespace Cond

def render : Cond → String
  | .eq c v => c.name ++ " = " ++ quote v
  | .cmp c op v => c.name ++ op.text ++ v.render
  | .isNull c => c.name ++ " IS NULL"
  | .isNotNull c => c.name ++ " IS NOT NULL"
  | .inList c vs => SqlBuilder.inText c.name (vs.map quote)
  | .notInList c vs => SqlBuilder.notInText c.name (vs.map quote)
  | .notInNullable c vs => Jobs.notInNullable c.name (vs.map quote)
  | .like c p => c.name ++ " LIKE " ++ quote p
  | .notLike c p => c.name ++ " NOT LIKE " ++ quote p
  | .distinctFrom c v => c.name ++ " IS DISTINCT FROM " ++ quote v
  | .contains c j => c.name ++ " @> " ++ quote j
  | .hasKey c k => c.name ++ " ? " ++ quote k
  | .labelHas k => "result->" ++ quote "wm_labels" ++ " ? " ++ quote k
  | .labelLike p =>
    "EXISTS (SELECT 1 FROM jsonb_array_elements_text(result->" ++ quote "wm_labels" ++
      ") lbl WHERE jsonb_typeof(result->" ++ quote "wm_labels" ++ ") = " ++ quote "array" ++
      " AND lbl LIKE " ++ quote p ++ ")"
  | .not a => "NOT " ++ a.render
  | .and a b => a.render ++ " AND " ++ b.render
  | .or a b => a.render ++ " OR " ++ b.render
  | .paren a => "(" ++ a.render ++ ")"
  | .empty => ""

/-- The tokens PostgreSQL reads from `render`. -/
def toks : Cond → List Tok
  | .eq c v => plainToks c.name ++ plainToks " = " ++ [.lit v]
  | .cmp c op v => plainToks c.name ++ plainToks op.text ++ v.toks
  | .isNull c => plainToks c.name ++ plainToks " IS NULL"
  | .isNotNull c => plainToks c.name ++ plainToks " IS NOT NULL"
  | .inList c vs => plainToks c.name ++ plainToks " IN (" ++ litList vs ++ plainToks ")"
  | .notInList c vs => plainToks c.name ++ plainToks " NOT IN (" ++ litList vs ++ plainToks ")"
  | .notInNullable c vs =>
    plainToks "(" ++ plainToks c.name ++ plainToks " IS NULL OR " ++ plainToks c.name ++
      plainToks " NOT IN (" ++ litList vs ++ plainToks "))"
  | .like c p => plainToks c.name ++ plainToks " LIKE " ++ [.lit p]
  | .notLike c p => plainToks c.name ++ plainToks " NOT LIKE " ++ [.lit p]
  | .distinctFrom c v => plainToks c.name ++ plainToks " IS DISTINCT FROM " ++ [.lit v]
  | .contains c j => plainToks c.name ++ plainToks " @> " ++ [.lit j]
  | .hasKey c k => plainToks c.name ++ plainToks " ? " ++ [.lit k]
  | .labelHas k => plainToks "result->" ++ [.lit "wm_labels"] ++ plainToks " ? " ++ [.lit k]
  | .labelLike p =>
    plainToks "EXISTS (SELECT 1 FROM jsonb_array_elements_text(result->" ++ [.lit "wm_labels"] ++
      plainToks ") lbl WHERE jsonb_typeof(result->" ++ [.lit "wm_labels"] ++ plainToks ") = " ++
      [.lit "array"] ++ plainToks " AND lbl LIKE " ++ [.lit p] ++ plainToks ")"
  | .not a => plainToks "NOT " ++ a.toks
  | .and a b => a.toks ++ plainToks " AND " ++ b.toks
  | .or a b => a.toks ++ plainToks " OR " ++ b.toks
  | .paren a => plainToks "(" ++ a.toks ++ plainToks ")"
  | .empty => []

/-- `clauses.join(" AND ")`. -/
def andList : List Cond → Cond
  | [] => .empty
  | [c] => c
  | c :: d :: cs => .and c (andList (d :: cs))

/-- `clauses.join(" OR ")`. -/
def orList : List Cond → Cond
  | [] => .empty
  | [c] => c
  | c :: d :: cs => .or c (orList (d :: cs))

theorem render_andList : ∀ cs : List Cond, (andList cs).render = join " AND " (cs.map render)
  | [] => rfl
  | [c] => rfl
  | c :: d :: cs => by
    rw [andList, render, render_andList (d :: cs)]
    rfl

theorem render_orList : ∀ cs : List Cond, (orList cs).render = join " OR " (cs.map render)
  | [] => rfl
  | [c] => rfl
  | c :: d :: cs => by
    rw [orList, render, render_orList (d :: cs)]
    rfl

end Cond

/-! ## How PostgreSQL reads the text -/

/-- A right-hand side is read as its tokens. -/
theorem Rhs.lexFrom_render (ts : List Tok) (v : Rhs) (rest : List Char)
    (next : rest.head? ≠ some '\'') :
    lexFrom ts (v.render.data ++ rest) = lexFrom (ts ++ v.toks) rest := by
  cases v with
  | lit s => exact lexFrom_quote ts s rest next
  | bool b => cases b <;> exact lexFrom_plain _ _ _ (by decide)
  | sqlBool b => cases b <;> exact lexFrom_plain _ _ _ (by decide)
  | num n => exact lexFrom_plain _ _ _ (Nat.repr_plain n).noQuote
  | now => exact lexFrom_plain _ _ _ (by decide)
  | toTimestamp ms =>
    simp only [Rhs.render, Rhs.toks, String.data_append, List.append_assoc, plainToks]
    rw [lexFrom_plain _ _ _ (by decide), lexFrom_plain _ _ _ (Int.repr_plain ms).noQuote,
      lexFrom_plain _ _ _ (by decide)]
    simp

/-- Every condition's text is read as its tokens: each value it holds is one literal denoting
that value, whatever characters the value has. -/
theorem Cond.lexFrom_render (c : Cond) : ∀ (ts : List Tok) (rest : List Char),
    rest.head? ≠ some '\'' → lexFrom ts (c.render.data ++ rest) = lexFrom (ts ++ c.toks) rest := by
  intro ts rest next
  induction c generalizing ts rest <;>
    simp only [Cond.render, Cond.toks, SqlBuilder.inText, SqlBuilder.notInText, Jobs.notInNullable,
      String.data_append, List.append_assoc, plainToks]
  case eq c v | like c p | notLike c p | distinctFrom c p | contains c p | hasKey c p =>
    rw [lexFrom_plain _ _ _ c.plain.noQuote, lexFrom_plain _ _ _ (by decide),
      lexFrom_quote _ _ _ next]
    simp only [List.append_assoc]
  case cmp c op v =>
    rw [lexFrom_plain _ _ _ c.plain.noQuote, lexFrom_plain _ _ _ (by cases op <;> decide),
      Rhs.lexFrom_render _ _ _ next]
    simp only [List.append_assoc]
  case isNull c | isNotNull c =>
    rw [lexFrom_plain _ _ _ c.plain.noQuote, lexFrom_plain _ _ _ (by decide)]
    simp only [List.append_assoc]
  case inList c vs | notInList c vs =>
    rw [lexFrom_plain _ _ _ c.plain.noQuote, lexFrom_plain _ _ _ (by decide),
      lexFrom_quotes _ _ _ (by simp), lexFrom_plain _ _ _ (by decide)]
    simp only [List.append_assoc]
  case notInNullable c vs =>
    rw [lexFrom_plain _ _ _ (by decide), lexFrom_plain _ _ _ c.plain.noQuote,
      lexFrom_plain _ _ _ (by decide), lexFrom_plain _ _ _ c.plain.noQuote,
      lexFrom_plain _ _ _ (by decide), lexFrom_quotes _ _ _ (by simp),
      lexFrom_plain _ _ _ (by decide)]
    simp only [List.append_assoc]
  case labelHas k =>
    rw [lexFrom_plain _ _ _ (by decide), lexFrom_quote _ _ _ (by simp),
      lexFrom_plain _ _ _ (by decide), lexFrom_quote _ _ _ next]
    simp only [List.append_assoc]
  case labelLike p =>
    rw [lexFrom_plain _ _ _ (by decide), lexFrom_quote _ _ _ (by simp),
      lexFrom_plain _ _ _ (by decide), lexFrom_quote _ _ _ (by simp),
      lexFrom_plain _ _ _ (by decide), lexFrom_quote _ _ _ (by simp),
      lexFrom_plain _ _ _ (by decide), lexFrom_quote _ _ _ (by simp),
      lexFrom_plain _ _ _ (by decide)]
    simp only [List.append_assoc]
  case not a ih =>
    rw [lexFrom_plain _ _ _ (by decide), ih _ _ next]
    simp only [List.append_assoc]
  case and a b iha ihb | or a b iha ihb =>
    rw [iha _ _ (by simp), lexFrom_plain _ _ _ (by decide), ihb _ _ next]
    simp only [List.append_assoc]
  case paren a ih =>
    rw [lexFrom_plain _ _ _ (by decide), ih _ _ (by simp), lexFrom_plain _ _ _ (by decide)]
    simp only [List.append_assoc]
  case empty => simp

theorem Rhs.depth_toks (v : Rhs) (d : Nat) : depth d v.toks = some d := by
  cases v with
  | lit s => rfl
  | bool b => cases b <;> rfl
  | sqlBool b => cases b <;> rfl
  | num n => exact (Nat.repr_plain n).depth d
  | now => rfl
  | toTimestamp ms =>
    simp only [Rhs.toks, plainToks, depth_append, (Int.repr_plain ms).depth]
    rfl

/-- Every condition closes each parenthesis it opens, and no other. -/
theorem Cond.depth_toks (c : Cond) : ∀ d, depth d c.toks = some d := by
  induction c with
  | cmp c op v =>
    intro d
    simp only [Cond.toks, plainToks, depth_append, c.plain.depth, Option.bind_some, v.depth_toks]
    cases op <;> rfl
  | not a ih => intro d; simp [Cond.toks, plainToks, depth_append, ih, symTok, depth]
  | and a b iha ihb | or a b iha ihb =>
    intro d
    simp [Cond.toks, plainToks, depth_append, iha, ihb, symTok, depth]
  | paren a ih => intro d; simp [Cond.toks, plainToks, depth_append, ih, symTok, depth]
  | empty => intro d; rfl
  | _ => intro d; simp [Cond.toks, plainToks, depth_append, Column.plain, PlainText.depth, symTok, depth]

theorem Cond.lex_render (c : Cond) : lex c.render = some c.toks := by
  simpa [lex, lexFrom_nil] using c.lexFrom_render [] [] (by simp)

theorem Cond.balanced (c : Cond) : Balanced c.toks := c.depth_toks 0

/-- Conditions each in parentheses and joined by `AND` are read as `conjToks`. -/
theorem Cond.lexFrom_conj : ∀ (cs : List Cond), cs ≠ [] → ∀ (ts : List Tok) (rest : List Char),
    rest.head? ≠ some '\'' →
      lexFrom ts ((join " AND " (cs.map fun c => "(" ++ c.render ++ ")")).data ++ rest) =
        lexFrom (ts ++ conjToks (cs.map Cond.toks)) rest
  | [], nonempty => absurd rfl nonempty
  | [c], _ => by
    intro ts rest _
    simp only [List.map_cons, List.map_nil, join, conjToks, String.data_append,
      List.append_assoc]
    rw [lexFrom_plain _ _ _ (by decide), c.lexFrom_render _ _ (by simp),
      lexFrom_plain _ _ _ (by decide)]
    simp [symTok]
  | c :: d :: cs, _ => by
    intro ts rest next
    have tail := Cond.lexFrom_conj (d :: cs) (List.cons_ne_nil d cs)
    simp only [List.map_cons] at tail ⊢
    simp only [join, conjToks, String.data_append, List.append_assoc]
    rw [lexFrom_plain _ _ _ (by decide), c.lexFrom_render _ _ (by simp),
      lexFrom_plain _ _ _ (by decide), lexFrom_plain _ _ _ (by decide), tail _ _ next]
    simp [symTok, plainToks]

/-- The WHERE clause `make_wheres` writes for the texts of `cs` is read as the conjuncts'
tokens, laid out as `whereToks`. -/
theorem Cond.lex_makeWheres : ∀ cs : List Cond,
    lex (makeWheres (cs.map Cond.render)) = some (whereToks (cs.map Cond.toks))
  | [] => rfl
  | [c] => by
    show lexFrom [] (" WHERE " ++ c.render).data = _
    rw [String.data_append, lexFrom_plain _ _ _ (by decide), ← List.append_nil c.render.data,
      c.lexFrom_render _ _ (by simp), lexFrom_nil]
    rfl
  | c :: d :: cs => by
    show lexFrom [] (" WHERE " ++ join " AND " (((c :: d :: cs).map Cond.render).map
      fun x => "(" ++ x ++ ")")).data = _
    simp only [List.map_map, Function.comp_def]
    rw [String.data_append, lexFrom_plain _ _ _ (by decide), ← List.append_nil (join _ _).data,
      Cond.lexFrom_conj _ (List.cons_ne_nil _ _) _ _ (by simp), lexFrom_nil]
    rfl

theorem Cond.render_ne_empty {c : Cond} (nonempty : c ≠ .empty) : c.render ≠ "" := by
  intro blank
  have := congrArg String.data blank
  cases c <;> simp only [Cond.render, SqlBuilder.inText, SqlBuilder.notInText, Jobs.notInNullable,
    String.data_append, List.append_eq_nil, Column.name_ne, false_and, and_false] at this nonempty
  all_goals simp_all

/-- `and_where` of a condition's text adds exactly that text. -/
theorem andWhere_render (b : SqlBuilder) {c : Cond} (nonempty : c ≠ .empty) :
    b.andWhere c.render = ⟨b.wheres ++ [c.render]⟩ :=
  SqlBuilder.andWhere_of_ne b (Cond.render_ne_empty nonempty)

/-! ## Truth on a row -/

/-- What a condition reads of a job row.  Scalar columns are seen in their text form, SQL NULL
as `none`, and jsonb columns as `Json`.  Comparisons on timestamps, counters and flags, and
jsonb containment, are left to the database: the row gives their truth directly. -/
structure Row where
  value : Column → Option String
  json : Column → Option Json
  compare : Column → CmpOp → Rhs → Option Bool
  contains : Column → String → Option Bool

/-- The labels of a row, `result->'wm_labels'`. -/
def Row.labels (r : Row) : Option Json := (r.json .result).bind (·.get "wm_labels")

/-- SQL `AND`, with `none` for unknown. -/
def sqlAnd : Option Bool → Option Bool → Option Bool
  | some false, _ => some false
  | _, some false => some false
  | some true, some true => some true
  | _, _ => none

/-- SQL `OR`, with `none` for unknown. -/
def sqlOr : Option Bool → Option Bool → Option Bool
  | some true, _ => some true
  | _, some true => some true
  | some false, some false => some false
  | _, _ => none

namespace Cond

/-- The three-valued truth of a condition on a row (`none` is unknown), as PostgreSQL computes
it. -/
def eval (r : Row) : Cond → Option Bool
  | .eq c v => (r.value c).map (· == v)
  | .cmp c op v => r.compare c op v
  | .isNull c => some (r.value c).isNone
  | .isNotNull c => some (r.value c).isSome
  | .inList c vs => (r.value c).map vs.contains
  | .notInList c vs => (r.value c).map fun x => !vs.contains x
  | .notInNullable c vs =>
    sqlOr (some (r.value c).isNone) ((r.value c).map fun x => !vs.contains x)
  | .like c p => (r.value c).map fun x => likeMatch p.data x.data
  | .notLike c p => (r.value c).map fun x => !likeMatch p.data x.data
  | .distinctFrom c v => some (r.value c != some v)
  | .contains c j => r.contains c j
  | .hasKey c k => (r.json c).map (·.hasKey k)
  | .labelHas k => r.labels.map (·.hasKey k)
  | .labelLike p => some (labelsLike r.labels p.data)
  | .not a => (eval r a).map (!·)
  | .and a b => sqlAnd (eval r a) (eval r b)
  | .or a b => sqlOr (eval r a) (eval r b)
  | .paren a => eval r a
  | .empty => none

/-- PostgreSQL accepts the condition: no empty `IN` list or empty group, and no `LIKE` pattern
ending in an unpaired escape character. -/
def valid : Cond → Bool
  | .inList _ vs | .notInList _ vs | .notInNullable _ vs => !vs.isEmpty
  | .like _ p | .notLike _ p | .labelLike p => likeValid p.data
  | .not a | .paren a => valid a
  | .and a b | .or a b => valid a && valid b
  | .empty => false
  | _ => true

end Cond

/-- A query whose WHERE list holds the conditions `cs` returns the row `r`: PostgreSQL accepts
every condition, and each is true of `r`. -/
def Selects (cs : List Cond) (r : Row) : Prop :=
  ∀ c ∈ cs, c.valid = true ∧ c.eval r = some true

instance (cs : List Cond) (r : Row) : Decidable (Selects cs r) :=
  inferInstanceAs (Decidable (∀ c ∈ cs, c.valid = true ∧ c.eval r = some true))

end Windmill.Jobs
