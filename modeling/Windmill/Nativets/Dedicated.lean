import Mathlib.Logic.Relation

/-!
# The pre-warmed isolate and its host

`PrewarmedIsolate::spawn` (`windmill-runtime-nativets/src/dedicated.rs`) starts a worker thread
that builds a runtime, loads the client module and the user module, signals that it is ready,
and awaits the arguments; it then runs `main` and sends back the result with the logs.  The
host awaits readiness with `wait_ready`, sends the arguments with `start_execution`, which
consumes the instance, and collects the result with `ExecutingIsolate::wait`, which receives it
and joins the thread.  The two sides talk only through three tokio one-shot channels: `ready`,
`args` and `result`.

`Isolate` holds the state of both sides and of the three channels, and `next` takes one step of
either side, at the points where the code awaits or exits; every interleaving of the two sides is
a sequence of such steps from `spawn` (`Reachable`).  A future of the host may be dropped at any of
its awaits: `wait_ready` after it took `ready_rx` out of the instance (`Action.cancelReady`), and
`wait` at either of its two awaits (`Action.drop`).  Over every such run:

* the worker runs `main` only on the arguments `start_execution` sent, so at most once; a `wait`
  that returns a result returns the one `main` produced on them; only the first `wait_ready` takes
  `ready_rx`, and if it receives from it, it returns `Ok` only for a worker that loaded both
  modules and `Err` only for one that failed; every later call returns `Ok` at once, whatever the
  worker did (`prewarmedIsolate_safe`).  So when the first call is dropped while it awaits
  `ready_rx` (a cancelled future), the next call returns `Ok` for a worker still loading, or one
  about to fail;
* after a drop before `start_execution`, the argument channel stays closed: the worker never
  runs `main`, and once loaded its only step is to exit (`dropped_never_runs`);
* `wait` cannot block forever: from every reachable state where the host holds the executing
  handle, some run of the two sides ends with `wait` returned, with any result `main` may still
  produce (`wait_returns`).

The invariant `Inv` says what each channel holds as a function of the two sides' states
(`Worker.readySignal`, `Isolate.argsSignal`, `Worker.resultSignal`); `Inv.next` shows that every
step keeps it, one lemma per transition.

What `main` computes is outside the model: the step that runs it may produce any result.
Panics of the worker thread, which only surface through the join, are not modelled.
-/

namespace Windmill.Nativets

/-- What `wait` hands back: the value of `main` as JSON text or an error message, and the logs. -/
structure PrewarmedResult where
  result : Except String String
  logs : String

/-- A tokio one-shot channel, as its two ends can tell it. -/
inductive Oneshot (α : Type) where
  /-- Both ends alive, nothing sent. -/
  | idle
  /-- A value sent and not yet received. -/
  | full (a : α)
  /-- The sender dropped without sending: awaiting the receiver gives `Err`. -/
  | closed
  /-- The receiver is gone, having taken the value or been dropped: a send is lost. -/
  | gone

namespace Oneshot

variable {α : Type}

/-- `Sender::send`, whose error the code ignores. -/
def send : Oneshot α → α → Oneshot α
  | .idle, a => .full a
  | ch, _ => ch

/-- Dropping the sender. -/
def dropSender : Oneshot α → Oneshot α
  | .idle => .closed
  | ch => ch

end Oneshot

/-- The worker thread of `spawn`, at the points of its body where it awaits or ends. -/
inductive Worker where
  /-- Building the runtime (`create_nativets_runtime`). -/
  | creating
  | loadingClient
  | loadingUser
  /-- Readiness sent, awaiting `args_rx`. -/
  | awaitingArgs
  /-- Running `main` on these arguments. -/
  | executing (args : String)
  /-- The result of `main` on `args` sent, and `Ok(())` returned. -/
  | finished (args : String) (result : PrewarmedResult)
  /-- The argument channel closed: `Ok(())` returned without running `main`. -/
  | exited
  /-- Building the runtime or loading a module failed: the error returned. -/
  | failed (error : String)

namespace Worker

/-- The arguments `main` ran on, if it ran. -/
def ran : Worker → Option String
  | .executing a | .finished a _ => some a
  | _ => none

/-- Both modules are loaded: the worker is past the readiness signal. -/
def Loaded : Worker → Prop
  | .awaitingArgs | .executing _ | .finished _ _ | .exited => True
  | _ => False

/-- Still building the runtime or loading a module. -/
def Loading : Worker → Prop
  | .creating | .loadingClient | .loadingUser => True
  | _ => False

end Worker

/-- The host side. -/
inductive Host where
  /-- Holding the `PrewarmedIsolate`; `readyTaken` says whether `wait_ready` took `ready_rx`. -/
  | prewarmed (readyTaken : Bool)
  /-- Inside the first `wait_ready`: `ready_rx` taken out of the instance and awaited. -/
  | awaitingReady
  /-- Holding the `ExecutingIsolate` that `start_execution` returned. -/
  | executing
  /-- Inside `wait`: the result received, the worker being joined. -/
  | joining (result : PrewarmedResult)
  /-- `wait` returned. -/
  | waited (outcome : Except String PrewarmedResult)
  /-- The instance, the executing handle, or a `wait` in progress dropped. -/
  | dropped

/-- How a call of `wait_ready` ended. -/
inductive ReadyCall where
  /-- It took `ready_rx`, awaited it, and returned what the channel gave. -/
  | received (outcome : Except String Unit)
  /-- It took `ready_rx` and was dropped while awaiting it, as a cancelled future is. -/
  | cancelled
  /-- It found `ready_rx` already taken and returned `Ok(())` at once. -/
  | skipped

/-- Both sides and the three channels. -/
structure Isolate where
  host : Host
  worker : Worker
  ready : Oneshot Unit
  args : Oneshot String
  result : Oneshot PrewarmedResult
  /-- How the calls of `wait_ready` ended, the latest first; no code reads this field. -/
  readyCalls : List ReadyCall
  /-- The arguments `start_execution` sent; no code reads this field. -/
  sent : Option String

/-- The state `spawn` returns in. -/
def spawn : Isolate :=
  ⟨.prewarmed false, .creating, .idle, .idle, .idle, [], none⟩

/-- One step of either side.  A worker step names the error of a load that fails, or the result
`main` produces. -/
inductive Action where
  | create (error : Option String)
  | loadClient (error : Option String)
  | loadUser (error : Option String)
  | receiveArgs
  | execute (result : PrewarmedResult)
  /-- A call of `wait_ready` starts: it takes `ready_rx`, or returns at once when it is gone. -/
  | waitReady
  /-- The call awaiting `ready_rx` gets the signal or the closing of the channel. -/
  | receiveReady
  /-- The call awaiting `ready_rx` is dropped there. -/
  | cancelReady
  | startExecution (args : String)
  | receiveResult
  | join
  /-- The host drops the instance, the executing handle, or the future of `wait` at one of its
  awaits. -/
  | drop

namespace Isolate

/-- The worker returns an error: its ends of the three channels are dropped. -/
def fail (s : Isolate) (e : String) : Isolate :=
  { s with worker := .failed e, ready := s.ready.dropSender, args := .gone,
           result := s.result.dropSender }

/-- The call of `wait_ready` awaiting `ready_rx` ends: the receiver is dropped, and the instance
keeps `None` in its place. -/
def endReadyCall (s : Isolate) (call : ReadyCall) : Isolate :=
  { s with host := .prewarmed true, ready := .gone, readyCalls := call :: s.readyCalls }

/-- The end of a loading step: on to `following`, or the error returned. -/
def afterLoad (s following : Isolate) : Option String → Isolate
  | some e => s.fail e
  | none => following

end Isolate

/-- One step, or `none` where the side that would take it is elsewhere or blocked. -/
def next (s : Isolate) : Action → Option Isolate
  | .create e =>
    match s.worker with
    | .creating => some (s.afterLoad { s with worker := .loadingClient } e)
    | _ => none
  | .loadClient e =>
    match s.worker with
    | .loadingClient => some (s.afterLoad { s with worker := .loadingUser } e)
    | _ => none
  | .loadUser e =>
    match s.worker with
    | .loadingUser =>
      some (s.afterLoad { s with worker := .awaitingArgs, ready := s.ready.send () } e)
    | _ => none
  | .receiveArgs =>
    match s.worker, s.args with
    | .awaitingArgs, .full a => some { s with worker := .executing a, args := .gone }
    | .awaitingArgs, .closed =>
      some { s with worker := .exited, args := .gone, result := s.result.dropSender }
    | _, _ => none
  | .execute r =>
    match s.worker with
    | .executing a => some { s with worker := .finished a r, result := s.result.send r }
    | _ => none
  | .waitReady =>
    match s.host with
    | .prewarmed false => some { s with host := .awaitingReady }
    | .prewarmed true => some { s with readyCalls := .skipped :: s.readyCalls }
    | _ => none
  | .receiveReady =>
    match s.host, s.ready with
    | .awaitingReady, .full () => some (s.endReadyCall (.received (.ok ())))
    | .awaitingReady, .closed =>
      some (s.endReadyCall (.received (.error "isolate failed during pre-warm")))
    | _, _ => none
  | .cancelReady =>
    match s.host with
    | .awaitingReady => some (s.endReadyCall .cancelled)
    | _ => none
  | .startExecution a =>
    match s.host with
    | .prewarmed _ =>
      some { s with host := .executing, ready := .gone, args := s.args.send a, sent := some a }
    | _ => none
  | .receiveResult =>
    match s.host, s.result with
    | .executing, .full r => some { s with host := .joining r, result := .gone }
    | .executing, .closed =>
      some { s with host := .waited (.error "isolate result channel closed"), result := .gone }
    | _, _ => none
  | .join =>
    match s.host, s.worker with
    | .joining r, .finished _ _ | .joining r, .exited => some { s with host := .waited (.ok r) }
    | .joining _, .failed e => some { s with host := .waited (.error e) }
    | _, _ => none
  | .drop =>
    match s.host with
    | .prewarmed _ =>
      some { s with host := .dropped, ready := .gone, args := s.args.dropSender, result := .gone }
    | .executing | .joining _ => some { s with host := .dropped, result := .gone }
    | _ => none

/-- One step of either side. -/
def Step (s s' : Isolate) : Prop := ∃ a, next s a = some s'

/-- The states some interleaving of the two sides reaches from `spawn`. -/
def Reachable (s : Isolate) : Prop := Relation.ReflTransGen Step spawn s

/-- The steps of a list of actions, in order. -/
def run : Isolate → List Action → Option Isolate
  | s, [] => some s
  | s, a :: actions => (next s a).bind (run · actions)

theorem run_steps : ∀ {s s' : Isolate} {actions : List Action}, run s actions = some s' →
    Relation.ReflTransGen Step s s'
  | _, _, [], h => by cases h; exact .refl
  | s, s', a :: actions, h => by
    cases step : next s a with
    | none => simp [run, step] at h
    | some t =>
      simp only [run, step, Option.some_bind] at h
      exact .head ⟨a, step⟩ (run_steps h)

/-! ## What each channel holds -/

namespace Worker

/-- The ready channel while the host has not taken its receiver. -/
def readySignal : Worker → Oneshot Unit
  | .creating | .loadingClient | .loadingUser => .idle
  | .failed _ => .closed
  | _ => .full ()

/-- The result channel while the host holds its receiver. -/
def resultSignal : Worker → Oneshot PrewarmedResult
  | .finished _ r => .full r
  | .exited | .failed _ => .closed
  | _ => .idle

end Worker

namespace Host

/-- Before `start_execution` and before a drop: the host holds the instance, or is inside its
first `wait_ready`. -/
def Unstarted : Host → Prop
  | .prewarmed _ | .awaitingReady => True
  | _ => False

/-- The host holds the receiver of the ready channel, in the instance or in the first
`wait_ready`. -/
def HoldsReady : Host → Prop
  | .prewarmed false | .awaitingReady => True
  | _ => False

/-- The host holds the receiver of the result channel. -/
def HoldsResult : Host → Prop
  | .prewarmed _ | .awaitingReady | .executing => True
  | _ => False

/-- The result `wait` received, once it has. -/
def received : Host → Option PrewarmedResult
  | .joining r | .waited (.ok r) => some r
  | _ => none

end Host

namespace Isolate

/-- The argument channel before the worker takes from it: the arguments sent, else closed when
the host dropped the instance, else idle. -/
def pendingArgs (s : Isolate) : Oneshot String :=
  match s.sent, s.host with
  | some a, _ => .full a
  | none, .dropped => .closed
  | none, _ => .idle

/-- The argument channel: pending until the worker takes from it or fails, then gone. -/
def argsSignal (s : Isolate) : Oneshot String :=
  match s.worker with
  | .creating | .loadingClient | .loadingUser | .awaitingArgs => s.pendingArgs
  | _ => .gone

end Isolate

/-- A call of `wait_ready` that received from `ready_rx` returned `Ok` only for a worker that
loaded, and `Err` only for one that failed. -/
def ReadyCall.Agrees : ReadyCall → Worker → Prop
  | .received (.ok ()), w => w.Loaded
  | .received (.error _), w => ∃ e, w = .failed e
  | _, _ => True

/-- What holds in every reachable state. -/
structure Inv (s : Isolate) : Prop where
  ranSent : ∀ a, s.worker.ran = some a → s.sent = some a
  unsent : s.host.Unstarted → s.sent = none
  started : s.sent = none → s.host.Unstarted ∨ s.host = .dropped
  args : s.args = s.argsSignal
  ready : s.host.HoldsReady → s.ready = s.worker.readySignal ∧ s.readyCalls = []
  taken : s.host = .prewarmed true → s.readyCalls ≠ []
  calls : ∀ c ∈ s.readyCalls, c.Agrees s.worker
  firstCall : s.readyCalls.getLast? ≠ some .skipped
  laterCalls : ∀ c ∈ s.readyCalls.dropLast, c = .skipped
  result : s.host.HoldsResult → s.result = s.worker.resultSignal
  received : ∀ r, s.host.received = some r → ∃ a, s.worker = .finished a r
  exited : s.worker = .exited → s.host = .dropped ∧ s.sent = none

theorem inv_spawn : Inv spawn where
  ranSent _ h := nomatch h
  unsent _ := rfl
  started _ := .inl trivial
  args := rfl
  ready _ := ⟨rfl, rfl⟩
  taken h := nomatch h
  calls _ h := nomatch h
  firstCall h := nomatch h
  laterCalls _ h := nomatch h
  result _ := rfl
  received _ h := nomatch h
  exited h := nomatch h

/-! ## Every step keeps the invariant -/

namespace Worker

variable {w : Worker}

theorem Loading.ran (loading : w.Loading) : w.ran = none := by
  cases w <;> first | rfl | exact loading.elim

theorem Loading.not_loaded (loading : w.Loading) : ¬w.Loaded := by
  cases w <;> simp_all [Loading, Loaded]

theorem Loading.readySignal (loading : w.Loading) : w.readySignal = .idle := by
  cases w <;> first | rfl | exact loading.elim

theorem Loading.resultSignal (loading : w.Loading) : w.resultSignal = .idle := by
  cases w <;> first | rfl | exact loading.elim

theorem loaded_of_readySignal (full : w.readySignal = .full ()) : w.Loaded := by
  cases w <;> simp_all [readySignal, Loaded]

theorem failed_of_readySignal (closed : w.readySignal = .closed) : ∃ e, w = .failed e := by
  cases w <;> simp_all [readySignal]

theorem finished_of_resultSignal {r : PrewarmedResult} (full : w.resultSignal = .full r) :
    ∃ a, w = .finished a r := by
  cases w <;> simp_all [resultSignal]

end Worker

namespace ReadyCall

variable {c : ReadyCall} {w w' : Worker}

/-- A worker that loaded stays loaded, so a call agrees with every later loaded state. -/
theorem Agrees.of_loaded (agrees : c.Agrees w) (loaded : w.Loaded) (loaded' : w'.Loaded) :
    c.Agrees w' := by
  rcases c with (_ | _) | _ | _
  · obtain ⟨e, rfl⟩ := agrees; exact loaded.elim
  · exact loaded'
  · trivial
  · trivial

/-- No call received from `ready_rx` while the worker loads, so none says anything of it. -/
theorem Agrees.of_loading (agrees : c.Agrees w) (loading : w.Loading) : c.Agrees w' := by
  rcases c with (_ | _) | _ | _
  · obtain ⟨e, rfl⟩ := agrees; exact loading.elim
  · exact absurd agrees loading.not_loaded
  · trivial
  · trivial

end ReadyCall

theorem Host.HoldsReady.unstarted {h : Host} (holds : h.HoldsReady) : h.Unstarted := by
  cases h <;> trivial

namespace Isolate

variable {s : Isolate}

theorem argsSignal_of_loading (loading : s.worker.Loading) : s.argsSignal = s.pendingArgs := by
  unfold argsSignal
  split <;> first | rfl | simp_all [Worker.Loading]

theorem sent_of_pendingArgs {a : String} (full : s.pendingArgs = .full a) : s.sent = some a := by
  unfold pendingArgs at full
  split at full <;> simp_all

theorem dropped_of_pendingArgs (closed : s.pendingArgs = .closed) :
    s.sent = none ∧ s.host = .dropped := by
  unfold pendingArgs at closed
  split at closed <;> simp_all

end Isolate

namespace Inv

variable {s : Isolate}

theorem not_received (inv : Inv s) (unfinished : ∀ a r, s.worker ≠ .finished a r) :
    s.host.received = none := by
  cases received : s.host.received with
  | none => rfl
  | some r =>
    obtain ⟨a, finished⟩ := inv.received r received
    exact absurd finished (unfinished a r)

theorem unfinished_of_loading {w : Worker} (loading : w.Loading) (a : String)
    (r : PrewarmedResult) : w ≠ .finished a r := by
  rintro rfl; exact loading

/-! ### The worker's steps -/

/-- A loading worker moves on to another loading point. -/
theorem load (inv : Inv s) (loading : s.worker.Loading) {w : Worker} (loading' : w.Loading) :
    Inv { s with worker := w } where
  ranSent a h := by simp [loading'.ran] at h
  unsent := inv.unsent
  started := inv.started
  args := by
    rw [Isolate.argsSignal_of_loading loading']
    exact inv.args.trans (Isolate.argsSignal_of_loading loading)
  ready h := by
    refine ⟨(inv.ready h).1.trans ?_, (inv.ready h).2⟩
    rw [loading.readySignal, loading'.readySignal]
  taken := inv.taken
  calls c mem := (inv.calls c mem).of_loading loading
  firstCall := inv.firstCall
  laterCalls := inv.laterCalls
  result h := by
    refine (inv.result h).trans ?_
    rw [loading.resultSignal, loading'.resultSignal]
  received r h := by simp [inv.not_received (unfinished_of_loading loading)] at h
  exited h := by subst h; exact loading'.elim

/-- A loading worker fails: it drops its ends of the three channels. -/
theorem fail (inv : Inv s) (loading : s.worker.Loading) (e : String) : Inv (s.fail e) where
  ranSent _ h := nomatch h
  unsent := inv.unsent
  started := inv.started
  args := rfl
  ready h := by
    refine ⟨?_, (inv.ready h).2⟩
    show s.ready.dropSender = .closed
    rw [(inv.ready h).1, loading.readySignal]; rfl
  taken := inv.taken
  calls c mem := (inv.calls c mem).of_loading loading
  firstCall := inv.firstCall
  laterCalls := inv.laterCalls
  result h := by
    show s.result.dropSender = .closed
    rw [inv.result h, loading.resultSignal]; rfl
  received r h := by
    simp [Isolate.fail, inv.not_received (unfinished_of_loading loading)] at h
  exited h := nomatch h

/-- The user module loaded: the worker signals readiness. -/
theorem signalReady (inv : Inv s) (loadingUser : s.worker = .loadingUser) :
    Inv { s with worker := .awaitingArgs, ready := s.ready.send () } where
  ranSent _ h := nomatch h
  unsent := inv.unsent
  started := inv.started
  args := inv.args.trans (Isolate.argsSignal_of_loading (by rw [loadingUser]; trivial))
  ready h := by
    refine ⟨?_, (inv.ready h).2⟩
    show s.ready.send () = .full ()
    rw [(inv.ready h).1, loadingUser]; rfl
  taken := inv.taken
  calls c mem := (inv.calls c mem).of_loading (by rw [loadingUser]; trivial)
  firstCall := inv.firstCall
  laterCalls := inv.laterCalls
  result h := by rw [inv.result h, loadingUser]; rfl
  received r h := by
    simp [inv.not_received (by rw [loadingUser]; exact fun _ _ => nofun)] at h
  exited h := nomatch h

theorem args_pending (inv : Inv s) (awaiting : s.worker = .awaitingArgs) :
    s.args = s.pendingArgs :=
  inv.args.trans (by rw [Isolate.argsSignal, awaiting])

/-- The worker takes the arguments and starts `main`. -/
theorem takeArgs (inv : Inv s) (awaiting : s.worker = .awaitingArgs) {a : String}
    (full : s.args = .full a) : Inv { s with worker := .executing a, args := .gone } where
  ranSent a' h := by
    cases h
    exact Isolate.sent_of_pendingArgs ((inv.args_pending awaiting).symm.trans full)
  unsent := inv.unsent
  started := inv.started
  args := rfl
  ready h := ⟨(inv.ready h).1.trans (by rw [awaiting]; rfl), (inv.ready h).2⟩
  taken := inv.taken
  calls c mem := (inv.calls c mem).of_loaded (by rw [awaiting]; trivial) trivial
  firstCall := inv.firstCall
  laterCalls := inv.laterCalls
  result h := (inv.result h).trans (by rw [awaiting]; rfl)
  received r h := by simp [inv.not_received (by rw [awaiting]; exact fun _ _ => nofun)] at h
  exited h := nomatch h

/-- The argument channel closed: the worker exits without running `main`. -/
theorem exit (inv : Inv s) (awaiting : s.worker = .awaitingArgs) (closed : s.args = .closed) :
    Inv { s with worker := .exited, args := .gone, result := s.result.dropSender } := by
  have ⟨unsent, dropped⟩ :=
    Isolate.dropped_of_pendingArgs ((inv.args_pending awaiting).symm.trans closed)
  exact {
    ranSent := fun _ h => nomatch h
    unsent := inv.unsent
    started := inv.started
    args := rfl
    ready := fun h => absurd h.unstarted (by rw [dropped]; exact id)
    taken := inv.taken
    calls := fun c mem => (inv.calls c mem).of_loaded (by rw [awaiting]; trivial) trivial
    firstCall := inv.firstCall
    laterCalls := inv.laterCalls
    result := fun h => by simp [dropped, Host.HoldsResult] at h
    received := fun r h => by simp [dropped, Host.received] at h
    exited := fun _ => ⟨dropped, unsent⟩ }

/-- `main` returns: the worker sends its result. -/
theorem finish (inv : Inv s) {a : String} (executing : s.worker = .executing a)
    (r : PrewarmedResult) :
    Inv { s with worker := .finished a r, result := s.result.send r } where
  ranSent a' h := inv.ranSent a' (by rw [executing]; exact h)
  unsent := inv.unsent
  started := inv.started
  args := inv.args.trans (by rw [Isolate.argsSignal, executing]; rfl)
  ready h := ⟨(inv.ready h).1.trans (by rw [executing]; rfl), (inv.ready h).2⟩
  taken := inv.taken
  calls c mem := (inv.calls c mem).of_loaded (by rw [executing]; trivial) trivial
  firstCall := inv.firstCall
  laterCalls := inv.laterCalls
  result h := by
    show s.result.send r = .full r
    rw [inv.result h, executing]; rfl
  received r h := by simp [inv.not_received (by rw [executing]; exact fun _ _ => nofun)] at h
  exited h := nomatch h

/-! ### The host's steps -/

/-- The host holds the executing handle or is inside `wait`: the arguments were sent. -/
theorem sent_of_live (inv : Inv s) (live : s.host = .executing ∨ ∃ r, s.host = .joining r) :
    ∃ a, s.sent = some a := by
  cases sent : s.sent with
  | some a => exact ⟨a, rfl⟩
  | none =>
    rcases live with h | ⟨r, h⟩ <;> rcases inv.started sent with h' | h' <;>
      simp [h, Host.Unstarted] at h'

/-- The first `wait_ready` takes `ready_rx` out of the instance and awaits it. -/
theorem takeReady (inv : Inv s) (untaken : s.host = .prewarmed false) :
    Inv { s with host := .awaitingReady } := by
  have unsent := inv.unsent (by rw [untaken]; trivial)
  exact {
    ranSent := inv.ranSent
    unsent := fun _ => unsent
    started := fun _ => .inl trivial
    args := inv.args.trans (by simp only [Isolate.argsSignal, Isolate.pendingArgs, unsent, untaken])
    ready := fun _ => inv.ready (by rw [untaken]; trivial)
    taken := fun h => nomatch h
    calls := inv.calls
    firstCall := inv.firstCall
    laterCalls := inv.laterCalls
    result := fun _ => inv.result (by rw [untaken]; trivial)
    received := fun _ h => nomatch h
    exited := fun h => absurd (inv.exited h).1 (by simp [untaken]) }

/-- A later `wait_ready`, with `ready_rx` already taken, returns `Ok` at once. -/
theorem skipReady (inv : Inv s) (taken : s.host = .prewarmed true) :
    Inv { s with readyCalls := .skipped :: s.readyCalls } := by
  obtain ⟨c, cs, calls⟩ := List.exists_cons_of_ne_nil (inv.taken taken)
  exact {
    ranSent := inv.ranSent
    unsent := inv.unsent
    started := inv.started
    args := inv.args
    ready := fun h => absurd h (by rw [show s.host = _ from taken]; exact id)
    taken := fun _ => List.cons_ne_nil _ _
    calls := fun c' mem => by
      rcases List.mem_cons.mp mem with rfl | mem
      · trivial
      · exact inv.calls c' mem
    firstCall := by
      show (ReadyCall.skipped :: s.readyCalls).getLast? ≠ _
      rw [calls, List.getLast?_cons_cons, ← calls]; exact inv.firstCall
    laterCalls := fun c' mem => by
      rw [List.dropLast_cons_of_ne_nil (inv.taken taken)] at mem
      exact (List.mem_cons.mp mem).elim id (inv.laterCalls c')
    result := inv.result
    received := inv.received
    exited := inv.exited }

/-- The call awaiting `ready_rx` ends, receiving from it or dropped at it: the first call, which
agrees with the worker. -/
theorem endReadyCall (inv : Inv s) (awaiting : s.host = .awaitingReady) {call : ReadyCall}
    (agrees : call.Agrees s.worker) (first : call ≠ .skipped) : Inv (s.endReadyCall call) := by
  have unsent := inv.unsent (by rw [awaiting]; trivial)
  have none := (inv.ready (by rw [awaiting]; trivial)).2
  exact {
    ranSent := inv.ranSent
    unsent := fun _ => unsent
    started := fun _ => .inl trivial
    args := inv.args.trans (by
      simp only [Isolate.endReadyCall, Isolate.argsSignal, Isolate.pendingArgs, unsent, awaiting])
    ready := fun h => nomatch h
    taken := fun _ => List.cons_ne_nil _ _
    calls := fun c mem => by
      simp only [Isolate.endReadyCall, none, List.mem_singleton] at mem
      exact mem ▸ agrees
    firstCall := by simpa [Isolate.endReadyCall, none] using first
    laterCalls := fun c mem => by simp [Isolate.endReadyCall, none] at mem
    result := fun _ => inv.result (by rw [awaiting]; trivial)
    received := fun _ h => nomatch h
    exited := fun h => absurd (inv.exited h).1 (by simp [awaiting]) }

/-- `start_execution` consumes the instance, drops `ready_rx` and sends the arguments. -/
theorem startExecution (inv : Inv s) {b : Bool} (prewarmed : s.host = .prewarmed b)
    (a : String) :
    Inv { s with host := .executing, ready := .gone, args := s.args.send a, sent := some a } := by
  have unsent := inv.unsent (by rw [prewarmed]; trivial)
  exact {
    ranSent := fun a' h => absurd (inv.ranSent a' h) (by simp [unsent])
    unsent := fun h => nomatch h
    started := fun h => nomatch h
    args := by
      have args := inv.args
      cases worker : s.worker <;>
        simp_all [Isolate.argsSignal, Isolate.pendingArgs, Oneshot.send]
    ready := fun h => nomatch h
    taken := fun h => nomatch h
    calls := inv.calls
    firstCall := inv.firstCall
    laterCalls := inv.laterCalls
    result := fun _ => inv.result (by rw [prewarmed]; trivial)
    received := fun _ h => nomatch h
    exited := fun h => absurd (inv.exited h).1 (by simp [prewarmed]) }

/-- Inside `wait`: the host receives the result or the closing of its channel, then joins. -/
theorem settle (inv : Inv s) (live : s.host = .executing ∨ ∃ r, s.host = .joining r)
    (host : Host) (notHolding : ¬host.HoldsResult) (notUnstarted : ¬host.Unstarted)
    (received : ∀ r, host.received = some r → ∃ a, s.worker = .finished a r)
    (result : Oneshot PrewarmedResult) :
    Inv { s with host := host, result := result } := by
  obtain ⟨a, sent⟩ := inv.sent_of_live live
  exact {
    ranSent := inv.ranSent
    unsent := fun h => absurd h notUnstarted
    started := fun h => by simp [sent] at h
    args := inv.args.trans (by simp only [Isolate.argsSignal, Isolate.pendingArgs, sent])
    ready := fun h => absurd h.unstarted notUnstarted
    taken := fun (h : host = .prewarmed true) => (notUnstarted (by rw [h]; trivial)).elim
    calls := inv.calls
    firstCall := inv.firstCall
    laterCalls := inv.laterCalls
    result := fun h => absurd h notHolding
    received := received
    exited := fun h => absurd (inv.exited h).1 (by rcases live with h | ⟨r, h⟩ <;> simp [h]) }

/-- The host drops the instance before `start_execution`: the argument channel closes. -/
theorem dropPrewarmed (inv : Inv s) {b : Bool} (prewarmed : s.host = .prewarmed b) :
    Inv { s with host := .dropped, ready := .gone, args := s.args.dropSender, result := .gone } := by
  have unsent := inv.unsent (by rw [prewarmed]; trivial)
  exact {
    ranSent := inv.ranSent
    unsent := fun h => nomatch h
    started := fun _ => .inr rfl
    args := by
      have args := inv.args
      cases worker : s.worker <;>
        simp_all [Isolate.argsSignal, Isolate.pendingArgs, Oneshot.dropSender]
    ready := fun h => nomatch h
    taken := fun h => nomatch h
    calls := inv.calls
    firstCall := inv.firstCall
    laterCalls := inv.laterCalls
    result := fun h => nomatch h
    received := fun _ h => nomatch h
    exited := fun _ => ⟨rfl, unsent⟩ }

/-- The host drops the executing handle, or `wait` while it awaits: the worker runs on, and a
result not yet received is lost. -/
theorem dropExecuting (inv : Inv s) (live : s.host = .executing ∨ ∃ r, s.host = .joining r) :
    Inv { s with host := .dropped, result := .gone } := by
  obtain ⟨a, sent⟩ := inv.sent_of_live live
  exact {
    ranSent := inv.ranSent
    unsent := fun h => nomatch h
    started := fun _ => .inr rfl
    args := inv.args.trans (by simp only [Isolate.argsSignal, Isolate.pendingArgs, sent])
    ready := fun h => nomatch h
    taken := fun h => nomatch h
    calls := inv.calls
    firstCall := inv.firstCall
    laterCalls := inv.laterCalls
    result := fun h => nomatch h
    received := fun _ h => nomatch h
    exited := fun h => absurd (inv.exited h).1 (by rcases live with h | ⟨r, h⟩ <;> simp [h]) }

theorem afterLoad (inv : Inv s) (loading : s.worker.Loading) {following : Isolate}
    (moved : Inv following) : ∀ e, Inv (s.afterLoad following e)
  | some e => inv.fail loading e
  | none => moved

/-- Every step keeps the invariant. -/
theorem next (inv : Inv s) {a : Action} {s' : Isolate} (step : Nativets.next s a = some s') :
    Inv s' := by
  cases a with
  | create e | loadClient e =>
    simp only [Nativets.next] at step
    split at step <;> cases step
    rename_i at_
    exact inv.afterLoad (by rw [at_]; trivial) (inv.load (by rw [at_]; trivial) (by trivial)) e
  | loadUser e =>
    simp only [Nativets.next] at step
    split at step <;> cases step
    rename_i at_
    exact inv.afterLoad (by rw [at_]; trivial) (inv.signalReady at_) e
  | receiveArgs =>
    simp only [Nativets.next] at step
    split at step <;> cases step
    · rename_i awaiting full
      exact inv.takeArgs awaiting full
    · rename_i awaiting closed
      exact inv.exit awaiting closed
  | execute r =>
    simp only [Nativets.next] at step
    split at step <;> cases step
    rename_i executing
    exact inv.finish executing r
  | waitReady =>
    simp only [Nativets.next] at step
    split at step <;> cases step
    · rename_i untaken
      exact inv.takeReady untaken
    · rename_i taken
      exact inv.skipReady taken
  | receiveReady =>
    simp only [Nativets.next] at step
    split at step <;> cases step
    · rename_i awaiting full
      exact inv.endReadyCall awaiting (Worker.loaded_of_readySignal
        ((inv.ready (by rw [awaiting]; trivial)).1.symm.trans full)) nofun
    · rename_i awaiting closed
      exact inv.endReadyCall awaiting (Worker.failed_of_readySignal
        ((inv.ready (by rw [awaiting]; trivial)).1.symm.trans closed)) nofun
  | cancelReady =>
    simp only [Nativets.next] at step
    split at step <;> cases step
    rename_i awaiting
    exact inv.endReadyCall awaiting trivial nofun
  | startExecution a =>
    simp only [Nativets.next] at step
    split at step <;> cases step
    rename_i prewarmed
    exact inv.startExecution prewarmed a
  | receiveResult =>
    simp only [Nativets.next] at step
    split at step <;> cases step
    · rename_i r executing full
      exact inv.settle (.inl executing) (.joining r) id id
        (fun r' h => by
          cases h
          exact Worker.finished_of_resultSignal
            ((inv.result (by rw [executing]; trivial)).symm.trans full)) _
    · rename_i executing _
      exact inv.settle (.inl executing) _ id id (by simp [Host.received]) _
  | join =>
    simp only [Nativets.next] at step
    split at step <;> cases step
    iterate 2
      rename_i joining _
      exact inv.settle (.inr ⟨_, joining⟩) _ id id
        (fun r' h => inv.received r' (by rw [joining]; exact h)) _
    · rename_i joining _
      exact inv.settle (.inr ⟨_, joining⟩) _ id id (by simp [Host.received]) _
  | drop =>
    simp only [Nativets.next] at step
    split at step <;> cases step
    · rename_i prewarmed
      exact inv.dropPrewarmed prewarmed
    · rename_i executing
      exact inv.dropExecuting (.inl executing)
    · rename_i r joining
      exact inv.dropExecuting (.inr ⟨r, joining⟩)

end Inv

/-- Every reachable state satisfies the invariant. -/
theorem Reachable.inv {s : Isolate} (reach : Reachable s) : Inv s := by
  induction reach with
  | refl => exact inv_spawn
  | tail _ step inv => exact inv.next step.choose_spec


theorem Reachable.next {s s' : Isolate} {a : Action} (reach : Reachable s)
    (step : Nativets.next s a = some s') : Reachable s' :=
  .tail reach ⟨a, step⟩

/-- The empty JSON object, as the arguments of a job. -/
def noArgs : String := "\x7b\x7d"

/-! ## Safety over every run -/

/-- Over every interleaving: `main` runs only on the arguments `start_execution` sent; a `wait`
that returns a result returns the one `main` produced on them; a `wait_ready` that received from
`ready_rx` returned `Ok` only for a worker that loaded both modules and `Err` only for one that
failed; the first call took `ready_rx`, and every later call returned `Ok` at once, whatever the
worker's state. -/
theorem prewarmedIsolate_safe {s : Isolate} (reach : Reachable s) :
    (∀ a, s.worker.ran = some a → s.sent = some a) ∧
    (∀ r, s.host = .waited (.ok r) → ∃ a, s.sent = some a ∧ s.worker = .finished a r) ∧
    (∀ c ∈ s.readyCalls, c.Agrees s.worker) ∧
    s.readyCalls.getLast? ≠ some .skipped ∧
    (∀ c ∈ s.readyCalls.dropLast, c = .skipped) := by
  have inv := reach.inv
  refine ⟨inv.ranSent, fun r waited => ?_, inv.calls, inv.firstCall, inv.laterCalls⟩
  obtain ⟨a, finished⟩ := inv.received r (by rw [waited]; rfl)
  exact ⟨a, inv.ranSent a (by rw [finished]; rfl), finished⟩

/-- A first `wait_ready` dropped at `rx.await` right after `spawn`, then a second call. -/
def cancelledEarly : Isolate :=
  ⟨.prewarmed true, .creating, .gone, .idle, .idle, [.skipped, .cancelled], none⟩

/-- The second call returned `Ok` while the worker is still building its runtime. -/
theorem prewarmedIsolate_safe_cancelled :
    Reachable cancelledEarly ∧ cancelledEarly.worker.Loading ∧
      (∀ a, cancelledEarly.worker.ran = some a → cancelledEarly.sent = some a) ∧
      (∀ r, cancelledEarly.host = .waited (.ok r) →
        ∃ a, cancelledEarly.sent = some a ∧ cancelledEarly.worker = .finished a r) ∧
      (∀ c ∈ cancelledEarly.readyCalls, c.Agrees cancelledEarly.worker) ∧
      cancelledEarly.readyCalls.getLast? ≠ some .skipped ∧
      (∀ c ∈ cancelledEarly.readyCalls.dropLast, c = .skipped) :=
  have reach : Reachable cancelledEarly :=
    run_steps (show run spawn [.waitReady, .cancelReady, .waitReady] = some cancelledEarly from rfl)
  ⟨reach, trivial, prewarmedIsolate_safe reach⟩

/-! ## Dropping the instance -/

theorem Isolate.afterLoad_fields {s following : Isolate} (host : following.host = s.host)
    (sent : following.sent = s.sent) :
    ∀ e, (s.afterLoad following e).host = s.host ∧ (s.afterLoad following e).sent = s.sent
  | some _ => ⟨rfl, rfl⟩
  | none => ⟨host, sent⟩

/-- A dropped host takes no step, and no step sends arguments past it. -/
theorem Step.dropped {s s' : Isolate} (step : Step s s') (dropped : s.host = .dropped) :
    s'.host = .dropped ∧ s'.sent = s.sent := by
  obtain ⟨a, step⟩ := step
  cases a with
  | create e | loadClient e | loadUser e =>
    simp only [next] at step
    split at step <;> cases step
    rw [← dropped]
    exact Isolate.afterLoad_fields (by rfl) (by rfl) e
  | receiveArgs | execute _ =>
    simp only [next] at step
    split at step <;> cases step <;> exact ⟨dropped, rfl⟩
  | waitReady | receiveReady | cancelReady | startExecution _ | receiveResult | join | drop =>
    simp [next, dropped] at step

/-- When the host drops the instance before `start_execution`, the argument channel is closed
for good: in every later state the worker has not run `main`, and once it has loaded, its only
step is to exit. -/
theorem dropped_never_runs {s : Isolate} (reach : Reachable s) (dropped : s.host = .dropped)
    (unsent : s.sent = none) {s' : Isolate} (later : Relation.ReflTransGen Step s s') :
    s'.worker.ran = none ∧
      (s'.worker = .awaitingArgs → next s' .receiveArgs =
        some { s' with worker := .exited, args := .gone, result := s'.result.dropSender }) := by
  obtain ⟨dropped', unsent'⟩ : s'.host = .dropped ∧ s'.sent = none := by
    induction later with
    | refl => exact ⟨dropped, unsent⟩
    | tail _ step ih => exact ⟨(step.dropped ih.1).1, (step.dropped ih.1).2.trans ih.2⟩
  have inv := Reachable.inv (reach.trans later)
  refine ⟨?_, fun awaiting => ?_⟩
  · cases ran : s'.worker.ran with
    | none => rfl
    | some a => simpa [unsent'] using inv.ranSent a ran
  · have closed : s'.args = .closed := by
      rw [inv.args_pending awaiting, Isolate.pendingArgs, unsent', dropped']
    simp only [next, awaiting, closed]

/-- Dropped right after `spawn`. -/
def droppedEarly : Isolate := ⟨.dropped, .creating, .gone, .closed, .gone, [], none⟩

/-- The worker of `droppedEarly`, both modules loaded. -/
def droppedLoaded : Isolate := ⟨.dropped, .awaitingArgs, .gone, .closed, .gone, [], none⟩

theorem dropped_never_runs_loaded :
    Reachable droppedEarly ∧ droppedEarly.host = .dropped ∧ droppedEarly.sent = none ∧
      Relation.ReflTransGen Step droppedEarly droppedLoaded ∧
      droppedLoaded.worker.ran = none ∧
      (droppedLoaded.worker = .awaitingArgs → next droppedLoaded .receiveArgs =
        some { droppedLoaded with worker := .exited, args := .gone,
                                  result := droppedLoaded.result.dropSender }) :=
  have reach : Reachable droppedEarly :=
    run_steps (show run spawn [.drop] = some droppedEarly from rfl)
  have later : Relation.ReflTransGen Step droppedEarly droppedLoaded :=
    run_steps (show run droppedEarly [.create none, .loadClient none, .loadUser none] =
      some droppedLoaded from rfl)
  ⟨reach, rfl, rfl, later, dropped_never_runs reach rfl rfl later⟩

/-! ## `wait` returns -/

/-- `wait` returns `outcome` on some run from `s`. -/
def WaitReturns (s : Isolate) (outcome : Except String PrewarmedResult) : Prop :=
  ∃ s', Relation.ReflTransGen Step s s' ∧ s'.host = .waited outcome

theorem WaitReturns.head {s s' : Isolate} {a : Action} {outcome : Except String PrewarmedResult}
    (step : next s a = some s') (onward : WaitReturns s' outcome) : WaitReturns s outcome :=
  let ⟨s'', run, waited⟩ := onward
  ⟨s'', .head ⟨a, step⟩ run, waited⟩

section Progress

variable {s : Isolate} (reach : Reachable s) (executing : s.host = .executing)
include reach executing

/-- The result sent: `wait` receives it and joins the worker. -/
theorem waits_of_finished {a : String} {r : PrewarmedResult} (finished : s.worker = .finished a r) :
    WaitReturns s (.ok r) := by
  have full : s.result = .full r := by
    rw [reach.inv.result (by rw [executing]; trivial), finished]; rfl
  have receive : next s .receiveResult = some { s with host := .joining r, result := .gone } := by
    simp only [next, executing, full]
  have join : next { s with host := .joining r, result := .gone } .join =
      some { s with host := .waited (.ok r), result := .gone } := by
    simp only [next, finished]
  exact .head receive ⟨_, .single ⟨_, join⟩, rfl⟩

/-- `main` returns some result, which `wait` then collects. -/
theorem waits_of_executing {a : String} (running : s.worker = .executing a)
    (r : PrewarmedResult) : WaitReturns s (.ok r) := by
  have step : next s (.execute r) =
      some { s with worker := .finished a r, result := s.result.send r } := by
    simp only [next, running]
  exact .head step (waits_of_finished (reach.next step) executing rfl)

/-- The worker takes the arguments `start_execution` sent. -/
theorem waits_of_awaiting (awaiting : s.worker = .awaitingArgs) (r : PrewarmedResult) :
    WaitReturns s (.ok r) := by
  obtain ⟨a, sent⟩ := reach.inv.sent_of_live (.inl executing)
  have full : s.args = .full a := by
    rw [reach.inv.args_pending awaiting, Isolate.pendingArgs, sent]
  have step : next s .receiveArgs = some { s with worker := .executing a, args := .gone } := by
    simp only [next, awaiting, full]
  exact .head step (waits_of_executing (reach.next step) executing rfl r)

theorem waits_of_loadingUser (loadingUser : s.worker = .loadingUser) (r : PrewarmedResult) :
    WaitReturns s (.ok r) := by
  have step : next s (.loadUser none) =
      some { s with worker := .awaitingArgs, ready := s.ready.send () } := by
    simp only [next, loadingUser]; rfl
  exact .head step (waits_of_awaiting (reach.next step) executing rfl r)

theorem waits_of_loadingClient (loadingClient : s.worker = .loadingClient) (r : PrewarmedResult) :
    WaitReturns s (.ok r) := by
  have step : next s (.loadClient none) = some { s with worker := .loadingUser } := by
    simp only [next, loadingClient]; rfl
  exact .head step (waits_of_loadingUser (reach.next step) executing rfl r)

theorem waits_of_creating (creating : s.worker = .creating) (r : PrewarmedResult) :
    WaitReturns s (.ok r) := by
  have step : next s (.create none) = some { s with worker := .loadingClient } := by
    simp only [next, creating]; rfl
  exact .head step (waits_of_loadingClient (reach.next step) executing rfl r)

/-- A failed worker closed the result channel: `wait` returns its error. -/
theorem waits_of_failed {e : String} (failed : s.worker = .failed e) :
    WaitReturns s (.error "isolate result channel closed") := by
  have closed : s.result = .closed := by
    rw [reach.inv.result (by rw [executing]; trivial), failed]; rfl
  have receive : next s .receiveResult =
      some { s with host := .waited (.error "isolate result channel closed"), result := .gone } := by
    simp only [next, executing, closed]
  exact ⟨_, .single ⟨_, receive⟩, rfl⟩

/-- `wait` cannot block forever: from every reachable state where the host holds the executing
handle, some run of the two sides ends with `wait` returned.  Unless the worker has already
failed or sent its result, every result `main` may produce is one that `wait` can return. -/
theorem wait_returns :
    (∃ outcome, WaitReturns s outcome) ∧
      ((∀ e, s.worker ≠ .failed e) → (∀ a r, s.worker ≠ .finished a r) →
        ∀ r, WaitReturns s (.ok r)) := by
  have pending : (∀ e, s.worker ≠ .failed e) → (∀ a r, s.worker ≠ .finished a r) →
      ∀ r, WaitReturns s (.ok r) := by
    intro notFailed notFinished r
    cases worker : s.worker with
    | creating => exact waits_of_creating reach executing worker r
    | loadingClient => exact waits_of_loadingClient reach executing worker r
    | loadingUser => exact waits_of_loadingUser reach executing worker r
    | awaitingArgs => exact waits_of_awaiting reach executing worker r
    | executing a => exact waits_of_executing reach executing worker r
    | finished a r' => exact absurd worker (notFinished a r')
    | exited => simp [(reach.inv.exited worker).1] at executing
    | failed e => exact absurd worker (notFailed e)
  refine ⟨?_, pending⟩
  cases worker : s.worker with
  | failed e => exact ⟨_, waits_of_failed reach executing worker⟩
  | finished a r => exact ⟨_, waits_of_finished reach executing worker⟩
  | _ => exact ⟨_, pending (by simp [worker]) (by simp [worker]) ⟨.ok "null", ""⟩⟩

end Progress

/-- Just after `start_execution` on a freshly spawned isolate. -/
def started : Isolate := ⟨.executing, .creating, .gone, .full noArgs, .idle, [], some noArgs⟩

theorem wait_returns_started :
    Reachable started ∧ started.host = .executing ∧
      (∃ outcome, WaitReturns started outcome) ∧
      ((∀ e, started.worker ≠ .failed e) → (∀ a r, started.worker ≠ .finished a r) →
        ∀ r, WaitReturns started (.ok r)) :=
  have reach : Reachable started :=
    run_steps (show run spawn [.startExecution noArgs] = some started from rfl)
  ⟨reach, rfl, wait_returns reach rfl⟩

end Windmill.Nativets
