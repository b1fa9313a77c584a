import MoeServer.Python.Builtins

/-!
# `Server.run` and `Server.shutdown`, interleaved

A server owns thread objects: a `DHTHandlerThread` when it hosts experts, a `CheckpointSaver`
when it was given a checkpoint directory, and its connection handlers.  `run()` starts them,
then blocks in `runtime.run()` until the runtime is shut down, and calls `shutdown()` in its
`finally`.  `shutdown()` clears the ready event, shuts the handlers down, sets each thread's stop
event and joins it, and shuts down the DHT and the runtime.

`threading.Thread.join` raises `RuntimeError("cannot join thread before it is started")` on a
thread `start()` was never called on.  So `shutdown()` on a server `run()` has not yet brought
that far raises at that join and never reaches `dht.shutdown()` or `runtime.shutdown()`
(`shutdown_before_run_raises`).

The system is a state machine (`step`) with two threads of control, the one running `run()`
and a caller of `shutdown()`, each statement one step, in any interleaving.  The caller calls
`shutdown()` once, as `_server_runner`'s `finally` does; repeated calls are outside the model.  Started threads
stay started (`started_mono`), so a `shutdown()` called once `run()` has started the threads it
joins finishes every statement whatever the run thread does meanwhile
(**`shutdown_completes`**).  `ConnectionHandler.shutdown`, `DHT.shutdown` and
`Runtime.shutdown` are outside the repository and are taken to return.
-/

namespace MoeServer

/-- The thread objects a server owns. -/
structure Threads where
  hasDhtHandler : Bool
  hasSaver : Bool
  numHandlers : Nat
  deriving DecidableEq

/-- The statements of `shutdown()`. -/
inductive Teardown
  | readyClear
  | handlerShutdown (i : Nat)
  /-- `dht_handler_thread.stop.set(); dht_handler_thread.join()`. -/
  | dhtHandlerJoin
  /-- `checkpoint_saver.stop.set(); checkpoint_saver.join()`. -/
  | saverJoin
  | dhtShutdown
  | runtimeShutdown
  deriving DecidableEq

/-- The statements of `run()` up to its `finally`. -/
inductive RunStep
  | dhtRunInBackground
  | startDhtHandler
  | startSaver
  | startHandler (i : Nat)
  /-- `self.runtime.run()`, which returns once the runtime is shut down. -/
  | runtimeRun
  deriving DecidableEq

/-- `shutdown()`, statement by statement. -/
def shutdownSteps (t : Threads) : List Teardown :=
  .readyClear :: (List.range t.numHandlers).map .handlerShutdown ++
    (if t.hasDhtHandler then [.dhtHandlerJoin] else []) ++
    (if t.hasSaver then [.saverJoin] else []) ++ [.dhtShutdown, .runtimeShutdown]

/-- `run()` up to its `finally`, statement by statement. -/
def runSteps (t : Threads) : List RunStep :=
  .dhtRunInBackground :: (if t.hasDhtHandler then [.startDhtHandler] else []) ++
    (if t.hasSaver then [.startSaver] else []) ++
    (List.range t.numHandlers).map .startHandler ++ [.runtimeRun]

/-- One call of `shutdown()` under way: the statements it has executed, those left, and how it
ended, once it has. -/
structure Call where
  done : List Teardown
  remaining : List Teardown
  outcome : Option (Except PyError Unit)
  deriving DecidableEq

/-- A call of `shutdown()` about to begin. -/
def Call.begin (t : Threads) : Call := ⟨[], shutdownSteps t, none⟩

/-- The server and its two threads of control. -/
structure Lifecycle where
  threads : Threads
  dhtHandlerStarted : Bool
  saverStarted : Bool
  runtimeStopped : Bool
  /-- What is left of `run()`; `none` before it is called. -/
  run : Option (List RunStep)
  /-- The `shutdown()` of `run()`'s `finally`. -/
  runner : Option Call
  /-- The caller's `shutdown()`.  The model's caller calls it once: a second call from the same
  caller is not a move of `step`. -/
  caller : Option Call
  deriving DecidableEq

/-- A server as `__init__` leaves it. -/
def Lifecycle.constructed (t : Threads) : Lifecycle := ⟨t, false, false, false, none, none, none⟩

/-- The text `Thread.join` raises with on a thread never started. -/
def joinBeforeStart : PyError := .runtimeError "cannot join thread before it is started"

/-- One statement of `shutdown()`: a join of a thread never started raises. -/
def teardown (s : Lifecycle) : Teardown → Except PyError Lifecycle
  | .dhtHandlerJoin => if s.dhtHandlerStarted then .ok s else .error joinBeforeStart
  | .saverJoin => if s.saverStarted then .ok s else .error joinBeforeStart
  | .runtimeShutdown => .ok { s with runtimeStopped := true }
  | _ => .ok s

/-- A call of `shutdown()` executing its next statement, in state `s`. -/
def Call.step (s : Lifecycle) (c : Call) : Option (Lifecycle × Call) :=
  match c.remaining, c.outcome with
  | st :: rest, none =>
    match teardown s st with
    | .ok s' => some (s', ⟨c.done ++ [st], rest, if rest = [] then some (.ok ()) else none⟩)
    | .error e => some (s, ⟨c.done, st :: rest, some (.error e)⟩)
  | _, _ => none

/-- What each thread of control can do next. -/
inductive Act
  | startRun
  | runStep
  | callShutdown
  | callerStep
  | runnerStep
  deriving DecidableEq

/-- The transition function: `none` when the action is not enabled. -/
def step (s : Lifecycle) : Act → Option Lifecycle
  | .startRun => if s.run = none then some { s with run := some (runSteps s.threads) } else none
  | .runStep =>
    match s.run with
    | some (.startDhtHandler :: rest) => some { s with run := some rest, dhtHandlerStarted := true }
    | some (.startSaver :: rest) => some { s with run := some rest, saverStarted := true }
    | some (.runtimeRun :: rest) =>
      if s.runtimeStopped then some { s with run := some rest, runner := some (.begin s.threads) }
      else none
    | some (_ :: rest) => some { s with run := some rest }
    | _ => none
  | .callShutdown => if s.caller = none then some { s with caller := some (.begin s.threads) } else none
  | .callerStep => s.caller.bind fun c => (c.step s).map fun (s', c') => { s' with caller := some c' }
  | .runnerStep => s.runner.bind fun c => (c.step s).map fun (s', c') => { s' with runner := some c' }

/-- Running a schedule of actions; `none` if one of them is not enabled. -/
def runActs : Lifecycle → List Act → Option Lifecycle
  | s, [] => some s
  | s, a :: rest => (step s a).bind (runActs · rest)

/-! ## The counterexample -/

/-- **`shutdown()` before `run()`**: a server with one expert and one handler, shut down as
constructed, raises at the join of its DHT handler thread, having executed neither
`dht.shutdown()` nor `runtime.shutdown()`. -/
theorem shutdown_before_run_raises :
    (runActs (.constructed ⟨true, false, 1⟩) [.callShutdown, .callerStep, .callerStep, .callerStep]).map
      (·.caller) = some (some ⟨[.readyClear, .handlerShutdown 0], [.dhtHandlerJoin, .dhtShutdown,
        .runtimeShutdown], some (.error joinBeforeStart)⟩) := by
  decide

/-! ## Started threads stay started -/

/-- Every thread `shutdown()` joins has been started. -/
def Ready (s : Lifecycle) : Prop :=
  (s.threads.hasDhtHandler = true → s.dhtHandlerStarted = true) ∧
    (s.threads.hasSaver = true → s.saverStarted = true)

/-- What a step can change about the thread objects: it starts them, never the reverse. -/
def Grows (s s' : Lifecycle) : Prop :=
  s'.threads = s.threads ∧ (s.dhtHandlerStarted = true → s'.dhtHandlerStarted = true) ∧
    (s.saverStarted = true → s'.saverStarted = true)

lemma Grows.ready {s s' : Lifecycle} (h : Grows s s') (hs : Ready s) : Ready s' := by
  obtain ⟨ht, hd, hv⟩ := h
  exact ⟨fun h' => hd (hs.1 (ht ▸ h')), fun h' => hv (hs.2 (ht ▸ h'))⟩

lemma teardown_grows {s s' : Lifecycle} {st : Teardown} (h : teardown s st = .ok s') :
    Grows s s' := by
  cases st <;> simp only [teardown] at h <;> (try split at h) <;> cases h <;>
    exact ⟨rfl, id, id⟩

lemma Call.step_grows {s s' : Lifecycle} {c c' : Call} (h : c.step s = some (s', c')) :
    Grows s s' := by
  unfold Call.step at h
  split at h
  · split at h <;> cases h
    · exact teardown_grows ‹_›
    · exact ⟨rfl, id, id⟩
  · cases h

/-- A statement of `shutdown()` touches no call of it. -/
lemma Call.step_calls {s s' : Lifecycle} {c c' : Call} (h : c.step s = some (s', c')) :
    s'.caller = s.caller ∧ s'.runner = s.runner ∧ s'.run = s.run := by
  unfold Call.step at h
  split at h
  · split at h <;> cases h
    · rename_i st _ _ _ _ hst
      cases st <;> simp only [teardown] at hst <;> (try split at hst) <;> cases hst <;>
        exact ⟨rfl, rfl, rfl⟩
    · exact ⟨rfl, rfl, rfl⟩
  · cases h

/-- **Started threads stay started.** -/
lemma started_mono {s s' : Lifecycle} {a : Act} (h : step s a = some s') : Grows s s' := by
  cases a <;> simp only [step] at h
  · split at h <;> cases h; exact ⟨rfl, id, id⟩
  · split at h <;> (try split at h) <;> cases h <;> exact ⟨rfl, by simp, by simp⟩
  · split at h <;> cases h; exact ⟨rfl, id, id⟩
  all_goals
    obtain ⟨c, -, hc⟩ := Option.bind_eq_some.mp h
    obtain ⟨⟨s'', c'⟩, hstep, rfl⟩ := Option.map_eq_some'.mp hc
    have := Call.step_grows hstep
    exact this

lemma runActs_grows {s s' : Lifecycle} {acts : List Act} (h : runActs s acts = some s') :
    Grows s s' := by
  induction acts generalizing s with
  | nil => cases h; exact ⟨rfl, id, id⟩
  | cons a rest ih =>
    obtain ⟨s1, h1, h2⟩ := Option.bind_eq_some.mp h
    obtain ⟨ht1, hd1, hv1⟩ := started_mono h1
    obtain ⟨ht2, hd2, hv2⟩ := ih h2
    exact ⟨ht2.trans ht1, hd2 ∘ hd1, hv2 ∘ hv1⟩

/-! ## A call of `shutdown()` once the threads are started -/

/-- A call that has executed a prefix of `shutdown()` without raising: still running with
statements left, or returned with none left. -/
def Call.Good (t : Threads) (c : Call) : Prop :=
  c.done ++ c.remaining = shutdownSteps t ∧
    (c.outcome = none ∧ c.remaining ≠ [] ∨ c.outcome = some (.ok ()) ∧ c.remaining = [])

lemma Call.good_begin (t : Threads) : (Call.begin t).Good t :=
  ⟨rfl, .inl ⟨rfl, by simp [Call.begin, shutdownSteps]⟩⟩

/-- With the threads started, no statement of `shutdown()` raises. -/
lemma teardown_ok {s : Lifecycle} (hs : Ready s) {st : Teardown}
    (hst : st ∈ shutdownSteps s.threads) : ∃ s', teardown s st = .ok s' := by
  cases st with
  | dhtHandlerJoin =>
    have : s.threads.hasDhtHandler = true := by
      by_contra hn; simp [shutdownSteps, hn] at hst
    simp [teardown, hs.1 this]
  | saverJoin =>
    have : s.threads.hasSaver = true := by
      by_contra hn; simp [shutdownSteps, hn] at hst
    simp [teardown, hs.2 this]
  | _ => exact ⟨_, rfl⟩

lemma Call.step_good {s s' : Lifecycle} {c c' : Call} (hs : Ready s) (hc : c.Good s.threads)
    (h : c.step s = some (s', c')) : c'.Good s.threads := by
  obtain ⟨hsteps, hout⟩ := hc
  unfold Call.step at h
  split at h
  · rename_i st rest hrem hnone
    rw [hrem] at hsteps
    obtain ⟨s'', hok⟩ := teardown_ok hs (hsteps ▸ List.mem_append_right _ (List.mem_cons_self _ _))
    rw [hok] at h
    cases h
    refine ⟨by simpa using hsteps, ?_⟩
    by_cases hr : rest = [] <;> simp [hr]
  · cases h

/-- A call with statements left, the threads started, can take its next statement. -/
lemma Call.step_some {s : Lifecycle} {c : Call} (hs : Ready s) (hc : c.Good s.threads)
    (hrem : c.remaining ≠ []) : c.step s ≠ none := by
  obtain ⟨hsteps, ⟨hnone, -⟩ | ⟨-, hnil⟩⟩ := hc
  · obtain ⟨st, rest, hr⟩ := List.exists_cons_of_ne_nil hrem
    rw [hr] at hsteps
    obtain ⟨s', hok⟩ := teardown_ok hs (hsteps ▸ List.mem_append_right _ (List.mem_cons_self _ _))
    simp [Call.step, hr, hnone, hok]
  · exact absurd hnil hrem

/-- The invariant after the caller's `shutdown()` begins with the threads started. -/
def CallerSafe (s : Lifecycle) : Prop :=
  Ready s ∧ ∃ c, s.caller = some c ∧ c.Good s.threads

lemma callerSafe_step {s s' : Lifecycle} {a : Act} (hs : CallerSafe s) (h : step s a = some s') :
    CallerSafe s' := by
  obtain ⟨hready, c, hc, hgood⟩ := hs
  have hg := started_mono h
  refine ⟨hg.ready hready, ?_⟩
  rw [hg.1]
  cases a <;> simp only [step] at h
  · split at h <;> cases h; exact ⟨c, hc, hgood⟩
  · split at h <;> (try split at h) <;> cases h <;> exact ⟨c, hc, hgood⟩
  · simp [hc] at h
  · rw [hc, Option.some_bind] at h
    obtain ⟨⟨s'', c'⟩, hstep, rfl⟩ := Option.map_eq_some'.mp h
    exact ⟨c', rfl, Call.step_good hready hgood hstep⟩
  · obtain ⟨r, -, hr⟩ := Option.bind_eq_some.mp h
    obtain ⟨⟨s'', r'⟩, hstep, rfl⟩ := Option.map_eq_some'.mp hr
    exact ⟨c, (Call.step_calls hstep).1.trans hc, hgood⟩

lemma callerSafe_run {s s' : Lifecycle} {acts : List Act} (hs : CallerSafe s)
    (h : runActs s acts = some s') : CallerSafe s' := by
  induction acts generalizing s with
  | nil => cases h; exact hs
  | cons a rest ih =>
    obtain ⟨s1, h1, h2⟩ := Option.bind_eq_some.mp h
    exact ih (callerSafe_step hs h1) h2

/-- **`shutdown()` once `run()` has started the threads.**  A call of `shutdown()` made in a
state where every thread it joins has been started, followed by any interleaving of both
threads of control: the call never raises, it can always execute its next statement, and once
it has returned it has executed every statement of `shutdown()`, `dht.shutdown()` and
`runtime.shutdown()` included. -/
theorem shutdown_completes (s s' : Lifecycle) (acts : List Act) (hready : Ready s)
    (hcaller : s.caller = none) (h : runActs s (.callShutdown :: acts) = some s') :
    ∃ c, s'.caller = some c ∧ c.done ++ c.remaining = shutdownSteps s.threads ∧
      (c.remaining ≠ [] → c.outcome = none ∧ step s' .callerStep ≠ none) ∧
      (c.remaining = [] → c.outcome = some (.ok ()) ∧ c.done = shutdownSteps s.threads) := by
  rw [runActs, step, if_pos hcaller, Option.some_bind] at h
  have h0 : CallerSafe { s with caller := some (Call.begin s.threads) } :=
    ⟨hready, _, rfl, Call.good_begin _⟩
  obtain ⟨hready', c, hc, hgood⟩ := callerSafe_run h0 h
  have ht : s'.threads = s.threads := (runActs_grows h).1
  rw [ht] at hgood
  refine ⟨c, hc, hgood.1, fun hrem => ⟨?_, ?_⟩, fun hrem => ⟨?_, ?_⟩⟩
  · rcases hgood.2 with ⟨h, -⟩ | ⟨-, h⟩
    · exact h
    · exact absurd h hrem
  · rw [← ht] at hgood
    simp only [step, hc, Option.some_bind, ne_eq, Option.map_eq_none']
    exact Call.step_some hready' hgood hrem
  · rcases hgood.2 with ⟨-, h⟩ | ⟨h, -⟩
    · exact absurd hrem h
    · exact h
  · simpa [hrem] using hgood.1

/-- A server with one expert and one handler whose `run()` has started its threads and waits
in `runtime.run()`. -/
def runningServer : Lifecycle :=
  ⟨⟨true, false, 1⟩, true, false, false, some [.runtimeRun], none, none⟩

/-- The same server two statements into the caller's `shutdown()`. -/
def shuttingDown : Lifecycle :=
  { runningServer with
    caller := some ⟨[.readyClear, .handlerShutdown 0], [.dhtHandlerJoin, .dhtShutdown,
      .runtimeShutdown], none⟩ }

theorem shutdown_completes_from_running :
    runActs (.constructed ⟨true, false, 1⟩) [.startRun, .runStep, .runStep, .runStep] =
      some runningServer ∧
    Ready runningServer ∧ runningServer.caller = none ∧
    runActs runningServer [.callShutdown, .callerStep, .callerStep] = some shuttingDown ∧
    ∃ c, shuttingDown.caller = some c ∧ c.done ++ c.remaining = shutdownSteps runningServer.threads ∧
      (c.remaining ≠ [] → c.outcome = none ∧ step shuttingDown .callerStep ≠ none) ∧
      (c.remaining = [] → c.outcome = some (.ok ()) ∧ c.done = shutdownSteps runningServer.threads) :=
  ⟨by decide, ⟨fun _ => rfl, fun h => nomatch h⟩, rfl, by decide,
    shutdown_completes runningServer shuttingDown [.callerStep, .callerStep]
      ⟨fun _ => rfl, fun h => nomatch h⟩ rfl (by decide)⟩

end MoeServer
