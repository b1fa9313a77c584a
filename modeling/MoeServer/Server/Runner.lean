import MoeServer.Server.Lifecycle

/-!
# `run()`'s `finally`, over every interleaving

A caller's `shutdown()` raises when it comes before `run()` has started the threads it joins
(`shutdown_before_run_raises`), and `shutdown_completes` assumes they are started.  Two results
hold instead over every interleaving of `run()` with a caller's `shutdown()`, from a server as
`__init__` leaves it.

* **`runner_shutdown_completes`** — the `shutdown()` that `run()` makes in its `finally` needs no
  assumption: `run()` gets there only by returning from `runtime.run()`, its last statement, after
  every `start()` it makes, so the runner's call never raises, can always take its next statement,
  and when it returns has executed all of `shutdown()`.  The invariant is `RunnerSafe`: what is
  left of `run()` is a suffix of `runSteps`, every thread whose `start()` is no longer left has
  been started, and the runner's call has executed a prefix of `shutdown()` without raising.
* **`shutdown_raised_hangs`** — for a caller that calls `shutdown()` once, a call that raised
  leaves the server running for good.  It raised at a join, before `runtime.shutdown()`, its last statement; nothing else stops
  the runtime, since `run()`'s `finally` begins only once the runtime is stopped.  So from then
  on, whatever is executed, the runtime stays up, `run()` never returns from `runtime.run()`, and
  its `finally` never runs.  The invariant is `StopInv`.
* **`shutdown_join_returns`** — what `_server_runner`'s `finally` does once `Server.create(...,
  start=True)` has returned with `run()` waiting in `runtime.run()`: `server.shutdown()` and then
  `server.join()`, which waits for `run()` and the `shutdown()` of its `finally`.  Every
  interleaving is at most `2 * len(shutdown) + 1` statements long and can be run on until the
  join returns, with both calls of `shutdown()` complete (`Joined`), which is what the handshake's
  single move `childFinally` takes for granted.  The invariant is `Draining`, and
  `Lifecycle.left`, the statements left, drops at every step.

`runStep_cases`, `Call.step_cases` and one such lemma per other action say once what each step
does; both invariants are derived from them, and carried along a run by `runActs_inv`.
-/

namespace MoeServer

/-! ## What each statement does -/

/-- An element a list ends with, and has nowhere before, lies in a prefix only if nothing follows
the prefix. -/
lemma eq_nil_of_mem_last {α : Type} {p r l : List α} {x : α} (h : p ++ r = l ++ [x])
    (hx : x ∉ l) (hp : x ∈ p) : r = [] := by
  rcases List.eq_nil_or_concat r with rfl | ⟨r', b, rfl⟩
  · rfl
  · rw [List.concat_eq_append, ← List.append_assoc] at h
    exact absurd ((List.append_inj' h rfl).1 ▸ List.mem_append_left r' hp) hx

/-- `runtime.run()` is the last statement of `run()`. -/
lemma runtimeRun_last {t : Threads} {rest : List RunStep}
    (h : .runtimeRun :: rest <:+ runSteps t) : rest = [] := by
  obtain ⟨p, hp⟩ := h
  have hsplit : (p ++ [.runtimeRun]) ++ rest =
      (.dhtRunInBackground :: ((if t.hasDhtHandler then [.startDhtHandler] else []) ++
        (if t.hasSaver then [.startSaver] else []) ++
        (List.range t.numHandlers).map .startHandler)) ++ [.runtimeRun] := by
    simpa [runSteps] using hp
  exact eq_nil_of_mem_last hsplit (by split_ifs <;> simp) (by simp)

/-- `runtime.shutdown()` is the last statement of `shutdown()`. -/
lemma runtimeShutdown_last {t : Threads} {done rest : List Teardown}
    (h : done ++ rest = shutdownSteps t) (hm : .runtimeShutdown ∈ done) : rest = [] := by
  have hsplit : done ++ rest =
      (.readyClear :: ((List.range t.numHandlers).map .handlerShutdown ++
        (if t.hasDhtHandler then [.dhtHandlerJoin] else []) ++
        (if t.hasSaver then [.saverJoin] else []) ++ [.dhtShutdown])) ++ [.runtimeShutdown] := by
    simpa [shutdownSteps] using h
  exact eq_nil_of_mem_last hsplit (by split_ifs <;> simp) hm

/-- `run()` starts every thread it owns. -/
lemma start_mem_runSteps (t : Threads) :
    (t.hasDhtHandler = true → .startDhtHandler ∈ runSteps t) ∧
      (t.hasSaver = true → .startSaver ∈ runSteps t) :=
  ⟨fun h => by simp [runSteps, h], fun h => by simp [runSteps, h]⟩

/-- Every thread whose `start()` is not among `r`, the statements left to `run()`, has been
started. -/
def StartedBefore (s : Lifecycle) (r : List RunStep) : Prop :=
  (s.threads.hasDhtHandler = true → .startDhtHandler ∉ r → s.dhtHandlerStarted = true) ∧
    (s.threads.hasSaver = true → .startSaver ∉ r → s.saverStarted = true)

/-- Once `run()` has nothing left, every thread `shutdown()` joins is started. -/
lemma StartedBefore.ready {s : Lifecycle} (h : StartedBefore s []) : Ready s :=
  ⟨fun hd => h.1 hd (List.not_mem_nil _), fun hv => h.2 hv (List.not_mem_nil _)⟩

lemma Grows.startedBefore {s s' : Lifecycle} {r : List RunStep} (hg : Grows s s')
    (h : StartedBefore s r) : StartedBefore s' r :=
  ⟨fun hh hn => hg.2.1 (h.1 (hg.1 ▸ hh) hn), fun hh hn => hg.2.2 (h.2 (hg.1 ▸ hh) hn)⟩

/-- Executing the statement `x` of `run()`, in a step that starts the thread `x` names. -/
lemma StartedBefore.tail {s s' : Lifecycle} {x : RunStep} {rest : List RunStep}
    (h : StartedBefore s (x :: rest)) (hg : Grows s s')
    (hd : x = .startDhtHandler → s'.dhtHandlerStarted = true)
    (hv : x = .startSaver → s'.saverStarted = true) : StartedBefore s' rest := by
  refine ⟨fun hh hn => ?_, fun hh hn => ?_⟩
  · by_cases hx : x = .startDhtHandler
    · exact hd hx
    · exact hg.2.1 (h.1 (hg.1 ▸ hh) (by simp [Ne.symm hx, hn]))
  · by_cases hx : x = .startSaver
    · exact hv hx
    · exact hg.2.2 (h.2 (hg.1 ▸ hh) (by simp [Ne.symm hx, hn]))

/-- What a statement of `run()` does: it leaves the rest of `run()`, starts the thread it names,
and, if it is `runtime.run()` returning once the runtime is stopped, begins the `finally`'s
`shutdown()`; it touches neither the runtime nor the caller's call. -/
lemma runStep_cases {s s' : Lifecycle} (h : step s .runStep = some s') :
    ∃ x rest, s.run = some (x :: rest) ∧ s'.run = some rest ∧
      s'.runtimeStopped = s.runtimeStopped ∧ s'.caller = s.caller ∧
      (x = .startDhtHandler → s'.dhtHandlerStarted = true) ∧
      (x = .startSaver → s'.saverStarted = true) ∧
      (x = .runtimeRun ∧ s.runtimeStopped = true ∧ s'.runner = some (.begin s.threads) ∨
        s'.runner = s.runner) := by
  rcases hr : s.run with _ | _ | ⟨x, rest⟩
  · simp [step, hr] at h
  · simp [step, hr] at h
  refine ⟨x, rest, rfl, ?_⟩
  cases x <;> simp only [step, hr] at h <;> (try split at h) <;> cases h <;> simp [*]

/-- What a statement of a call of `shutdown()` does: the call executes its next statement; if that
returns, the call moves past it, and returns after the last one; if it raises, the call ends with
the exception and the state is as it was. -/
lemma Call.step_cases {s s' : Lifecycle} {c c' : Call} (h : c.step s = some (s', c')) :
    ∃ st rest, c.remaining = st :: rest ∧ c.outcome = none ∧
      (teardown s st = .ok s' ∧
          c' = ⟨c.done ++ [st], rest, if rest = [] then some (.ok ()) else none⟩ ∨
        ∃ e, teardown s st = .error e ∧ s' = s ∧ c' = ⟨c.done, st :: rest, some (.error e)⟩) := by
  unfold Call.step at h
  split at h
  · rename_i st rest hrem hout
    split at h <;> cases h
    · exact ⟨st, rest, hrem, hout, .inl ⟨‹_›, rfl⟩⟩
    · exact ⟨st, rest, hrem, hout, .inr ⟨_, ‹_›, rfl, rfl⟩⟩
  · cases h

/-- Only `runtime.shutdown()` stops the runtime, and nothing restarts it. -/
lemma teardown_runtimeStopped {s s' : Lifecycle} {st : Teardown} (h : teardown s st = .ok s') :
    s'.runtimeStopped = true ↔ s.runtimeStopped = true ∨ st = .runtimeShutdown := by
  cases st <;> simp only [teardown] at h <;> (try split at h) <;> cases h <;> simp

lemma Call.step_runtimeStopped {s s' : Lifecycle} {c c' : Call} (h : c.step s = some (s', c'))
    (hs : s.runtimeStopped = true) : s'.runtimeStopped = true := by
  obtain ⟨st, rest, -, -, ⟨hok, -⟩ | ⟨e, -, rfl, -⟩⟩ := Call.step_cases h
  · exact (teardown_runtimeStopped hok).mpr (.inl hs)
  · exact hs

/-- `run()` called on a server that has not run yet. -/
lemma startRun_cases {s s' : Lifecycle} (h : step s .startRun = some s') :
    s.run = none ∧ s' = { s with run := some (runSteps s.threads) } := by
  simp only [step] at h
  split at h <;> cases h
  exact ⟨‹_›, rfl⟩

/-- `shutdown()` called by the caller, once. -/
lemma callShutdown_cases {s s' : Lifecycle} (h : step s .callShutdown = some s') :
    s.caller = none ∧ s' = { s with caller := some (.begin s.threads) } := by
  simp only [step] at h
  split at h <;> cases h
  exact ⟨‹_›, rfl⟩

/-- A statement of the caller's call, executed on the state. -/
lemma callerStep_cases {s s' : Lifecycle} (h : step s .callerStep = some s') :
    ∃ c s'' c', s.caller = some c ∧ c.step s = some (s'', c') ∧
      s' = { s'' with caller := some c' } := by
  obtain ⟨c, hc, hc'⟩ := Option.bind_eq_some.mp h
  obtain ⟨⟨s'', c'⟩, hstep, rfl⟩ := Option.map_eq_some'.mp hc'
  exact ⟨c, s'', c', hc, hstep, rfl⟩

/-- A statement of the runner's call, executed on the state. -/
lemma runnerStep_cases {s s' : Lifecycle} (h : step s .runnerStep = some s') :
    ∃ c s'' c', s.runner = some c ∧ c.step s = some (s'', c') ∧
      s' = { s'' with runner := some c' } := by
  obtain ⟨c, hc, hc'⟩ := Option.bind_eq_some.mp h
  obtain ⟨⟨s'', c'⟩, hstep, rfl⟩ := Option.map_eq_some'.mp hc'
  exact ⟨c, s'', c', hc, hstep, rfl⟩

/-- A property every enabled step keeps holds all along a run. -/
lemma runActs_inv {P : Lifecycle → Prop}
    (hstep : ∀ {s s' : Lifecycle} {a : Act}, P s → step s a = some s' → P s') :
    ∀ {s s' : Lifecycle} {acts : List Act}, P s → runActs s acts = some s' → P s'
  | _, _, [], hs, h => by cases h; exact hs
  | _, _, _ :: _, hs, h => by
    obtain ⟨s1, h1, h2⟩ := Option.bind_eq_some.mp h
    exact runActs_inv hstep (hstep hs h1) h2

/-! ## The invariant -/

/-- The invariant of `run()` and of the `shutdown()` in its `finally`. -/
structure RunnerSafe (s : Lifecycle) : Prop where
  /-- What is left of `run()` is a suffix of it, and the threads it no longer has to start are
  started. -/
  onTrack : ∀ r, s.run = some r → r <:+ runSteps s.threads ∧ StartedBefore s r
  /-- The runner's call finds the threads started and has not raised. -/
  runner : ∀ c, s.runner = some c → Ready s ∧ c.Good s.threads

lemma runnerSafe_constructed (t : Threads) : RunnerSafe (.constructed t) :=
  ⟨fun _ h => (nomatch h), fun _ h => (nomatch h)⟩

/-- A step that leaves `run()` where it is keeps it on track. -/
lemma RunnerSafe.onTrack_frame {s s' : Lifecycle} (hs : RunnerSafe s) (hg : Grows s s')
    (hrun : s'.run = s.run) (r : List RunStep) (h : s'.run = some r) :
    r <:+ runSteps s'.threads ∧ StartedBefore s' r := by
  obtain ⟨hsuf, hst⟩ := hs.onTrack r (hrun ▸ h)
  exact ⟨hg.1 ▸ hsuf, hg.startedBefore hst⟩

/-- A step that touches neither `run()` nor the runner's call keeps the invariant. -/
lemma RunnerSafe.frame {s s' : Lifecycle} (hs : RunnerSafe s) (hg : Grows s s')
    (hrun : s'.run = s.run) (hrunner : s'.runner = s.runner) : RunnerSafe s' := by
  refine ⟨hs.onTrack_frame hg hrun, fun c hc => ?_⟩
  obtain ⟨hready, hgood⟩ := hs.runner c (hrunner ▸ hc)
  exact ⟨hg.ready hready, hg.1 ▸ hgood⟩

lemma runnerSafe_step {s s' : Lifecycle} {a : Act} (hs : RunnerSafe s) (h : step s a = some s') :
    RunnerSafe s' := by
  have hg := started_mono h
  cases a with
  | startRun =>
    obtain ⟨-, rfl⟩ := startRun_cases h
    refine ⟨fun r hr => ?_, hs.runner⟩
    cases hr
    exact ⟨List.suffix_refl _, fun hd hn => absurd ((start_mem_runSteps _).1 hd) hn,
      fun hv hn => absurd ((start_mem_runSteps _).2 hv) hn⟩
  | runStep =>
    obtain ⟨x, rest, hr, hr', -, -, hd, hv, hrunner⟩ := runStep_cases h
    obtain ⟨hsuf, hst⟩ := hs.onTrack _ hr
    have hst' := hst.tail hg hd hv
    refine ⟨fun r h' => ?_, fun c hc => ?_⟩
    · rw [hr'] at h'
      cases h'
      exact ⟨hg.1 ▸ (List.suffix_cons x rest).trans hsuf, hst'⟩
    · rcases hrunner with ⟨rfl, -, hb⟩ | hb
      · rw [hb] at hc
        cases hc
        rw [runtimeRun_last hsuf] at hst'
        exact ⟨hst'.ready, hg.1 ▸ Call.good_begin _⟩
      · obtain ⟨hready, hgood⟩ := hs.runner c (hb ▸ hc)
        exact ⟨hg.ready hready, hg.1 ▸ hgood⟩
  | callShutdown =>
    obtain ⟨-, rfl⟩ := callShutdown_cases h
    exact hs.frame hg rfl rfl
  | callerStep =>
    obtain ⟨c, s'', c', -, hstep, rfl⟩ := callerStep_cases h
    obtain ⟨-, hrunner, hrun⟩ := Call.step_calls hstep
    exact hs.frame hg hrun hrunner
  | runnerStep =>
    obtain ⟨c, s'', c', hc, hstep, rfl⟩ := runnerStep_cases h
    obtain ⟨hready, hgood⟩ := hs.runner c hc
    refine ⟨hs.onTrack_frame hg (Call.step_calls hstep).2.2, fun c'' hc'' => ?_⟩
    cases hc''
    exact ⟨hg.ready hready, hg.1 ▸ Call.step_good hready hgood hstep⟩

/-! ## The runner's call -/

/-- How a call that has not raised stands: running with statements left, or returned having
executed all of `shutdown()`. -/
lemma Call.Good.ended {t : Threads} {c : Call} (hc : c.Good t) :
    (c.remaining ≠ [] → c.outcome = none) ∧
      (c.remaining = [] → c.outcome = some (.ok ()) ∧ c.done = shutdownSteps t) := by
  obtain ⟨hsteps, ⟨hnone, hne⟩ | ⟨hok, hnil⟩⟩ := hc
  · exact ⟨fun _ => hnone, fun hrem => absurd hrem hne⟩
  · exact ⟨fun hrem => absurd hnil hrem, fun _ => ⟨hok, by simpa [hnil] using hsteps⟩⟩

/-- **The `finally`'s `shutdown()` never raises.**  From a constructed server, in every
interleaving of `run()` with a caller's `shutdown()`, the `shutdown()` that `run()` makes once
`runtime.run()` returns has executed a prefix of `shutdown()` without raising, can take its next
statement while one is left, and when it returns has executed every statement of `shutdown()`,
`dht.shutdown()` and `runtime.shutdown()` included. -/
theorem runner_shutdown_completes (t : Threads) (acts : List Act) (s : Lifecycle)
    (h : runActs (.constructed t) acts = some s) (c : Call) (hc : s.runner = some c) :
    c.done ++ c.remaining = shutdownSteps t ∧
      (c.remaining ≠ [] → c.outcome = none ∧ step s .runnerStep ≠ none) ∧
      (c.remaining = [] → c.outcome = some (.ok ()) ∧ c.done = shutdownSteps t) := by
  obtain ⟨hready, hgood⟩ :=
    (runActs_inv runnerSafe_step (runnerSafe_constructed t) h).runner c hc
  have ht : s.threads = t := (runActs_grows h).1
  have hstep (hrem : c.remaining ≠ []) : step s .runnerStep ≠ none := by
    simp only [step, hc, Option.some_bind, ne_eq, Option.map_eq_none']
    exact Call.step_some hready hgood hrem
  rw [ht] at hgood
  exact ⟨hgood.1, fun hrem => ⟨hgood.ended.1 hrem, hstep hrem⟩, hgood.ended.2⟩

/-- `run()` starts its threads and waits in `runtime.run()`; a caller's `shutdown()` runs to its
end and stops the runtime; `runtime.run()` returns. -/
def callerStopsRuntime : List Act :=
  [.startRun, .runStep, .runStep, .runStep, .runStep, .callShutdown] ++
    List.replicate 6 .callerStep ++ [.runStep]

/-- A server with an expert, a checkpoint directory and one handler, after a caller's
`shutdown()` made while `run()` waits in `runtime.run()`: `run()` has returned and its
`finally`'s `shutdown()` is about to begin. -/
def stoppedServer : Lifecycle :=
  ⟨⟨true, true, 1⟩, true, true, true, some [], some (.begin ⟨true, true, 1⟩),
    some ⟨shutdownSteps ⟨true, true, 1⟩, [], some (.ok ())⟩⟩

theorem runner_shutdown_completes_after_caller :
    runActs (.constructed ⟨true, true, 1⟩) callerStopsRuntime = some stoppedServer ∧
      stoppedServer.runner = some (.begin ⟨true, true, 1⟩) ∧
      (Call.begin ⟨true, true, 1⟩).done ++ (Call.begin ⟨true, true, 1⟩).remaining =
        shutdownSteps ⟨true, true, 1⟩ ∧
      ((Call.begin ⟨true, true, 1⟩).remaining ≠ [] →
        (Call.begin ⟨true, true, 1⟩).outcome = none ∧ step stoppedServer .runnerStep ≠ none) ∧
      ((Call.begin ⟨true, true, 1⟩).remaining = [] →
        (Call.begin ⟨true, true, 1⟩).outcome = some (.ok ()) ∧
          (Call.begin ⟨true, true, 1⟩).done = shutdownSteps ⟨true, true, 1⟩) :=
  ⟨by decide, rfl, runner_shutdown_completes ⟨true, true, 1⟩ callerStopsRuntime stoppedServer
    (by decide) _ rfl⟩

/-! ## A caller's `shutdown()` that raised -/

/-- What every step keeps true of the caller's call and of the runtime. -/
structure StopInv (s : Lifecycle) : Prop where
  /-- The caller's call has executed a prefix of `shutdown()`, and has statements left if it
  raised. -/
  caller : ∀ c, s.caller = some c → c.done ++ c.remaining = shutdownSteps s.threads ∧
    ∀ e, c.outcome = some (.error e) → c.remaining ≠ []
  /-- The runtime was stopped by the caller's `runtime.shutdown()`. -/
  stoppedBy : s.runtimeStopped = true → ∃ c, s.caller = some c ∧ .runtimeShutdown ∈ c.done
  /-- `run()`'s `finally` begins only once the runtime is stopped. -/
  runner : s.runner ≠ none → s.runtimeStopped = true

lemma stopInv_constructed (t : Threads) : StopInv (.constructed t) :=
  ⟨fun _ h => (nomatch h), fun h => (nomatch h), fun h => absurd rfl h⟩

lemma stopInv_step {s s' : Lifecycle} {a : Act} (hs : StopInv s) (h : step s a = some s') :
    StopInv s' := by
  have ht := (started_mono h).1
  cases a with
  | startRun =>
    obtain ⟨-, rfl⟩ := startRun_cases h
    exact ⟨hs.caller, hs.stoppedBy, hs.runner⟩
  | runStep =>
    obtain ⟨x, rest, -, -, hstop, hcaller, -, -, hrunner⟩ := runStep_cases h
    refine ⟨fun c hc => ht ▸ hs.caller c (hcaller ▸ hc),
      fun h' => hcaller ▸ hs.stoppedBy (hstop ▸ h'), fun hr => hstop ▸ ?_⟩
    rcases hrunner with ⟨-, hstopped, -⟩ | hb
    · exact hstopped
    · exact hs.runner (hb ▸ hr)
  | callShutdown =>
    obtain ⟨hnone, rfl⟩ := callShutdown_cases h
    refine ⟨fun c hc => ?_, fun h' => ?_, hs.runner⟩
    · cases hc
      exact ⟨rfl, fun _ he => nomatch he⟩
    · obtain ⟨c, hc, -⟩ := hs.stoppedBy h'
      simp [hnone] at hc
  | callerStep =>
    obtain ⟨c, s'', c', hc, hstep, rfl⟩ := callerStep_cases h
    have hrunner := (Call.step_calls hstep).2.1
    have hsteps := (hs.caller c hc).1
    have hby (h' : s.runtimeStopped = true) : .runtimeShutdown ∈ c.done := by
      obtain ⟨c0, hc0, hm⟩ := hs.stoppedBy h'
      rw [hc] at hc0
      cases hc0
      exact hm
    obtain ⟨st, rest, hrem, -, ⟨hok, rfl⟩ | ⟨e, -, rfl, rfl⟩⟩ := Call.step_cases hstep
    · refine ⟨fun c₁ hc₁ => ?_, fun h' => ?_, fun hr => ?_⟩
      · cases hc₁
        refine ⟨by rw [ht]; simpa [hrem] using hsteps, fun e he => ?_⟩
        split_ifs at he
        simp at he
      · refine ⟨_, rfl, ?_⟩
        rcases (teardown_runtimeStopped hok).mp h' with h0 | rfl
        · exact List.mem_append_left _ (hby h0)
        · exact List.mem_append_right _ (List.mem_singleton_self _)
      · exact (teardown_runtimeStopped hok).mpr (.inl (hs.runner (hrunner ▸ hr)))
    · refine ⟨fun c₁ hc₁ => ?_, fun h' => ⟨_, rfl, hby h'⟩, hs.runner⟩
      cases hc₁
      exact ⟨hrem ▸ hsteps, fun _ _ => List.cons_ne_nil _ _⟩
  | runnerStep =>
    obtain ⟨r, s'', r', hr, hstep, rfl⟩ := runnerStep_cases h
    have hcaller := (Call.step_calls hstep).1
    have h0 := hs.runner (by simp [hr])
    exact ⟨fun c hc => ht ▸ hs.caller c (hcaller ▸ hc), fun _ => hcaller ▸ hs.stoppedBy h0,
      fun _ => show s''.runtimeStopped = true from Call.step_runtimeStopped hstep h0⟩

/-- A call of `shutdown()` that has ended stays as it is: no step touches it. -/
lemma caller_step_ended {s s' : Lifecycle} {a : Act} {c : Call} (hc : s.caller = some c)
    (hout : c.outcome ≠ none) (h : step s a = some s') : s'.caller = some c := by
  cases a with
  | startRun =>
    obtain ⟨-, rfl⟩ := startRun_cases h
    exact hc
  | runStep =>
    obtain ⟨-, -, -, -, -, hcaller, -⟩ := runStep_cases h
    exact hcaller ▸ hc
  | callShutdown => exact absurd ((callShutdown_cases h).1.symm.trans hc) nofun
  | callerStep =>
    obtain ⟨c0, _, _, hc0, hstep, -⟩ := callerStep_cases h
    obtain ⟨_, _, -, hnone, -⟩ := Call.step_cases hstep
    exact absurd (Option.some.inj (hc0.symm.trans hc) ▸ hnone) hout
  | runnerStep =>
    obtain ⟨_, s'', _, -, hstep, rfl⟩ := runnerStep_cases h
    exact (Call.step_calls hstep).1.trans hc

lemma runActs_append (s : Lifecycle) (acts more : List Act) :
    runActs s (acts ++ more) = (runActs s acts).bind (runActs · more) := by
  induction acts generalizing s with
  | nil => rfl
  | cons a rest ih =>
    rw [List.cons_append, runActs, runActs, Option.bind_assoc]
    simp only [ih]

/-- **A `shutdown()` that raised leaves the server running for good.**  For a caller that calls
`shutdown()` once (the model's caller, `Lifecycle.caller`): from a constructed server, once that
call has raised, in every continuation of the run: the call stays as it
ended, the runtime is never stopped, `run()`'s `finally` never begins, and `run()` cannot return
from `runtime.run()`. -/
theorem shutdown_raised_hangs (t : Threads) (acts : List Act) (s : Lifecycle)
    (h : runActs (.constructed t) acts = some s) (c : Call) (hc : s.caller = some c) (e : PyError)
    (he : c.outcome = some (.error e)) (more : List Act) (s' : Lifecycle)
    (h' : runActs s more = some s') :
    s'.caller = some c ∧ s'.runtimeStopped = false ∧ s'.runner = none ∧
      ∀ rest, s'.run = some (.runtimeRun :: rest) → step s' .runStep = none := by
  have hc' : s'.caller = some c :=
    runActs_inv (fun hc₁ h₁ => caller_step_ended hc₁ (by simp [he]) h₁) hc h'
  have hinv : StopInv s' := runActs_inv stopInv_step (stopInv_constructed t)
    (by rw [runActs_append, h, Option.some_bind]; exact h')
  have hstop : s'.runtimeStopped = false := by
    rw [Bool.eq_false_iff]
    intro hs'
    obtain ⟨c0, hc0, hm⟩ := hinv.stoppedBy hs'
    rw [hc'] at hc0
    cases hc0
    obtain ⟨hsteps, herr⟩ := hinv.caller c hc'
    exact herr e he (runtimeShutdown_last hsteps hm)
  have hrunner : s'.runner = none := by
    by_contra hne
    rw [hinv.runner hne] at hstop
    cases hstop
  exact ⟨hc', hstop, hrunner, fun rest hr => by simp [step, hr, hstop]⟩

/-- `shutdown()` called on a server with an expert and one handler before `run()`: it raises at
the join of the DHT handler thread; `run()` then starts its threads and waits in
`runtime.run()`. -/
def raisedEarly : List Act :=
  [.callShutdown, .callerStep, .callerStep, .callerStep, .startRun, .runStep, .runStep, .runStep]

/-- The server after `raisedEarly`. -/
def hungServer : Lifecycle :=
  ⟨⟨true, false, 1⟩, true, false, false, some [.runtimeRun], none,
    some ⟨[.readyClear, .handlerShutdown 0], [.dhtHandlerJoin, .dhtShutdown, .runtimeShutdown],
      some (.error joinBeforeStart)⟩⟩

theorem shutdown_raised_hangs_early :
    runActs (.constructed ⟨true, false, 1⟩) raisedEarly = some hungServer ∧
      hungServer.caller.bind Call.outcome = some (.error joinBeforeStart) ∧
      hungServer.runtimeStopped = false ∧ hungServer.runner = none ∧
      step hungServer .runStep = none :=
  have h := shutdown_raised_hangs ⟨true, false, 1⟩ raisedEarly hungServer (by decide) _ rfl
    joinBeforeStart rfl [] hungServer rfl
  ⟨by decide, rfl, h.2.1, h.2.2.1, h.2.2.2 [] rfl⟩

/-! ## `server.shutdown(); server.join()` -/

/-- `server.join()` can return: `run()` has returned, and both calls of `shutdown()` have executed
all of it without raising. -/
def Joined (t : Threads) (s : Lifecycle) : Prop :=
  s.run = some [] ∧ s.caller = some ⟨shutdownSteps t, [], some (.ok ())⟩ ∧
    s.runner = some ⟨shutdownSteps t, [], some (.ok ())⟩

instance (t : Threads) (s : Lifecycle) : Decidable (Joined t s) := by
  unfold Joined; infer_instance

/-- The invariant once the caller's `shutdown()` has begun while `run()` waits in
`runtime.run()`. -/
structure Draining (t : Threads) (s : Lifecycle) : Prop where
  threads : s.threads = t
  ready : Ready s
  /-- The caller's call has not raised, and its `runtime.shutdown()` stopped the runtime. -/
  caller : ∃ c, s.caller = some c ∧ c.Good t ∧ (.runtimeShutdown ∈ c.done → s.runtimeStopped = true)
  /-- `run()` waits in `runtime.run()`, or has returned into its `finally`, whose call has not
  raised. -/
  run : s.run = some [.runtimeRun] ∧ s.runner = none ∨
    s.run = some [] ∧ ∃ r, s.runner = some r ∧ r.Good t

/-- The statements left to both threads of control: the caller's, `runtime.run()` if it has not
returned, and the whole of the `finally`'s `shutdown()` until it begins. -/
def Lifecycle.left (s : Lifecycle) : Nat :=
  (s.caller.map (·.remaining.length)).getD 0 + (s.run.map List.length).getD 0 +
    (s.runner.map (·.remaining.length)).getD (shutdownSteps s.threads).length

/-- With the threads started, a statement of a call that has not raised returns. -/
lemma Call.step_ok {s s' : Lifecycle} {c c' : Call} (hs : Ready s) (hc : c.Good s.threads)
    (h : c.step s = some (s', c')) :
    ∃ st, c.remaining = st :: c'.remaining ∧ c'.done = c.done ++ [st] ∧ teardown s st = .ok s' := by
  obtain ⟨st, rest, hrem, -, ⟨hok, rfl⟩ | ⟨e, he, -, -⟩⟩ := Call.step_cases h
  · exact ⟨st, hrem, rfl, hok⟩
  · obtain ⟨s'', hok⟩ := teardown_ok hs
      (hc.1 ▸ List.mem_append_right _ (hrem ▸ List.mem_cons_self _ _))
    rw [hok] at he
    cases he

/-- `runtime.run()` returns only once the runtime is stopped, and begins the `finally`. -/
lemma runStep_runtimeRun {s s' : Lifecycle} (hr : s.run = some [.runtimeRun])
    (h : step s .runStep = some s') :
    s.runtimeStopped = true ∧ s' = { s with run := some [], runner := some (.begin s.threads) } := by
  simp only [step, hr] at h
  split at h <;> cases h
  exact ⟨‹_›, rfl⟩

lemma draining_step {t : Threads} {s s' : Lifecycle} {a : Act} (hs : Draining t s)
    (h : step s a = some s') : Draining t s' ∧ s'.left < s.left := by
  obtain ⟨ht, hready, ⟨c, hc, hgood, hstop⟩, hrun⟩ := hs
  have hg := started_mono h
  cases a with
  | startRun =>
    obtain ⟨hnone, -⟩ := startRun_cases h
    rcases hrun with ⟨hr, -⟩ | ⟨hr, -⟩ <;> exact absurd (hnone.symm.trans hr) nofun
  | runStep =>
    rcases hrun with ⟨hr, hnone⟩ | ⟨hr, -⟩
    · obtain ⟨hstopped, rfl⟩ := runStep_runtimeRun hr h
      refine ⟨⟨ht, hready, ⟨c, hc, hgood, fun _ => hstopped⟩,
        .inr ⟨rfl, _, rfl, ht ▸ Call.good_begin _⟩⟩, ?_⟩
      simp only [Lifecycle.left, hr, hnone, Call.begin, Option.map_some', Option.map_none',
        Option.getD_some, Option.getD_none, List.length_nil, List.length_singleton]
      omega
    · simp only [step, hr, reduceCtorEq] at h
  | callShutdown => exact absurd ((callShutdown_cases h).1.symm.trans hc) nofun
  | callerStep =>
    obtain ⟨c0, s'', c', hc0, hstep, rfl⟩ := callerStep_cases h
    rw [hc] at hc0
    cases hc0
    obtain ⟨hcaller, hrunner, hr⟩ := Call.step_calls hstep
    have hg' := Call.step_grows hstep
    obtain ⟨st, hrem, hdone, hok⟩ := Call.step_ok hready (ht ▸ hgood) hstep
    refine ⟨⟨hg'.1.trans ht, hg'.ready hready, ⟨c', rfl, ?_, fun hm => ?_⟩, ?_⟩, ?_⟩
    · exact ht ▸ Call.step_good hready (ht ▸ hgood) hstep
    · rw [hdone, List.mem_append, List.mem_singleton] at hm
      exact (teardown_runtimeStopped hok).mpr (hm.imp hstop Eq.symm)
    · rwa [hr, hrunner]
    · simp only [Lifecycle.left, hc, hrem, hr, hrunner, hg'.1, Option.map_some', Option.getD_some,
        List.length_cons]
      omega
  | runnerStep =>
    obtain ⟨r, s'', r', hr0, hstep, rfl⟩ := runnerStep_cases h
    obtain ⟨hcaller, hrunner, hr⟩ := Call.step_calls hstep
    have hg' := Call.step_grows hstep
    rcases hrun with ⟨-, hnone⟩ | ⟨hrun, r1, hr1, hrgood⟩
    · exact absurd (hnone.symm.trans hr0) nofun
    rw [hr1] at hr0
    cases hr0
    obtain ⟨st, hrem, -, -⟩ := Call.step_ok hready (ht ▸ hrgood) hstep
    refine ⟨⟨hg'.1.trans ht, hg'.ready hready, ⟨c, hcaller.trans hc, hgood, fun hm => ?_⟩,
      .inr ⟨hr.trans hrun, r', rfl, ht ▸ Call.step_good hready (ht ▸ hrgood) hstep⟩⟩, ?_⟩
    · exact show s''.runtimeStopped = true from Call.step_runtimeStopped hstep (hstop hm)
    · simp only [Lifecycle.left, hc, hcaller, hr, hrun, hr1, hrem, Option.map_some',
        Option.getD_some, List.length_cons]
      omega

lemma draining_run {t : Threads} {s s' : Lifecycle} {acts : List Act} (hs : Draining t s)
    (h : runActs s acts = some s') : Draining t s' ∧ s'.left + acts.length ≤ s.left := by
  induction acts generalizing s with
  | nil => cases h; exact ⟨hs, le_rfl⟩
  | cons a rest ih =>
    obtain ⟨s1, h1, h2⟩ := Option.bind_eq_some.mp h
    obtain ⟨hs1, hlt⟩ := draining_step hs h1
    obtain ⟨hs', hle⟩ := ih hs1 h2
    exact ⟨hs', by simp only [List.length_cons]; omega⟩

/-- Until `server.join()` can return, one of the two threads of control can go on. -/
lemma Draining.progress {t : Threads} {s : Lifecycle} (hs : Draining t s) :
    Joined t s ∨ ∃ a, step s a ≠ none := by
  obtain ⟨ht, hready, ⟨c, hc, hgood, hstop⟩, hrun⟩ := hs
  by_cases hrem : c.remaining = []
  · obtain ⟨hok, hdone⟩ := hgood.ended.2 hrem
    have hstopped : s.runtimeStopped = true := hstop (by simp [hdone, shutdownSteps])
    rcases hrun with ⟨hr, -⟩ | ⟨hr, r, hr1, hrgood⟩
    · exact .inr ⟨.runStep, by simp [step, hr, hstopped]⟩
    by_cases hrrem : r.remaining = []
    · obtain ⟨hrok, hrdone⟩ := hrgood.ended.2 hrrem
      refine .inl ⟨hr, ?_, ?_⟩
      · rw [hc, ← hdone, ← hrem, ← hok]
      · rw [hr1, ← hrdone, ← hrrem, ← hrok]
    · exact .inr ⟨.runnerStep, by
        simpa [step, hr1] using Call.step_some hready (ht ▸ hrgood) hrrem⟩
  · exact .inr ⟨.callerStep, by simpa [step, hc] using Call.step_some hready (ht ▸ hgood) hrem⟩

/-- From a draining state, the two threads can be run on until `server.join()` returns. -/
lemma Draining.joins {t : Threads} (n : Nat) : ∀ {s : Lifecycle}, Draining t s → s.left < n →
    ∃ rest s', runActs s rest = some s' ∧ Joined t s' := by
  induction n with
  | zero => exact fun _ hn => absurd hn (Nat.not_lt_zero _)
  | succ n ih =>
    intro s hs hn
    rcases hs.progress with hj | ⟨a, ha⟩
    · exact ⟨[], s, rfl, hj⟩
    · obtain ⟨s1, h1⟩ := Option.ne_none_iff_exists'.mp ha
      obtain ⟨hs1, hlt⟩ := draining_step hs h1
      obtain ⟨rest, s', h', hj⟩ := ih hs1 (by omega)
      exact ⟨a :: rest, s', by rw [runActs, h1, Option.some_bind, h'], hj⟩

/-- **`server.shutdown(); server.join()` returns.**  From a constructed server, at any point at
which `run()` waits in `runtime.run()` and no caller has called `shutdown()` (where
`Server.create(..., start=True)` returns in `_server_runner`), a caller's `shutdown()` followed
by any interleaving of both threads of control takes at most `2 * len(shutdown) + 1` statements
after the call, and can always be run on until `run()` has returned and both calls of
`shutdown()` have executed all of it without raising: the join returns. -/
theorem shutdown_join_returns (t : Threads) (acts : List Act) (s : Lifecycle)
    (h : runActs (.constructed t) acts = some s) (hrun : s.run = some [.runtimeRun])
    (hcaller : s.caller = none) (more : List Act) (s' : Lifecycle)
    (h' : runActs s (.callShutdown :: more) = some s') :
    more.length ≤ 2 * (shutdownSteps t).length + 1 ∧
      ∃ rest s'', runActs s' rest = some s'' ∧ Joined t s'' := by
  have ht : s.threads = t := (runActs_grows h).1
  have hready : Ready s := by
    obtain ⟨-, hst⟩ := (runActs_inv runnerSafe_step (runnerSafe_constructed t) h).onTrack _ hrun
    exact ⟨fun hd => hst.1 hd (by simp), fun hv => hst.2 hv (by simp)⟩
  have hrunner : s.runner = none := by
    have hinv := runActs_inv stopInv_step (stopInv_constructed t) h
    by_contra hne
    obtain ⟨c, hc, -⟩ := hinv.stoppedBy (hinv.runner hne)
    simp [hcaller] at hc
  rw [runActs, step, if_pos hcaller, Option.some_bind] at h'
  have hd : Draining t { s with caller := some (.begin s.threads) } :=
    ⟨ht, hready, ⟨_, rfl, ht ▸ Call.good_begin _, fun hm => absurd hm (List.not_mem_nil _)⟩,
      .inl ⟨hrun, hrunner⟩⟩
  obtain ⟨hd', hle⟩ := draining_run hd h'
  have h0 : Lifecycle.left { s with caller := some (.begin s.threads) } =
      2 * (shutdownSteps t).length + 1 := by
    simp only [Lifecycle.left, Call.begin, hrun, hrunner, ht, Option.map_some', Option.getD_some,
      List.length_singleton, Option.map_none', Option.getD_none]
    omega
  exact ⟨by omega, Draining.joins _ hd' (Nat.lt_succ_self _)⟩

theorem shutdown_join_returns_running :
    runActs (.constructed ⟨true, false, 1⟩) [.startRun, .runStep, .runStep, .runStep] =
        some runningServer ∧ runningServer.run = some [.runtimeRun] ∧ runningServer.caller = none ∧
      ∃ s', runActs runningServer [.callShutdown] = some s' ∧
        ([] : List Act).length ≤ 2 * (shutdownSteps ⟨true, false, 1⟩).length + 1 ∧
        ∃ rest s'', runActs s' rest = some s'' ∧ Joined ⟨true, false, 1⟩ s'' :=
  ⟨by decide, rfl, rfl, _, rfl, shutdown_join_returns ⟨true, false, 1⟩
    [.startRun, .runStep, .runStep, .runStep] runningServer (by decide) rfl rfl [] _ rfl⟩

end MoeServer
