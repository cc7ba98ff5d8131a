import ControlPlane.Proofs.Server.Stopping

/-!
# The Life of a Server

A server only moves forward through its phases, and in each phase it holds what
that phase promises and nothing else.

Setting up and starting are the operations that can fail. A failed setup changes
nothing at all. A failed start cannot undo what it has done, because the
listeners may be gone already, so it stops the server, and the server ends as if
it had been stopped on purpose. `start_eq` puts both ends of a start side by
side, and what the host has decided about the threads tells which one it is.

## Main definitions

* `Starting.outcome`: Why a start fails, if it does.
* `halfStarted`: The server when a thread could not be started.
* `Orderly`: What is true of a server at every point of its life.

## Theorems

* `prepared_of_establish`: A setup that succeeds makes a prepared server.
* `start_failed`, `start_succeeded`: What a start comes to.
* `coherent_apply`, `coherent_run`: Every operation keeps a server coherent.
* `rank_apply_le`: No operation goes back to an earlier phase.
* `orderly_of_run`: A server is orderly whatever was done to it.
* `orderly_failed_start`: A start that fails after a setup.
-/

namespace ControlPlane

/-- Why a start fails, if it does. The reactor comes first. -/
def Starting.outcome (starting : Starting) : Except ServerFault Unit :=
  match starting.reactor, starting.workers with
  | .error fault, _ => .error (.reactor fault)
  | .ok (), .error (_, reason) => .error (.workers reason)
  | .ok (), .ok () => .ok ()

namespace Server

open Telemetry (Observation)

/-- A setup that succeeds has listeners. -/
theorem listeners_of_prepare (config : Config) (attempt : Nat → Endpoint → Attempt) (setup : Setup)
    (told : List Observation) (h : prepare config attempt = (.ok setup, told)) :
    AllowList.ofEntries config.serving.allow = .ok setup.allow ∧ setup.listeners ≠ [] := by
  -- Each of the checks in turn has to have passed.
  unfold prepare at h
  simp only [] at h
  cases hp : config.problems with
  | cons p ps =>
      simp only [hp, Prod.mk.injEq, reduceCtorEq, false_and] at h
  | nil =>
      simp only [hp] at h
      cases ha : AllowList.ofEntries config.serving.allow with
      | error fault => simp only [ha, Prod.mk.injEq, reduceCtorEq, false_and] at h
      | ok allow =>
          simp only [ha] at h
          cases he : Endpoint.choose config.serving.port config.serving.bind
              config.serving.allow with
          | error fault => simp only [he, Prod.mk.injEq, reduceCtorEq, false_and] at h
          | ok endpoints =>
              simp only [he] at h
              cases hl : (Listener.bindAll attempt endpoints).1 with
              | nil =>
                  simp only [hl, List.isEmpty_nil, if_true, Prod.mk.injEq, reduceCtorEq,
                    false_and] at h
              | cons l ls =>
                  simp only [hl, List.isEmpty_cons, Bool.false_eq_true, if_false, Prod.mk.injEq,
                    Except.ok.injEq] at h
                  rw [← h.1]
                  exact ⟨rfl, List.cons_ne_nil l ls⟩

/-- A setup that succeeds makes a prepared server of an unprepared one. -/
theorem prepared_of_establish (s : Server) (attempt : Nat → Endpoint → Attempt) (setup : Setup)
    (told : List Observation) (h : prepare s.config attempt = (.ok setup, told))
    (hs : Unprepared s) : Prepared (s.establish setup) := by
  rcases listeners_of_prepare s.config attempt setup told h with ⟨hallow, hlisten⟩
  exact {
    queue := rfl
    running := rfl
    depth := Nat.le_max_left 1 _
    listeners := hlisten
    workers := hs.workers
    reactor := hs.reactor
    callback := ⟨setup.allow, hallow, admits_of_callback _ _ rfl⟩
    closing := hs.closing }

/-- A setup either changes nothing and fails, or makes the server ready. -/
theorem init_cases (s : Server) (attempt : Nat → Endpoint → Attempt) :
    (∃ fault told, s.init attempt = (s, .error fault, told)) ∨
      ∃ setup told told', s.phase = .uninitialized ∧
        prepare s.config attempt = (.ok setup, told) ∧
        s.init attempt = (s.establish setup, .ok (), told') := by
  unfold init
  by_cases hphase : s.phase = .uninitialized
  · rw [if_pos hphase]
    rcases hp : prepare s.config attempt with ⟨fault | setup, told⟩
    · exact Or.inl ⟨fault, _, rfl⟩
    · exact Or.inr ⟨setup, told, _, hphase, rfl, rfl⟩
  · rw [if_neg hphase]
    exact Or.inl ⟨_, _, rfl⟩

/-- The server from which a start that has failed is abandoned: the listeners are
    handed over, and if the reactor was there already, the failure of the workers
    has stopped the queue. -/
def halfStarted (s : Server) (starting : Starting) : Server :=
  match starting.reactor with
  | .error _ => { s with listeners := [] }
  | .ok () =>
    { s with listeners := [], reactor := some s.listeners, service := s.service.stopQueue }

/-- What a start comes to in the phase that allows it. -/
theorem start_eq (s : Server) (starting : Starting) (hp : s.phase = .initialized)
    (hq : s.holdsQueue = true) :
    (s.start starting).2.1 = starting.outcome ∧
      (s.start starting).1 = match starting.outcome with
        | .error _ => ((s.halfStarted starting).stop).1
        | .ok () => { s with
            listeners := []
            reactor := some s.listeners
            workers := some s.config.serving.workerThreads
            phase := .running } := by
  have hboth : s.phase = .initialized ∧ s.holdsQueue = true := ⟨hp, hq⟩
  rcases starting with ⟨reactor, workers⟩
  cases reactor with
  | error fault =>
      simp only [start, if_pos hboth, Starting.outcome, halfStarted, abandon]
      exact ⟨trivial, trivial⟩
  | ok ready =>
      cases workers with
      | error fault =>
          simp only [start, if_pos hboth, Starting.outcome, halfStarted, abandon]
          exact ⟨trivial, trivial⟩
      | ok ready =>
          simp only [start, if_pos hboth, Starting.outcome]
          exact ⟨trivial, trivial⟩

/-- A setup outside the first phase is refused. -/
theorem init_refused (s : Server) (attempt : Nat → Endpoint → Attempt)
    (hp : s.phase ≠ .uninitialized) :
    s.init attempt = (s, .error (.phase .setUp s.phase), []) := by
  unfold init
  rw [if_neg hp]

/-- A start in another phase is refused. -/
theorem start_refused (s : Server) (starting : Starting) (hp : s.phase ≠ .initialized) :
    s.start starting = (s, .error (.phase .start s.phase), []) := by
  unfold start
  rw [if_neg (fun hc => hp hc.1)]

/-- A start that fails stops the server, raises the flag and stops the queue. -/
theorem start_failed (s : Server) (starting : Starting) (fault : ServerFault)
    (hs : Prepared s) (hp : s.phase = .initialized) (hf : starting.outcome = .error fault) :
    (s.start starting).1.phase = .stopped ∧ Released (s.start starting).1 ∧
      (s.start starting).1.service.closing = true ∧
      (s.start starting).1.service.queue.running = false := by
  have hstart : (s.start starting).1 = ((s.halfStarted starting).stop).1 := by
    rw [(start_eq s starting hp hs.queue).2, hf]
  have hphase : (s.halfStarted starting).phase = .initialized := by
    unfold halfStarted
    cases starting.reactor with
    | error _ => exact hp
    | ok _ => exact hp
  have hqueue : (s.halfStarted starting).holdsQueue = true := by
    unfold halfStarted
    cases starting.reactor with
    | error _ => exact hs.queue
    | ok _ => exact hs.queue
  -- The half-started server still counts as accepting, so stopping interrupts it.
  have haccept : (s.halfStarted starting).phase.isAccepting = true := by
    rw [hphase]
    rfl
  rw [hstart]
  rcases released_of_stop (s.halfStarted starting) (by rw [hphase]; decide)
    (fun hc => absurd (hc.symm.trans haccept) Bool.false_ne_true) with ⟨hstop, hrel⟩
  exact ⟨hstop, hrel, closing_of_stop _ haccept hqueue⟩

/-- A start that succeeds makes the server run. -/
theorem start_succeeded (s : Server) (starting : Starting) (hs : Prepared s)
    (hp : s.phase = .initialized) (ho : starting.outcome = .ok ()) :
    (s.start starting).1.phase = .running ∧ Started (s.start starting).1 := by
  rw [(start_eq s starting hp hs.queue).2, ho]
  refine ⟨rfl, ?_⟩
  exact {
    queue := hs.queue
    running := hs.running
    depth := hs.depth
    listeners := rfl
    workers := congrArg some (Nat.max_comm 1 _)
    reactor := ⟨s.listeners, hs.listeners, rfl⟩
    callback := hs.callback
    closing := hs.closing }

/-- Every operation keeps a server coherent. -/
theorem coherent_apply (s : Server) (op : Operation) (h : Coherent s) :
    Coherent (s.apply op).1 := by
  cases op with
  | register m handler => exact coherent_of_routes s _ h
  | unregister m =>
      simp only [apply, unregister, Service.unregister_frame]
      exact coherent_of_routes s _ h
  | init attempt =>
      rcases init_cases s attempt with ⟨fault, told, hi⟩ | ⟨setup, told, told', hphase, hp, hi⟩
      · simp only [apply, hi]
        exact h
      · simp only [apply, hi]
        exact coherent_of_fits (s.establish setup) .initialized
          (prepared_of_establish s attempt setup told hp (fits_of_coherent s _ h hphase)) rfl
  | start starting =>
      simp only [apply]
      by_cases hphase : s.phase = .initialized
      · -- Starting either goes through or takes the server all the way to its end.
        have hs : Prepared s := fits_of_coherent s _ h hphase
        cases ho : starting.outcome with
        | error fault =>
            rcases start_failed s starting fault hs hphase ho with ⟨hstop, hrel, _⟩
            exact coherent_of_fits _ .stopped hrel hstop
        | ok done =>
            rcases start_succeeded s starting hs hphase ho with ⟨hrun, hstarted⟩
            exact coherent_of_fits _ .running hstarted hrun
      · rw [start_refused s starting hphase]
        exact h
  | interrupt =>
      simp only [apply]
      by_cases ha : s.phase.isAccepting = true
      · rcases interrupt_of_coherent s h ha with ⟨hi, _, hhalt⟩
        rw [hi]
        exact coherent_of_fits _ .interrupted hhalt rfl
      · rw [interrupt_idle s ha]
        exact h
  | stop =>
      rcases stop_of_coherent s h with ⟨hstop, hrel⟩
      exact coherent_of_fits _ .stopped hrel hstop

/-- No operation goes back to an earlier phase. -/
theorem rank_apply_le (s : Server) (op : Operation) (h : Coherent s) :
    s.phase.rank ≤ (s.apply op).1.phase.rank := by
  -- Nothing comes after the last phase, so going there is never a step back.
  have hlast : ∀ phase : Phase, phase.rank ≤ Phase.stopped.rank := by
    intro phase
    cases phase with
    | uninitialized => decide
    | initialized => decide
    | running => decide
    | interrupted => decide
    | stopped => decide
  cases op with
  | register m handler => exact Nat.le_refl _
  | unregister m => exact Nat.le_refl _
  | init attempt =>
      rcases init_cases s attempt with ⟨fault, told, hi⟩ | ⟨setup, told, told', hphase, hp, hi⟩
      · simp only [apply, hi]
        exact Nat.le_refl _
      · simp only [apply, hi]
        rw [hphase]
        exact Nat.zero_le _
  | start starting =>
      simp only [apply]
      by_cases hphase : s.phase = .initialized
      · have hs : Prepared s := fits_of_coherent s _ h hphase
        cases ho : starting.outcome with
        | error fault =>
            rw [(start_failed s starting fault hs hphase ho).1]
            exact hlast _
        | ok done =>
            rw [(start_succeeded s starting hs hphase ho).1, hphase]
            decide
      · exact Nat.le_of_eq (by rw [start_refused s starting hphase])
  | interrupt =>
      simp only [apply]
      by_cases ha : s.phase.isAccepting = true
      · rw [(interrupt_of_coherent s h ha).1]
        -- A server that was stopped does not accept, and every other phase comes before.
        rcases hphase : s.phase with _ | _ | _ | _ | _
        · exact Nat.zero_le _
        · exact (by decide : Phase.initialized.rank ≤ Phase.interrupted.rank)
        · exact (by decide : Phase.running.rank ≤ Phase.interrupted.rank)
        · exact Nat.le_refl _
        · rw [hphase] at ha
          exact absurd ha (by decide)
      · exact Nat.le_of_eq (by rw [interrupt_idle s ha])
  | stop =>
      simp only [apply]
      rw [(stop_of_coherent s h).1]
      exact hlast _

theorem coherent_ofConfig (config : Config) : Coherent (ofConfig config) :=
  coherent_of_fits _ .uninitialized ⟨rfl, rfl, rfl, rfl, rfl, rfl⟩ rfl

/-- Whatever is done to a coherent server, it stays coherent and goes back to no
    earlier phase. -/
theorem coherent_run (s : Server) (ops : List Operation) (h : Coherent s) :
    Coherent (s.run ops) ∧ s.phase.rank ≤ (s.run ops).phase.rank := by
  induction ops generalizing s with
  | nil => exact ⟨h, Nat.le_refl _⟩
  | cons op rest ih =>
      rcases ih (s.apply op).1 (coherent_apply s op h) with ⟨hrest, hle⟩
      exact ⟨hrest, Nat.le_trans (rank_apply_le s op h) hle⟩

/-- What is true of a server at every point of its life. -/
structure Orderly (s : Server) : Prop where
  /-- What the server holds agrees with its phase. -/
  coherent : Coherent s
  /-- Nothing brings it back to an earlier phase. -/
  forward : ∀ ops, s.phase.rank ≤ (s.run ops).phase.rank
  /-- A setup outside the first phase is refused. -/
  setUpRefused : ∀ attempt, s.phase ≠ .uninitialized →
    s.init attempt = (s, .error (.phase .setUp s.phase), [])
  /-- A setup that fails, for whatever reason, changes nothing. -/
  setUpFailed : ∀ attempt fault, (s.init attempt).2.1 = .error fault → (s.init attempt).1 = s
  setUpDone : ∀ attempt, (s.init attempt).2.1 = .ok () → (s.init attempt).1.phase = .initialized
  /-- A start outside the second phase is refused and changes nothing. -/
  startRefused : ∀ starting, s.phase ≠ .initialized →
    s.start starting = (s, .error (.phase .start s.phase), [])
  /-- Otherwise the threads decide about the start. -/
  startOutcome : ∀ starting, s.phase = .initialized →
    (s.start starting).2.1 = starting.outcome
  startDone : ∀ starting, s.phase = .initialized → starting.outcome = .ok () →
    (s.start starting).1.phase = .running
  /-- A start that fails stops the server as if it had been stopped on purpose. -/
  startFailed : ∀ starting fault, s.phase = .initialized → starting.outcome = .error fault →
    (s.start starting).1.phase = .stopped ∧ Released (s.start starting).1 ∧
      (s.start starting).1.service.closing = true ∧
      (s.start starting).1.service.queue.running = false
  /-- An interrupt does nothing before the setup and after the first interrupt. -/
  interruptRefused : s.phase = .uninitialized →
    s.interrupt = (s, .error (.phase .interrupt s.phase), [])
  interruptAgain : s.phase = .interrupted ∨ s.phase = .stopped → s.interrupt = (s, .ok (), [])
  interruptDone : s.phase.isAccepting = true →
    (s.interrupt).2.1 = .ok () ∧ (s.interrupt).1.phase = .interrupted
  /-- A stop always ends in the last phase, and a second one does nothing. -/
  stopped : (s.stop).1.phase = .stopped
  stopAgain : s.phase = .stopped → s.stop = (s, [])
  /-- The queue was stopped by the time the workers are waited for. -/
  joined : s.atJoin.workers.isSome = true → s.phase ≠ .stopped →
    s.atJoin.service.queue.running = false

/-- A server is orderly whatever was done to it since it was made, and whatever the
    host has decided about its endpoints and threads. -/
theorem orderly_of_run (config : Config) (ops : List Operation) :
    Orderly ((ofConfig config).run ops) := by
  rcases coherent_run (ofConfig config) ops (coherent_ofConfig config) with ⟨hcoh, _⟩
  exact {
    coherent := hcoh
    forward := fun later => (coherent_run _ later hcoh).2
    setUpRefused := fun attempt hp => init_refused _ attempt hp
    setUpFailed := fun attempt fault hf => by
      rcases init_cases ((ofConfig config).run ops) attempt with
        ⟨_, _, hi⟩ | ⟨_, _, _, _, _, hi⟩
      · rw [hi]
      · rw [hi] at hf
        exact absurd hf (by simp only [reduceCtorEq, not_false_eq_true])
    setUpDone := fun attempt hd => by
      rcases init_cases ((ofConfig config).run ops) attempt with
        ⟨_, _, hi⟩ | ⟨_, _, _, _, _, hi⟩
      · rw [hi] at hd
        exact absurd hd (by simp only [reduceCtorEq, not_false_eq_true])
      · rw [hi]
        rfl
    startRefused := fun starting hp => start_refused _ starting hp
    startOutcome := fun starting hp =>
      (start_eq _ starting hp (fits_of_coherent _ _ hcoh hp : Prepared _).queue).1
    startDone := fun starting hp ho =>
      (start_succeeded _ starting (fits_of_coherent _ _ hcoh hp) hp ho).1
    startFailed := fun starting fault hp hf =>
      start_failed _ starting fault (fits_of_coherent _ _ hcoh hp) hp hf
    interruptRefused := fun hp => by
      simp only [interrupt, hp]
    interruptAgain := fun hp => by
      rcases hp with hp | hp
      · simp only [interrupt, hp]
      · simp only [interrupt, hp]
    interruptDone := fun ha => by
      rcases interrupt_of_coherent _ hcoh ha with ⟨hi, hdone, _⟩
      refine ⟨hdone, ?_⟩
      rw [hi]
      rfl
    stopped := (stop_of_coherent _ hcoh).1
    stopAgain := fun hp => by
      unfold stop
      rw [if_pos hp]
    joined := joined_of_coherent _ hcoh }

/-- A server is set up, and then one of its workers cannot be started. -/
theorem orderly_failed_start :
    ((ofConfig {}).run [.init fun _ _ => .ok ⟨.v4 Address.loopback4, 8332, 0⟩]).phase =
        .initialized ∧
      (((ofConfig {}).run [.init fun _ _ => .ok ⟨.v4 Address.loopback4, 8332, 0⟩]).start
        { workers := .error (2, "no more threads") }).1.phase = .stopped ∧
      Released (((ofConfig {}).run [.init fun _ _ => .ok ⟨.v4 Address.loopback4, 8332, 0⟩]).start
        { workers := .error (2, "no more threads") }).1 := by
  have hphase : ((ofConfig {}).run
      [.init fun _ _ => .ok ⟨.v4 Address.loopback4, 8332, 0⟩]).phase = .initialized := by
    rfl
  have horderly := orderly_of_run {} [.init fun _ _ => .ok ⟨.v4 Address.loopback4, 8332, 0⟩]
  rcases horderly.startFailed { workers := .error (2, "no more threads") } _ hphase rfl with
    ⟨hstopped, hreleased, _⟩
  exact ⟨hphase, hstopped, hreleased⟩

end Server

end ControlPlane
