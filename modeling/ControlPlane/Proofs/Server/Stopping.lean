import ControlPlane.Proofs.Server.Phases

/-!
# Interrupting and Stopping

How a server comes to an end. Interrupting refuses requests, stops the queue and
raises the flag; stopping does that too if it was not done before, and then
waits for the threads and lets everything go.

`stop` is the operation that is reached from everywhere, in particular from
inside a start that has failed half-way, where the server is in no phase's shape:
the listeners were handed over, a reactor may be there, and the phase still says
that the server was just set up. `released_of_stop` therefore does not ask for a
coherent server. It asks only that a server past its interrupt refuses requests.

Stopping waits for the workers before it does anything else, and workers wait at
the queue. `joined_of_coherent` says that the queue was stopped by the time they
are waited for.

## Main definitions

* `atJoin`: The server when the workers are waited for.

## Theorems

* `halted_of_halt`: Interrupting refuses requests and stops the queue.
* `stop_frame`: What stopping changes.
* `released_of_stop`: Stopping ends with nothing left.
* `stop_of_coherent`, `interrupt_of_coherent`: Both, for a coherent server.
* `joined_of_coherent`: Nobody waits for workers at a running queue.
-/

namespace ControlPlane

namespace Server

/-- Interrupting a server that holds its queue refuses requests, stops the queue and
    raises the flag. -/
theorem halted_of_halt (s : Server) (hq : s.holdsQueue = true)
    (ht : s.workers.isSome = s.reactor.isSome) : Halted (s.halt).1 := by
  simp only [halt, hq, if_true]
  exact {
    queue := rfl
    running := rfl
    callback := rfl
    closing := rfl
    together := ht }

theorem joinWorkers_frame (s : Server) : (s.joinWorkers).1 = { s with workers := none } := by
  unfold joinWorkers
  rcases hw : s.workers with _ | count
  · simp only []
    rw [← hw]
  · rfl

theorem joinReactor_frame (s : Server) : (s.joinReactor).1 = { s with reactor := none } := by
  unfold joinReactor
  rcases hr : s.reactor with _ | handed
  · simp only []
    rw [← hr]
  · rfl

/-- Giving the queue up changes its contents and the exchanges in it. -/
theorem dropQueue_frame (s : Server) : ∃ items xs, (s.dropQueue).1 = { s with
    service := { s.service with queue := { s.service.queue with items := items }, exchanges := xs }
    holdsQueue := false } := by
  unfold dropQueue
  by_cases hq : s.holdsQueue = true
  · rw [if_pos hq]
    rcases Service.release_frame s.service with ⟨xs, h⟩
    refine ⟨[], xs, ?_⟩
    simp only [h]
  · rw [if_neg hq]
    refine ⟨s.service.queue.items, s.service.exchanges, ?_⟩
    rw [← Bool.eq_false_iff.mpr hq]

/-- The server at the moment when stopping it begins to wait for the workers. -/
def atJoin (s : Server) : Server :=
  if s.phase.isAccepting then (s.halt).1 else s

theorem stop_frame (s : Server) (h : s.phase ≠ .stopped) : ∃ items xs, (s.stop).1 = {
    s.atJoin with
    phase := .stopped
    service := { s.atJoin.service with
      queue := { s.atJoin.service.queue with items := items }, exchanges := xs }
    holdsQueue := false
    listeners := []
    workers := none
    reactor := none } := by
  -- The workers are gone when the queue is dropped.
  rcases dropQueue_frame { s.atJoin with workers := none } with ⟨items, xs, hd⟩
  refine ⟨items, xs, ?_⟩
  unfold stop
  rw [if_neg h]
  unfold atJoin at hd ⊢
  by_cases ha : s.phase.isAccepting = true
  · simp only [if_pos ha] at hd ⊢
    rw [joinReactor_frame, joinWorkers_frame, hd]
  · simp only [if_neg ha] at hd ⊢
    rw [joinReactor_frame, joinWorkers_frame, hd]

/-- Stopping ends with nothing left, in whatever shape the server is. A server past
    its interrupt has to refuse requests already; nothing else is asked of it. -/
theorem released_of_stop (s : Server) (h : s.phase ≠ .stopped)
    (hc : s.phase.isAccepting = false → s.service.callback = .reject) :
    (s.stop).1.phase = .stopped ∧ Released (s.stop).1 := by
  -- Whether it is interrupted only now or was before, it refuses at the join.
  have hreject : s.atJoin.service.callback = .reject := by
    unfold atJoin
    by_cases ha : s.phase.isAccepting = true
    · rw [if_pos ha]
      by_cases hq : s.holdsQueue = true
      · simp only [halt, hq, if_true]
        rfl
      · simp only [halt, hq]
        rfl
    · rw [if_neg ha]
      exact hc (Bool.eq_false_iff.mpr ha)
  rcases stop_frame s h with ⟨items, xs, hs⟩
  rw [hs]
  exact ⟨rfl, {
    queue := rfl
    listeners := rfl
    workers := rfl
    reactor := rfl
    callback := hreject }⟩

/-- A server in an accepting phase holds its queue, so it raises the flag and stops
    the queue when it is stopped. -/
theorem closing_of_stop (s : Server) (ha : s.phase.isAccepting = true) (hq : s.holdsQueue = true) :
    (s.stop).1.service.closing = true ∧ (s.stop).1.service.queue.running = false := by
  have hphase : s.phase ≠ .stopped := by
    intro hc
    rw [hc] at ha
    exact Bool.false_ne_true ha
  rcases stop_frame s hphase with ⟨items, xs, hs⟩
  rw [hs]
  simp only [atJoin, if_pos ha, halt, hq, if_true]
  exact ⟨rfl, rfl⟩

/-- Stopping a coherent server releases everything. -/
theorem stop_of_coherent (s : Server) (h : Coherent s) :
    (s.stop).1.phase = .stopped ∧ Released (s.stop).1 := by
  by_cases hphase : s.phase = .stopped
  · have hs : Released s := fits_of_coherent s _ h hphase
    unfold stop
    rw [if_pos hphase]
    exact ⟨hphase, hs⟩
  · exact released_of_stop s hphase (callback_of_coherent s h)

/-- Interrupting a coherent server in an accepting phase halts it. -/
theorem interrupt_of_coherent (s : Server) (h : Coherent s) (ha : s.phase.isAccepting = true) :
    (s.interrupt).1 = (s.halt).1 ∧ (s.interrupt).2.1 = .ok () ∧ Halted (s.halt).1 := by
  rcases accepting_of_coherent s h ha with ⟨hq, ht⟩
  rcases hphase : s.phase with _ | _ | _ | _ | _
  · rw [hphase] at ha
    exact absurd ha (by decide)
  · simp only [interrupt, hphase]
    exact ⟨trivial, trivial, halted_of_halt s hq ht⟩
  · simp only [interrupt, hphase]
    exact ⟨trivial, trivial, halted_of_halt s hq ht⟩
  · rw [hphase] at ha
    exact absurd ha (by decide)
  · rw [hphase] at ha
    exact absurd ha (by decide)

/-- Interrupting does nothing to a server that is in no accepting phase. -/
theorem interrupt_idle (s : Server) (ha : ¬ s.phase.isAccepting = true) :
    (s.interrupt).1 = s := by
  unfold interrupt
  rcases hphase : s.phase with _ | _ | _ | _ | _
  · rfl
  · rw [hphase] at ha
    exact absurd rfl ha
  · rw [hphase] at ha
    exact absurd rfl ha
  · rfl
  · rfl

/-- The workers of a coherent server are waited for only at a queue that was
    stopped. -/
theorem joined_of_coherent (s : Server) (h : Coherent s) (hw : s.atJoin.workers.isSome = true)
    (hp : s.phase ≠ .stopped) : s.atJoin.service.queue.running = false := by
  by_cases ha : s.phase.isAccepting = true
  · unfold atJoin
    rw [if_pos ha]
    exact (interrupt_of_coherent s h ha).2.2.running
  · unfold atJoin at hw ⊢
    rw [if_neg ha] at hw ⊢
    rcases hphase : s.phase with _ | _ | _ | _ | _
    · have hs : Unprepared s := fits_of_coherent s _ h hphase
      rw [hs.workers] at hw
      exact absurd hw Bool.false_ne_true
    · exact absurd (by rw [hphase]; rfl) ha
    · exact absurd (by rw [hphase]; rfl) ha
    · exact (fits_of_coherent s _ h hphase : Halted s).running
    · exact absurd hphase hp

end Server

end ControlPlane
