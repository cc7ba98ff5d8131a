import ControlPlane.Proofs.Service.Frame
import ControlPlane.Server

/-!
# Phases of a Server

What a server holds in each phase of its life: one predicate for each of the five
phases, and `Coherent`, which picks the one that belongs to the phase that a
server is in. The invariant of a whole life is then one statement, and each
operation has to be looked at only in the phases in which it does something.

That a callback admits requests is said by what becomes of a request
(`Admits`): one that passes the gates is routed by the server's own table and
joins the server's own queue. Changing the table therefore changes what a
server promises, and `coherent_of_routes` says that the promise is kept with
the new table.

## Main definitions

* `Admits`: Requests are routed by the service's own table to its own queue.
* `Unprepared`, `Prepared`, `Started`, `Halted`, `Released`: What a server holds
  in each phase.
* `Fits`, `Coherent`: What a server holds agrees with its phase.

## Theorems

* `coherent_of_fits`, `fits_of_coherent`: Coherence in a given phase.
* `coherent_of_routes`: Changing the routes keeps a server coherent.
* `callback_of_coherent`: Outside the accepting phases requests are refused.
* `accepting_of_coherent`: Inside them the queue is there.
-/

namespace ControlPlane

namespace Server

/-- Requests that pass the gates of this list are routed by the service's own table
    and join the service's own queue, while it has room. -/
def Admits (s : Service) (allow : AllowList) : Prop :=
  s.callback = .dispatch allow ∧
    ∀ (head : RequestHead) (body : ByteArray) (handler : Handler) (subpath : String),
      Verdict.ofHead allow s.routes head = .admitted handler subpath →
      s.queue.size < s.queue.depth →
      ((s.openExchange head body).1.handle (s.openExchange head body).2).1.queue.items =
        s.queue.items ++ [⟨(s.openExchange head body).2, handler, subpath⟩]

/-- What a server holds before its setup. -/
structure Unprepared (s : Server) : Prop where
  queue : s.holdsQueue = false
  listeners : s.listeners = []
  workers : s.workers = none
  reactor : s.reactor = none
  callback : s.service.callback = .reject
  closing : s.service.closing = false

/-- What a server holds after its setup. -/
structure Prepared (s : Server) : Prop where
  queue : s.holdsQueue = true
  running : s.service.queue.running = true
  depth : 1 ≤ s.service.queue.depth
  listeners : s.listeners ≠ []
  workers : s.workers = none
  reactor : s.reactor = none
  callback : ∃ allow, AllowList.ofEntries s.config.serving.allow = .ok allow ∧
    Admits s.service allow
  closing : s.service.closing = false

/-- What a server holds while it runs. -/
structure Started (s : Server) : Prop where
  queue : s.holdsQueue = true
  running : s.service.queue.running = true
  depth : 1 ≤ s.service.queue.depth
  listeners : s.listeners = []
  workers : s.workers = some (max s.config.serving.threads.toNat 1)
  reactor : ∃ handed, handed ≠ [] ∧ s.reactor = some handed
  callback : ∃ allow, AllowList.ofEntries s.config.serving.allow = .ok allow ∧
    Admits s.service allow
  closing : s.service.closing = false

/-- What a server holds once it was interrupted. -/
structure Halted (s : Server) : Prop where
  queue : s.holdsQueue = true
  running : s.service.queue.running = false
  callback : s.service.callback = .reject
  closing : s.service.closing = true
  together : s.workers.isSome = s.reactor.isSome

/-- What a server holds in the end. -/
structure Released (s : Server) : Prop where
  queue : s.holdsQueue = false
  listeners : s.listeners = []
  workers : s.workers = none
  reactor : s.reactor = none
  callback : s.service.callback = .reject

/-- What a server has to hold in a phase. -/
def Fits (s : Server) : Phase → Prop
  | .uninitialized => Unprepared s
  | .initialized => Prepared s
  | .running => Started s
  | .interrupted => Halted s
  | .stopped => Released s

/-- What a server holds agrees with its phase. -/
def Coherent (s : Server) : Prop :=
  Fits s s.phase

theorem admits_of_callback (s : Service) (allow : AllowList) (h : s.callback = .dispatch allow) :
    Admits s allow :=
  ⟨h, fun head body handler subpath hv hroom =>
    Service.handle_admitted s allow head body handler subpath h hv hroom⟩

theorem coherent_of_fits (s : Server) (phase : Phase) (h : Fits s phase) (hp : s.phase = phase) :
    Coherent s := by
  unfold Coherent
  rw [hp]
  exact h

theorem fits_of_coherent (s : Server) (phase : Phase) (h : Coherent s) (hp : s.phase = phase) :
    Fits s phase := by
  rw [← hp]
  exact h

/-- Changing the routes keeps a server coherent. A callback that admits goes by the
    new table from then on. -/
theorem coherent_of_routes (s : Server) (routes : RouteTable Handler) (h : Coherent s) :
    Coherent { s with service := { s.service with routes := routes } } := by
  have hadmits : ∀ allow, Admits s.service allow →
      Admits { s.service with routes := routes } allow := by
    intro allow hallow
    exact admits_of_callback _ allow hallow.1
  -- Only the two accepting phases say anything about routes.
  have hfits : ∀ phase, Fits s phase →
      Fits { s with service := { s.service with routes := routes } } phase := by
    intro phase hs
    cases phase with
    | uninitialized =>
        exact ⟨hs.queue, hs.listeners, hs.workers, hs.reactor, hs.callback, hs.closing⟩
    | initialized =>
        rcases hs.callback with ⟨allow, hallow, hcall⟩
        exact ⟨hs.queue, hs.running, hs.depth, hs.listeners, hs.workers, hs.reactor,
          ⟨allow, hallow, hadmits allow hcall⟩, hs.closing⟩
    | running =>
        rcases hs.callback with ⟨allow, hallow, hcall⟩
        exact ⟨hs.queue, hs.running, hs.depth, hs.listeners, hs.workers, hs.reactor,
          ⟨allow, hallow, hadmits allow hcall⟩, hs.closing⟩
    | interrupted => exact ⟨hs.queue, hs.running, hs.callback, hs.closing, hs.together⟩
    | stopped => exact ⟨hs.queue, hs.listeners, hs.workers, hs.reactor, hs.callback⟩
  exact hfits s.phase h

/-- A coherent server refuses requests once it has left the accepting phases, and
    before it enters them. -/
theorem callback_of_coherent (s : Server) (h : Coherent s) (ha : s.phase.isAccepting = false) :
    s.service.callback = .reject := by
  unfold Coherent at h
  rcases hphase : s.phase with _ | _ | _ | _ | _
  · rw [hphase] at h
    exact h.callback
  · rw [hphase] at ha
    exact absurd ha (by decide)
  · rw [hphase] at ha
    exact absurd ha (by decide)
  · rw [hphase] at h
    exact h.callback
  · rw [hphase] at h
    exact h.callback

/-- A coherent server in an accepting phase holds its queue, and its workers came
    with its reactor. -/
theorem accepting_of_coherent (s : Server) (h : Coherent s) (ha : s.phase.isAccepting = true) :
    s.holdsQueue = true ∧ s.workers.isSome = s.reactor.isSome := by
  unfold Coherent at h
  rcases hphase : s.phase with _ | _ | _ | _ | _
  · rw [hphase] at ha
    exact absurd ha (by decide)
  · rw [hphase] at h
    refine ⟨h.queue, ?_⟩
    rw [h.workers, h.reactor]
    rfl
  · rw [hphase] at h
    rcases h.reactor with ⟨handed, _, hreactor⟩
    refine ⟨h.queue, ?_⟩
    rw [h.workers, hreactor]
    rfl
  · rw [hphase] at ha
    exact absurd ha (by decide)
  · rw [hphase] at ha
    exact absurd ha (by decide)

end Server

end ControlPlane
