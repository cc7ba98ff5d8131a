import ControlPlane.Proofs.Connection.Effect
import ControlPlane.Proofs.Telemetry.Standing
import Mathlib.Data.List.Nodup

/-!
# Waiting for the Last Connection

A waiter takes note of the wake-ups, reads the count, and sleeps unless it is zero. Between any
two of these steps connections may begin and end, and a drop is itself three steps: the guard
leaves the count, the count is shown, and the waiters are woken if the drop has left none.

What could go wrong is that the last drop wakes everybody before a waiter sleeps, and nobody comes
by later. It does not, because the note comes before the reading. A sleeper without a newer
wake-up read a count above zero after its note. If the count is zero by now, some drop has brought
it there since, and that drop has not woken anybody yet, or the sleeper would know. So this drop is
still in progress (`Heard`). A connection that begins meanwhile only raises the count.

The gauge is another matter. A drop shows the count that it has left, and with two drops at once
the older count may be shown last. Where connections begin and end one at a time (`Alone`), a drop
in progress is the only one and the count has not moved since (`Current`).

## Main definitions

* `IdleWaiter.seen?`: The wake-ups that a waiter took note of.
* `Heard`: Sleepers have been woken or will be.
* `Alone`: Connections begin and end one at a time.
* `Current`: The gauge shows the count, or the drop that is about to show it is in progress.
* `Tracking`: What holds of a tracker after any run.

## Theorems

* `heard_of_effect`, `heard_run`: Every step keeps the sleepers heard, and every run.
* `drained_run`: A waiter that has drained read a count of zero, and has read nothing since.
* `current_of_effect`, `current_run`: One at a time, the gauge is current.
* `alone_calls`: Calls from beginning to end are one at a time.
* `tracking`: All of it, for every run.
-/

namespace ControlPlane

/-- The number of wake-ups that a waiter took note of, until it starts over. -/
def IdleWaiter.seen? : IdleWaiter → Option Nat
  | .noted seen => some seen
  | .sleeping seen => some seen
  | .starting => none
  | .drained => none

namespace Tracker

open Telemetry (Observation standing)

variable {t t' : Tracker} {s : Step} {told past : List Observation}

/-! ### Sleepers -/

/-- Waiters know of no wake-up that has not been, and a sleeper that knows of all of them has a
    connection left to wait for, or a drop that has left none and is still in progress. -/
structure Heard (t : Tracker) : Prop where
  seen : ∀ w ∈ t.waiters, ∀ seen ∈ w.seen?, seen ≤ t.wakeups
  cause : .sleeping t.wakeups ∈ t.waiters → 0 < t.active ∨ ∃ l ∈ t.leaving, l.remaining = 0

/-- One waiter goes on to a place where it knows of no wake-up too many and does not sleep
    without a cause. -/
theorem heard_set {w : Nat} {place : IdleWaiter} (ht : Heard t)
    (hseen : ∀ seen ∈ place.seen?, seen ≤ t.wakeups)
    (hcause : place = .sleeping t.wakeups → 0 < t.active) :
    Heard { t with waiters := t.waiters.set w place } := by
  constructor
  · intro other hother
    rcases List.mem_or_eq_of_mem_set hother with hbefore | hplace
    · exact ht.seen other hbefore
    · rw [hplace]
      exact hseen
  · intro hsleep
    rcases List.mem_or_eq_of_mem_set hsleep with hbefore | hplace
    · exact ht.cause hbefore
    · exact .inl (hcause hplace.symm)

/-- Every step keeps the sleepers heard. -/
theorem heard_of_effect (h : Effect t s t' told) (ht : Heard t) : Heard t' := by
  cases h with
  | tracked => exact ⟨ht.seen, fun _ => .inl (Nat.succ_pos _)⟩
  | numbered => exact ⟨ht.seen, ht.cause⟩
  | left number held =>
      refine ⟨ht.seen, fun hsleep => ?_⟩
      by_cases hlast : t.active - 1 = 0
      · -- This is the drop that has left none.
        exact .inr ⟨_, List.mem_append_right _ List.mem_cons_self, hlast⟩
      · exact .inl (Nat.pos_of_ne_zero hlast)
  | reported l mem =>
      refine ⟨ht.seen, fun hsleep => ?_⟩
      rcases ht.cause hsleep with hpos | ⟨other, hother, hnone⟩
      · exact .inl hpos
      · refine .inr ⟨_, List.mem_map_of_mem hother, ?_⟩
        by_cases heq : other = l
        · rw [if_pos heq, ← heq]
          exact hnone
        · rw [if_neg heq]
          exact hnone
  | finished l mem shown =>
      by_cases hlast : l.remaining = 0
      · -- The drop wakes them all, so whoever sleeps knows of one wake-up less.
        rw [if_pos hlast]
        refine ⟨fun w hw seen hseen => Nat.le_succ_of_le (ht.seen w hw seen hseen), ?_⟩
        intro hsleep
        have hle : t.wakeups + 1 ≤ t.wakeups := ht.seen _ hsleep _ rfl
        exact absurd hle (Nat.not_succ_le_self _)
      · rw [if_neg hlast]
        refine ⟨ht.seen, fun hsleep => ?_⟩
        rcases ht.cause hsleep with hpos | ⟨other, hother, hnone⟩
        · exact .inl hpos
        · have hne : other ≠ l := by
            intro heq
            rw [heq] at hnone
            exact hlast hnone
          exact .inr ⟨other, (List.mem_erase_of_ne hne).mpr hother, hnone⟩
  | joined =>
      constructor
      · intro w hw
        rcases List.mem_append.mp hw with hbefore | hnew
        · exact ht.seen w hbefore
        · rw [List.mem_singleton.mp hnew]
          exact nofun
      · intro hsleep
        rcases List.mem_append.mp hsleep with hbefore | hnew
        · exact ht.cause hbefore
        · cases List.mem_singleton.mp hnew
  | noted w starts =>
      refine heard_set ht (fun seen hseen => ?_) nofun
      cases hseen
      exact Nat.le_refl _
  | drained w seen reads none => exact heard_set ht nofun nofun
  | slept w seen reads some =>
      refine heard_set ht (fun other hother => ?_) fun _ => Nat.pos_of_ne_zero some
      cases hother
      exact ht.seen _ (List.mem_of_getElem? reads) _ rfl
  | woken w seen sleeps since => exact heard_set ht nofun nofun

/-- The sleepers are heard along every run. -/
theorem heard_run (ht : Heard t) (steps : List Step) : Heard (t.run steps).1 := by
  induction steps using List.reverseRecOn with
  | nil => exact ht
  | append_singleton before s ih =>
      rcases run_concat_cases t before s with ⟨_, hrun⟩ | ⟨next, told, heff, _, hrun⟩
      · rw [hrun]
        exact ih
      · rw [hrun]
        exact heard_of_effect heff ih

/-- Without a connection, and without a drop that is still to wake the waiters, every sleeper
    has been woken and can go on. -/
theorem woken_of_heard {w seen : Nat} (ht : Heard t) (hw : t.waiters[w]? = some (.sleeping seen))
    (hnone : t.active = 0) (hleft : ∀ l ∈ t.leaving, l.remaining ≠ 0) :
    seen < t.wakeups ∧ (t.step (.wake w)).isSome := by
  have hmem := List.mem_of_getElem? hw
  have hle : seen ≤ t.wakeups := ht.seen _ hmem seen rfl
  have hne : t.wakeups ≠ seen := by
    intro heq
    rw [← heq] at hmem
    rcases ht.cause hmem with hpos | ⟨l, hl, hzero⟩
    · omega
    · exact hleft l hl hzero
  refine ⟨by omega, ?_⟩
  simp only [step, hw, if_neg hne, Option.isSome_some]

/-! ### The end of waiting -/

/-- Only the waiter that goes on can have drained by it. -/
theorem drained_set {ws : List IdleWaiter} {w other : Nat} {place old : IdleWaiter}
    (hold : ws[other]? = some old) (hne : old ≠ .drained) :
    (ws[w]? = some .drained → (ws.set other place)[w]? = some .drained) ∧
      ((ws.set other place)[w]? = some .drained →
        ws[w]? = some .drained ∨ other = w ∧ place = .drained) := by
  have hlt := (List.getElem?_eq_some_iff.mp hold).1
  rw [List.getElem?_set]
  by_cases heq : other = w
  · rw [if_pos heq, if_pos hlt, ← heq, hold]
    exact ⟨fun h => absurd (Option.some.inj h) hne, fun h => .inr ⟨rfl, Option.some.inj h⟩⟩
  · rw [if_neg heq]
    exact ⟨id, .inl⟩

/-- A waiter drains by reading a count of zero, and stays drained. -/
theorem drained_of_effect (h : Effect t s t' told) (w : Nat) :
    (t.waiters[w]? = some .drained → t'.waiters[w]? = some .drained) ∧
      (t'.waiters[w]? = some .drained → t.waiters[w]? = some .drained ∨
        s = .read w ∧ t.active = 0 ∧ ∃ seen, t.waiters[w]? = some (.noted seen)) := by
  -- A waiter that goes on elsewhere has not drained by it.
  have hset : ∀ {other old place}, t.waiters[other]? = some old → old ≠ .drained →
      place ≠ .drained → (t.waiters[w]? = some .drained →
        (t.waiters.set other place)[w]? = some .drained) ∧
      ((t.waiters.set other place)[w]? = some .drained → t.waiters[w]? = some .drained ∨
        s = .read w ∧ t.active = 0 ∧ ∃ seen, t.waiters[w]? = some (.noted seen)) := by
    intro other old place hold hne hplace
    refine ⟨(drained_set hold hne).1, fun hw => ?_⟩
    rcases (drained_set hold hne).2 hw with hbefore | ⟨_, heq⟩
    · exact .inl hbefore
    · exact absurd heq hplace
  cases h with
  | joined =>
      constructor
      · intro hw
        rw [List.getElem?_append_left (List.getElem?_eq_some_iff.mp hw).1]
        exact hw
      · intro hw
        rw [List.getElem?_append] at hw
        split at hw
        · exact .inl hw
        · cases List.mem_singleton.mp (List.mem_of_getElem? hw)
  | noted other starts => exact hset starts nofun nofun
  | slept other seen reads some => exact hset reads nofun nofun
  | woken other seen sleeps since => exact hset sleeps nofun nofun
  | drained other seen reads none =>
      refine ⟨(drained_set reads nofun).1, fun hw => ?_⟩
      rcases (drained_set reads nofun).2 hw with hbefore | ⟨heq, _⟩
      · exact .inl hbefore
      · rw [heq] at reads ⊢
        exact .inr ⟨rfl, none, seen, reads⟩
  | _ => exact ⟨id, .inl⟩

/-- The waiter has read a count of zero between the two parts of the run, and goes no further
    after that. -/
structure DrainedAt (t : Tracker) (w : Nat) (before after : List Step) : Prop where
  reads : ∃ seen, (t.run before).1.waiters[w]? = some (.noted seen)
  zero : (t.run before).1.active = 0
  last : ∀ mid, mid <+: after →
    (t.run (before ++ .read w :: mid)).1.waiters[w]? = some .drained

/-- A waiter that has drained read a count of zero, and has read nothing since. -/
theorem drained_run {w : Nat} (ht : t.waiters[w]? ≠ some .drained) (steps : List Step)
    (hw : (t.run steps).1.waiters[w]? = some .drained) :
    ∃ before after, steps = before ++ .read w :: after ∧ DrainedAt t w before after := by
  induction steps using List.reverseRecOn with
  | nil => exact absurd hw ht
  | append_singleton earlier s ih =>
      -- Drained before the last step, the waiter stays so in it.
      have hkeep : (t.run earlier).1.waiters[w]? = some .drained →
          ∃ before after, earlier ++ [s] = before ++ .read w :: after ∧
            DrainedAt t w before after := by
        intro hbefore
        rcases ih hbefore with ⟨before, after, hsteps, hread⟩
        refine ⟨before, after ++ [s], by rw [hsteps, List.append_assoc]; rfl, hread.reads,
          hread.zero, fun mid hmid => ?_⟩
        rcases List.prefix_concat_iff.mp hmid with heq | hprefix
        · rw [heq, ← List.cons_append, ← List.append_assoc, ← hsteps]
          exact hw
        · exact hread.last mid hprefix
      rcases run_concat_cases t earlier s with ⟨_, hrun⟩ | ⟨next, told, heff, _, hrun⟩
      · rw [hrun] at hw
        exact hkeep hw
      · have hnext : next.waiters[w]? = some .drained := by
          rw [hrun] at hw
          exact hw
        rcases (drained_of_effect heff w).2 hnext with hbefore | ⟨hs, hzero, hreads⟩
        · exact hkeep hbefore
        · refine ⟨earlier, [], by rw [hs], hreads, hzero, fun mid hmid => ?_⟩
          rw [List.prefix_nil.mp hmid, ← hs]
          exact hw

/-! ### The gauge -/

/-- The step begins a connection or takes a guard out of the count. -/
def Step.counts : Step → Bool
  | .track => true
  | .leave _ => true
  | _ => false

/-- Connections begin and end one at a time: whenever one does, no drop is in progress. -/
def Alone (t : Tracker) : List Step → Prop
  | [] => True
  | s :: rest =>
    (s.counts = true → (t.step s).isSome → t.leaving = []) ∧ Alone (t.run [s]).1 rest

theorem alone_append (first others : List Step) :
    ∀ t : Tracker, Alone t (first ++ others) ↔ Alone t first ∧ Alone (t.run first).1 others := by
  induction first with
  | nil =>
      intro t
      simp only [List.nil_append, Alone, run, true_and]
  | cons s rest ih =>
      intro t
      have hrun : (t.run (s :: rest)).1 = ((t.run [s]).1.run rest).1 := by
        rw [← List.singleton_append, run_append]
      rw [List.cons_append, Alone, Alone, ih, hrun, and_assoc]

/-- The gauge shows the count. With a drop in progress that has not shown it yet, the count is
    what the drop has left. -/
def Current (t : Tracker) (told : List Observation) : Prop :=
  (t.leaving = [] ∧ standing .activeConnections told = t.active) ∨
    ∃ l, t.leaving = [l] ∧ l.remaining = t.active ∧
      (l.shown = true → standing .activeConnections told = t.active)

/-- A step that tells nothing about connections, and leaves the count and the drops alone. -/
theorem current_of_silent (hactive : t'.active = t.active) (hleaving : t'.leaving = t.leaving)
    (htold : Telemetry.settings .activeConnections told = []) (ht : Current t past) :
    Current t' (past ++ told) := by
  unfold Current at *
  rw [hactive, hleaving, Telemetry.standing_append_of_nil htold]
  exact ht

/-- One at a time, every step keeps the gauge current. -/
theorem current_of_effect (h : Effect t s t' told) (halone : s.counts = true → t.leaving = [])
    (ht : Current t past) : Current t' (past ++ told) := by
  cases h with
  | tracked => exact .inl ⟨halone rfl, Telemetry.standing_append_of_last rfl⟩
  | left number held =>
      -- The drop begins alone, with the count that it leaves.
      refine .inr ⟨⟨number, t.active - 1, false⟩, ?_, rfl, nofun⟩
      rw [halone rfl, List.nil_append]
  | reported l mem =>
      rcases ht with ⟨hnone, _⟩ | ⟨only, honly, hremaining, _⟩
      · rw [hnone] at mem
        cases mem
      · rw [honly] at mem
        have hl := List.mem_singleton.mp mem
        refine .inr ⟨{ l with shown := true }, ?_, by rw [hl, hremaining], fun _ => ?_⟩
        · simp only [honly, List.map_singleton, hl, if_true]
        · rw [hl]
          exact (Telemetry.standing_append_of_last rfl).trans hremaining
  | finished l mem shown =>
      rcases ht with ⟨hnone, _⟩ | ⟨only, honly, _, hshown⟩
      · rw [hnone] at mem
        cases mem
      · rw [honly] at mem
        have hl := List.mem_singleton.mp mem
        rw [hl] at shown
        refine .inl ⟨?_, ?_⟩
        · rw [honly, hl, List.erase_cons_head]
        · rw [Telemetry.standing_append_of_nil rfl]
          exact hshown shown
  | numbered => exact current_of_silent rfl rfl rfl ht
  | joined => exact current_of_silent rfl rfl rfl ht
  | noted w starts => exact current_of_silent rfl rfl rfl ht
  | drained w seen reads none => exact current_of_silent rfl rfl rfl ht
  | slept w seen reads some => exact current_of_silent rfl rfl rfl ht
  | woken w seen sleeps since => exact current_of_silent rfl rfl rfl ht

/-- One at a time, the gauge is current along every run. -/
theorem current_run (ht : Current t []) (steps : List Step) (halone : Alone t steps) :
    Current (t.run steps).1 (t.run steps).2 := by
  induction steps using List.reverseRecOn with
  | nil => exact ht
  | append_singleton before s ih =>
      rcases (alone_append before [s] t).mp halone with ⟨hbefore, hlast⟩
      have hcurrent := ih hbefore
      rcases run_concat_cases t before s with ⟨_, hrun⟩ | ⟨next, told, heff, hstep, hrun⟩
      · rw [hrun]
        exact hcurrent
      · rw [hrun]
        refine current_of_effect heff (fun hcounts => ?_) hcurrent
        exact hlast.1 hcounts (by rw [hstep, Option.isSome_some])

theorem standing_of_current {told : List Observation} (h : Current t told)
    (hshown : ∀ l ∈ t.leaving, l.shown = true) : standing .activeConnections told = t.active := by
  rcases h with ⟨_, hstanding⟩ | ⟨l, hl, _, hstanding⟩
  · exact hstanding
  · exact hstanding (hshown l (by rw [hl]; exact List.mem_singleton_self l))

/-- A connection that begins, or one that ends. -/
inductive Call where
  | track
  | drop (number : Nat)

/-- All the steps of the call. -/
def Call.steps : Call → List Step
  | .track => [.track]
  | .drop number => dropSteps number

/-- A call from beginning to end is alone, and leaves no drop in progress. -/
theorem alone_call (c : Call) (ht : t.leaving = []) :
    Alone t c.steps ∧ (t.run c.steps).1.leaving = [] := by
  cases c with
  | track => exact ⟨⟨fun _ _ => ht, trivial⟩, ht⟩
  | drop number =>
      refine ⟨⟨fun _ _ => ht, nofun, nofun, trivial⟩, ?_⟩
      by_cases hheld : number ∈ t.guards
      · simp only [Call.steps, dropSteps, run, step, if_pos hheld, ht, List.nil_append,
          List.find?_cons, decide_true, and_self, List.map_cons, List.map_nil, if_true,
          List.erase_cons_head]
      · -- Without the guard, nothing is dropped.
        simp only [Call.steps, dropSteps, run, step, if_neg hheld, ht, List.find?_nil]

/-- Calls one after the other are alone. -/
theorem alone_calls (calls : List Call) :
    ∀ t : Tracker, t.leaving = [] →
      Alone t (calls.flatMap Call.steps) ∧ (t.run (calls.flatMap Call.steps)).1.leaving = [] := by
  induction calls with
  | nil =>
      intro t ht
      exact ⟨trivial, ht⟩
  | cons c rest ih =>
      intro t ht
      rcases alone_call c ht with ⟨hcall, hleft⟩
      rcases ih _ hleft with ⟨hrest, hlast⟩
      rw [List.flatMap_cons, alone_append, run_append]
      exact ⟨⟨hcall, hrest⟩, hlast⟩

/-! ### All runs -/

/-- Numbers that span no more than the numbers of sixty-four bits differ there too. -/
theorem nodup_sixtyFour {ks : List Nat} {low high : Nat} (hks : ks.Pairwise (· < ·))
    (hbounds : ∀ k ∈ ks, low ≤ k ∧ k < high) (hspan : high - low ≤ UInt64.size) :
    (ks.map UInt64.ofNat).Nodup := by
  refine List.Nodup.map_on (fun k hk other hother heq => ?_) (hks.imp Nat.ne_of_lt)
  have hmod := congrArg UInt64.toNat heq
  rw [UInt64.toNat_ofNat', UInt64.toNat_ofNat'] at hmod
  have hk := hbounds k hk
  have hother := hbounds other hother
  simp only [UInt64.size] at hspan
  omega

/-- What holds of a tracker after any run, when the numbers begin with `first`. -/
structure Tracking (first : Nat) (steps : List Step) : Prop where
  /-- The count is the number of guards held. -/
  count : (run { next := first } steps).1.active = (run { next := first } steps).1.guards.length
  /-- It is above zero whenever a guard can be dropped. -/
  positive : ∀ number, ((run { next := first } steps).1.step (.leave number)).isSome →
    0 < (run { next := first } steps).1.active
  /-- The guards held belong to connections of the run. -/
  held : (run { next := first } steps).1.guards.Sublist (numbers { next := first } steps)
  /-- No two connections of the run have the same number, whether they have ended or not. -/
  distinct : (numbers { next := first } steps).Nodup
  /-- In sixty-four bits this is so until all the numbers have been given out. -/
  wide : (run { next := first } steps).1.next - first ≤ UInt64.size →
    ((numbers { next := first } steps).map UInt64.ofNat).Nodup
  /-- A waiter that has drained found a count of zero when it last read. -/
  drained : ∀ w : Nat, (run { next := first } steps).1.waiters[w]? = some .drained →
    ∃ before after, steps = before ++ .read w :: after ∧ DrainedAt { next := first } w before after
  /-- Without connections, and without a drop that has left none and has not woken the waiters
      yet, every sleeper was woken after its note and can go on. -/
  awake : ∀ w seen : Nat, (run { next := first } steps).1.waiters[w]? = some (.sleeping seen) →
    (run { next := first } steps).1.active = 0 →
    (∀ l ∈ (run { next := first } steps).1.leaving, l.remaining ≠ 0) →
    seen < (run { next := first } steps).1.wakeups ∧
      ((run { next := first } steps).1.step (.wake w)).isSome
  /-- Where connections begin and end one at a time, the gauge shows the count, as soon as the
      drop in progress has shown what it left. -/
  gauge : Alone { next := first } steps →
    (∀ l ∈ (run { next := first } steps).1.leaving, l.shown = true) →
    standing .activeConnections (run { next := first } steps).2 =
      (run { next := first } steps).1.active
  /-- It does so after calls from beginning to end, one after the other. -/
  calls : ∀ calls : List Call, steps = calls.flatMap Call.steps →
    standing .activeConnections (run { next := first } steps).2 =
      (run { next := first } steps).1.active

/-- Connections are counted, and nobody waits in vain for the last of them to end. -/
theorem tracking (first : Nat) (steps : List Step) : Tracking first steps := by
  have hcurrent : Current { next := first } [] := .inl ⟨rfl, rfl⟩
  have hcount : ({ next := first } : Tracker).active =
      ({ next := first } : Tracker).guards.length := rfl
  have hpairwise := numbers_pairwise_run { next := first } steps
  constructor
  case count => exact active_eq_length_run hcount steps
  case positive => exact fun number h => active_pos_of_leave (active_eq_length_run hcount steps) h
  case held => exact guards_sublist_run { next := first } steps
  case distinct => exact hpairwise.imp Nat.ne_of_lt
  case wide =>
      exact nodup_sixtyFour hpairwise (numbers_bounds_run { next := first } steps).2
  case drained =>
      intro w hw
      have hstart : ({ next := first } : Tracker).waiters[w]? ≠ some .drained := by
        intro h
        cases h
      exact drained_run hstart steps hw
  case awake =>
      intro w seen hw hnone hleft
      have hheard : Heard { next := first } := ⟨nofun, nofun⟩
      exact woken_of_heard (heard_run hheard steps) hw hnone hleft
  case gauge =>
      intro halone hshown
      exact standing_of_current (current_run hcurrent steps halone) hshown
  case calls =>
      intro calls hsteps
      rcases alone_calls calls { next := first } rfl with ⟨halone, hleft⟩
      rw [← hsteps] at halone hleft
      refine standing_of_current (current_run hcurrent steps halone) fun l hl => ?_
      rw [hleft] at hl
      cases hl

-- Two drops at once may show their counts in the wrong order.
example :
    let steps := [.track, .track, .leave 1, .leave 2, .report 2, .report 1, .finish 1, .finish 2]
    (run {} steps).1.active = 0 ∧ standing .activeConnections (run {} steps).2 = 1 := by
  decide +kernel

end Tracker

end ControlPlane
