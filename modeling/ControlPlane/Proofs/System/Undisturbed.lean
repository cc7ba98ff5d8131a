import ControlPlane.Proofs.System.Onlooker
import ControlPlane.Proofs.Worker.Isolation

/-!
# Onlookers Do Not Disturb

Two histories of a system that differ only in which clients leave, and when, and in whether
and when whole requests and replies are dumped, come to the same. The queue holds the same
jobs, the same handlers are invoked with the same arguments, they read the same and fail in
the same way, the counters and gauges agree, and the process aborts in both or in neither.
A client that leaves in neither gets the same reply.

A history mixes atomic steps with whole operations. So a client may leave between two actions
of a handler, and an interrupt may come in any order.

Both histories are compared with a third one, without any of these events, on a system whose
clients have stayed. What a history comes to is what the third one comes to, seen with the
clients that have left (`seen_of_record`).

## Main definitions

* `System.Event`: What happens to a system.
* `System.Event.isOnlooking`: It concerns onlookers only.
* `System.happen`: What an event does.
* `System.Record`, `System.record`: What a history comes to.
* `System.Seen`: The same record but for the onlookers.
* `System.Undisturbed`: What two histories have in common.

## Theorems

* `attended_of_onlooking`: An event of onlookers cannot be seen.
* `answers_happen`, `deeds_attended`: Every other event comes to the same.
* `seen_of_record`: A history comes to the same without onlookers.
* `undisturbed_of_filter`: Histories that differ in onlookers only come to the same.
* `undisturbed_between_actions`: A client that leaves in the middle of serving.
-/

namespace ControlPlane

open Telemetry (Observation figures counters gauges)

namespace Service

variable (left : List Nat) (s : Service) (number : Nat)

/-- The reply that the client of an exchange gets when it waits for it. -/
def received? (s : Service) (number : Nat) : Option ReplySlot.Waited :=
  (s.exchanges[number]?).map fun x => x.slot.wait

theorem reply?_attended : (s.attended left).reply? number = s.reply? number := by
  unfold reply?
  rw [getElem?_attended, Option.bind_map]
  rfl

/-- The exchange of a client that is not among these is as it is. -/
theorem getElem?_attended_of_not_mem {left : List Nat} {number : Nat} (h : number ∉ left) :
    (s.attended left).exchanges[number]? = s.exchanges[number]? := by
  have hstays : left.contains number = false := by
    rw [← Bool.not_eq_true, List.contains_iff_mem]
    exact h
  rw [getElem?_attended, hstays]
  exact Option.map_id_apply

end Service

namespace System

/-- What happens to a system: an atomic step, or a whole operation at once. -/
inductive Event where
  | step (s : Step)
  /-- A worker takes a job and runs it to the end, if it can. -/
  | turn (worker : Nat)
  | operation (op : Service.Operation)
  /-- Full dumps are switched on or off. -/
  | dumps (on : Bool)

namespace Event

/-- The event concerns onlookers only: a client leaves, or the dumps are switched. -/
def isOnlooking : Event → Bool
  | .step (.leave _) | .operation (.disconnect _) | .dumps _ => true
  | _ => false

/-- The client that leaves. -/
def leaver? : Event → Option Nat
  | .step (.leave number) | .operation (.disconnect number) => some number
  | _ => none

/-- What an event answers. -/
inductive Answer where
  /-- The process has aborted before. -/
  | aborted
  | done
  /-- The step could be taken, or not. -/
  | step (possible : Bool)
  | turn (progress : Worker.Progress)
  | operation (answer : Service.Answer)

end Event

open Event (Answer)

/-- What an event does while the process has not aborted. -/
def occur (y : System) : Event → System × Answer × List Observation
  | .step s =>
    match y.step s with
    | none => (y, .step false, [])
    | some (y, told) => (y, .step true, told)
  | .turn worker =>
    let (service, progress, told) := Worker.turn worker y.service
    ({ y with service := service, aborted := progress.isAborted }, .turn progress, told)
  | .operation op =>
    let (service, answer, told) := y.service.apply op
    ({ y with service := service }, .operation answer, told)
  | .dumps on => ({ y with service := { y.service with dumps := on } }, .done, [])

/-- What an event does. Nothing happens after an abort. -/
def happen (y : System) (e : Event) : System × Answer × List Observation :=
  if y.aborted then (y, .aborted, []) else y.occur e

/-- What a step comes to for handlers. -/
def stepDeeds (y : System) : Step → List Deed
  | .take worker =>
    match y.workers[worker]? with
    | some .waiting => y.service.begins
    | _ => []
  | .act worker =>
    match y.workers[worker]? with
    | some (.serving job (action :: _)) =>
      y.service.readings job [action] ++ Service.failure job (y.service.act job action).2.1
    | _ => []
  | _ => []

/-- What an event comes to for handlers. -/
def deeds (y : System) (e : Event) : List Deed :=
  if y.aborted then []
  else
    match e with
    | .step s => y.stepDeeds s
    | .turn _ | .operation .run => y.service.deeds
    | _ => []

/-- What a history comes to. Of the answers, those to events of onlookers are left out. -/
structure Record where
  system : System
  answers : List Answer
  deeds : List Deed
  told : List Observation

/-- Events one after the other. -/
def record (y : System) : List Event → Record
  | [] => ⟨y, [], [], []⟩
  | e :: rest =>
    let (next, answer, told) := y.happen e
    let others := next.record rest
    { system := others.system
      answers := if e.isOnlooking then others.answers else answer :: others.answers
      deeds := y.deeds e ++ others.deeds
      told := told ++ others.told }

/-- The clients that leave in a history. -/
def leavers (events : List Event) : List Nat :=
  events.filterMap Event.leaver?

section

variable {left : List Nat} {e : Event}

/-! ### Single events -/

/-- An event of onlookers cannot be seen, and it comes to nothing for anybody else. -/
theorem attended_of_onlooking (h : e.isOnlooking = true) (hleft : ∀ number ∈ e.leaver?, number ∈ left)
    (y : System) :
    (y.happen e).1.attended left = y.attended left ∧ (y.happen e).2.2 = [] ∧ y.deeds e = [] := by
  have hleave : ∀ number ∈ left,
      ({ y with service := y.service.disconnect number } : System).attended left =
        y.attended left := fun number hmem =>
    congrArg (fun s => { y with service := s }) (Service.attended_disconnect left y.service hmem)
  by_cases hdone : y.aborted = true
  · simp only [happen, deeds, if_pos hdone]
    exact ⟨trivial, trivial, trivial⟩
  · simp only [happen, deeds, if_neg hdone]
    cases e with
    | step s =>
        cases s with
        | leave number =>
            simp only [occur, step, if_neg hdone]
            exact ⟨hleave number (hleft number rfl), trivial, rfl⟩
        | _ => exact absurd h nofun
    | turn worker => exact absurd h nofun
    | operation op =>
        cases op with
        | disconnect number => exact ⟨hleave number (hleft number rfl), rfl, rfl⟩
        | _ => exact absurd h nofun
    | dumps on => exact ⟨rfl, rfl, rfl⟩

/-- Every other event comes to the same. -/
theorem answers_happen (h : e.isOnlooking = false) (left : List Nat) (y : System) :
    Answers (attended left) ((y.attended left).happen e) (y.happen e) := by
  unfold happen
  rw [aborted_attended]
  by_cases hdone : y.aborted = true
  · rw [if_pos hdone, if_pos hdone]
    exact ⟨rfl, rfl, rfl⟩
  · rw [if_neg hdone, if_neg hdone]
    cases e with
    | step s =>
        have hother : ∀ number, s ≠ .leave number := by
          intro number heq
          rw [heq] at h
          exact absurd h nofun
        have hstep := agrees_step left y s hother
        simp only [occur]
        -- The step can be taken in both systems or in neither.
        generalize (y.attended left).step s = taken', y.step s = taken at hstep ⊢
        cases hstep with
        | none => exact ⟨rfl, rfl, rfl⟩
        | some hsame => exact ⟨hsame.state, rfl, hsame.figures⟩
    | turn worker =>
        have hturn := Service.answers_turn left y.service worker
        simp only [occur, service_attended, hturn.state, hturn.answer]
        exact ⟨rfl, rfl, hturn.figures⟩
    | operation op =>
        have hother : ∀ number, op ≠ .disconnect number := by
          intro number heq
          rw [heq] at h
          exact absurd h nofun
        have happly := Service.answers_apply left y.service op hother
        simp only [occur, service_attended, happly.state, happly.answer]
        exact ⟨rfl, rfl, happly.figures⟩
    | dumps on => exact absurd h nofun

theorem stepDeeds_attended (left : List Nat) (y : System) (s : Step) :
    (y.attended left).stepDeeds s = y.stepDeeds s := by
  cases s with
  | take worker => simp only [stepDeeds, service_attended, workers_attended, Service.begins_attended]
  | act worker =>
      simp only [stepDeeds, service_attended, workers_attended]
      cases y.workers[worker]? with
      | none => rfl
      | some stage =>
          cases stage with
          | waiting => rfl
          | exited => rfl
          | serving job actions =>
              cases actions with
              | nil => rfl
              | cons action rest =>
                  simp only [Service.readings_attended,
                    (Service.answers_act left y.service job action).answer]
  | _ => rfl

/-- Handlers are given the same, read the same and fail in the same way. -/
theorem deeds_attended (left : List Nat) (y : System) (e : Event) :
    (y.attended left).deeds e = y.deeds e := by
  have hwhole : (y.attended left).service.deeds = y.service.deeds :=
    Service.deeds_attended left y.service
  unfold deeds
  rw [aborted_attended, hwhole]
  by_cases hdone : y.aborted = true
  · rw [if_pos hdone, if_pos hdone]
  · rw [if_neg hdone, if_neg hdone]
    cases e with
    | step s => exact stepDeeds_attended left y s
    | turn worker => rfl
    | operation op => cases op <;> rfl
    | dumps on => rfl

/-! ### Histories -/

/-- The same record but for the onlookers. -/
structure Seen (left : List Nat) (r' r : Record) : Prop where
  system : r'.system = r.system.attended left
  answers : r'.answers = r.answers
  deeds : r'.deeds = r.deeds
  figures : figures r'.told = figures r.told

/-- A history comes to the same without onlookers, by induction along its events. -/
theorem seen_of_record (left : List Nat) (events : List Event) :
    ∀ y : System, (∀ number ∈ leavers events, number ∈ left) →
      Seen left ((y.attended left).record (events.filter fun e => !e.isOnlooking))
        (y.record events) := by
  induction events with
  | nil => exact fun y _ => ⟨rfl, rfl, rfl, rfl⟩
  | cons e rest ih =>
      intro y hleft
      have hrest := ih (y.happen e).1 fun number hmem => hleft number (by
        rcases List.mem_filterMap.mp hmem with ⟨later, hlater, hleaver⟩
        exact List.mem_filterMap.mpr ⟨later, List.mem_cons_of_mem e hlater, hleaver⟩)
      cases honlooking : e.isOnlooking with
      | true =>
          -- The event is missing in the other history, where its client has stayed all along.
          have hfirst : ∀ number ∈ e.leaver?, number ∈ left := fun number hleaver =>
            hleft number (List.mem_filterMap.mpr ⟨e, List.mem_cons_self, hleaver⟩)
          rcases attended_of_onlooking honlooking hfirst y with ⟨hsystem, htold, hdeeds⟩
          rw [hsystem] at hrest
          have hfilter : (e :: rest).filter (fun e => !e.isOnlooking) =
              rest.filter fun e => !e.isOnlooking := by
            rw [List.filter_cons_of_neg]
            rw [honlooking]
            exact Bool.false_ne_true
          rw [hfilter]
          refine ⟨hrest.system, ?_, ?_, ?_⟩
          · simp only [record, honlooking, if_true]
            exact hrest.answers
          · simp only [record, hdeeds, List.nil_append]
            exact hrest.deeds
          · simp only [record, htold, List.nil_append]
            exact hrest.figures
      | false =>
          have hfirst := answers_happen honlooking left y
          have hfilter : (e :: rest).filter (fun e => !e.isOnlooking) =
              e :: rest.filter fun e => !e.isOnlooking := by
            rw [List.filter_cons_of_pos]
            rw [honlooking]
            rfl
          rw [hfilter]
          simp only [record, hfirst.state, hfirst.answer, honlooking, Bool.false_eq_true, if_false,
            deeds_attended]
          refine ⟨hrest.system, ?_, ?_, ?_⟩
          · exact congrArg (List.cons (y.happen e).2.1) hrest.answers
          · exact congrArg (List.append (y.deeds e)) hrest.deeds
          · simp only [Telemetry.figures_append, hfirst.figures, hrest.figures]

end

/-- What two histories from the same start have in common if they differ in onlookers only. -/
structure Undisturbed (first second : List Event) (r r' : Record) : Prop where
  /-- The same jobs wait in the queue, and it runs or is stopped in both. -/
  queue : r'.system.service.queue = r.system.service.queue
  /-- The same handlers were invoked in the same order with the same arguments. They have read
      the same, and failed in the same way. -/
  deeds : r'.deeds = r.deeds
  /-- The same counters grew, in the same order. -/
  counters : counters r'.told = counters r.told
  /-- The same gauges were set to the same values, in the same order. -/
  gauges : gauges r'.told = gauges r.told
  /-- The process has aborted in both or in neither. -/
  aborted : r'.system.aborted = r.system.aborted
  /-- Whatever else was done has answered the same. -/
  answers : r'.answers = r.answers
  /-- Reactor, workers and owner stand where they stand in the other. -/
  stages : r'.system.reactor = r.system.reactor ∧ r'.system.workers = r.system.workers ∧
    r'.system.owner = r.system.owner ∧ r'.system.begun = r.system.begun
  /-- Every request was sent the same reply, if any. -/
  sent : ∀ number, r'.system.service.reply? number = r.system.service.reply? number
  /-- A client that leaves in neither finds its exchange the same. -/
  exchange : ∀ number, number ∉ leavers first → number ∉ leavers second →
    r'.system.service.exchanges[number]? = r.system.service.exchanges[number]?
  /-- So it gets the same reply when it waits for it. -/
  received : ∀ number, number ∉ leavers first → number ∉ leavers second →
    r'.system.service.received? number = r.system.service.received? number

/-- Histories that differ only in which clients leave, and when, and in what is dumped, come
    to the same. -/
theorem undisturbed_of_filter (y : System) (first second : List Event)
    (h : first.filter (fun e => !e.isOnlooking) = second.filter fun e => !e.isOnlooking) :
    Undisturbed first second (y.record first) (y.record second) := by
  have hfirst := seen_of_record (leavers first ++ leavers second) first y
    fun _ hmem => List.mem_append_left _ hmem
  have hsecond := seen_of_record (leavers first ++ leavers second) second y
    fun _ hmem => List.mem_append_right _ hmem
  -- Both histories come to what their common part comes to.
  rw [← h] at hsecond
  have hsystem : (y.record second).system.attended (leavers first ++ leavers second) =
      (y.record first).system.attended (leavers first ++ leavers second) :=
    hsecond.system.symm.trans hfirst.system
  have hfigures : figures (y.record second).told = figures (y.record first).told :=
    hsecond.figures.symm.trans hfirst.figures
  simp only [attended, System.mk.injEq] at hsystem
  rcases hsystem with ⟨hservice, hreactor, hworkers, howner, haborted, hbegun⟩
  -- Only the exchanges of clients that leave in one of them may look different.
  have hexchange : ∀ number, number ∉ leavers first → number ∉ leavers second →
      (y.record second).system.service.exchanges[number]? =
        (y.record first).system.service.exchanges[number]? := by
    intro number hnot hnot'
    have hstays : number ∉ leavers first ++ leavers second := by
      rw [List.mem_append, not_or]
      exact ⟨hnot, hnot'⟩
    rw [← Service.getElem?_attended_of_not_mem _ hstays,
      ← Service.getElem?_attended_of_not_mem (y.record first).system.service hstays]
    exact congrArg (fun s => s.exchanges[number]?) hservice
  constructor
  case queue => exact (congrArg Service.queue hservice :)
  case deeds => exact hsecond.deeds.symm.trans hfirst.deeds
  case counters =>
    rw [← Telemetry.counters_figures, hfigures, Telemetry.counters_figures]
  case gauges =>
    rw [← Telemetry.gauges_figures, hfigures, Telemetry.gauges_figures]
  case aborted => exact haborted
  case answers => exact hsecond.answers.symm.trans hfirst.answers
  case stages => exact ⟨hreactor, hworkers, howner, hbegun⟩
  case sent =>
    intro number
    rw [← Service.reply?_attended (leavers first ++ leavers second),
      ← Service.reply?_attended (leavers first ++ leavers second) (y.record first).system.service]
    exact congrArg (fun s => s.reply? number) hservice
  case exchange => exact hexchange
  case received =>
    intro number hnot hnot'
    rw [Service.received?, hexchange number hnot hnot', Service.received?]

/-- A request is served in two actions, and nobody looks on. -/
def unwatched : List Event :=
  [.operation (.request ⟨⟨.v4 Address.loopback4, 4000, 0⟩, .post, "/", []⟩ ByteArray.empty),
    .step (.take 0), .step (.act 0), .step (.act 0), .step (.act 0)]

/-- The same request is dumped, and its client leaves between the two actions. -/
def watched : List Event :=
  [.dumps true,
    .operation (.request ⟨⟨.v4 Address.loopback4, 4000, 0⟩, .post, "/", []⟩ ByteArray.empty),
    .step (.take 0), .step (.act 0), .step (.leave 0), .step (.act 0), .step (.act 0)]

/-- A server whose handlers read the body and reply. -/
def replying : System :=
  ofService (Service.started ⟨[(⟨"/", .leading⟩, [.drain, .reply .ok ByteArray.empty])]⟩ .standard 1
    false) 1

/-- A client that leaves between two actions of its handler, while everything is dumped. -/
theorem undisturbed_between_actions :
    (unwatched.filter (fun e => !e.isOnlooking) = watched.filter fun e => !e.isOnlooking) ∧
      Undisturbed unwatched watched (replying.record unwatched) (replying.record watched) := by
  have hsame : unwatched.filter (fun e => !e.isOnlooking) = watched.filter fun e => !e.isOnlooking :=
    rfl
  exact ⟨hsame, undisturbed_of_filter replying unwatched watched hsame⟩

end System

end ControlPlane
