import ControlPlane.Reply

/-!
# Waiting for a Reply

The waiting end of a slot may look for the reply as often as it likes before it waits. What
the wait comes to is decided by two things only: what the trigger end did first, and whether
a look came after that. Everything else that either end does makes no difference, and neither
do looks that came before.

A look can be too late in two ways. If the reply was sent, the look has taken it, and the wait
gives the bare reply instead. If the trigger end was given up, the look has learned that no
reply will come, and learning this uses up the waiting end although nothing was taken. The
wait is then a misuse and yields no reply at all. Without that look it would have given the
bare reply.

From the moment the trigger end is used, looking once or many times is the same (`look_look`),
so an induction along the operations has to tell only whether there was a look (`run_used`).

## Main definitions

* `ReplySlot.run`: Several operations one after the other.
* `ReplySlot.Polls`: Operations after which the waiting end is still there.
* `ReplySlot.Undecided`: Operations that leave the trigger end unused.
* `ReplySlot.Awaited`: What a wait after some operations comes to.

## Theorems

* `there_of_run`: A waiting end that only looks stays there.
* `run_undecided`: Looks before the reply change nothing.
* `run_used`: What looks come to once the trigger end was used.
* `run_decided`: The slot after the trigger end was used.
* `undecided_or_split`: The first use of the trigger end.
* `awaited_of_polls`: What a wait comes to after any operations.
-/

namespace ControlPlane

namespace ReplySlot

/-- The trigger end is used, with a reply or without one. -/
def Operation.decides : Operation → Bool
  | .fire _ | .giveUp => true
  | _ => false

/-- The waiting end is used up. -/
def Operation.departs : Operation → Bool
  | .wait | .leave => true
  | _ => false

/-- The reply that a look has found. -/
def Answer.reply? : Answer → Option Reply
  | .looked reply => reply
  | _ => none

/-- Several operations one after the other, with their answers in order. -/
def run (s : ReplySlot) : List Operation → ReplySlot × List Answer
  | [] => (s, [])
  | op :: rest =>
    let (s, answer) := s.apply op
    let (s, answers) := s.run rest
    (s, answer :: answers)

/-- A new slot after some operations. -/
def after (ops : List Operation) : ReplySlot :=
  (({} : ReplySlot).run ops).1

/-- The replies that looks have found among them. -/
def found (s : ReplySlot) (ops : List Operation) : List Reply :=
  (s.run ops).2.filterMap Answer.reply?

/-- The waiting end does nothing but look. -/
def Polls (ops : List Operation) : Prop :=
  ∀ op ∈ ops, op.departs = false

/-- The trigger end is not used. -/
def Undecided (ops : List Operation) : Prop :=
  ∀ op ∈ ops, op.decides = false

variable {s : ReplySlot} {ops before rest : List Operation} {reply : Reply}

/-! ### Operations one after the other -/

theorem polls_cons {op : Operation} : Polls (op :: rest) ↔ op.departs = false ∧ Polls rest :=
  List.forall_mem_cons

theorem polls_append : Polls (before ++ rest) ↔ Polls before ∧ Polls rest :=
  List.forall_mem_append

theorem run_append (before rest : List Operation) :
    ∀ s : ReplySlot, s.run (before ++ rest) =
      (((s.run before).1.run rest).1, (s.run before).2 ++ ((s.run before).1.run rest).2) := by
  induction before with
  | nil => exact fun s => rfl
  | cons op before ih =>
      intro s
      simp only [List.cons_append, run, ih]

theorem run_cons (s : ReplySlot) (op : Operation) (rest : List Operation) :
    (s.run (op :: rest)).1 = ((s.apply op).1.run rest).1 := rfl

theorem found_append (s : ReplySlot) (before rest : List Operation) :
    s.found (before ++ rest) = s.found before ++ (s.run before).1.found rest := by
  unfold found
  rw [run_append, List.filterMap_append]

theorem found_cons (s : ReplySlot) (op : Operation) (rest : List Operation) :
    s.found (op :: rest) = (s.apply op).2.reply?.toList ++ (s.apply op).1.found rest := by
  simp only [found, run]
  cases h : (s.apply op).2.reply? with
  | none => rw [List.filterMap_cons_none h, Option.toList_none, List.nil_append]
  | some reply => rw [List.filterMap_cons_some h, Option.toList_some, List.singleton_append]

/-! ### Looking -/

theorem trigger_look (s : ReplySlot) : s.look.1.trigger = s.trigger := by
  unfold look
  split <;> rfl

/-- A look finds the reply that was sent, if nothing was learned before. -/
theorem found_of_look (h : s.look.2 = some reply) :
    s.waiter = .listening ∧ s.trigger = .fired reply := by
  unfold look at h
  split at h
  case h_1 other waiter trigger =>
    rw [Option.some.injEq] at h
    rw [← h]
    exact ⟨waiter, trigger⟩
  case h_2 => exact absurd h nofun
  case h_3 => exact absurd h nofun

/-- The reply counts as collected once a look has found it. Without one to come the
    waiting side would be disappointed instead. -/
theorem waiter_look (alive : s.trigger ≠ .dropped) :
    s.look.1.waiter = if s.look.2.isSome then .collected else s.waiter := by
  unfold look
  split
  case h_1 => rfl
  case h_2 waiter trigger => exact absurd trigger alive
  case h_3 => rfl

/-- While the waiting side has not learned anything, a look shows what was sent. -/
theorem look_listening (listening : s.waiter = .listening) : s.look.2 = s.sent? := by
  unfold look sent?
  rw [listening]
  cases s.trigger <;> rfl

theorem look_collected (collected : s.waiter = .collected) : s.look.2 = none := by
  unfold look
  rw [collected]

theorem apply_look (s : ReplySlot) :
    (s.apply .look).1 = s.look.1 ∧ (s.apply .look).2.reply? = s.look.2 := by
  unfold apply
  by_cases h : s.waiter = .gone
  · -- A waiting end that is gone finds nothing.
    have hnothing : s.look = (s, none) := by simp only [look, h]
    rw [hnothing]
    simp only [if_pos h, Answer.reply?, and_self]
  · simp only [if_neg h, Answer.reply?, and_self]

/-- Once the trigger end was used, a second look finds and changes nothing. -/
theorem look_look (used : s.trigger ≠ .ready) : s.look.1.look = (s.look.1, none) := by
  rcases s with ⟨trigger, waiter⟩
  cases trigger with
  | ready => exact absurd rfl used
  | fired reply => cases waiter <;> rfl
  | dropped => cases waiter <;> rfl

/-- A trigger end that was used cannot be used again. -/
theorem apply_decides (used : s.trigger ≠ .ready) {op : Operation} (h : op.decides = true) :
    (s.apply op).1 = s ∧ (s.apply op).2.reply? = none := by
  have hready : ¬ s.isReady = true := by
    rw [isReady, decide_eq_true_eq]
    exact used
  cases op with
  | fire reply => simp only [apply, if_neg hready, Answer.reply?, and_self]
  | giveUp => simp only [apply, if_neg hready, Answer.reply?, and_self]
  | _ => exact absurd h nofun

/-- The trigger end does not touch the waiting end. -/
theorem waiter_decides (s : ReplySlot) {op : Operation} (h : op.decides = true) :
    (s.apply op).1.waiter = s.waiter := by
  cases op with
  | fire reply =>
      simp only [apply]
      split <;> rfl
  | giveUp =>
      simp only [apply]
      split <;> rfl
  | _ => exact absurd h nofun

theorem there_of_apply {op : Operation} (stays : op.departs = false) (there : s.waiter ≠ .gone) :
    (s.apply op).1.waiter ≠ .gone := by
  cases op with
  | fire reply =>
      rw [waiter_decides s rfl]
      exact there
  | giveUp =>
      rw [waiter_decides s rfl]
      exact there
  | look =>
      rw [(apply_look s).1]
      unfold look
      split
      · exact nofun
      · exact nofun
      · exact there
  | wait => exact absurd stays nofun
  | leave => exact absurd stays nofun

/-- A waiting end that only looks stays there. -/
theorem there_of_run (ops : List Operation) :
    ∀ s : ReplySlot, Polls ops → s.waiter ≠ .gone → (s.run ops).1.waiter ≠ .gone := by
  induction ops with
  | nil => exact fun s _ there => there
  | cons op rest ih =>
      intro s polls there
      rcases polls_cons.mp polls with ⟨hstay, hrest⟩
      exact ih (s.apply op).1 hrest (there_of_apply hstay there)

/-! ### Two phases -/

/-- Before the trigger end is used, looks find and change nothing. -/
theorem run_undecided (polls : Polls ops) (h : Undecided ops) :
    after ops = {} ∧ ({} : ReplySlot).found ops = [] := by
  unfold after
  induction ops with
  | nil => exact ⟨rfl, rfl⟩
  | cons op rest ih =>
      rcases polls_cons.mp polls with ⟨hstay, hrest⟩
      rcases List.forall_mem_cons.mp h with ⟨hop, hothers⟩
      cases op with
      | look => exact ih hrest hothers
      | fire reply => exact absurd hop nofun
      | giveUp => exact absurd hop nofun
      | wait => exact absurd hstay nofun
      | leave => exact absurd hstay nofun

/-- Afterwards the first look does all that there is to do. -/
theorem run_used (ops : List Operation) :
    ∀ s : ReplySlot, s.trigger ≠ .ready → Polls ops →
      (.look ∉ ops → (s.run ops).1 = s ∧ s.found ops = []) ∧
        (.look ∈ ops → (s.run ops).1 = s.look.1 ∧ s.found ops = s.look.2.toList) := by
  induction ops with
  | nil => exact fun s _ _ => ⟨fun _ => ⟨rfl, rfl⟩, nofun⟩
  | cons op rest ih =>
      intro s used polls
      rcases polls_cons.mp polls with ⟨hstay, hrest⟩
      rw [found_cons, run_cons]
      by_cases hdecides : op.decides = true
      · -- The trigger end tries again, in vain.
        have hop : Operation.look ≠ op := by
          rintro rfl
          exact absurd hdecides nofun
        rcases apply_decides used hdecides with ⟨hsame, hnone⟩
        rw [List.mem_cons, or_iff_right hop, hsame, hnone, Option.toList_none, List.nil_append]
        exact ih s used hrest
      · cases op with
        | look =>
            refine ⟨fun h => absurd List.mem_cons_self h, fun _ => ?_⟩
            rw [(apply_look s).1, (apply_look s).2]
            have hused : s.look.1.trigger ≠ .ready := by
              rw [trigger_look]
              exact used
            have hlater := ih s.look.1 hused hrest
            -- What is looked at later has been looked at already, so nothing is left to find.
            rw [look_look used, Option.toList_none] at hlater
            by_cases hmore : Operation.look ∈ rest
            · rw [(hlater.2 hmore).1, (hlater.2 hmore).2, List.append_nil]
              exact ⟨rfl, rfl⟩
            · rw [(hlater.1 hmore).1, (hlater.1 hmore).2, List.append_nil]
              exact ⟨rfl, rfl⟩
        | fire reply => exact absurd rfl hdecides
        | giveUp => exact absurd rfl hdecides
        | wait => exact absurd hstay nofun
        | leave => exact absurd hstay nofun

/-- The first use of the trigger end. -/
theorem undecided_or_split (ops : List Operation) :
    Undecided ops ∨ (∃ before reply rest, ops = before ++ .fire reply :: rest ∧ Undecided before) ∨
      ∃ before rest, ops = before ++ .giveUp :: rest ∧ Undecided before := by
  rcases hfirst : ops.find? (·.decides) with _ | op
  · left
    intro op hmem
    rw [← Bool.not_eq_true]
    exact List.find?_eq_none.mp hfirst op hmem
  · right
    rcases List.find?_eq_some_iff_append.mp hfirst with ⟨hdecides, before, rest, heq, hnone⟩
    have hbefore : Undecided before := fun earlier hmem => by
      rw [← Bool.not_eq_true']
      exact hnone earlier hmem
    cases op with
    | fire reply => exact Or.inl ⟨before, reply, rest, heq, hbefore⟩
    | giveUp => exact Or.inr ⟨before, rest, heq, hbefore⟩
    | look => exact absurd hdecides nofun
    | wait => exact absurd hdecides nofun
    | leave => exact absurd hdecides nofun

/-- The slot after the trigger end was used, by whether a look came after that. -/
theorem run_decided {op : Operation} (polls : Polls (before ++ op :: rest))
    (h : Undecided before) (decides : op.decides = true) :
    (.look ∉ rest → after (before ++ op :: rest) = (({} : ReplySlot).apply op).1 ∧
        ({} : ReplySlot).found (before ++ op :: rest) = []) ∧
      (.look ∈ rest → after (before ++ op :: rest) = (({} : ReplySlot).apply op).1.look.1 ∧
        ({} : ReplySlot).found (before ++ op :: rest) =
          (({} : ReplySlot).apply op).1.look.2.toList) := by
  rcases polls_append.mp polls with ⟨hbefore, hlater⟩
  rcases run_undecided hbefore h with ⟨hstart, hnothing⟩
  have hused : (({} : ReplySlot).apply op).1.trigger ≠ .ready ∧
      (({} : ReplySlot).apply op).2.reply? = none := by
    cases op with
    | fire reply => exact ⟨nofun, rfl⟩
    | giveUp => exact ⟨nofun, rfl⟩
    | _ => exact absurd decides nofun
  -- What comes first leaves the slot as it was, and the use of the trigger end finds nothing.
  have hstate : after (before ++ op :: rest) = ((({} : ReplySlot).apply op).1.run rest).1 := by
    unfold after at hstart ⊢
    rw [run_append, hstart, run_cons]
  have hfound : ({} : ReplySlot).found (before ++ op :: rest) =
      (({} : ReplySlot).apply op).1.found rest := by
    unfold after at hstart
    rw [found_append, hnothing, hstart, found_cons, hused.2, List.nil_append, Option.toList_none,
      List.nil_append]
  rw [hstate, hfound]
  exact run_used rest _ hused.1 (polls_cons.mp hlater).2

/-! ### What a wait comes to -/

/-- What a wait comes to after some operations, and what looks among them have found. -/
structure Awaited (ops : List Operation) : Prop where
  /-- The waiting end can still wait. -/
  there : ((after ops).apply .wait).2 = .waited (after ops).wait
  /-- As long as the trigger end is unused, the wait goes on. -/
  blocked : Undecided ops → (after ops).wait = .blocked ∧ ({} : ReplySlot).found ops = []
  /-- A reply that was sent is the outcome, if no look came after it. -/
  waited : ∀ before reply rest, ops = before ++ .fire reply :: rest → Undecided before →
    .look ∉ rest → (after ops).wait = .reply reply ∧ ({} : ReplySlot).found ops = []
  /-- Otherwise a look has returned it, once, and the outcome is the bare reply. -/
  taken : ∀ before reply rest, ops = before ++ .fire reply :: rest → Undecided before →
    .look ∈ rest → (after ops).wait = .reply .bare ∧ ({} : ReplySlot).found ops = [reply]
  /-- It is the bare reply too if the trigger end was given up and no look came after that. -/
  unsent : ∀ before rest, ops = before ++ .giveUp :: rest → Undecided before →
    .look ∉ rest → (after ops).wait = .reply .bare ∧ ({} : ReplySlot).found ops = []
  /-- The wait is a misuse in the one case that is left. -/
  misused : (after ops).wait = .misused ↔
    ∃ before rest, ops = before ++ .giveUp :: rest ∧ Undecided before ∧ .look ∈ rest

/-- What a wait comes to after any operations, if the waiting end has only looked before. -/
theorem awaited_of_polls (ops : List Operation) (polls : Polls ops) : Awaited ops := by
  have hblocked : Undecided ops → after ops = {} ∧ ({} : ReplySlot).found ops = [] :=
    run_undecided polls
  have hfired : ∀ before reply rest, ops = before ++ .fire reply :: rest → Undecided before →
      (.look ∉ rest → after ops = ⟨.fired reply, .listening⟩ ∧
        ({} : ReplySlot).found ops = []) ∧
      (.look ∈ rest → after ops = ⟨.fired reply, .collected⟩ ∧
        ({} : ReplySlot).found ops = [reply]) := by
    rintro before reply rest heq h
    rw [heq] at polls ⊢
    exact run_decided polls h rfl
  have hdropped : ∀ before rest, ops = before ++ .giveUp :: rest → Undecided before →
      (.look ∉ rest → after ops = ⟨.dropped, .listening⟩ ∧ ({} : ReplySlot).found ops = []) ∧
      (.look ∈ rest → after ops = ⟨.dropped, .disappointed⟩ ∧
        ({} : ReplySlot).found ops = []) := by
    rintro before rest heq h
    rw [heq] at polls ⊢
    exact run_decided polls h rfl
  -- These are the five states in which a wait can find the slot.
  constructor
  case there =>
    have hthere : (after ops).waiter ≠ .gone := there_of_run ops {} polls nofun
    rw [apply, if_neg hthere]
  case blocked =>
    intro h
    rw [(hblocked h).1]
    exact ⟨rfl, (hblocked h).2⟩
  case waited =>
    intro before reply rest heq h hlook
    rcases (hfired before reply rest heq h).1 hlook with ⟨hafter, hfound⟩
    rw [hafter]
    exact ⟨rfl, hfound⟩
  case taken =>
    intro before reply rest heq h hlook
    rcases (hfired before reply rest heq h).2 hlook with ⟨hafter, hfound⟩
    rw [hafter]
    exact ⟨rfl, hfound⟩
  case unsent =>
    intro before rest heq h hlook
    rcases (hdropped before rest heq h).1 hlook with ⟨hafter, hfound⟩
    rw [hafter]
    exact ⟨rfl, hfound⟩
  case misused =>
    constructor
    · intro hmisused
      -- In four of the five states the wait goes on or gives a reply.
      rcases undecided_or_split ops with h | ⟨before, reply, rest, heq, h⟩ | ⟨before, rest, heq, h⟩
      · rw [(hblocked h).1] at hmisused
        exact absurd hmisused nofun
      · by_cases hlook : Operation.look ∈ rest
        · rw [((hfired before reply rest heq h).2 hlook).1] at hmisused
          exact absurd hmisused nofun
        · rw [((hfired before reply rest heq h).1 hlook).1] at hmisused
          exact absurd hmisused nofun
      · by_cases hlook : Operation.look ∈ rest
        · exact ⟨before, rest, heq, h, hlook⟩
        · rw [((hdropped before rest heq h).1 hlook).1] at hmisused
          exact absurd hmisused nofun
    · rintro ⟨before, rest, heq, h, hlook⟩
      rw [((hdropped before rest heq h).2 hlook).1]
      rfl

/-- A look before the reply, which finds nothing, and one after it, which takes it. -/
theorem awaited_of_polls_taken :
    Polls [.look, .fire ⟨.ok, [], ByteArray.empty⟩, .look] ∧
      Awaited [.look, .fire ⟨.ok, [], ByteArray.empty⟩, .look] := by
  have hpolls : Polls [.look, .fire ⟨.ok, [], ByteArray.empty⟩, .look] := by
    unfold Polls
    decide
  exact ⟨hpolls, awaited_of_polls _ hpolls⟩

/-- The trigger end is given up, a look finds nothing, and the wait is a misuse. -/
theorem wait_misused_of_look :
    Polls [.giveUp, .look] ∧ ({} : ReplySlot).found [.giveUp, .look] = [] ∧
      (after [.giveUp, .look]).wait = .misused ∧
      (after [.giveUp, .look]).wait ≠ .reply .bare := by
  refine ⟨?_, rfl, rfl, nofun⟩
  unfold Polls
  decide

end ReplySlot

end ControlPlane
