import ControlPlane.Proofs.Exchange.Turn

/-!
# One Reply in a Session

What any list of operations on one exchange comes to, in whatever order the serving
side, the waiting side and the server take them. One reply is built, by the first
operation that replies: the first reply that is written, or the fallback reply if the
request is given up before. It carries the header fields written until then, in order,
and asks to close the connection if the shutdown had begun by then. It is counted
once.

Everything later leaves the reply alone. A second reply is a fault that names the
target of the request and changes nothing at all, giving the request up is silent, and
looks hand the reply out once.

A session is a list of turns, so each part is an induction along the operations with
what one turn does as its step. Until the first reply the request stays pending and
collects fields. From then on the trigger stays as it is.

## Main definitions

* `Session.Silent`: Operations none of which replies.
* `Session.found`: The replies that looks have found.
* `Session.OneReply`: What operations on a new exchange come to.

## Theorems

* `run_append`: Some operations after others.
* `head_of_run`, `closing_of_run`, `held_of_run`: What operations do to the parts that
  do not depend on replies.
* `pending_of_run`: Silent operations leave the request pending.
* `kept_of_run`: A reply that was sent stays, and nothing is counted any more.
* `built_of_run`: The first operation that replies decides the reply and the counters.
* `ready_iff_silent`: A request is pending as long as nobody has replied.
* `found_of_run`, `waiter_of_run`, `looked_of_run`: Looks find the reply, and once only.
* `apply_again`, `apply_release_of_used`, `apply_release_of_ready`: What comes after the
  reply, and giving up as a reply.
* `oneReply_of_run`: One reply for every list of operations.
-/

namespace ControlPlane

open Telemetry (Observation counters)

namespace Session

open Exchange (Operation Answer)

variable {s : Session} {ops : List Operation}

/-- None of the operations replies. -/
def Silent (ops : List Operation) : Prop :=
  ∀ op ∈ ops, op.reply? = none

/-- The replies that looks have found, in order. -/
def found (answers : List Answer) : List Reply :=
  answers.filterMap Answer.reply?

/-- An operation that does not reply does not give the request up. -/
theorem releases_of_silent {op : Operation} (silent : op.reply? = none) : op.releases = false := by
  cases op with
  | release => exact absurd silent nofun
  | _ => rfl

theorem not_silent_iff_split (ops : List Operation) :
    ¬ Silent ops ↔ ∃ before op after status body, ops = before ++ op :: after ∧ Silent before ∧
      op.reply? = some (status, body) := by
  constructor
  · intro h
    -- The first operation that replies.
    rcases hfirst : ops.find? (fun op => op.reply?.isSome) with _ | op
    · rw [List.find?_eq_none] at hfirst
      exact absurd (fun op hop => Option.not_isSome_iff_eq_none.mp (hfirst op hop)) h
    · rcases List.find?_eq_some_iff_append.mp hfirst with ⟨hsome, before, after, heq, hbefore⟩
      rcases Option.isSome_iff_exists.mp hsome with ⟨⟨status, body⟩, hreply⟩
      refine ⟨before, op, after, status, body, heq, fun earlier hmem => ?_, hreply⟩
      have hnot := hbefore earlier hmem
      rw [Bool.not_eq_true', Option.isSome_eq_false_iff, Option.isNone_iff_eq_none] at hnot
      exact hnot
  · rintro ⟨before, op, after, status, body, heq, _, hreply⟩ hsilent
    have hnone := hsilent op (by rw [heq]; exact List.mem_append_right _ List.mem_cons_self)
    rw [hnone] at hreply
    exact absurd hreply nofun

/-! ### Operations one after the other -/

theorem run_append (before after : List Operation) :
    ∀ s : Session, s.run (before ++ after) =
      (((s.run before).1.run after).1, (s.run before).2.1 ++ ((s.run before).1.run after).2.1,
        (s.run before).2.2 ++ ((s.run before).1.run after).2.2) := by
  induction before with
  | nil => exact fun s => rfl
  | cons op rest ih =>
      intro s
      simp only [List.cons_append, run, ih, List.append_assoc]

theorem head_of_run (ops : List Operation) :
    ∀ s : Session, (s.run ops).1.exchange.head = s.exchange.head := by
  induction ops with
  | nil => exact fun s => rfl
  | cons op rest ih => exact fun s => (ih (s.apply op).1).trans (head_of_turn (turn_apply s op))

theorem closing_of_run (ops : List Operation) :
    ∀ s : Session, (s.run ops).1.conditions.closing =
      (s.conditions.closing || ops.any (·.closes)) := by
  induction ops with
  | nil => exact fun s => (Bool.or_false _).symm
  | cons op rest ih =>
      intro s
      have hrest := ih (s.apply op).1
      rw [closing_of_turn (turn_apply s op), Bool.or_assoc] at hrest
      exact hrest

theorem held_of_run (ops : List Operation) :
    ∀ s : Session, (s.run ops).1.exchange.held = (s.exchange.held && !ops.any (·.releases)) := by
  induction ops with
  | nil => exact fun s => (Bool.and_true _).symm
  | cons op rest ih =>
      intro s
      have hrest := ih (s.apply op).1
      rw [held_of_turn (turn_apply s op), Bool.and_assoc, ← Bool.not_or] at hrest
      exact hrest

/-- Silent operations leave the request pending. The fields that they write come after
    those written before. -/
theorem pending_of_run (ops : List Operation) :
    ∀ s : Session, s.exchange.held = true → s.exchange.slot.trigger = .ready → Silent ops →
      (s.run ops).1.exchange.held = true ∧ (s.run ops).1.exchange.slot.trigger = .ready ∧
        (s.run ops).1.exchange.outgoing = s.exchange.outgoing ++ ops.flatMap (·.fields) ∧
        counters (s.run ops).2.2 = [] := by
  induction ops with
  | nil => exact fun s held ready _ => ⟨held, ready, (List.append_nil _).symm, rfl⟩
  | cons op rest ih =>
      intro s held ready silent
      have hop : op.reply? = none := silent op List.mem_cons_self
      have hturn := turn_apply s op
      rcases pending_of_turn hturn held ready hop with ⟨hready, hfields, hcounters⟩
      have hheld : (s.apply op).1.exchange.held = true := by
        rw [held_of_turn hturn, held, releases_of_silent hop]
        rfl
      rcases ih (s.apply op).1 hheld hready fun later hmem =>
        silent later (List.mem_cons_of_mem op hmem) with ⟨hheld', hready', hfields', hcounters'⟩
      refine ⟨hheld', hready', ?_, ?_⟩
      · rw [hfields, List.append_assoc] at hfields'
        exact hfields'
      · simp only [run, Telemetry.counters_append, hcounters, hcounters', List.append_nil]

/-- A reply that was sent stays, and no operation counts anything afterwards. -/
theorem kept_of_run {reply : Reply} (ops : List Operation) :
    ∀ s : Session, s.exchange.slot.trigger = .fired reply →
      (s.run ops).1.exchange.slot.trigger = .fired reply ∧ counters (s.run ops).2.2 = [] := by
  induction ops with
  | nil => exact fun s fired => ⟨fired, rfl⟩
  | cons op rest ih =>
      intro s fired
      rcases kept_of_turn (turn_apply s op) fired with ⟨hfired, hcounters⟩
      rcases ih (s.apply op).1 hfired with ⟨hfired', hcounters'⟩
      refine ⟨hfired', ?_⟩
      simp only [run, Telemetry.counters_append, hcounters, hcounters', List.append_nil]

/-! ### The first reply -/

/-- The first operation that replies decides the reply and the counters, whatever comes
    after it. -/
theorem built_of_run (held : s.exchange.held = true) (ready : s.exchange.slot.trigger = .ready)
    {before : List Operation} {op : Operation} {status : Http.Status} {body : ByteArray}
    (silent : Silent before) (replies : op.reply? = some (status, body))
    (after : List Operation) :
    (s.run (before ++ op :: after)).1.exchange.slot.trigger =
        .fired ⟨status, s.exchange.outgoing ++ before.flatMap (·.fields) ++
          (if s.conditions.closing || before.any (·.closes) then [Http.closeField] else []),
          body⟩ ∧
      counters (s.run (before ++ op :: after)).2.2 =
        (if op.releases then [.unhandled] else []) ++
          [.requests s.exchange.head.method status] := by
  rcases pending_of_run before s held ready silent with ⟨hheld, hready, hfields, hcounters⟩
  have hturn := turn_apply (s.run before).1 op
  rcases built_of_turn hturn hheld hready replies with ⟨hfired, htold⟩
  rcases kept_of_run after _ hfired with ⟨hkept, hnothing⟩
  -- The reply that the turn builds, in terms of what came before.
  have hreply : (s.run before).1.exchange.replyWith (s.run before).1.conditions status body =
      ⟨status, s.exchange.outgoing ++ before.flatMap (·.fields) ++
        (if s.conditions.closing || before.any (·.closes) then [Http.closeField] else []),
        body⟩ := by
    unfold Exchange.replyWith
    rw [closing_of_run, hfields]
    by_cases hclosing : (s.conditions.closing || before.any (·.closes)) = true
    · rw [if_pos hclosing, if_pos hclosing]
    · rw [if_neg hclosing, if_neg hclosing, List.append_nil]
  rw [run_append]
  refine ⟨?_, ?_⟩
  · rw [← hreply]
    exact hkept
  · rw [Telemetry.counters_append, hcounters, List.nil_append, run, Telemetry.counters_append,
      htold, hnothing, List.append_nil, head_of_run]

/-- After an operation that replies, a reply was sent. -/
theorem fired_of_run (held : s.exchange.held = true) (ready : s.exchange.slot.trigger = .ready)
    (spoken : ¬ Silent ops) : ∃ reply, (s.run ops).1.exchange.slot.trigger = .fired reply := by
  rcases (not_silent_iff_split ops).mp spoken with
    ⟨before, op, after, status, body, heq, hsilent, hreply⟩
  rw [heq]
  exact ⟨_, (built_of_run held ready hsilent hreply after).1⟩

/-- A request is pending as long as nobody has replied. -/
theorem ready_iff_silent (held : s.exchange.held = true)
    (ready : s.exchange.slot.trigger = .ready) :
    (s.run ops).1.exchange.slot.trigger = .ready ↔ Silent ops := by
  constructor
  · intro h
    refine Classical.byContradiction fun spoken => ?_
    rcases fired_of_run held ready spoken with ⟨reply, hfired⟩
    rw [hfired] at h
    exact absurd h nofun
  · exact fun silent => (pending_of_run ops s held ready silent).2.1

/-! ### Looking for the reply -/

theorem found_cons (answer : Answer) (answers : List Answer) :
    found (answer :: answers) = answer.reply?.toList ++ found answers := by
  unfold found
  cases h : answer.reply? with
  | none => rw [List.filterMap_cons_none h, Option.toList_none, List.nil_append]
  | some reply => rw [List.filterMap_cons_some h, Option.toList_some, List.singleton_append]

/-- Once the waiting side has learned something, looks find nothing any more. -/
theorem found_nil_of_run (ops : List Operation) :
    ∀ s : Session, s.exchange.slot.waiter ≠ .listening → s.exchange.slot.trigger ≠ .dropped →
      found (s.run ops).2.1 = [] := by
  induction ops with
  | nil => exact fun s _ _ => rfl
  | cons op rest ih =>
      intro s learned alive
      have hturn := turn_apply s op
      have hnone : (s.apply op).2.1.reply? = none := by
        cases hanswer : (s.apply op).2.1.reply? with
        | none => rfl
        | some reply => exact absurd (found_of_turn hturn hanswer).1 learned
      have hlearned : (s.apply op).1.exchange.slot.waiter ≠ .listening := fun h =>
        learned (listening_of_turn hturn alive h).1
      simp only [run, found_cons, hnone, Option.toList_none, List.nil_append]
      exact ih (s.apply op).1 hlearned (alive_of_turn hturn alive)

/-- Looks find the reply once at most, and it is the one that was sent. -/
theorem found_of_run (ops : List Operation) :
    ∀ s : Session, s.exchange.slot.trigger ≠ .dropped →
      found (s.run ops).2.1 = [] ∨ ∃ reply, found (s.run ops).2.1 = [reply] ∧
        (s.run ops).1.exchange.slot.trigger = .fired reply := by
  induction ops with
  | nil => exact fun s _ => Or.inl rfl
  | cons op rest ih =>
      intro s alive
      have hturn := turn_apply s op
      have halive := alive_of_turn hturn alive
      cases hanswer : (s.apply op).2.1.reply? with
      | none =>
          simp only [run, found_cons, hanswer, Option.toList_none, List.nil_append]
          exact ih (s.apply op).1 halive
      | some reply =>
          -- Found now, so the reply was there before, and there is nothing left to find.
          have hfired := (kept_of_turn hturn (found_of_turn hturn hanswer).2).1
          have hlearned : (s.apply op).1.exchange.slot.waiter ≠ .listening := by
            intro h
            rw [(listening_of_turn hturn alive h).2] at hanswer
            exact absurd hanswer nofun
          right
          refine ⟨reply, ?_, (kept_of_run rest _ hfired).1⟩
          simp only [run, found_cons, hanswer, Option.toList_some,
            found_nil_of_run rest (s.apply op).1 hlearned halive, List.append_nil]

/-- While the waiting side is there, it has collected the reply or still listens. -/
theorem waiter_of_run (ops : List Operation) :
    ∀ s : Session, s.exchange.slot.trigger ≠ .dropped → (∀ op ∈ ops, op.departs = false) →
      (s.run ops).1.exchange.slot.waiter =
        if found (s.run ops).2.1 = [] then s.exchange.slot.waiter else .collected := by
  induction ops with
  | nil => exact fun s _ _ => rfl
  | cons op rest ih =>
      intro s alive stays
      have hturn := turn_apply s op
      have hwaiter := waiter_of_turn hturn alive
      rw [stays op List.mem_cons_self] at hwaiter
      have hrest := ih (s.apply op).1 (alive_of_turn hturn alive) fun later hmem =>
        stays later (List.mem_cons_of_mem op hmem)
      simp only [run, found_cons]
      cases hanswer : (s.apply op).2.1.reply? with
      | none =>
          rw [hanswer] at hwaiter
          rw [hrest, hwaiter]
          rfl
      | some reply =>
          rw [hanswer] at hwaiter
          rw [hrest, hwaiter, Option.toList_some, List.singleton_append,
            if_neg (List.cons_ne_nil reply _)]
          exact ite_self Waiter.collected

/-- A look finds the reply that was sent before, unless an earlier look has. -/
theorem looked_of_run (alive : s.exchange.slot.trigger ≠ .dropped)
    (listening : s.exchange.slot.waiter = .listening) (stays : ∀ op ∈ ops, op.departs = false) :
    ((s.run ops).1.apply .look).2.1 =
      .looked (if found (s.run ops).2.1 = [] then (s.run ops).1.exchange.slot.sent? else none) := by
  have hwaiter := waiter_of_run ops s alive stays
  by_cases hfound : found (s.run ops).2.1 = []
  · rw [if_pos hfound, listening] at hwaiter
    have hthere : (s.run ops).1.exchange.slot.waiter ≠ .gone := by
      simp only [hwaiter, ne_eq, reduceCtorEq, not_false_eq_true]
    simp only [apply, onWaiting_of_there hthere, if_pos hfound]
    rw [ReplySlot.look_listening hwaiter]
  · rw [if_neg hfound] at hwaiter
    have hthere : (s.run ops).1.exchange.slot.waiter ≠ .gone := by
      simp only [hwaiter, ne_eq, reduceCtorEq, not_false_eq_true]
    simp only [apply, onWaiting_of_there hthere, if_neg hfound]
    rw [ReplySlot.look_collected hwaiter]

/-! ### Later operations -/

/-- Asking whether the request is pending. -/
theorem apply_isPending (held : s.exchange.held = true) :
    s.apply .isPending = (s, .pending s.exchange.isPending, []) := by
  simp only [apply, onHeld_of_held held]
  rfl

/-- A second reply is a fault and changes nothing. -/
theorem apply_again (held : s.exchange.held = true) (used : s.exchange.slot.trigger ≠ .ready)
    (status : Http.Status) (body : ByteArray) :
    s.apply (.writeReply status body) = (s, .fault (.doubleReply s.exchange.head.target),
      [Telemetry.log .error .request "Reply already sent for request" s.exchange.identity]) := by
  have hp : ¬ s.exchange.isPending = true := fun h =>
    used ((Exchange.isPending_iff s.exchange).mp h)
  simp only [apply, onHeld_of_held held, Exchange.writeReply, if_neg hp]
  rfl

/-- Giving up a request that was replied to tells nothing. -/
theorem apply_release_of_used (held : s.exchange.held = true)
    (used : s.exchange.slot.trigger ≠ .ready) :
    s.apply .release = (s.withExchange { s.exchange with held := false }, .done, []) := by
  have hp : ¬ s.exchange.isPending = true := fun h =>
    used ((Exchange.isPending_iff s.exchange).mp h)
  simp only [apply, onHeld_of_held held, Exchange.release, if_neg hp]

/-- Giving up a pending request is a reply without a fault. -/
theorem apply_release_of_ready (held : s.exchange.held = true)
    (ready : s.exchange.slot.trigger = .ready) :
    let written := s.exchange.writeReply s.conditions .internalError Exchange.fallbackBody
    written.fault = none ∧ (s.apply .release).2.1 = .done ∧
      (s.apply .release).1.exchange = { written.exchange with held := false } := by
  have hp : s.exchange.isPending = true := (Exchange.isPending_iff s.exchange).mpr ready
  simp only [apply, onHeld_of_held held, Exchange.release, Exchange.writeReply, if_pos hp]
  exact ⟨trivial, trivial, rfl⟩

/-! ### A new exchange -/

/-- What operations on a new exchange come to, under the conditions of the moment. -/
structure OneReply (c : Conditions) (head : RequestHead) (body : ByteArray)
    (ops : List Operation) : Prop where
  /-- Nothing is built and nothing counted as long as nobody replies. -/
  quiet : Silent ops →
    let out := Session.run ⟨c, { head, body }⟩ ops
    out.1.exchange.slot.trigger = .ready ∧ counters out.2.2 = []
  /-- Otherwise the first operation that replies builds the only reply, from the fields
      written before it and with a request to close the connection if the shutdown had
      begun by then. One reply is counted, and one unhandled request if that operation
      gave the request up. -/
  one : ¬ Silent ops → ∃ before op after status text,
    ops = before ++ op :: after ∧ Silent before ∧ op.reply? = some (status, text) ∧
      let out := Session.run ⟨c, { head, body }⟩ ops
      out.1.exchange.slot.sent? = some ⟨status, before.flatMap (·.fields) ++
          (if c.closing || before.any (·.closes) then [Http.closeField] else []), text⟩ ∧
        counters out.2.2 = (if op.releases then [.unhandled] else []) ++
          [.requests head.method status]
  /-- The request asks whether it is pending, and learns whether somebody has replied. -/
  state : ∀ before after, ops = before ++ .isPending :: after →
    before.any (·.releases) = false →
      let now := (Session.run ⟨c, { head, body }⟩ before).1
      ∃ pending, now.apply .isPending = (now, .pending pending, []) ∧
        (pending = true ↔ Silent before)
  /-- Every later reply is a fault that names the target and changes nothing. -/
  again : ∀ before after status text, ops = before ++ .writeReply status text :: after →
    before.any (·.releases) = false → ¬ Silent before →
      let now := (Session.run ⟨c, { head, body }⟩ before).1
      now.apply (.writeReply status text) = (now, .fault (.doubleReply head.target),
        [Telemetry.log .error .request "Reply already sent for request" now.exchange.identity])
  /-- Giving the request up is no fault. For a pending request it is a reply like any
      other, and that reply is no fault either. Otherwise nothing is told. -/
  givenUp : ∀ before after, ops = before ++ .release :: after →
    before.any (·.releases) = false →
      let now := (Session.run ⟨c, { head, body }⟩ before).1
      let written := now.exchange.writeReply now.conditions .internalError Exchange.fallbackBody
      (now.apply .release).2.1 = .done ∧
        (Silent before → written.fault = none ∧
          (now.apply .release).1.exchange = { written.exchange with held := false }) ∧
        (¬ Silent before → now.apply .release =
          (now.withExchange { now.exchange with held := false }, .done, []))
  /-- Looks find the reply once at most, and it is the one that was sent. -/
  taken :
    let out := Session.run ⟨c, { head, body }⟩ ops
    found out.2.1 = [] ∨ ∃ reply, found out.2.1 = [reply] ∧
      out.1.exchange.slot.sent? = some reply
  /-- A look finds the reply that was sent before, unless an earlier look has. -/
  look : ∀ before after, ops = before ++ .look :: after → (∀ op ∈ before, op.departs = false) →
    let out := Session.run ⟨c, { head, body }⟩ before
    (out.1.apply .look).2.1 =
      .looked (if found out.2.1 = [] then out.1.exchange.slot.sent? else none)

/-- One reply for every list of operations. -/
theorem oneReply_of_run (c : Conditions) (head : RequestHead) (body : ByteArray)
    (ops : List Operation) : OneReply c head body ops := by
  have held : (⟨c, { head, body }⟩ : Session).exchange.held = true := rfl
  have ready : (⟨c, { head, body }⟩ : Session).exchange.slot.trigger = .ready := rfl
  have alive : (⟨c, { head, body }⟩ : Session).exchange.slot.trigger ≠ .dropped := nofun
  -- The serving side holds the request until it gives it up.
  have holding : ∀ before : List Operation, before.any (·.releases) = false →
      (Session.run ⟨c, { head, body }⟩ before).1.exchange.held = true := fun before unreleased => by
    rw [held_of_run, unreleased]
    rfl
  constructor
  case quiet =>
    intro silent
    exact ⟨(ready_iff_silent held ready).mpr silent, (pending_of_run ops _ held ready silent).2.2.2⟩
  case one =>
    intro spoken
    rcases (not_silent_iff_split ops).mp spoken with
      -- The first operation that replies splits the list.
      ⟨before, op, after, status, text, heq, hsilent, hreply⟩
    rcases built_of_run held ready hsilent hreply after with ⟨hfired, hcounters⟩
    refine ⟨before, op, after, status, text, heq, hsilent, hreply, ?_, ?_⟩
    · rw [heq]
      exact Exchange.sent?_of_fired hfired
    · rw [heq]
      exact hcounters
  case state =>
    intro before after _ unreleased
    refine ⟨_, apply_isPending (holding before unreleased), ?_⟩
    exact (Exchange.isPending_iff _).trans (ready_iff_silent held ready)
  case again =>
    intro before after status text _ unreleased spoken
    have hused := fun h => spoken ((ready_iff_silent held ready).mp h)
    have hagain := apply_again (holding before unreleased) hused status text
    rw [head_of_run] at hagain
    exact hagain
  case givenUp =>
    intro before after _ unreleased
    have hheld := holding before unreleased
    by_cases silent : Silent before
    · rcases apply_release_of_ready hheld ((ready_iff_silent held ready).mpr silent) with
        ⟨hfault, hdone, hexchange⟩
      exact ⟨hdone, fun _ => ⟨hfault, hexchange⟩, fun spoken => absurd silent spoken⟩
    · have hforget := apply_release_of_used hheld fun h =>
        silent ((ready_iff_silent held ready).mp h)
      refine ⟨?_, fun h => absurd h silent, fun _ => hforget⟩
      rw [hforget]
  case taken =>
    rcases found_of_run ops ⟨c, { head, body }⟩ alive with hnone | ⟨reply, hone, hfired⟩
    · exact Or.inl hnone
    · exact Or.inr ⟨reply, hone, Exchange.sent?_of_fired hfired⟩
  case look =>
    intro before after _ stays
    exact looked_of_run alive rfl stays

end Session

end ControlPlane
