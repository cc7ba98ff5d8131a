import ControlPlane.Publication
import ControlPlane.Proofs.Service.Frame
import ControlPlane.Service.Operation
import Mathlib.Data.List.Forall2

/-!
# Changes of the Routes, One After the Other

Threads change the table of routes at the same time, and each of them may have to
start over any number of times. What comes out is nevertheless as if the changes had
been made one after the other, in the order in which they were published: the table
is the one that they lead to in that order, and each change answers what it answers at
its turn.

The reason is one invariant. A thread has made its table from a published one, and it
remembers the version of that. As long as the version is still the published one, its
table and its answer are what its change makes of the published table; and if the
version is another one, the thread will not get to publish them. So an answer that was
found in vain is never given.

Who publishes is read off the version, which nothing else raises, and not off the
record of the changes made. That the two agree is part of what is proved: every thread
that has finished stands in the record exactly once, with the change that it was asked
for.

## Main definitions

* `RouteChange.sequence`: Changes made one after the other.
* `RouteChange.operation`, `RouteChange.reported`: A change as an operation on a
  service, and what the service says to it.
* `Publication.winner?`, `Publication.winners`: Who publishes.
* `Publication.called`: The changes that were asked for.
* `Publication.Move`: What a step does.
* `Publication.Consistent`: The invariant.
* `Publication.Linear`: What runs come to.

## Theorems

* `sequence_append`: Some changes after others.
* `run_operations`: A service makes the changes in the same way.
* `move_of_step`: Every step that can be taken is one of the moves.
* `consistent_of_step`, `consistent_run`: Every step and every run keep the invariant.
* `winners_append`: Publications of a longer run.
* `linear_of_run`: Runs are as if the changes were made one after the other.
-/

namespace ControlPlane

namespace RouteChange

variable {table : RouteTable Handler}

/-- Changes made one after the other: the table in the end, and what each change
    answers at its turn. -/
def sequence (table : RouteTable Handler) : List RouteChange → RouteTable Handler × List Bool
  | [] => (table, [])
  | change :: rest =>
    let (last, answers) := sequence (change.applyTo table) rest
    (last, change.answer table :: answers)

/-- Some changes after others. -/
theorem sequence_append (first others : List RouteChange) :
    ∀ table : RouteTable Handler, sequence table (first ++ others) =
      ((sequence (sequence table first).1 others).1,
        (sequence table first).2 ++ (sequence (sequence table first).1 others).2) := by
  induction first with
  | nil => exact fun table => rfl
  | cons change rest ih =>
      intro table
      have hrest := ih (change.applyTo table)
      simp only [List.cons_append, sequence, hrest]

/-- One more change is made to the table that the others have led to. -/
theorem sequence_concat (table : RouteTable Handler) (changes : List RouteChange)
    (change : RouteChange) :
    sequence table (changes ++ [change]) =
      (change.applyTo (sequence table changes).1,
        (sequence table changes).2 ++ [change.answer (sequence table changes).1]) :=
  sequence_append changes [change] table

/-! ### Changes of a service -/

/-- A change as an operation on a service. -/
def operation : RouteChange → Service.Operation
  | .register m handler => .register m handler
  | .unregister m => .unregister m

/-- What a service says to a change with this answer. -/
def reported (change : RouteChange) (answer : Bool) : Service.Answer :=
  match change with
  | .register _ _ => .done
  | .unregister _ => .removed answer

/-- A service makes a change in the table as a thread does. -/
theorem apply_operation (s : Service) (change : RouteChange) :
    (s.apply change.operation).1.routes = change.applyTo s.routes ∧
      (s.apply change.operation).2.1 = change.reported (change.answer s.routes) := by
  cases change with
  | register m handler => exact ⟨rfl, rfl⟩
  | unregister m =>
      have hroutes : (s.unregister m).1.routes = s.routes.unregister m := by
        rw [Service.unregister_frame]
      have hanswer : (s.unregister m).2.1 = s.routes.has m := by
        unfold Service.unregister
        by_cases hm : s.routes.has m = true
        · rw [if_pos hm, hm]
        · rw [if_neg hm, Bool.eq_false_iff.mpr hm]
      exact ⟨hroutes, congrArg Service.Answer.removed hanswer⟩

/-- A service that makes the changes one at a time ends with the same table and says the
    same to each of them. -/
theorem run_operations (changes : List RouteChange) :
    ∀ s : Service,
      (s.run (changes.map operation)).1.routes = (sequence s.routes changes).1 ∧
        (s.run (changes.map operation)).2.1 =
          List.zipWith reported changes (sequence s.routes changes).2 := by
  induction changes with
  | nil => exact fun s => ⟨rfl, rfl⟩
  | cons change rest ih =>
      intro s
      rcases apply_operation s change with ⟨hroutes, hanswer⟩
      rcases ih (s.apply change.operation).1 with ⟨hlast, hothers⟩
      rw [hroutes] at hlast hothers
      constructor
      · exact hlast
      · simp only [List.map_cons, Service.run, sequence, List.zipWith_cons_cons, hanswer, hothers]

end RouteChange

namespace Publisher

/-- The change that a thread makes. -/
def change : Publisher → RouteChange
  | .starting change | .prepared change _ _ _ | .finished change _ => change

/-- The answer that a thread gives, once it has finished. -/
def answer? : Publisher → Option Bool
  | .finished _ answer => some answer
  | _ => none

end Publisher

namespace Publication

variable {p next : Publication} {s : Step} {start : RouteTable Handler} {thread : Nat}

/-- A published table that nobody changes yet. -/
def ofTable (table : RouteTable Handler) : Publication :=
  { table := table }

/-- The change that a step asks for. -/
def Step.called? : Step → Option RouteChange
  | .enter change => some change
  | _ => none

/-- The changes that steps ask for, in order. Each gets a thread of its own, and the
    threads are numbered in this order. -/
def called (steps : List Step) : List RouteChange :=
  steps.filterMap Step.called?

/-- The thread that publishes its table in a step, if one does. The version tells. -/
def winner? (p : Publication) (s : Step) : Option Nat :=
  match s, p.step s with
  | .swap thread, some next => if p.version < next.version then some thread else none
  | _, _ => none

/-- The threads that publish, in order. -/
def winners (p : Publication) : List Step → List Nat
  | [] => []
  | s :: rest => (p.winner? s).toList ++ winners ((p.step s).getD p) rest

/-! ### Moves -/

/-- What a step does. -/
inductive Move (p : Publication) : Step → Publication → Prop
  | enter (change : RouteChange) :
      Move p (.enter change) { p with publishers := p.publishers ++ [.starting change] }
  | load (thread : Nat) (change : RouteChange)
      (stage : p.publishers[thread]? = some (.starting change)) :
      Move p (.load thread) { p with publishers := p.publishers.set thread (p.prepare change) }
  /-- Another thread was faster, and this one starts over from the newer table. -/
  | lose (thread : Nat) (change : RouteChange) (version : Nat) (table : RouteTable Handler)
      (answer : Bool) (stage : p.publishers[thread]? = some (.prepared change version table answer))
      (stale : version ≠ p.version) :
      Move p (.swap thread) { p with publishers := p.publishers.set thread (p.prepare change) }
  | win (thread : Nat) (change : RouteChange) (table : RouteTable Handler) (answer : Bool)
      (stage : p.publishers[thread]? = some (.prepared change p.version table answer)) :
      Move p (.swap thread) {
        version := p.version + 1
        table := table
        publishers := p.publishers.set thread (.finished change answer)
        made := p.made ++ [(change, answer)] }

theorem move_of_step (h : p.step s = some next) : Move p s next := by
  cases s with
  | enter change =>
      rw [← Option.some.inj h]
      exact .enter change
  | load thread =>
      rcases hthread : p.publishers[thread]? with _ | stage
      · simp only [step, hthread, reduceCtorEq] at h
      · cases stage with
        | starting change =>
            simp only [step, hthread, Option.some.injEq] at h
            rw [← h]
            exact .load thread change hthread
        | prepared change version table answer => simp only [step, hthread, reduceCtorEq] at h
        | finished change answer => simp only [step, hthread, reduceCtorEq] at h
  | swap thread =>
      rcases hthread : p.publishers[thread]? with _ | stage
      · simp only [step, hthread, reduceCtorEq] at h
      · cases stage with
        | starting change => simp only [step, hthread, reduceCtorEq] at h
        | finished change answer => simp only [step, hthread, reduceCtorEq] at h
        | prepared change version table answer =>
            -- The swap succeeds if nobody has published since the table was loaded.
            by_cases hversion : version = p.version
            · simp only [step, hthread, if_pos hversion, Option.some.injEq] at h
              rw [← h]
              exact .win thread change table answer (hversion ▸ hthread)
            · simp only [step, hthread, if_neg hversion, Option.some.injEq] at h
              rw [← h]
              exact .lose thread change version table answer hthread hversion

/-- Either nothing is published in a step, or one thread publishes what it has made from
    the published table. -/
theorem published_of_step (hstep : p.step s = some next) :
    (p.winner? s = none ∧ next.version = p.version ∧ next.table = p.table ∧
        next.made = p.made) ∨
      ∃ thread change table answer, p.winner? s = some thread ∧
        p.publishers[thread]? = some (.prepared change p.version table answer) ∧
        next.publishers[thread]? = some (.finished change answer) ∧
        next.version = p.version + 1 ∧ next.table = table ∧
        next.made = p.made ++ [(change, answer)] := by
  cases move_of_step hstep with
  | enter change => exact Or.inl ⟨rfl, rfl, rfl, rfl⟩
  | load thread change stage => exact Or.inl ⟨rfl, rfl, rfl, rfl⟩
  | lose thread change version table answer stage stale =>
      left
      refine ⟨?_, rfl, rfl, rfl⟩
      simp only [winner?, hstep, Nat.lt_irrefl, if_false]
  | win thread change table answer stage =>
      right
      have hlt := (List.getElem?_eq_some_iff.mp stage).1
      refine ⟨thread, change, table, answer, ?_, stage, List.getElem?_set_self hlt, rfl, rfl, rfl⟩
      simp only [winner?, hstep, Nat.lt_succ_self, if_true]

/-- Where a thread stands after a step: where it stood before, at its beginning, before a
    new attempt, or at its end. -/
theorem stage_of_step (hstep : p.step s = some next) {stage : Publisher}
    (h : next.publishers[thread]? = some stage) :
    p.publishers[thread]? = some stage ∨ (∃ change, stage = .starting change) ∨
      (∃ change, stage = p.prepare change ∧ next.version = p.version ∧ next.table = p.table) ∨
      (∃ change answer, stage = .finished change answer ∧ p.winner? s = some thread) := by
  -- A move sets the stage of one thread and leaves the others where they stand.
  have hset : ∀ (other : Nat) (new : Publisher), (p.publishers.set other new)[thread]? = some stage →
      p.publishers[thread]? = some stage ∨ (other = thread ∧ stage = new) := by
    intro other new hget
    by_cases heq : other = thread
    · rw [heq, List.getElem?_set_self'] at hget
      rcases Option.map_eq_some_iff.mp hget with ⟨_, _, hnew⟩
      exact Or.inr ⟨heq, hnew.symm⟩
    · rw [List.getElem?_set_ne heq] at hget
      exact Or.inl hget
  cases move_of_step hstep with
  | enter change =>
      by_cases hlt : thread < p.publishers.length
      · rw [List.getElem?_append_left hlt] at h
        exact Or.inl h
      · rw [List.getElem?_append_right (Nat.le_of_not_lt hlt)] at h
        have hmem := List.mem_of_getElem? h
        exact Or.inr (Or.inl ⟨change, List.mem_singleton.mp hmem⟩)
  | load other change stage =>
      rcases hset other _ h with hsame | ⟨_, hnew⟩
      · exact Or.inl hsame
      · exact Or.inr (Or.inr (Or.inl ⟨change, hnew, rfl, rfl⟩))
  | lose other change version table answer stage stale =>
      rcases hset other _ h with hsame | ⟨_, hnew⟩
      · exact Or.inl hsame
      · exact Or.inr (Or.inr (Or.inl ⟨change, hnew, rfl, rfl⟩))
  | win other change table answer stage =>
      rcases hset other _ h with hsame | ⟨heq, hnew⟩
      · exact Or.inl hsame
      · right; right; right
        refine ⟨change, answer, hnew, ?_⟩
        rw [← heq]
        simp only [winner?, hstep, Nat.lt_succ_self, if_true]

/-- A thread that has finished stays so, with its answer. -/
theorem finished_of_step (hstep : p.step s = some next) {change : RouteChange} {answer : Bool}
    (h : p.publishers[thread]? = some (.finished change answer)) :
    next.publishers[thread]? = some (.finished change answer) := by
  -- A thread that moves on has not finished.
  have hset : ∀ (other : Nat) (stage new : Publisher), p.publishers[other]? = some stage →
      stage ≠ .finished change answer →
      (p.publishers.set other new)[thread]? = some (.finished change answer) := by
    intro other stage new hget hne
    have hother : other ≠ thread := by
      intro heq
      rw [heq, h] at hget
      exact hne (Option.some.inj hget).symm
    rw [List.getElem?_set_ne hother]
    exact h
  cases move_of_step hstep with
  | enter other =>
      have hlt := (List.getElem?_eq_some_iff.mp h).1
      exact (List.getElem?_append_left hlt).trans h
  | load other change stage => exact hset other _ _ stage nofun
  | lose other change version table answer stage stale => exact hset other _ _ stage nofun
  | win other change table answer stage => exact hset other _ _ stage nofun

/-- A step adds the change that it asks for, and every thread keeps its own. -/
theorem change_of_step (hstep : p.step s = some next) :
    next.publishers.map Publisher.change =
      p.publishers.map Publisher.change ++ s.called?.toList := by
  have hset : ∀ (other : Nat) (stage new : Publisher), p.publishers[other]? = some stage →
      new.change = stage.change →
      (p.publishers.set other new).map Publisher.change = p.publishers.map Publisher.change := by
    intro other stage new hget hsame
    have hchange : (p.publishers.map Publisher.change)[other]? = some new.change := by
      rw [List.getElem?_map, hget, hsame]
      rfl
    rcases List.getElem?_eq_some_iff.mp hchange with ⟨hlt, hlast⟩
    rw [List.map_set, ← hlast, List.set_getElem_self]
  cases move_of_step hstep with
  | enter change => exact List.map_append
  | load other change stage =>
      exact (hset other _ (p.prepare change) stage rfl).trans (List.append_nil _).symm
  | lose other change version table answer stage stale =>
      exact (hset other _ (p.prepare change) stage rfl).trans (List.append_nil _).symm
  | win other change table answer stage =>
      exact (hset other _ (.finished change answer) stage rfl).trans (List.append_nil _).symm

/-! ### The invariant -/

/-- A thread has finished with this entry of the record. -/
def Records (p : Publication) (thread : Nat) (entry : RouteChange × Bool) : Prop :=
  p.publishers[thread]? = some (.finished entry.1 entry.2)

/-- What holds after some steps that have asked for these changes and let these threads
    publish, in this order. -/
structure Consistent (start : RouteTable Handler) (asked : List RouteChange) (order : List Nat)
    (p : Publication) : Prop where
  asked : p.publishers.map Publisher.change = asked
  /-- The record is that of the changes made one after the other. -/
  sequential : RouteChange.sequence start (p.made.map Prod.fst) = (p.table, p.made.map Prod.snd)
  /-- What a thread would publish now is made from the table that is published now. -/
  fresh : ∀ (thread : Nat) (change : RouteChange) (table : RouteTable Handler) (answer : Bool),
    p.publishers[thread]? = some (.prepared change p.version table answer) →
      table = change.applyTo p.table ∧ answer = change.answer p.table
  /-- Nobody has made a table from one that is still to be published. -/
  past : ∀ (thread : Nat) (change : RouteChange) (version : Nat) (table : RouteTable Handler)
    (answer : Bool), p.publishers[thread]? = some (.prepared change version table answer) →
      version ≤ p.version
  recorded : List.Forall₂ p.Records order p.made
  finished : ∀ (thread : Nat) (change : RouteChange) (answer : Bool),
    p.publishers[thread]? = some (.finished change answer) → thread ∈ order
  once : order.Nodup

theorem consistent_ofTable (start : RouteTable Handler) :
    Consistent start [] [] (ofTable start) := by
  have hnone : ∀ (thread : Nat) (stage : Publisher),
      ¬ (ofTable start).publishers[thread]? = some stage := by
    intro thread stage h
    exact absurd (List.mem_of_getElem? h) List.not_mem_nil
  exact {
    asked := rfl
    sequential := rfl
    fresh := fun thread _ _ _ h => absurd h (hnone thread _)
    past := fun thread _ _ _ _ h => absurd h (hnone thread _)
    recorded := .nil
    finished := fun thread _ _ h => absurd h (hnone thread _)
    once := List.nodup_nil }

/-- Each thread that has published has finished with some entry. -/
theorem records_of_mem {asked : List RouteChange} {order : List Nat}
    (hp : Consistent start asked order p) (hmem : thread ∈ order) :
    ∃ entry, p.Records thread entry := by
  rcases List.mem_iff_getElem.mp hmem with ⟨i, hlt, hthread⟩
  have hentry := hp.recorded.get hlt (hp.recorded.length_eq ▸ hlt)
  rw [List.get_eq_getElem, hthread] at hentry
  exact ⟨_, hentry⟩

/-- A thread that publishes has not published before. -/
theorem not_mem_of_prepared {asked : List RouteChange} {order : List Nat}
    (hp : Consistent start asked order p) {change : RouteChange} {version : Nat}
    {table : RouteTable Handler} {answer : Bool}
    (h : p.publishers[thread]? = some (.prepared change version table answer)) :
    thread ∉ order := by
  intro hmem
  rcases records_of_mem hp hmem with ⟨entry, hentry⟩
  simp only [Records, h, Option.some.injEq, reduceCtorEq] at hentry

/-- Every step keeps the invariant. -/
theorem consistent_of_step {asked : List RouteChange} {order : List Nat}
    (hstep : p.step s = some next) (hp : Consistent start asked order p) :
    Consistent start (asked ++ s.called?.toList) (order ++ (p.winner? s).toList) next := by
  have hasked : next.publishers.map Publisher.change = asked ++ s.called?.toList := by
    rw [change_of_step hstep, hp.asked]
  have hkept : List.Forall₂ next.Records order p.made :=
    hp.recorded.imp fun _ _ h => finished_of_step hstep h
  -- Who has finished now had finished before, or has just published.
  have hfinished : ∀ (thread : Nat) (change : RouteChange) (answer : Bool),
      next.publishers[thread]? = some (.finished change answer) →
        thread ∈ order ++ (p.winner? s).toList := by
    intro thread change answer h
    rcases stage_of_step hstep h with hsame | ⟨_, hnew⟩ | ⟨_, hnew, _⟩ | ⟨_, _, _, hwinner⟩
    · exact List.mem_append_left _ (hp.finished thread change answer hsame)
    · exact absurd hnew nofun
    · exact absurd hnew nofun
    · rw [hwinner]
      exact List.mem_append_right _ List.mem_cons_self
  rcases published_of_step hstep with ⟨hnobody, hversion, htable, hmade⟩ |
    ⟨winner, change, table, answer, hwinner, hbefore, hafter, hversion, htable, hmade⟩
  · -- The published table is the same one.
    rw [hnobody, Option.toList_none, List.append_nil] at hfinished ⊢
    refine ⟨hasked, ?_, ?_, ?_, ?_, hfinished, hp.once⟩
    · rw [hmade, htable]
      exact hp.sequential
    · intro thread change table answer h
      rw [hversion] at h
      rw [htable]
      rcases stage_of_step hstep h with hsame | ⟨_, hnew⟩ | ⟨_, hnew, _⟩ | ⟨_, _, hnew, _⟩
      · exact hp.fresh thread change table answer hsame
      · exact absurd hnew nofun
      · simp only [prepare, Publisher.prepared.injEq] at hnew
        rcases hnew with ⟨hchange, _, hmine, hanswer⟩
        rw [hchange]
        exact ⟨hmine, hanswer⟩
      · exact absurd hnew nofun
    · intro thread change version table answer h
      rw [hversion]
      rcases stage_of_step hstep h with hsame | ⟨_, hnew⟩ | ⟨_, hnew, _⟩ | ⟨_, _, hnew, _⟩
      · exact hp.past thread change version table answer hsame
      · exact absurd hnew nofun
      · simp only [prepare, Publisher.prepared.injEq] at hnew
        exact Nat.le_of_eq hnew.2.1
      · exact absurd hnew nofun
    · rw [hmade]
      exact hkept
  · -- The winner's table was made from the published one, so its change comes next.
    rcases hp.fresh winner change table answer hbefore with ⟨hmine, hanswer⟩
    rw [hwinner, Option.toList_some] at hfinished ⊢
    have hpast : ∀ (thread : Nat) (change : RouteChange) (version : Nat)
        (table : RouteTable Handler) (answer : Bool),
        next.publishers[thread]? = some (.prepared change version table answer) →
          version ≤ p.version := by
      intro thread change version table answer h
      rcases stage_of_step hstep h with hsame | ⟨_, hnew⟩ | ⟨_, _, hold, _⟩ | ⟨_, _, hnew, _⟩
      · exact hp.past thread change version table answer hsame
      · exact absurd hnew nofun
      · omega
      · exact absurd hnew nofun
    refine ⟨hasked, ?_, ?_, ?_, ?_, hfinished, ?_⟩
    · rw [hmade, List.map_append, List.map_append, htable, hmine, hanswer]
      simp only [List.map_cons, List.map_nil, RouteChange.sequence_concat, hp.sequential]
    · -- All the other tables have become stale.
      intro thread change table answer h
      have hle := hpast thread change _ table answer h
      omega
    · intro thread change version table answer h
      have hle := hpast thread change version table answer h
      omega
    · rw [hmade]
      exact List.rel_append hkept (.cons hafter .nil)
    · refine List.nodup_append.mpr ⟨hp.once, List.pairwise_singleton _ winner, ?_⟩
      intro thread hmem other hother heq
      rw [List.mem_singleton.mp hother] at heq
      exact not_mem_of_prepared hp hbefore (heq ▸ hmem)

/-! ### Runs -/

theorem run_cons (p : Publication) (s : Step) (rest : List Step) :
    p.run (s :: rest) = ((p.step s).getD p).run rest := rfl

theorem run_append (p : Publication) (first others : List Step) :
    p.run (first ++ others) = (p.run first).run others :=
  List.foldl_append

/-- Publications of a longer run come after those of its beginning. -/
theorem winners_append (first others : List Step) :
    ∀ p : Publication, p.winners (first ++ others) =
      p.winners first ++ (p.run first).winners others := by
  induction first with
  | nil => exact fun p => rfl
  | cons s rest ih =>
      intro p
      simp only [List.cons_append, winners, ih, run_cons, List.append_assoc]

/-- Every run keeps the invariant, by induction along its steps. A step that cannot be
    taken asks for nothing and publishes nothing. -/
theorem consistent_run (steps : List Step) :
    ∀ (p : Publication) (asked : List RouteChange) (order : List Nat),
      Consistent start asked order p →
        Consistent start (asked ++ called steps) (order ++ p.winners steps) (p.run steps) := by
  induction steps with
  | nil =>
      intro p asked order hp
      have hsame : called [] = [] := rfl
      rw [hsame, winners, List.append_nil, List.append_nil]
      exact hp
  | cons s rest ih =>
      intro p asked order hp
      have hcalled : called (s :: rest) = s.called?.toList ++ called rest := by
        simp only [called, List.filterMap_cons]
        cases s.called? <;> rfl
      rw [hcalled, winners, run_cons, ← List.append_assoc, ← List.append_assoc]
      rcases hstep : p.step s with _ | next
      · -- A step that cannot be taken leaves both lists as they are.
        have hnobody : p.winner? s = none := by
          cases s <;> simp only [winner?, hstep]
        have hnothing : s.called? = none := by
          cases s with
          | enter change => simp only [step, reduceCtorEq] at hstep
          | load thread => rfl
          | swap thread => rfl
        rw [hnobody, hnothing, Option.toList_none, Option.toList_none, List.append_nil,
          List.append_nil, Option.getD_none]
        exact ih p asked order hp
      · exact ih next _ _ (consistent_of_step hstep hp)

/-- The changes of some threads, in their order. -/
def changesOf (steps : List Step) (order : List Nat) : List RouteChange :=
  order.filterMap fun thread => (called steps)[thread]?

/-- The answers of some threads, in their order. -/
def answersOf (p : Publication) (order : List Nat) : List Bool :=
  order.filterMap fun thread => p.publishers[thread]?.bind Publisher.answer?

/-- The record lists the changes and the answers of the threads that have published. -/
theorem record_of_recorded {steps : List Step} {order : List Nat} {made : List (RouteChange × Bool)}
    (hasked : p.publishers.map Publisher.change = called steps)
    (h : List.Forall₂ p.Records order made) :
    changesOf steps order = made.map Prod.fst ∧ p.answersOf order = made.map Prod.snd := by
  induction h with
  | nil => exact ⟨rfl, rfl⟩
  | @cons thread entry _ _ hfirst _ ih =>
      have hchange : (called steps)[thread]? = some entry.1 := by
        rw [← hasked, List.getElem?_map, hfirst]
        rfl
      have hanswer : p.publishers[thread]?.bind Publisher.answer? = some entry.2 := by
        rw [hfirst]
        rfl
      constructor
      · simp only [changesOf, List.filterMap_cons, hchange, List.map_cons, List.cons.injEq, true_and]
        exact ih.1
      · simp only [answersOf, List.filterMap_cons, hanswer, List.map_cons, List.cons.injEq, true_and]
        exact ih.2

/-- What runs come to: the changes are made one after the other, each by the thread that
    was asked for it, in the order in which the threads publish. -/
structure Linear (start : RouteTable Handler) (steps : List Step) : Prop where
  /-- No thread publishes twice. -/
  once : (winners (ofTable start) steps).Nodup
  /-- Those that have published are those that have finished, with the change that they
      were asked for. -/
  finished : let p := (ofTable start).run steps
    ∀ thread : Nat, thread ∈ winners (ofTable start) steps ↔
      ∃ (change : RouteChange) (answer : Bool), (called steps)[thread]? = some change ∧
        p.publishers[thread]? = some (.finished change answer)
  /-- The published table is the one that their changes lead to in this order, and each of
      them answers what its change answers at its turn. -/
  sequential : let p := (ofTable start).run steps
    let order := winners (ofTable start) steps
    RouteChange.sequence start (changesOf steps order) = (p.table, p.answersOf order)
  /-- The record of the changes made is in this order, with one entry for each. -/
  recorded : let p := (ofTable start).run steps
    let order := winners (ofTable start) steps
    p.made = (changesOf steps order).zip (p.answersOf order) ∧ p.made.length = order.length
  /-- A thread that has finished before another one was asked comes before that one. -/
  realTime : ∀ (before after : List Step) (first second : Nat), steps = before ++ after →
    first ∈ winners (ofTable start) before → (called before).length ≤ second →
      second ∈ winners (ofTable start) steps →
        (winners (ofTable start) steps).idxOf first < (winners (ofTable start) steps).idxOf second
  /-- A service that makes the changes in this order ends with the published table and
      says to each of them what its thread answers. -/
  service : let p := (ofTable start).run steps
    let order := winners (ofTable start) steps
    ∀ s : Service, s.routes = start →
      let ran := s.run ((changesOf steps order).map RouteChange.operation)
      ran.1.routes = p.table ∧
        ran.2.1 = List.zipWith RouteChange.reported (changesOf steps order) (p.answersOf order)

/-- Runs of any number of threads are as if their changes were made one after the other,
    whatever the published table is at first and in whatever order the threads move. -/
theorem linear_of_run (start : RouteTable Handler) (steps : List Step) : Linear start steps := by
  have hconsistent : ∀ past : List Step, Consistent start (called past)
      (winners (ofTable start) past) ((ofTable start).run past) := by
    intro past
    have hrun := consistent_run past _ [] [] (consistent_ofTable start)
    rw [List.nil_append, List.nil_append] at hrun
    exact hrun
  have hlast := hconsistent steps
  rcases record_of_recorded hlast.asked hlast.recorded with ⟨hchanges, hanswers⟩
  have hmember : ∀ (past : List Step) (thread : Nat), thread ∈ winners (ofTable start) past →
      ∃ (change : RouteChange) (answer : Bool), (called past)[thread]? = some change ∧
        ((ofTable start).run past).publishers[thread]? = some (.finished change answer) := by
    intro past thread hmem
    rcases records_of_mem (hconsistent past) hmem with ⟨entry, hentry⟩
    refine ⟨entry.1, entry.2, ?_, hentry⟩
    rw [← (hconsistent past).asked, List.getElem?_map, hentry]
    rfl
  have hsequential : RouteChange.sequence start
      (changesOf steps (winners (ofTable start) steps)) = (((ofTable start).run steps).table,
        ((ofTable start).run steps).answersOf (winners (ofTable start) steps)) := by
    rw [hchanges, hanswers]
    exact hlast.sequential
  constructor
  case once => exact hlast.once
  case finished =>
    intro p thread
    constructor
    · exact hmember steps thread
    · rintro ⟨change, answer, _, h⟩
      exact hlast.finished thread change answer h
  case sequential => exact hsequential
  case recorded =>
    intro p order
    rw [hchanges, hanswers]
    have hzip : p.made = (p.made.map Prod.fst).zip (p.made.map Prod.snd) :=
      List.zip_of_prod rfl rfl
    exact ⟨hzip, hlast.recorded.length_eq.symm⟩
  case realTime =>
    intro before after first second hsplit hfirst hlater hsecond
    -- The publications up to then are the first ones, and they are of earlier threads.
    have hbegins : winners (ofTable start) steps =
        winners (ofTable start) before ++ ((ofTable start).run before).winners after := by
      rw [hsplit, winners_append]
    have habsent : second ∉ winners (ofTable start) before := by
      intro hmem
      rcases hmember before second hmem with ⟨change, answer, hcalled, _⟩
      have hlt := (List.getElem?_eq_some_iff.mp hcalled).1
      omega
    rw [hbegins, List.idxOf_append_of_mem hfirst, List.idxOf_append_of_notMem habsent]
    have hlt := List.idxOf_lt_length_of_mem hfirst
    omega
  case service =>
    intro p order s hroutes ran
    rcases RouteChange.run_operations (changesOf steps order) s with ⟨htable, hsaid⟩
    rw [hroutes, hsequential] at htable hsaid
    exact ⟨htable, hsaid⟩

end Publication

end ControlPlane
