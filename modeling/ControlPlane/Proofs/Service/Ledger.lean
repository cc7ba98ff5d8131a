import ControlPlane.Proofs.Exchange.Books
import ControlPlane.Proofs.Service.Gate
import Mathlib.Data.List.Perm.Basic

/-!
# The Ledger of a Service

The replies of all exchanges, each on the counter of its method and status, are what the counters
of the server should come to. `Books` says that an operation adds exactly what it counts, up to the
order of the entries, since an exchange that was opened early may be answered late. Operations one
after the other add up, so one proof for the exchanges that an operation touches covers runs.

It also follows one exchange by its number. Whatever is done on the serving side of any exchange,
that one keeps its request and whoever waits for it. Only its own client can change the latter by
leaving, so the operations named here are all but that one.

## Main definitions

* `ledger`: The entries of all replies that were sent.
* `others`: Those of all exchanges but one.
* `Books`: What an operation adds to the ledger.

## Theorems

* `ledger_perm_others`: One exchange and the others.
* `books_trans`: Operations one after the other.
* `books_onExchange`: An operation on one exchange adds the entry that it makes.
* `books_answer`, `books_giveUpAll`, `books_release`, `books_act`, `books_runJob`,
  `books_disconnect`, `books_openExchange`: The operations.
-/

namespace ControlPlane

open Telemetry (Observation Counter requests replies)

/-- An entry that is added at one place of a list is added to all of them, up to order. -/
theorem perm_flatMap_set {α β : Type} (f : α → List β) (extra : List β) (x x' : α)
    (h : f x' = f x ++ extra) (xs : List α) :
    ∀ n : Nat, xs[n]? = some x → ((xs.set n x').flatMap f).Perm (xs.flatMap f ++ extra) := by
  induction xs with
  | nil => exact fun n hx => absurd hx nofun
  | cons first rest ih =>
      intro n hx
      cases n with
      | zero =>
          have hfirst : first = x := Option.some.inj hx
          rw [List.set_cons_zero, List.flatMap_cons, List.flatMap_cons, h, hfirst,
            List.append_assoc, List.append_assoc]
          exact List.Perm.append_left _ List.perm_append_comm
      | succ n =>
          rw [List.set_cons_succ, List.flatMap_cons, List.flatMap_cons, List.append_assoc]
          exact List.Perm.append_left _ (ih n hx)

namespace Service

variable {number : Nat} {s s' s'' : Service} {told told' : List Observation}

/-- The entries of all replies that were sent, each on the counter of its method and status. -/
def ledger (s : Service) : List Counter :=
  s.exchanges.flatMap fun x => x.counter?.toList

/-- The entries of all exchanges but one. -/
def others (s : Service) (number : Nat) : List Counter :=
  (s.exchanges.eraseIdx number).flatMap fun x => x.counter?.toList

/-- The ledger is the entry of one exchange and those of the others. -/
theorem ledger_perm_others {x : Exchange} (hx : s.exchanges[number]? = some x) :
    s.ledger.Perm (x.counter?.toList ++ s.others number) := by
  rcases List.getElem?_eq_some_iff.mp hx with ⟨hlt, hget⟩
  have hperm := (List.getElem_cons_eraseIdx_perm hlt).flatMap_right fun x => x.counter?.toList
  rw [List.flatMap_cons, hget] at hperm
  exact hperm.symm

/-- What an operation adds to the ledger, and what it leaves of one exchange. -/
structure Books (number : Nat) (s s' : Service) (told : List Observation) : Prop where
  /-- It adds the entries that it counts. -/
  ledger : s'.ledger.Perm (s.ledger ++ requests told)
  /-- The exchange keeps its request and whoever waits for it. -/
  keeps : ∀ x, s.exchanges[number]? = some x →
    ∃ x', s'.exchanges[number]? = some x' ∧ Exchange.Keeps x x'
  /-- Shutdown is not taken back. -/
  closing : s.closing = true → s'.closing = true

theorem books_of_same (h : s'.exchanges = s.exchanges)
    (hclosing : s.closing = true → s'.closing = true) (silent : replies told = 0) :
    Books number s s' told := by
  refine ⟨?_, fun x hx => ⟨x, h ▸ hx, Exchange.keeps_refl x⟩, hclosing⟩
  rw [Telemetry.requests_of_silent silent, List.append_nil, Service.ledger, Service.ledger, h]

/-- Operations one after the other add what each of them counts. -/
theorem books_trans (h : Books number s s' told) (h' : Books number s' s'' told') :
    Books number s s'' (told ++ told') := by
  refine ⟨?_, fun x hx => ?_, h'.closing ∘ h.closing⟩
  · rw [Telemetry.requests_append, ← List.append_assoc]
    exact h'.ledger.trans (h.ledger.append_right _)
  · rcases h.keeps x hx with ⟨mid, hmid, hfirst⟩
    rcases h'.keeps mid hmid with ⟨x', hx', hsecond⟩
    exact ⟨x', hx', Exchange.keeps_trans hfirst hsecond⟩

/-- A message that tells of no reply may be told before. -/
theorem books_append_left (h : Books number s s' told') (silent : replies told = 0) :
    Books number s s' (told ++ told') :=
  books_trans (books_of_same rfl id silent) h

/-- An operation on one exchange adds the entry that it makes. -/
theorem books_onExchange (s : Service) (other : Nat) (act : Exchange → Outcome)
    (h : ∀ x, Exchange.Books x (act x).exchange (act x).told) :
    Books number s (s.onExchange other act).1 (s.onExchange other act).2.2 := by
  have hget := getElem?_onExchange s other act number
  constructor
  case ledger =>
      unfold onExchange
      cases hx : s.exchanges[other]? with
      | none => exact (List.append_nil s.ledger).symm ▸ List.Perm.refl _
      | some x => exact perm_flatMap_set _ _ x _ (h x).entry s.exchanges other hx
  case keeps =>
      intro x hx
      by_cases heq : number = other
      · rw [if_pos heq, ← heq, hx, Option.map_some] at hget
        exact ⟨(act x).exchange, heq ▸ hget, (h x).keeps⟩
      · rw [if_neg heq, hx] at hget
        exact ⟨x, hget, Exchange.keeps_refl x⟩
  case closing =>
      rcases onExchange_frame s other act with ⟨xs, hframe⟩
      rw [hframe]
      exact id

/-! ### The operations -/

theorem books_giveUp (s : Service) (other : Nat) :
    Books number s (s.giveUp other).1 (s.giveUp other).2 :=
  books_onExchange s other _ fun x => Exchange.books_release s.conditions x

theorem books_answer (s : Service) (other : Nat) (status : Http.Status) (body : ByteArray) :
    Books number s (s.answer other status body).1 (s.answer other status body).2 :=
  books_trans
    (books_onExchange s other _ fun x => Exchange.books_writeReply s.conditions status body x)
    (books_giveUp _ other)

theorem books_giveUpAll (jobs : List Job) :
    ∀ s : Service, Books number s (s.giveUpAll jobs).1 (s.giveUpAll jobs).2 := by
  induction jobs with
  | nil => exact fun s => books_of_same rfl id rfl
  | cons job rest ih => exact fun s => books_trans (books_giveUp s job.exchange) (ih _)

theorem books_release (s : Service) : Books number s s.release.1 s.release.2.2 := by
  have hemptied : Books number s { s with queue := { s.queue with items := [] } } [] :=
    books_of_same rfl id rfl
  exact books_trans hemptied (books_giveUpAll s.queue.items _)

theorem books_act (s : Service) (job : Job) (action : Action) :
    Books number s (s.act job action).1 (s.act job action).2.2 :=
  books_onExchange s job.exchange _ fun x =>
    Exchange.books_perform s.conditions job.subpath action x

theorem books_runJob (s : Service) (job : Job) :
    Books number s (s.runJob job).1 (s.runJob job).2.2 :=
  books_onExchange s job.exchange _ fun x =>
    Exchange.books_serve s.conditions job.subpath job.handler x

/-- A client that leaves makes no entry, and concerns its own exchange only. -/
theorem books_disconnect {other : Nat} (s : Service) (h : other ≠ number) :
    Books number s (s.disconnect other) [] := by
  have hget := getElem?_onExchange s other
    (fun x => { exchange := { x with slot := x.slot.leave } }) number
  rw [if_neg (Ne.symm h)] at hget
  refine ⟨?_, fun x hx => ⟨x, hget.trans hx, Exchange.keeps_refl x⟩, ?_⟩
  · unfold disconnect onExchange
    cases hx : s.exchanges[other]? with
    | none => exact (List.append_nil s.ledger).symm ▸ List.Perm.refl _
    | some x =>
        -- The reply stays where it is, so the entry does.
        have hsame : ({ x with slot := x.slot.leave } : Exchange).counter? = x.counter? := rfl
        have hentry : ({ x with slot := x.slot.leave } : Exchange).counter?.toList =
            x.counter?.toList ++ requests [] := by
          rw [hsame, Telemetry.requests_nil, List.append_nil]
        exact perm_flatMap_set (fun x => x.counter?.toList) _ x _ hentry s.exchanges other hx
  · rcases disconnect_frame s other with ⟨xs, hframe⟩
    rw [hframe]
    exact id

/-- A new exchange has no entry. -/
theorem ledger_openExchange (s : Service) (head : RequestHead) (body : ByteArray) :
    (s.openExchange head body).1.ledger = s.ledger := by
  simp only [ledger, openExchange, List.flatMap_append]
  exact List.append_nil _

theorem books_openExchange (s : Service) (head : RequestHead) (body : ByteArray) :
    Books number s (s.openExchange head body).1 [] := by
  refine ⟨?_, fun x hx => ⟨x, ?_, Exchange.keeps_refl x⟩, id⟩
  · rw [ledger_openExchange, Telemetry.requests_nil, List.append_nil]
  · have hlt := (List.getElem?_eq_some_iff.mp hx).1
    rw [getElem?_openExchange_lt s head body hlt]
    exact hx

end Service

end ControlPlane
