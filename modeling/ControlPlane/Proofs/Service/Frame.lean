import ControlPlane.Proofs.WorkQueue.Effect
import ControlPlane.Service.Basic

/-!
# What an Operation on a Service Leaves Alone

Most operations on a service concern its exchanges and nothing else. Whoever
asks about the callback, the routes, the queue or the shutdown flag afterwards
should not have to know which exchange was touched and how, so each of these
operations gets one equation: the service afterwards is the service before with
other exchanges. All fields but that one can then be read off.

Screening belongs here too. It either answers the request or turns it into a job
for the queue, but putting the job there is a step of its own, and until then
the queue is as it was. `handle_admitted` puts the two steps together: a request
that passes all gates is routed by the service's own table and joins the
service's own queue, behind everything that waits there.

## Theorems

* `onExchange_frame`, `giveUp_frame`, `act_frame`, `disconnect_frame`,
  `answer_frame`, `giveUpAll_frame`, `screen_frame`: Only exchanges change.
* `callback_of_frame`, `queue_of_frame`, `conditions_of_frame`: So the callback, the
  queue and the conditions of replies stay.
* `release_frame`: Besides, the queue loses its contents.
* `unregister_frame`: Only the routes change.
* `screen_admitted`: A request that passes becomes a job and stays unanswered.
* `handle_admitted`: A request that passes joins the queue.
-/

namespace ControlPlane

namespace Service

theorem onExchange_frame (s : Service) (number : Nat) (act : Exchange → Outcome) :
    ∃ xs, (s.onExchange number act).1 = { s with exchanges := xs } := by
  unfold onExchange
  rcases hx : s.exchanges[number]? with _ | x
  · exact ⟨s.exchanges, rfl⟩
  · exact ⟨_, rfl⟩

theorem giveUp_frame (s : Service) (number : Nat) :
    ∃ xs, (s.giveUp number).1 = { s with exchanges := xs } :=
  onExchange_frame s number _

theorem act_frame (s : Service) (job : Job) (action : Action) :
    ∃ xs, (s.act job action).1 = { s with exchanges := xs } :=
  onExchange_frame s job.exchange _

theorem disconnect_frame (s : Service) (number : Nat) :
    ∃ xs, s.disconnect number = { s with exchanges := xs } :=
  onExchange_frame s number _

theorem callback_of_frame {s s' : Service} (h : ∃ xs, s' = { s with exchanges := xs }) :
    s'.callback = s.callback := by
  rcases h with ⟨xs, h⟩
  rw [h]

theorem queue_of_frame {s s' : Service} (h : ∃ xs, s' = { s with exchanges := xs }) :
    s'.queue = s.queue := by
  rcases h with ⟨xs, h⟩
  rw [h]

theorem conditions_of_frame {s s' : Service} (h : ∃ xs, s' = { s with exchanges := xs }) :
    s'.conditions = s.conditions := by
  rcases h with ⟨xs, h⟩
  rw [h]
  rfl

theorem answer_frame (s : Service) (number : Nat) (status : Http.Status) (body : ByteArray) :
    ∃ xs, (s.answer number status body).1 = { s with exchanges := xs } := by
  rcases onExchange_frame s number (fun x => x.writeReply s.conditions status body) with ⟨xs, hw⟩
  rcases giveUp_frame { s with exchanges := xs } number with ⟨ys, hg⟩
  refine ⟨ys, ?_⟩
  simp only [answer, hw, hg]

theorem giveUpAll_frame (s : Service) (jobs : List Job) :
    ∃ xs, (s.giveUpAll jobs).1 = { s with exchanges := xs } := by
  induction jobs generalizing s with
  | nil => exact ⟨s.exchanges, rfl⟩
  | cons job rest ih =>
      rcases giveUp_frame s job.exchange with ⟨xs, hg⟩
      rcases ih { s with exchanges := xs } with ⟨ys, hr⟩
      refine ⟨ys, ?_⟩
      simp only [giveUpAll, hg, hr]

/-- Removing a route changes the table only. Where there is none with the matcher,
    erasing it from the table does nothing. -/
theorem unregister_frame (s : Service) (m : Matcher) :
    (s.unregister m).1 = { s with routes := s.routes.unregister m } := by
  unfold unregister
  by_cases hm : s.routes.has m = true
  · rw [if_pos hm]
  · rw [if_neg hm]
    have hsame : s.routes.unregister m = s.routes := by
      have hnone : ∀ entry ∈ s.routes.entries, ¬ decide (entry.1 = m) = true := by
        intro entry hmem heq
        exact hm (List.any_eq_true.mpr ⟨entry, hmem, heq⟩)
      exact congrArg RouteTable.mk (List.eraseP_of_forall_not hnone)
    rw [hsame]

/-- Releasing empties the queue and changes exchanges. -/
theorem release_frame (s : Service) :
    ∃ xs, (s.release).1 = { s with queue := { s.queue with items := [] }, exchanges := xs } := by
  rcases giveUpAll_frame { s with queue := { s.queue with items := [] } } s.queue.items with ⟨xs, h⟩
  exact ⟨xs, h⟩

/-- Screening leaves the queue as it was. -/
theorem screen_frame (s : Service) (callback : Callback) (number : Nat) :
    ∃ xs, (s.screen callback number).1 = { s with exchanges := xs } := by
  unfold screen
  rcases hx : s.exchanges[number]? with _ | x
  · exact ⟨s.exchanges, rfl⟩
  · cases callback with
    | reject => exact answer_frame s number _ _
    | dispatch allow =>
        cases hv : Verdict.ofHead allow s.routes x.head with
        | admitted handler subpath =>
            simp only [hv]
            exact ⟨s.exchanges, rfl⟩
        | forbidden =>
            simp only [hv]
            exact answer_frame s number _ _
        | unknownMethod =>
            simp only [hv]
            exact answer_frame s number _ _
        | unrouted =>
            simp only [hv]
            exact answer_frame s number _ _

/-- A request that passes becomes a job with what the service's own table gave for
    it, and nothing else has happened yet. -/
theorem screen_admitted (s : Service) (allow : AllowList) (number : Nat) (x : Exchange)
    (handler : Handler) (subpath : String) (hx : s.exchanges[number]? = some x)
    (hv : Verdict.ofHead allow s.routes x.head = .admitted handler subpath) :
    (s.screen (.dispatch allow) number).1 = s ∧
      (s.screen (.dispatch allow) number).2.1 = some ⟨number, handler, subpath⟩ := by
  simp only [screen, hx, hv]
  exact ⟨trivial, trivial⟩

/-- A request that passes all gates is routed by the service's own table and joins
    the service's own queue. -/
theorem handle_admitted (s : Service) (allow : AllowList) (head : RequestHead) (body : ByteArray)
    (handler : Handler) (subpath : String) (hc : s.callback = .dispatch allow)
    (hv : Verdict.ofHead allow s.routes head = .admitted handler subpath)
    (hroom : s.queue.size < s.queue.depth) :
    ((s.openExchange head body).1.handle (s.openExchange head body).2).1.queue.items =
      s.queue.items ++ [⟨(s.openExchange head body).2, handler, subpath⟩] := by
  have hx : (s.openExchange head body).1.exchanges[(s.openExchange head body).2]? =
      some { head := head, body := body } := by
    simp only [openExchange, List.getElem?_concat_length]
  rcases screen_admitted (s.openExchange head body).1 allow _ _ handler subpath hx hv with
    ⟨hsame, hjob⟩
  have hc' : (s.openExchange head body).1.callback = .dispatch allow := hc
  have hroom' : (s.openExchange head body).1.queue.size < (s.openExchange head body).1.queue.depth :=
    hroom
  simp only [handle, hc', hsame, hjob, enqueue, WorkQueue.enqueue_eq, if_pos hroom']
  rfl

end Service

end ControlPlane
