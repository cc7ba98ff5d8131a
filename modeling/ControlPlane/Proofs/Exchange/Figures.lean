import ControlPlane.Exchange

/-!
# Figures

Of what an operation tells, the figures are the counters that grow and the gauges that are
set. The events beside them say more: whether a reply still found somebody, and what it
looked like, if it was dumped. Sending a reply comes to the same figure in any case, and
whatever is known of figures is known of the counters and the gauges among them.

## Main definitions

* `Telemetry.figures`: What is told besides events.

## Theorems

* `counters_figures`, `gauges_figures`: Counters and gauges are figures.
* `figures_send`: Sending a reply counts it and nothing else.
-/

namespace ControlPlane

namespace Telemetry

/-- What is told besides events: the counters that grow and the gauges that are set. -/
def figures (told : List Observation) : List Observation :=
  told.filter fun
    | .event _ => false
    | _ => true

@[simp] theorem figures_nil : figures [] = [] := rfl

@[simp] theorem figures_append (first others : List Observation) :
    figures (first ++ others) = figures first ++ figures others :=
  List.filter_append first others

@[simp] theorem figures_log (level : Level) (source : Source) (message : String)
    (fields : List (String × String)) (others : List Observation) :
    figures (log level source message fields :: others) = figures others := rfl

@[simp] theorem figures_count (c : Counter) (others : List Observation) :
    figures (.count c :: others) = .count c :: figures others := rfl

@[simp] theorem figures_set (g : Gauge) (value : Nat) (others : List Observation) :
    figures (.set g value :: others) = .set g value :: figures others := rfl

/-- The counters are among the figures. -/
theorem counters_figures (told : List Observation) : counters (figures told) = counters told := by
  rw [counters, figures, List.filterMap_filter, counters]
  congr
  funext o
  cases o <;> rfl

/-- And so are the gauges. -/
theorem gauges_figures (told : List Observation) : gauges (figures told) = gauges told := by
  rw [gauges, figures, List.filterMap_filter, gauges]
  congr
  funext o
  cases o <;> rfl

end Telemetry

namespace Exchange

open Telemetry (figures)

/-- A reply is counted, whether it reaches the other side or not and whether it is dumped or
    not. -/
theorem figures_send (c : Conditions) (status : Http.Status) (body : ByteArray) (x : Exchange) :
    figures (x.send c status body).2 = [.count (.requests x.head.method status)] := by
  have hdump : figures (if c.dumps then [Dump.reply x.head.peer (x.replyWith c status body)]
      else []) = [] := by
    cases c.dumps <;> rfl
  have hlost : figures (if (x.slot.fire (x.replyWith c status body)).2 then [] else
      [Telemetry.log .debug .request "Connection closed before reply could be sent" x.identity]) =
      [] := by
    cases (x.slot.fire (x.replyWith c status body)).2 <;> rfl
  have htold : (x.send c status body).2 =
      (if c.dumps then [Dump.reply x.head.peer (x.replyWith c status body)] else []) ++
        [.count (.requests x.head.method status)] ++
        (if (x.slot.fire (x.replyWith c status body)).2 then [] else
          [Telemetry.log .debug .request "Connection closed before reply could be sent"
            x.identity]) := rfl
  simp only [htold, Telemetry.figures_append, hdump, hlost, Telemetry.figures_count,
    Telemetry.figures_nil, List.nil_append, List.append_nil]

end Exchange

end ControlPlane
