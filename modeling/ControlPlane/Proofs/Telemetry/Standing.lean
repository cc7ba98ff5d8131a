import ControlPlane.Telemetry

/-!
# What a Gauge Shows

A gauge shows the value that it was set to last, and zero until it is set for the first time.
So what it shows after some operation depends on what the operation told about it: nothing, and
the gauge stands as before, or something, and the last value counts.

## Main definitions

* `settings`: The values that a gauge was set to.
* `standing`: The value that it shows.

## Theorems

* `standing_append_of_nil`: An operation that says nothing of a gauge leaves it standing.
* `standing_append_of_last`: Otherwise it shows what was said last.
-/

namespace ControlPlane

namespace Telemetry

variable {g : Gauge} {past told : List Observation} {value : Nat}

/-- The values that a gauge was set to, in order. -/
def settings (g : Gauge) (told : List Observation) : List Nat :=
  (gauges told).filterMap fun set => if set.1 = g then some set.2 else none

/-- The value that a gauge shows: the last that it was set to, and zero if there is none. -/
def standing (g : Gauge) (told : List Observation) : Nat :=
  (settings g told).getLast?.getD 0

theorem settings_append (g : Gauge) (past told : List Observation) :
    settings g (past ++ told) = settings g past ++ settings g told := by
  simp only [settings, gauges, List.filterMap_append]

theorem settings_set (g : Gauge) (value : Nat) (told : List Observation) :
    settings g (.set g value :: told) = value :: settings g told := by
  simp only [settings, gauges, List.filterMap_cons, if_true]

theorem standing_append_of_nil (h : settings g told = []) :
    standing g (past ++ told) = standing g past := by
  rw [standing, settings_append, h, List.append_nil, standing]

theorem standing_append_of_last (h : (settings g told).getLast? = some value) :
    standing g (past ++ told) = value := by
  rw [standing, settings_append, List.getLast?_append, h]
  rfl

end Telemetry

end ControlPlane
