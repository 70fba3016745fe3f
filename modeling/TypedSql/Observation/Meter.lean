import TypedSql.Observation.Counters

/-!
# Meters

A meter delivers each event to the sink in force, or to its counters when there is none. A sink is
in force for the time of one computation; afterwards the one before it is in force again.
-/

namespace TypedSql

/-- The counters, the sink in force, and what each sink was given, in order. -/
structure Meter where
  counters : Counters := {}
  sink : Option Nat := none
  deliveries : Array (Nat × Event) := #[]
  deriving Inhabited

namespace Meter

/-- Deliver one event. -/
def record (m : Meter) (e : Event) : Meter :=
  match m.sink with
  | some s => { m with deliveries := m.deliveries.push (s, e) }
  | none => { m with counters := m.counters.record e }

def recordAll (m : Meter) (es : List Event) : Meter := es.foldl record m

/-- Set all counters to zero. -/
def reset (m : Meter) : Meter := { m with counters := {} }

/-- What a sink was given. -/
def received (m : Meter) (s : Nat) : List Event :=
  m.deliveries.toList.filterMap fun d => if d.1 = s then some d.2 else none

/-- Run a computation with the sink `s` in force. -/
def withSink {α : Type} (m : Meter) (s : Nat) (run : Meter → α × Meter) : α × Meter :=
  let (a, after) := run { m with sink := some s }
  (a, { after with sink := m.sink })

end Meter

end TypedSql
