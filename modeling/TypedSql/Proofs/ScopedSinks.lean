import TypedSql.Observation.Meter

/-!
# Scoped sinks

A sink is in force for the time of a block, and blocks stand inside each other and one after the
other.  A meter only keeps the sink in force, and nothing of the blocks around it.  Still a run
delivers each event once, to the sink of the innermost block around it, or to the counters if there
is no block (`Script.run_eq_deliverAll`), and leaves the sink in force that it has found.
-/

namespace TypedSql

/-! ## Delivering by address -/

/-- An event, and the sink that it goes to, or none if it is to be counted. -/
structure Route where
  sink : Option Nat
  event : Event

namespace Route

/-- The events that go to one place, in order. -/
def eventsTo (sink : Option Nat) (rs : List Route) : List Event :=
  (rs.filter (·.sink = sink)).map (·.event)

theorem eventsTo_cons (sink : Option Nat) (r : Route) (rs : List Route) :
    eventsTo sink (r :: rs) = (if r.sink = sink then [r.event] else []) ++ eventsTo sink rs := by
  unfold eventsTo
  rw [List.filter_cons]
  by_cases h : r.sink = sink <;> simp [h]

theorem eventsTo_eq_nil {sink : Option Nat} {rs : List Route} (h : ∀ r ∈ rs, r.sink ≠ sink) :
    eventsTo sink rs = [] := by
  simpa [eventsTo] using h

end Route

namespace Meter

/-- Deliver an event where it goes, whichever sink is in force. -/
def deliver (m : Meter) (r : Route) : Meter :=
  match r.sink with
  | some s => { m with deliveries := m.deliveries.push (s, r.event) }
  | none => { m with counters := m.counters.record r.event }

def deliverAll (m : Meter) (rs : List Route) : Meter := rs.foldl deliver m

variable (m : Meter)

theorem deliverAll_cons (r : Route) (rs : List Route) :
    m.deliverAll (r :: rs) = (m.deliver r).deliverAll rs := rfl

theorem deliverAll_append (rs rs' : List Route) :
    m.deliverAll (rs ++ rs') = (m.deliverAll rs).deliverAll rs' :=
  List.foldl_append

theorem sink_deliver (r : Route) : (m.deliver r).sink = m.sink := by
  unfold deliver
  split <;> rfl

theorem sink_deliverAll (rs : List Route) : (m.deliverAll rs).sink = m.sink := by
  induction rs generalizing m with
  | nil => rfl
  | cons r rs ih => rw [deliverAll_cons, ih, sink_deliver]

theorem deliver_withSink (sink : Option Nat) (r : Route) :
    { m with sink := sink }.deliver r = { m.deliver r with sink := sink } := by
  unfold deliver
  split <;> rfl

/-- The sink in force has no part in what is delivered by address. -/
theorem deliverAll_withSink (sink : Option Nat) (rs : List Route) :
    { m with sink := sink }.deliverAll rs = { m.deliverAll rs with sink := sink } := by
  induction rs generalizing m with
  | nil => rfl
  | cons r rs ih => rw [deliverAll_cons, deliver_withSink, ih, deliverAll_cons]

theorem received_deliver (s : Nat) (r : Route) :
    (m.deliver r).received s = m.received s ++ if r.sink = some s then [r.event] else [] := by
  obtain ⟨_ | s', e⟩ := r
  · simp [deliver, received]
  · by_cases h : s' = s <;> simp [deliver, received, h]

theorem received_deliverAll (s : Nat) (rs : List Route) :
    (m.deliverAll rs).received s = m.received s ++ Route.eventsTo (some s) rs := by
  induction rs generalizing m with
  | nil => exact (List.append_nil _).symm
  | cons r rs ih =>
    rw [deliverAll_cons, ih, received_deliver, Route.eventsTo_cons, List.append_assoc]

theorem counters_deliver (r : Route) :
    (m.deliver r).counters =
      (if r.sink = none then [r.event] else []).foldl Counters.record m.counters := by
  obtain ⟨_ | s, e⟩ := r <;> rfl

theorem counters_deliverAll (rs : List Route) :
    (m.deliverAll rs).counters =
      (Route.eventsTo none rs).foldl Counters.record m.counters := by
  induction rs generalizing m with
  | nil => rfl
  | cons r rs ih =>
    rw [deliverAll_cons, ih, counters_deliver, Route.eventsTo_cons, List.foldl_append]

end Meter

/-! ## Scripts -/

/-- Events and blocks, inside each other and one after the other. -/
inductive Script where
  | nothing
  | event (e : Event)
  /-- The sink is in force for the time of the body. -/
  | block (sink : Nat) (body : Script)
  | andThen (first second : Script)

/-- An event in a script, and the sinks of the blocks around it, the innermost first. -/
structure Occurrence where
  event : Event
  sinks : List Nat

namespace Occurrence

/-- The occurrence with one more block around everything. -/
def inBlock (o : Occurrence) (sink : Nat) : Occurrence := { o with sinks := o.sinks ++ [sink] }

/-- The event goes to the sink of the innermost block around it.  If there is no block, it goes
where events go outside. -/
def route (outside : Option Nat) (o : Occurrence) : Route := ⟨o.sinks.head?.or outside, o.event⟩

theorem route_inBlock (outside : Option Nat) (sink : Nat) (o : Occurrence) :
    (o.inBlock sink).route outside = o.route (some sink) := by
  obtain ⟨e, _ | ⟨s, ss⟩⟩ := o <;> rfl

theorem sink_route_ne_none (sink : Nat) (o : Occurrence) : (o.route (some sink)).sink ≠ none := by
  simp [route]

end Occurrence

namespace Script

/-- What a script does to a meter. -/
def run : Script → Meter → Meter
  | nothing, m => m
  | event e, m => m.record e
  | block s body, m => (m.withSink s fun inside => ((), body.run inside)).2
  | andThen first second, m => second.run (first.run m)

/-- The events of a script from first to last. -/
def occurrences : Script → List Occurrence
  | nothing => []
  | event e => [⟨e, []⟩]
  | block s body => body.occurrences.map (·.inBlock s)
  | andThen first second => first.occurrences ++ second.occurrences

/-- Where the events of a script go. -/
def routes (p : Script) (outside : Option Nat) : List Route :=
  p.occurrences.map (·.route outside)

theorem routes_block (s : Nat) (body : Script) (outside : Option Nat) :
    (block s body).routes outside = body.routes (some s) := by
  rw [routes, occurrences, List.map_map]
  exact List.map_congr_left fun o _ => o.route_inBlock outside s

theorem routes_andThen (first second : Script) (outside : Option Nat) :
    (andThen first second).routes outside = first.routes outside ++ second.routes outside :=
  List.map_append

theorem run_block (s : Nat) (body : Script) (m : Meter) :
    (block s body).run m = { body.run { m with sink := some s } with sink := m.sink } := rfl

/-- A run delivers each event of the script once, in order, by its address. -/
theorem run_eq_deliverAll (p : Script) (m : Meter) : p.run m = m.deliverAll (p.routes m.sink) := by
  induction p generalizing m with
  | nothing => rfl
  | event e => rfl
  | block s body ih =>
    -- inside, the sink of the block is in force; what it does not change is put back behind it
    rw [run_block, ih, Meter.deliverAll_withSink, routes_block, ← m.sink_deliverAll]
  | andThen first second ihFirst ihSecond =>
    rw [run, ihSecond, ihFirst, Meter.sink_deliverAll, routes_andThen, Meter.deliverAll_append]

theorem sink_run (p : Script) (m : Meter) : (p.run m).sink = m.sink := by
  rw [run_eq_deliverAll, Meter.sink_deliverAll]

theorem counters_run_block (s : Nat) (body : Script) (m : Meter) :
    ((block s body).run m).counters = m.counters := by
  have hnone : Route.eventsTo none ((block s body).routes m.sink) = [] := by
    refine Route.eventsTo_eq_nil fun r hr => ?_
    rw [routes_block] at hr
    obtain ⟨o, -, rfl⟩ := List.mem_map.1 hr
    exact o.sink_route_ne_none s
  rw [run_eq_deliverAll, Meter.counters_deliverAll, hnone, List.foldl_nil]

/-- A block in a block of the same sink makes no difference. -/
theorem run_block_block (s : Nat) (body : Script) (m : Meter) :
    (block s (block s body)).run m = (block s body).run m := by
  rw [run_eq_deliverAll, run_eq_deliverAll, routes_block, routes_block, routes_block]

/-- A run delivers each event once, to the sink of the innermost block around it, or where events
went before, which is to the counters if no sink was in force.  So a sink is given, and the counters
count, exactly the events on the way to them, in their order.  A block leaves the counters as they
are, and the sink in force is the one before it, also if it was that of the block. -/
theorem delivered_to_innermost (p : Script) (m : Meter) :
    p.run m = m.deliverAll (p.routes m.sink) ∧
    (p.run m).sink = m.sink ∧
    (∀ s, (p.run m).received s = m.received s ++ Route.eventsTo (some s) (p.routes m.sink)) ∧
    (p.run m).counters =
      (Route.eventsTo none (p.routes m.sink)).foldl Counters.record m.counters ∧
    ∀ s, ((block s p).run m).counters = m.counters ∧ ((block s p).run m).sink = m.sink ∧
      (block s (block s p)).run m = (block s p).run m := by
  have hrun := p.run_eq_deliverAll m
  refine ⟨hrun, p.sink_run m, fun s => ?_, ?_, fun s => ?_⟩
  · rw [hrun, Meter.received_deliverAll]
  · rw [hrun, Meter.counters_deliverAll]
  · exact ⟨counters_run_block s p m, sink_run _ m, run_block_block s p m⟩

end Script

end TypedSql
