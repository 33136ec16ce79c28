import CloudDetector.Host

namespace CloudDetector

def Action.request? : Action → Option Http.Request
  | get request => some request
  | _ => none

def Action.delay? : Action → Option Delay
  | wait delay => some delay
  | _ => none

def Action.record? : Action → Option Log.Record
  | log record => some record
  | _ => none

/-- Exchanges and pauses are what takes time. -/
def Action.takesTime (a : Action) : Bool := a.request?.isSome || a.delay?.isSome

namespace Trace

/-- The requests that were sent, in order. -/
def requests (events : List Event) : List Http.Request := events.filterMap (·.action.request?)

def delays (events : List Event) : List Delay := events.filterMap (·.action.delay?)

def records (events : List Event) : List Log.Record := events.filterMap (·.action.record?)

/-- The order in which requests and pauses came. -/
def pace (events : List Event) : List Action :=
  (events.map Event.action).filter Action.takesTime

/-- What an operator sees who does not debug. -/
def loud (events : List Event) : List Log.Record :=
  (records events).filter (·.level ≠ .debug)

/-- How often something was done. -/
def times (a : Action) (events : List Event) : Nat := (events.map Event.action).count a

theorem requests_append (es es' : List Event) :
    requests (es ++ es') = requests es ++ requests es' := List.filterMap_append

theorem delays_append (es es' : List Event) : delays (es ++ es') = delays es ++ delays es' :=
  List.filterMap_append

theorem records_append (es es' : List Event) :
    records (es ++ es') = records es ++ records es' := List.filterMap_append

theorem pace_append (es es' : List Event) : pace (es ++ es') = pace es ++ pace es' := by
  simp only [pace, List.map_append, List.filter_append]

theorem loud_append (es es' : List Event) : loud (es ++ es') = loud es ++ loud es' := by
  simp only [loud, records_append, List.filter_append]

theorem times_append (a : Action) (es es' : List Event) :
    times a (es ++ es') = times a es + times a es' := by
  simp only [times, List.map_append, List.count_append]

theorem requests_flatMap {α : Type} (xs : List α) (f : α → List Event) :
    requests (xs.flatMap f) = xs.flatMap (fun x => requests (f x)) := List.filterMap_flatMap

theorem delays_flatMap {α : Type} (xs : List α) (f : α → List Event) :
    delays (xs.flatMap f) = xs.flatMap (fun x => delays (f x)) := List.filterMap_flatMap

theorem records_flatMap {α : Type} (xs : List α) (f : α → List Event) :
    records (xs.flatMap f) = xs.flatMap (fun x => records (f x)) := List.filterMap_flatMap

theorem pace_flatMap {α : Type} (xs : List α) (f : α → List Event) :
    pace (xs.flatMap f) = xs.flatMap (fun x => pace (f x)) := by
  simp only [pace, List.map_flatMap, List.filter_flatMap]

/-- Where each piece shows it equally often. -/
theorem times_flatMap {α : Type} {a : Action} {xs : List α} {f : α → List Event} {n : Nat}
    (h : ∀ x ∈ xs, times a (f x) = n) : times a (xs.flatMap f) = n * xs.length := by
  induction xs with
  | nil => rfl
  | cons x xs ih =>
    have hx := h x List.mem_cons_self
    have hxs := ih (fun y hy => h y (List.mem_cons_of_mem x hy))
    rw [List.flatMap_cons, times_append, hx, hxs, List.length_cons, Nat.mul_succ, Nat.add_comm]

/-- Records told one after another come back as they were. -/
theorem records_told (h : Host) (rs : List Log.Record) :
    records (rs.map (fun r => h.event (.log r))) = rs := by
  have hr : (fun r => (h.event (.log r)).action.record?) = some := rfl
  rw [records, List.filterMap_map]
  change rs.filterMap (fun r => (h.event (.log r)).action.record?) = rs
  rw [hr, List.filterMap_some]

theorem debug_told (host : Host) {rs : List Log.Record} (h : ∀ r ∈ rs, r.level ≠ .debug) :
    (records (rs.map (fun r => host.event (.log r)))).filter (·.level = .debug) = [] := by
  rw [records_told]
  simpa using h

theorem loud_told (host : Host) {rs : List Log.Record} (h : ∀ r ∈ rs, r.level ≠ .debug) :
    loud (rs.map (fun r => host.event (.log r))) = rs := by
  rw [loud, records_told]
  simpa using h

theorem requests_told (h : Host) (rs : List Log.Record) :
    requests (rs.map (fun r => h.event (.log r))) = [] := by
  simp [requests, Host.event, Action.request?, List.filterMap_map]

theorem delays_told (h : Host) (rs : List Log.Record) :
    delays (rs.map (fun r => h.event (.log r))) = [] := by
  simp [delays, Host.event, Action.delay?, List.filterMap_map]

theorem pace_told (h : Host) (rs : List Log.Record) :
    pace (rs.map (fun r => h.event (.log r))) = [] := by
  simp [pace, Host.event, Action.takesTime, Action.request?, Action.delay?]

theorem times_told {a : Action} (ha : a.record? = none) (h : Host) (rs : List Log.Record) :
    times a (rs.map (fun r => h.event (.log r))) = 0 := by
  apply List.count_eq_zero.mpr
  intro hm
  obtain ⟨e, he, rfl⟩ := List.mem_map.mp hm
  obtain ⟨r, _, rfl⟩ := List.mem_map.mp he
  cases ha

/-- Neither the handing out of a policy nor what is told sends anything. -/
theorem requests_between (h h' : Host) (es : List Event) (rs : List Log.Record) :
    requests (h.event .takePolicy :: es ++ rs.map (fun r => h'.event (.log r))) = requests es := by
  rw [requests_append, requests_told, List.append_nil]
  rfl

theorem delays_between (h h' : Host) (es : List Event) (rs : List Log.Record) :
    delays (h.event .takePolicy :: es ++ rs.map (fun r => h'.event (.log r))) = delays es := by
  rw [delays_append, delays_told, List.append_nil]
  rfl

theorem times_between {a : Action} (ha : a.record? = none) (h h' : Host) (es : List Event)
    (rs : List Log.Record) :
    times a (h.event .takePolicy :: es ++ rs.map (fun r => h'.event (.log r))) =
      times a [h.event .takePolicy] + times a es := by
  rw [times_append, times_told ha, Nat.add_zero, ← List.singleton_append, times_append]

end Trace

end CloudDetector
