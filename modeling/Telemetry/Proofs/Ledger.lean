import Telemetry.Station
import Telemetry.Proofs.Recorder
import Mathlib.Data.List.Basic
import Mathlib.Data.List.Nodup

/-! The ledger of a producer: the current values of its continuous ports, and the event times that
wait for the next tick. The event buffers hold what waits, one after the other. -/
namespace Telemetry

structure Ledger where
  /-- Current values of a continuous port. -/
  values : String → List Binary64
  /-- Times that were accepted for a slot of an event port since the last tick. -/
  pending : String → Nat → List Binary64

namespace Ledger

def write (port : String) (values : List Binary64) (ledger : Ledger) : Ledger :=
  { ledger with values := fun other => if other = port then values else ledger.values other }

def accept (port : String) (slot : Nat) (time : Binary64) (ledger : Ledger) : Ledger :=
  { ledger with
    pending := fun other place =>
      if other = port ∧ place = slot then ledger.pending port slot ++ [time]
      else ledger.pending other place }

def clear (ledger : Ledger) : Ledger := { ledger with pending := fun _ _ => [] }

def trains (ledger : Ledger) (port : String) (slots : Nat) : List Content :=
  (List.range slots).map fun slot => .ofTimes (ledger.pending port slot)

def eventContents (ledger : Ledger) (routes : List (String × Route)) : List Content :=
  routes.flatMap fun (port, route) => ledger.trains port route.buffers.length

@[simp] theorem length_trains (ledger : Ledger) (port : String) (slots : Nat) :
    (ledger.trains port slots).length = slots := by
  simp [trains]

theorem trains_nothing {ledger : Ledger} {port : String}
    (nothing : ∀ slot, ledger.pending port slot = []) (slots : Nat) :
    ledger.trains port slots = List.replicate slots (.ofTimes []) := by
  simp [trains, nothing, List.map_const']

theorem length_eventContents (ledger : Ledger) (routes : List (String × Route)) :
    (ledger.eventContents routes).length = (routes.flatMap (·.2.buffers)).length := by
  simp [eventContents, List.length_flatMap]

theorem trains_accept_other {port other : String} (different : other ≠ port) (ledger : Ledger)
    (slot : Nat) (time : Binary64) (slots : Nat) :
    (ledger.accept port slot time).trains other slots = ledger.trains other slots := by
  simp [trains, accept, different]

theorem trains_accept (ledger : Ledger) (port : String) (slot : Nat) (time : Binary64) (slots : Nat) :
    (ledger.accept port slot time).trains port slots =
      (ledger.trains port slots).set slot (.ofTimes (ledger.pending port slot ++ [time])) := by
  refine List.ext_getElem (by simp) ?_
  intro place _ _
  by_cases same : place = slot
  · simp [trains, accept, same]
  · simp [trains, accept, same, Ne.symm same]

theorem eventContents_accept_other {port : String} {routes : List (String × Route)}
    (absent : port ∉ routes.map (·.1)) (ledger : Ledger) (slot : Nat) (time : Binary64) :
    (ledger.accept port slot time).eventContents routes = ledger.eventContents routes := by
  induction routes with
  | nil => rfl
  | cons head routes ih =>
    simp only [List.map_cons, List.mem_cons, not_or] at absent
    obtain ⟨different, elsewhere⟩ := absent
    have kept := ih elsewhere
    simp only [eventContents, List.flatMap_cons] at kept ⊢
    rw [kept, trains_accept_other (Ne.symm different)]

theorem eventContents_clear (ledger : Ledger) (routes : List (String × Route)) :
    ledger.clear.eventContents routes = (ledger.eventContents routes).map Content.clear := by
  simp [eventContents, trains, clear, List.map_flatMap, Function.comp_def]

end Ledger

/-- The buffers of the routes are numbered through, from the given number on. -/
def Numbered : Nat → List (String × Route) → Prop
  | _, [] => True
  | first, (_, route) :: routes =>
    route.buffers = List.range' first route.buffers.length ∧
      Numbered (first + route.buffers.length) routes

theorem Numbered.append_singleton {first : Nat} {routes : List (String × Route)} {port : String}
    {route : Route} (numbered : Numbered first routes)
    (next : route.buffers = List.range' (first + (routes.flatMap (·.2.buffers)).length)
      route.buffers.length) :
    Numbered first (routes ++ [(port, route)]) := by
  induction routes generalizing first with
  | nil => exact ⟨by simpa using next, trivial⟩
  | cons head routes ih =>
    obtain ⟨here, later⟩ := numbered
    exact ⟨here, ih later (by simpa [Nat.add_assoc] using next)⟩

/-- An event goes to the end of the one buffer that holds what its slot has accepted. -/
theorem Numbered.accept {first : Nat} {routes : List (String × Route)} (numbered : Numbered first routes)
    (distinct : (routes.map (·.1)).Nodup) {port : String} {route : Route}
    (member : (port, route) ∈ routes) {slot buffer : Nat} (target : route.buffers[slot]? = some buffer)
    (ledger : Ledger) (time : Binary64) :
    ∃ place, buffer = first + place ∧
      (ledger.eventContents routes)[place]? = some (.ofTimes (ledger.pending port slot)) ∧
      (ledger.accept port slot time).eventContents routes =
        (ledger.eventContents routes).set place (.ofTimes (ledger.pending port slot ++ [time])) := by
  induction routes generalizing first with
  | nil => simp at member
  | cons head routes ih =>
    obtain ⟨name, own⟩ := head
    obtain ⟨here, later⟩ := numbered
    simp only [List.map_cons, List.nodup_cons] at distinct
    rcases List.mem_cons.mp member with same | elsewhere
    · obtain ⟨rfl, rfl⟩ := Prod.mk.inj same
      have bound : slot < route.buffers.length := (List.getElem?_eq_some_iff.mp target).1
      have place : buffer = first + slot := by
        rw [here] at target
        simpa [bound, eq_comm] using target
      have inside : slot < (ledger.trains port route.buffers.length).length := by simpa using bound
      refine ⟨slot, place, ?_, ?_⟩
      · rw [Ledger.eventContents, List.flatMap_cons, List.getElem?_append_left inside]
        simp [Ledger.trains, bound]
      · have kept := Ledger.eventContents_accept_other distinct.1 ledger slot time
        simp only [Ledger.eventContents, List.flatMap_cons] at kept ⊢
        rw [kept, Ledger.trains_accept, List.set_append_left _ _ inside]
    · have different : name ≠ port := by
        rintro rfl
        exact distinct.1 (List.mem_map_of_mem elsewhere)
      obtain ⟨place, rfl, found, grown⟩ := ih later distinct.2 elsewhere
      have before : (ledger.trains name own.buffers.length).length = own.buffers.length := by simp
      refine ⟨own.buffers.length + place, Nat.add_assoc .., ?_, ?_⟩
      · simp only [Ledger.eventContents, List.flatMap_cons]
        rw [List.getElem?_append_right (by omega), before, Nat.add_sub_cancel_left]
        exact found
      · simp only [Ledger.eventContents, List.flatMap_cons] at grown ⊢
        rw [grown, Ledger.trains_accept_other different, List.set_append_right _ _ (by omega), before,
          Nat.add_sub_cancel_left]

end Telemetry
