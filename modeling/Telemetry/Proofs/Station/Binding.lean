import Telemetry.Proofs.Grouping
import Telemetry.Proofs.Station.Routing
import Telemetry.Proofs.Table

/-! What a binding leaves when it succeeds: a name that was free is taken, and an array or some
buffers are added at the end of the recorder. -/
namespace Telemetry

namespace Station
variable {station : Station} {port : String}

theorem claimName_free (free : station.widths.contains port = false) :
    claimName port station = ⟨station, .ok (), []⟩ := by
  rw [claimName, Action.read_then]
  simp [free]

theorem claimName_taken (taken : station.widths.contains port = true) :
    claimName port station = ⟨station, .error (.fault (.config (.publishedTwice port))), []⟩ := by
  rw [claimName, Action.read_then]
  simp [taken]

theorem claimName_then {α : Type} (free : station.widths.contains port = false)
    (next : Unit → Action Station α) : (claimName port >>= next) station = next () station := by
  rw [Action.bind_of_ok (congrArg Outcome.result (claimName_free free)), claimName_free free]
  rfl

theorem claimName_stops {α : Type} (taken : station.widths.contains port = true)
    (next : Unit → Action Station α) :
    (claimName port >>= next) station =
      ⟨station, .error (.fault (.config (.publishedTwice port))), []⟩ := by
  rw [Action.bind_of_error (congrArg Outcome.result (claimName_taken taken)), claimName_taken taken]

theorem publish_then {α : Type} (publication : Publication) (next : Option Nat → Action Station α) :
    (publish publication >>= next) station =
      next (station.directory station.published publication)
        { station with published := station.published ++ [publication] } := rfl

/-- A free name is published. It is taken from then on, unless the station insists on a peer that is
not there. -/
theorem resolveWidth_free {publication : Publication}
    (free : station.widths.contains publication.port = false) (fallback : Nat) :
    resolveWidth publication (some fallback) station =
      let published := station.published ++ [publication]
      match station.directory station.published publication, station.policy with
      | some width, _ =>
        ⟨{ station with widths := station.widths.insert publication.port (.connected width), published },
          .ok (.connected width), []⟩
      | none, .warn =>
        ⟨{ station with widths := station.widths.insert publication.port (.fallback fallback), published },
          .ok (.fallback fallback),
          [⟨.warn, s!"{publication.kind.label} port {publication.port} is not connected"⟩]⟩
      | none, .fail =>
        ⟨{ station with published }, .error (.fault (.unconnectedPort publication.port)), []⟩ := by
  rw [resolveWidth, claimName_then free]
  dsimp only
  rw [publish_then]
  cases station.directory station.published publication with
  | some width => rfl
  | none => cases station.policy <;> rfl

theorem resolveWidth_taken (publication : Publication)
    (taken : station.widths.contains publication.port = true) (fallback : Option Nat) :
    resolveWidth publication fallback station =
      ⟨station, .error (.fault (.config (.publishedTwice publication.port))), []⟩ := by
  unfold resolveWidth
  rw [claimName_stops taken]

theorem resolveWidth_unsized {publication : Publication}
    (free : station.widths.contains publication.port = false) :
    resolveWidth publication none station =
      ⟨station, .error (.fault (.config (.noFallbackWidth publication.port))), []⟩ := by
  rw [resolveWidth, claimName_then free]
  rfl

/-- The width of a port: that of its peer, or without one the fallback. -/
def widthFor (station : Station) (publication : Publication) (fallback : Nat) : PortWidth :=
  ((station.directory station.published publication).map .connected).getD (.fallback fallback)

theorem resolveWidth_success {publication : Publication} {fallback : Option Nat} {width : PortWidth}
    (ok : (resolveWidth publication fallback station).result = .ok width) :
    station.widths.contains publication.port = false ∧
      fallback.map (station.widthFor publication) = some width ∧
      ∃ published, (resolveWidth publication fallback station).state =
        { station with widths := station.widths.insert publication.port width, published } := by
  cases free : station.widths.contains publication.port with
  | true =>
    rw [resolveWidth_taken publication free] at ok
    cases ok
  | false =>
    cases fallback with
    | none =>
      rw [resolveWidth_unsized free] at ok
      cases ok
    | some fallback =>
      rw [resolveWidth_free free] at ok ⊢
      dsimp only [widthFor, Option.map_some] at ok ⊢
      cases peer : station.directory station.published publication with
      | some known =>
        simp only [peer] at ok ⊢
        obtain rfl := Except.ok.inj ok
        exact ⟨trivial, rfl, _, rfl⟩
      | none =>
        cases policy : station.policy with
        | warn =>
          simp only [peer, policy] at ok ⊢
          obtain rfl := Except.ok.inj ok
          exact ⟨trivial, rfl, _, rfl⟩
        | fail => simp [peer, policy] at ok

/-- An event output port is published in the same way, with the fallback zero. -/
theorem bindEventOutput_free (free : station.widths.contains port = false) (params : Params) :
    bindEventOutput port params station =
      let publication : Publication := ⟨port, .eventOutput, params⟩
      let published := station.published ++ [publication]
      match station.directory station.published publication, station.policy with
      | some width, _ =>
        ⟨{ station with widths := station.widths.insert port (.connected width), published },
          .ok { port, width, connected := true }, []⟩
      | none, .warn =>
        ⟨{ station with widths := station.widths.insert port (.fallback 0), published },
          .ok { port, width := 0, connected := false },
          [⟨.warn, s!"{PortKind.eventOutput.label} port {port} is not connected"⟩]⟩
      | none, .fail =>
        ⟨{ station with published }, .error (.fault (.unconnectedPort port)), []⟩ := by
  rw [bindEventOutput, claimName_then free, publish_then]
  dsimp only
  cases station.directory station.published ⟨port, .eventOutput, params⟩ with
  | some width => rfl
  | none => cases station.policy <;> rfl

theorem bindEventOutput_taken (taken : station.widths.contains port = true) (params : Params) :
    bindEventOutput port params station =
      ⟨station, .error (.fault (.config (.publishedTwice port))), []⟩ := by
  rw [bindEventOutput, claimName_stops taken]

theorem startValues_success {width : Nat} {initial : Option (List Binary64)} {values : List Binary64}
    (ok : (startValues port width initial station).result = .ok values) :
    (startValues port width initial station).state = station ∧ values.length = width ∧
      values = initial.getD (List.replicate width .zero) := by
  cases initial with
  | none =>
    obtain rfl : List.replicate width .zero = values := Except.ok.inj ok
    exact ⟨rfl, List.length_replicate, rfl⟩
  | some initial =>
    unfold startValues at ok ⊢
    by_cases fits : initial.length = width
    · simp only [fits, if_true] at ok ⊢
      obtain rfl : initial = values := Except.ok.inj ok
      exact ⟨rfl, fits, rfl⟩
    · simp [fits] at ok

theorem prepareContinuous_success {binding : ContinuousBinding} {kind : PortKind} {values : List Binary64}
    (ok : (prepareContinuous binding kind station).result = .ok values) :
    ∃ width published, station.widths.contains binding.port = false ∧
      binding.fallbackWidth.map (station.widthFor ⟨binding.port, kind, binding.params⟩) = some width ∧
      values.length = width.size ∧
      values = binding.initial.getD (List.replicate values.length .zero) ∧
      (prepareContinuous binding kind station).state =
        { station with widths := station.widths.insert binding.port width, published } := by
  unfold prepareContinuous at ok ⊢
  obtain ⟨width, resolved, started, final⟩ := Action.bind_success ok
  obtain ⟨free, settled, published, bound⟩ := resolveWidth_success resolved
  obtain ⟨kept, size, chosen⟩ := startValues_success started
  exact ⟨width, published, free, settled, size, size ▸ chosen, by rw [final, kept, bound]⟩

theorem bindContinuousInput_success {binding : ContinuousBinding} {buffers : List Nat}
    (ok : (bindContinuousInput binding station).result = .ok buffers) :
    ∃ width published values, station.widths.contains binding.port = false ∧
      binding.fallbackWidth.map (station.widthFor ⟨binding.port, .continuousInput, binding.params⟩) =
        some width ∧
      values.length = width.size ∧
      values = binding.initial.getD (List.replicate buffers.length .zero) ∧
      buffers = List.range' station.recorder.buffers.length values.length ∧
      (bindContinuousInput binding station).state =
        { station with
          recorder := (station.recorder.recordArray values).1
          widths := station.widths.insert binding.port width
          arrays := station.arrays.insert binding.port station.recorder.arrays.length
          published } := by
  unfold bindContinuousInput at ok ⊢
  obtain ⟨values, prepared, rest, final⟩ := Action.bind_success ok
  obtain ⟨width, published, free, settled, size, chosen, bound⟩ := prepareContinuous_success prepared
  rw [final, bound]
  rw [bound] at rest
  obtain rfl := Except.ok.inj rest
  refine ⟨width, published, values, free, settled, size, ?_, rfl, rfl⟩
  simpa [Recorder.recordArray, Recorder.fresh] using chosen

theorem bindContinuousOutput_success {binding : ContinuousBinding} {array : Nat}
    (ok : (bindContinuousOutput binding station).result = .ok array) :
    ∃ width published values, station.widths.contains binding.port = false ∧
      values.length = width.size ∧
      (bindContinuousOutput binding station).state =
        { station with
          recorder := (station.recorder.addArray values).1
          widths := station.widths.insert binding.port width
          arrays := station.arrays.insert binding.port station.recorder.arrays.length
          published } := by
  unfold bindContinuousOutput at ok ⊢
  obtain ⟨values, prepared, rest, final⟩ := Action.bind_success ok
  obtain ⟨width, published, free, -, size, -, bound⟩ := prepareContinuous_success prepared
  rw [final, bound]
  exact ⟨width, published, values, free, size, rfl⟩

theorem bindEventInput_success {binding : EventBinding} {buffers : List Nat}
    (ok : (bindEventInput binding station).result = .ok buffers) :
    ∃ width published, station.widths.contains binding.port = false ∧
      binding.fallbackWidth.map (station.widthFor ⟨binding.port, .eventInput, binding.params⟩) =
        some width ∧
      binding.grouping.bufferCount width.size = .ok buffers.length ∧
      buffers = List.range' station.recorder.buffers.length buffers.length ∧
      (bindEventInput binding station).state =
        { station with
          recorder := (station.recorder.recordEvents buffers.length).1
          widths := station.widths.insert binding.port width
          routes := station.routes.insert binding.port ⟨buffers, binding.grouping⟩
          published } := by
  unfold bindEventInput at ok ⊢
  by_cases zero : binding.grouping = .aggregate 0
  · simp [zero] at ok
  · simp only [zero, if_false] at ok ⊢
    obtain ⟨width, resolved, rest, final⟩ := Action.bind_success ok
    obtain ⟨free, sized, published, bound⟩ := resolveWidth_success resolved
    rw [bound] at rest final
    obtain ⟨count, settled, last, after⟩ := Action.bind_success rest
    have counted : binding.grouping.bufferCount width.size = .ok count := by
      rw [Grouping.bufferCount_eq zero] at settled ⊢
      exact congrArg _ (Except.ok.inj settled)
    rw [final, after, Action.settle_state]
    rw [Action.settle_state] at last
    obtain rfl := Except.ok.inj last
    exact ⟨width, published, free, sized, by simpa [Recorder.recordEvents, Recorder.fresh] using counted,
      by simp [Recorder.recordEvents, Recorder.fresh], by simp [Recorder.recordEvents, Recorder.fresh]⟩

/-- An event output port takes a name and nothing else. -/
theorem bindEventOutput_success {params : Params} {output : EventOutput}
    (ok : (bindEventOutput port params station).result = .ok output) :
    station.widths.contains port = false ∧ ∃ width published,
      (bindEventOutput port params station).state =
        { station with widths := station.widths.insert port width, published } := by
  cases free : station.widths.contains port with
  | true =>
    rw [bindEventOutput_taken free] at ok
    cases ok
  | false =>
    refine ⟨rfl, ?_⟩
    rw [bindEventOutput_free free] at ok ⊢
    dsimp only at ok ⊢
    split at ok
    · exact ⟨_, _, rfl⟩
    · exact ⟨_, _, rfl⟩
    · cases ok

namespace Follows
variable {names : List String} {routes : List (String × Route)} {ledger : Ledger}

theorem nothing {station : Station} (recorder : station.recorder = .singleStep)
    (arrays : station.arrays = .empty) (routes : station.routes = .empty) (ledger : Ledger) :
    station.Follows [] [] ledger where
  distinct := List.nodup_nil
  claimed := by simp
  places := by simp
  others := by simp [arrays]
  routed := by simp [routes]
  arrays := by rw [recorder]; rfl
  numbered := trivial
  ready := recorder ▸ Recorder.Ready.nothing

theorem fresh_of_free (follows : station.Follows names routes ledger)
    (free : station.widths.contains port = false) : port ∉ names ++ routes.map (·.1) := by
  intro member
  simp [follows.claimed port member] at free

theorem claimed_insert (follows : station.Follows names routes ledger) (width : PortWidth) :
    ∀ name, name = port ∨ name ∈ names ++ routes.map (·.1) →
      (station.widths.insert port width).contains name := by
  intro name known
  rw [Table.contains_iff_mem_keys, Table.mem_keys_insert]
  exact known.imp id fun old => (Table.contains_iff_mem_keys _ _).mp (follows.claimed name old)

theorem bindArray (follows : station.Follows names [] ledger)
    (free : station.widths.contains port = false) {next : Ledger}
    (kept : ∀ name ∈ names, next.values name = ledger.values name) (width : PortWidth)
    (published : List Publication) :
    { station with
      recorder := (station.recorder.recordArray (next.values port)).1
      widths := station.widths.insert port width
      arrays := station.arrays.insert port station.recorder.arrays.length
      published : Station }.Follows (names ++ [port]) [] next := by
  have fresh : port ∉ names := by simpa using follows.fresh_of_free free
  have count : station.recorder.arrays.length = names.length := by simp [follows.arrays]
  have same : names.map next.values = names.map ledger.values := List.map_congr_left kept
  exact
    { distinct := by
        have single : names.Nodup := by simpa using follows.distinct
        rw [List.map_nil, List.append_nil, ← List.concat_eq_append]
        exact List.Nodup.concat fresh single
      claimed := fun name known => follows.claimed_insert width name (by simpa [or_comm] using known)
      places := by
        intro place name there
        rw [Table.find?_insert]
        by_cases inside : place < names.length
        · rw [List.getElem?_append_left inside] at there
          have different : name ≠ port := fun same => fresh (same ▸ List.mem_of_getElem? there)
          rw [if_neg different]
          exact follows.places place name there
        · rw [List.getElem?_append_right (by omega)] at there
          obtain ⟨last, rfl⟩ := List.getElem?_eq_some_iff.mp there
          have only : place - names.length = 0 := by simpa using last
          simp only [only, List.getElem_cons_zero, if_true, count]
          exact congrArg some (by omega)
      others := by
        intro name absent
        simp only [List.mem_append, List.mem_singleton, not_or] at absent
        rw [Table.find?_insert, if_neg absent.2]
        exact follows.others name absent.1
      routed := follows.routed
      arrays := by simp [Recorder.recordArray, Recorder.addArray, follows.arrays, same]
      numbered := trivial
      ready := follows.ready.recordArray _ }

theorem bindBuffers (follows : station.Follows names routes ledger)
    (free : station.widths.contains port = false) {buffers : List Nat}
    (next : buffers = List.range' station.recorder.buffers.length buffers.length)
    (empty : ∀ slot, ledger.pending port slot = []) (grouping : Grouping) (width : PortWidth)
    (published : List Publication) :
    { station with
      recorder := (station.recorder.recordEvents buffers.length).1
      widths := station.widths.insert port width
      routes := station.routes.insert port ⟨buffers, grouping⟩
      published : Station }.Follows names (routes ++ [(port, ⟨buffers, grouping⟩)]) ledger := by
  have fresh := follows.fresh_of_free free
  have counted := follows.ready.length_buffers
  exact
    { distinct := by
        rw [List.map_append, List.map_singleton, ← List.append_assoc, ← List.concat_eq_append]
        exact List.Nodup.concat fresh follows.distinct
      claimed := fun name known => follows.claimed_insert width name (by
        simp only [List.map_append, List.mem_append, List.map_cons, List.map_nil,
          List.mem_singleton] at known ⊢
        grind)
      places := follows.places
      others := follows.others
      routed := by
        intro name
        rw [Table.find?_insert, List.find?_append, follows.routed]
        by_cases same : name = port
        · subst same
          have absent : routes.find? (·.1 = name) = none := by
            refine List.find?_eq_none.mpr fun entry member => ?_
            have known : entry.1 ∈ names ++ routes.map (·.1) :=
              List.mem_append_right _ (List.mem_map_of_mem member)
            simpa using fun equal : entry.1 = name => fresh (equal ▸ known)
          simp [absent]
        · simp [same, Ne.symm same]
      arrays := follows.arrays
      numbered := follows.numbered.append_singleton (by
        rw [← ledger.length_eventContents, ← counted]
        exact next)
      ready := by
        have grown := follows.ready.recordEvents buffers.length
        rw [← Ledger.trains_nothing empty] at grown
        simpa [Ledger.eventContents] using grown }

end Follows
end Station
end Telemetry
