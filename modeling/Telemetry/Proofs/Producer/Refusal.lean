import Telemetry.Proofs.Config
import Telemetry.Proofs.Wiring

/-! Setting up a producer from a valid configuration when the peers are known ahead of time. Every port
has a refusal or none, by its width and its name alone; the first refusal in the order of the ports is
the answer, and without one the producer is set up. -/
namespace Telemetry

theorem fresh_of_distinct {names more : List String} {name : String}
    (distinct : (names ++ name :: more).Nodup) : name ∉ names := fun old =>
  (List.nodup_cons.mp (List.nodup_middle.mp distinct)).1 (List.mem_append_left _ old)

/-- What is said about a port without a peer. -/
def UnconnectedPolicy.refusal (port : String) : UnconnectedPolicy → Option Fault
  | .warn => none
  | .fail => some (.unconnectedPort port)

/-- A peer must have one element for each key. The starting values meet the width of the peer first;
without them the keys do. -/
def ContinuousPort.refusal (widths : Table String Nat) (policy : UnconnectedPolicy) (port : String)
    (settings : ContinuousPort) : Option Fault :=
  match widths.find? port with
  | none => policy.refusal port
  | some width =>
    if width = settings.keys.length then none
    else
      match settings.initial with
      | some initial => some (.config (.initialLength port initial.length width))
      | none => some (.config (.keyCount settings.keys.length width))

/-- An event port takes a peer of any width, but not the name of another port. -/
def EventPort.refusal (widths : Table String Nat) (policy : UnconnectedPolicy) (bound : List String)
    (port : String) : Option Fault :=
  if port ∈ bound then some (.config (.publishedTwice port))
  else
    match widths.find? port with
    | none => policy.refusal port
    | some _ => none

/-- The first refusal, continuous ports in front. -/
def ProducerConfig.refusal (config : ProducerConfig) (widths : Table String Nat) : Option Fault :=
  (config.continuous.entries.findSome? fun entry =>
      entry.2.refusal widths config.unconnected entry.1).or
    (config.events.keys.findSome?
      (EventPort.refusal widths config.unconnected config.continuous.keys))

/-- The answer of an operation with this refusal or none. -/
def answerOf : Option Fault → Except Failure Unit
  | none => .ok ()
  | some fault => .error (.fault fault)

theorem EventPort.grouping_ne_zero {port : String} {settings : EventPort}
    (valid : settings.validate port = .ok ()) : settings.grouping ≠ .aggregate 0 := by
  obtain ⟨-, -, group⟩ := validate_iff.mp valid
  unfold grouping
  split
  · nofun
  · rename_i size chosen
    exact fun zero => group (by rw [chosen, Grouping.aggregate.inj zero])

section
variable {widths : Table String Nat} {policy : UnconnectedPolicy}

namespace Station
variable {station : Station} {port : String}

/-- The peers have these widths, and this is the policy about ports without one. -/
structure Peered (station : Station) (widths : Table String Nat) (policy : UnconnectedPolicy) : Prop where
  directory : station.directory = .ofWidths widths
  policy : station.policy = policy

theorem resolveWidth_peered (peered : station.Peered widths policy) (publication : Publication)
    (free : station.widths.contains publication.port = false) (fallback : Nat) :
    (resolveWidth publication (some fallback) station).result =
      match widths.find? publication.port with
      | some width => .ok (.connected width)
      | none => (answerOf (policy.refusal publication.port)).map fun _ => .fallback fallback := by
  have peer : station.directory station.published publication = widths.find? publication.port := by
    rw [peered.directory]
    rfl
  rw [resolveWidth_free free, peer, peered.policy]
  cases widths.find? publication.port with
  | some width => rfl
  | none => cases policy <;> rfl

/-- One buffer for each element, unless there are starting values of another length. -/
theorem bindContinuousInput_resolved (binding : ContinuousBinding) {width : PortWidth}
    (resolved : (resolveWidth ⟨binding.port, .continuousInput, binding.params⟩ binding.fallbackWidth
      station).result = .ok width)
    (fits : ∀ initial ∈ binding.initial, initial.length = width.size) :
    ∃ buffers, (bindContinuousInput binding station).result = .ok buffers ∧
      buffers.length = width.size := by
  have started : ∃ values, (startValues binding.port width.size binding.initial
      (resolveWidth ⟨binding.port, .continuousInput, binding.params⟩ binding.fallbackWidth
        station).state).result = .ok values := by
    cases chosen : binding.initial with
    | none => exact ⟨_, rfl⟩
    | some initial => exact ⟨initial, by simp [startValues, fits initial chosen]⟩
  obtain ⟨values, started⟩ := started
  obtain ⟨-, size, -⟩ := startValues_success started
  have prepared : (prepareContinuous binding .continuousInput station).result = .ok values := by
    unfold prepareContinuous
    rw [Action.bind_of_ok resolved]
    exact started
  unfold bindContinuousInput
  rw [Action.bind_of_ok prepared]
  exact ⟨_, rfl, by simp [Recorder.fresh, size]⟩

theorem bindContinuousInput_misfits (binding : ContinuousBinding) {width : PortWidth}
    (resolved : (resolveWidth ⟨binding.port, .continuousInput, binding.params⟩ binding.fallbackWidth
      station).result = .ok width) {initial : List Binary64} (given : binding.initial = some initial)
    (misfits : initial.length ≠ width.size) :
    (bindContinuousInput binding station).result =
      .error (.fault (.config (.initialLength binding.port initial.length width.size))) := by
  have unfit : (prepareContinuous binding .continuousInput station).result =
      .error (.fault (.config (.initialLength binding.port initial.length width.size))) := by
    unfold prepareContinuous
    rw [Action.bind_of_ok resolved]
    simp [startValues, given, misfits]
  unfold bindContinuousInput
  rw [Action.bind_of_error unfit]

/-- A port that is not refused gets one buffer for each of its keys. -/
theorem bindContinuousInput_answers (peered : station.Peered widths policy)
    (free : station.widths.contains port = false) {settings : ContinuousPort}
    (valid : settings.validate port = .ok ()) (welcome : settings.refusal widths policy port = none)
    (defaults : Params) :
    ∃ buffers,
      (bindContinuousInput (settings.binding port defaults) station).result = .ok buffers ∧
      buffers.length = settings.keys.length := by
  obtain ⟨-, -, fits⟩ := ContinuousPort.validate_iff.mp valid
  have resolved := resolveWidth_peered peered
    ⟨port, .continuousInput, defaults.merge settings.params⟩ free settings.keys.length
  unfold ContinuousPort.refusal at welcome
  cases found : widths.find? port with
  | none =>
    simp only [found] at welcome resolved
    rw [welcome] at resolved
    exact bindContinuousInput_resolved (settings.binding port defaults) resolved fits
  | some width =>
    simp only [found, ite_eq_left_iff] at welcome resolved
    obtain rfl : width = settings.keys.length := Decidable.of_not_not fun other => by
      have refused := welcome other
      split at refused <;> cases refused
    exact bindContinuousInput_resolved (settings.binding port defaults) resolved fits

/-- A width that no starting value meets is left to the keys. -/
theorem bindContinuousInput_refuses (peered : station.Peered widths policy)
    (free : station.widths.contains port = false) {settings : ContinuousPort}
    (valid : settings.validate port = .ok ()) {fault : Fault}
    (refusal : settings.refusal widths policy port = some fault) (defaults : Params) :
    let outcome := bindContinuousInput (settings.binding port defaults) station
    outcome.result = .error (.fault fault) ∨
      ∃ buffers, outcome.result = .ok buffers ∧ settings.keys.length ≠ buffers.length ∧
        fault = .config (.keyCount settings.keys.length buffers.length) := by
  obtain ⟨-, -, fits⟩ := ContinuousPort.validate_iff.mp valid
  have resolved := resolveWidth_peered peered
    ⟨port, .continuousInput, defaults.merge settings.params⟩ free settings.keys.length
  unfold ContinuousPort.refusal at refusal
  cases found : widths.find? port with
  | none =>
    simp only [found] at refusal resolved
    rw [refusal] at resolved
    left
    unfold bindContinuousInput prepareContinuous ContinuousPort.binding
    rw [Action.bind_of_error (by rw [Action.bind_of_error resolved])]
  | some width =>
    simp only [found] at refusal resolved
    by_cases whole : width = settings.keys.length
    · simp [whole] at refusal
    · rw [if_neg whole] at refusal
      cases chosen : settings.initial with
      | some initial =>
        rw [chosen] at refusal
        obtain rfl := Option.some.inj refusal
        have misfits : initial.length ≠ width := fun same => whole (same ▸ fits initial chosen)
        exact .inl (bindContinuousInput_misfits (settings.binding port defaults) resolved
          chosen misfits)
      | none =>
        rw [chosen] at refusal
        obtain rfl := Option.some.inj refusal
        obtain ⟨buffers, bound, rfl⟩ := bindContinuousInput_resolved
          (settings.binding port defaults) resolved (by simp [ContinuousPort.binding, chosen])
        exact .inr ⟨buffers, bound, Ne.symm whole, rfl⟩

theorem bindEventInput_answers (peered : station.Peered widths policy) {bound : List String}
    (known : ∀ name, station.widths.contains name = true ↔ name ∈ bound) {settings : EventPort}
    (valid : settings.validate port = .ok ()) (defaults : Params) :
    let outcome := bindEventInput (settings.binding port defaults) station
    match EventPort.refusal widths policy bound port with
    | none => ∃ buffers, outcome.result = .ok buffers
    | some fault => outcome.result = .error (.fault fault) := by
  have grouped := settings.grouping_ne_zero valid
  have answers : ∀ width, (resolveWidth ⟨port, .eventInput, defaults.merge settings.params⟩
      (some settings.keys) station).result = .ok width →
      ∃ buffers, (bindEventInput (settings.binding port defaults) station).result = .ok buffers := by
    intro width resolved
    have counted := Grouping.bufferCount_eq grouped width.size
    unfold bindEventInput EventPort.binding
    simp only [grouped, if_false]
    rw [Action.bind_of_ok resolved]
    simp only [counted]
    exact ⟨_, rfl⟩
  have refuses : ∀ failure, (resolveWidth ⟨port, .eventInput, defaults.merge settings.params⟩
      (some settings.keys) station).result = .error failure →
      (bindEventInput (settings.binding port defaults) station).result = .error failure := by
    intro failure unresolved
    unfold bindEventInput EventPort.binding
    simp only [grouped, if_false]
    rw [Action.bind_of_error unresolved]
  unfold EventPort.refusal
  by_cases taken : port ∈ bound
  · rw [if_pos taken]
    exact refuses _ (congrArg Outcome.result (resolveWidth_taken _ ((known port).mpr taken) _))
  · have free : station.widths.contains port = false :=
      Bool.eq_false_iff.mpr fun there => taken ((known port).mp there)
    have resolved := resolveWidth_peered peered
      ⟨port, .eventInput, defaults.merge settings.params⟩ free settings.keys
    rw [if_neg taken]
    cases found : widths.find? port with
    | some width =>
      simp only [found] at resolved
      exact answers _ resolved
    | none =>
      simp only [found] at resolved
      cases refusal : policy.refusal port with
      | none =>
        rw [refusal] at resolved
        exact answers _ resolved
      | some fault =>
        rw [refusal] at resolved
        exact refuses _ resolved

theorem Peered.bindContinuousInput (peered : station.Peered widths policy) {binding : ContinuousBinding}
    {buffers : List Nat} (bound : (bindContinuousInput binding station).result = .ok buffers) :
    (bindContinuousInput binding station).state.Peered widths policy ∧
      ∀ name, (bindContinuousInput binding station).state.widths.contains name = true ↔
        name = binding.port ∨ station.widths.contains name = true := by
  obtain ⟨width, published, values, -, -, -, -, -, after⟩ := bindContinuousInput_success bound
  rw [after]
  refine ⟨⟨peered.directory, peered.policy⟩, fun name => ?_⟩
  simp only [Table.contains_iff_mem_keys, Table.mem_keys_insert]

theorem Peered.bindEventInput (peered : station.Peered widths policy) {binding : EventBinding}
    {buffers : List Nat} (bound : (bindEventInput binding station).result = .ok buffers) :
    (bindEventInput binding station).state.Peered widths policy ∧
      ∀ name, (bindEventInput binding station).state.widths.contains name = true ↔
        name = binding.port ∨ station.widths.contains name = true := by
  obtain ⟨width, published, -, -, -, -, after⟩ := bindEventInput_success bound
  rw [after]
  refine ⟨⟨peered.directory, peered.policy⟩, fun name => ?_⟩
  simp only [Table.contains_iff_mem_keys, Table.mem_keys_insert]

end Station

namespace Wiring
variable {wiring : Wiring} {ports names : List String}

/-- Between two ports: these are bound, and these channel names are mapped. -/
structure Peered (wiring : Wiring) (widths : Table String Nat) (policy : UnconnectedPolicy)
    (ports names : List String) : Prop where
  station : wiring.station.Peered widths policy
  bound : ∀ port, wiring.station.widths.contains port = true ↔ port ∈ ports
  claimed : wiring.channels.claimed = names

theorem Peered.bindContinuous (peered : wiring.Peered widths policy ports names) {port : String}
    (fresh : port ∉ ports) {settings : ContinuousPort} (valid : settings.validate port = .ok ())
    (welcome : settings.refusal widths policy port = none)
    (distinct : (names ++ settings.keys).Nodup) (defaults : Params) :
    let first := onStation (Station.bindContinuousInput (settings.binding port defaults)) wiring
    ∃ buffers, first.result = .ok buffers ∧
      let second := onChannels (ChannelMap.mapContinuous settings.keys buffers) first.state
      second.result = .ok () ∧
        second.state.Peered widths policy (ports ++ [port]) (names ++ settings.keys) := by
  have free : wiring.station.widths.contains port = false :=
    Bool.eq_false_iff.mpr fun taken => fresh ((peered.bound port).mp taken)
  obtain ⟨buffers, bound, counted⟩ :=
    Station.bindContinuousInput_answers peered.station free valid welcome defaults
  obtain ⟨station, known⟩ := peered.station.bindContinuousInput bound
  rw [← peered.claimed] at distinct ⊢
  obtain ⟨-, apart, disjoint⟩ := List.nodup_append.mp distinct
  have mapped := ChannelMap.mapContinuous_free counted.symm apart fun key member old =>
    disjoint key old key member rfl
  refine ⟨buffers, bound, congrArg Outcome.result mapped, station, fun name => ?_,
    congrArg (·.state.claimed) mapped⟩
  rw [List.mem_append, List.mem_singleton, ← peered.bound name, or_comm]
  exact known name

theorem Peered.refuseContinuous (peered : wiring.Peered widths policy ports names) {port : String}
    (fresh : port ∉ ports) {settings : ContinuousPort} (valid : settings.validate port = .ok ())
    {fault : Fault} (refusal : settings.refusal widths policy port = some fault) (defaults : Params)
    (more : List (String × ContinuousPort)) :
    (wireContinuous defaults ((port, settings) :: more) wiring).result = .error (.fault fault) := by
  have free : wiring.station.widths.contains port = false :=
    Bool.eq_false_iff.mpr fun taken => fresh ((peered.bound port).mp taken)
  rw [wireContinuous]
  rcases Station.bindContinuousInput_refuses peered.station free valid refusal defaults with
    refused | ⟨buffers, bound, other, rfl⟩
  · have stopped : (onStation (Station.bindContinuousInput (settings.binding port defaults))
        wiring).result = .error (.fault fault) := refused
    rw [Action.bind_of_error stopped]
  · have passed : (onStation (Station.bindContinuousInput (settings.binding port defaults))
        wiring).result = .ok buffers := bound
    have miscounted := congrArg Outcome.result
      (ChannelMap.mapContinuous_miscounted other : _ = (⟨wiring.channels, _, _⟩ : Outcome _ _))
    have stopped : (onChannels (ChannelMap.mapContinuous settings.keys buffers)
        (onStation (Station.bindContinuousInput (settings.binding port defaults)) wiring).state).result =
          _ := miscounted
    rw [Action.bind_of_ok passed, Action.bind_of_error stopped]

theorem wireContinuous_answers (peered : wiring.Peered widths policy ports names) (defaults : Params)
    {more : List (String × ContinuousPort)} (valid : ∀ entry ∈ more, entry.2.validate entry.1 = .ok ())
    (apart : (ports ++ more.map (·.1)).Nodup) (distinct : (names ++ more.flatMap (·.2.keys)).Nodup) :
    let refusal := more.findSome? fun entry => entry.2.refusal widths policy entry.1
    (wireContinuous defaults more wiring).result = answerOf refusal ∧
      (refusal = none → (wireContinuous defaults more wiring).state.Peered widths policy
        (ports ++ more.map (·.1)) (names ++ more.flatMap (·.2.keys))) := by
  induction more generalizing wiring ports names with
  | nil =>
    simp only [List.map_nil, List.flatMap_nil, List.append_nil]
    exact ⟨rfl, fun _ => peered⟩
  | cons entry more ih =>
    obtain ⟨port, settings⟩ := entry
    obtain ⟨own, others⟩ := List.forall_mem_cons.mp valid
    simp only [List.map_cons, List.flatMap_cons, List.findSome?_cons] at apart distinct ⊢
    have fresh := fresh_of_distinct apart
    cases refusal : settings.refusal widths policy port with
    | some fault => exact ⟨peered.refuseContinuous fresh own refusal defaults more, nofun⟩
    | none =>
      rw [List.append_cons] at apart ⊢
      rw [← List.append_assoc] at distinct ⊢
      obtain ⟨buffers, bound, mapped, next⟩ :=
        peered.bindContinuous fresh own refusal (List.nodup_append.mp distinct).1 defaults
      rw [wireContinuous, Action.bind_of_ok bound, Action.bind_of_ok mapped]
      exact ih next others apart distinct

theorem Peered.bindEvents (peered : wiring.Peered widths policy ports names) {port : String}
    {settings : EventPort} {buffers : List Nat} {defaults : Params}
    (bound : (Station.bindEventInput (settings.binding port defaults) wiring.station).result =
      .ok buffers) (free : port ∉ names) :
    let first := onStation (Station.bindEventInput (settings.binding port defaults)) wiring
    let second := onChannels (ChannelMap.mapEvents port buffers) first.state
    second.result = .ok () ∧ second.state.Peered widths policy (ports ++ [port]) (names ++ [port]) := by
  obtain ⟨station, known⟩ := peered.station.bindEventInput bound
  rw [← peered.claimed] at free ⊢
  have mapped := ChannelMap.mapEvents_free free buffers
  refine ⟨congrArg Outcome.result mapped, station, fun name => ?_, congrArg (·.state.claimed) mapped⟩
  rw [List.mem_append, List.mem_singleton, ← peered.bound name, or_comm]
  exact known name

theorem wireEvents_answers (peered : wiring.Peered widths policy ports names) (defaults : Params)
    {more : List (String × EventPort)} (valid : ∀ entry ∈ more, entry.2.validate entry.1 = .ok ())
    (distinct : (names ++ more.map (·.1)).Nodup) :
    (wireEvents defaults more wiring).result =
      answerOf ((more.map (·.1)).findSome? (EventPort.refusal widths policy ports)) := by
  induction more generalizing wiring ports names with
  | nil => rfl
  | cons entry more ih =>
    obtain ⟨port, settings⟩ := entry
    obtain ⟨own, others⟩ := List.forall_mem_cons.mp valid
    have answers := Station.bindEventInput_answers peered.station peered.bound own defaults
    simp only [List.map_cons, List.findSome?_cons] at distinct ⊢
    cases refusal : EventPort.refusal widths policy ports port with
    | some fault =>
      rw [refusal] at answers
      have stopped : (onStation (Station.bindEventInput (settings.binding port defaults))
          wiring).result = .error (.fault fault) := answers
      rw [wireEvents, Action.bind_of_error stopped]
      rfl
    | none =>
      rw [refusal] at answers
      obtain ⟨buffers, bound⟩ := answers
      have passed : (onStation (Station.bindEventInput (settings.binding port defaults))
          wiring).result = .ok buffers := bound
      obtain ⟨mapped, next⟩ := peered.bindEvents bound (fresh_of_distinct distinct)
      -- The port is bound now, but no later one has its name.
      have unchanged : ∀ name ∈ more.map (·.1), EventPort.refusal widths policy (ports ++ [port]) name =
          EventPort.refusal widths policy ports name := by
        intro name member
        have different : name ≠ port := by
          rintro rfl
          exact (List.nodup_cons.mp (List.nodup_append.mp distinct).2.1).1 member
        simp [EventPort.refusal, different]
      rw [List.append_cons] at distinct
      rw [wireEvents, Action.bind_of_ok passed, Action.bind_of_ok mapped]
      dsimp only
      rw [ih next others distinct, ← List.head?_filterMap, List.filterMap_congr unchanged,
        List.head?_filterMap]

end Wiring
end

namespace Producer
variable {config : ProducerConfig} {widths : Table String Nat}

theorem unwired_peered (config : ProducerConfig) (widths : Table String Nat) :
    (unwired config (.ofWidths widths)).Peered widths config.unconnected [] [] where
  station := ⟨rfl, rfl⟩
  bound _ := by simp [unwired, Station.ofDirectory, Table.contains_iff_mem_keys]
  claimed := rfl

theorem wire_result (valid : config.validate = .ok ()) (widths : Table String Nat) :
    (Wiring.wire config (unwired config (.ofWidths widths))).result =
      answerOf (config.refusal widths) := by
  obtain ⟨-, continuous, events⟩ := config.validate_parts valid
  have names : (config.continuous.entries.flatMap (·.2.keys) ++ config.events.keys).Nodup := by
    have all := config.channelNames_nodup valid
    rwa [ProducerConfig.channelNames, Table.values, List.flatMap_map] at all
  obtain ⟨wired, peered⟩ := Wiring.wireContinuous_answers (unwired_peered config widths)
    config.continuousDefaults continuous config.continuous.keys_nodup (List.nodup_append.mp names).1
  unfold ProducerConfig.refusal
  cases refusal : config.continuous.entries.findSome? fun entry =>
      entry.2.refusal widths config.unconnected entry.1 with
  | some fault =>
    rw [refusal] at wired
    rw [Wiring.wire, Action.bind_of_error wired]
    rfl
  | none =>
    rw [refusal] at wired
    rw [Wiring.wire, Action.bind_of_ok wired]
    exact Wiring.wireEvents_answers (peered refusal) config.eventDefaults events names

/-- Setting up a producer from a valid configuration answers the first refusal, whatever it publishes
on; without one there is a producer. -/
theorem ofConfig_answers (valid : config.validate = .ok ()) (widths : Table String Nat) (sink : Sink) :
    (ofConfig config sink (unwired config (.ofWidths widths))).result.map (fun _ => ()) =
      answerOf (config.refusal widths) := by
  have wired := wire_result valid widths
  obtain ⟨⟨codec, chosen⟩, -⟩ := config.validate_parts valid
  have opening : (Action.log .info "Opening buffered ports..."
      (unwired config (.ofWidths widths))).result = .ok () := rfl
  simp only [ofConfig, valid, chosen, Except.mapError, Action.settle_ok_then]
  rw [Action.bind_of_ok opening, Action.log_run]
  cases refusal : config.refusal widths with
  | none =>
    rw [refusal] at wired
    dsimp only
    rw [Action.bind_of_ok wired]
    rfl
  | some fault =>
    rw [refusal] at wired
    dsimp only
    rw [Action.bind_of_error wired]
    rfl

end Producer
end Telemetry
