import Telemetry.Proofs.Station.Binding

/-! What a refused binding leaves behind. Every check but one comes before the first change; the length
of the starting values is checked when the width of the port is settled already, and stays so. -/
namespace Telemetry.Station

/-- What can be asked of a station while its ports are bound. -/
inductive Request
  | continuousInput (binding : ContinuousBinding)
  | continuousOutput (binding : ContinuousBinding)
  | eventInput (binding : EventBinding)
  | eventOutput (port : String) (params : Params)

namespace Request

def port : Request → String
  | continuousInput binding | continuousOutput binding => binding.port
  | eventInput binding => binding.port
  | eventOutput port _ => port

def bind : Request → Action Station Unit
  | continuousInput binding => do let _ ← bindContinuousInput binding
  | continuousOutput binding => do let _ ← bindContinuousOutput binding
  | eventInput binding => do let _ ← bindEventInput binding
  | eventOutput port params => do let _ ← bindEventOutput port params

end Request

/-- Nothing that can be seen of the ports and buffers is different. -/
structure Kept (before after : Station) : Prop where
  names : after.portNames = before.portNames
  widths : ∀ port, after.width? port = before.width? port
  arrays : ∀ port, after.values? port = before.values? port
  routes : after.routes = before.routes
  buffers : after.recorder.buffers = before.recorder.buffers

/-- The starting values do not fit the width of the port. -/
def Misfit (failure : Failure) : Prop :=
  ∃ port length width, failure = .fault (.config (.initialLength port length width))

/-- What is left of a station that refused to bind a port. -/
inductive Refused (station : Station) (port : String) : Failure → Station → Prop
  | early {failure : Failure} (early : ¬Misfit failure) (published : List Publication) :
      Refused station port failure { station with published }
  | misfit (length : Nat) (settled : PortWidth) (published : List Publication)
      (misfits : length ≠ settled.size) (free : station.widths.contains port = false) :
      Refused station port (.fault (.config (.initialLength port length settled.size)))
        { station with widths := station.widths.insert port settled, published }

variable {station : Station} {port : String} {failure : Failure}

/-- A width that is not settled leaves no trace but the publication. -/
theorem resolveWidth_refused {publication : Publication} {fallback : Option Nat}
    (refused : (resolveWidth publication fallback station).result = .error failure) :
    Refused station publication.port failure (resolveWidth publication fallback station).state := by
  cases free : station.widths.contains publication.port with
  | true =>
    rw [resolveWidth_taken publication free] at refused ⊢
    obtain rfl := Except.error.inj refused
    exact .early (by simp [Misfit]) station.published
  | false =>
    cases fallback with
    | none =>
      rw [resolveWidth_unsized free] at refused ⊢
      obtain rfl := Except.error.inj refused
      exact .early (by simp [Misfit]) station.published
    | some fallback =>
      rw [resolveWidth_free free] at refused ⊢
      dsimp only at refused ⊢
      split at refused
      · cases refused
      · cases refused
      · obtain rfl := Except.error.inj refused
        exact .early (by simp [Misfit]) _

theorem startValues_refused {width : Nat} {initial : Option (List Binary64)}
    (refused : (startValues port width initial station).result = .error failure) :
    (startValues port width initial station).state = station ∧
      ∃ length, length ≠ width ∧ failure = .fault (.config (.initialLength port length width)) := by
  cases initial with
  | none => cases refused
  | some initial =>
    unfold startValues at refused ⊢
    by_cases fits : initial.length = width
    · simp [fits] at refused
    · simp only [fits, if_false, Action.refuse_run] at refused ⊢
      obtain rfl := Except.error.inj refused
      exact ⟨trivial, initial.length, fits, rfl⟩

theorem prepareContinuous_refused {binding : ContinuousBinding} {kind : PortKind}
    (refused : (prepareContinuous binding kind station).result = .error failure) :
    Refused station binding.port failure (prepareContinuous binding kind station).state := by
  unfold prepareContinuous at refused ⊢
  rcases Action.bind_failure refused with ⟨unsettled, final⟩ | ⟨settled, resolved, unfit, final⟩
  · rw [final]
    exact resolveWidth_refused unsettled
  · obtain ⟨free, -, published, bound⟩ := resolveWidth_success resolved
    obtain ⟨same, length, misfits, rfl⟩ := startValues_refused unfit
    rw [final, same, bound]
    exact .misfit length settled published misfits free

theorem bindContinuousInput_refused {binding : ContinuousBinding}
    (refused : (bindContinuousInput binding station).result = .error failure) :
    Refused station binding.port failure (bindContinuousInput binding station).state := by
  unfold bindContinuousInput at refused ⊢
  rcases Action.bind_failure refused with ⟨unprepared, final⟩ | ⟨values, -, impossible, -⟩
  · rw [final]
    exact prepareContinuous_refused unprepared
  · cases impossible

theorem bindContinuousOutput_refused {binding : ContinuousBinding}
    (refused : (bindContinuousOutput binding station).result = .error failure) :
    Refused station binding.port failure (bindContinuousOutput binding station).state := by
  unfold bindContinuousOutput at refused ⊢
  rcases Action.bind_failure refused with ⟨unprepared, final⟩ | ⟨values, -, impossible, -⟩
  · rw [final]
    exact prepareContinuous_refused unprepared
  · cases impossible

theorem bindEventInput_refused {binding : EventBinding}
    (refused : (bindEventInput binding station).result = .error failure) :
    Refused station binding.port failure (bindEventInput binding station).state := by
  unfold bindEventInput at refused ⊢
  by_cases zero : binding.grouping = .aggregate 0
  · simp only [zero, if_true, Action.refuse_then] at refused ⊢
    obtain rfl := Except.error.inj refused
    exact .early (by simp [Misfit]) station.published
  · simp only [zero, if_false] at refused ⊢
    rcases Action.bind_failure refused with ⟨unsettled, final⟩ | ⟨width, -, uncounted, -⟩
    · rw [final]
      exact resolveWidth_refused unsettled
    · -- The grouping was checked in front, so it has a number of buffers for every width.
      rw [Grouping.bufferCount_eq zero] at uncounted
      cases uncounted

theorem bindEventOutput_refused {params : Params}
    (refused : (bindEventOutput port params station).result = .error failure) :
    Refused station port failure (bindEventOutput port params station).state := by
  cases free : station.widths.contains port with
  | true =>
    rw [bindEventOutput_taken free] at refused ⊢
    obtain rfl := Except.error.inj refused
    exact .early (by simp [Misfit]) station.published
  | false =>
    rw [bindEventOutput_free free] at refused ⊢
    dsimp only at refused ⊢
    split at refused
    · cases refused
    · cases refused
    · obtain rfl := Except.error.inj refused
      exact .early (by simp [Misfit]) _

theorem discard_refused {α : Type} {action : Action Station α}
    (refused : ((do let _ ← action : Action Station Unit) station).result = .error failure) :
    (action station).result = .error failure ∧
      ((do let _ ← action : Action Station Unit) station).state = (action station).state := by
  rcases Action.bind_failure refused with ⟨stopped, final⟩ | ⟨answer, -, impossible, -⟩
  · exact ⟨stopped, final⟩
  · cases impossible

namespace Request
variable {request : Request}

theorem bind_refused (refused : (request.bind station).result = .error failure) :
    Refused station request.port failure (request.bind station).state := by
  cases request with
  | continuousInput binding =>
    obtain ⟨stopped, final⟩ := discard_refused refused
    exact final ▸ bindContinuousInput_refused stopped
  | continuousOutput binding =>
    obtain ⟨stopped, final⟩ := discard_refused refused
    exact final ▸ bindContinuousOutput_refused stopped
  | eventInput binding =>
    obtain ⟨stopped, final⟩ := discard_refused refused
    exact final ▸ bindEventInput_refused stopped
  | eventOutput port params =>
    obtain ⟨stopped, final⟩ := discard_refused refused
    exact final ▸ bindEventOutput_refused stopped

theorem free_of_bound (ok : (request.bind station).result = .ok ()) :
    station.widths.contains request.port = false := by
  cases request with
  | continuousInput binding =>
    obtain ⟨buffers, bound, -, -⟩ := Action.bind_success ok
    obtain ⟨width, published, values, free, -⟩ := bindContinuousInput_success bound
    exact free
  | continuousOutput binding =>
    obtain ⟨array, bound, -, -⟩ := Action.bind_success ok
    obtain ⟨width, published, values, free, -⟩ := bindContinuousOutput_success bound
    exact free
  | eventInput binding =>
    obtain ⟨buffers, bound, -, -⟩ := Action.bind_success ok
    obtain ⟨width, published, free, -⟩ := bindEventInput_success bound
    exact free
  | eventOutput port params =>
    obtain ⟨output, bound, -, -⟩ := Action.bind_success ok
    exact (bindEventOutput_success bound).1

end Request

/-- A request that is refused changes no array, no route and no buffer. It changes the port names and
widths exactly when the starting values do not fit: then the port stays listed under the width that
they do not fit, and no later request can bind it. -/
theorem refused_request_keeps {request : Request} {station : Station} {failure : Failure}
    (refused : (request.bind station).result = .error failure) :
    let after := (request.bind station).state
    (∀ port, after.values? port = station.values? port) ∧ after.routes = station.routes ∧
    after.recorder = station.recorder ∧
    (station.Kept after ↔ ¬Misfit failure) ∧
    ∀ port length width, failure = .fault (.config (.initialLength port length width)) →
      port = request.port ∧ length ≠ width ∧ station.width? port = none ∧
      (∃ settled : PortWidth, settled.size = width ∧
        after.widths = station.widths.insert port settled) ∧
      ∀ other : Request, other.port = port → (other.bind after).result ≠ .ok () := by
  have left := Request.bind_refused refused
  generalize (request.bind station).state = after at left
  cases left with
  | early early published =>
    refine ⟨fun _ => rfl, rfl, rfl, ⟨fun _ => early, fun _ => ⟨rfl, fun _ => rfl, fun _ => rfl, rfl, rfl⟩⟩, ?_⟩
    intro port length width misfit
    exact absurd ⟨port, length, width, misfit⟩ early
  | misfit length settled published misfits free =>
    have absent : station.width? request.port = none := by
      simpa [Table.contains, width?] using free
    refine ⟨fun _ => rfl, rfl, rfl, ⟨fun kept => ?_, fun early => absurd ⟨_, _, _, rfl⟩ early⟩, ?_⟩
    · have same := kept.widths request.port
      rw [absent, width?, Table.find?_insert, if_pos rfl] at same
      cases same
    · intro port size width misfit
      obtain ⟨rfl, rfl, rfl⟩ : request.port = port ∧ length = size ∧ settled.size = width := by
        simpa using misfit
      refine ⟨rfl, misfits, absent, ⟨settled, rfl, rfl⟩, ?_⟩
      intro other same bound
      have taken := Request.free_of_bound bound
      simp [Table.contains, same] at taken

/-- One starting value for two elements. -/
def unfit : Request :=
  .continuousOutput { port := "reward", fallbackWidth := some 2, initial := some [.one] }

def fresh : Station := .ofDirectory .unconnected .warn .singleStep

theorem unfit_keeps_width :
    (unfit.bind fresh).result = .error (.fault (.config (.initialLength "reward" 1 2))) ∧
      fresh.width? "reward" = none ∧ (unfit.bind fresh).state.portNames = ["reward"] ∧
      ∀ other : Request, other.port = "reward" → (other.bind (unfit.bind fresh).state).result ≠ .ok () := by
  have refused : (unfit.bind fresh).result = .error (.fault (.config (.initialLength "reward" 1 2))) :=
    rfl
  obtain ⟨-, -, -, -, misfit⟩ := refused_request_keeps refused
  obtain ⟨-, -, absent, ⟨settled, -, listed⟩, final⟩ := misfit "reward" 1 2 rfl
  exact ⟨refused, absent, congrArg Table.keys listed, final⟩

/-- A refusal need not leave the station as it was. -/
theorem refusal_registers :
    ¬∀ (request : Request) (directory : Directory) (policy : UnconnectedPolicy) (recorder : Recorder)
      (failure : Failure),
      (request.bind (.ofDirectory directory policy recorder)).result = .error failure →
        Kept (.ofDirectory directory policy recorder)
          (request.bind (.ofDirectory directory policy recorder)).state := by
  intro atomic
  have kept := atomic unfit .unconnected .warn .singleStep _ rfl
  exact absurd kept.names (by decide +kernel)

end Telemetry.Station
