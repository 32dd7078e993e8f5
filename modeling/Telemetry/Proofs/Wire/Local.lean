import Telemetry.Proofs.Wire.Node

/-! Local readers: what such a reader answers rests on the tokens it took from the front, and is the
same in front of any others. Nodes are read in this way, and none that is broken or without meaning
is ever taken, so a payload that was cut off is not read as something shorter. -/
namespace Telemetry.Wire

section
variable {τ ε α β : Type} {barred : τ → Prop}

/-- An answer rests on the tokens that were taken for it, and none of these is barred. -/
def Local (barred : τ → Prop) (read : List τ → Except ε (α × List τ)) : Prop :=
  ∀ tokens a rest, read tokens = .ok (a, rest) →
    ∃ taken, tokens = taken ++ rest ∧ (∀ token ∈ taken, ¬barred token) ∧
      ∀ other, read (taken ++ other) = .ok (a, other)

namespace Local

theorem pure (a : α) :
    Local barred (fun tokens => .ok (a, tokens) : List τ → Except ε (α × List τ)) := by
  intro tokens b rest ok
  cases ok
  exact ⟨[], rfl, nofun, fun _ => rfl⟩

theorem fail (fault : List τ → ε) :
    Local barred fun tokens => (.error (fault tokens) : Except ε (α × List τ)) :=
  fun _ _ _ ok => nomatch ok

theorem settled (answer : Except ε α) :
    Local barred (fun tokens : List τ => answer.map (·, tokens)) := by
  cases answer with
  | error fault => exact fail fun _ => fault
  | ok a => exact pure a

theorem bind {first : List τ → Except ε (β × List τ)} {next : β → List τ → Except ε (α × List τ)}
    (one : Local barred first) (other : ∀ b, Local barred (next b)) :
    Local barred fun tokens => first tokens >>= fun read => next read.1 read.2 := by
  intro tokens a rest ok
  cases begun : first tokens with
  | error fault => simp [begun, Bind.bind, Except.bind] at ok
  | ok read =>
    obtain ⟨b, middle⟩ := read
    simp only [begun, Bind.bind, Except.bind] at ok
    obtain ⟨front, rfl, clean, again⟩ := one _ _ _ begun
    obtain ⟨back, rfl, spotless, more⟩ := other b _ _ _ ok
    refine ⟨front ++ back, (List.append_assoc ..).symm, ?_, fun others => ?_⟩
    · intro token member
      exact (List.mem_append.mp member).elim (clean token) (spotless token)
    · simp only [List.append_assoc, again, Bind.bind, Except.bind]
      exact more others

/-- The first token decides how the others are read. -/
theorem cons {read : List τ → Except ε (α × List τ)} (nothing : ∀ answer, read [] ≠ .ok answer)
    (stops : ∀ token, barred token → ∀ tokens answer, read (token :: tokens) ≠ .ok answer)
    (goes : ∀ token, Local barred fun tokens => read (token :: tokens)) : Local barred read := by
  intro tokens a rest ok
  cases tokens with
  | nil => exact absurd ok (nothing _)
  | cons token tokens =>
    obtain ⟨taken, rfl, clean, again⟩ := goes token _ _ _ ok
    refine ⟨token :: taken, rfl, List.forall_mem_cons.mpr ⟨fun bars => ?_, clean⟩, again⟩
    exact stops token bars _ _ ok

end Local

/-- A front of two parts is cut off inside the first one or holds all of it. -/
theorem front_split {front left right : List τ} (inside : front <+: left ++ right) :
    (front <+: left ∧ front ≠ left) ∨ ∃ more, front = left ++ more ∧ more <+: right := by
  rcases List.prefix_or_prefix_of_prefix inside (List.prefix_append left right) with within | ⟨more, rfl⟩
  · by_cases whole : front = left
    · exact .inr ⟨[], by rw [whole, List.append_nil], List.nil_prefix⟩
    · exact .inl ⟨within, whole⟩
  · exact .inr ⟨more, rfl, (List.prefix_append_right_inj left).mp inside⟩

/-- A front of two parts ends in the first one or reaches into the other. -/
theorem front_cases {front left right : List τ} (inside : front <+: left ++ right) :
    front <+: left ∨ ∃ more, more ≠ [] ∧ front = left ++ more ∧ more <+: right := by
  rcases front_split inside with ⟨within, -⟩ | ⟨more, rfl, further⟩
  · exact .inl within
  · cases more with
    | nil =>
      rw [List.append_nil]
      exact .inl List.prefix_rfl
    | cons token more => exact .inr ⟨token :: more, List.cons_ne_nil _ _, rfl, further⟩

end

namespace Reader
variable {α β : Type} {read : Reader α} {first : Reader α} {second : Reader β} {surplus : Bool}

/-- A fault, or a value without meaning. -/
def Barred (node : Node) : Prop := ∃ flaw, node = .broken flaw ∨ node = .other flaw

theorem number_local : Local Barred number := by
  refine Local.cons nofun ?_ fun node => ?_
  · rintro node ⟨flaw, rfl | rfl⟩ <;> exact nofun
  · have single : (fun nodes => number (node :: nodes)) = fun nodes => node.number.map (·, nodes) := by
      funext nodes
      exact Reads.number node nodes
    rw [single]
    exact Local.settled _

theorem index_local : Local Barred index := by
  refine Local.cons nofun ?_ fun node => ?_
  · rintro node ⟨flaw, rfl | rfl⟩ <;> exact nofun
  · cases node with
    | integer n =>
      by_cases fits : 0 ≤ n ∧ n < UInt64.size
      · simp only [index, if_pos fits]
        exact Local.pure _
      · simp only [index, if_neg fits]
        exact Local.fail _
    | _ => exact Local.fail _

theorem text_local : Local Barred text := by
  refine Local.cons nofun ?_ fun node => ?_
  · rintro node ⟨flaw, rfl | rfl⟩ <;> exact nofun
  · cases node with
    | text s => exact Local.pure s
    | bytes b =>
      simp only [text]
      cases b.toText? with
      | none => exact Local.fail _
      | some s => exact Local.pure s
    | _ => exact Local.fail _

theorem times_local (element : Local Barred read) (n : Nat) : Local Barred (times read n) := by
  induction n with
  | zero => exact Local.pure []
  | succ n ih => exact element.bind fun a => ih.bind fun rest => Local.pure (a :: rest)

theorem list_local (element : Local Barred read) : Local Barred (list read) := by
  refine Local.cons nofun ?_ fun node => ?_
  · rintro node ⟨flaw, rfl | rfl⟩ <;> exact nofun
  · cases node with
    | array n => exact times_local element n
    | bytes b =>
      simp only [list]
      cases times read b.length (ofBytes b) with
      | error fault => exact Local.fail _
      | ok answer => exact Local.pure answer.1
    | _ => exact Local.fail _

theorem pairOf_local (one : Local Barred first) (other : Local Barred second) (n : Nat) :
    Local Barred (pairOf surplus first second n) := by
  match n with
  | 0 => exact Local.fail fun _ => DecodeFault.length 0 .pair
  | 1 => exact one.bind fun _ => Local.fail fun _ => DecodeFault.length 1 .pair
  | n + 2 =>
    have eq : pairOf surplus first second (n + 2) = fun nodes => first nodes >>= fun a =>
        second a.2 >>= fun b => if 2 < n + 2 && !surplus then
          .error (.malformed "array had incorrect length, expected 2") else .ok ((a.1, b.1), b.2) := rfl
    have last (a : α) (b : β) : Local Barred fun nodes : List Node => if 2 < n + 2 && !surplus then
        .error (DecodeFault.malformed "array had incorrect length, expected 2")
        else .ok ((a, b), nodes) := by
      cases decide (2 < n + 2) && !surplus with
      | true => exact Local.fail _
      | false => exact Local.pure (a, b)
    rw [eq]
    exact one.bind fun a => other.bind fun b => last a b

theorem pair_local (one : Local Barred first) (other : Local Barred second) :
    Local Barred (pair surplus first second) := by
  refine Local.cons nofun ?_ fun node => ?_
  · rintro node ⟨flaw, rfl | rfl⟩ <;> exact nofun
  · cases node with
    | array n => exact pairOf_local one other n
    | bytes b =>
      simp only [pair]
      cases pairOf true first second b.length (ofBytes b) with
      | error fault => exact Local.fail _
      | ok answer => exact Local.pure answer.1
    | _ => exact Local.fail _

theorem sample_local : Local Barred (sample surplus) :=
  (pair_local number_local number_local).bind fun read => Local.pure (⟨read.1, read.2⟩ : Sample)

theorem continuousSection_local : Local Barred (continuousSection surplus) :=
  list_local (pair_local text_local (list_local sample_local))

theorem eventSection_local : Local Barred (eventSection surplus) :=
  list_local (pair_local text_local (list_local (pair_local index_local (list_local number_local))))

theorem deltaOf_local (allowance : Allowance) (n : Nat) : Local Barred (deltaOf allowance n) := by
  match n with
  | 0 => exact Local.fail fun _ => DecodeFault.length 0 .delta
  | 1 => exact number_local.bind fun _ => Local.fail fun _ => DecodeFault.length 1 .delta
  | 2 =>
    exact number_local.bind fun time => continuousSection_local.bind fun continuous =>
      Local.pure (⟨time, continuous, none⟩ : Delta)
  | 3 =>
    exact number_local.bind fun time => continuousSection_local.bind fun continuous =>
      eventSection_local.bind fun events => Local.pure (⟨time, continuous, some events⟩ : Delta)
  | n + 4 =>
    have eq : deltaOf allowance (n + 4) = fun nodes => number nodes >>= fun time =>
        continuousSection allowance.surplus time.2 >>= fun continuous =>
          eventSection allowance.surplus continuous.2 >>= fun events =>
            skip allowance.depth [1] events.2 >>= fun _ => .error (.length 4 .delta) := rfl
    have last : Local Barred fun nodes => skip allowance.depth [1] nodes >>= fun _ =>
        (.error (.length 4 .delta) : Except DecodeFault (Delta × List Node)) := by
      intro nodes delta rest ok
      cases skipped : skip allowance.depth [1] nodes with
      | error fault => simp [skipped, bind, Except.bind] at ok
      | ok read => simp [skipped, bind, Except.bind] at ok
    rw [eq]
    exact number_local.bind fun _ => continuousSection_local.bind fun _ =>
      eventSection_local.bind fun _ => last

theorem delta_local (allowance : Allowance) : Local Barred (delta allowance) := by
  refine Local.cons nofun ?_ fun node => ?_
  · rintro node ⟨flaw, rfl | rfl⟩ <;> exact nofun
  · cases node with
    | array n => exact deltaOf_local allowance n
    | bytes b =>
      simp only [delta]
      cases deltaOf allowance b.length (ofBytes b) with
      | error fault => exact Local.fail _
      | ok answer => exact Local.pure answer.1
    | _ => exact Local.fail _

end Reader
end Telemetry.Wire
