import Telemetry.Proofs.Action
import Telemetry.Schedule
import Mathlib.Algebra.GroupWithZero.Nat
import Mathlib.Data.List.Chain
import Mathlib.Data.List.Range

/-! The pace of periodic tasks. When a task runs depends on its interval and on the clock readings since
it was added, and on nothing else. Between two runs more than the interval passes, so time bounds their
number, and no tick that comes later than that leaves the task out. -/
namespace Telemetry
variable {κ : Type}

namespace Task
variable {task : Task κ} {now : Nat} {times : List Nat}

/-- What a tick makes of a task. -/
def tick (now : Nat) (task : Task κ) : Task κ := if task.isDue now then task.ran now else task

def elapse (readings : List Nat) (task : Task κ) : Task κ :=
  readings.foldl (fun task now => task.tick now) task

/-- The clock readings, and on which of them a task runs with such an interval and such a last run. -/
def firings (interval : Nat) : Nat → List Nat → List (Nat × Bool)
  | _, [] => []
  | last, now :: readings =>
    if interval < now - last then (now, true) :: firings interval now readings
    else (now, false) :: firings interval last readings

theorem tick_due (due : task.isDue now = true) : task.tick now = task.ran now := if_pos due

theorem tick_idle (idle : task.isDue now = false) : task.tick now = task := by
  rw [tick, idle]
  rfl

theorem isDue_iff : task.isDue now = true ↔ task.lastRun + task.interval < now := by
  rw [isDue, decide_eq_true_iff]
  omega

theorem tick_fixed (now : Nat) (task : Task κ) :
    (task.tick now).name = task.name ∧ (task.tick now).job = task.job ∧
      (task.tick now).interval = task.interval := by
  cases due : task.isDue now with
  | true => rw [tick_due due]; exact ⟨rfl, rfl, rfl⟩
  | false => rw [tick_idle due]; exact ⟨rfl, rfl, rfl⟩

theorem elapse_fixed (readings : List Nat) (task : Task κ) :
    (task.elapse readings).name = task.name ∧ (task.elapse readings).job = task.job ∧
      (task.elapse readings).interval = task.interval := by
  induction readings generalizing task with
  | nil => exact ⟨rfl, rfl, rfl⟩
  | cons now readings ih =>
    obtain ⟨name, job, interval⟩ := task.tick_fixed now
    obtain ⟨names, jobs, intervals⟩ := ih (task.tick now)
    exact ⟨names.trans name, jobs.trans job, intervals.trans interval⟩

theorem firings_cons (task : Task κ) (now : Nat) (readings : List Nat) :
    firings task.interval task.lastRun (now :: readings) =
      (now, task.isDue now) :: firings (task.tick now).interval (task.tick now).lastRun readings := by
  rw [firings]
  split
  · rename_i late
    have due : task.isDue now = true := decide_eq_true late
    rw [tick_due due, due]
    rfl
  · rename_i early
    have idle : task.isDue now = false := decide_eq_false early
    rw [tick_idle idle, idle]

/-- The task ran at these times, each of them more than the interval after the one before; the first is
counted from 0. -/
structure Paced (task : Task κ) (times : List Nat) : Prop where
  counted : task.runs = times.length
  last : task.lastRun = times.getLast?.getD 0
  spaced : (0 :: times).IsChain fun earlier later => earlier + task.interval < later

theorem Paced.run (paced : task.Paced times) (due : task.isDue now = true) :
    (task.ran now).Paced (times ++ [now]) where
  counted := by simp [ran, paced.counted]
  last := by simp [ran]
  spaced := by
    have late := isDue_iff.mp due
    rw [paced.last] at late
    -- What stands before the new run is the last one, or the 0 when there is none.
    rw [← List.cons_append, List.isChain_append]
    refine ⟨paced.spaced, .singleton now, ?_⟩
    intro before final next first
    obtain rfl : now = next := by simpa using first
    rw [List.getLast?_cons] at final
    obtain rfl := Option.some.inj final
    exact late

theorem Paced.tick (paced : task.Paced times) (now : Nat) :
    (task.tick now).Paced (times ++ if task.isDue now then [now] else []) := by
  cases due : task.isDue now with
  | true =>
    rw [tick_due due]
    exact paced.run due
  | false =>
    rw [tick_idle due, if_neg Bool.false_ne_true, List.append_nil]
    exact paced

theorem Paced.elapse (paced : task.Paced times) (readings : List Nat) :
    (task.elapse readings).Paced
      (times ++ ((firings task.interval task.lastRun readings).filter (·.2)).map (·.1)) := by
  induction readings generalizing task times with
  | nil =>
    rw [firings, List.filter_nil, List.map_nil, List.append_nil]
    exact paced
  | cons now readings ih =>
    have later := ih (paced.tick now)
    rw [firings_cons, List.filter_cons]
    rw [List.append_assoc] at later
    cases due : task.isDue now with
    | true =>
      rw [due] at later
      exact later
    | false =>
      rw [due] at later
      exact later

/-- Every run takes more than an interval of the time that is left. -/
theorem spaced_count {interval start : Nat} {times : List Nat}
    (spaced : (start :: times).IsChain fun earlier later => earlier + interval < later) (bound : Nat) :
    start + times.countP (· ≤ bound) * (interval + 1) ≤ max start bound := by
  -- The start moves on to each run; once it is past the bound, no further run counts.
  induction times generalizing start with
  | nil =>
    rw [List.countP_nil, Nat.zero_mul, Nat.add_zero]
    exact Nat.le_max_left start bound
  | cons time times ih =>
    obtain ⟨apart, others⟩ := List.isChain_cons_cons.mp spaced
    have rest := ih others
    by_cases within : time ≤ bound
    · rw [Nat.max_eq_right within] at rest
      rw [List.countP_cons_of_pos (by simpa using within), Nat.add_mul]
      omega
    · rw [Nat.max_eq_left (by omega)] at rest
      rw [List.countP_cons_of_neg (by simpa using within)]
      omega

theorem Paced.runs_le (paced : task.Paced times) (bound : Nat) :
    times.countP (· ≤ bound) ≤ bound / (task.interval + 1) := by
  have spent := spaced_count paced.spaced bound
  rw [Nat.zero_add, Nat.max_eq_right (Nat.zero_le _)] at spent
  exact (Nat.le_div_iff_mul_le (Nat.succ_pos _)).mpr spent

end Task

namespace Schedule

/-- What is done to a schedule: a task is added, or the clock ticks. -/
inductive Call (κ : Type)
  | add (name : String) (job : κ) (interval : Nat)
  | tick (now : Nat)
  deriving DecidableEq, Repr

def Call.after : Call κ → Schedule κ → Schedule κ
  | add name job interval, schedule => (Schedule.add name job interval schedule).state
  | tick now, schedule => schedule.tick now

def after (calls : List (Call κ)) (schedule : Schedule κ) : Schedule κ :=
  calls.foldl (fun schedule call => call.after schedule) schedule

/-- A tick, with the schedule that it found. -/
structure Round (κ : Type) where
  schedule : Schedule κ
  now : Nat

/-- The tasks that the tick runs, in the order in which it runs them. -/
def Round.due (round : Round κ) : List (Task κ) := round.schedule.due round.now

def Round.runs (index : Nat) (round : Round κ) : Bool :=
  (round.schedule[index]?).any (·.isDue round.now)

def rounds : List (Call κ) → Schedule κ → List (Round κ)
  | [], _ => []
  | .add name job interval :: calls, schedule =>
    rounds calls (Call.after (.add name job interval) schedule)
  | .tick now :: calls, schedule => ⟨schedule, now⟩ :: rounds calls (schedule.tick now)

/-- The clock readings of the ticks. -/
def readings (calls : List (Call κ)) : List Nat :=
  calls.filterMap fun
    | .add .. => none
    | .tick now => some now

/-- The readings at which a task ran. -/
def runTimes (index : Nat) (rounds : List (Round κ)) : List Nat :=
  (rounds.filter (·.runs index)).map (·.now)

variable {schedule : Schedule κ} {calls : List (Call κ)} {index : Nat} {task : Task κ}

theorem tick_getElem? (now : Nat) (schedule : Schedule κ) (index : Nat) :
    (schedule.tick now)[index]? = schedule[index]?.map (Task.tick now) := List.getElem?_map

theorem after_add (name : String) (job : κ) (interval : Nat) (schedule : Schedule κ) :
    Call.after (.add name job interval) schedule = schedule ++ [⟨name, job, interval, 0, 0⟩] := rfl

theorem after_append (calls more : List (Call κ)) (schedule : Schedule κ) :
    after (calls ++ more) schedule = after more (after calls schedule) := List.foldl_append

theorem rounds_append (calls more : List (Call κ)) (schedule : Schedule κ) :
    rounds (calls ++ more) schedule = rounds calls schedule ++ rounds more (after calls schedule) := by
  induction calls generalizing schedule with
  | nil => rfl
  | cons call calls ih =>
    cases call with
    | add name job interval => exact ih _
    | tick now => exact congrArg (_ :: ·) (ih _)

/-- A tick runs the tasks at some increasing indices, so each at most once and in the order in which they
were added. -/
theorem due_in_order (round : Round κ) :
    ∃ indices : List Nat, indices.Pairwise (· < ·) ∧ (∀ index, index ∈ indices ↔ round.runs index) ∧
      round.due.map some = indices.map (round.schedule[·]?) := by
  have numbered : round.schedule.map some =
      (List.range round.schedule.length).map (round.schedule[·]?) := by
    refine List.ext_getElem (by simp) fun index _ _ => ?_
    simp
  refine ⟨(List.range round.schedule.length).filter round.runs, ?_, ?_, ?_⟩
  · exact List.pairwise_lt_range.filter _
  · intro index
    rw [List.mem_filter, List.mem_range, and_iff_right_iff_imp]
    intro ran
    obtain ⟨task, found, -⟩ := (Option.any_eq_true _ _).mp ran
    exact (List.getElem?_eq_some_iff.mp found).1
  · have parts := congrArg (List.filter (Option.any (·.isDue round.now))) numbered
    rw [List.filter_map, List.filter_map] at parts
    exact parts

theorem sum_runs_tick (schedule : Schedule κ) (now : Nat) :
    ((schedule.tick now).map (·.runs)).sum = (schedule.due now).length + (schedule.map (·.runs)).sum := by
  induction schedule with
  | nil => rfl
  | cons task schedule ih =>
    have ticked : Schedule.tick (task :: schedule) now = task.tick now :: Schedule.tick schedule now := rfl
    have ran : (Schedule.due (task :: schedule) now).length =
        (Schedule.due schedule now).length + (task.isDue now).toNat := by
      rw [Schedule.due, Schedule.due, ← List.countP_eq_length_filter, ← List.countP_eq_length_filter,
        List.countP_cons]
      cases task.isDue now <;> rfl
    have own : (task.tick now).runs = task.runs + (task.isDue now).toNat := by
      rw [Task.tick]
      cases task.isDue now <;> rfl
    rw [ticked, List.map_cons, List.sum_cons, ih, List.map_cons, List.sum_cons, ran, own]
    omega

/-- Every run of a task is a run on one of the ticks. -/
theorem sum_runs (calls : List (Call κ)) (schedule : Schedule κ) :
    ((after calls schedule).map (·.runs)).sum =
      ((rounds calls schedule).map (·.due.length)).sum + (schedule.map (·.runs)).sum := by
  induction calls generalizing schedule with
  | nil => simp [rounds, after]
  | cons call calls ih =>
    cases call with
    | add name job interval =>
      have later := ih (schedule ++ [⟨name, job, interval, 0, 0⟩])
      rw [List.map_append, List.sum_append] at later
      exact later
    | tick now =>
      have later := ih (schedule.tick now)
      rw [sum_runs_tick, ← Nat.add_assoc, Nat.add_comm _ (schedule.due now).length] at later
      exact later

/-- A task that is there goes through the ticks as if it were alone. -/
theorem task_alone (there : schedule[index]? = some task) (calls : List (Call κ)) :
    (after calls schedule)[index]? = some (task.elapse (readings calls)) ∧
      (rounds calls schedule).map (fun round => (round.now, round.runs index)) =
        Task.firings task.interval task.lastRun (readings calls) := by
  induction calls generalizing schedule task with
  | nil => exact ⟨there, rfl⟩
  | cons call calls ih =>
    cases call with
    | add name job interval =>
      have inside := (List.getElem?_eq_some_iff.mp there).1
      exact ih ((List.getElem?_append_left inside).trans there)
    | tick now =>
      have next : (schedule.tick now)[index]? = some (task.tick now) :=
        (tick_getElem? now schedule index).trans (congrArg (Option.map _) there)
      have first : (⟨schedule, now⟩ : Round κ).runs index = task.isDue now := by
        simp only [Round.runs, there, Option.any_some]
      obtain ⟨final, marks⟩ := ih next
      refine ⟨final, ?_⟩
      have fired := task.firings_cons now (readings calls)
      rw [← marks, ← first] at fired
      exact fired.symm

theorem runTimes_eq (index : Nat) (rounds : List (Round κ)) :
    runTimes index rounds =
      ((rounds.map fun round => (round.now, round.runs index)).filter (·.2)).map (·.1) := by
  rw [List.filter_map, List.map_map]
  rfl

theorem runTimes_late {early late : List (Round κ)} (idle : ∀ round ∈ early, round.runs index = false) :
    runTimes index (early ++ late) = runTimes index late := by
  have none : early.filter (·.runs index) = [] :=
    List.filter_eq_nil_iff.mpr fun round member => by simp [idle round member]
  rw [runTimes, List.filter_append, none, List.nil_append, runTimes]

theorem length_le_after (calls : List (Call κ)) (schedule : Schedule κ) :
    schedule.length ≤ (after calls schedule).length := by
  induction calls generalizing schedule with
  | nil => exact Nat.le_refl _
  | cons call calls ih =>
    refine Nat.le_trans ?_ (ih (call.after schedule))
    cases call with
    | add name job interval => simp [after_add]
    | tick now => simp [Call.after, Schedule.tick]

/-- No tick runs a task that is not there yet. -/
theorem rounds_before (absent : (after calls schedule).length ≤ index) :
    ∀ round ∈ rounds calls schedule, round.runs index = false := by
  induction calls generalizing schedule with
  | nil => nofun
  | cons call calls ih =>
    cases call with
    | add name job interval => exact ih absent
    | tick now =>
      have fewer : schedule.length ≤ index :=
        (length_le_after (.tick now :: calls) schedule).trans absent
      refine List.forall_mem_cons.mpr ⟨?_, ih absent⟩
      simp [Round.runs, fewer]

/-- A task was there before, or a call has added it. -/
theorem exists_added (there : index < (after calls schedule).length) :
    index < schedule.length ∨ ∃ before name job interval since,
      calls = before ++ .add name job interval :: since ∧ (after before schedule).length = index := by
  induction calls generalizing schedule with
  | nil => exact .inl there
  | cons call calls ih =>
    rcases ih there with old | ⟨before, name, job, interval, since, rfl, place⟩
    · cases call with
      | add name job interval =>
        have appended : index < (schedule ++ [(⟨name, job, interval, 0, 0⟩ : Task κ)]).length := old
        rw [List.length_append, List.length_singleton] at appended
        rcases Nat.lt_succ_iff_lt_or_eq.mp appended with older | here
        · exact .inl older
        · exact .inr ⟨[], name, job, interval, calls, rfl, here.symm⟩
      | tick now => exact .inl (by simpa [Call.after, Schedule.tick] using old)
    · exact .inr ⟨call :: before, name, job, interval, since, rfl, place⟩

/-- The clock goes back once. The second task is added late, and the next tick runs it at once. -/
example :
    let rounds := rounds
      [.add "redraw" () 10, .tick 11, .tick 30, .add "flush" () 0, .tick 20, .tick 20, .tick 41] []
    (runTimes 0 rounds, runTimes 1 rounds) = ([11, 30, 41], [20, 41]) := by
  decide

end Schedule
end Telemetry
