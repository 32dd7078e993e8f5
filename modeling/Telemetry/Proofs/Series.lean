import Telemetry.Series
import Telemetry.Proofs.Epoch
import Mathlib.Data.List.Infix

/-! The binary search ends inside its range, and on a series in time order it finds the border it
looks for. Windows and cuts of such a series are then the items whose time lies within the bounds. What
is trimmed misses only items from before a horizon, and has the same windows from there on. -/
namespace Telemetry.Series
variable {α : Type} {before : α → Bool} {items : List α}

theorem search_lt (before : α → Bool) (items : List α) {base size : Nat} (some : 0 < size) :
    search before items base size < base + size := by
  induction size using Nat.strongRecOn generalizing base with
  | ind size ih =>
    rw [search]
    split
    · omega
    · have shorter : ∀ start, search before items start (size - size / 2) < start + (size - size / 2) :=
        fun start => ih _ (by omega) (by omega)
      dsimp only
      refine Nat.lt_of_lt_of_le (shorter _) ?_
      split <;> omega

/-- Slices that end or begin at a partition point lie inside the series, ordered or not. -/
theorem partitionPoint_le_length (before : α → Bool) (items : List α) :
    partitionPoint before items ≤ items.length := by
  rw [partitionPoint]
  rcases Nat.eq_zero_or_pos items.length with empty | some
  · rw [List.length_eq_zero_iff.mp empty]
    simp [search]
  · have inside : search before items 0 items.length < 0 + items.length := search_lt before items some
    split <;> omega

/-- The range holds the last item before the border all the time. -/
theorem search_eq {border : Nat}
    (split : ∀ index : Nat, (items[index]?).any before = decide (index < border)) {base size : Nat}
    (low : base ≤ border - 1) (high : border - 1 < base + size) :
    search before items base size = border - 1 := by
  induction size using Nat.strongRecOn generalizing base with
  | ind size ih =>
    rw [search]
    split
    · omega
    · dsimp only
      rw [split]
      by_cases early : base + size / 2 < border
      · rw [if_pos (by simpa using early)]
        exact ih _ (by omega) (by omega) (by omega)
      · rw [if_neg (by simpa using early)]
        exact ih _ (by omega) low (by omega)

theorem partitionPoint_append {front back : List α} (first : ∀ item ∈ front, before item = true)
    (last : ∀ item ∈ back, before item = false) :
    partitionPoint before (front ++ back) = front.length := by
  have split : ∀ index : Nat,
      ((front ++ back)[index]?).any before = decide (index < front.length) := by
    intro index
    by_cases early : index < front.length
    · rw [List.getElem?_append_left early, List.getElem?_eq_getElem early]
      simp [early, first _ (List.getElem_mem early)]
    · rw [List.getElem?_append_right (by omega)]
      cases found : back[index - front.length]? with
      | none => simp [early]
      | some item => simp [early, last item (List.mem_of_getElem? found)]
  rw [partitionPoint]
  rw [split]
  rcases Nat.eq_zero_or_pos (front ++ back).length with empty | some
  · have nothing := List.append_eq_nil_iff.mp (List.length_eq_zero_iff.mp empty)
    simp [nothing.1, nothing.2, search]
  · rw [List.length_append] at some
    rw [search_eq split (Nat.zero_le _) (by rw [List.length_append]; omega)]
    simp only [decide_eq_true_eq]
    split <;> omega

/-- No item that lies before the bound follows one that does not. -/
def Falling (before : α → Bool) (items : List α) : Prop :=
  items.Pairwise fun earlier later => before later = true → before earlier = true

theorem falling_of_steady {time : α → Binary64} (steady : Steady time items) (bound : Binary64) :
    Falling (fun item => decide (time item < bound)) items := by
  refine steady.pairwise.imp ?_
  intro earlier later ordered below
  simp only [decide_eq_true_eq] at below ⊢
  exact Binary64.lt_of_le_of_lt ordered below

theorem Falling.filter_append_filter (falling : Falling before items) :
    items.filter before ++ items.filter (!before ·) = items := by
  induction items with
  | nil => rfl
  | cons item items ih =>
    obtain ⟨first, others⟩ := List.pairwise_cons.mp falling
    cases early : before item with
    | true => simp [early, ih others]
    | false =>
      have none : items.filter before = [] := by
        refine List.filter_eq_nil_iff.mpr fun later member below => ?_
        simp [first later member below] at early
      have all := ih others
      rw [none, List.nil_append] at all
      simp [early, none, all]

theorem Falling.partitionPoint_eq (falling : Falling before items) :
    partitionPoint before items = (items.filter before).length := by
  have parted : partitionPoint before (items.filter before ++ items.filter (!before ·)) =
      (items.filter before).length := partitionPoint_append (by simp) (by simp)
  rwa [falling.filter_append_filter] at parted

theorem Falling.take_partitionPoint (falling : Falling before items) :
    items.take (partitionPoint before items) = items.filter before := by
  rw [falling.partitionPoint_eq]
  have front : (items.filter before ++ items.filter (!before ·)).take (items.filter before).length =
      items.filter before := List.take_left
  rwa [falling.filter_append_filter] at front

theorem Falling.dropWhile_eq (falling : Falling before items) :
    items.dropWhile before = items.filter (!before ·) := by
  have back : (items.filter before ++ items.filter (!before ·)).dropWhile before =
      (items.filter (!before ·)).dropWhile before :=
    List.dropWhile_append_of_pos (by simp)
  have none : (items.filter (!before ·)).dropWhile before = items.filter (!before ·) := by
    cases rest : items.filter (!before ·) with
    | nil => rfl
    | cons first others =>
      have late : first ∈ items.filter (!before ·) := rest ▸ List.mem_cons_self
      exact List.dropWhile_cons_of_neg (by simpa using (List.mem_filter.mp late).2)
  rwa [falling.filter_append_filter, none] at back

theorem Falling.takeWhile_eq (falling : Falling before items) :
    items.takeWhile before = items.filter before := by
  have parts := items.takeWhile_append_dropWhile (p := before)
  rw [falling.dropWhile_eq] at parts
  exact List.append_cancel_right (parts.trans falling.filter_append_filter.symm)

/-- What does not lie before the bound lies after it, as far as numbers go. -/
theorem filter_not_before {time : α → Binary64} {bound : Binary64} (number : bound.isNaN = false)
    (numbers : ∀ item ∈ items, (time item).isNaN = false) :
    (items.filter fun item => !decide (time item < bound)) =
      items.filter fun item => decide (bound ≤ time item) := by
  refine List.filter_congr fun item member => ?_
  simp [← Binary64.not_lt (numbers item member) number]

theorem Falling.drop_partitionPoint (falling : Falling before items) :
    items.drop (partitionPoint before items) = items.filter (!before ·) := by
  rw [falling.partitionPoint_eq]
  have back : (items.filter before ++ items.filter (!before ·)).drop (items.filter before).length =
      items.filter (!before ·) := List.drop_left
  rwa [falling.filter_append_filter] at back

/-- Of two bounds one lies before the other, as far as any time can tell. -/
theorem bounds_total (lower upper : Binary64) :
    (∀ time : Binary64, time < lower → time < upper) ∨
      ∀ time : Binary64, time < upper → time < lower := by
  cases low : lower.isNaN with
  | true => exact .inl fun time below => absurd below.2.1 (by simp [low])
  | false =>
    cases high : upper.isNaN with
    | true => exact .inr fun time below => absurd below.2.1 (by simp [high])
    | false =>
      rcases Int.le_total lower.key upper.key with le | ge
      · exact .inl fun time below => ⟨below.1, high, Int.lt_of_lt_of_le below.2.2 le⟩
      · exact .inr fun time below => ⟨below.1, low, Int.lt_of_lt_of_le below.2.2 ge⟩

theorem window_eq_filter {time : α → Binary64} (steady : Steady time items)
    (lower upper : Binary64) :
    window time lower upper items =
      items.filter fun item => !decide (time item < lower) && decide (time item < upper) := by
  have low := falling_of_steady steady lower
  have high := falling_of_steady steady upper
  rw [window]
  rcases bounds_total lower upper with within | outside
  · have fewer : partitionPoint (fun item => decide (time item < lower)) items ≤
        partitionPoint (fun item => decide (time item < upper)) items := by
      rw [low.partitionPoint_eq, high.partitionPoint_eq]
      exact (List.monotone_filter_right items fun item => by simpa using within _).length_le
    have rest : Falling (fun item => decide (time item < lower))
        (items.filter fun item => decide (time item < upper)) := low.filter _
    have same : (items.filter fun item => decide (time item < upper)).filter
        (fun item => decide (time item < lower)) =
        items.filter fun item => decide (time item < lower) := by
      rw [List.filter_filter]
      refine List.filter_congr fun item _ => ?_
      by_cases below : time item < lower
      · simp [below, within _ below]
      · simp [below]
    rw [Nat.max_eq_left fewer, high.take_partitionPoint, low.partitionPoint_eq, ← same,
      ← rest.partitionPoint_eq, rest.drop_partitionPoint, List.filter_filter]
  · have fewer : partitionPoint (fun item => decide (time item < upper)) items ≤
        partitionPoint (fun item => decide (time item < lower)) items := by
      rw [low.partitionPoint_eq, high.partitionPoint_eq]
      exact (List.monotone_filter_right items fun item => by simpa using outside _).length_le
    rw [Nat.max_eq_right fewer, List.drop_take, Nat.sub_self, List.take_zero]
    symm
    refine List.filter_eq_nil_iff.mpr fun item _ => ?_
    simpa using fun above => mt (outside _) above

/-- A window takes the items whose time lies between its bounds. -/
theorem window_eq_between {time : α → Binary64} (steady : Steady time items) {lower : Binary64}
    (number : lower.isNaN = false) (upper : Binary64) :
    window time lower upper items =
      items.filter fun item => decide (lower ≤ time item ∧ time item < upper) := by
  rw [window_eq_filter steady]
  refine List.filter_congr fun item _ => ?_
  by_cases below : time item < upper
  · simp [below, ← Binary64.not_lt below.1 number]
  · simp [below]

theorem window_append_window {time : α → Binary64} (steady : Steady time items)
    {lower middle upper : Binary64} (first : lower ≤ middle) (last : middle ≤ upper) :
    window time lower middle items ++ window time middle upper items = window time lower upper items := by
  have inside : Falling (fun item => decide (time item < middle))
      (items.filter fun item => decide (lower ≤ time item ∧ time item < upper)) :=
    (falling_of_steady steady middle).filter _
  have parts := inside.filter_append_filter
  rw [List.filter_filter, List.filter_filter] at parts
  rw [window_eq_between steady first.1, window_eq_between steady first.2.1, window_eq_between steady first.1,
    ← parts]
  congr 1
  · refine List.filter_congr fun item _ => ?_
    by_cases below : time item < middle
    · simp [below, Binary64.lt_of_lt_of_le below last]
    · simp [below]
  · refine List.filter_congr fun item _ => ?_
    by_cases below : time item < upper
    · have border := Binary64.not_lt below.1 first.2.1
      by_cases late : middle ≤ time item
      · simp [below, late, border.mpr late, Binary64.le_trans first late]
      · simp [late, Decidable.not_not.mp (mt border.mp late)]
    · simp [below]

/-- The time does not lie before the lower bound, and it lies before the upper one. A missing bound
excludes nothing. -/
def Within (lower upper : Option Binary64) (time : Binary64) : Prop :=
  (∀ bound ∈ lower, ¬time < bound) ∧ ∀ bound ∈ upper, time < bound

instance (lower upper : Option Binary64) : DecidablePred (Within lower upper) :=
  fun _ => inferInstanceAs (Decidable (_ ∧ _))

theorem cut_eq_filter {time : α → Binary64} (steady : Steady time items) (lower upper : Option Binary64) :
    cut time lower upper items = items.filter fun item => decide (Within lower upper (time item)) := by
  have early : cut time none upper items =
      items.filter fun item => decide (∀ bound ∈ upper, time item < bound) := by
    cases upper with
    | none => simp [cut]
    | some bound => simpa [cut] using (falling_of_steady steady bound).take_partitionPoint
  cases lower with
  | none => simp [early, Within]
  | some bound =>
    have falling : Falling (fun item => decide (time item < bound)) (cut time none upper items) :=
      early ▸ (falling_of_steady steady bound).filter _
    -- The lower bound is looked for in what the upper one left.
    calc
      cut time (some bound) upper items =
          (cut time none upper items).filter fun item => !decide (time item < bound) :=
        falling.drop_partitionPoint
      _ = _ := by
        rw [early, List.filter_filter]
        refine List.filter_congr fun item _ => ?_
        simp [Within]

theorem cut_sublist (time : α → Binary64) (lower upper : Option Binary64) (items : List α) :
    (cut time lower upper items).Sublist items := by
  cases lower with
  | none =>
    cases upper with
    | none => exact List.Sublist.refl items
    | some upper => exact List.take_sublist _ items
  | some lower =>
    cases upper with
    | none => exact List.drop_sublist _ items
    | some upper => exact (List.drop_sublist _ _).trans (List.take_sublist _ items)

section
variable {time : α → Binary64} {horizon later : Option Binary64} {kept whole : List α}

/-- Some items at the front are missing, all of them from before the horizon. -/
def Trimmed (time : α → Binary64) (horizon : Option Binary64) (kept whole : List α) : Prop :=
  ∃ dropped, dropped ++ kept = whole ∧ ∀ item ∈ dropped, ∃ bound ∈ horizon, time item < bound

theorem Trimmed.refl (time : α → Binary64) (horizon : Option Binary64) (whole : List α) :
    Trimmed time horizon whole whole :=
  ⟨[], rfl, by simp⟩

theorem Trimmed.suffix (trimmed : Trimmed time horizon kept whole) : kept <:+ whole := by
  obtain ⟨dropped, split, -⟩ := trimmed
  exact ⟨dropped, split⟩

theorem Trimmed.forward (trimmed : Trimmed time horizon kept whole)
    (moved : ∀ bound ∈ horizon, ∃ next ∈ later, bound ≤ next) : Trimmed time later kept whole := by
  obtain ⟨dropped, split, old⟩ := trimmed
  refine ⟨dropped, split, fun item member => ?_⟩
  obtain ⟨bound, limit, below⟩ := old item member
  obtain ⟨next, limit, le⟩ := moved bound limit
  exact ⟨next, limit, Binary64.lt_of_lt_of_le below le⟩

theorem Trimmed.append (trimmed : Trimmed time horizon kept whole) (more : List α) :
    Trimmed time horizon (kept ++ more) (whole ++ more) := by
  obtain ⟨dropped, split, old⟩ := trimmed
  exact ⟨dropped, by rw [← split, List.append_assoc], old⟩

theorem Trimmed.cut {bound : Binary64} (trimmed : Trimmed time (some bound) kept whole)
    (steady : Steady time whole) :
    Trimmed time (some bound) (cut time (some bound) none kept) whole := by
  have ordered : Steady time kept := steady.suffix trimmed.suffix
  have parts := (falling_of_steady ordered bound).filter_append_filter
  obtain ⟨dropped, split, old⟩ := trimmed
  refine ⟨dropped ++ kept.filter fun item => decide (time item < bound), ?_, ?_⟩
  · have late : Series.cut time (some bound) none kept = kept.filter fun item => !decide (time item < bound) := by
      simp [cut_eq_filter ordered, Within]
    rw [late, List.append_assoc, parts, split]
  · intro item member
    rcases List.mem_append.mp member with gone | below
    · exact old item gone
    · exact ⟨bound, rfl, by simpa using (List.mem_filter.mp below).2⟩

theorem Trimmed.window_eq {lower : Binary64} (trimmed : Trimmed time horizon kept whole)
    (steady : Steady time whole) (recent : ∀ bound ∈ horizon, bound ≤ lower) (upper : Binary64) :
    window time lower upper kept = window time lower upper whole := by
  have ordered : Steady time kept := steady.suffix trimmed.suffix
  obtain ⟨dropped, split, old⟩ := trimmed
  -- The window begins at the horizon or later, so it takes nothing of what was dropped.
  have outside : dropped.filter
      (fun item => !decide (time item < lower) && decide (time item < upper)) = [] := by
    refine List.filter_eq_nil_iff.mpr fun item member => ?_
    obtain ⟨bound, limit, below⟩ := old item member
    simp [Binary64.lt_of_lt_of_le below (recent bound limit)]
  rw [window_eq_filter ordered, window_eq_filter steady, ← split, List.filter_append, outside,
    List.nil_append]

end
end Telemetry.Series
