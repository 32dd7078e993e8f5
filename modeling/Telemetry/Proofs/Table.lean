import Telemetry.Table
import Mathlib.Tactic.SplitIfs

/-! Look-ups in tables. An insertion changes what is found under one key and adds at most that key.
Every key has one entry, so what is found says all. -/
namespace Telemetry.Table
variable {κ α : Type}

section Items
variable [DecidableEq κ]

/-- All items under a key, in the order of the pairs. -/
def itemsOf (key : κ) (pairs : List (κ × List α)) : List α :=
  (pairs.filter (·.1 = key)).flatMap (·.2)

@[simp] theorem itemsOf_append (key : κ) (pairs more : List (κ × List α)) :
    itemsOf key (pairs ++ more) = itemsOf key pairs ++ itemsOf key more := by
  simp [itemsOf]

theorem itemsOf_flatMap {β : Type} (key : κ) (sources : List β) (pairs : β → List (κ × List α)) :
    itemsOf key (sources.flatMap pairs) = sources.flatMap fun source => itemsOf key (pairs source) := by
  simp [itemsOf, List.filter_flatMap, List.flatMap_assoc]

theorem itemsOf_eq_nil {key : κ} {pairs : List (κ × List α)} (absent : key ∉ pairs.map (·.1)) :
    itemsOf key pairs = [] := by
  have none : pairs.filter (·.1 = key) = [] := by
    apply List.filter_eq_nil_iff.mpr
    intro pair member
    simpa using fun same : pair.1 = key => absent (same ▸ List.mem_map_of_mem member)
  rw [itemsOf, none, List.flatMap_nil]

theorem itemsOf_of_mem {key : κ} {items : List α} {pairs : List (κ × List α)}
    (distinct : (pairs.map (·.1)).Nodup) (member : (key, items) ∈ pairs) :
    itemsOf key pairs = items := by
  induction pairs with
  | nil => simp at member
  | cons pair pairs ih =>
    simp only [List.map_cons, List.nodup_cons] at distinct
    rcases List.mem_cons.mp member with rfl | later
    · have rest := itemsOf_eq_nil distinct.1
      simp only [itemsOf] at rest ⊢
      simp [rest]
    · have different : pair.1 ≠ key := fun same => distinct.1 (same ▸ List.mem_map_of_mem later)
      have rest := ih distinct.2 later
      simp only [itemsOf] at rest ⊢
      rw [List.filter_cons_of_neg (by simpa using different), rest]

/-- The first entry under a key is the only one where no key comes twice. -/
theorem find?_entries_of_mem {entries : List (κ × α)} (distinct : (entries.map (·.1)).Nodup) {key : κ}
    {value : α} (entry : (key, value) ∈ entries) : entries.find? (·.1 = key) = some (key, value) := by
  induction entries with
  | nil => simp at entry
  | cons head rest ih =>
    simp only [List.map_cons, List.nodup_cons] at distinct
    rcases List.mem_cons.mp entry with rfl | later
    · simp
    · have different : head.1 ≠ key := by
        intro same
        exact distinct.1 (same ▸ List.mem_map_of_mem later)
      rw [List.find?_cons_of_neg (by simpa using different)]
      exact ih distinct.2 later

end Items

variable [LT κ]

@[simp] theorem keys_empty : (empty : Table κ α).keys = [] := rfl

@[simp] theorem keys_map {β : Type} (f : α → β) (table : Table κ α) : (table.map f).keys = table.keys := by
  simp [map, keys, Function.comp_def]

theorem keys_nodup [KeyOrder κ] (table : Table κ α) : table.keys.Nodup := by
  refine List.Pairwise.imp ?_ table.ordered
  intro a b less equal
  exact KeyOrder.irrefl b (equal ▸ less)

/-- Every item of every entry has the property. -/
def All (property : α → Prop) (table : Table κ (List α)) : Prop :=
  ∀ entry ∈ table.entries, ∀ item ∈ entry.2, property item

theorem All.empty {property : α → Prop} : (empty : Table κ (List α)).All property := nofun

variable [DecidableEq κ]

@[simp] theorem find?_empty (key : κ) : (empty : Table κ α).find? key = none := rfl

@[simp] theorem series_empty (key : κ) : (empty : Table κ (List α)).series key = [] := rfl

theorem contains_iff_mem_keys (table : Table κ α) (key : κ) :
    table.contains key = true ↔ key ∈ table.keys := by
  simp [contains, find?, keys]

theorem find?_eq_none {table : Table κ α} {key : κ} (absent : key ∉ table.keys) :
    table.find? key = none := by
  simpa [contains] using mt (contains_iff_mem_keys table key).mp absent

theorem find?_of_mem [KeyOrder κ] {table : Table κ α} {key : κ} {value : α}
    (entry : (key, value) ∈ table.entries) : table.find? key = some value := by
  rw [find?, find?_entries_of_mem table.keys_nodup entry, Option.map_some]

theorem find?_map {β : Type} (f : α → β) (table : Table κ α) (key : κ) :
    (table.map f).find? key = (table.find? key).map f := by
  simp [map, find?, List.find?_map, Function.comp_def]

theorem mem_entries_of_find? {table : Table κ α} {key : κ} {value : α}
    (found : table.find? key = some value) : (key, value) ∈ table.entries := by
  obtain ⟨⟨name, other⟩, first, rfl⟩ := Option.map_eq_some_iff.mp found
  have same : name = key := by simpa using List.find?_some first
  exact same ▸ List.mem_of_find?_eq_some first

section Insertion
variable [DecidableLT κ]

theorem find?_insertEntry (key other : κ) (value : α) (entries : List (κ × α)) :
    ((insertEntry key value entries).find? (·.1 = other)).map (·.2) =
      if other = key then some value else (entries.find? (·.1 = other)).map (·.2) := by
  induction entries with
  | nil => by_cases same : key = other <;> simp [insertEntry, same, Ne.symm]
  | cons head rest ih =>
    obtain ⟨k, a⟩ := head
    simp only [insertEntry]
    split_ifs <;> grind

theorem mem_keys_insertEntry (key other : κ) (value : α) (entries : List (κ × α)) :
    other ∈ (insertEntry key value entries).map (·.1) ↔ other = key ∨ other ∈ entries.map (·.1) := by
  induction entries with
  | nil => simp [insertEntry]
  | cons head rest ih =>
    obtain ⟨k, a⟩ := head
    simp only [insertEntry]
    split_ifs <;> grind

theorem keys_insertEntry_congr {entries others : List (κ × α)}
    (same : entries.map (·.1) = others.map (·.1)) (key : κ) (value changed : α) :
    (insertEntry key value entries).map (·.1) = (insertEntry key changed others).map (·.1) := by
  induction entries generalizing others with
  | nil =>
    obtain rfl := List.map_eq_nil_iff.mp same.symm
    rfl
  | cons head rest ih =>
    cases others with
    | nil => simp at same
    | cons next more =>
      obtain ⟨k, a⟩ := head
      obtain ⟨l, b⟩ := next
      obtain ⟨rfl, tails⟩ := List.cons_eq_cons.mp same
      have later := ih tails
      simp only [insertEntry]
      split_ifs <;> simp_all

variable [KeyOrder κ]

theorem find?_insert (table : Table κ α) (key other : κ) (value : α) :
    (table.insert key value).find? other = if other = key then some value else table.find? other :=
  find?_insertEntry key other value table.entries

@[simp] theorem find?_insert_self (table : Table κ α) (key : κ) (value : α) :
    (table.insert key value).find? key = some value := by
  rw [find?_insert, if_pos rfl]

theorem mem_keys_insert (table : Table κ α) (key other : κ) (value : α) :
    other ∈ (table.insert key value).keys ↔ other = key ∨ other ∈ table.keys :=
  mem_keys_insertEntry key other value table.entries

theorem keys_insert_congr {table other : Table κ α} (same : table.keys = other.keys) (key : κ)
    (value changed : α) : (table.insert key value).keys = (other.insert key changed).keys :=
  keys_insertEntry_congr same key value changed

/-- Appends the items of every pair to what its key has. -/
def gather (table : Table κ (List α)) (pairs : List (κ × List α)) : Table κ (List α) :=
  pairs.foldl (fun table (key, items) => table.update key [] (· ++ items)) table

theorem gather_cons (table : Table κ (List α)) (pair : κ × List α) (pairs : List (κ × List α)) :
    table.gather (pair :: pairs) = (table.update pair.1 [] (· ++ pair.2)).gather pairs := rfl

theorem gather_append (table : Table κ (List α)) (pairs more : List (κ × List α)) :
    table.gather (pairs ++ more) = (table.gather pairs).gather more := List.foldl_append

theorem series_gather (table : Table κ (List α)) (pairs : List (κ × List α)) (key : κ) :
    (table.gather pairs).series key = table.series key ++ itemsOf key pairs := by
  induction pairs generalizing table with
  | nil => simp [gather, itemsOf]
  | cons pair pairs ih =>
    rw [gather_cons, ih, update, series, series, find?_insert]
    by_cases same : pair.1 = key
    · simp [itemsOf, same]
    · simp [itemsOf, same, Ne.symm same]

theorem mem_keys_gather (table : Table κ (List α)) (pairs : List (κ × List α)) (key : κ) :
    key ∈ (table.gather pairs).keys ↔ key ∈ table.keys ∨ key ∈ pairs.map (·.1) := by
  induction pairs generalizing table with
  | nil => simp [gather]
  | cons pair pairs ih =>
    rw [gather_cons, ih, update, mem_keys_insert, List.map_cons, List.mem_cons]
    grind

theorem keys_gather_congr {table other : Table κ (List α)} (same : table.keys = other.keys)
    (pairs : List (κ × List α)) : (table.gather pairs).keys = (other.gather pairs).keys := by
  induction pairs generalizing table other with
  | nil => exact same
  | cons pair pairs ih => exact ih (keys_insert_congr same _ _ _)

theorem All.gather {property : α → Prop} {table : Table κ (List α)} (all : table.All property)
    {pairs : List (κ × List α)} (new : ∀ pair ∈ pairs, ∀ item ∈ pair.2, property item) :
    (table.gather pairs).All property := by
  induction pairs generalizing table with
  | nil => exact all
  | cons pair pairs ih =>
    obtain ⟨first, others⟩ := List.forall_mem_cons.mp new
    refine ih (fun entry member => ?_) others
    rcases mem_insertEntry member with rfl | old
    · intro item there
      rcases List.mem_append.mp there with before | added
      · cases found : table.find? pair.1 with
        | none => simp [found] at before
        | some items =>
          rw [found] at before
          exact all _ (mem_entries_of_find? found) item before
      · exact first item added
    · exact all entry old

end Insertion

/-- What holds of every entry, and of nothing, holds of the series under every key. -/
theorem series_induction (property : List α → Prop) {table : Table κ (List α)} (none : property [])
    (entries : ∀ entry ∈ table.entries, property entry.2) (key : κ) : property (table.series key) := by
  rw [series]
  cases found : table.find? key with
  | none => exact none
  | some items => exact entries _ (mem_entries_of_find? found)

theorem series_unknown {table : Table κ (List α)} {key : κ} (unknown : key ∉ table.keys) :
    table.series key = [] := by
  rw [series, find?_eq_none unknown, Option.getD_none]

/-- Series that are changed one by one are changed under every key. -/
theorem series_map {β : Type} {change : List α → List β} (empty : change [] = [])
    (table : Table κ (List α)) (key : κ) : (table.map change).series key = change (table.series key) := by
  rw [series, series, find?_map]
  cases table.find? key with
  | none => exact empty.symm
  | some items => rfl

end Telemetry.Table
