/-! Tables: entries under distinct keys, kept in the order of the keys. A table carries the proof of its
order, so that no operation has to be told of it. -/
namespace Telemetry

/-- A strict order that tells any two keys apart. -/
class KeyOrder (κ : Type) [LT κ] : Prop where
  irrefl : ∀ key : κ, ¬key < key
  trans : ∀ {a b c : κ}, a < b → b < c → a < c
  connected : ∀ {a b : κ}, ¬a < b → ¬b < a → a = b

instance : KeyOrder String where
  irrefl := String.lt_irrefl
  trans := String.lt_trans
  connected notBelow notAbove := String.le_antisymm (String.not_lt.mp notAbove) (String.not_lt.mp notBelow)

/-- Entries in increasing order of their keys. -/
structure Table (κ α : Type) [LT κ] where
  entries : List (κ × α) := []
  ordered : (entries.map (·.1)).Pairwise (· < ·) := by decide
  deriving DecidableEq, Repr

namespace Table
variable {κ α : Type} [LT κ]

def empty : Table κ α := ⟨[], .nil⟩

instance : Inhabited (Table κ α) := ⟨empty⟩

def keys (table : Table κ α) : List κ := table.entries.map (·.1)

def values (table : Table κ α) : List α := table.entries.map (·.2)

/-- Items of all series together. -/
def itemCount (table : Table κ (List α)) : Nat := table.values.flatten.length

def map {β : Type} (f : α → β) (table : Table κ α) : Table κ β where
  entries := table.entries.map fun (k, a) => (k, f a)
  ordered := by simpa [Function.comp_def] using table.ordered

variable [DecidableEq κ]

def find? (table : Table κ α) (key : κ) : Option α :=
  (table.entries.find? (·.1 = key)).map (·.2)

def contains (table : Table κ α) (key : κ) : Bool := (table.find? key).isSome

/-- The series under a key. There is nothing under an unknown key. -/
def series (table : Table κ (List α)) (key : κ) : List α := (table.find? key).getD []

variable [DecidableLT κ]

/-- The entry under an equal key is replaced; a new one goes before the first larger key. -/
def insertEntry (key : κ) (value : α) : List (κ × α) → List (κ × α)
  | [] => [(key, value)]
  | (k, a) :: rest =>
    if k = key then (key, value) :: rest
    else if key < k then (key, value) :: (k, a) :: rest
    else (k, a) :: insertEntry key value rest

theorem mem_insertEntry {key : κ} {value : α} {entries : List (κ × α)} {entry : κ × α}
    (member : entry ∈ insertEntry key value entries) : entry = (key, value) ∨ entry ∈ entries := by
  induction entries with
  | nil => simpa [insertEntry] using member
  | cons head rest ih =>
    simp only [insertEntry] at member
    split at member
    · exact (List.mem_cons.mp member).imp_right (List.mem_cons_of_mem _)
    · split at member
      · exact List.mem_cons.mp member
      · rcases List.mem_cons.mp member with rfl | later
        · exact .inr List.mem_cons_self
        · exact (ih later).imp_right (List.mem_cons_of_mem _)

variable [KeyOrder κ]

theorem insertEntry_ordered (key : κ) (value : α) {entries : List (κ × α)}
    (ordered : (entries.map (·.1)).Pairwise (· < ·)) :
    ((insertEntry key value entries).map (·.1)).Pairwise (· < ·) := by
  induction entries with
  | nil => simp [insertEntry]
  | cons head rest ih =>
    obtain ⟨k, a⟩ := head
    simp only [List.map_cons, List.pairwise_cons] at ordered
    simp only [insertEntry]
    split
    case isTrue same =>
      subst same
      simpa using ordered
    case isFalse different =>
      split
      case isTrue smaller =>
        have below : ∀ other ∈ rest.map (·.1), key < other := fun other later =>
          KeyOrder.trans smaller (ordered.1 other later)
        have front : ∀ other ∈ k :: rest.map (·.1), key < other := List.forall_mem_cons.mpr ⟨smaller, below⟩
        exact List.pairwise_cons.mpr ⟨front, List.pairwise_cons.mpr ordered⟩
      case isFalse larger =>
        have above : k < key := Decidable.of_not_not fun smaller =>
          different (KeyOrder.connected smaller larger)
        refine List.pairwise_cons.mpr ⟨?_, ih ordered.2⟩
        intro other member
        obtain ⟨entry, there, rfl⟩ := List.mem_map.mp member
        rcases mem_insertEntry there with rfl | old
        · exact above
        · exact ordered.1 entry.1 (List.mem_map_of_mem old)

def insert (table : Table κ α) (key : κ) (value : α) : Table κ α :=
  ⟨insertEntry key value table.entries, insertEntry_ordered key value table.ordered⟩

/-- Changes the value under a key, starting from `initial` where there is none. -/
def update (table : Table κ α) (key : κ) (initial : α) (change : α → α) : Table κ α :=
  table.insert key (change ((table.find? key).getD initial))

/-- Later pairs replace earlier ones under the same key. -/
def ofList (pairs : List (κ × α)) : Table κ α :=
  pairs.foldl (fun table (key, value) => table.insert key value) empty

/-- Entries of the second table replace those of the first. -/
def merge (table overrides : Table κ α) : Table κ α :=
  overrides.entries.foldl (fun table (key, value) => table.insert key value) table

end Table
end Telemetry
