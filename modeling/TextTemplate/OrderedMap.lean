/-!
# Maps that keep the order of insertion

A map is its list of entries. A key that is inserted again keeps its place and takes the new value,
so the order is that of the first insertions.
-/

namespace TextTemplate

/-- Keys with their values, in the order in which the keys were first inserted. -/
structure OrderedMap (κ α : Type) where
  entries : List (κ × α) := []

namespace OrderedMap

variable {κ α : Type}

/-- The map without entries. -/
def empty : OrderedMap κ α := ⟨[]⟩

/-- The number of entries. -/
def size (m : OrderedMap κ α) : Nat := m.entries.length

/-- The keys in order. -/
def keys (m : OrderedMap κ α) : List κ := m.entries.map Prod.fst

/-- The value of the first entry whose key passes a test. -/
def findFirst? (m : OrderedMap κ α) (test : κ → Bool) : Option α :=
  (m.entries.find? fun e ↦ test e.1).map Prod.snd

variable [DecidableEq κ]

/-- The value of a key. -/
def get? (m : OrderedMap κ α) (k : κ) : Option α := m.findFirst? fun k' ↦ k' = k

/-- Whether a key has a value. -/
def contains (m : OrderedMap κ α) (k : κ) : Bool := (m.get? k).isSome

/-- Replaces the value of a key in a list of entries, or puts a new entry at its end. -/
def insertEntry (k : κ) (v : α) : List (κ × α) → List (κ × α)
  | [] => [(k, v)]
  | e :: es => if e.1 = k then (e.1, v) :: es else e :: insertEntry k v es

/-- Gives a key a value. -/
def insert (m : OrderedMap κ α) (k : κ) (v : α) : OrderedMap κ α :=
  ⟨insertEntry k v m.entries⟩

/-- The map that inserting pairs one after another gives. -/
def ofList (pairs : List (κ × α)) : OrderedMap κ α :=
  pairs.foldl (fun m e ↦ m.insert e.1 e.2) empty

/-! ## Insertion through `get?` and `keys` -/

@[simp] theorem get?_empty (k : κ) : (empty : OrderedMap κ α).get? k = none := rfl

theorem get?_insert_self (m : OrderedMap κ α) (k : κ) (v : α) : (m.insert k v).get? k = some v := by
  obtain ⟨es⟩ := m
  simp only [get?, findFirst?, insert]
  induction es with
  | nil => simp [insertEntry]
  | cons e es ih => by_cases h : e.1 = k <;> simp_all [insertEntry]

theorem get?_insert_of_ne (m : OrderedMap κ α) {k l : κ} (v : α) (h : l ≠ k) :
    (m.insert k v).get? l = m.get? l := by
  obtain ⟨es⟩ := m
  simp only [get?, findFirst?, insert]
  induction es with
  | nil => simp [insertEntry, Ne.symm h]
  | cons e es ih =>
    by_cases he : e.1 = k
    · simp [insertEntry, he, Ne.symm h]
    · by_cases hl : e.1 = l <;> simp_all [insertEntry]

theorem keys_insert (m : OrderedMap κ α) (k : κ) (v : α) :
    (m.insert k v).keys = if k ∈ m.keys then m.keys else m.keys ++ [k] := by
  obtain ⟨es⟩ := m
  simp only [keys, insert]
  induction es with
  | nil => simp [insertEntry]
  | cons e es ih =>
    by_cases he : e.1 = k
    · simp [insertEntry, he]
    · have hne : k ≠ e.1 := fun h ↦ he h.symm
      by_cases hm : k ∈ es.map Prod.fst <;> simp_all [insertEntry]

end OrderedMap

end TextTemplate
