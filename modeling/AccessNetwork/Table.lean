/-!
Tables from keys to values, read through `get?`: a key that was never set, or was erased, reads as
nothing. The lemmas say what each operation does to the reading; the order of the entries is not
part of it.
-/

namespace AccessNetwork

set_option autoImplicit false

structure Table (Key Item : Type) where
  entries : List (Key × Item)
  deriving Repr

namespace Table

variable {Key Item : Type}

def empty : Table Key Item := ⟨[]⟩

instance : Inhabited (Table Key Item) := ⟨empty⟩

variable [DecidableEq Key]

def get? (table : Table Key Item) (key : Key) : Option Item :=
  (table.entries.find? (·.1 == key)).map (·.2)

def erase (table : Table Key Item) (key : Key) : Table Key Item :=
  ⟨table.entries.filter (·.1 != key)⟩

def set (table : Table Key Item) (key : Key) (item : Item) : Table Key Item :=
  ⟨(key, item) :: (table.erase key).entries⟩

def mapItems (table : Table Key Item) (change : Item → Item) : Table Key Item :=
  ⟨table.entries.map fun entry => (entry.1, change entry.2)⟩

@[simp] theorem get_empty (key : Key) : (empty : Table Key Item).get? key = none := rfl

theorem get_erase (table : Table Key Item) (erased key : Key) :
    (table.erase erased).get? key = if key = erased then none else table.get? key := by
  rcases table with ⟨entries⟩
  simp only [get?, erase]
  induction entries with
  | nil => simp
  | cons entry rest induction =>
      by_cases same : entry.1 = erased
      · by_cases found : key = erased
        · simp [found] at induction ⊢
        · have apart : ¬erased = key := fun equal => found equal.symm
          simpa [same, found, apart] using induction
      · by_cases found : entry.1 = key
        · have kept : key ≠ erased := fun equal => same (found.trans equal)
          simp [found, kept]
        · simpa [same, found] using induction

@[simp] theorem get_erase_self (table : Table Key Item) (key : Key) :
    (table.erase key).get? key = none := by
  simp [get_erase]

theorem get_set (table : Table Key Item) (changed key : Key) (item : Item) :
    (table.set changed item).get? key = if key = changed then some item else table.get? key := by
  by_cases same : key = changed
  · simp [get?, set, same]
  · have apart : ¬changed = key := fun equal => same equal.symm
    have erased := get_erase table changed key
    rw [if_neg same] at erased ⊢
    rw [← erased]
    simp [get?, set, apart]

@[simp] theorem get_set_self (table : Table Key Item) (key : Key) (item : Item) :
    (table.set key item).get? key = some item := by
  simp [get_set]

theorem get_map_items (table : Table Key Item) (change : Item → Item) (key : Key) :
    (table.mapItems change).get? key = (table.get? key).map change := by
  rcases table with ⟨entries⟩
  simp only [get?, mapItems]
  induction entries with
  | nil => rfl
  | cons entry rest induction =>
      by_cases found : entry.1 = key
      · simp [found]
      · simpa [found] using induction

end Table

end AccessNetwork
