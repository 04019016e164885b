/-!
# Numbered stores

Things that several parties refer to are kept in a store and referred to by their number, which never
changes. Looking up a number that was never given out yields the default thing.
-/

namespace CoopSched

/-- A store of things numbered in the order in which they were added. -/
structure Arena (α : Type) where
  items : Array α := #[]

namespace Arena

variable {α : Type}

instance : Inhabited (Arena α) := ⟨{}⟩

/-- How many things there are. -/
def size (a : Arena α) : Nat := a.items.size

/-- The thing with a number. -/
def get [Inhabited α] (a : Arena α) (i : Nat) : α := a.items.getD i default

/-- Add a thing; its number is the size before. -/
def add (a : Arena α) (x : α) : Arena α := ⟨a.items.push x⟩

/-- Change the thing with a number. -/
def modify (a : Arena α) (i : Nat) (f : α → α) : Arena α := ⟨a.items.modify i f⟩

@[simp] theorem size_add (a : Arena α) (x : α) : (a.add x).size = a.size + 1 := by
  simp [size, add]

@[simp] theorem size_modify (a : Arena α) (i : Nat) (f : α → α) :
    (a.modify i f).size = a.size := by
  simp [size, modify]

theorem get_add [Inhabited α] (a : Arena α) (x : α) (i : Nat) :
    (a.add x).get i = if i = a.size then x else a.get i := by
  simp only [get, add, size, Array.getD_eq_getD_getElem?, Array.getElem?_push]
  split <;> rfl

theorem get_modify [Inhabited α] (a : Arena α) (i j : Nat) (f : α → α) :
    (a.modify i f).get j = if i = j ∧ j < a.size then f (a.get j) else a.get j := by
  simp only [get, modify, size, Array.getD_eq_getD_getElem?, Array.getElem?_modify]
  by_cases h : i = j
  · by_cases hj : j < a.items.size
    · simp [h, hj]
    · simp [h, hj]
  · simp [h]

theorem get_modify_of_ne [Inhabited α] (a : Arena α) {i j : Nat} (h : i ≠ j) (f : α → α) :
    (a.modify i f).get j = a.get j := by
  simp [get_modify, h]

end Arena

end CoopSched
