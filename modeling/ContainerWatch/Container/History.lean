/-!
A bounded history: pushing beyond the capacity forgets the oldest item.
-/

namespace ContainerWatch

/-- The newest items, oldest first, at most `capacity` of them. -/
structure History (α : Type) where
  capacity : Nat
  items : List α := []
deriving Repr

namespace History

variable {α : Type}

def empty (capacity : Nat) : History α := ⟨capacity, []⟩

def push (h : History α) (x : α) : History α :=
  if h.capacity = 0 then h
  else if h.capacity ≤ h.items.length then { h with items := h.items.drop 1 ++ [x] }
  else { h with items := h.items ++ [x] }

def last? (h : History α) : Option α := h.items.getLast?

def size (h : History α) : Nat := h.items.length

def isEmpty (h : History α) : Bool := h.items.isEmpty

@[simp] theorem items_empty (c : Nat) : (empty c : History α).items = [] := rfl
@[simp] theorem capacity_empty (c : Nat) : (empty c : History α).capacity = c := rfl

@[simp] theorem capacity_push (h : History α) (x : α) : (h.push x).capacity = h.capacity := by
  unfold push
  split
  · rfl
  · split <;> rfl

end History

end ContainerWatch
