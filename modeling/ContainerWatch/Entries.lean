/-!
Named values kept in the order in which their names first came. Setting a name that is already
there changes its value and leaves its place; every operation keeps the names distinct.
-/

namespace ContainerWatch

/-- Named values in order of first appearance. -/
abbrev Entries (α : Type) := List (String × α)

namespace Entries

variable {α : Type}

def get? (name : String) : Entries α → Option α
  | [] => none
  | (k, v) :: rest => if k = name then some v else get? name rest

/-- Sets the value of a name: in its place if the name is known, else at the end. -/
def put (name : String) (value : α) : Entries α → Entries α
  | [] => [(name, value)]
  | (k, v) :: rest => if k = name then (k, value) :: rest else (k, v) :: put name value rest

def remove (name : String) : Entries α → Entries α
  | [] => []
  | (k, v) :: rest => if k = name then remove name rest else (k, v) :: remove name rest

def keys (es : Entries α) : List String := es.map Prod.fst

def values (es : Entries α) : List α := es.map Prod.snd

def has (name : String) (es : Entries α) : Bool := (get? name es).isSome

/-- The entries that a list of pairs leaves when they are put in one by one. -/
def ofPairs (pairs : List (String × α)) : Entries α :=
  pairs.foldl (fun es p => put p.1 p.2 es) []

@[simp] theorem get?_nil (name : String) : get? name ([] : Entries α) = none := rfl

theorem get?_put_self (name : String) (v : α) (es : Entries α) :
    get? name (put name v es) = some v := by
  induction es with
  | nil => simp [put, get?]
  | cons p rest ih =>
    by_cases h : p.1 = name
    · simp [put, get?, h]
    · simp [put, get?, h, ih]

theorem get?_put_of_ne {name other : String} (h : other ≠ name) (v : α) (es : Entries α) :
    get? other (put name v es) = get? other es := by
  induction es with
  | nil => simp [put, get?, Ne.symm h]
  | cons p rest ih =>
    by_cases hp : p.1 = name
    · have : ¬ p.1 = other := fun e => h (e ▸ hp)
      have hn : ¬ name = other := fun e => h e.symm
      simp [put, get?, hp, hn]
    · simp [put, get?, hp, ih]

theorem get?_remove_self (name : String) (es : Entries α) : get? name (remove name es) = none := by
  induction es with
  | nil => rfl
  | cons p rest ih =>
    by_cases h : p.1 = name
    · simp [remove, h, ih]
    · simp [remove, get?, h, ih]

end Entries

end ContainerWatch
