/-!
Running a step again and again until it is refused, and sums that bound how often that can be.
-/

namespace ContainerWatch

/-- Repeats a step until it gives nothing; `fuel` bounds the number of steps. -/
def exhaust {α : Type} (step : α → Option α) : Nat → α → α
  | 0, a => a
  | fuel + 1, a =>
    match step a with
    | some b => exhaust step fuel b
    | none => a

variable {α : Type}

def total (measure : α → Nat) : List α → Nat
  | [] => 0
  | x :: xs => measure x + total measure xs

theorem total_append (measure : α → Nat) (xs ys : List α) :
    total measure (xs ++ ys) = total measure xs + total measure ys := by
  induction xs with
  | nil => simp [total]
  | cons x xs ih => simp only [List.cons_append, total, ih, Nat.add_assoc]

theorem total_set {measure : α → Nat} {xs : List α} {i : Nat} {x : α}
    (found : xs[i]? = some x) (y : α) :
    total measure (xs.set i y) + measure x = total measure xs + measure y := by
  induction xs generalizing i with
  | nil => simp at found
  | cons z zs ih =>
    cases i with
    | zero =>
      obtain rfl : z = x := by simpa using found
      simp only [List.set_cons_zero, total]
      omega
    | succ i =>
      have later := ih (i := i) (by simpa using found)
      simp only [List.set_cons_succ, total]
      omega

theorem total_map {β : Type} (f : α → β) (measure : β → Nat) (xs : List α) :
    total measure (xs.map f) = total (fun x => measure (f x)) xs := by
  induction xs with
  | nil => rfl
  | cons x xs ih => simp only [List.map_cons, total, ih]

@[simp] theorem exhaust_of_none {step : α → Option α} {a : α} (h : step a = none) (fuel : Nat) :
    exhaust step fuel a = a := by
  cases fuel <;> simp [exhaust, h]

theorem exhaust_induction {step : α → Option α} {P : α → Prop}
    (keep : ∀ a b, P a → step a = some b → P b) (fuel : Nat) (a : α) (h : P a) :
    P (exhaust step fuel a) := by
  induction fuel generalizing a with
  | zero => exact h
  | succ fuel ih =>
    cases hs : step a with
    | none => simpa [exhaust, hs] using h
    | some b => simpa [exhaust, hs] using ih b (keep a b h hs)

end ContainerWatch
