import ContainerWatch.Steps

/-!
Tasks that take turns. In a round every task that can move does so until it has to wait, and rounds
are repeated until nothing moves. What every step keeps, all of this keeps.
-/

namespace ContainerWatch

theorem exhaust_of_some {α : Type} {step : α → Option α} {a b : α} (h : step a = some b)
    {fuel : Nat} (enough : 0 < fuel) : exhaust step fuel a = exhaust step (fuel - 1) b := by
  obtain ⟨k, rfl⟩ := Nat.exists_eq_add_of_lt enough
  simp [exhaust, h]

namespace Rounds

variable {σ τ : Type} (step : σ → τ → Option σ) (tasks : σ → List τ) (fuel : σ → Nat)

def turns (ts : List τ) (w : σ) : σ :=
  ts.foldl (fun w t => exhaust (fun w => step w t) (fuel w) w) w

def round? (w : σ) : Option σ :=
  match (tasks w).filter fun t => (step w t).isSome with
  | [] => none
  | ready => some (turns step fuel ready w)

def settle (w : σ) : σ := exhaust (round? step tasks fuel) (fuel w) w

section Keeping

variable {step tasks fuel} {P : σ → Prop} (keep : ∀ w t w', P w → step w t = some w' → P w')
  {w w' v : σ}
include keep

theorem exhaust_step_induction (t : τ) (bound : Nat) (h : P w) :
    P (exhaust (fun w => step w t) bound w) :=
  exhaust_induction (fun v v' hv moved => keep v t v' hv moved) bound w h

theorem turns_induction (ts : List τ) (h : P w) : P (turns step fuel ts w) := by
  induction ts generalizing w with
  | nil => exact h
  | cons t ts ih => exact ih (exhaust_step_induction keep t (fuel w) h)

theorem round_induction (h : P w) (round : round? step tasks fuel w = some w') : P w' := by
  unfold round? at round
  split at round
  · simp at round
  · exact Option.some.inj round ▸ turns_induction keep _ h

/-- What every step keeps, settling keeps. -/
theorem settle_induction (h : P w) : P (settle step tasks fuel w) :=
  exhaust_induction (fun _ _ hv round => round_induction keep hv round) (fuel w) w h

/-- What the first step of the first task brings and every step keeps, settling keeps. -/
theorem settle_of_first {t : τ} {ts : List τ} (enough : 0 < fuel w) (first : tasks w = t :: ts)
    (moved : step w t = some v) (h : P v) : P (settle step tasks fuel w) := by
  have ready : (tasks w).filter (fun t => (step w t).isSome) =
      t :: ts.filter (fun t => (step w t).isSome) := by
    rw [first, List.filter_cons_of_pos (by simp [moved])]
  have round : round? step tasks fuel w = some (turns step fuel
      (ts.filter fun t => (step w t).isSome) (exhaust (fun w => step w t) (fuel w) w)) := by
    rw [round?, ready]
    rfl
  -- The first round begins with the given step, and everything after it is steps.
  rw [settle, exhaust_of_some round enough]
  refine exhaust_induction (fun _ _ hv round => round_induction keep hv round) _ _ ?_
  rw [exhaust_of_some moved enough]
  exact turns_induction keep _ (exhaust_step_induction keep t _ h)

end Keeping

end Rounds

end ContainerWatch
