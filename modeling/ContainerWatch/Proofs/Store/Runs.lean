import ContainerWatch.Proofs.Rounds
import ContainerWatch.Proofs.Store.Steps

/-!
Runs of a world. Between the steps of its tasks, anything may happen outside: the host changes,
events are sent, time passes, reads begin or are given up, subscribers come and go. A path notes
the deeds that were done on the way. Letting a world settle, await or perform follows paths.
-/

namespace ContainerWatch

namespace Deed

theorem tidy {d : Deed} {s : Store} (h : Store.Tidy s.tracked) : Store.Tidy (d.table s) := by
  cases d with
  | rest => exact h
  | list listing => exact Store.tidy_absorb h listing
  | complete c => exact Store.tidy_enrich h c
  | handle e reply => exact Store.tidy_handle h
  | sample u => exact Store.tidy_recordSample h u

end Deed

namespace World

/-- Something happens outside of the tasks. The table, its settings and what the dispatcher has
taken on stay; no read gets outcomes of inspects in this way. -/
structure Outside (w w' : World) : Prop where
  settings : w'.store.settings = w.store.settings
  tracked : w'.store.tracked = w.store.tracked
  dispatcher : w'.dispatcher = w.dispatcher
  queue : w'.queue = w.queue
  outcomes : ∀ o ∈ w'.outcomes, o ∈ w.outcomes

/-- A way from one world to another, with the deeds done on it. -/
inductive Path (w : World) : List Deed → World → Prop
  | nil : Path w [] w
  | outside {ds v v'} (out : v.Outside v') (h : Path w ds v) : Path w ds v'
  | step {ds v v'} (t : Task) (moved : v.step? t = some v') (h : Path w ds v) :
    Path w (ds ++ [v.deed t]) v'

def initial (settings : StoreSettings) (host : ScriptedHost) : World :=
  { host, store := .ofSettings settings host.host }

/-! ### Settling -/

theorem settle_eq (w : World) : w.settle = Rounds.settle step? tasks fuel w := by
  have round : round? = Rounds.round? step? tasks fuel := by
    funext w
    unfold round? Rounds.round?
    cases w.tasks.filter fun t => (w.step? t).isSome <;> rfl
  rw [settle, round]
  rfl

section Settling

variable {P : World → Prop} (keep : ∀ w t w', P w → w.step? t = some w' → P w') {w w' : World}
include keep

theorem settle_induction (h : P w) : P w.settle := by
  rw [settle_eq]
  exact Rounds.settle_induction keep h

theorem settle_of_first {v : World} {t : Task} {ts : List Task} (first : w.tasks = t :: ts)
    (moved : w.step? t = some v) (h : P v) : P w.settle := by
  have enough : 0 < w.fuel := by
    simp only [fuel]
    omega
  rw [settle_eq]
  exact Rounds.settle_of_first keep enough first moved h

theorem await_induction (pass : ∀ w t, P w → P { w with clock := t }) (fuel : Nat)
    (h : P w.settle) : P (w.await fuel) := by
  induction fuel generalizing w with
  | zero => exact h
  | succ fuel ih =>
    rw [await]
    split
    · split
      · exact ih (settle_induction keep (pass _ _ h))
      · exact h
    · exact h

end Settling

/-! ### Paths -/

variable {settings : StoreSettings} {host : ScriptedHost} {w v u : World} {ds es : List Deed}

theorem Path.next (v : World) (t : Task) (v' : World) (h : ∃ ds, Path w ds v)
    (moved : v.step? t = some v') : ∃ ds, Path w ds v' := by
  obtain ⟨ds, h⟩ := h
  exact ⟨_, h.step t moved⟩

theorem Path.settle (h : Path w ds v) : ∃ es, Path w es v.settle :=
  settle_induction Path.next ⟨ds, h⟩

theorem Path.await (fuel : Nat) (h : Path w ds v) : ∃ es, Path w es (v.await fuel) := by
  refine await_induction Path.next (fun v t hv => ?_) fuel h.settle
  obtain ⟨es, hv⟩ := hv
  have passed : v.Outside { v with clock := t } := ⟨rfl, rfl, rfl, rfl, fun _ ho => ho⟩
  exact ⟨es, hv.outside passed⟩

theorem Path.perform (errands : List Errand) (emission : Option ContainerEvent)
    (h : Path w ds v) : ∃ es, Path w es (v.perform errands emission).2 := by
  have fresh : v.Outside { v with reads := errands.map fun errand => { errand }, emission } := by
    refine ⟨rfl, rfl, rfl, rfl, fun o ho => ?_⟩
    obtain ⟨r, hr, hm⟩ := List.mem_flatMap.mp ho
    obtain ⟨errand, -, rfl⟩ := List.mem_map.mp hr
    simp [StoreRead.outcomes] at hm
  have alone : ∀ v : World, v.Outside { v with reads := [], emission := none } :=
    fun v => ⟨rfl, rfl, rfl, rfl, fun o ho => by simp [outcomes] at ho⟩
  unfold World.perform
  obtain ⟨es, h⟩ := (h.outside fresh).await _
  exact ⟨es, h.outside (alone _)⟩

theorem Path.start (settings : StoreSettings) (host : ScriptedHost) :
    ∃ es, Path (initial settings host) es (start settings host) := by
  obtain ⟨_, h⟩ := (Path.nil : Path (initial settings host) [] _).perform [.connect] none
  exact h.settle

theorem Path.tuning (h : Path w ds v) : v.store.settings = w.store.settings := by
  induction h with
  | nil => rfl
  | outside out h ih => exact out.settings.trans ih
  | step t moved h ih => exact (step_of_step? moved).settings.trans ih

def moved (w : World) (t : Task) : World := (w.step? t).getD w

theorem step?_moved {w : World} {t : Task} (h : (w.step? t).isSome = true) :
    w.step? t = some (w.moved t) := by
  obtain ⟨w', hw⟩ := Option.isSome_iff_exists.mp h
  simp [moved, hw]

structure Sound (w : World) : Prop where
  tidy : Store.Tidy w.store.tracked
  loaded : ∀ c, .answered (.ok c) ∈ w.outcomes → c.fullyLoaded = true

theorem Sound.step {t : Task} (h : Sound w) (moved : w.step? t = some v) : Sound v := by
  have hs := step_of_step? moved
  refine ⟨hs.tracked ▸ Deed.tidy h.tidy, fun c hc => ?_⟩
  rcases hs.outcomes _ hc with hm | hm | ⟨id, hm⟩
  · exact h.loaded c hm
  · simp at hm
  · obtain hm := InspectOutcome.answered.inj hm
    exact (ScriptedHost.details_id hm.symm).2

theorem Sound.outside (h : Sound w) (out : w.Outside v) : Sound v :=
  ⟨out.tracked ▸ h.tidy, fun c hc => h.loaded c (out.outcomes _ hc)⟩

theorem Path.sound (start : Sound w) (h : Path w ds v) : Sound v := by
  induction h with
  | nil => exact start
  | outside out h ih => exact ih.outside out
  | step t moved h ih => exact ih.step moved

theorem sound_initial (settings : StoreSettings) (host : ScriptedHost) :
    Sound (initial settings host) where
  tidy := ⟨by simp [initial, Store.ofSettings, Entries.keys], by simp [initial, Store.ofSettings]⟩
  loaded := by simp [initial, outcomes]

/-- What completes an entry in a run comes from an inspect. -/
theorem Sound.completes {c : Container} (h : Sound w) (possible : w.Possible (.complete c)) :
    c.fullyLoaded = true := by
  rcases possible.2 with hm | ⟨id, asked⟩
  · exact h.loaded c hm
  · exact (ScriptedHost.details_id asked).2

end World

end ContainerWatch
