import ContainerWatch.Proofs.Sampling.Sessions
import ContainerWatch.Proofs.Store.Runs

/-!
Courses of a world. Between the steps of its tasks only such things happen as a host, the clock and
the users of a store bring about, and the course remembers in which world each step was taken. So a
course says more than the path that it is.
-/

namespace ContainerWatch

def Broadcast.queued {α : Type} (b : Broadcast α) : List α := b.subscribers.flatMap (·.queue)

namespace World

/-- What happens outside of the tasks. Events come from the host without a container. -/
inductive Happens (w : World) : World → Prop
  | host (host : ScriptedHost) : Happens w { w with host }
  | disconnect : Happens w w.disconnect
  | pass (clock : Nat) : Happens w { w with clock }
  | begin (errands : List Errand) :
    Happens w { w with reads := w.reads ++ errands.map fun errand => { errand } }
  | leave {reads : List StoreRead} (fewer : reads.Sublist w.reads) : Happens w { w with reads }
  | emit {emission : Option ContainerEvent} (bare : ∀ e ∈ emission, e.container = none) :
    Happens w { w with emission }
  | use {sampling : Sampling} (used : w.store.sampling.Use sampling) :
    Happens w { w with store := w.store.onSampling fun _ => sampling }
  | watch {events : Broadcast ContainerEvent}
    (fewer : ∀ e ∈ events.queued, e ∈ w.store.events.queued) :
    Happens w { w with store := { w.store with events } }
  | watchNew {newContainers : Broadcast Container}
    (fewer : ∀ c ∈ newContainers.queued, c ∈ w.store.newContainers.queued) :
    Happens w { w with store := { w.store with newContainers } }
  | report (notices : List Notice) : Happens w { w with store := { w.store with notices } }

/-- A way from one world to another, with the steps taken on it, each in its world. -/
inductive Course (w : World) : List (World × Task) → World → Prop
  | nil : Course w [] w
  | happens {hs v v'} (out : v.Happens v') (h : Course w hs v) : Course w hs v'
  | step {hs v v'} (t : Task) (moved : v.step? t = some v') (h : Course w hs v) :
    Course w (hs ++ [(v, t)]) v'

def deeds (hs : List (World × Task)) : List Deed := hs.map fun p => p.1.deed p.2

@[simp] theorem deeds_append_singleton (hs : List (World × Task)) (v : World) (t : Task) :
    deeds (hs ++ [(v, t)]) = deeds hs ++ [v.deed t] := by
  simp [deeds]

variable {w v u : World} {hs : List (World × Task)}

theorem Happens.outside (h : w.Happens v) : w.Outside v := by
  cases h with
  | begin errands =>
    refine ⟨rfl, rfl, rfl, rfl, fun o ho => ?_⟩
    obtain ⟨r, hr, hm⟩ := List.mem_flatMap.mp ho
    rcases List.mem_append.mp hr with old | new
    · exact List.mem_flatMap.mpr ⟨r, old, hm⟩
    · obtain ⟨errand, -, rfl⟩ := List.mem_map.mp new
      simp [StoreRead.outcomes] at hm
  | leave fewer =>
    refine ⟨rfl, rfl, rfl, rfl, fun o ho => ?_⟩
    obtain ⟨r, hr, hm⟩ := List.mem_flatMap.mp ho
    exact List.mem_flatMap.mpr ⟨r, fewer.subset hr, hm⟩
  | _ => exact ⟨rfl, rfl, rfl, rfl, fun _ ho => ho⟩

theorem Course.path (h : Course w hs v) : Path w (deeds hs) v := by
  induction h with
  | nil => exact .nil
  | happens out h ih => exact ih.outside out.outside
  | step t moved h ih =>
    rw [deeds_append_singleton]
    exact ih.step t moved

/-! ### Settling, waiting and performing -/

theorem Course.next (v : World) (t : Task) (v' : World) (h : ∃ hs, Course w hs v)
    (moved : v.step? t = some v') : ∃ hs, Course w hs v' := by
  obtain ⟨hs, h⟩ := h
  exact ⟨_, h.step t moved⟩

theorem Course.settle (h : Course w hs v) : ∃ hs, Course w hs v.settle :=
  settle_induction Course.next ⟨hs, h⟩

theorem Course.await (fuel : Nat) (h : Course w hs v) : ∃ hs, Course w hs (v.await fuel) := by
  refine await_induction Course.next (fun v t hv => ?_) fuel h.settle
  obtain ⟨hs, hv⟩ := hv
  exact ⟨hs, hv.happens (.pass t)⟩

theorem Course.perform (errands : List Errand) (emission : Option ContainerEvent)
    (bare : ∀ e ∈ emission, e.container = none) (h : Course w hs v) :
    ∃ hs, Course w hs (v.perform errands emission).2 := by
  have begun : Course w hs
      { v with reads := errands.map fun errand => { errand }, emission } :=
    ((h.happens (.leave (List.nil_sublist _))).happens (.begin errands)).happens (.emit bare)
  unfold World.perform
  obtain ⟨hs, h⟩ := begun.await _
  exact ⟨hs, (h.happens (.leave (List.nil_sublist _))).happens (.emit (by simp))⟩

theorem Course.start (settings : StoreSettings) (host : ScriptedHost) :
    ∃ hs, Course (initial settings host) hs (start settings host) := by
  obtain ⟨_, h⟩ := (Course.nil : Course (initial settings host) [] _).perform [.connect] none
    (by simp)
  exact h.settle

end World

end ContainerWatch
