import ContainerWatch.Proofs.Entries
import ContainerWatch.Sampling.Task

/-!
The registry of samplers, operation by operation. A registered sampler is the one of its container;
what can be said of all registered samplers stays true of those that are left.
-/

namespace ContainerWatch

namespace Sampling

variable {P Q : Sampler → Prop} {s : Sampling} {id other : String} {k session : Nat}

/-- The registered samplers are those of their containers, and have a property. -/
def Registry (P : Sampler → Prop) (s : Sampling) : Prop :=
  ∀ id k, s.registered.get? id = some k → ∃ t, s.samplers[k]? = some t ∧ t.id = id ∧ P t

theorem mem_ids : id ∈ s.ids ↔ ∃ k, s.registered.get? id = some k := Entries.mem_keys_iff

theorem mem_ids_addSampler :
    other ∈ (s.addSampler session id).ids ↔ other ∈ s.ids ∨ other = id := by
  unfold addSampler
  split
  · next known =>
    have known : id ∈ s.ids := mem_ids.mpr (Option.isSome_iff_exists.mp known)
    constructor
    · exact Or.inl
    · rintro (sampled | rfl)
      · exact sampled
      · exact known
  · simp only [ids, Entries.keys_put]
    split
    · next known =>
      constructor
      · exact Or.inl
      · rintro (sampled | rfl)
        · exact sampled
        · exact known
    · rw [List.mem_append, List.mem_singleton]

theorem mem_ids_containerDied :
    other ∈ (s.containerDied id).ids ↔ other ∈ s.ids ∧ other ≠ id := by
  unfold containerDied
  split
  · simp only [ids, note, Entries.keys_remove, List.mem_filter, decide_eq_true_eq]
  · next unknown =>
    constructor
    · intro sampled
      refine ⟨sampled, ?_⟩
      rintro rfl
      obtain ⟨k, known⟩ := mem_ids.mp sampled
      rw [unknown] at known
      simp at known
    · exact And.left

/-- The end of a sampler takes its own registration away, and no other. -/
theorem mem_ids_endSampler {t : Sampler} (sampler : s.samplers[k]? = some t) :
    other ∈ (s.endSampler k).ids ↔
      other ∈ s.ids ∧ ¬ (other = t.id ∧ s.registered.get? t.id = some k) := by
  simp only [endSampler, sampler]
  split
  · next own =>
    simp only [ids, Entries.keys_remove, List.mem_filter, decide_eq_true_eq, own, and_true]
  · next own => simp only [ids, own, and_false, not_false_eq_true, and_true]

namespace Registry

theorem mono (h : Registry P s) (weaker : ∀ t, P t → Q t) : Registry Q s := by
  intro id k known
  obtain ⟨t, sampler, named, property⟩ := h id k known
  exact ⟨t, sampler, named, weaker t property⟩

theorem injective (h : Registry P s) (known : s.registered.get? id = some k)
    (shared : s.registered.get? other = some k) : other = id := by
  obtain ⟨t, sampler, named, -⟩ := h id k known
  obtain ⟨u, sampler', named', -⟩ := h other k shared
  obtain rfl := Option.some.inj (sampler.symm.trans sampler')
  exact named'.symm.trans named

theorem modify_of_ne (h : Registry P s) {f : Sampler → Sampler} {registered : Entries Nat}
    (fewer : ∀ id j, registered.get? id = some j → s.registered.get? id = some j ∧ j ≠ k) :
    Registry P { s with samplers := s.samplers.modify k f, registered } := by
  intro id j known
  obtain ⟨known, apart⟩ := fewer id j known
  obtain ⟨t, sampler, named, property⟩ := h id j known
  refine ⟨t, ?_, named, property⟩
  simp [Ne.symm apart, sampler]

theorem onSampler (h : Registry P s) {f : Sampler → Sampler}
    (keeps : ∀ t, P t → (f t).id = t.id ∧ P (f t)) : Registry P (s.onSampler k f) := by
  intro id j known
  obtain ⟨t, sampler, named, property⟩ := h id j known
  by_cases same : k = j
  · refine ⟨f t, ?_, (keeps t property).1.trans named, (keeps t property).2⟩
    simp [Sampling.onSampler, same, sampler]
  · refine ⟨t, ?_, named, property⟩
    simp [Sampling.onSampler, same, sampler]

theorem addSampler (h : Registry P s) (new : P { id, session }) :
    Registry P (s.addSampler session id) := by
  unfold Sampling.addSampler
  split
  · exact h
  · intro x j known
    simp only [Entries.get?_put] at known
    split at known
    · next named =>
      obtain rfl := Option.some.inj known
      exact ⟨_, List.getElem?_concat_length, named.symm, new⟩
    · obtain ⟨t, sampler, named, property⟩ := h x j known
      have old : j < s.samplers.length := (List.getElem?_eq_some_iff.mp sampler).1
      exact ⟨t, (List.getElem?_append_left old).trans sampler, named, property⟩

theorem containerDied (h : Registry P s) : Registry P (s.containerDied id) := by
  unfold Sampling.containerDied
  split
  · next k registered =>
    refine h.modify_of_ne fun x j known => ?_
    replace known : (s.registered.remove id).get? x = some j := known
    by_cases dead : x = id
    · subst dead
      simp [Entries.get?_remove_self] at known
    · rw [Entries.get?_remove_of_ne dead] at known
      refine ⟨known, ?_⟩
      rintro rfl
      exact dead (h.injective registered known)
  · exact h

theorem endSampler (h : Registry P s) : Registry P (s.endSampler k) := by
  unfold Sampling.endSampler
  split
  · next t sampler =>
    refine h.modify_of_ne fun x j known => ?_
    split at known
    · next own =>
      by_cases named : x = t.id
      · subst named
        simp [Entries.get?_remove_self] at known
      · rw [Entries.get?_remove_of_ne named] at known
        refine ⟨known, ?_⟩
        rintro rfl
        exact named (h.injective own known)
    · next foreign =>
      refine ⟨known, ?_⟩
      rintro rfl
      obtain ⟨u, sampler', rfl, -⟩ := h x j known
      obtain rfl := Option.some.inj (sampler.symm.trans sampler')
      exact foreign known
  · exact h

end Registry

end Sampling

end ContainerWatch
