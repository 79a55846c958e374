import ContainerWatch.Entries

/-!
Entries as finite maps: what each operation leaves under a name, and that names stay distinct.
-/

namespace ContainerWatch.Entries

variable {α : Type}

theorem get?_put (name other : String) (v : α) (es : Entries α) :
    get? other (put name v es) = if other = name then some v else get? other es := by
  by_cases h : other = name
  · rw [if_pos h, h, get?_put_self]
  · rw [if_neg h, get?_put_of_ne h]

theorem get?_remove_of_ne {name other : String} (h : other ≠ name) (es : Entries α) :
    get? other (remove name es) = get? other es := by
  induction es with
  | nil => rfl
  | cons p rest ih =>
    by_cases hp : p.1 = name
    · simp [remove, get?, hp, ih, Ne.symm h]
    · simp [remove, get?, hp, ih]

theorem get?_filter (keep : String → Bool) (name : String) (es : Entries α) :
    get? name (es.filter fun p => keep p.1) = if keep name then get? name es else none := by
  induction es with
  | nil => simp
  | cons p rest ih =>
    by_cases hp : p.1 = name
    · cases hk : keep name <;> simp [get?, hp, hk, ih]
    · cases hk : keep p.1 <;> simp [get?, hp, hk, ih]

theorem mem_of_get? {name : String} {v : α} {es : Entries α} (h : get? name es = some v) :
    (name, v) ∈ es := by
  induction es with
  | nil => simp at h
  | cons p rest ih =>
    obtain ⟨k, w⟩ := p
    by_cases hp : k = name
    · obtain rfl : w = v := by simpa [get?, hp] using h
      simp [hp]
    · exact List.mem_cons_of_mem _ (ih (by simpa [get?, hp] using h))

theorem get?_of_mem {name : String} {v : α} {es : Entries α} (nodup : es.keys.Nodup)
    (h : (name, v) ∈ es) : get? name es = some v := by
  induction es with
  | nil => simp at h
  | cons p rest ih =>
    obtain ⟨k, w⟩ := p
    obtain ⟨hk, hn⟩ := List.nodup_cons.mp nodup
    rcases List.mem_cons.mp h with he | hm
    · obtain ⟨rfl, rfl⟩ := Prod.mk.inj he
      simp [get?]
    · have hp : k ≠ name := by
        rintro rfl
        exact hk (List.mem_map.mpr ⟨_, hm, rfl⟩)
      rw [get?, if_neg hp]
      exact ih hn hm

theorem mem_keys_iff {name : String} {es : Entries α} :
    name ∈ es.keys ↔ ∃ v, get? name es = some v := by
  constructor
  · intro h
    induction es with
    | nil => simp [keys] at h
    | cons p rest ih =>
      by_cases hp : p.1 = name
      · exact ⟨p.2, by simp [get?, hp]⟩
      · have hm : name ∈ keys rest := by
          rcases List.mem_cons.mp h with he | hm
          · exact absurd he.symm hp
          · exact hm
        obtain ⟨v, hv⟩ := ih hm
        exact ⟨v, by simp [get?, hp, hv]⟩
  · rintro ⟨v, h⟩
    exact List.mem_map_of_mem (mem_of_get? h)

theorem keys_put (name : String) (v : α) (es : Entries α) :
    keys (put name v es) = if name ∈ keys es then keys es else keys es ++ [name] := by
  induction es with
  | nil => simp [put, keys]
  | cons p rest ih =>
    by_cases hp : p.1 = name
    · simp [put, keys, hp]
    · have ht : keys (put name v (p :: rest)) = p.1 :: keys (put name v rest) := by
        simp [put, keys, hp]
      rw [ht, ih]
      by_cases hm : name ∈ keys rest
      · simp [keys] at hm ⊢
        simp [hm]
      · simp [keys] at hm ⊢
        simp [hm, Ne.symm hp]

theorem put_of_notMem {name : String} {v : α} {es : Entries α} (fresh : name ∉ es.keys) :
    es.put name v = es ++ [(name, v)] := by
  induction es with
  | nil => rfl
  | cons p rest ih =>
    obtain ⟨first, others⟩ := not_or.mp (mt List.mem_cons.mpr fresh)
    simp [put, Ne.symm first, ih others]

theorem mem_put {name : String} {v : α} {es : Entries α} {p : String × α}
    (h : p ∈ es.put name v) : p = (name, v) ∨ p ∈ es := by
  induction es with
  | nil => exact .inl (List.mem_singleton.mp h)
  | cons q rest ih =>
    rw [put] at h
    split at h
    · next same =>
      rcases List.mem_cons.mp h with rfl | old
      · exact .inl (by rw [same])
      · exact .inr (List.mem_cons_of_mem _ old)
    · rcases List.mem_cons.mp h with rfl | later
      · exact .inr List.mem_cons_self
      · exact (ih later).imp_right (List.mem_cons_of_mem _)

theorem nodup_put {name : String} {v : α} {es : Entries α} (h : es.keys.Nodup) :
    (es.put name v).keys.Nodup := by
  rw [keys_put]
  split
  · exact h
  · next hm =>
    refine List.nodup_append.mpr ⟨h, by simp, fun k hk l hl => ?_⟩
    rintro rfl
    exact hm (List.mem_singleton.mp hl ▸ hk)

theorem keys_remove (name : String) (es : Entries α) :
    keys (remove name es) = (keys es).filter (· ≠ name) := by
  induction es with
  | nil => rfl
  | cons p rest ih =>
    by_cases hp : p.1 = name
    · simp [remove, keys, hp] at ih ⊢
      exact ih
    · simp [remove, keys, hp] at ih ⊢
      exact ih

theorem nodup_remove {name : String} {es : Entries α} (h : es.keys.Nodup) :
    (es.remove name).keys.Nodup := by
  rw [keys_remove]
  exact h.sublist List.filter_sublist

theorem nodup_filter {es : Entries α} (keep : String × α → Bool) (h : es.keys.Nodup) :
    keys (es.filter keep) |>.Nodup :=
  h.sublist (List.Sublist.map Prod.fst List.filter_sublist)

/-! ### Pairs put in one by one -/

theorem ofPairs_append_singleton (ps : List (String × α)) (p : String × α) :
    ofPairs (ps ++ [p]) = put p.1 p.2 (ofPairs ps) := by
  simp [ofPairs]

theorem nodup_ofPairs (ps : List (String × α)) : (ofPairs ps).keys.Nodup := by
  obtain ⟨qs, rfl⟩ : ∃ qs, ps = qs.reverse := ⟨ps.reverse, by simp⟩
  induction qs with
  | nil => simp [ofPairs, keys]
  | cons p qs ih =>
    rw [List.reverse_cons, ofPairs_append_singleton]
    exact nodup_put ih

/-- A repeated name keeps its first place. -/
theorem keys_ofPairs (ps : List (String × α)) :
    (ofPairs ps).keys = (ps.map Prod.fst).eraseDups := by
  -- By the pairs from the last one on, since that is the one put in last.
  obtain ⟨qs, rfl⟩ : ∃ qs, ps = qs.reverse := ⟨ps.reverse, by simp⟩
  induction qs with
  | nil => rfl
  | cons p qs ih =>
    rw [List.reverse_cons, ofPairs_append_singleton, keys_put, ih, List.map_append,
      List.eraseDups_append]
    by_cases known : p.1 ∈ qs.map Prod.fst
    · have none_ : [p.1].removeAll (qs.reverse.map Prod.fst) = [] := by
        simpa [List.removeAll] using known
      rw [if_pos (by simpa using known), List.map_singleton, none_]
      simp
    · have some_ : [p.1].removeAll (qs.reverse.map Prod.fst) = [p.1] := by
        simpa [List.removeAll] using known
      rw [if_neg (by simpa using known), List.map_singleton, some_]
      rfl

/-- A repeated name takes its last value. -/
theorem get?_ofPairs (ps : List (String × α)) (name : String) :
    (ofPairs ps).get? name = get? name ps.reverse := by
  obtain ⟨qs, rfl⟩ : ∃ qs, ps = qs.reverse := ⟨ps.reverse, by simp⟩
  rw [List.reverse_reverse]
  induction qs with
  | nil => rfl
  | cons p qs ih =>
    rw [List.reverse_cons, ofPairs_append_singleton, get?_put, ih]
    by_cases h : p.1 = name
    · simp [get?, h]
    · simp [get?, h, Ne.symm h]

end ContainerWatch.Entries
