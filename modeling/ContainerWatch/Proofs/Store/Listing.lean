import ContainerWatch.Proofs.Store.Table

/-!
What a listing makes of the table, whatever stood in it before: an entry for each listed identifier
and no other, with the history that the identifier had. Those of them that run and are not filled in
are the ones that a synchronisation is to inspect, each once.
-/

namespace ContainerWatch

/-- The container that a listing has under an identifier, the last one if there are several. -/
def lastListed (listing : List Container) (id : String) : Option Container :=
  listing.reverse.find? fun c => c.id = id

theorem id_of_lastListed {listing : List Container} {id : String} {c : Container}
    (h : lastListed listing id = some c) : c.id = id := by
  simpa using List.find?_some h

theorem mem_of_lastListed {listing : List Container} {id : String} {c : Container}
    (h : lastListed listing id = some c) : c ∈ listing :=
  List.mem_reverse.mp (List.mem_of_find?_eq_some h)

theorem isSome_lastListed {listing : List Container} {id : String} :
    (∃ c, lastListed listing id = some c) ↔ id ∈ listing.map (·.id) := by
  constructor
  · rintro ⟨c, h⟩
    exact List.mem_map.mpr ⟨c, mem_of_lastListed h, id_of_lastListed h⟩
  · intro h
    obtain ⟨c, hc, rfl⟩ := List.mem_map.mp h
    refine Option.isSome_iff_exists.mp (List.find?_isSome.mpr ⟨c, List.mem_reverse.mpr hc, ?_⟩)
    simp

theorem lastListed_cons (c : Container) (rest : List Container) (id : String) :
    lastListed (c :: rest) id =
      (lastListed rest id).or (if c.id = id then some c else none) := by
  rw [lastListed, List.reverse_cons, List.find?_append, lastListed]
  by_cases named : c.id = id <;> simp [named]

namespace Store

theorem get?_enterAll (s : Store) (listing : List Container) (id : String) :
    (s.enterAll listing).tracked.get? id =
      ((lastListed listing id).map (·.succeeding s.settings (s.tracked.get? id))).or
        (s.tracked.get? id) := by
  induction listing generalizing s with
  | nil => rfl
  | cons c rest ih =>
    have entered : (s.enterAll (c :: rest)).tracked.get? id =
        ((s.upsert c).1.enterAll rest).tracked.get? id := rfl
    rw [entered, ih, lastListed_cons, get?_upsert]
    by_cases named : id = c.id
    · subst named
      rw [if_pos rfl, if_pos rfl]
      cases lastListed rest c.id <;> rfl
    · rw [if_neg named, if_neg (Ne.symm named)]
      cases lastListed rest id <;> rfl

theorem get?_absorb (s : Store) (listing : List Container) (id : String) :
    (s.absorb listing).tracked.get? id =
      (lastListed listing id).map (·.succeeding s.settings (s.tracked.get? id)) := by
  have kept := Entries.get?_filter (listing.map (·.id)).contains id (s.enterAll listing).tracked
  have table : (s.absorb listing).tracked.get? id =
      if (listing.map (·.id)).contains id then (s.enterAll listing).tracked.get? id else none :=
    kept
  rw [table, get?_enterAll]
  by_cases listed : id ∈ listing.map (·.id)
  · obtain ⟨c, hc⟩ := isSome_lastListed.mpr listed
    rw [if_pos (by simpa using listed), hc]
    rfl
  · rw [if_neg (by simpa using listed)]
    cases hc : lastListed listing id with
    | none => rfl
    | some c => exact absurd (isSome_lastListed.mp ⟨c, hc⟩) listed

/-- A listing leaves the table in order, whatever stood in it before. -/
theorem tidy_absorb_of_nodup {s : Store} (map : s.tracked.keys.Nodup) (listing : List Container) :
    Tidy (s.absorb listing).tracked where
  nodup := by
    have entered : (s.enterAll listing).tracked.keys.Nodup := by
      induction listing generalizing s with
      | nil => exact map
      | cons c rest ih =>
        have upserted : (s.upsert c).1.tracked.keys.Nodup := Entries.nodup_put map
        exact ih upserted
    exact Entries.nodup_filter _ entered
  keyed id c known := by
    rw [get?_absorb] at known
    obtain ⟨d, listed, rfl⟩ := Option.map_eq_some_iff.mp known
    have named := id_of_lastListed listed
    exact named

theorem Tidy.ids_values {table : Entries Container} (h : Tidy table) :
    table.values.map (·.id) = table.keys := by
  simp only [Entries.values, Entries.keys, List.map_map]
  refine List.map_congr_left fun p hp => ?_
  exact h.keyed p.1 p.2 (Entries.get?_of_mem h.nodup hp)

theorem nodup_pending {s : Store} (tidy : Tidy s.tracked) : s.pending.Nodup := by
  have ids : (s.tracked.values.map (·.id)).Nodup := tidy.ids_values ▸ tidy.nodup
  exact ids.sublist (List.Sublist.map _ List.filter_sublist)

theorem mem_pending {s : Store} (tidy : Tidy s.tracked) {id : String} :
    id ∈ s.pending ↔
      ∃ c, s.tracked.get? id = some c ∧ c.isRunning = true ∧ c.fullyLoaded = false := by
  simp only [pending, List.mem_map, List.mem_filter, Bool.and_eq_true, Bool.not_eq_true']
  constructor
  · rintro ⟨c, ⟨held, running, partial_⟩, rfl⟩
    obtain ⟨⟨key, d⟩, entry, rfl⟩ := List.mem_map.mp held
    have known := Entries.get?_of_mem tidy.nodup entry
    rw [← tidy.keyed key d known] at known
    exact ⟨d, known, running, partial_⟩
  · rintro ⟨c, known, running, partial_⟩
    have held := List.mem_map_of_mem (f := Prod.snd) (Entries.mem_of_get? known)
    exact ⟨c, ⟨held, running, partial_⟩, tidy.keyed id c known⟩

end Store

end ContainerWatch
