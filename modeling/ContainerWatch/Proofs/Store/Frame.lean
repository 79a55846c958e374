import ContainerWatch.Proofs.Store.Steps

/-!
What the changes of a store leave alone. Synchronising, completing entries and recording samples
touch the table and the feeds, but neither subscribers nor sampling.
-/

namespace ContainerWatch

namespace Store

/-- A change of a store that tells its subscribers nothing. -/
structure Quiet (s t : Store) : Prop where
  settings : t.settings = s.settings
  events : t.events = s.events
  newContainers : t.newContainers = s.newContainers

/-- A change of a store that leaves sampling alone, too. -/
structure Still (s t : Store) : Prop extends Quiet s t where
  sampling : t.sampling = s.sampling

theorem Still.refl (s : Store) : s.Still s := ⟨⟨rfl, rfl, rfl⟩, rfl⟩

theorem Still.trans {s t u : Store} (h : s.Still t) (h' : t.Still u) : s.Still u where
  settings := h'.settings.trans h.settings
  events := h'.events.trans h.events
  newContainers := h'.newContainers.trans h.newContainers
  sampling := h'.sampling.trans h.sampling

theorem still_startFeed (s : Store) : s.Still s.startFeed := by
  unfold startFeed
  cases s.feed <;> exact ⟨⟨rfl, rfl, rfl⟩, rfl⟩

theorem still_beginSync (s : Store) : s.Still s.beginSync :=
  Still.trans (t := { s with connected := true }) ⟨⟨rfl, rfl, rfl⟩, rfl⟩ (still_startFeed _)

theorem still_failSync (s : Store) : s.Still s.failSync := by
  unfold failSync note
  cases s.feed <;> exact ⟨⟨rfl, rfl, rfl⟩, rfl⟩

theorem still_absorb (s : Store) (listing : List Container) : s.Still (s.absorb listing) := by
  have entered : s.Still (s.enterAll listing) := by
    induction listing generalizing s with
    | nil => exact .refl s
    | cons c rest ih =>
      have upserted : s.Still (s.upsert c).1 := ⟨⟨rfl, rfl, rfl⟩, rfl⟩
      exact upserted.trans (ih (s.upsert c).1)
  exact entered.trans ⟨⟨rfl, rfl, rfl⟩, rfl⟩

theorem still_enrich (s : Store) (o : InspectOutcome) : s.Still (s.enrich o) := by
  cases o with
  | timedOut => exact ⟨⟨rfl, rfl, rfl⟩, rfl⟩
  | answered reply =>
    cases reply with
    | error fault => exact ⟨⟨rfl, rfl, rfl⟩, rfl⟩
    | ok c =>
      rw [enrich_eq]
      split
      · split <;> exact ⟨⟨rfl, rfl, rfl⟩, rfl⟩
      · exact .refl s

theorem still_load (s : Store) (id : String) (reply : Except HostFault Container) :
    s.Still (s.load id reply).store := by
  cases reply with
  | ok c =>
    rw [load_store]
    exact still_enrich s (.answered (.ok c))
  | error fault => cases fault <;> exact ⟨⟨rfl, rfl, rfl⟩, rfl⟩

theorem still_recordSample (s : Store) (u : Usage) : s.Still (s.recordSample u) := by
  unfold recordSample
  split <;> exact ⟨⟨rfl, rfl, rfl⟩, rfl⟩

theorem still_amend (s : Store) (e : ContainerEvent) (f : Container → Container) :
    s.Still (s.amend e f).store := by
  unfold amend
  split <;> exact ⟨⟨rfl, rfl, rfl⟩, rfl⟩

theorem still_rename (s : Store) (e : ContainerEvent) (reply : Except HostFault Container) :
    s.Still (s.rename e reply).store := by
  unfold rename
  split
  · exact still_amend s e _
  · exact still_amend s e _
  · exact .refl s

theorem publish_sampling (trackedBefore : Bool) (id : String) (h : Handled) :
    (publish trackedBefore id h).sampling = h.store.sampling := by
  unfold publish
  repeat' split
  all_goals rfl

end Store

namespace World

theorem miss_store (w : World) (i : Nat) (r : StoreRead) (id : String) :
    (w.miss i r id).store = w.store := by
  unfold miss
  split
  · split <;> rfl
  · rfl

theorem load_store (w : World) (i : Nat) (r : StoreRead) (id : String) :
    (w.load i r id).store = (w.store.load id (w.host.details id)).store := by
  unfold load
  simp only
  split
  · rfl
  · rw [miss_store]
  · rfl

end World

end ContainerWatch
