import ContainerWatch.Proofs.Entries
import ContainerWatch.Store.Handling
import ContainerWatch.Store.Sync

/-!
What each change of a store leaves in its table, entry by entry: handling an event, taking a listing
or an answer over, recording a sample.
-/

namespace ContainerWatch

def Container.succeeding (c : Container) (settings : StoreSettings) (old : Option Container) :
    Container :=
  { c with stats := (old.map (·.stats)).getD (History.empty settings.sampling.history) }

def Container.buried (c : Container) (time : Stamp) : Container :=
  { c with state := .exited, finishedAt := some time }

def Container.completing (c old : Container) : Container :=
  if old.fullyLoaded then old else { c with stats := old.stats }

/-- The entry of the container of an event after it was handled. -/
def ContainerEvent.entryAfter (e : ContainerEvent) (settings : StoreSettings)
    (reply : Except HostFault Container) (old : Option Container) : Option Container :=
  match e.kind, reply with
  | .create, .ok c | .start, .ok c =>
    if settings.filter.accepts c.labels then some (c.succeeding settings old) else old
  | .destroy, _ => none
  | .die, _ => old.map (·.buried e.time)
  | .health status, _ => old.map fun c => { c with health := some status }
  | .rename, reply =>
    match e.attributes.get? nameAttribute, reply with
    | some name, _ => old.map fun c => { c with name := Store.wantedName name }
    | none, .ok loaded => old.map fun c => { c with name := loaded.name }
    | none, .error _ => old
  | .update, .ok loaded => old.map (·.refresh loaded)
  | _, _ => old

namespace Store

variable {s : Store} {e : ContainerEvent} {reply : Except HostFault Container}

/-! ### Handling -/

theorem get?_upsert (s : Store) (c : Container) (id : String) :
    (s.upsert c).1.tracked.get? id =
      if id = c.id then some (c.succeeding s.settings (s.tracked.get? c.id))
      else s.tracked.get? id := by
  simp only [upsert, Entries.get?_put, Container.succeeding]
  cases s.tracked.get? c.id <;> rfl

theorem get?_amend (f : Container → Container) (id : String) :
    (s.amend e f).store.tracked.get? id =
      if id = e.actorId then (s.tracked.get? id).map f else s.tracked.get? id := by
  unfold amend
  cases h : s.tracked.get? e.actorId with
  | some c =>
    simp only [Entries.get?_put]
    split
    · next hi => rw [hi, h]; rfl
    · rfl
  | none =>
    by_cases hi : id = e.actorId
    · simp [hi, h]
    · simp [hi]

theorem get?_welcome {c : Container} (named : c.id = e.actorId) (starts : Bool) (id : String) :
    (s.welcome e starts (.ok c)).store.tracked.get? id =
      if id = e.actorId then
        if s.settings.filter.accepts c.labels then
          some (c.succeeding s.settings (s.tracked.get? id))
        else s.tracked.get? id
      else s.tracked.get? id := by
  have hu := get?_upsert s c id
  rw [named] at hu
  cases ha : s.settings.filter.accepts c.labels with
  | false => simp [welcome, ha, note]
  | true =>
    by_cases hi : id = e.actorId
    · cases starts <;> simpa [welcome, ha, hi, announceNew, startSampling, onSampling] using hu
    · cases starts <;> simpa [welcome, ha, hi, announceNew, startSampling, onSampling] using hu

theorem get?_rename (id : String) : (s.rename e reply).store.tracked.get? id =
    if id = e.actorId then
      match e.attributes.get? nameAttribute, reply with
      | some name, _ => (s.tracked.get? id).map fun c => { c with name := wantedName name }
      | none, .ok loaded => (s.tracked.get? id).map fun c => { c with name := loaded.name }
      | none, .error _ => s.tracked.get? id
    else s.tracked.get? id := by
  unfold rename
  cases e.attributes.get? nameAttribute with
  | some name => exact get?_amend _ id
  | none =>
    cases reply with
    | ok loaded => exact get?_amend _ id
    | error fault => simp

theorem get?_renew (loaded : Container) (id : String) :
    (s.renew e (.ok loaded)).store.tracked.get? id =
      if id = e.actorId then (s.tracked.get? id).map (·.refresh loaded) else s.tracked.get? id := by
  have ha : (s.amend e (·.refresh loaded)).store.tracked.get? id =
      if id = e.actorId then (s.tracked.get? id).map (·.refresh loaded) else s.tracked.get? id :=
    get?_amend _ id
  unfold renew
  cases h : s.tracked.get? e.actorId with
  | none =>
    by_cases hi : id = e.actorId
    · simp [hi, h]
    · simp [hi]
  | some old =>
    simp only
    split
    · exact ha
    · exact ha

/-- Handling an event changes the entry of its container only. -/
theorem get?_handle (named : ∀ c, reply = .ok c → c.id = e.actorId) (id : String) :
    (s.handle e reply).store.tracked.get? id =
      if id = e.actorId then e.entryAfter s.settings reply (s.tracked.get? id)
      else s.tracked.get? id := by
  cases hk : e.kind with
  | create =>
    simp only [handle, ContainerEvent.entryAfter, hk]
    cases reply with
    | ok c => exact get?_welcome (named c rfl) false id
    | error fault => simp [welcome, note]
  | start =>
    simp only [handle, ContainerEvent.entryAfter, hk]
    cases reply with
    | ok c => exact get?_welcome (named c rfl) true id
    | error fault => simp [welcome, note]
  | destroy =>
    simp only [handle, ContainerEvent.entryAfter, hk, forget, stopSampling, onSampling]
    by_cases hi : id = e.actorId
    · simp [hi, Entries.get?_remove_self]
    · simp [hi, Entries.get?_remove_of_ne hi]
  | die =>
    simp only [handle, ContainerEvent.entryAfter, hk]
    exact get?_amend _ id
  | health status =>
    simp only [handle, ContainerEvent.entryAfter, hk]
    exact get?_amend _ id
  | rename =>
    simp only [handle, ContainerEvent.entryAfter, hk]
    exact get?_rename id
  | update =>
    simp only [handle, ContainerEvent.entryAfter, hk]
    cases reply with
    | ok loaded => exact get?_renew loaded id
    | error fault => simp [renew, note]
  | other => simp [handle, ContainerEvent.entryAfter, hk]

theorem handle_settings (s : Store) (e : ContainerEvent) (reply : Except HostFault Container) :
    (s.handle e reply).store.settings = s.settings := by
  have ha : ∀ f, (s.amend e f).store.settings = s.settings := by
    intro f
    unfold amend
    split <;> rfl
  have hw : ∀ starts, (s.welcome e starts reply).store.settings = s.settings := by
    intro starts
    unfold welcome
    split
    · rfl
    · split
      · cases starts <;> rfl
      · rfl
  have hr : (s.rename e reply).store.settings = s.settings := by
    unfold rename
    split
    · exact ha _
    · exact ha _
    · rfl
  have hn : (s.renew e reply).store.settings = s.settings := by
    unfold renew
    split
    · rfl
    · split
      · simp only
        split
        · exact ha _
        · exact ha _
      · rfl
  unfold handle
  split
  · exact hw false
  · exact hw true
  · rfl
  · exact ha _
  · exact ha _
  · exact hr
  · exact hn
  · rfl

theorem publish_tracked (trackedBefore : Bool) (id : String) (h : Handled) :
    (publish trackedBefore id h).tracked = h.store.tracked := by
  unfold publish
  repeat' split
  all_goals rfl

theorem publish_settings (trackedBefore : Bool) (id : String) (h : Handled) :
    (publish trackedBefore id h).settings = h.store.settings := by
  unfold publish
  repeat' split
  all_goals rfl

/-! ### Listings, answers and samples -/

def enterAll (s : Store) (listing : List Container) : Store :=
  listing.foldl (fun s c => (s.upsert c).1) s

theorem enterAll_settings (s : Store) (listing : List Container) :
    (s.enterAll listing).settings = s.settings := by
  induction listing generalizing s with
  | nil => rfl
  | cons c rest ih => exact ih (s.upsert c).1

theorem beginSync_tracked (s : Store) : s.beginSync.tracked = s.tracked := by
  unfold beginSync startFeed
  cases s.feed <;> rfl

theorem failSync_tracked (s : Store) : s.failSync.tracked = s.tracked := by
  unfold failSync note
  cases s.feed <;> rfl

theorem absorb_settings (s : Store) (listing : List Container) :
    (s.absorb listing).settings = s.settings := s.enterAll_settings listing

theorem enterAll_tracked_congr {s t : Store} (tracked : s.tracked = t.tracked)
    (settings : s.settings = t.settings) (listing : List Container) :
    (s.enterAll listing).tracked = (t.enterAll listing).tracked := by
  induction listing generalizing s t with
  | nil => exact tracked
  | cons c rest ih =>
    apply ih
    · simp only [upsert, tracked, settings]
    · exact settings

theorem absorb_tracked_congr {s t : Store} (tracked : s.tracked = t.tracked)
    (settings : s.settings = t.settings) (listing : List Container) :
    (s.absorb listing).tracked = (t.absorb listing).tracked := by
  have he := enterAll_tracked_congr tracked settings listing
  unfold enterAll at he
  simp only [absorb, note, he]

theorem get?_enterAll_of_notMem {id : String} (listing : List Container) (s : Store)
    (h : id ∉ listing.map (·.id)) : (s.enterAll listing).tracked.get? id = s.tracked.get? id := by
  induction listing generalizing s with
  | nil => rfl
  | cons c rest ih =>
    obtain ⟨hc, hr⟩ := not_or.mp (mt List.mem_cons.mpr h)
    have hu := get?_upsert s c id
    rw [if_neg hc] at hu
    exact (ih (s.upsert c).1 hr).trans hu

theorem get?_enterAll_of_mem {c : Container} {listing : List Container} (s : Store)
    (distinct : (listing.map (·.id)).Nodup) (h : c ∈ listing) :
    (s.enterAll listing).tracked.get? c.id =
      some (c.succeeding s.settings (s.tracked.get? c.id)) := by
  induction listing generalizing s with
  | nil => simp at h
  | cons d rest ih =>
    obtain ⟨hd, hr⟩ := List.nodup_cons.mp distinct
    rcases List.mem_cons.mp h with rfl | hm
    · have hu := get?_upsert s c c.id
      rw [if_pos rfl] at hu
      exact (get?_enterAll_of_notMem rest (s.upsert c).1 hd).trans hu
    · have hne : c.id ≠ d.id := fun he => hd (List.mem_map.mpr ⟨c, hm, he⟩)
      have hu := get?_upsert s d c.id
      rw [if_neg hne] at hu
      have hi := ih (s.upsert d).1 hr hm
      rw [hu] at hi
      exact hi

theorem get?_absorb_of_notMem {id : String} {listing : List Container} (s : Store)
    (h : id ∉ listing.map (·.id)) : (s.absorb listing).tracked.get? id = none := by
  have hf := Entries.get?_filter (listing.map (·.id)).contains id (s.enterAll listing).tracked
  rw [if_neg (by simpa using h)] at hf
  exact hf

theorem get?_absorb_of_mem {c : Container} {listing : List Container} (s : Store)
    (distinct : (listing.map (·.id)).Nodup) (h : c ∈ listing) :
    (s.absorb listing).tracked.get? c.id =
      some (c.succeeding s.settings (s.tracked.get? c.id)) := by
  have hm : c.id ∈ listing.map (·.id) := List.mem_map_of_mem h
  have hf := Entries.get?_filter (listing.map (·.id)).contains c.id (s.enterAll listing).tracked
  rw [if_pos (by simpa using hm), get?_enterAll_of_mem s distinct h] at hf
  exact hf

/-- A listing enters the containers that it has, also where it has one twice. -/
theorem get?_absorb_listed {id : String} {listing : List Container} (s : Store)
    (h : id ∈ listing.map (·.id)) : ∃ c ∈ listing, c.id = id ∧
      ∃ old, (s.absorb listing).tracked.get? id = some (c.succeeding s.settings old) := by
  have entered : ∃ c ∈ listing, c.id = id ∧
      ∃ old, (s.enterAll listing).tracked.get? id = some (c.succeeding s.settings old) := by
    induction listing generalizing s with
    | nil => simp at h
    | cons c rest ih =>
      by_cases later : id ∈ rest.map (·.id)
      · obtain ⟨d, hd, named, known⟩ := ih (s.upsert c).1 later
        exact ⟨d, List.mem_cons_of_mem c hd, named, known⟩
      · have named : id = c.id := by simpa [later] using h
        have hu := get?_upsert s c id
        rw [if_pos named] at hu
        exact ⟨c, List.mem_cons_self, named.symm, _,
          (get?_enterAll_of_notMem rest (s.upsert c).1 later).trans hu⟩
  obtain ⟨c, hc, named, old, known⟩ := entered
  have hf := Entries.get?_filter (listing.map (·.id)).contains id (s.enterAll listing).tracked
  rw [if_pos (by simpa using h), known] at hf
  exact ⟨c, hc, named, old, hf⟩

theorem enrich_eq (s : Store) (c : Container) :
    s.enrich (.answered (.ok c)) = match s.tracked.get? c.id with
      | some old =>
        if old.fullyLoaded then s
        else { s with tracked := s.tracked.put c.id { c with stats := old.stats } }
      | none => s := by
  simp only [enrich, replaceLoaded?]
  cases s.tracked.get? c.id with
  | none => rfl
  | some old => cases hl : old.fullyLoaded <;> simp [hl]

theorem enrich_settings (s : Store) (o : InspectOutcome) : (s.enrich o).settings = s.settings := by
  cases o with
  | timedOut => rfl
  | answered reply =>
    cases reply with
    | error fault => rfl
    | ok c =>
      rw [enrich_eq]
      split
      · split <;> rfl
      · rfl

theorem load_store (s : Store) (id : String) (c : Container) :
    (s.load id (.ok c)).store = s.enrich (.answered (.ok c)) := by
  simp only [load, enrich]
  cases s.replaceLoaded? c with
  | some t => rfl
  | none => cases s.tracked.get? id <;> rfl

theorem load_error (s : Store) (id : String) (fault : HostFault) :
    (s.load id (.error fault)).store.settings = s.settings ∧
      (s.load id (.error fault)).store.tracked = s.tracked := by
  cases fault <;> exact ⟨rfl, rfl⟩

/-- An answer completes the entry of its container, unless it is complete. -/
theorem get?_enrich (s : Store) (c : Container) (id : String) :
    (s.enrich (.answered (.ok c))).tracked.get? id =
      if id = c.id then (s.tracked.get? id).map c.completing else s.tracked.get? id := by
  rw [enrich_eq]
  by_cases hi : id = c.id
  · cases h : s.tracked.get? c.id with
    | none => simp [hi, h]
    | some old =>
      cases hl : old.fullyLoaded <;> simp [hi, h, hl, Container.completing, Entries.get?_put_self]
  · cases s.tracked.get? c.id with
    | none => simp [hi]
    | some old => cases hl : old.fullyLoaded <;> simp [hi, hl, Entries.get?_put_of_ne hi]

theorem get?_recordSample (s : Store) (u : Usage) (id : String) :
    (s.recordSample u).tracked.get? id =
      if id = u.id then (s.tracked.get? id).map fun c => { c with stats := c.stats.push u }
      else s.tracked.get? id := by
  unfold recordSample
  cases h : s.tracked.get? u.id with
  | none =>
    by_cases hi : id = u.id
    · simp [hi, h, note]
    · simp [hi, note]
  | some c =>
    by_cases hi : id = u.id
    · simp [hi, h, Entries.get?_put_self]
    · simp [hi, Entries.get?_put_of_ne hi]

/-! ### Keys -/

/-- The entries stand under the identifiers of their containers, each once. -/
structure Tidy (table : Entries Container) : Prop where
  nodup : table.keys.Nodup
  keyed : ∀ id c, table.get? id = some c → c.id = id

theorem Tidy.put {table : Entries Container} (h : Tidy table) (c : Container) :
    Tidy (table.put c.id c) where
  nodup := Entries.nodup_put h.nodup
  keyed id d hd := by
    rw [Entries.get?_put] at hd
    split at hd
    · next hi => exact (Option.some.inj hd) ▸ hi.symm
    · exact h.keyed id d hd

theorem Tidy.change {table : Entries Container} (h : Tidy table) {id : String} {old c : Container}
    (known : table.get? id = some old) (same : c.id = old.id) : Tidy (table.put id c) := by
  rw [← h.keyed id old known, ← same]
  exact h.put c

theorem Tidy.remove {table : Entries Container} (h : Tidy table) (id : String) :
    Tidy (table.remove id) where
  nodup := Entries.nodup_remove h.nodup
  keyed other d hd := by
    by_cases ho : other = id
    · rw [ho, Entries.get?_remove_self] at hd
      simp at hd
    · rw [Entries.get?_remove_of_ne ho] at hd
      exact h.keyed other d hd

theorem Tidy.filter {table : Entries Container} (h : Tidy table) (keep : String → Bool) :
    Tidy (table.filter fun p => keep p.1) where
  nodup := Entries.nodup_filter _ h.nodup
  keyed id d hd := by
    rw [Entries.get?_filter] at hd
    split at hd
    · exact h.keyed id d hd
    · simp at hd

theorem mem_listed {filter : LabelFilter} {c : Container} (h : Tidy s.tracked)
    (listed : c ∈ s.listed filter) : s.tracked.get? c.id = some c := by
  have hm : c ∈ s.tracked.values := (List.mem_filter.mp (List.mem_mergeSort.mp listed)).1
  obtain ⟨⟨id, d⟩, hd, rfl⟩ := List.mem_map.mp hm
  have hg := Entries.get?_of_mem h.nodup hd
  rw [h.keyed id d hg]
  exact hg

theorem tidy_upsert (h : Tidy s.tracked) (c : Container) : Tidy (s.upsert c).1.tracked :=
  h.put (s.upsert c).2

theorem tidy_amend (h : Tidy s.tracked) {f : Container → Container} (same : ∀ c, (f c).id = c.id) :
    Tidy (s.amend e f).store.tracked := by
  unfold amend
  split
  · next c hc => exact h.change hc (same c)
  · exact h

theorem tidy_welcome (h : Tidy s.tracked) (starts : Bool) :
    Tidy (s.welcome e starts reply).store.tracked := by
  unfold welcome
  split
  · exact h
  · next c =>
    split
    · cases starts <;> exact tidy_upsert h c
    · exact h

theorem tidy_handle (h : Tidy s.tracked) : Tidy (s.handle e reply).store.tracked := by
  unfold handle
  split
  · exact tidy_welcome h false
  · exact tidy_welcome h true
  · exact h.remove e.actorId
  · exact tidy_amend h fun _ => rfl
  · exact tidy_amend h fun _ => rfl
  · unfold rename
    split
    · exact tidy_amend h fun _ => rfl
    · exact tidy_amend h fun _ => rfl
    · exact h
  · unfold renew
    split
    · exact h
    · next loaded =>
      have ha : Tidy (s.amend e (·.refresh loaded)).store.tracked := tidy_amend h fun _ => rfl
      split
      · simp only
        split <;> exact ha
      · exact h
  · exact h

theorem tidy_absorb (h : Tidy s.tracked) (listing : List Container) :
    Tidy (s.absorb listing).tracked := by
  have he : Tidy (s.enterAll listing).tracked := by
    induction listing generalizing s with
    | nil => exact h
    | cons c rest ih => exact ih (tidy_upsert h c)
  exact he.filter (listing.map (·.id)).contains

theorem tidy_enrich (h : Tidy s.tracked) (c : Container) :
    Tidy (s.enrich (.answered (.ok c))).tracked := by
  rw [enrich_eq]
  split
  · next old known =>
    split
    · exact h
    · exact h.put { c with stats := old.stats }
  · exact h

theorem tidy_recordSample (h : Tidy s.tracked) (u : Usage) : Tidy (s.recordSample u).tracked := by
  unfold recordSample
  split
  · next c known => exact h.change known rfl
  · exact h

end Store

end ContainerWatch
