import ContainerWatch.Proofs.Store.Changes
import ContainerWatch.Proofs.Store.Runs

/-!
A synchronisation that nothing disturbs. Its first step takes a listing over, and from then on the
table shows what the host has: inspects that come late only complete its entries.
-/

namespace ContainerWatch

theorem shown_eq_some {settings : StoreSettings} {now : Option Container} {d : Container} :
    shown settings now = some d ↔ now = some d ∧ settings.filter.accepts d.labels = true := by
  simp [shown, Option.filter_eq_some_iff]

namespace ScriptedHost

variable {h : ScriptedHost} {settings : StoreSettings} {listing : List Container}

theorem listing_of_works (filter : LabelFilter) (works : h.listingFails = false) :
    h.listing filter = .ok ((h.containers.filter fun c => filter.accepts c.labels).map fun c =>
      { c with fullyLoaded := false }) := by
  rw [ScriptedHost.listing, works]
  rfl

theorem mem_listing (proper : h.Proper) (works : h.listingFails = false)
    (asked : h.listing settings.filter = .ok listing) {c : Container} :
    c ∈ listing ↔ ∃ d, shown settings (h.find? c.id) = some d ∧
      c = { d with fullyLoaded := false } := by
  obtain rfl := Except.ok.inj (asked.symm.trans (h.listing_of_works settings.filter works))
  simp only [List.mem_map, List.mem_filter]
  constructor
  · rintro ⟨d, ⟨known, accepted⟩, rfl⟩
    exact ⟨d, shown_eq_some.mpr ⟨find?_of_mem proper known, accepted⟩, rfl⟩
  · rintro ⟨d, hd, hc⟩
    obtain ⟨found, accepted⟩ := shown_eq_some.mp hd
    exact ⟨d, ⟨(mem_of_find? found).1, accepted⟩, hc.symm⟩

theorem mem_ids_listing (proper : h.Proper) (works : h.listingFails = false)
    (asked : h.listing settings.filter = .ok listing) {id : String} :
    id ∈ listing.map (·.id) ↔ ∃ d, shown settings (h.find? id) = some d := by
  constructor
  · intro listed
    obtain ⟨c, hc, rfl⟩ := List.mem_map.mp listed
    obtain ⟨d, hd, -⟩ := (mem_listing proper works asked).mp hc
    exact ⟨d, hd⟩
  · rintro ⟨d, hd⟩
    obtain rfl : d.id = id := (mem_of_find? (shown_eq_some.mp hd).1).2
    have hm := (mem_listing (c := { d with fullyLoaded := false }) proper works asked).mpr
      ⟨d, hd, rfl⟩
    exact List.mem_map.mpr ⟨_, hm, rfl⟩

theorem nodup_listing (proper : h.Proper) (works : h.listingFails = false)
    (asked : h.listing settings.filter = .ok listing) : (listing.map (·.id)).Nodup := by
  obtain rfl := Except.ok.inj (asked.symm.trans (h.listing_of_works settings.filter works))
  have ids : ((h.containers.filter fun c => settings.filter.accepts c.labels).map (·.id)).Nodup :=
    proper.distinct.sublist (List.Sublist.map _ List.filter_sublist)
  rw [List.map_map]
  exact ids

end ScriptedHost

namespace World

/-- The table shows what the host has, as far as the filter accepts it. -/
def Current (w : World) : Prop :=
  ∀ id, AlikeEntries [] (w.store.tracked.get? id) (shown w.store.settings (w.host.find? id))

/-- Nothing has become different about the host, and no event waits. -/
structure Calm (u w : World) : Prop extends Ground u w where
  tidy : Store.Tidy w.store.tracked
  silent : w.dispatcher ≠ .stopped → w.waiting = []
  answers : ∀ o ∈ w.outcomes, o = .timedOut ∨ ∃ id, o = .answered (u.host.details id)

variable {settings : StoreSettings} {host : ScriptedHost} {u w w' v : World} {t : Task}

theorem Ground.find? (h : Ground w v) (id : String) : v.host.find? id = w.host.find? id := by
  rw [ScriptedHost.find?, h.containers]
  rfl

theorem Ground.details (h : Ground w v) (id : String) : v.host.details id = w.host.details id := by
  rw [ScriptedHost.details_eq, ScriptedHost.details_eq, h.find?]

theorem Ground.proper (h : Ground w v) (proper : w.host.Proper) : v.host.Proper where
  distinct := by
    rw [h.containers]
    exact proper.distinct
  own c known := by
    rw [h.machine]
    exact proper.own c (h.containers ▸ known)

theorem Ground.trans (h : Ground w v) (h' : Ground v w') : Ground w w' :=
  ⟨h'.settings.trans h.settings, h'.machine.trans h.machine, h'.containers.trans h.containers,
    h'.listingFails.trans h.listingFails⟩

theorem waiting_of_over {reads : List StoreRead} (silent : w.waiting = []) :
    ({ w with reads, emission := none } : World).waiting = [] := by
  simp only [waiting, List.append_eq_nil_iff] at silent
  simp only [waiting, List.append_eq_nil_iff]
  exact ⟨silent.1, rfl⟩

namespace Calm

theorem events (h : Calm u w) (moved : w.step? t = some v) :
    (w.deed t).events = [] := by
  rcases (step_of_step? moved).waiting with ⟨-, none_⟩ | ⟨running, -, waiting⟩
  · exact none_
  · rw [h.silent running] at waiting
    exact (List.append_eq_nil_iff.mp waiting.symm).1

theorem step (h : Calm u w) (moved : w.step? t = some v) : Calm u v := by
  have hs := step_of_step? moved
  refine { h.toGround.trans hs.toGround with
    tidy := hs.tracked ▸ Deed.tidy h.tidy, silent := ?_, answers := ?_ }
  · intro running
    rcases hs.waiting with ⟨stopped, -⟩ | ⟨before, -, waiting⟩
    · exact absurd stopped running
    · rw [h.silent before] at waiting
      exact (List.append_eq_nil_iff.mp waiting.symm).2
  · intro o ho
    rcases hs.outcomes o ho with known | late | ⟨id, answered⟩
    · exact h.answers o known
    · exact Or.inl late
    · exact Or.inr ⟨id, answered.trans (congrArg _ (h.toGround.details id))⟩

theorem pass (h : Calm u w) (clock : Nat) : Calm u { w with clock } :=
  { h.toGround with tidy := h.tidy, silent := h.silent, answers := h.answers }

theorem alone (h : Calm u w) :
    Calm u { w with reads := [], emission := none } := by
  refine { h.toGround with tidy := h.tidy, silent := ?_, answers := ?_ }
  · exact fun running => waiting_of_over (h.silent running)
  · simp [outcomes]

/-- An answer that waits, or that the host would give now, shows what the host has. -/
theorem answered {c : Container} (h : Calm u w) (possible : w.Possible (.complete c)) :
    ∃ d, w.host.find? c.id = some d ∧ c = { d with fullyLoaded := true } := by
  obtain ⟨id, asked⟩ : ∃ id, w.host.details id = .ok c := by
    rcases possible.2 with waits | asked
    · rcases h.answers _ waits with late | ⟨id, answered⟩
      · simp at late
      · refine ⟨id, ?_⟩
        rw [h.toGround.details]
        exact (InspectOutcome.answered.inj answered).symm
    · exact asked
  have named := (ScriptedHost.details_id asked).1
  rw [ScriptedHost.details_eq] at asked
  rw [named]
  cases found : w.host.find? id with
  | none => simp [answer, found] at asked
  | some d => exact ⟨d, rfl, by simpa [answer, found] using asked.symm⟩

end Calm

/-! ### The first listing -/

theorem current_absorb {listing : List Container} (proper : w.host.Proper)
    (works : w.host.listingFails = false)
    (asked : w.host.listing w.store.settings.filter = .ok listing) (ground : Ground w v)
    (tracked : v.store.tracked = (w.store.absorb listing).tracked) : Current v := by
  intro id
  rw [tracked, ground.find?, ground.settings]
  by_cases listed : id ∈ listing.map (·.id)
  · obtain ⟨c, hc, rfl⟩ := List.mem_map.mp listed
    obtain ⟨d, hd, same⟩ := (ScriptedHost.mem_listing proper works asked).mp hc
    have distinct := ScriptedHost.nodup_listing proper works asked
    rw [Store.get?_absorb_of_mem w.store distinct hc, hd, same]
    exact { Container.Alike.refl [] d with }
  · have hd : shown w.store.settings (w.host.find? id) = none := by
      rw [ScriptedHost.mem_ids_listing proper works asked] at listed
      simpa [Option.eq_none_iff_forall_ne_some] using listed
    rw [Store.get?_absorb_of_notMem w.store listed, hd]
    trivial

theorem alike_completing {d old : Container}
    (h : AlikeEntries [] (some old) (shown settings (some d))) :
    AlikeEntries [] (some (({ d with fullyLoaded := true } : Container).completing old))
      (shown settings (some d)) := by
  cases loaded : old.fullyLoaded with
  | true =>
    have same : ({ d with fullyLoaded := true } : Container).completing old = old := by
      simp [Container.completing, loaded]
    rw [same]
    exact h
  | false =>
    cases accepted : settings.filter.accepts d.labels with
    | true =>
      have hd : shown settings (some d) = some d := by simp [shown, accepted]
      have completed : ({ d with fullyLoaded := true } : Container).completing old =
          { d with fullyLoaded := true, stats := old.stats } := by
        simp [Container.completing, loaded]
      rw [hd, completed]
      exact { Container.Alike.refl [] d with }
    | false =>
      have hd : shown settings (some d) = none := by simp [shown, accepted]
      rw [hd] at h
      exact h.elim

theorem Current.step (proper : u.host.Proper) (works : u.host.listingFails = false)
    (calm : Calm u w) (h : Current w) (moved : w.step? t = some v) : Current v := by
  have hs := step_of_step? moved
  have possible := w.possible_deed t
  have silent := calm.events moved
  cases hd : w.deed t with
  | rest =>
    rw [hd] at hs
    intro id
    rw [hs.tracked, hs.settings, hs.toGround.find?]
    exact h id
  | list listing =>
    rw [hd] at hs possible
    exact current_absorb (calm.toGround.proper proper) (calm.listingFails.trans works) possible.2
      hs.toGround hs.tracked
  | complete c =>
    rw [hd] at hs possible
    obtain ⟨d, found, same⟩ := calm.answered possible
    intro id
    rw [hs.tracked, hs.settings, hs.toGround.find?, Deed.table, Store.get?_enrich]
    split
    · next hi =>
      subst hi
      have current := h c.id
      cases known : w.store.tracked.get? c.id with
      | none => rw [known] at current; exact current
      | some old =>
        rw [known, found] at current
        rw [found, same]
        exact alike_completing current
    · exact h id
  | handle e reply =>
    rw [hd] at silent
    simp [Deed.events] at silent
  | sample u =>
    rw [hd] at hs
    intro id
    rw [hs.tracked, hs.settings, hs.toGround.find?]
    exact (alike_sample w.store u id).trans (h id)

/-! ### A whole synchronisation -/

def entering (w : World) : World := { w with reads := [{ errand := .connect }], emission := none }

theorem calm_entering (tidy : Store.Tidy w.store.tracked) (silent : w.waiting = []) :
    Calm w w.entering where
  settings := rfl
  machine := rfl
  containers := rfl
  listingFails := rfl
  tidy := tidy
  silent _ := waiting_of_over silent
  answers o ho := by simp [entering, outcomes, StoreRead.outcomes] at ho

/-- The first step of a synchronisation makes the table current. -/
theorem current_enter (apart : w.store.connected = false) (proper : w.host.Proper)
    (works : w.host.listingFails = false) (moved : w.entering.step? (.read 0) = some v) :
    Current v := by
  have hs := step_of_step? moved
  have asked := w.host.listing_of_works w.store.settings.filter works
  have deed : w.entering.deed (.read 0) = .list
      ((w.host.containers.filter fun c => w.store.settings.filter.accepts c.labels).map fun c =>
        { c with fullyLoaded := false }) := by
    have hd : w.entering.deed (.read 0) = w.entering.readDeed { errand := .connect } := rfl
    rw [hd]
    simp only [readDeed, entering, apart, asked, Bool.false_eq_true, if_false]
  rw [deed] at hs
  exact current_absorb (w := w.entering) proper works asked hs.toGround hs.tracked

/-- After a synchronisation that nothing disturbs, the table is current, and no event waits. -/
theorem current_perform (tidy : Store.Tidy w.store.tracked) (silent : w.waiting = [])
    (apart : w.store.connected = false) (proper : w.host.Proper)
    (works : w.host.listingFails = false) :
    Calm w (w.perform [.connect] none).2 ∧ Current (w.perform [.connect] none).2 := by
  have keep : ∀ v t v', Calm w v ∧ Current v → v.step? t = some v' → Calm w v' ∧ Current v' :=
    fun v t v' h moved => ⟨h.1.step moved, h.2.step proper works h.1 moved⟩
  have moves : w.entering.step? (.read 0) = some (w.entering.enter 0 { errand := .connect }) := rfl
  have settled : Calm w w.entering.settle ∧ Current w.entering.settle :=
    settle_of_first keep rfl moves
      ⟨(calm_entering tidy silent).step moves, current_enter apart proper works moves⟩
  obtain ⟨calm, current⟩ := await_induction keep (fun v clock h => ⟨h.1.pass clock, h.2⟩)
    (8 * (w.entering.fuel + w.entering.host.containers.length)) settled
  exact ⟨calm.alone, current⟩

end World

end ContainerWatch
