import ContainerWatch.Proofs.Store.Courses
import ContainerWatch.Proofs.Store.Frame

/-!
What a store hands out: reads come home with containers, subscribers get them, and events carry
them. Whatever is handed out was in the table at that moment, so what is known of the table at every
moment of a course is known of everything that the course hands out. New containers are announced
only where the filter of the store has just been asked.
-/

namespace ContainerWatch

def StoreRead.findings (r : StoreRead) : List Container :=
  match r.phase with
  | .done (.ok (.containers cs)) => cs
  | .done (.ok (.container c)) => [c]
  | _ => []

/-- The containers that were handed out or are about to be: the findings of reads, and what waits
for the subscribers of new containers and of events. -/
def World.exposed (w : World) : List Container :=
  w.reads.flatMap StoreRead.findings ++ w.store.newContainers.queued ++
    (w.store.events.queued ++ w.announcements).filterMap (·.container)

namespace Broadcast

variable {α : Type} {b : Broadcast α} {x y : α}

theorem mem_queued_onAll {f : Subscriber α → Subscriber α × List Notice}
    (h : x ∈ (b.onAll f).1.queued) : ∃ s ∈ b.subscribers, x ∈ (f s).1.queue := by
  obtain ⟨t, ht, hx⟩ := List.mem_flatMap.mp h
  obtain ⟨s, hs, rfl⟩ := List.mem_map.mp ht
  exact ⟨s, hs, hx⟩

theorem mem_queued {s : Subscriber α} (hs : s ∈ b.subscribers) (hx : x ∈ s.queue) :
    x ∈ b.queued := List.mem_flatMap.mpr ⟨s, hs, hx⟩

theorem mem_queued_send (h : x ∈ (b.send y).1.queued) : x ∈ b.queued ∨ x = y := by
  obtain ⟨s, hs, hx⟩ := mem_queued_onAll h
  unfold Subscriber.offer at hx
  split at hx
  · exact Or.inl (mem_queued hs hx)
  · split at hx
    · exact Or.inl (mem_queued hs hx)
    · split at hx
      · exact Or.inl (mem_queued hs hx)
      · split at hx
        · rcases List.mem_append.mp hx with old | new
          · exact Or.inl (mem_queued hs old)
          · exact Or.inr (List.mem_singleton.mp new)
        · exact Or.inl (mem_queued hs hx)

theorem mem_queued_settle (h : x ∈ b.settle.1.queued) : x ∈ b.queued := by
  obtain ⟨s, hs, hx⟩ := mem_queued_onAll h
  unfold Subscriber.watch at hx
  split at hx <;> exact mem_queued hs hx

end Broadcast

namespace Store

variable {s : Store}

theorem lookUp_loaded {id : String} {filter : LabelFilter} {c : Container}
    (h : s.lookUp id filter = .loaded c) : s.tracked.get? id = some c := by
  unfold lookUp at h
  split at h
  · next known =>
    split at h
    · split at h
      · exact Lookup.loaded.inj h ▸ known
      · simp at h
    · simp at h
  · simp at h

theorem replaceLoaded?_entered {t : Store} {loaded c : Container}
    (h : s.replaceLoaded? loaded = some (t, c)) : t.tracked.get? loaded.id = some c := by
  unfold replaceLoaded? at h
  split at h
  · split at h
    · simp at h
    · obtain ⟨rfl, rfl, rfl⟩ := by simpa using h
      exact Entries.get?_put_self _ _ _
  · simp at h

/-- What a look-up gives, as its answer and in its update, is an entry that it leaves. -/
theorem load_found (s : Store) (id : String) (reply : Except HostFault Container) :
    (∀ c, (s.load id reply).answer = .ok c →
      ∃ key, (s.load id reply).store.tracked.get? key = some c) ∧
    ∀ e c, (s.load id reply).update = some e → e.container = some c →
      ∃ key, (s.load id reply).store.tracked.get? key = some c := by
  cases reply with
  | error fault => cases fault <;> simp [load]
  | ok loaded =>
    cases replaced : s.replaceLoaded? loaded with
    | some p =>
      have entered := replaceLoaded?_entered replaced
      simp only [load, replaced]
      refine ⟨?_, ?_⟩
      · rintro _ ⟨⟩
        exact ⟨loaded.id, entered⟩
      · rintro _ c ⟨⟩ carried
        exact ⟨loaded.id, entered.trans carried⟩
    | none =>
      cases found : s.tracked.get? id with
      | none => simp [load, replaced, found]
      | some d =>
        have kept : s.load id (.ok loaded) = { store := s, answer := .ok d } := by
          simp [load, replaced, found]
        rw [kept]
        refine ⟨?_, by simp⟩
        rintro _ ⟨⟩
        exact ⟨id, found⟩

structure Tells (P : Container → Prop) (s : Store) : Prop where
  news : ∀ c ∈ s.newContainers.queued, P c ∧ s.settings.filter.accepts c.labels = true
  told : ∀ e ∈ s.events.queued, ∀ c, e.container = some c → P c

variable {P : Container → Prop} {t : Store} {e : ContainerEvent}
  {reply : Except HostFault Container}

namespace Tells

theorem quiet (h : Tells P s) (quiet : s.Quiet t) : Tells P t where
  news := by rw [quiet.newContainers, quiet.settings]; exact h.news
  told := by rw [quiet.events]; exact h.told

theorem announce (h : Tells P s) (carried : ∀ c, e.container = some c → P c) :
    Tells P (s.announce e) where
  news := h.news
  told x hx := by
    rcases Broadcast.mem_queued_send hx with old | rfl
    · exact h.told x old
    · exact carried

theorem announceNew (h : Tells P s) {c : Container} (entered : P c)
    (accepted : s.settings.filter.accepts c.labels = true) : Tells P (s.announceNew c) where
  news x hx := by
    rcases Broadcast.mem_queued_send hx with old | rfl
    · exact h.news x old
    · exact ⟨entered, accepted⟩
  told := h.told

end Tells

structure Telling (P : Container → Prop) (h : Handled) : Prop where
  store : h.store.Tells P
  event : ∀ e c, h.event = some e → e.container = some c → P c
  start : ∀ e c, h.start = some e → e.container = some c → P c

theorem Telling.publish {h : Handled} (telling : Telling P h) (trackedBefore : Bool) (id : String) :
    Tells P (publish trackedBefore id h) := by
  unfold Store.publish
  split
  · exact telling.store
  · next e event =>
    have announced := telling.store.announce (telling.event e · event)
    split
    · split
      · next start started => exact announced.announce (telling.start start · started)
      · exact announced
    · exact telling.store

theorem telling_amend (h : Tells P s) (carried : ∀ c, e.container = some c → P c)
    {f : Container → Container}
    (tracked : ∀ id c, (s.amend e f).store.tracked.get? id = some c → P c) :
    Telling P (s.amend e f) := by
  unfold amend at tracked ⊢
  split
  · next old known =>
    simp only [known] at tracked
    have amended := tracked e.actorId (f old) (Entries.get?_put_self _ _ _)
    refine ⟨h.quiet ⟨rfl, rfl, rfl⟩, ?_, by simp⟩
    rintro _ c ⟨⟩ ⟨⟩
    exact amended
  · refine ⟨h, ?_, by simp⟩
    rintro _ c ⟨⟩
    exact carried c

theorem welcome_of_accepted {c : Container} (accepted : s.settings.filter.accepts c.labels = true)
    (starts : Bool) : s.welcome e starts (.ok c) =
      { store := (if starts then (s.upsert c).1.startSampling e.actorId
          else (s.upsert c).1).announceNew (s.upsert c).2
        event := some { e with container := some (s.upsert c).2 } } := by
  simp [welcome, accepted]

theorem telling_welcome (h : Tells P s) {starts : Bool}
    (tracked : ∀ id c, (s.welcome e starts reply).store.tracked.get? id = some c → P c) :
    Telling P (s.welcome e starts reply) := by
  cases reply with
  | error fault => exact ⟨h.quiet ⟨rfl, rfl, rfl⟩, by simp [welcome], by simp [welcome]⟩
  | ok c =>
    cases accepted : s.settings.filter.accepts c.labels with
    | false =>
      refine ⟨?_, by simp [welcome, accepted], by simp [welcome, accepted]⟩
      simp only [welcome, accepted]
      exact h.quiet ⟨rfl, rfl, rfl⟩
    | true =>
      rw [welcome_of_accepted accepted] at tracked ⊢
      have entered : P (s.upsert c).2 := by
        refine tracked c.id _ ?_
        cases starts <;> exact Entries.get?_put_self _ _ _
      refine ⟨Tells.announceNew ?_ entered ?_, ?_, by simp⟩
      · cases starts <;> exact h.quiet ⟨rfl, rfl, rfl⟩
      · cases starts <;> exact accepted
      · rintro _ _ ⟨⟩ ⟨⟩
        exact entered

theorem telling_rename (h : Tells P s) (carried : ∀ c, e.container = some c → P c)
    (tracked : ∀ id c, (s.rename e reply).store.tracked.get? id = some c → P c) :
    Telling P (s.rename e reply) := by
  unfold rename at tracked ⊢
  split
  · next named => simp only [named] at tracked; exact telling_amend h carried tracked
  · next named => simp only [named] at tracked; exact telling_amend h carried tracked
  · refine ⟨h, ?_, by simp⟩
    rintro _ c ⟨⟩
    exact carried c

theorem telling_renew (h : Tells P s) (carried : ∀ c, e.container = some c → P c)
    (tracked : ∀ id c, (s.renew e reply).store.tracked.get? id = some c → P c) :
    Telling P (s.renew e reply) := by
  cases reply with
  | error fault => exact ⟨h.quiet ⟨rfl, rfl, rfl⟩, by simp [renew], by simp [renew]⟩
  | ok loaded =>
    cases known : s.tracked.get? e.actorId with
    | none =>
      refine ⟨by simpa [renew, known] using h, ?_, by simp [renew, known]⟩
      intro x c event
      obtain rfl : e = x := by simpa [renew, known] using event
      exact carried c
    | some old =>
      have amended := telling_amend (f := (·.refresh loaded)) h carried
      simp only [renew, known] at tracked ⊢
      split
      · next starts =>
        simp only [starts, if_true] at tracked
        have entered : P (old.refresh loaded) := by
          refine tracked e.actorId _ ?_
          simp [amend, known, startSampling, onSampling, Entries.get?_put_self]
        refine ⟨(amended tracked).store.quiet ⟨rfl, rfl, rfl⟩, (amended tracked).event, ?_⟩
        rintro _ _ ⟨⟩ ⟨⟩
        exact entered
      · next starts =>
        simp only [starts] at tracked
        exact amended tracked

theorem telling_handle (h : Tells P s) (carried : ∀ c, e.container = some c → P c)
    (tracked : ∀ id c, (s.handle e reply).store.tracked.get? id = some c → P c) :
    Telling P (s.handle e reply) := by
  cases hk : e.kind with
  | create => simp only [handle, hk] at tracked ⊢; exact telling_welcome h tracked
  | start => simp only [handle, hk] at tracked ⊢; exact telling_welcome h tracked
  | destroy =>
    simp only [handle, hk]
    refine ⟨h.quiet ⟨rfl, rfl, rfl⟩, ?_, by simp [forget]⟩
    rintro _ c ⟨⟩
    exact carried c
  | die =>
    simp only [handle, hk] at tracked ⊢
    have amended := telling_amend h carried tracked
    exact ⟨amended.store.quiet ⟨rfl, rfl, rfl⟩, amended.event, amended.start⟩
  | health status => simp only [handle, hk] at tracked ⊢; exact telling_amend h carried tracked
  | rename => simp only [handle, hk] at tracked ⊢; exact telling_rename h carried tracked
  | update => simp only [handle, hk] at tracked ⊢; exact telling_renew h carried tracked
  | other =>
    simp only [handle, hk]
    refine ⟨h, ?_, by simp⟩
    rintro _ c ⟨⟩
    exact carried c

/-- What is told of a handled event was carried by it, or is an entry afterwards. -/
theorem Tells.receive (h : Tells P s) (carried : ∀ c, e.container = some c → P c)
    {trackedBefore : Bool}
    (tracked : ∀ id c, (s.receive e trackedBefore reply).tracked.get? id = some c → P c) :
    Tells P (s.receive e trackedBefore reply) := by
  unfold Store.receive at tracked ⊢
  rw [publish_tracked] at tracked
  exact (telling_handle h carried tracked).publish trackedBefore e.actorId

end Store

/-- The containers that are handed out, or about to be, have a property, and those that events bring
along. -/
structure HandsOut (P : Container → Prop) (w : World) : Prop where
  findings : ∀ r ∈ w.reads, ∀ c ∈ r.findings, P c
  store : w.store.Tells P
  announced : ∀ e ∈ w.announcements, ∀ c, e.container = some c → P c
  carried : ∀ e ∈ w.waiting, ∀ c, e.container = some c → P c

namespace HandsOut

variable {P Q : Container → Prop} {w v : World} {t : Task}

theorem mono (h : HandsOut P w) (weaker : ∀ c, P c → Q c) : HandsOut Q w where
  findings r hr c hc := weaker c (h.findings r hr c hc)
  store := ⟨fun c hc => ⟨weaker c (h.store.news c hc).1, (h.store.news c hc).2⟩,
    fun e he c hc => weaker c (h.store.told e he c hc)⟩
  announced e he c hc := weaker c (h.announced e he c hc)
  carried e he c hc := weaker c (h.carried e he c hc)

theorem exposed (h : HandsOut P w) {c : Container} (shown : c ∈ w.exposed) : P c := by
  simp only [World.exposed, List.mem_append, List.mem_flatMap, List.mem_filterMap] at shown
  rcases shown with (⟨r, hr, hc⟩ | news) | ⟨e, told | announced, carried⟩
  · exact h.findings r hr c hc
  · exact (h.store.news c news).1
  · exact h.store.told e told c carried
  · exact h.announced e announced c carried

/-! ### Reads -/

theorem continueRead {i : Nat} {r : StoreRead} (h : HandsOut P w) (reads : v.reads = w.reads)
    (store : v.store.Tells P)
    (announced : ∀ e ∈ v.announcements, ∀ c, e.container = some c → P c)
    (waiting : v.waiting = w.waiting) (found : ∀ c ∈ r.findings, P c) :
    HandsOut P (v.continueRead i r) where
  findings q hq := by
    rcases List.mem_or_eq_of_mem_set hq with old | rfl
    · exact h.findings q (reads ▸ old)
    · exact found
  store := store
  announced := announced
  carried := by
    have kept : (v.continueRead i r).waiting = w.waiting := waiting
    rw [kept]
    exact h.carried

theorem miss {i : Nat} {r : StoreRead} {id : String} (h : HandsOut P w) (reads : v.reads = w.reads)
    (store : v.store.Tells P)
    (announced : ∀ e ∈ v.announcements, ∀ c, e.container = some c → P c)
    (waiting : v.waiting = w.waiting) : HandsOut P (v.miss i r id) := by
  unfold World.miss
  split
  · split
    · exact h.continueRead reads store announced waiting (by simp [StoreRead.findings])
    · exact h.continueRead reads store announced waiting (by simp [StoreRead.findings])
  · exact h.continueRead reads store announced waiting (by simp [StoreRead.findings])

theorem enter {i : Nat} {r : StoreRead} (h : HandsOut P w) : HandsOut P (w.enter i r) := by
  cases connected : w.store.connected with
  | true =>
    simp only [World.enter, connected, if_true]
    exact h.continueRead rfl h.store h.announced rfl (by simp [StoreRead.findings])
  | false =>
    have begun := h.store.quiet w.store.still_beginSync.toQuiet
    simp only [World.enter, connected, Bool.false_eq_true, if_false]
    split
    · have failed := begun.quiet w.store.beginSync.still_failSync.toQuiet
      exact h.continueRead rfl failed h.announced rfl (by simp [StoreRead.findings])
    · next listing _ =>
      have absorbed := begun.quiet (w.store.beginSync.still_absorb listing).toQuiet
      exact h.continueRead rfl absorbed h.announced rfl (by simp [StoreRead.findings])

theorem lookUp {i : Nat} {r : StoreRead} {id : String} {filter : LabelFilter} (h : HandsOut P w)
    (tracked : ∀ id c, w.store.tracked.get? id = some c → P c) :
    HandsOut P (w.lookUp i r id filter) := by
  unfold World.lookUp
  split
  · exact h.miss rfl (h.store.quiet ⟨rfl, rfl, rfl⟩) h.announced rfl
  · next c found =>
    refine h.continueRead rfl h.store h.announced rfl ?_
    simpa [StoreRead.findings] using tracked id c (Store.lookUp_loaded found)
  · exact h.continueRead rfl h.store h.announced rfl (by simp [StoreRead.findings])

theorem pursue {i : Nat} {r : StoreRead} (h : HandsOut P w)
    (tracked : ∀ id c, w.store.tracked.get? id = some c → P c) (tidy : w.store.tracked.keys.Nodup) :
    HandsOut P (w.pursue i r) := by
  unfold World.pursue
  split
  · exact h.continueRead rfl h.store h.announced rfl (by simp [StoreRead.findings])
  · next filter =>
    refine h.continueRead rfl h.store h.announced rfl ?_
    intro c listed
    have entry : c ∈ w.store.tracked.values :=
      (List.mem_filter.mp (List.mem_mergeSort.mp listed)).1
    obtain ⟨⟨id, d⟩, hd, rfl⟩ := List.mem_map.mp entry
    exact tracked id d (Entries.get?_of_mem tidy hd)
  · exact h.lookUp tracked
  · exact h.lookUp tracked

theorem load {i : Nat} {r : StoreRead} {id : String} (h : HandsOut P w)
    (tracked : ∀ key c,
      (w.store.load id (w.host.details id)).store.tracked.get? key = some c → P c) :
    HandsOut P (w.load i r id) := by
  obtain ⟨answers, updates⟩ := w.store.load_found id (w.host.details id)
  have store := h.store.quiet (w.store.still_load id (w.host.details id)).toQuiet
  have announced : ∀ e ∈ w.announcements ++
      (w.store.load id (w.host.details id)).update.toList, ∀ c, e.container = some c → P c := by
    intro e he c carried
    rcases List.mem_append.mp he with old | new
    · exact h.announced e old c carried
    · obtain ⟨key, entered⟩ := updates e c (by simpa using new) carried
      exact tracked key c entered
  unfold World.load
  simp only
  split
  · next c answer =>
    refine h.continueRead rfl store announced rfl ?_
    obtain ⟨key, entered⟩ := answers c answer
    simpa [StoreRead.findings] using tracked key c entered
  · exact h.miss rfl store announced rfl
  · exact h.continueRead rfl store announced rfl (by simp [StoreRead.findings])

theorem stepRead {i : Nat} (h : HandsOut P w) (moved : w.stepRead? i = some v)
    (tidy : w.store.tracked.keys.Nodup)
    (tracked : ∀ id c, v.store.tracked.get? id = some c → P c) : HandsOut P v := by
  unfold World.stepRead? at moved
  split at moved
  · simp at moved
  · next r _ =>
    split at moved
    · exact Option.some.inj moved ▸ h.enter
    · split at moved
      · next o _ _ =>
        have enriched := h.store.quiet (w.store.still_enrich o).toQuiet
        exact Option.some.inj moved ▸
          h.continueRead rfl enriched h.announced rfl (by simp [StoreRead.findings])
      · split at moved
        · exact Option.some.inj moved ▸ h.continueRead rfl (h.store.quiet ⟨rfl, rfl, rfl⟩)
            h.announced rfl (by simp [StoreRead.findings])
        · simp at moved
    · obtain rfl := Option.some.inj moved
      refine h.pursue ?_ tidy
      intro id c known
      refine tracked id c ?_
      rw [(World.step_pursue w i r).tracked]
      exact known
    · next id due _ =>
      split at moved
      · obtain rfl := Option.some.inj moved
        refine h.load ?_
        intro key c known
        exact tracked key c (by rwa [World.load_store])
      · simp at moved
    · simp at moved

theorem stepInspects {i : Nat} (h : HandsOut P w) (moved : w.stepInspects? i = some v) :
    HandsOut P v := by
  unfold World.stepInspects? at moved
  split at moved
  · obtain ⟨⟨host, e⟩, -, rfl⟩ := Option.map_eq_some_iff.mp moved
    exact h.continueRead rfl h.store h.announced rfl (by simp [StoreRead.findings])
  · simp at moved

/-! ### The other tasks -/

theorem aside (h : HandsOut P w) (reads : v.reads = w.reads) (store : v.store.Tells P)
    (announcements : v.announcements = w.announcements) (waiting : ∀ e ∈ v.waiting, e ∈ w.waiting) :
    HandsOut P v where
  findings := by rw [reads]; exact h.findings
  store := store
  announced := by rw [announcements]; exact h.announced
  carried e he := h.carried e (waiting e he)

theorem stepFeed {n : Nat} (h : HandsOut P w) (moved : w.stepFeed? n = some v) : HandsOut P v := by
  unfold World.stepFeed? at moved
  split at moved
  · split at moved
    · exact Option.some.inj moved ▸ h.aside rfl (h.store.quiet ⟨rfl, rfl, rfl⟩) rfl fun _ he => he
    · split at moved
      · exact Option.some.inj moved ▸ h.aside rfl (h.store.quiet ⟨rfl, rfl, rfl⟩) rfl fun _ he => he
      · simp at moved
    · exact Option.some.inj moved ▸ h.aside rfl (h.store.quiet ⟨rfl, rfl, rfl⟩) rfl fun _ he => he
    · simp at moved
  · simp at moved

theorem stepEmission (h : HandsOut P w) (moved : w.stepEmission? = some v) : HandsOut P v := by
  unfold World.stepEmission? at moved
  split at moved
  · next e emission =>
    split at moved
    · refine Option.some.inj moved ▸ h.aside rfl h.store rfl ?_
      simp [World.waiting, emission]
    · simp at moved
  · simp at moved

theorem stepAnnouncements (h : HandsOut P w) (moved : w.stepAnnouncements? = some v) :
    HandsOut P v := by
  unfold World.stepAnnouncements? at moved
  split at moved
  · next e rest announcements =>
    obtain rfl := Option.some.inj moved
    have first : ∀ c, e.container = some c → P c := h.announced e (by simp [announcements])
    exact
      { findings := h.findings
        store := h.store.announce first
        announced := fun x hx => h.announced x (by simp [announcements, hx])
        carried := h.carried }
  · simp at moved

theorem stepSampling {t : SamplingTask} (h : HandsOut P w)
    (moved : (w.sampled.step? w.clock t).map w.withSampled = some v) : HandsOut P v := by
  obtain ⟨s, -, rfl⟩ := Option.map_eq_some_iff.mp moved
  exact h.aside rfl (h.store.quiet ⟨rfl, rfl, rfl⟩) rfl fun _ he => he

theorem stepWatchers (h : HandsOut P w) (moved : w.stepWatchers? = some v) : HandsOut P v := by
  unfold World.stepWatchers? at moved
  split at moved
  · refine Option.some.inj moved ▸ h.aside rfl ?_ rfl fun _ he => he
    exact ⟨fun c hc => h.store.news c (Broadcast.mem_queued_settle hc),
      fun e he => h.store.told e (Broadcast.mem_queued_settle he)⟩
  · simp at moved

theorem stepDispatcher (h : HandsOut P w) (moved : w.stepDispatcher? = some v)
    (tracked : ∀ id c, v.store.tracked.get? id = some c → P c) : HandsOut P v := by
  unfold World.stepDispatcher? at moved
  split at moved
  · simp at moved
  · next e trackedBefore due asked =>
    split at moved
    · obtain rfl := Option.some.inj moved
      have carried := h.carried e (by simp [World.waiting, asked])
      refine h.aside rfl (h.store.receive carried tracked) rfl ?_
      simp +contextual [World.waiting, asked]
    · simp at moved
  · next idle =>
    split at moved
    · refine Option.some.inj moved ▸ h.aside rfl h.store rfl ?_
      simp +contextual [World.waiting]
    · split at moved
      · next e rest queue =>
        obtain rfl := Option.some.inj moved
        have carried := h.carried e (by simp [World.waiting, idle, queue])
        cases needs : e.needsInspect with
        | true =>
          simp only [World.dispatch, needs, if_true]
          refine h.aside rfl h.store rfl ?_
          simp [World.waiting, idle, queue]
        | false =>
          simp only [World.dispatch, needs, Bool.false_eq_true, if_false] at tracked ⊢
          refine h.aside rfl (h.store.receive carried tracked) rfl ?_
          simp +contextual [World.waiting, idle, queue]
      · unfold World.takeSample? at moved
        split at moved
        · next u subscribers _ =>
          have quiet :=
            Store.still_recordSample (w.store.onSampling fun t => { t with subscribers }) u
          refine Option.some.inj moved ▸ h.aside rfl (h.store.quiet ?_) rfl fun _ he => he
          exact ⟨quiet.settings, quiet.events, quiet.newContainers⟩
        · simp at moved

theorem step (h : HandsOut P w) (moved : w.step? t = some v) (tidy : w.store.tracked.keys.Nodup)
    (tracked : ∀ id c, v.store.tracked.get? id = some c → P c) : HandsOut P v := by
  cases t with
  | read i => exact h.stepRead moved tidy tracked
  | emission => exact h.stepEmission moved
  | inspects i => exact h.stepInspects moved
  | feed n => exact h.stepFeed moved
  | announcements => exact h.stepAnnouncements moved
  | sampling t => exact h.stepSampling moved
  | dispatcher => exact h.stepDispatcher moved tracked
  | watchers => exact h.stepWatchers moved

theorem happens (h : HandsOut P w) (out : w.Happens v) : HandsOut P v := by
  cases out with
  | begin errands =>
    refine ⟨?_, h.store, h.announced, h.carried⟩
    intro r hr
    rcases List.mem_append.mp hr with old | new
    · exact h.findings r old
    · obtain ⟨errand, -, rfl⟩ := List.mem_map.mp new
      simp [StoreRead.findings]
  | leave fewer =>
    exact ⟨fun r hr => h.findings r (fewer.subset hr), h.store, h.announced, h.carried⟩
  | emit bare =>
    refine ⟨h.findings, h.store, h.announced, ?_⟩
    intro e he c carried
    rcases List.mem_append.mp he with old | new
    · exact h.carried e (List.mem_append_left _ old) c carried
    · rw [bare e (by simpa using new)] at carried
      simp at carried
  | watch fewer =>
    exact ⟨h.findings, ⟨h.store.news, fun e he => h.store.told e (fewer e he)⟩, h.announced,
      h.carried⟩
  | watchNew fewer =>
    exact ⟨h.findings, ⟨fun c hc => h.store.news c (fewer c hc), h.store.told⟩, h.announced,
      h.carried⟩
  | _ => exact ⟨h.findings, ⟨h.store.news, h.store.told⟩, h.announced, h.carried⟩

theorem initial (settings : StoreSettings) (host : ScriptedHost) :
    HandsOut P (World.initial settings host) where
  findings := by simp [World.initial]
  store := ⟨by simp [World.initial, Store.ofSettings, Broadcast.queued, Broadcast.ofBuffer],
    by simp [World.initial, Store.ofSettings, Broadcast.queued, Broadcast.ofBuffer]⟩
  announced := by simp [World.initial]
  carried := by simp [World.initial, World.waiting]

end HandsOut

namespace World

variable {settings : StoreSettings} {host : ScriptedHost} {w : World} {hs : List (World × Task)}

/-- What is handed out on a course from the start was an entry at some moment of the course. -/
theorem Course.handsOut (course : Course (initial settings host) hs w) :
    HandsOut (fun c => ∃ hs' v, hs' <+: hs ∧ Course (initial settings host) hs' v ∧
      v.store.tracked.get? c.id = some c) w := by
  induction course with
  | nil => exact HandsOut.initial settings host
  | happens out h ih => exact ih.happens out
  | @step hs v v' t moved h ih =>
    have sound := h.path.sound (sound_initial settings host)
    have longer := h.step t moved
    refine (ih.mono ?_).step moved sound.tidy.nodup ?_
    · rintro c ⟨hs', u, earlier, reached, known⟩
      exact ⟨hs', u, earlier.trans (List.prefix_append _ _), reached, known⟩
    · intro id c known
      refine ⟨_, v', List.prefix_rfl, longer, ?_⟩
      rwa [(sound.step moved).tidy.keyed id c known]

end World

end ContainerWatch
