import ContainerWatch.Proofs.Store.Syncing

/-!
Following a host by its events. A host changes, each change is followed by its event, and the
store handles the events in their order, however late. What the table shows may be behind at any
moment, but handling the events that are still to come always leads to what the host has by now.
So when none is to come any more, the table agrees with a new listing.
-/

namespace ContainerWatch

/-- The reply matters only to an event that needs one. -/
theorem ContainerEvent.entryAfter_of_needless {e : ContainerEvent}
    (needless : e.needsInspect = false) (settings : StoreSettings)
    (reply reply' : Except HostFault Container) (old : Option Container) :
    e.entryAfter settings reply old = e.entryAfter settings reply' old := by
  cases hk : e.kind with
  | create => simp [needsInspect, hk] at needless
  | start => simp [needsInspect, hk] at needless
  | update => simp [needsInspect, hk] at needless
  | rename =>
    obtain ⟨name, told⟩ : ∃ name, e.attributes.get? nameAttribute = some name := by
      simp only [needsInspect, hk, Bool.not_eq_false'] at needless
      exact Option.isSome_iff_exists.mp needless
    simp only [entryAfter, hk, told]
  | _ => simp only [entryAfter, hk]

/-- The events of a container among those that are to come lead from its entry to what the host
has. -/
def Leads (settings : StoreSettings) (id : String) (now : Option Container)
    (es : List ContainerEvent) (old : Option Container) : Prop :=
  AlikeEntries [] (replay settings now (es.filter fun e => e.actorId = id) old) (shown settings now)

namespace Leads

variable {settings : StoreSettings} {id : String} {now old old' : Option Container}
  {e : ContainerEvent} {es : List ContainerEvent}

theorem congr (h : Leads settings id now es old) (same : AlikeEntries [] old' old) :
    Leads settings id now es old' :=
  (replay_congr (.refl [] now) same).trans h

theorem handle (h : Leads settings id now (e :: es) old) (actor : e.actorId = id) :
    Leads settings id now es (e.entryAfter settings (answer now id) old) := by
  subst actor
  rw [Leads, List.filter_cons_of_pos (by simp)] at h
  exact h

theorem skip (h : Leads settings id now (e :: es) old) (other : e.actorId ≠ id) :
    Leads settings id now es old := by
  rw [Leads, List.filter_cons_of_neg (by simpa using other)] at h
  exact h

end Leads

/-- If the events to come lead to what a host had, they and the one of a change lead to what it has
now. -/
theorem Change.leads {settings : StoreSettings} {h h' : ScriptedHost} {e : ContainerEvent}
    {es : List ContainerEvent} {id : String} {old : Option Container} (change : Change h e h')
    (ok : h.Proper) (led : Leads settings id (h.find? id) es old) :
    Leads settings id (h'.find? id) (es ++ [e]) old := by
  by_cases actor : e.actorId = id
  · subst actor
    rw [Leads, List.filter_append, List.filter_cons_of_pos (by simp)]
    exact change.replayed ok led
  · rw [Leads, List.filter_append, List.filter_cons_of_neg (by simpa using actor),
      change.find?_of_ne (Ne.symm actor), List.filter_nil, List.append_nil]
    exact led

namespace World

/-- Something else happens: time passes, feeds and subscribers come and go. -/
structure Aside (w v : World) : Prop extends Ground w v where
  tracked : v.store.tracked = w.store.tracked
  dispatcher : v.dispatcher = w.dispatcher
  queue : v.queue = w.queue
  emission : v.emission = w.emission
  reads : v.reads = w.reads

/-- A store has synchronised and follows its host from then on: the host has made changes, with an
event for each, of which some are still to be sent. -/
inductive Follows (settings : StoreSettings) : List ContainerEvent → World → Prop
  | sync {host past w} (reached : Path (initial settings host) past w) (handled : w.waiting = [])
    (apart : w.store.connected = false) (proper : w.host.Proper)
    (works : w.host.listingFails = false) : Follows settings [] (w.perform [.connect] none).2
  | change {unsent w e h'} (h : Follows settings unsent w) (change : Change w.host e h') :
    Follows settings (unsent ++ [e]) { w with host := h' }
  | send {unsent w e} (h : Follows settings (e :: unsent) w) (free : w.emission = none) :
    Follows settings unsent { w with emission := some e }
  | step {unsent w v} (t : Task) (h : Follows settings unsent w) (moved : w.step? t = some v) :
    Follows settings unsent v
  | aside {unsent w v} (h : Follows settings unsent w) (aside : w.Aside v) :
    Follows settings unsent v

structure Following (settings : StoreSettings) (unsent : List ContainerEvent) (w : World) :
    Prop where
  tuned : w.store.settings = settings
  proper : w.host.Proper
  works : w.host.listingFails = false
  reads : w.reads = []
  tidy : Store.Tidy w.store.tracked
  leads : w.dispatcher ≠ .stopped → ∀ id,
    Leads settings id (w.host.find? id) (w.waiting ++ unsent) (w.store.tracked.get? id)

namespace Following

variable {settings : StoreSettings} {host h' : ScriptedHost} {unsent : List ContainerEvent}
  {e : ContainerEvent} {w v : World} {t : Task} {past : List Deed}

theorem sync (reached : Path (initial settings host) past w) (handled : w.waiting = [])
    (apart : w.store.connected = false) (proper : w.host.Proper)
    (works : w.host.listingFails = false) :
    Following settings [] (w.perform [.connect] none).2 := by
  have tidy := (reached.sound (sound_initial settings host)).tidy
  obtain ⟨calm, current⟩ := current_perform tidy handled apart proper works
  have tuned := calm.settings.trans reached.tuning
  refine ⟨tuned, calm.toGround.proper proper, calm.listingFails.trans works, rfl, calm.tidy, ?_⟩
  intro running id
  rw [calm.silent running]
  have shows := current id
  rw [tuned] at shows
  exact shows

theorem change (h : Following settings unsent w) (change : Change w.host e h') :
    Following settings (unsent ++ [e]) { w with host := h' } where
  tuned := h.tuned
  proper := change.proper h.proper
  works := change.listingFails.trans h.works
  reads := h.reads
  tidy := h.tidy
  leads running id := by
    have led := change.leads h.proper (h.leads running id)
    rw [List.append_assoc] at led
    exact led

theorem send (h : Following settings (e :: unsent) w) (free : w.emission = none) :
    Following settings unsent { w with emission := some e } where
  tuned := h.tuned
  proper := h.proper
  works := h.works
  reads := h.reads
  tidy := h.tidy
  leads running id := by
    have led := h.leads running id
    simpa [waiting, free] using led

/-- A deed leaves the entries alone, as far as they are known, or handles the oldest event. -/
theorem leads_table {d : Deed} {id : String} {es : List ContainerEvent} (possible : w.Possible d)
    (tuned : w.store.settings = settings) (alone : w.reads = [])
    (led : Leads settings id (w.host.find? id) (d.events ++ es) (w.store.tracked.get? id)) :
    Leads settings id (w.host.find? id) es ((d.table w.store).get? id) := by
  cases d with
  | rest => exact led
  | list listing => exact absurd alone possible.1
  | complete c => exact absurd alone possible.1
  | sample u => exact led.congr (alike_sample w.store u id)
  | handle e reply =>
    rw [Deed.table, Store.get?_handle possible.named, tuned]
    split
    · next hi =>
      subst hi
      -- The reply comes from the host as it is now, not as it was when the event was sent.
      have replied : e.entryAfter settings reply (w.store.tracked.get? e.actorId) =
          e.entryAfter settings (answer (w.host.find? e.actorId) e.actorId)
            (w.store.tracked.get? e.actorId) := by
        rcases possible with rfl | ⟨needless, -⟩
        · rw [ScriptedHost.details_eq]
        · exact ContainerEvent.entryAfter_of_needless needless _ _ _ _
      rw [replied]
      exact led.handle rfl
    · next hi => exact led.skip (Ne.symm hi)

theorem step (h : Following settings unsent w) (moved : w.step? t = some v) :
    Following settings unsent v := by
  have hs := step_of_step? moved
  have alone : v.reads = [] := by
    have kept := hs.reads
    rw [h.reads] at kept
    exact List.length_eq_zero_iff.mp kept
  refine ⟨hs.settings.trans h.tuned, hs.toGround.proper h.proper, hs.listingFails.trans h.works,
    alone, hs.tracked ▸ Deed.tidy h.tidy, ?_⟩
  intro running id
  rcases hs.waiting with ⟨stopped, -⟩ | ⟨before, -, waiting⟩
  -- A dispatcher that stops drops what waits, so nothing is claimed from then on.
  · exact absurd stopped running
  · have led := h.leads before id
    rw [waiting, List.append_assoc] at led
    rw [hs.tracked, hs.toGround.find?]
    exact leads_table (w.possible_deed t) h.tuned h.reads led

theorem aside (h : Following settings unsent w) (aside : w.Aside v) :
    Following settings unsent v := by
  refine ⟨aside.settings.trans h.tuned, aside.toGround.proper h.proper,
    aside.listingFails.trans h.works, aside.reads.trans h.reads, aside.tracked ▸ h.tidy, ?_⟩
  intro running id
  have waiting : v.waiting = w.waiting := by
    simp only [World.waiting, aside.dispatcher, aside.queue, aside.emission]
  rw [aside.tracked, aside.toGround.find?, waiting]
  exact h.leads (aside.dispatcher ▸ running) id

end Following

variable {settings : StoreSettings} {unsent : List ContainerEvent} {w : World}

theorem Follows.following (h : Follows settings unsent w) : Following settings unsent w := by
  induction h with
  | sync reached handled apart proper works => exact .sync reached handled apart proper works
  | change h change ih => exact ih.change change
  | send h free ih => exact ih.send free
  | step t h moved ih => exact ih.step moved
  | aside h aside ih => exact ih.aside aside

theorem Current.mem_keys_iff (current : Current w) (proper : w.host.Proper)
    (works : w.host.listingFails = false) {listing : List Container}
    (asked : w.host.listing w.store.settings.filter = .ok listing) (id : String) :
    id ∈ w.store.tracked.keys ↔ id ∈ listing.map (·.id) := by
  rw [Entries.mem_keys_iff, ScriptedHost.mem_ids_listing proper works asked]
  have shows := current id
  cases tracked : w.store.tracked.get? id with
  | none =>
    rw [tracked] at shows
    cases hd : shown w.store.settings (w.host.find? id) with
    | none => simp
    | some d => rw [hd] at shows; exact shows.elim
  | some c =>
    rw [tracked] at shows
    cases hd : shown w.store.settings (w.host.find? id) with
    | none => rw [hd] at shows; exact shows.elim
    | some d => simp

/-- When every event has been handled, the tracked containers are those that a new listing gives,
and about each of them the same is known as the listing tells. -/
theorem Follows.listing_agrees (h : Follows settings [] w) (idle : w.dispatcher = .idle)
    (queue : w.queue = []) (emission : w.emission = none) :
    ∃ listing, w.host.listing settings.filter = .ok listing ∧
      w.store.tracked.keys.Perm (listing.map (·.id)) ∧
      ∀ c ∈ listing, ∃ t, w.store.tracked.get? c.id = some t ∧ t.known = c.known := by
  obtain ⟨tuned, proper, works, -, tidy, leads⟩ := h.following
  have current : Current w := by
    intro id
    have led := leads (by simp [idle]) id
    simpa [waiting, idle, queue, emission, Leads, replay, tuned] using led
  subst tuned
  have asked := w.host.listing_of_works w.store.settings.filter works
  have distinct := ScriptedHost.nodup_listing proper works asked
  refine ⟨_, asked, (List.perm_ext_iff_of_nodup tidy.nodup distinct).mpr
    (current.mem_keys_iff proper works asked), ?_⟩
  intro c listed
  obtain ⟨d, hd, same⟩ := (ScriptedHost.mem_listing proper works asked).mp listed
  have shows := current c.id
  rw [hd] at shows
  cases tracked : w.store.tracked.get? c.id with
  | none => rw [tracked] at shows; exact shows.elim
  | some t =>
    rw [tracked] at shows
    have alike : t.Alike [] d := shows
    have told : c.known = d.known := by rw [same]; rfl
    exact ⟨t, rfl, alike.known_eq.trans told.symm⟩

/-! ### Two changes before the first event

A container is renamed and dies before the event of the renaming is sent, so that the inspect for
the new name meets a container that has exited already. -/

def runningWeb : Container := { id := "aaa", name := "web", state := .running, host := "fake" }

def webHost : ScriptedHost := (ScriptedHost.named "fake").put runningWeb

def renameEvent : ContainerEvent := { name := "rename", actorId := "aaa", host := "fake" }

def dieEvent : ContainerEvent := { name := "die", actorId := "aaa", host := "fake" }

def webSynced : World := ((initial {} webHost).perform [.connect] none).2

def webChanged : World :=
  { webSynced with
    host := (webSynced.host.put { runningWeb with name := "site" }).put
      { runningWeb with name := "site", state := .exited } }

def webRenamed : World :=
  ((({ webChanged with emission := some renameEvent } : World).moved .emission).moved
    .dispatcher).moved .dispatcher

def webBuried : World :=
  (({ webRenamed with emission := some dieEvent } : World).moved .emission).moved .dispatcher

theorem follows_webChanged : Follows {} [renameEvent, dieEvent] webChanged := by
  have proper : webHost.Proper := ⟨by simp [webHost, ScriptedHost.put, ScriptedHost.named], by
    simp [webHost, ScriptedHost.put, ScriptedHost.named]⟩
  have tidy := (sound_initial {} webHost).tidy
  have calm := (current_perform tidy rfl rfl proper rfl).1
  have synced : Follows {} [] webSynced :=
    .sync (.nil : Path (initial {} webHost) [] _) rfl rfl proper rfl
  have known : runningWeb ∈ webSynced.host.containers := by
    rw [webSynced, calm.containers]
    simp [initial, webHost, ScriptedHost.put, ScriptedHost.named, runningWeb]
  have machine : webSynced.host.host.id = "fake" := by
    rw [webSynced, calm.machine]
    rfl
  have renamed : Follows {} [renameEvent] { webSynced with
      host := webSynced.host.put { runningWeb with name := "site" } } :=
    synced.change (.rename "site" known (by decide) rfl rfl (by simp [renameEvent]))
  refine renamed.change (.die (c := { runningWeb with name := "site" }) ?_ rfl rfl)
  simp [ScriptedHost.put, machine, runningWeb]

theorem follows_webBuried : Follows {} [] webBuried := by
  have told : Follows {} [dieEvent] { webChanged with emission := some renameEvent } :=
    follows_webChanged.send rfl
  have taken := told.step .emission (step?_moved (by decide +kernel))
  have asked := taken.step .dispatcher (step?_moved (by decide +kernel))
  have renamed : Follows {} [dieEvent] webRenamed :=
    asked.step .dispatcher (step?_moved (by decide +kernel))
  have free : webRenamed.emission = none := by
    have h : webRenamed.emission.isNone = true := by decide +kernel
    simpa using h
  have taken := (renamed.send free).step .emission (step?_moved (by decide +kernel))
  exact taken.step .dispatcher (step?_moved (by decide +kernel))

theorem Follows.listing_agrees_webBuried : ∃ listing, webBuried.host.listing .all = .ok listing ∧
    webBuried.store.tracked.keys.Perm (listing.map (·.id)) ∧
    ∀ c ∈ listing, ∃ t, webBuried.store.tracked.get? c.id = some t ∧ t.known = c.known := by
  have idle : webBuried.dispatcher = .idle := by
    have h : (match webBuried.dispatcher with
      | .idle => true
      | _ => false) = true := by decide +kernel
    split at h
    · next idle => exact idle
    · simp at h
  have queue : webBuried.queue.isEmpty = true := by decide +kernel
  have emission : webBuried.emission.isNone = true := by decide +kernel
  exact follows_webBuried.listing_agrees idle (by simpa using queue) (by simpa using emission)

end World

end ContainerWatch
