import ContainerWatch.Proofs.Store.Table
import ContainerWatch.Store.World

/-!
What the steps of a world do to its table. Each step does one deed or none: a listing is taken over,
an answer to an inspect is, an event is handled, a sample is recorded. `Step` says once what a deed
changes, and `possible_deed` where its data come from.
-/

namespace ContainerWatch

/-- What a step does to the table. -/
inductive Deed
  | rest
  | list (listing : List Container)
  | complete (c : Container)
  | handle (e : ContainerEvent) (reply : Except HostFault Container)
  | sample (u : Usage)

namespace Deed

def table (d : Deed) (s : Store) : Entries Container :=
  match d with
  | rest => s.tracked
  | list listing => (s.absorb listing).tracked
  | complete c => (s.enrich (.answered (.ok c))).tracked
  | handle e reply => (s.handle e reply).store.tracked
  | sample u => (s.recordSample u).tracked

def events : Deed → List ContainerEvent
  | handle e _ => [e]
  | _ => []

end Deed

def StoreRead.outcomes (r : StoreRead) : List InspectOutcome :=
  match r.phase with
  | .syncing e => e.outcomes
  | _ => []

namespace World

def outcomes (w : World) : List InspectOutcome := w.reads.flatMap StoreRead.outcomes

/-- The events that were sent and are not handled, the oldest first. -/
def waiting (w : World) : List ContainerEvent :=
  (match w.dispatcher with
    | .inspecting e _ _ => [e]
    | _ => []) ++ w.queue ++ w.emission.toList

def readDeed (w : World) (r : StoreRead) : Deed :=
  match r.phase with
  | .entering =>
    if w.store.connected then .rest
    else match w.host.listing w.store.settings.filter with
      | .ok listing => .list listing
      | .error _ => .rest
  | .syncing e =>
    match e.outcomes with
    | .answered (.ok c) :: _ => .complete c
    | _ => .rest
  | .inspecting id _ =>
    match w.host.details id with
    | .ok c => .complete c
    | .error _ => .rest
  | _ => .rest

def dispatcherDeed (w : World) : Deed :=
  match w.dispatcher with
  | .stopped => .rest
  | .inspecting e _ _ => .handle e (w.host.details e.actorId)
  | .idle =>
    if w.store.isShut then .rest
    else match w.queue with
      | e :: _ => if e.needsInspect then .rest else .handle e (.error .cancelled)
      | [] =>
        match w.store.sampling.subscribers.receive Store.ownSubscriber with
        | some (.item u, _) => .sample u
        | _ => .rest

def deed (w : World) : Task → Deed
  | .read i =>
    match w.reads[i]? with
    | some r => w.readDeed r
    | none => .rest
  | .dispatcher => w.dispatcherDeed
  | _ => .rest

structure Ground (w w' : World) : Prop where
  settings : w'.store.settings = w.store.settings
  machine : w'.host.host = w.host.host
  containers : w'.host.containers = w.host.containers
  listingFails : w'.host.listingFails = w.host.listingFails

/-- What a step changes that does a deed: nothing but the table, the outcomes of inspects, which are
those that the host gives, and the events that wait, of which the handled one goes. -/
structure Step (w : World) (d : Deed) (w' : World) : Prop extends Ground w w' where
  tracked : w'.store.tracked = d.table w.store
  reads : w'.reads.length = w.reads.length
  outcomes : ∀ o ∈ w'.outcomes,
    o ∈ w.outcomes ∨ o = .timedOut ∨ ∃ id, o = .answered (w.host.details id)
  waiting : w'.dispatcher = .stopped ∧ d.events = [] ∨
    w.dispatcher ≠ .stopped ∧ w'.dispatcher ≠ .stopped ∧ w.waiting = d.events ++ w'.waiting

/-! ### Reads -/

theorem mem_outcomes_continueRead {w : World} {i : Nat} {r : StoreRead} {o : InspectOutcome}
    (h : o ∈ (w.continueRead i r).outcomes) : o ∈ w.outcomes ∨ o ∈ r.outcomes := by
  obtain ⟨q, hq, ho⟩ := List.mem_flatMap.mp h
  rcases List.mem_or_eq_of_mem_set hq with hm | rfl
  · exact Or.inl (List.mem_flatMap.mpr ⟨q, hm, ho⟩)
  · exact Or.inr ho

theorem kept_waiting {w v : World} {d : Deed} (dispatcher : v.dispatcher = w.dispatcher)
    (waiting : v.waiting = w.waiting) (events : d.events = []) :
    v.dispatcher = .stopped ∧ d.events = [] ∨
      w.dispatcher ≠ .stopped ∧ v.dispatcher ≠ .stopped ∧ w.waiting = d.events ++ v.waiting := by
  rw [dispatcher, waiting, events]
  by_cases stopped : w.dispatcher = .stopped
  · exact Or.inl ⟨stopped, rfl⟩
  · exact Or.inr ⟨stopped, stopped, rfl⟩

theorem step_continueRead {w v : World} {d : Deed} {i : Nat} {r : StoreRead} (ground : Ground w v)
    (tracked : v.store.tracked = d.table w.store) (reads : v.reads = w.reads)
    (dispatcher : v.dispatcher = w.dispatcher) (waiting : v.waiting = w.waiting)
    (events : d.events = []) (outcomes : ∀ o ∈ r.outcomes,
      o ∈ w.outcomes ∨ o = .timedOut ∨ ∃ id, o = .answered (w.host.details id)) :
    w.Step d (v.continueRead i r) where
  settings := ground.settings
  machine := ground.machine
  containers := ground.containers
  listingFails := ground.listingFails
  tracked := tracked
  reads := by simp [continueRead, reads]
  outcomes o ho := by
    rcases mem_outcomes_continueRead ho with hm | hm
    · exact Or.inl (by rwa [World.outcomes, reads] at hm)
    · exact outcomes o hm
  waiting := kept_waiting dispatcher waiting events

theorem step_finishRead {w v : World} {d : Deed} {i : Nat} {r : StoreRead}
    {result : Except StoreFault Finding} (ground : Ground w v)
    (tracked : v.store.tracked = d.table w.store) (reads : v.reads = w.reads)
    (dispatcher : v.dispatcher = w.dispatcher) (waiting : v.waiting = w.waiting)
    (events : d.events = []) : w.Step d (v.finishRead i r result) :=
  step_continueRead ground tracked reads dispatcher waiting events (by simp [StoreRead.outcomes])

theorem step_miss {w v : World} {d : Deed} {i : Nat} {r : StoreRead} {id : String}
    (ground : Ground w v) (tracked : v.store.tracked = d.table w.store) (reads : v.reads = w.reads)
    (dispatcher : v.dispatcher = w.dispatcher) (waiting : v.waiting = w.waiting)
    (events : d.events = []) : w.Step d (v.miss i r id) := by
  unfold miss
  split
  · split
    · exact step_continueRead ground tracked reads dispatcher waiting events
        (by simp [StoreRead.outcomes])
    · exact step_finishRead ground tracked reads dispatcher waiting events
  · exact step_finishRead ground tracked reads dispatcher waiting events

theorem step_lookUp (w : World) (i : Nat) (r : StoreRead) (id : String) (filter : LabelFilter) :
    w.Step .rest (w.lookUp i r id filter) := by
  unfold lookUp
  split
  · exact step_miss ⟨rfl, rfl, rfl, rfl⟩ rfl rfl rfl rfl rfl
  · exact step_finishRead ⟨rfl, rfl, rfl, rfl⟩ rfl rfl rfl rfl rfl
  · exact step_continueRead ⟨rfl, rfl, rfl, rfl⟩ rfl rfl rfl rfl rfl (by simp [StoreRead.outcomes])

theorem step_pursue (w : World) (i : Nat) (r : StoreRead) : w.Step .rest (w.pursue i r) := by
  unfold pursue
  split
  · exact step_finishRead ⟨rfl, rfl, rfl, rfl⟩ rfl rfl rfl rfl rfl
  · exact step_finishRead ⟨rfl, rfl, rfl, rfl⟩ rfl rfl rfl rfl rfl
  · exact step_lookUp w i r _ _
  · exact step_lookUp w i r _ _

theorem step_load (w : World) (i : Nat) {r : StoreRead} {id : String} {due : Nat}
    (phase : r.phase = .inspecting id due) : w.Step (w.readDeed r) (w.load i r id) := by
  obtain ⟨settings, tracked, events⟩ :
      (w.store.load id (w.host.details id)).store.settings = w.store.settings ∧
      (w.store.load id (w.host.details id)).store.tracked = (w.readDeed r).table w.store ∧
      (w.readDeed r).events = [] := by
    simp only [readDeed, phase]
    cases w.host.details id with
    | ok c =>
      rw [Store.load_store]
      exact ⟨Store.enrich_settings _ _, rfl, rfl⟩
    | error fault => exact ⟨(Store.load_error _ _ _).1, (Store.load_error _ _ _).2, rfl⟩
  simp only [load]
  split
  · exact step_finishRead ⟨settings, rfl, rfl, rfl⟩ tracked rfl rfl rfl events
  · exact step_miss ⟨settings, rfl, rfl, rfl⟩ tracked rfl rfl rfl events
  · exact step_finishRead ⟨settings, rfl, rfl, rfl⟩ tracked rfl rfl rfl events

theorem step_enter (w : World) (i : Nat) {r : StoreRead} (phase : r.phase = .entering) :
    w.Step (w.readDeed r) (w.enter i r) := by
  have begun : w.store.beginSync.settings = w.store.settings := by
    unfold Store.beginSync Store.startFeed
    cases w.store.feed <;> rfl
  have table := w.store.beginSync_tracked
  cases connected : w.store.connected with
  | true =>
    simp only [enter, readDeed, phase, connected]
    exact step_continueRead ⟨rfl, rfl, rfl, rfl⟩ rfl rfl rfl rfl rfl (by simp [StoreRead.outcomes])
  | false =>
    simp only [enter, readDeed, phase, connected, begun, Bool.false_eq_true, if_false]
    cases w.host.listing w.store.settings.filter with
    | error fault =>
      have failed : w.store.beginSync.failSync.settings = w.store.beginSync.settings := by
        unfold Store.failSync Store.note
        cases w.store.beginSync.feed <;> rfl
      exact step_finishRead ⟨failed.trans begun, rfl, rfl, rfl⟩
        ((Store.failSync_tracked _).trans table) rfl rfl rfl rfl
    | ok listing =>
      have absorbed := w.store.beginSync.absorb_settings listing
      exact step_continueRead ⟨absorbed.trans begun, rfl, rfl, rfl⟩
        (Store.absorb_tracked_congr table begun listing) rfl rfl rfl rfl
        (by simp [StoreRead.outcomes])

theorem step_takeOutcome {w : World} {i : Nat} {r : StoreRead} {e : Enrichment} {o : InspectOutcome}
    {rest : List InspectOutcome} (reads : w.reads[i]? = some r) (phase : r.phase = .syncing e)
    (come : e.outcomes = o :: rest) : w.Step (w.readDeed r)
      ({ w with store := w.store.enrich o }.continueRead i
        { r with phase := .syncing { e with outcomes := rest } }) := by
  have known : ∀ o' ∈ rest, o' ∈ w.outcomes := by
    intro o' ho
    refine List.mem_flatMap.mpr ⟨r, List.mem_of_getElem? reads, ?_⟩
    simp [StoreRead.outcomes, phase, come, ho]
  obtain ⟨tracked, events⟩ : (w.store.enrich o).tracked = (w.readDeed r).table w.store ∧
      (w.readDeed r).events = [] := by
    simp only [readDeed, phase, come]
    cases o with
    | timedOut => exact ⟨rfl, rfl⟩
    | answered reply => cases reply <;> exact ⟨rfl, rfl⟩
  exact step_continueRead ⟨Store.enrich_settings _ _, rfl, rfl, rfl⟩ tracked rfl rfl rfl events
    fun o' ho => Or.inl (known o' ho)

theorem step_read {w w' : World} {i : Nat} (h : w.stepRead? i = some w') :
    w.Step (w.deed (.read i)) w' := by
  unfold stepRead? at h
  unfold deed
  split at h
  · simp at h
  · next r hr =>
    simp only [hr]
    split at h
    · next phase => exact Option.some.inj h ▸ step_enter w i phase
    · next running queued inFlight outcomes phase =>
      split at h
      · next o rest => exact Option.some.inj h ▸ step_takeOutcome hr phase rfl
      · split at h
        · have hd : w.readDeed r = .rest := by simp only [readDeed, phase]
          rw [hd]
          exact Option.some.inj h ▸ step_continueRead ⟨rfl, rfl, rfl, rfl⟩ rfl rfl rfl rfl rfl
            (by simp [StoreRead.outcomes])
        · simp at h
    · next phase =>
      have hd : w.readDeed r = .rest := by simp only [readDeed, phase]
      rw [hd]
      exact Option.some.inj h ▸ step_pursue w i r
    · next id due phase =>
      split at h
      · exact Option.some.inj h ▸ step_load w i phase
      · simp at h
    · simp at h

/-! ### The inspects of a synchronisation -/

theorem mem_outcomes_of_settled {w : World} {e : Enrichment} {host : ScriptedHost}
    {e' : Enrichment} (h : w.stepEnrichment? e = some (host, e')) :
    (host.host = w.host.host ∧ host.containers = w.host.containers ∧
      host.listingFails = w.host.listingFails) ∧
    ∀ o ∈ e'.outcomes,
      o ∈ e.outcomes ∨ o = .timedOut ∨ ∃ id, o = .answered (w.host.details id) := by
  unfold stepEnrichment? at h
  split at h
  · next x inFlight hx =>
    obtain ⟨rfl, rfl⟩ := by simpa using h
    refine ⟨⟨rfl, rfl, rfl⟩, fun o ho => ?_⟩
    rcases List.mem_append.mp ho with hm | hm
    · exact Or.inl hm
    · obtain rfl := List.mem_singleton.mp hm
      split
      · exact Or.inr (Or.inr ⟨x.id, rfl⟩)
      · exact Or.inr (Or.inl rfl)
  · split at h
    · simp at h
    · split at h
      · obtain ⟨rfl, rfl⟩ := by simpa using h
        exact ⟨⟨rfl, rfl, rfl⟩, fun o ho => Or.inl ho⟩
      · simp at h

theorem step_inspects {w w' : World} {i : Nat} (h : w.stepInspects? i = some w') :
    w.Step .rest w' := by
  unfold stepInspects? at h
  split at h
  · next e errand hr =>
    obtain ⟨⟨host, e'⟩, he, rfl⟩ := Option.map_eq_some_iff.mp h
    obtain ⟨⟨machine, containers, listingFails⟩, outcomes⟩ := mem_outcomes_of_settled he
    refine step_continueRead ⟨rfl, machine, containers, listingFails⟩ rfl rfl rfl rfl rfl ?_
    intro o ho
    rcases outcomes o ho with hm | hm
    · refine Or.inl (List.mem_flatMap.mpr ⟨_, List.mem_of_getElem? hr, ?_⟩)
      simpa [StoreRead.outcomes] using hm
    · exact Or.inr hm
  · simp at h

/-! ### Feeds, announcements, sampling and watchers -/

theorem step_aside {w v : World} {d : Deed} (ground : Ground w v)
    (tracked : v.store.tracked = d.table w.store) (reads : v.reads = w.reads)
    (dispatcher : v.dispatcher = w.dispatcher) (waiting : v.waiting = w.waiting)
    (events : d.events = []) : w.Step d v where
  settings := ground.settings
  machine := ground.machine
  containers := ground.containers
  listingFails := ground.listingFails
  tracked := tracked
  reads := by rw [reads]
  outcomes o ho := Or.inl (by rwa [World.outcomes, reads] at ho)
  waiting := kept_waiting dispatcher waiting events

theorem step_feed {w w' : World} {n : Nat} (h : w.stepFeed? n = some w') : w.Step .rest w' := by
  unfold stepFeed? at h
  split at h
  · split at h
    · exact Option.some.inj h ▸ step_aside ⟨rfl, rfl, rfl, rfl⟩ rfl rfl rfl rfl rfl
    · split at h
      · exact Option.some.inj h ▸ step_aside ⟨rfl, rfl, rfl, rfl⟩ rfl rfl rfl rfl rfl
      · simp at h
    · exact Option.some.inj h ▸ step_aside ⟨rfl, rfl, rfl, rfl⟩ rfl rfl rfl rfl rfl
    · simp at h
  · simp at h

theorem step_emission {w w' : World} (h : w.stepEmission? = some w') : w.Step .rest w' := by
  unfold stepEmission? at h
  split at h
  · next e emission =>
    split at h
    · refine Option.some.inj h ▸ step_aside ⟨rfl, rfl, rfl, rfl⟩ rfl rfl rfl ?_ rfl
      simp [waiting, emission]
    · simp at h
  · simp at h

theorem step_announcements {w w' : World} (h : w.stepAnnouncements? = some w') :
    w.Step .rest w' := by
  unfold stepAnnouncements? at h
  split at h
  · exact Option.some.inj h ▸ step_aside ⟨rfl, rfl, rfl, rfl⟩ rfl rfl rfl rfl rfl
  · simp at h

theorem step_watchers {w w' : World} (h : w.stepWatchers? = some w') : w.Step .rest w' := by
  unfold stepWatchers? at h
  split at h
  · exact Option.some.inj h ▸ step_aside ⟨rfl, rfl, rfl, rfl⟩ rfl rfl rfl rfl rfl
  · simp at h

theorem sampled_host {now : Nat} {s s' : SampledHost} {t : SamplingTask}
    (h : s.step? now t = some s') : s'.host.host = s.host.host ∧
      s'.host.containers = s.host.containers ∧ s'.host.listingFails = s.host.listingFails := by
  have marked : ∀ id, (s.host.markStopped id).host = s.host.host ∧
      (s.host.markStopped id).containers = s.host.containers ∧
      (s.host.markStopped id).listingFails = s.host.listingFails := by
    intro id
    unfold ScriptedHost.markStopped
    split <;> exact ⟨rfl, rfl, rfl⟩
  cases t with
  | idleTimer =>
    simp only [SampledHost.step?, SampledHost.stepTimer?] at h
    split at h
    · split at h
      · exact Option.some.inj h ▸ ⟨rfl, rfl, rfl⟩
      · simp at h
    · simp at h
  | session n =>
    simp only [SampledHost.step?, SampledHost.stepSession?] at h
    split at h
    · exact Option.some.inj h ▸ ⟨rfl, rfl, rfl⟩
    · obtain ⟨_, -, rfl⟩ := Option.map_eq_some_iff.mp h
      exact ⟨rfl, rfl, rfl⟩
  | sampler k =>
    simp only [SampledHost.step?, SampledHost.stepSampler?] at h
    split at h
    · exact Option.some.inj h ▸ ⟨rfl, rfl, rfl⟩
    · obtain ⟨_, -, rfl⟩ := Option.map_eq_some_iff.mp h
      exact marked _
    · obtain ⟨_, -, rfl⟩ := Option.map_eq_some_iff.mp h
      exact ⟨rfl, rfl, rfl⟩
  | watchers =>
    simp only [SampledHost.step?, SampledHost.stepWatchers?] at h
    split at h
    · exact Option.some.inj h ▸ ⟨rfl, rfl, rfl⟩
    · simp at h

theorem step_sampling {w w' : World} {t : SamplingTask}
    (h : (w.sampled.step? w.clock t).map w.withSampled = some w') : w.Step .rest w' := by
  obtain ⟨s, hs, rfl⟩ := Option.map_eq_some_iff.mp h
  obtain ⟨machine, containers, listingFails⟩ := sampled_host hs
  exact step_aside ⟨rfl, machine, containers, listingFails⟩ rfl rfl rfl rfl rfl

/-! ### The dispatcher -/

theorem receive_ground (s : Store) (e : ContainerEvent) (trackedBefore : Bool)
    (reply : Except HostFault Container) :
    (s.receive e trackedBefore reply).settings = s.settings ∧
      (s.receive e trackedBefore reply).tracked = (Deed.handle e reply).table s := by
  unfold Store.receive
  rw [Store.publish_settings, Store.publish_tracked, Store.handle_settings]
  exact ⟨rfl, rfl⟩

theorem step_takeSample {w w' : World} (idle : w.dispatcher = .idle) (empty : w.queue = [])
    (running : w.store.isShut = false) (h : w.takeSample? = some w') :
    w.Step w.dispatcherDeed w' := by
  unfold takeSample? at h
  split at h
  · next u subscribers received =>
    obtain rfl := Option.some.inj h
    have hd : w.dispatcherDeed = .sample u := by
      simp only [dispatcherDeed, idle, running, empty, received, Bool.false_eq_true, if_false]
    obtain ⟨settings, tracked⟩ :
        ((w.store.onSampling fun t => { t with subscribers }).recordSample u).settings =
          w.store.settings ∧
        ((w.store.onSampling fun t => { t with subscribers }).recordSample u).tracked =
          (w.store.recordSample u).tracked := by
      unfold Store.recordSample Store.onSampling
      cases w.store.tracked.get? u.id <;> exact ⟨rfl, rfl⟩
    rw [hd]
    exact step_aside ⟨settings, rfl, rfl, rfl⟩ tracked rfl rfl rfl rfl
  · simp at h

theorem step_dispatch {w : World} {e : ContainerEvent} {rest : List ContainerEvent}
    (idle : w.dispatcher = .idle) (queue : w.queue = e :: rest)
    (running : w.store.isShut = false) :
    w.Step w.dispatcherDeed ({ w with queue := rest }.dispatch e) := by
  cases needs : e.needsInspect with
  | true =>
    simp only [dispatcherDeed, dispatch, idle, running, queue, needs, Bool.false_eq_true, if_false,
      if_true]
    refine ⟨⟨rfl, rfl, rfl, rfl⟩, rfl, rfl, fun o ho => Or.inl ho,
      Or.inr ⟨by simp [idle], by simp, ?_⟩⟩
    simp [waiting, idle, queue, Deed.events]
  | false =>
    obtain ⟨settings, tracked⟩ :=
      receive_ground w.store e (w.store.tracked.has e.actorId) (.error .cancelled)
    simp only [dispatcherDeed, dispatch, idle, running, queue, needs, Bool.false_eq_true, if_false]
    refine ⟨⟨settings, rfl, rfl, rfl⟩, tracked, rfl, fun o ho => Or.inl ho,
      Or.inr ⟨by simp [idle], by simp, ?_⟩⟩
    simp [waiting, idle, queue, Deed.events]

theorem step_answer {w : World} {e : ContainerEvent} {trackedBefore : Bool} {due : Nat}
    (asked : w.dispatcher = .inspecting e trackedBefore due) :
    w.Step w.dispatcherDeed { w with
      host := w.host.endInspect, dispatcher := .idle
      store := w.store.receive e trackedBefore (w.host.details e.actorId) } := by
  obtain ⟨settings, tracked⟩ :=
    receive_ground w.store e trackedBefore (w.host.details e.actorId)
  simp only [dispatcherDeed, asked]
  refine ⟨⟨settings, rfl, rfl, rfl⟩, tracked, rfl, fun o ho => Or.inl ho,
    Or.inr ⟨by simp [asked], by simp, ?_⟩⟩
  simp [waiting, asked, Deed.events]

theorem step_dispatcher {w w' : World} (h : w.stepDispatcher? = some w') :
    w.Step w.dispatcherDeed w' := by
  unfold stepDispatcher? at h
  split at h
  · simp at h
  · next e trackedBefore due asked =>
    split at h
    · exact Option.some.inj h ▸ step_answer asked
    · simp at h
  · next idle =>
    split at h
    · next shut =>
      obtain rfl := Option.some.inj h
      simp only [dispatcherDeed, idle, shut, if_true]
      exact ⟨⟨rfl, rfl, rfl, rfl⟩, rfl, rfl, fun o ho => Or.inl ho, Or.inl ⟨rfl, rfl⟩⟩
    · next running =>
      have running : w.store.isShut = false := by simpa using running
      split at h
      · next e rest queue => exact Option.some.inj h ▸ step_dispatch idle queue running
      · next queue => exact step_takeSample idle queue running h

/-- The step of a task does its deed. -/
theorem step_of_step? {w w' : World} {t : Task} (h : w.step? t = some w') :
    w.Step (w.deed t) w' := by
  cases t with
  | read i => exact step_read h
  | emission => exact step_emission h
  | inspects i => exact step_inspects h
  | feed n => exact step_feed h
  | announcements => exact step_announcements h
  | sampling t => exact step_sampling h
  | dispatcher => exact step_dispatcher h
  | watchers => exact step_watchers h

/-! ### Where the data of a deed come from -/

/-- What a world must give for a deed to be done in it. -/
def Possible (w : World) : Deed → Prop
  | .rest | .sample _ => True
  | .list listing => w.reads ≠ [] ∧ w.host.listing w.store.settings.filter = .ok listing
  | .complete c =>
    w.reads ≠ [] ∧ (.answered (.ok c) ∈ w.outcomes ∨ ∃ id, w.host.details id = .ok c)
  | .handle e reply =>
    reply = w.host.details e.actorId ∨ e.needsInspect = false ∧ reply = .error .cancelled

theorem possible_readDeed {w : World} {i : Nat} {r : StoreRead} (reads : w.reads[i]? = some r) :
    w.Possible (w.readDeed r) := by
  have hr : r ∈ w.reads := List.mem_of_getElem? reads
  have some_ : w.reads ≠ [] := List.ne_nil_of_mem hr
  unfold readDeed
  split
  · split
    · trivial
    · split
      · next listing asked => exact ⟨some_, asked⟩
      · trivial
  · next e phase =>
    split
    · next c rest outcomes =>
      refine ⟨some_, Or.inl (List.mem_flatMap.mpr ⟨r, hr, ?_⟩)⟩
      simp [StoreRead.outcomes, phase, outcomes]
    · trivial
  · next id due phase =>
    split
    · next c asked => exact ⟨some_, Or.inr ⟨id, asked⟩⟩
    · trivial
  · trivial

theorem possible_dispatcherDeed (w : World) : w.Possible w.dispatcherDeed := by
  unfold dispatcherDeed
  split
  · trivial
  · exact Or.inl rfl
  · split
    · trivial
    · split
      · split
        · trivial
        · next needs => exact Or.inr ⟨by simpa using needs, rfl⟩
      · split <;> trivial

theorem possible_deed (w : World) (t : Task) : w.Possible (w.deed t) := by
  unfold deed
  split
  · split
    · next r reads => exact possible_readDeed reads
    · trivial
  · exact w.possible_dispatcherDeed
  · trivial

end World

namespace ScriptedHost

theorem details_id {h : ScriptedHost} {id : String} {c : Container} (asked : h.details id = .ok c) :
    c.id = id ∧ c.fullyLoaded = true := by
  unfold details at asked
  split at asked
  · next d found =>
    obtain rfl := Except.ok.inj asked
    exact ⟨by simpa using List.find?_some found, rfl⟩
  · simp at asked

end ScriptedHost

namespace World

theorem Possible.named {w : World} {e : ContainerEvent} {reply : Except HostFault Container}
    (h : w.Possible (.handle e reply)) : ∀ c, reply = .ok c → c.id = e.actorId := by
  rintro c rfl
  rcases h with h | ⟨-, h⟩
  · exact (ScriptedHost.details_id h.symm).1
  · simp at h

end World

end ContainerWatch
