import ContainerWatch.Proofs.Sampling.Lease
import ContainerWatch.Proofs.Store.Frame

/-!
Which steps touch what. The line between a store and its host, with its feeds and whether the store
counts as connected, is changed only by feeds and by reads; the reads are changed only by themselves
and by their inspects. Nothing but a shutdown shuts a store, and no step moves the clock.
-/

namespace ContainerWatch

/-! ### Only a shutdown shuts -/

theorem SampledHost.beside {now : Nat} {s s' : SampledHost} {t : SamplingTask}
    (h : s.step? now t = some s') :
    s'.host.feeds = s.host.feeds ∧ s'.sampling.cancelled = s.sampling.cancelled := by
  have shuts : s'.sampling.cancelled = s.sampling.cancelled := by
    by_cases timer : t = .idleTimer
    · subst timer
      obtain ⟨-, rfl⟩ := step?_idleTimer.mp h
      exact congrArg Lease.cancelled (Sampling.lease_expire s.sampling)
    · exact congrArg Lease.cancelled (lease_of_step h timer)
  refine ⟨?_, shuts⟩
  cases t with
  | idleTimer =>
    obtain ⟨-, rfl⟩ := step?_idleTimer.mp h
    rfl
  | session n =>
    simp only [step?, stepSession?] at h
    split at h
    · exact Option.some.inj h ▸ rfl
    · obtain ⟨_, -, rfl⟩ := Option.map_eq_some_iff.mp h
      rfl
  | sampler k =>
    simp only [step?, stepSampler?] at h
    split at h
    · exact Option.some.inj h ▸ rfl
    · obtain ⟨_, -, rfl⟩ := Option.map_eq_some_iff.mp h
      simp only [ScriptedHost.markStopped]
      split <;> rfl
    · obtain ⟨_, -, rfl⟩ := Option.map_eq_some_iff.mp h
      rfl
  | watchers =>
    simp only [step?, stepWatchers?] at h
    split at h
    · exact Option.some.inj h ▸ rfl
    · simp at h

/-! ### What changes of a store leave of its line -/

namespace Store

/-- A change of a store that leaves its feeds alone and whether it is connected or shut. -/
structure Tied (s t : Store) : Prop where
  connected : t.connected = s.connected
  feeds : t.feeds = s.feeds
  feed : t.feed = s.feed
  shut : t.isShut = s.isShut

variable {s t u : Store}

theorem Tied.refl (s : Store) : s.Tied s := ⟨rfl, rfl, rfl, rfl⟩

theorem Tied.trans (h : s.Tied t) (h' : t.Tied u) : s.Tied u where
  connected := h'.connected.trans h.connected
  feeds := h'.feeds.trans h.feeds
  feed := h'.feed.trans h.feed
  shut := h'.shut.trans h.shut

theorem tied_startSampling (s : Store) (id : String) : s.Tied (s.startSampling id) :=
  ⟨rfl, rfl, rfl, congrArg Lease.cancelled (Sampling.lease_containerStarted id s.sampling)⟩

theorem tied_stopSampling (s : Store) (id : String) : s.Tied (s.stopSampling id) :=
  ⟨rfl, rfl, rfl, (Sampling.containerDied_sessions id s.sampling).2.1⟩

theorem tied_endSync (s : Store) (running : List String) : s.Tied (s.endSync running) :=
  ⟨rfl, rfl, rfl, congrArg Lease.cancelled (Sampling.lease_startAll running s.sampling)⟩

theorem tied_absorb (s : Store) (listing : List Container) : s.Tied (s.absorb listing) := by
  have entered : s.Tied (s.enterAll listing) := by
    induction listing generalizing s with
    | nil => exact .refl s
    | cons c rest ih =>
      have upserted : s.Tied (s.upsert c).1 := ⟨rfl, rfl, rfl, rfl⟩
      exact upserted.trans (ih (s.upsert c).1)
  exact entered.trans ⟨rfl, rfl, rfl, rfl⟩

theorem tied_enrich (s : Store) (o : InspectOutcome) : s.Tied (s.enrich o) := by
  cases o with
  | timedOut => exact ⟨rfl, rfl, rfl, rfl⟩
  | answered reply =>
    cases reply with
    | error fault => exact ⟨rfl, rfl, rfl, rfl⟩
    | ok c =>
      rw [enrich_eq]
      split
      · split <;> exact ⟨rfl, rfl, rfl, rfl⟩
      · exact .refl s

theorem tied_load (s : Store) (id : String) (reply : Except HostFault Container) :
    s.Tied (s.load id reply).store := by
  cases reply with
  | ok c =>
    rw [load_store]
    exact tied_enrich s (.answered (.ok c))
  | error fault => cases fault <;> exact ⟨rfl, rfl, rfl, rfl⟩

theorem tied_recordSample (s : Store) (u : Usage) : s.Tied (s.recordSample u) := by
  unfold recordSample
  split <;> exact ⟨rfl, rfl, rfl, rfl⟩

theorem tied_amend (s : Store) (e : ContainerEvent) (f : Container → Container) :
    s.Tied (s.amend e f).store := by
  unfold amend
  split <;> exact ⟨rfl, rfl, rfl, rfl⟩

theorem tied_welcome (s : Store) (e : ContainerEvent) (starts : Bool)
    (reply : Except HostFault Container) : s.Tied (s.welcome e starts reply).store := by
  unfold welcome
  split
  · exact ⟨rfl, rfl, rfl, rfl⟩
  · next c =>
    split
    · cases starts with
      | false => exact ⟨rfl, rfl, rfl, rfl⟩
      | true =>
        have upserted : s.Tied (s.upsert c).1 := ⟨rfl, rfl, rfl, rfl⟩
        exact (upserted.trans (tied_startSampling _ e.actorId)).trans ⟨rfl, rfl, rfl, rfl⟩
    · exact ⟨rfl, rfl, rfl, rfl⟩

theorem tied_renew (s : Store) (e : ContainerEvent) (reply : Except HostFault Container) :
    s.Tied (s.renew e reply).store := by
  unfold renew
  split
  · exact ⟨rfl, rfl, rfl, rfl⟩
  · next loaded =>
    have amended := tied_amend s e (·.refresh loaded)
    split
    · simp only
      split
      · exact amended.trans (tied_startSampling _ e.actorId)
      · exact amended
    · exact .refl s

theorem tied_handle (s : Store) (e : ContainerEvent) (reply : Except HostFault Container) :
    s.Tied (s.handle e reply).store := by
  unfold handle
  split
  · exact tied_welcome s e false reply
  · exact tied_welcome s e true reply
  · exact Tied.trans (t := { s with tracked := s.tracked.remove e.actorId }) ⟨rfl, rfl, rfl, rfl⟩
      (tied_stopSampling _ e.actorId)
  · exact (tied_amend s e _).trans (tied_stopSampling _ e.actorId)
  · exact tied_amend s e _
  · unfold rename
    split
    · exact tied_amend s e _
    · exact tied_amend s e _
    · exact .refl s
  · exact tied_renew s e reply
  · exact .refl s

theorem tied_receive (s : Store) (e : ContainerEvent) (trackedBefore : Bool)
    (reply : Except HostFault Container) : s.Tied (s.receive e trackedBefore reply) := by
  refine (tied_handle s e reply).trans ?_
  unfold receive publish
  split
  · exact .refl _
  · split
    · simp only
      split <;> exact ⟨rfl, rfl, rfl, rfl⟩
    · exact .refl _

end Store

/-! ### How far a read is -/

def ReadPhase.isEntering : ReadPhase → Bool
  | entering => true
  | _ => false

def ReadPhase.isConnected : ReadPhase → Bool
  | connected => true
  | _ => false

namespace World

variable {w : World} {i : Nat}

def enters (w : World) (i : Nat) : Bool := (w.reads[i]?).any (·.phase.isEntering)

def isConnected (w : World) (i : Nat) : Bool := (w.reads[i]?).any (·.phase.isConnected)

theorem isConnected_iff :
    w.isConnected i = true ↔ ∃ errand, w.reads[i]? = some { errand, phase := .connected } := by
  unfold isConnected
  constructor
  · intro h
    obtain ⟨⟨errand, phase⟩, known, connected⟩ := (Option.any_eq_true _ _).mp h
    cases phase with
    | connected => exact ⟨errand, known⟩
    | _ => simp [ReadPhase.isConnected] at connected
  · rintro ⟨errand, known⟩
    rw [known]
    rfl

end World

/-! ### Steps -/

/-- What stands between a store and its host: whether the store counts as connected and whether it
is shut, its feeds with the one that came last, and the feeds that the host has open. -/
structure Line where
  connected : Bool
  shut : Bool
  feeds : List Feed
  feed : Option Nat
  opened : List Nat

namespace World

def line (w : World) : Line :=
  ⟨w.store.connected, w.store.isShut, w.store.feeds, w.store.feed, w.host.feeds⟩

variable {w v : World} {t : Task} {i : Nat}

theorem line_of_tied (store : w.store.Tied v.store) (opened : v.host.feeds = w.host.feeds) :
    v.line = w.line := by
  simp only [line, store.connected, store.shut, store.feeds, store.feed, opened]

theorem line_inspects (moved : w.stepInspects? i = some v) :
    v.line = w.line ∧ v.clock = w.clock := by
  unfold stepInspects? at moved
  split at moved
  · obtain ⟨⟨host, e'⟩, stepped, rfl⟩ := Option.map_eq_some_iff.mp moved
    refine ⟨line_of_tied (.refl _) ?_, rfl⟩
    unfold stepEnrichment? at stepped
    split at stepped
    · obtain ⟨rfl, -⟩ := Prod.mk.inj (Option.some.inj stepped)
      rfl
    · split at stepped
      · simp at stepped
      · split at stepped
        · obtain ⟨rfl, -⟩ := Prod.mk.inj (Option.some.inj stepped)
          rfl
        · simp at stepped
  · simp at moved

theorem line_dispatcher (moved : w.stepDispatcher? = some v) :
    v.line = w.line ∧ v.reads = w.reads ∧ v.clock = w.clock := by
  unfold stepDispatcher? at moved
  split at moved
  · simp at moved
  · next e trackedBefore due asked =>
    split at moved
    · obtain rfl := Option.some.inj moved
      exact ⟨line_of_tied (w.store.tied_receive e trackedBefore _) rfl, rfl, rfl⟩
    · simp at moved
  · split at moved
    · exact Option.some.inj moved ▸ ⟨rfl, rfl, rfl⟩
    · split at moved
      · next e rest queue =>
        obtain rfl := Option.some.inj moved
        simp only [dispatch]
        split
        · exact ⟨rfl, rfl, rfl⟩
        · exact ⟨line_of_tied (w.store.tied_receive e _ _) rfl, rfl, rfl⟩
      · unfold takeSample? at moved
        split at moved
        · next u subscribers received =>
          obtain rfl := Option.some.inj moved
          have told : w.store.Tied (w.store.onSampling fun t => { t with subscribers }) :=
            ⟨rfl, rfl, rfl, rfl⟩
          exact ⟨line_of_tied (told.trans (Store.tied_recordSample _ u)) rfl, rfl, rfl⟩
        · simp at moved

theorem beside_of_step (moved : w.step? t = some v) (read : ∀ i, t ≠ .read i)
    (inspects : ∀ i, t ≠ .inspects i) (feed : ∀ n, t ≠ .feed n) :
    v.line = w.line ∧ v.reads = w.reads ∧ v.clock = w.clock := by
  cases t with
  | read i => exact absurd rfl (read i)
  | inspects i => exact absurd rfl (inspects i)
  | feed n => exact absurd rfl (feed n)
  | dispatcher => exact line_dispatcher moved
  | emission =>
    simp only [step?, stepEmission?] at moved
    split at moved
    · split at moved
      · exact Option.some.inj moved ▸ ⟨rfl, rfl, rfl⟩
      · simp at moved
    · simp at moved
  | announcements =>
    simp only [step?, stepAnnouncements?] at moved
    split at moved
    · exact Option.some.inj moved ▸ ⟨rfl, rfl, rfl⟩
    · simp at moved
  | sampling s =>
    obtain ⟨x, stepped, rfl⟩ := Option.map_eq_some_iff.mp moved
    obtain ⟨opened, cancelled⟩ := SampledHost.beside stepped
    exact ⟨line_of_tied ⟨rfl, rfl, rfl, cancelled⟩ opened, rfl, rfl⟩
  | watchers =>
    simp only [step?, stepWatchers?] at moved
    split at moved
    · exact Option.some.inj moved ▸ ⟨rfl, rfl, rfl⟩
    · simp at moved

theorem beside_feed {n : Nat} (moved : w.stepFeed? n = some v) :
    v.reads = w.reads ∧ v.clock = w.clock := by
  unfold stepFeed? at moved
  split at moved
  · split at moved
    · exact Option.some.inj moved ▸ ⟨rfl, rfl⟩
    · split at moved
      · exact Option.some.inj moved ▸ ⟨rfl, rfl⟩
      · simp at moved
    · exact Option.some.inj moved ▸ ⟨rfl, rfl⟩
    · simp at moved
  · simp at moved

end World

end ContainerWatch
