import ContainerWatch.Proofs.Sampling.Engaged
import ContainerWatch.Proofs.Store.Courses
import ContainerWatch.Proofs.Store.Frame

/-!
Which containers a store samples. While a session runs, sampling a container begins with its start,
with an update that finds it running, and at the end of a synchronisation that listed it as running;
it ends with its death or destruction, and when the host refuses to sample. A listing ends nothing,
whether it has the container or not, and the end of a synchronisation does not look at the table
again. So a container may be sampled that does not run.
-/

namespace ContainerWatch

def Store.starts (s : Store) (e : ContainerEvent) (reply : Except HostFault Container) : Bool :=
  match e.kind, reply with
  | .start, .ok c => s.settings.filter.accepts c.labels
  | .update, .ok c => (s.tracked.get? e.actorId).any fun old => !old.isRunning && c.isRunning
  | _, _ => false

def ContainerEvent.stops (e : ContainerEvent) : Bool := e.kind = .die || e.kind = .destroy

def Deed.listed : Deed → Option (List Container)
  | .list listing => some listing
  | _ => none

namespace Store

variable {s : Store} {e : ContainerEvent} {reply : Except HostFault Container}

theorem welcome_sampling (starts : Bool) : (s.welcome e starts reply).store.sampling =
    match reply with
    | .ok c =>
      if starts && s.settings.filter.accepts c.labels then s.sampling.containerStarted e.actorId
      else s.sampling
    | .error _ => s.sampling := by
  cases reply with
  | error fault => rfl
  | ok c =>
    cases accepted : s.settings.filter.accepts c.labels with
    | false => simp [welcome, accepted, note]
    | true =>
      cases starts <;> simp [welcome, accepted, announceNew, startSampling, onSampling, upsert]

theorem renew_sampling : (s.renew e reply).store.sampling =
    match reply with
    | .ok c =>
      if (s.tracked.get? e.actorId).any fun old => !old.isRunning && c.isRunning then
        s.sampling.containerStarted e.actorId
      else s.sampling
    | .error _ => s.sampling := by
  cases reply with
  | error fault => rfl
  | ok c =>
    have amended := (still_amend s e (·.refresh c)).sampling
    cases known : s.tracked.get? e.actorId with
    | none => simp [renew, known]
    | some old =>
      have refreshed : (old.refresh c).isRunning = c.isRunning := rfl
      simp only [renew, known, refreshed, Option.any_some]
      split
      · simp only [startSampling, onSampling, amended]
      · exact amended

theorem handle_sampling (s : Store) (e : ContainerEvent) (reply : Except HostFault Container) :
    (s.handle e reply).store.sampling =
      if e.stops then s.sampling.containerDied e.actorId
      else if s.starts e reply then s.sampling.containerStarted e.actorId
      else s.sampling := by
  cases hk : e.kind with
  | create =>
    simp only [handle, hk, welcome_sampling]
    cases reply <;> simp [ContainerEvent.stops, starts, hk]
  | start =>
    simp only [handle, hk, welcome_sampling]
    cases reply <;> simp [ContainerEvent.stops, starts, hk]
  | destroy => simp [handle, hk, ContainerEvent.stops, forget, stopSampling, onSampling]
  | die =>
    have amended := (still_amend s e (·.buried e.time)).sampling
    simp only [handle, hk, ContainerEvent.stops, bury, stopSampling, onSampling]
    exact congrArg (Sampling.containerDied e.actorId) amended
  | health status =>
    simp only [handle, hk, ContainerEvent.stops, starts]
    exact (still_amend s e _).sampling
  | rename =>
    simp only [handle, hk, ContainerEvent.stops, starts]
    exact (still_rename s e reply).sampling
  | update =>
    simp only [handle, hk, renew_sampling]
    cases reply <;> simp [ContainerEvent.stops, starts, hk]
  | other => simp [handle, hk, ContainerEvent.stops, starts]

theorem receive_sampling (trackedBefore : Bool) : (s.receive e trackedBefore reply).sampling =
    (s.handle e reply).store.sampling := publish_sampling trackedBefore e.actorId _

end Store

namespace World

def begins (w : World) (t : Task) (id : String) : Bool :=
  match t with
  | .read i =>
    match w.reads[i]? with
    | some { phase := .syncing { running, queued := [], inFlight := [], outcomes := [] }, .. } =>
      running.contains id
    | _ => false
  | .dispatcher =>
    match w.dispatcherDeed with
    | .handle e reply => id = e.actorId && w.store.starts e reply
    | _ => false
  | _ => false

def ends (w : World) (t : Task) (id : String) : Bool :=
  match t with
  | .sampling t => w.sampled.refuses t id
  | .dispatcher =>
    match w.dispatcherDeed with
    | .handle e _ => id = e.actorId && e.stops
    | _ => false
  | _ => false

/-- Whether a container is sampled after steps: it was before, or sampling it was begun, and that
was not ended since. -/
def sampledAfter (id : String) (before : Bool) (hs : List (World × Task)) : Bool :=
  hs.foldl (fun b p => (b || p.1.begins p.2 id) && !p.1.ends p.2 id) before

theorem sampledAfter_append_singleton (id : String) (before : Bool) (hs : List (World × Task))
    (v : World) (t : Task) : sampledAfter id before (hs ++ [(v, t)]) =
      ((sampledAfter id before hs || v.begins t id) && !v.ends t id) := by
  simp [sampledAfter]

def Runs (w : World) (id : String) : Prop :=
  ∃ c, w.store.tracked.get? id = some c ∧ c.isRunning = true

/-! ### What a step does to sampling -/

variable {settings : StoreSettings} {host : ScriptedHost} {w v : World} {t : Task} {n i : Nat}
  {past hs : List (World × Task)}

theorem lookUp_sampling (r : StoreRead) (id : String) (filter : LabelFilter) :
    (w.lookUp i r id filter).store.sampling = w.store.sampling := by
  unfold lookUp
  split
  · rw [miss_store]
    rfl
  · rfl
  · rfl

theorem pursue_sampling (r : StoreRead) : (w.pursue i r).store.sampling = w.store.sampling := by
  unfold pursue
  split
  · rfl
  · rfl
  · exact lookUp_sampling r _ _
  · exact lookUp_sampling r _ _

theorem load_sampling (r : StoreRead) (id : String) :
    (w.load i r id).store.sampling = w.store.sampling := by
  rw [load_store]
  exact (w.store.still_load id (w.host.details id)).sampling

theorem enter_sampling (r : StoreRead) : (w.enter i r).store.sampling = w.store.sampling := by
  have begun := w.store.still_beginSync
  cases connected : w.store.connected with
  | true => simp only [enter, connected, if_true]; rfl
  | false =>
    simp only [enter, connected, Bool.false_eq_true, if_false]
    split
    · exact (begun.trans w.store.beginSync.still_failSync).sampling
    · next listing _ => exact (begun.trans (w.store.beginSync.still_absorb listing)).sampling

/-- A read begins to sample only at the end of a synchronisation. -/
theorem read_sampling (moved : w.stepRead? i = some v) :
    (v.store.sampling = w.store.sampling ∧ ∀ id, w.begins (.read i) id = false) ∨
    ∃ running, v.store.sampling = (w.store.endSync running).sampling ∧
      ∀ id, w.begins (.read i) id = running.contains id := by
  unfold stepRead? at moved
  split at moved
  · simp at moved
  · next r known =>
    obtain ⟨errand, phase⟩ := r
    cases phase with
    | entering =>
      obtain rfl := Option.some.inj moved
      exact Or.inl ⟨enter_sampling _, fun id => by simp [begins, known]⟩
    | connected =>
      obtain rfl := Option.some.inj moved
      exact Or.inl ⟨pursue_sampling _, fun id => by simp [begins, known]⟩
    | inspecting id due =>
      simp only at moved
      split at moved
      · obtain rfl := Option.some.inj moved
        exact Or.inl ⟨load_sampling _ _, fun id => by simp [begins, known]⟩
      · simp at moved
    | done result => simp at moved
    | syncing e =>
      obtain ⟨running, queued, inFlight, outcomes⟩ := e
      cases outcomes with
      | cons o rest =>
        obtain rfl := Option.some.inj moved
        exact Or.inl ⟨(w.store.still_enrich o).sampling, fun id => by simp [begins, known]⟩
      | nil =>
        simp only at moved
        split at moved
        · next finished =>
          obtain ⟨rfl, rfl⟩ : queued = [] ∧ inFlight = [] := by simpa using finished
          obtain rfl := Option.some.inj moved
          exact Or.inr ⟨running, rfl, fun id => by simp [begins, known]⟩
        · simp at moved

/-- The dispatcher changes sampling only where it handles an event. -/
theorem dispatcher_sampling (moved : w.stepDispatcher? = some v) :
    (∃ e reply, w.dispatcherDeed = .handle e reply ∧
      v.store.sampling = (w.store.handle e reply).store.sampling) ∨
    (∀ e reply, w.dispatcherDeed ≠ .handle e reply) ∧
      ∃ subscribers, v.store.sampling = { w.store.sampling with subscribers } := by
  unfold stepDispatcher? at moved
  split at moved
  · simp at moved
  · next e trackedBefore due asked =>
    split at moved
    · obtain rfl := Option.some.inj moved
      exact Or.inl ⟨e, _, by simp only [dispatcherDeed, asked], Store.receive_sampling _⟩
    · simp at moved
  · next idle =>
    split at moved
    · next shut =>
      obtain rfl := Option.some.inj moved
      exact Or.inr ⟨by simp [dispatcherDeed, idle, shut], _, rfl⟩
    · next open_ =>
      split at moved
      · next e rest queue =>
        obtain rfl := Option.some.inj moved
        cases needs : e.needsInspect with
        | true =>
          refine Or.inr ⟨by simp [dispatcherDeed, idle, open_, queue, needs],
            w.store.sampling.subscribers, ?_⟩
          simp only [dispatch, needs, if_true]
        | false =>
          refine Or.inl ⟨e, .error .cancelled,
            by simp [dispatcherDeed, idle, open_, queue, needs], ?_⟩
          simp only [dispatch, needs, Bool.false_eq_true, if_false]
          exact Store.receive_sampling _
      · next queue =>
        unfold takeSample? at moved
        split at moved
        · next u subscribers received =>
          obtain rfl := Option.some.inj moved
          refine Or.inr ⟨by simp [dispatcherDeed, idle, open_, queue, received], subscribers, ?_⟩
          exact (Store.still_recordSample _ u).sampling
        · simp at moved

/-- Sampling goes on with the containers that it is begun for, and without those that it is ended
for, unless its session is stopped. -/
def SamplesOn (n : Nat) (w : World) (t : Task) (v : World) : Prop :=
  v.store.sampling.isStopped n = true ∨ v.store.sampling.Engaged n ∧
    ∀ id, id ∈ v.store.sampling.ids ↔
      (id ∈ w.store.sampling.ids ∨ w.begins t id = true) ∧ w.ends t id = false

theorem samplesOn_of_eq (h : w.store.sampling.Engaged n) (begins : ∀ id, w.begins t id = false)
    (ends : ∀ id, w.ends t id = false) (sampling : v.store.sampling = w.store.sampling) :
    w.SamplesOn n t v := by
  refine Or.inr ⟨sampling ▸ h, fun id => ?_⟩
  simp [sampling, begins, ends]

theorem samplesOn_dispatcher (h : w.store.sampling.Engaged n)
    (moved : w.stepDispatcher? = some v) : w.SamplesOn n .dispatcher v := by
  rcases dispatcher_sampling moved with ⟨e, reply, deed, sampling⟩ | ⟨none_, subscribers, sampling⟩
  · have begins : ∀ id, w.begins .dispatcher id = (id = e.actorId && w.store.starts e reply) := by
      intro id
      simp only [World.begins, deed]
    have ends : ∀ id, w.ends .dispatcher id = (id = e.actorId && e.stops) := by
      intro id
      simp only [World.ends, deed]
    rw [Store.handle_sampling] at sampling
    cases stops : e.stops with
    | true =>
      rw [if_pos stops] at sampling
      refine Or.inr ⟨sampling ▸ h.containerDied e.actorId, fun id => ?_⟩
      rw [sampling, Sampling.mem_ids_containerDied, begins, ends, stops]
      by_cases named : id = e.actorId <;> simp [named]
    | false =>
      rw [if_neg (by simp [stops])] at sampling
      cases starts : w.store.starts e reply with
      | true =>
        rw [if_pos starts] at sampling
        refine Or.inr ⟨sampling ▸ h.containerStarted e.actorId, fun id => ?_⟩
        rw [sampling, h.mem_ids_containerStarted, begins, ends, starts, stops]
        simp
      | false =>
        rw [if_neg (by simp [starts])] at sampling
        exact samplesOn_of_eq h (fun id => by simp [begins, starts])
          (fun id => by simp [ends, stops]) sampling
  · have silent : ∀ id, w.begins .dispatcher id = false ∧ w.ends .dispatcher id = false := by
      intro id
      unfold World.begins World.ends
      cases deed : w.dispatcherDeed with
      | handle e reply => exact absurd deed (none_ e reply)
      | _ => simp
    refine Or.inr ⟨sampling ▸ h.aside rfl rfl rfl rfl rfl, fun id => ?_⟩
    simp [sampling, silent, Sampling.ids]

theorem samplesOn_read {i : Nat} (h : w.store.sampling.Engaged n)
    (moved : w.stepRead? i = some v) : w.SamplesOn n (.read i) v := by
  have ends : ∀ id, w.ends (.read i) id = false := fun _ => rfl
  rcases read_sampling moved with ⟨sampling, begins⟩ | ⟨running, sampling, begins⟩
  · exact samplesOn_of_eq h begins ends sampling
  · obtain ⟨engaged, sampled⟩ := h.startAll running
    refine Or.inr ⟨sampling ▸ engaged, fun id => ?_⟩
    rw [sampling, begins, ends, List.contains_iff_mem]
    exact (sampled id).trans (by simp)

theorem sampling_eq_of_step (moved : w.step? t = some v) (read : ∀ i, t ≠ .read i)
    (dispatcher : t ≠ .dispatcher) (sampling : ∀ s, t ≠ .sampling s) :
    v.store.sampling = w.store.sampling := by
  cases t with
  | read i => exact absurd rfl (read i)
  | dispatcher => exact absurd rfl dispatcher
  | sampling s => exact absurd rfl (sampling s)
  | emission =>
    simp only [step?, stepEmission?] at moved
    split at moved
    · split at moved
      · exact Option.some.inj moved ▸ rfl
      · simp at moved
    · simp at moved
  | inspects i =>
    simp only [step?, stepInspects?] at moved
    split at moved
    · obtain ⟨_, -, rfl⟩ := Option.map_eq_some_iff.mp moved
      rfl
    · simp at moved
  | feed m =>
    simp only [step?, stepFeed?] at moved
    split at moved
    · split at moved
      · exact Option.some.inj moved ▸ rfl
      · split at moved
        · exact Option.some.inj moved ▸ rfl
        · simp at moved
      · exact Option.some.inj moved ▸ rfl
      · simp at moved
    · simp at moved
  | announcements =>
    simp only [step?, stepAnnouncements?] at moved
    split at moved
    · exact Option.some.inj moved ▸ rfl
    · simp at moved
  | watchers =>
    simp only [step?, stepWatchers?] at moved
    split at moved
    · exact Option.some.inj moved ▸ rfl
    · simp at moved

theorem samplesOn_of_step (h : w.store.sampling.Engaged n) (moved : w.step? t = some v) :
    w.SamplesOn n t v := by
  cases t with
  | read i => exact samplesOn_read h moved
  | dispatcher => exact samplesOn_dispatcher h moved
  | sampling s =>
    obtain ⟨x, stepped, rfl⟩ := Option.map_eq_some_iff.mp moved
    refine (Sampling.Engaged.step (w := w.sampled) h stepped).imp (fun stopped => stopped) ?_
    rintro ⟨engaged, sampled⟩
    refine ⟨engaged, fun id => (sampled id).trans ?_⟩
    simp [begins, ends, World.sampled]
  | _ =>
    exact samplesOn_of_eq h (fun _ => rfl) (fun _ => rfl)
      (sampling_eq_of_step moved (by simp) (by simp) (by simp))

/-! ### Courses -/

theorem change_of_step (orderly : w.store.sampling.Orderly) (moved : w.step? t = some v) :
    w.store.sampling.Change v.store.sampling := by
  cases t with
  | read i =>
    rcases read_sampling moved with ⟨sampling, -⟩ | ⟨running, sampling, -⟩
    · exact sampling ▸ .refl _
    · exact sampling ▸ .startAll orderly running
  | dispatcher =>
    rcases dispatcher_sampling moved with ⟨e, reply, -, sampling⟩ | ⟨-, subscribers, sampling⟩
    · rw [sampling, Store.handle_sampling]
      split
      · exact .drop e.actorId
      · split
        · exact .containerStarted orderly e.actorId
        · exact .refl _
    · exact sampling ▸ .aside rfl rfl rfl rfl rfl
  | sampling s =>
    obtain ⟨x, stepped, rfl⟩ := Option.map_eq_some_iff.mp moved
    exact SampledHost.change (w := w.sampled) stepped
  | _ =>
    rw [sampling_eq_of_step moved (by simp) (by simp) (by simp)]
    exact .refl _

theorem Happens.change (out : w.Happens v) : w.store.sampling.Change v.store.sampling := by
  cases out with
  | use used => exact used.change
  | _ => exact .refl _

theorem Happens.samplesOn (h : w.store.sampling.Engaged n) (out : w.Happens v) :
    v.store.sampling.isStopped n = true ∨ v.store.sampling.Engaged n ∧
      ∀ id, id ∈ v.store.sampling.ids ↔ id ∈ w.store.sampling.ids := by
  cases out with
  | use used => simpa [Sampling.GoesOn, Store.onSampling] using h.use used
  | _ => exact Or.inr ⟨h, fun _ => Iff.rfl⟩

theorem Course.orderly (orderly : w.store.sampling.Orderly) (course : Course w hs v) :
    v.store.sampling.Orderly := by
  induction course with
  | nil => exact orderly
  | happens out h ih => exact out.change.orderly ih
  | step t moved h ih => exact (change_of_step ih moved).orderly ih

theorem orderly_initial (settings : StoreSettings) (host : ScriptedHost) :
    (initial settings host).store.sampling.Orderly := by
  have made := Sampling.orderly_ofSettings settings.sampling settings.filter
  have subscribed : Sampling.Change (.ofSettings settings.sampling settings.filter)
      (initial settings host).store.sampling := .aside rfl rfl rfl rfl rfl
  exact subscribed.orderly made

/-- Which containers are sampled on the way from a world where sampling is at rest: until its
session is stopped, those that the steps tell. -/
theorem Course.sampled (engaged : v.store.sampling.Engaged n) (orderly : v.store.sampling.Orderly)
    (course : Course v hs w) : w.store.sampling.isStopped n = true ∨
      w.store.sampling.Engaged n ∧ ∀ id, id ∈ w.store.sampling.ids ↔
        sampledAfter id (v.store.sampling.ids.contains id) hs = true := by
  induction course with
  | nil => exact Or.inr ⟨engaged, fun id => by simp [sampledAfter]⟩
  | happens out h ih =>
    rcases ih with stopped | ⟨engaged, sampled⟩
    · exact Or.inl (out.change.onward stopped)
    · refine (out.samplesOn engaged).imp (fun stopped => stopped) ?_
      rintro ⟨engaged, kept⟩
      exact ⟨engaged, fun id => (kept id).trans (sampled id)⟩
  | @step hs u u' t moved h ih =>
    rcases ih with stopped | ⟨engaged, sampled⟩
    · exact Or.inl ((change_of_step (h.orderly orderly) moved).onward stopped)
    · refine (samplesOn_of_step engaged moved).imp (fun stopped => stopped) ?_
      rintro ⟨engaged, kept⟩
      refine ⟨engaged, fun id => (kept id).trans ?_⟩
      rw [sampledAfter_append_singleton, sampled id]
      simp

theorem Course.onward (orderly : v.store.sampling.Orderly) (course : Course v hs w)
    (stopped : v.store.sampling.isStopped n = true) : w.store.sampling.isStopped n = true := by
  induction course with
  | nil => exact stopped
  | happens out h ih => exact out.change.onward ih
  | step t moved h ih => exact (change_of_step (h.orderly orderly) moved).onward ih

/-- Does every sampler belong to a container that is tracked and runs? From a moment on at which
sampling is at rest, and until its session is stopped, exactly if each container that does not run
has had its sampling ended since it was last begun. Nothing else ends sampling: no listing that
lacks the container or tells that it does not run, no answer to an inspect, no update. -/
theorem Course.sampled_running_iff (reached : Course (initial settings host) past v)
    (session : v.store.sampling.current = some n) (rest : ∀ t, v.step? (.sampling t) = none)
    (course : Course v hs w) (going : w.store.sampling.isStopped n = false) :
    (∀ id ∈ w.store.sampling.ids, w.Runs id) ↔
      ∀ id, ¬ w.Runs id → sampledAfter id (v.store.sampling.ids.contains id) hs = false := by
  have orderly : v.store.sampling.Orderly := reached.orderly (orderly_initial settings host)
  have running : v.store.sampling.isStopped n = false := by
    cases stopped : v.store.sampling.isStopped n with
    | false => rfl
    | true => exact absurd (course.onward orderly stopped) (by simp [going])
  have alive : v.store.sampling.cancelled = false := by
    simp only [Sampling.isStopped, Bool.or_eq_false_iff] at running
    exact running.1
  have still : ∀ t, v.sampled.step? v.clock t = none := fun t => Option.map_eq_none_iff.mp (rest t)
  have engaged : v.store.sampling.Engaged n :=
    Sampling.Orderly.engaged (w := v.sampled) still orderly session alive
  obtain stopped | ⟨-, sampled⟩ := course.sampled engaged orderly
  · simp [going] at stopped
  constructor
  · intro all id stands
    rw [← Bool.not_eq_true, ← sampled id]
    exact fun known => stands (all id known)
  · intro ended id known
    by_cases runs : w.Runs id
    · exact runs
    · have finished := ended id runs
      rw [(sampled id).mp known] at finished
      simp at finished

/-! ### A container that goes unnoticed

Its sampler is at rest when the feed breaks, and the container is removed before the next read. -/

def loneHost : ScriptedHost :=
  (ScriptedHost.named "fake").put { id := "aaa", name := "web", state := .running }

def loneSampled : World :=
  let w := World.start {} loneHost
  ({ w with store := w.store.onSampling fun _ => w.store.sampling.start.1 } : World).settle

def loneLost : World := loneSampled.disconnect.moved (.feed 0)

def loneAsked : World :=
  { loneLost with
    host := loneLost.host.remove "aaa"
    reads := loneLost.reads ++ [{ errand := .list .all }] }

def loneSynced : World := (loneAsked.moved (.read 0)).moved (.read 0)

def loneListed : World := (loneSynced.moved (.read 0)).moved (.feed 1)

theorem course_loneSampled : ∃ past, Course (initial {} loneHost) past loneSampled := by
  obtain ⟨_, started⟩ := Course.start {} loneHost
  exact (started.happens (.use .start)).settle

theorem course_loneListed : ∃ hs, Course loneSampled hs loneListed ∧
    (loneAsked, .read 0) ∈ hs := by
  have broken : Course loneSampled [] loneSampled.disconnect := Course.nil.happens .disconnect
  have lost := broken.step (.feed 0) (step?_moved (by decide +kernel))
  have asked : Course loneSampled _ loneAsked :=
    (lost.happens (.host _)).happens (.begin [.list .all])
  have listed := asked.step (.read 0) (step?_moved (by decide +kernel))
  have synced := listed.step (.read 0) (step?_moved (by decide +kernel))
  have finished := synced.step (.read 0) (step?_moved (by decide +kernel))
  exact ⟨_, finished.step (.feed 1) (step?_moved (by decide +kernel)), by simp⟩

theorem Course.sampled_running_iff_lone : ∃ past hs,
    Course (initial {} loneHost) past loneSampled ∧
    loneSampled.store.sampling.current = some 0 ∧
    (∀ t, loneSampled.step? (.sampling t) = none) ∧ Course loneSampled hs loneListed ∧
    loneListed.store.sampling.isStopped 0 = false ∧
    ((∀ id ∈ loneListed.store.sampling.ids, loneListed.Runs id) ↔
      ∀ id, ¬ loneListed.Runs id →
        sampledAfter id (loneSampled.store.sampling.ids.contains id) hs = false) := by
  obtain ⟨past, reached⟩ := course_loneSampled
  obtain ⟨hs, course, -⟩ := course_loneListed
  have session : loneSampled.store.sampling.current = some 0 := by decide +kernel
  have rest : (loneSampled.sampled.tasks.all fun t =>
      (loneSampled.sampled.step? loneSampled.clock t).isNone) = true := by decide +kernel
  have still : ∀ t, loneSampled.step? (.sampling t) = none := fun t => by
    simp [step?, Sampling.rest_of_tasks rest t]
  have going : loneListed.store.sampling.isStopped 0 = false := by decide +kernel
  exact ⟨past, hs, reached, session, still, course, going,
    reached.sampled_running_iff session still course going⟩

/-- A sampler may outlive its container: a read has taken over a listing without containers, nothing
moves any more, the session runs, and a container is sampled that is not tracked. -/
theorem Course.sampled_untracked_lone : ∃ past hs,
    Course (initial {} loneHost) past loneSampled ∧ Course loneSampled hs loneListed ∧
    (loneAsked, .read 0) ∈ hs ∧ (loneAsked.deed (.read 0)).listed.map List.length = some 0 ∧
    (∀ t ∈ loneListed.tasks, loneListed.step? t = none) ∧
    loneListed.store.sampling.current = some 0 ∧ "aaa" ∈ loneListed.store.sampling.ids ∧
    loneListed.store.tracked.get? "aaa" = none := by
  obtain ⟨past, reached⟩ := course_loneSampled
  obtain ⟨hs, course, taken⟩ := course_loneListed
  have settled : (loneListed.tasks.all fun t => (loneListed.step? t).isNone) = true := by
    decide +kernel
  have untracked : (loneListed.store.tracked.get? "aaa").isNone = true := by decide +kernel
  refine ⟨past, hs, reached, course, taken, by decide +kernel, ?_, by decide +kernel,
    by decide +kernel, Option.isNone_iff_eq_none.mp untracked⟩
  intro t known
  exact Option.isNone_iff_eq_none.mp (List.all_eq_true.mp settled t known)

end World

end ContainerWatch
