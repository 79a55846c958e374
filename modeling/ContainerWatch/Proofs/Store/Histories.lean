import ContainerWatch.Proofs.Container.History
import ContainerWatch.Proofs.Store.Courses

/-!
The samples that a store holds. Whatever replaces or changes an entry carries its samples on, and
recording one pushes it, so an entry has the newest samples that were recorded since it was made.
-/

namespace ContainerWatch

namespace Store

variable {s : Store} {e : ContainerEvent} {reply : Except HostFault Container}

/-- The samples that an entry has when it is there, and begins with when it is made. -/
def carried (s : Store) (id : String) : History Usage :=
  ((s.tracked.get? id).map (·.stats)).getD (History.empty s.settings.sampling.history)

theorem carried_of_known {id : String} {c : Container} (known : s.tracked.get? id = some c) :
    s.carried id = c.stats := by
  simp [carried, known]

theorem carried_of_unknown {id : String} (unknown : s.tracked.get? id = none) :
    s.carried id = History.empty s.settings.sampling.history := by
  simp [carried, unknown]

theorem carried_upsert (s : Store) (c : Container) (id : String) :
    (s.upsert c).1.carried id = s.carried id := by
  have entered := get?_upsert s c id
  by_cases hi : id = c.id
  · rw [if_pos hi] at entered
    rw [carried_of_known entered, hi]
    rfl
  · rw [if_neg hi] at entered
    unfold carried
    rw [entered]
    rfl

theorem carried_amend {f : Container → Container} (same : ∀ c, (f c).stats = c.stats)
    (id : String) : (s.amend e f).store.carried id = s.carried id := by
  have settings : (s.amend e f).store.settings = s.settings := by
    unfold amend
    split <;> rfl
  unfold carried
  rw [settings, get?_amend]
  split
  · cases s.tracked.get? id with
    | none => rfl
    | some c => simp [same]
  · rfl

theorem carried_welcome (starts : Bool) (id : String) :
    (s.welcome e starts reply).store.carried id = s.carried id := by
  cases reply with
  | error fault => rfl
  | ok c =>
    have entered := s.carried_upsert c id
    simp only [welcome]
    split
    · cases starts <;> exact entered
    · rfl

theorem carried_enrich (s : Store) (c : Container) (id : String) :
    (s.enrich (.answered (.ok c))).carried id = s.carried id := by
  unfold carried
  rw [enrich_settings, get?_enrich]
  split
  · cases s.tracked.get? id with
    | none => rfl
    | some old => cases hl : old.fullyLoaded <;> simp [Container.completing, hl]
  · rfl

theorem stats_handle {id : String} {c : Container}
    (known : (s.handle e reply).store.tracked.get? id = some c) : c.stats = s.carried id := by
  have kept : e.kind ≠ .destroy → (s.handle e reply).store.carried id = s.carried id := by
    intro stays
    have amended : ∀ f : Container → Container, (∀ c, (f c).stats = c.stats) →
        (s.amend e f).store.carried id = s.carried id := fun f same => carried_amend same id
    unfold handle
    split
    · exact carried_welcome false id
    · exact carried_welcome true id
    · next gone => exact absurd gone stays
    · exact amended (·.buried e.time) fun _ => rfl
    · exact amended _ fun _ => rfl
    · unfold rename
      split
      · exact amended _ fun _ => rfl
      · exact amended _ fun _ => rfl
      · rfl
    · cases reply with
      | error fault => rfl
      | ok loaded =>
        have refreshed := amended (·.refresh loaded) fun _ => rfl
        simp only [renew]
        split
        · split <;> exact refreshed
        · rfl
    · rfl
  by_cases gone : e.kind = .destroy
  · simp only [handle, gone, forget, stopSampling, onSampling] at known
    by_cases hi : id = e.actorId
    · rw [hi, Entries.get?_remove_self] at known
      simp at known
    · rw [Entries.get?_remove_of_ne hi] at known
      exact (carried_of_known known).symm
  · rw [← kept gone, carried_of_known known]

theorem stats_absorb {listing : List Container} {id : String} {c : Container}
    (known : (s.absorb listing).tracked.get? id = some c) : c.stats = s.carried id := by
  have entered : (s.enterAll listing).carried id = s.carried id := by
    clear known
    induction listing generalizing s with
    | nil => rfl
    | cons d rest ih =>
      have later : ((s.upsert d).1.enterAll rest).carried id = (s.upsert d).1.carried id := ih
      exact later.trans (s.carried_upsert d id)
  have kept : (if (listing.map (·.id)).contains id then (s.enterAll listing).tracked.get? id
      else none) = some c := by
    rw [← Entries.get?_filter]
    exact known
  split at kept
  · rw [← entered, carried_of_known kept]
  · simp at kept

theorem stats_recordSample {u : Usage} {id : String} {c : Container}
    (known : (s.recordSample u).tracked.get? id = some c) :
    c.stats = if u.id = id then (s.carried id).push u else s.carried id := by
  rw [get?_recordSample] at known
  by_cases hi : id = u.id
  · rw [if_pos hi] at known
    obtain ⟨old, before, rfl⟩ := Option.map_eq_some_iff.mp known
    rw [if_pos hi.symm, carried_of_known before]
  · rw [if_neg hi] at known
    rw [if_neg (Ne.symm hi), carried_of_known known]

theorem recordSample_of_unknown {u : Usage} (unknown : s.tracked.get? u.id = none) :
    s.recordSample u = s.note .sampleOfUnknown := by
  simp only [recordSample, unknown]

end Store

namespace Deed

def samplesOf (id : String) : Deed → List Usage
  | sample u => if u.id = id then [u] else []
  | _ => []

/-- What is under an identifier after a deed has the samples that were there, and those that the
deed records. -/
theorem stats_table {d : Deed} {s : Store} {id : String} {c : Container}
    (known : (d.table s).get? id = some c) :
    c.stats = (d.samplesOf id).foldl History.push (s.carried id) := by
  cases d with
  | rest => exact (Store.carried_of_known known).symm
  | list listing => exact Store.stats_absorb known
  | complete d =>
    have completed := s.carried_enrich d id
    rw [Store.carried_of_known known] at completed
    exact completed
  | handle e reply => exact Store.stats_handle known
  | sample u =>
    have pushed := Store.stats_recordSample known
    simp only [samplesOf]
    split
    · next hi => rw [pushed, if_pos hi]; rfl
    · next hi => rw [pushed, if_neg hi]; rfl

theorem samplesOf_of_new {d : Deed} {s : Store} {id : String} {c : Container}
    (before : s.tracked.get? id = none) (after : (d.table s).get? id = some c) :
    d.samplesOf id = [] := by
  cases d with
  | sample u =>
    have untouched := s.get?_recordSample u id
    rw [before, Option.map_none, ite_self] at untouched
    rw [table, untouched] at after
    simp at after
  | _ => rfl

end Deed

namespace World

variable {settings : StoreSettings} {host : ScriptedHost} {w w' : World}
  {hs : List (World × Task)}

def Enters (id : String) (p : World × Task) : Prop :=
  p.1.store.tracked.get? id = none ∧ ((p.1.deed p.2).table p.1.store).has id = true

def recorded (id : String) (hs : List (World × Task)) : List Usage :=
  (deeds hs).flatMap (Deed.samplesOf id)

theorem recorded_append_singleton (id : String) (hs : List (World × Task)) (v : World) (t : Task) :
    recorded id (hs ++ [(v, t)]) = recorded id hs ++ (v.deed t).samplesOf id := by
  simp [recorded]

theorem readDeed_ne_sample (w : World) (r : StoreRead) (u : Usage) : w.readDeed r ≠ .sample u := by
  unfold readDeed
  repeat' split
  all_goals simp

/-- A sample is recorded when the dispatcher has nothing else to do and takes one. -/
theorem taken_of_deed {t : Task} {u : Usage} (did : w.deed t = .sample u) :
    t = .dispatcher ∧ w.dispatcher = .idle ∧ w.store.isShut = false ∧ w.queue = [] ∧
      ∃ subscribers, w.store.sampling.subscribers.receive Store.ownSubscriber =
        some (.item u, subscribers) := by
  unfold deed at did
  split at did
  · split at did
    · exact absurd did (w.readDeed_ne_sample _ u)
    · simp at did
  · unfold dispatcherDeed at did
    split at did
    · simp at did
    · simp at did
    · next idle =>
      split at did
      · simp at did
      · next running =>
        split at did
        · split at did <;> simp at did
        · next queue =>
          split at did
          · next v subscribers received =>
            obtain rfl := Deed.sample.inj did
            exact ⟨rfl, idle, by simpa using running, queue, subscribers, received⟩
          · simp at did
  · simp at did

/-- Whatever happens to a store, a tracked container has the newest samples that were recorded for
it since a step last made its entry, as many as its history holds. A sample of a container that is
not tracked leaves everything as it is but for a report. -/
theorem Course.stats_eq_newest (course : Course (initial settings host) hs w) :
    (∀ id c, w.store.tracked.get? id = some c →
      ∃ before p after, hs = before ++ p :: after ∧ Enters id p ∧ (∀ q ∈ after, ¬ Enters id q) ∧
        c.stats = History.newest settings.sampling.history (recorded id after)) ∧
    ∀ t w' u, w.step? t = some w' → w.deed t = .sample u → w.store.tracked.get? u.id = none →
      ∃ subscribers,
        w.store.sampling.subscribers.receive Store.ownSubscriber = some (.item u, subscribers) ∧
        w' = { w with
          store := (w.store.onSampling fun s => { s with subscribers }).note .sampleOfUnknown } := by
  refine ⟨?_, ?_⟩
  · induction course with
    | nil => simp [initial, Store.ofSettings]
    | happens out h ih =>
      intro id c known
      rw [out.outside.tracked] at known
      exact ih id c known
    | @step hs v v' t moved h ih =>
      intro id c known
      have did := step_of_step? moved
      rw [did.tracked] at known
      have stats := Deed.stats_table known
      cases old : v.store.tracked.get? id with
      | none =>
        refine ⟨hs, (v, t), [], rfl, ⟨old, by simp [Entries.has, known]⟩, by simp, ?_⟩
        rw [stats, Deed.samplesOf_of_new old known, Store.carried_of_unknown old, h.path.tuning]
        exact (History.newest_nil _).symm
      | some b =>
        obtain ⟨before, p, after, rfl, made, last, held⟩ := ih id b old
        refine ⟨before, p, after ++ [(v, t)], by simp, made, ?_, ?_⟩
        · intro q hq
          rcases List.mem_append.mp hq with earlier | now
          · exact last q earlier
          · obtain rfl := List.mem_singleton.mp now
            exact fun enters => by simp [Enters, old] at enters
        · rw [stats, Store.carried_of_known old, held, History.foldl_push_newest,
            recorded_append_singleton]
  · intro t w' u moved did unknown
    obtain ⟨rfl, idle, running, queue, subscribers, received⟩ := taken_of_deed did
    simp only [step?, stepDispatcher?, idle, running, queue, takeSample?, received,
      Bool.false_eq_true, if_false] at moved
    have reported := Store.recordSample_of_unknown
      (s := w.store.onSampling fun s => { s with subscribers }) unknown
    rw [reported] at moved
    exact ⟨subscribers, received, by rw [← Option.some.inj moved, idle, queue]⟩

/-! ### A history of two

The sampler of the only container reports three samples. Then the feed breaks, and a read
synchronises again. -/

def briefSettings : StoreSettings := { sampling := { history := 2 } }

def briefHost : ScriptedHost :=
  { (ScriptedHost.named "fake").put { id := "aaa", name := "web", state := .running } with
    samples := [("aaa", [⟨"aaa", 0, 0, 1⟩, ⟨"aaa", 0, 0, 2⟩, ⟨"aaa", 0, 0, 3⟩])] }

def briefSampled : World :=
  let w := World.start briefSettings briefHost
  ({ w with store := w.store.onSampling fun _ => w.store.sampling.start.1 } : World).settle

def briefSynced : World := ((briefSampled.disconnect.moved (.feed 0)).perform [.list .all] none).2

theorem course_briefSynced : ∃ hs, Course (initial briefSettings briefHost) hs briefSynced := by
  obtain ⟨_, started⟩ := Course.start briefSettings briefHost
  obtain ⟨_, sampled⟩ := (started.happens (.use .start)).settle
  have broken := sampled.happens .disconnect
  have lost := broken.step (.feed 0) (step?_moved (by decide +kernel))
  exact lost.perform [.list .all] none (by simp)

theorem Course.stats_eq_newest_brief : ∃ hs,
    Course (initial briefSettings briefHost) hs briefSynced ∧
    ∃ c, briefSynced.store.tracked.get? "aaa" = some c ∧
      c.stats.items.map (·.memoryBytes) = [2, 3] ∧
      ∃ before p after, hs = before ++ p :: after ∧ Enters "aaa" p ∧
        (∀ q ∈ after, ¬ Enters "aaa" q) ∧ c.stats = History.newest 2 (recorded "aaa" after) := by
  obtain ⟨hs, course⟩ := course_briefSynced
  have kept : (briefSynced.store.tracked.get? "aaa").map (·.stats.items.map (·.memoryBytes)) =
      some [2, 3] := by decide +kernel
  obtain ⟨c, known, bytes⟩ := Option.map_eq_some_iff.mp kept
  exact ⟨hs, course, c, known, bytes, course.stats_eq_newest.1 "aaa" c known⟩

end World

end ContainerWatch
