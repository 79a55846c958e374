import ContainerWatch.Proofs.Store.Exposure

/-!
Which labels get past the filter of a store. Listings, creations and starts are asked for it, but an
answer that completes an entry and one that tells of an update are taken over as they are. So a
container is within the filter exactly if its labels came in where the filter is asked, or are those
of an answer that it accepts all the same.
-/

namespace ContainerWatch

namespace ScriptedHost

theorem of_mem_listing {h : ScriptedHost} {filter : LabelFilter} {listing : List Container}
    {c : Container} (asked : h.listing filter = .ok listing) (listed : c ∈ listing) :
    c.fullyLoaded = false ∧ filter.accepts c.labels = true := by
  simp only [ScriptedHost.listing] at asked
  split at asked
  · simp at asked
  · obtain rfl := Except.ok.inj asked
    obtain ⟨d, hd, rfl⟩ := List.mem_map.mp listed
    exact ⟨rfl, (List.mem_filter.mp hd).2⟩

end ScriptedHost

theorem World.Possible.loaded {w : World} {e : ContainerEvent} {reply : Except HostFault Container}
    (h : w.Possible (.handle e reply)) : ∀ c, reply = .ok c → c.fullyLoaded = true := by
  rintro c rfl
  rcases h with h | ⟨-, h⟩
  · exact (ScriptedHost.details_id h.symm).2
  · simp at h

/-- How the labels came in under which a container is tracked. -/
inductive Origin
  | untracked
  /-- The filter has accepted them; the entry may be complete. -/
  | admitted (complete : Bool)
  /-- They are those of an answer for which nobody has asked the filter. -/
  | unasked (answer : Container)

namespace Origin

def handled (filter : LabelFilter) (o : Origin) (e : ContainerEvent)
    (reply : Except HostFault Container) : Origin :=
  match e.kind, reply, o with
  | .create, .ok c, o | .start, .ok c, o => if filter.accepts c.labels then admitted true else o
  | .destroy, _, _ => untracked
  | .update, .ok _, untracked => untracked
  | .update, .ok c, _ => unasked c
  | _, _, o => o

def next (filter : LabelFilter) (id : String) (o : Origin) : Deed → Origin
  | .list listing => if id ∈ listing.map (·.id) then admitted false else untracked
  | .complete c =>
    match o with
    | admitted false => if c.id = id then unasked c else o
    | o => o
  | .handle e reply => if e.actorId = id then o.handled filter e reply else o
  | _ => o

def after (filter : LabelFilter) (id : String) (ds : List Deed) : Origin :=
  ds.foldl (next filter id) untracked

theorem after_append_singleton (filter : LabelFilter) (id : String) (ds : List Deed) (d : Deed) :
    after filter id (ds ++ [d]) = (after filter id ds).next filter id d := by
  simp [after]

def Fits (filter : LabelFilter) : Origin → Option Container → Prop
  | untracked, entry => entry = none
  | admitted complete, entry =>
    ∃ c, entry = some c ∧ c.fullyLoaded = complete ∧ filter.accepts c.labels = true
  | unasked a, entry => ∃ c, entry = some c ∧ c.fullyLoaded = true ∧ c.labels = a.labels

variable {filter : LabelFilter} {o : Origin} {entry : Option Container} {c : Container}

/-- The filter accepts an entry unless its labels are those of an answer that it does not accept. -/
theorem Fits.accepts_iff (h : Fits filter o (some c)) :
    filter.accepts c.labels = true ↔ ∀ a, o = unasked a → filter.accepts a.labels = true := by
  cases o with
  | untracked => simp [Fits] at h
  | admitted complete =>
    obtain ⟨_, ⟨⟩, -, accepted⟩ := h
    simp [accepted]
  | unasked a =>
    obtain ⟨_, ⟨⟩, -, labels⟩ := h
    simp [labels]

theorem Fits.map (h : Fits filter o entry) {f : Container → Container}
    (labels : ∀ c, (f c).labels = c.labels) (loaded : ∀ c, (f c).fullyLoaded = c.fullyLoaded) :
    Fits filter o (entry.map f) := by
  cases o with
  | untracked =>
    obtain rfl : entry = none := h
    rfl
  | admitted complete =>
    obtain ⟨c, rfl, known, accepted⟩ := h
    exact ⟨f c, rfl, (loaded c).trans known, (labels c).symm ▸ accepted⟩
  | unasked a =>
    obtain ⟨c, rfl, known, same⟩ := h
    exact ⟨f c, rfl, (loaded c).trans known, (labels c).trans same⟩

theorem Fits.completed (h : Fits filter o entry) (loaded : c.fullyLoaded = true) :
    Fits filter (o.next filter c.id (.complete c)) (entry.map c.completing) := by
  cases o with
  | untracked =>
    obtain rfl : entry = none := h
    rfl
  | admitted complete =>
    obtain ⟨old, rfl, known, accepted⟩ := h
    cases complete with
    | true => exact ⟨old, by simp [Container.completing, known], known, accepted⟩
    | false =>
      have next : (admitted false).next filter c.id (.complete c) = unasked c := by
        simp [Origin.next]
      rw [next]
      exact ⟨{ c with stats := old.stats }, by simp [Container.completing, known], loaded, rfl⟩
  | unasked a =>
    obtain ⟨old, rfl, known, same⟩ := h
    exact ⟨old, by simp [Container.completing, known], known, same⟩

theorem Fits.welcomed {settings : StoreSettings} (h : Fits settings.filter o entry)
    (loaded : c.fullyLoaded = true) :
    Fits settings.filter (if settings.filter.accepts c.labels then admitted true else o)
      (if settings.filter.accepts c.labels then some (c.succeeding settings entry) else entry) := by
  split
  · next accepted => exact ⟨_, rfl, loaded, accepted⟩
  · exact h

theorem Fits.refreshed (h : Fits filter o entry) : Fits filter
    (match o with
      | untracked => untracked
      | _ => unasked c) (entry.map (·.refresh c)) := by
  cases o with
  | untracked =>
    obtain rfl : entry = none := h
    rfl
  | admitted complete =>
    obtain ⟨old, rfl, -, -⟩ := h
    exact ⟨_, rfl, rfl, rfl⟩
  | unasked a =>
    obtain ⟨old, rfl, -, -⟩ := h
    exact ⟨_, rfl, rfl, rfl⟩

theorem Fits.handled {settings : StoreSettings} (h : Fits settings.filter o entry)
    {e : ContainerEvent} {reply : Except HostFault Container}
    (loaded : ∀ c, reply = .ok c → c.fullyLoaded = true) :
    Fits settings.filter (o.handled settings.filter e reply)
      (e.entryAfter settings reply entry) := by
  cases hk : e.kind with
  | create =>
    simp only [ContainerEvent.entryAfter, Origin.handled, hk]
    cases reply with
    | ok c => exact h.welcomed (loaded c rfl)
    | error fault => exact h
  | start =>
    simp only [ContainerEvent.entryAfter, Origin.handled, hk]
    cases reply with
    | ok c => exact h.welcomed (loaded c rfl)
    | error fault => exact h
  | destroy => simp [ContainerEvent.entryAfter, Origin.handled, hk, Fits]
  | die =>
    simp only [ContainerEvent.entryAfter, Origin.handled, hk]
    exact h.map (fun _ => rfl) fun _ => rfl
  | health status =>
    simp only [ContainerEvent.entryAfter, Origin.handled, hk]
    exact h.map (fun _ => rfl) fun _ => rfl
  | rename =>
    simp only [ContainerEvent.entryAfter, Origin.handled, hk]
    split
    · exact h.map (fun _ => rfl) fun _ => rfl
    · exact h.map (fun _ => rfl) fun _ => rfl
    · exact h
  | update =>
    simp only [ContainerEvent.entryAfter, Origin.handled, hk]
    cases reply with
    | ok c =>
      have refreshed := h.refreshed (c := c)
      cases o <;> exact refreshed
    | error fault => exact h
  | other =>
    simp only [ContainerEvent.entryAfter, Origin.handled, hk]
    exact h

theorem Fits.table {w : World} {d : Deed} {id : String} (possible : w.Possible d)
    (complete : ∀ a, d = .complete a → a.fullyLoaded = true)
    (h : Fits w.store.settings.filter o (w.store.tracked.get? id)) :
    Fits w.store.settings.filter (o.next w.store.settings.filter id d)
      ((d.table w.store).get? id) := by
  cases d with
  | rest => exact h
  | sample u =>
    rw [Deed.table, Store.get?_recordSample]
    split
    · exact h.map (fun _ => rfl) fun _ => rfl
    · exact h
  | list listing =>
    simp only [Deed.table, Origin.next]
    split
    · next listed =>
      obtain ⟨c, hc, -, old, known⟩ := Store.get?_absorb_listed w.store listed
      obtain ⟨partly, accepted⟩ := ScriptedHost.of_mem_listing possible.2 hc
      exact ⟨_, known, partly, accepted⟩
    · next unlisted => exact Store.get?_absorb_of_notMem w.store unlisted
  | complete c =>
    rw [Deed.table, Store.get?_enrich]
    split
    · next named =>
      subst named
      exact h.completed (complete c rfl)
    · next other =>
      have kept : o.next w.store.settings.filter id (.complete c) = o := by
        cases o with
        | admitted complete => cases complete <;> simp [Origin.next, Ne.symm other]
        | _ => rfl
      rw [kept]
      exact h
  | handle e reply =>
    rw [Deed.table, Store.get?_handle possible.named]
    by_cases actor : id = e.actorId
    · subst actor
      simp only [Origin.next, if_true]
      refine h.handled ?_
      rintro c rfl
      exact possible.loaded c rfl
    · simp only [Origin.next, if_neg actor, if_neg (Ne.symm actor)]
      exact h

end Origin

namespace World

variable {settings : StoreSettings} {host : ScriptedHost} {w : World} {ds : List Deed}
  {hs : List (World × Task)}

theorem Path.fits (path : Path (initial settings host) ds w) (id : String) :
    (Origin.after settings.filter id ds).Fits settings.filter (w.store.tracked.get? id) := by
  induction path with
  | nil => exact rfl
  | outside out h ih =>
    rw [out.tracked]
    exact ih
  | @step ds v v' t moved h ih =>
    have hs := step_of_step? moved
    have possible := v.possible_deed t
    have tuned : v.store.settings = settings := h.tuning
    rw [Origin.after_append_singleton, hs.tracked, ← tuned]
    refine Origin.Fits.table possible ?_ (tuned ▸ ih)
    intro a ha
    rw [ha] at possible
    exact (h.sound (sound_initial settings host)).completes possible

/-- A container is within a filter, after deeds, exactly if its labels are not those of an answer
that the filter does not accept. -/
def Within (filter : LabelFilter) (ds : List Deed) (c : Container) : Prop :=
  filter.accepts c.labels = true ↔
    ∀ a, Origin.after filter c.id ds = .unasked a → filter.accepts a.labels = true

theorem Path.within (path : Path (initial settings host) ds w) {c : Container}
    (known : w.store.tracked.get? c.id = some c) : Within settings.filter ds c := by
  have fits := path.fits c.id
  rw [known] at fits
  exact fits.accepts_iff

/-- When does a store keep to its filter? On any course, exactly as long as no answer that completes
an entry or tells of an update has labels that the filter does not accept. This is so of the tracked
containers, and of those that are handed out as they were tracked at some moment of the course. New
containers are always told of within the filter. -/
theorem Course.within_filter_iff (course : Course (initial settings host) hs w) :
    (∀ c ∈ w.store.tracked.values, Within settings.filter (deeds hs) c) ∧
    (∀ c ∈ w.exposed, ∃ hs' v, hs' <+: hs ∧ Course (initial settings host) hs' v ∧
      v.store.tracked.get? c.id = some c ∧ Within settings.filter (deeds hs') c) ∧
    ∀ c ∈ w.store.newContainers.queued, settings.filter.accepts c.labels = true := by
  refine ⟨?_, ?_, ?_⟩
  · intro c tracked
    have tidy := (course.path.sound (sound_initial settings host)).tidy
    obtain ⟨⟨id, d⟩, hd, rfl⟩ := List.mem_map.mp tracked
    have known := Entries.get?_of_mem tidy.nodup hd
    refine course.path.within ?_
    rwa [tidy.keyed id d known]
  · intro c shown
    obtain ⟨hs', v, earlier, reached, known⟩ := course.handsOut.exposed shown
    exact ⟨hs', v, earlier, reached, known, reached.path.within known⟩
  · intro c new
    have tuned : w.store.settings = settings := course.path.tuning
    rw [← tuned]
    exact (course.handsOut.store.news c new).2

/-! ### Labels that change

A tracked container gets labels outside the filter, and the host tells of an update. -/

def teamSettings : StoreSettings := { filter := { allowed := [("team", ["core"])] } }

def teamWeb (team : String) : Container :=
  { id := "aaa", name := "web", state := .running, labels := [("team", team)] }

def teamHost : ScriptedHost := (ScriptedHost.named "fake").put (teamWeb "core")

def teamLeft : World :=
  let w := World.start teamSettings teamHost
  { w with
    host := w.host.put (teamWeb "guest")
    emission := some { name := "update", actorId := "aaa", host := "fake" } }

def teamUpdated : World := ((teamLeft.moved .emission).moved .dispatcher).moved .dispatcher

def teamListed : World :=
  ((({ teamUpdated with
        reads := teamUpdated.reads ++ [{ errand := .list .all }] } : World).moved
    (.read 0)).moved (.read 0))

theorem course_teamUpdated : ∃ hs, Course (initial teamSettings teamHost) hs teamUpdated := by
  obtain ⟨_, started⟩ := Course.start teamSettings teamHost
  have left : Course (initial teamSettings teamHost) _ teamLeft :=
    (started.happens (.host _)).happens (.emit (by simp))
  have taken := left.step .emission (step?_moved (by decide +kernel))
  have asked := taken.step .dispatcher (step?_moved (by decide +kernel))
  exact ⟨_, asked.step .dispatcher (step?_moved (by decide +kernel))⟩

theorem course_teamListed : ∃ hs, Course (initial teamSettings teamHost) hs teamListed := by
  obtain ⟨_, updated⟩ := course_teamUpdated
  have begun := updated.happens (.begin [.list .all])
  have connected := begun.step (.read 0) (step?_moved (by decide +kernel))
  exact ⟨_, connected.step (.read 0) (step?_moved (by decide +kernel))⟩

theorem Course.within_filter_iff_teamListed : ∃ hs,
    Course (initial teamSettings teamHost) hs teamListed ∧
    (∀ c ∈ teamListed.store.tracked.values, Within teamSettings.filter (deeds hs) c) ∧
    (∀ c ∈ teamListed.exposed, ∃ hs' v, hs' <+: hs ∧
      Course (initial teamSettings teamHost) hs' v ∧ v.store.tracked.get? c.id = some c ∧
      Within teamSettings.filter (deeds hs') c) ∧
    ∀ c ∈ teamListed.store.newContainers.queued,
      teamSettings.filter.accepts c.labels = true := by
  obtain ⟨hs, course⟩ := course_teamListed
  exact ⟨hs, course, course.within_filter_iff⟩

/-- A container outside the filter may be tracked, and be listed. -/
theorem Course.outside_filter_teamListed : ∃ hs,
    Course (initial teamSettings teamHost) hs teamListed ∧
    (∃ c ∈ teamListed.store.tracked.values, teamSettings.filter.accepts c.labels = false) ∧
    ∃ r ∈ teamListed.reads, ∃ c ∈ r.findings, teamSettings.filter.accepts c.labels = false := by
  obtain ⟨hs, course⟩ := course_teamListed
  have tracked : (teamListed.store.tracked.values.any fun c =>
      !teamSettings.filter.accepts c.labels) = true := by decide +kernel
  have found : (teamListed.reads.any fun r => r.findings.any fun c =>
      !teamSettings.filter.accepts c.labels) = true := by decide +kernel
  simp only [List.any_eq_true, Bool.not_eq_true'] at tracked found
  exact ⟨hs, course, tracked, found⟩

end World

end ContainerWatch
