import ContainerWatch.Proofs.Store.Runs

/-!
What is known of a container after its death. An answer that is still to come may complete an
entry that only a listing had filled in, and then the entry says what the answer says, however old
that is. The container counts as exited from its death on exactly if this does not happen.
-/

namespace ContainerWatch

namespace Deed

def isDeath (id : String) : Deed → Bool
  | handle e _ => e.kind = .die && e.actorId = id
  | _ => false

/-- Whether a deed begins a new life of a container, ends it for good, or lists it again. -/
def renews (id : String) : Deed → Bool
  | handle e _ =>
    e.actorId = id && match e.kind with
      | .create | .start | .update | .destroy => true
      | _ => false
  | list listing => (listing.map (·.id)).contains id
  | _ => false

end Deed

/-- What becomes of the death of a container whose entry was not complete: it stands until an answer
completes the entry, and again once the container has died another time. -/
inductive Fate
  | standing
  | undone (answer : Container)
  | sealed

namespace Fate

def next (id : String) : Fate → Deed → Fate
  | standing, .complete c => if c.id = id then undone c else standing
  | undone c, d => if d.isDeath id then sealed else undone c
  | f, _ => f

def after (id : String) (ds : List Deed) : Fate := ds.foldl (next id) standing

theorem after_append_singleton (id : String) (ds : List Deed) (d : Deed) :
    after id (ds ++ [d]) = (after id ds).next id d := by
  simp [after]

def isAnswered : Fate → Bool
  | standing => false
  | _ => true

def state : Fate → ContainerState
  | undone c => c.state
  | _ => .exited

end Fate

/-- What an entry shows after a death: whether it was complete at the death decides whether the fate
of the death matters. -/
structure Shows (complete : Bool) (f : Fate) (c : Container) : Prop where
  loaded : c.fullyLoaded = (complete || f.isAnswered)
  state : c.state = if complete then .exited else f.state

namespace Shows

variable {complete : Bool} {f : Fate} {c : Container} {id : String}

theorem keep (h : Shows complete f c) {d : Deed} {c' : Container}
    (silent : ∀ a, d = .complete a → a.id ≠ id) (alive : d.isDeath id = false)
    (loaded : c'.fullyLoaded = c.fullyLoaded) (state : c'.state = c.state) :
    Shows complete (f.next id d) c' := by
  have hf : f.next id d = f := by
    cases f with
    | standing =>
      cases d with
      | complete a => simp [Fate.next, silent a rfl]
      | _ => rfl
    | undone a => simp [Fate.next, alive]
    | sealed => rfl
  rw [hf]
  exact ⟨loaded.trans h.loaded, state.trans h.state⟩

theorem bury (h : Shows complete f c) {d : Deed} (death : d.isDeath id = true) (time : Stamp) :
    Shows complete (f.next id d) (c.buried time) := by
  refine ⟨?_, ?_⟩
  · have hb : (c.buried time).fullyLoaded = c.fullyLoaded := rfl
    rw [hb, h.loaded]
    cases f with
    | standing => cases d <;> simp_all [Fate.next, Deed.isDeath]
    | undone a => simp [Fate.next, death, Fate.isAnswered]
    | sealed => rfl
  · have hs : (f.next id d).state = .exited := by
      cases f with
      | standing => cases d <;> simp_all [Fate.next, Deed.isDeath, Fate.state]
      | undone a => simp [Fate.next, death, Fate.state]
      | sealed => rfl
    rw [hs, ite_self]
    rfl

theorem answer (h : Shows complete f c) {a : Container} (named : a.id = id)
    (loaded : a.fullyLoaded = true) :
    Shows complete (f.next id (.complete a)) (a.completing c) := by
  cases hl : c.fullyLoaded with
  | true =>
    have hf : complete = true ∨ f.next id (.complete a) = f := by
      cases f with
      | standing => exact Or.inl (by simpa [Fate.isAnswered, hl] using h.loaded)
      | undone b => exact Or.inr (by simp [Fate.next, Deed.isDeath])
      | sealed => exact Or.inr rfl
    have hc : a.completing c = c := by simp [Container.completing, hl]
    rw [hc]
    rcases hf with rfl | hf
    · exact ⟨by simp [hl], by simpa using h.state⟩
    · rw [hf]
      exact h
  | false =>
    obtain ⟨rfl, hf⟩ : complete = false ∧ f.isAnswered = false := by
      simpa [hl] using h.loaded
    cases f with
    | standing =>
      have hc : a.completing c = { a with stats := c.stats } := by
        simp [Container.completing, hl]
      rw [hc]
      refine ⟨?_, ?_⟩
      · simp [Fate.next, named, loaded, Fate.isAnswered]
      · simp [Fate.next, named, Fate.state]
    | undone b => simp [Fate.isAnswered] at hf
    | sealed => simp [Fate.isAnswered] at hf

theorem handled {settings : StoreSettings} {e : ContainerEvent}
    {reply : Except HostFault Container} {old : Option Container}
    (quiet : (Deed.handle e reply).renews e.actorId = false)
    (h : ∀ c, old = some c → Shows complete f c)
    (known : e.entryAfter settings reply old = some c) :
    Shows complete (f.next e.actorId (.handle e reply)) c := by
  have alive : e.kind ≠ .die → (Deed.handle e reply).isDeath e.actorId = false := by
    intro hk
    simp [Deed.isDeath, hk]
  have kept : e.kind ≠ .die → ∀ g : Container → Container, old.map g = some c →
      (∀ c, (g c).fullyLoaded = c.fullyLoaded) → (∀ c, (g c).state = c.state) →
      Shows complete (f.next e.actorId (.handle e reply)) c := by
    intro hk g known loaded state
    obtain ⟨c, ho, rfl⟩ := Option.map_eq_some_iff.mp known
    exact (h c ho).keep (by simp) (alive hk) (loaded c) (state c)
  cases hk : e.kind with
  | create => simp [Deed.renews, hk] at quiet
  | start => simp [Deed.renews, hk] at quiet
  | destroy => simp [Deed.renews, hk] at quiet
  | update => simp [Deed.renews, hk] at quiet
  | die =>
    simp only [ContainerEvent.entryAfter, hk] at known
    obtain ⟨c, ho, rfl⟩ := Option.map_eq_some_iff.mp known
    exact (h c ho).bury (by simp [Deed.isDeath, hk]) e.time
  | health status =>
    simp only [ContainerEvent.entryAfter, hk] at known
    exact kept (by simp [hk]) _ known (fun _ => rfl) (fun _ => rfl)
  | rename =>
    simp only [ContainerEvent.entryAfter, hk] at known
    split at known
    · exact kept (by simp [hk]) _ known (fun _ => rfl) (fun _ => rfl)
    · exact kept (by simp [hk]) _ known (fun _ => rfl) (fun _ => rfl)
    · exact (h c known).keep (by simp) (alive (by simp [hk])) rfl rfl
  | other =>
    simp only [ContainerEvent.entryAfter, hk] at known
    exact (h c known).keep (by simp) (alive (by simp [hk])) rfl rfl

theorem table {s : Store} {d : Deed} (named : ∀ e reply, d = .handle e reply → ∀ c, reply = .ok c →
    c.id = e.actorId) (complete' : ∀ a, d = .complete a → a.fullyLoaded = true)
    (quiet : d.renews id = false)
    (h : ∀ old, s.tracked.get? id = some old → Shows complete f old)
    (known : (d.table s).get? id = some c) : Shows complete (f.next id d) c := by
  cases d with
  | rest => exact (h c known).keep (by simp) rfl rfl rfl
  | list listing =>
    -- A listing that does not renew the container takes its entry away.
    have hn : id ∉ listing.map (·.id) := by simpa [Deed.renews] using quiet
    have hg := Store.get?_absorb_of_notMem s hn
    simp [Deed.table, hg] at known
  | sample u =>
    rw [Deed.table, Store.get?_recordSample] at known
    split at known
    · obtain ⟨old, ho, rfl⟩ := Option.map_eq_some_iff.mp known
      exact (h old ho).keep (by simp) rfl rfl rfl
    · exact (h c known).keep (by simp) rfl rfl rfl
  | complete a =>
    rw [Deed.table, Store.get?_enrich] at known
    split at known
    · next hi =>
      obtain ⟨old, ho, rfl⟩ := Option.map_eq_some_iff.mp known
      exact (h old ho).answer hi.symm (complete' a rfl)
    · next hi =>
      refine (h c known).keep (fun b hb he => hi ?_) rfl rfl rfl
      rw [← he, Deed.complete.inj hb]
  | handle e reply =>
    rw [Deed.table, Store.get?_handle (named e reply rfl)] at known
    split at known
    · next hi =>
      subst hi
      exact handled quiet h known
    · next hi =>
      have alive : (Deed.handle e reply).isDeath id = false := by simp [Deed.isDeath, Ne.symm hi]
      exact (h c known).keep (by simp) alive rfl rfl

end Shows

namespace World

variable {settings : StoreSettings} {host : ScriptedHost} {id : String} {v v' w w' : World}
  {past ds : List Deed} {t : Task} {before : Container}

theorem shows_of_death (moved : v.step? t = some v') (death : (v.deed t).isDeath id = true)
    (known : v.store.tracked.get? id = some before) {c : Container}
    (after : v'.store.tracked.get? id = some c) : Shows before.fullyLoaded .standing c := by
  have hs := step_of_step? moved
  have possible := v.possible_deed t
  cases hd : v.deed t with
  | handle e reply =>
    rw [hd] at hs death possible
    obtain ⟨kind, rfl⟩ : e.kind = .die ∧ e.actorId = id := by simpa [Deed.isDeath] using death
    rw [hs.tracked, Deed.table, Store.get?_handle possible.named, if_pos rfl] at after
    simp only [ContainerEvent.entryAfter, kind, known, Option.map_some, Option.some.injEq] at after
    obtain rfl := after
    refine ⟨?_, ?_⟩
    · simp [Container.buried, Fate.isAnswered]
    · simp [Container.buried, Fate.state]
  | _ =>
    rw [hd] at death
    simp [Deed.isDeath] at death

/-- What an entry shows on the way from a death. -/
theorem Path.shows (sound : Sound v) {complete : Bool}
    (start : ∀ c, v.store.tracked.get? id = some c → Shows complete .standing c)
    (path : Path v ds w) (quiet : ∀ d ∈ ds, d.renews id = false) :
    ∀ c, w.store.tracked.get? id = some c → Shows complete (Fate.after id ds) c := by
  induction path with
  | nil => exact start
  | outside out h ih =>
    rw [out.tracked]
    exact ih quiet
  | @step ds u u' t moved h ih =>
    intro c known
    have hs := step_of_step? moved
    have possible := u.possible_deed t
    rw [Fate.after_append_singleton]
    rw [hs.tracked] at known
    refine Shows.table ?_ ?_ (quiet _ (by simp)) (ih fun d hd => quiet d (by simp [hd])) known
    · intro e reply he
      rw [he] at possible
      exact possible.named
    · intro a ha
      rw [ha] at possible
      exact (h.sound sound).completes possible

/-- When is a container listed as exited after its death? At any moment of any run in which it has
not been renewed since, exactly if its entry was complete when the death was handled, or no answer
has completed it since, or it died once more after that, or the answer itself says exited. -/
theorem Path.listed_exited_iff (reached : Path (initial settings host) past v)
    (moved : v.step? t = some v') (death : (v.deed t).isDeath id = true)
    (known : v.store.tracked.get? id = some before)
    (path : Path v' ds w) (quiet : ∀ d ∈ ds, d.renews id = false) {filter : LabelFilter}
    {c : Container} (listed : c ∈ w.store.listed filter) (same : c.id = id) :
    c.state = .exited ↔ before.fullyLoaded = true ∨
      ∀ a, Fate.after id ds = .undone a → a.state = .exited := by
  have sound : Sound v' := (reached.sound (sound_initial settings host)).step moved
  have tracked : w.store.tracked.get? id = some c :=
    same ▸ Store.mem_listed (path.sound sound).tidy listed
  have shows : Shows before.fullyLoaded (Fate.after id ds) c :=
    path.shows sound (fun _ hc => shows_of_death moved death known hc) quiet c tracked
  rw [shows.state]
  cases before.fullyLoaded with
  | true => simp
  | false => cases Fate.after id ds <;> simp [Fate.state]

/-! ### A late answer

The first inspect of a running container times out. A look-up inspects it again, and while the host
takes its time to answer, the death of the container is handled. -/

def lateHost : ScriptedHost :=
  { (ScriptedHost.named "fake").put { id := "aaa", name := "web", state := .running } with
    inspectDelay := 5000 }

def lateAsked : World :=
  let w := World.start {} lateHost
  ((({ w with
      host := { w.host with inspectDelay := 20 }
      reads := [{ errand := .find "aaa" .all }]
      emission := some { name := "die", actorId := "aaa", host := "fake" } } : World).moved
    (.read 0)).moved (.read 0)).moved .emission

def lateBuried : World := lateAsked.moved .dispatcher

def lateDue : World := { lateBuried with clock := lateBuried.clock + 20 }

def lateAnswered : World := lateDue.moved (.read 0)

theorem path_lateAsked : ∃ past, Path (initial {} lateHost) past lateAsked := by
  obtain ⟨_, h0⟩ := Path.start {} lateHost
  have out : (World.start {} lateHost).Outside { World.start {} lateHost with
      host := { (World.start {} lateHost).host with inspectDelay := 20 }
      reads := [{ errand := .find "aaa" .all }]
      emission := some { name := "die", actorId := "aaa", host := "fake" } } :=
    ⟨rfl, rfl, rfl, rfl, fun o ho => by simp [outcomes, StoreRead.outcomes] at ho⟩
  have h1 := (h0.outside out).step (.read 0) (step?_moved (by decide +kernel))
  have h2 := h1.step (.read 0) (step?_moved (by decide +kernel))
  exact ⟨_, h2.step .emission (step?_moved (by decide +kernel))⟩

theorem path_lateAnswered : Path lateBuried [lateDue.deed (.read 0)] lateAnswered := by
  have out : lateBuried.Outside lateDue := ⟨rfl, rfl, rfl, rfl, fun _ ho => ho⟩
  exact (Path.nil.outside out).step (.read 0) (step?_moved (by decide +kernel))

theorem lateDue_quiet : ∀ d ∈ [lateDue.deed (.read 0)], d.renews "aaa" = false := by
  have h : (lateDue.deed (.read 0)).renews "aaa" = false := by decide +kernel
  simpa using h

theorem lateAnswered_listed :
    ∃ c ∈ lateAnswered.store.listed .all, c.id = "aaa" ∧ c.state = .running := by
  have h : ((lateAnswered.store.listed .all).any fun c => c.id = "aaa" ∧ c.state = .running) =
      true := by decide +kernel
  simpa using h

theorem Path.listed_exited_iff_late : ∃ before c : Container,
    lateAsked.store.tracked.get? "aaa" = some before ∧ c ∈ lateAnswered.store.listed .all ∧
    (c.state = .exited ↔ before.fullyLoaded = true ∨
      ∀ a, Fate.after "aaa" [lateDue.deed (.read 0)] = .undone a → a.state = .exited) := by
  obtain ⟨past, reached⟩ := path_lateAsked
  obtain ⟨c, listed, same, -⟩ := lateAnswered_listed
  have tracked : (lateAsked.store.tracked.get? "aaa").isSome = true := by decide +kernel
  obtain ⟨before, known⟩ := Option.isSome_iff_exists.mp tracked
  have moves : lateAsked.step? .dispatcher = some lateBuried := step?_moved (by decide +kernel)
  have death : (lateAsked.deed .dispatcher).isDeath "aaa" = true := by decide +kernel
  exact ⟨before, c, known, listed, reached.listed_exited_iff moves death known path_lateAnswered
    lateDue_quiet listed same⟩

/-- A death may be undone by an answer to an inspect that was under way. -/
theorem Path.listed_running_late : ∃ past ds c,
    Path (initial {} lateHost) past lateAsked ∧ lateAsked.step? .dispatcher = some lateBuried ∧
    (lateAsked.deed .dispatcher).isDeath "aaa" = true ∧ lateAsked.store.tracked.has "aaa" = true ∧
    Path lateBuried ds lateAnswered ∧ (∀ d ∈ ds, d.renews "aaa" = false) ∧
    c ∈ lateAnswered.store.listed .all ∧ c.id = "aaa" ∧ c.state = .running := by
  obtain ⟨past, reached⟩ := path_lateAsked
  obtain ⟨c, listed, same, running⟩ := lateAnswered_listed
  have moves : lateAsked.step? .dispatcher = some lateBuried := step?_moved (by decide +kernel)
  exact ⟨past, _, c, reached, moves, by decide +kernel, by decide +kernel, path_lateAnswered,
    lateDue_quiet, listed, same, running⟩

end World

end ContainerWatch
