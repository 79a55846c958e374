import ContainerWatch.Proofs.Store.Frame

/-!
What subscribers are told of one event: nothing, the event with its container as it is tracked from
then on, or that and a start.
-/

namespace ContainerWatch

def Handled.told (h : Handled) (trackedBefore : Bool) (id : String) : List ContainerEvent :=
  match h.event with
  | none => []
  | some e =>
    if h.store.settings.filter.isEmpty || trackedBefore || h.store.tracked.has id then
      e :: h.start.toList
    else []

/-- An event that is handled, with the store that it meets and the answer to the inspect that it may
need. -/
structure Handling where
  store : Store
  event : ContainerEvent
  reply : Except HostFault Container

namespace Store

variable {s : Store} {e x : ContainerEvent} {reply : Except HostFault Container} {c : Container}

theorem publish_eq (trackedBefore : Bool) (id : String) (h : Handled) :
    publish trackedBefore id h = (h.told trackedBefore id).foldl announce h.store := by
  unfold publish Handled.told
  cases h.event with
  | none => rfl
  | some e =>
    simp only
    split
    · cases h.start <;> rfl
    · rfl

/-! ### The event that is told of -/

theorem amend_event (s : Store) (e : ContainerEvent) (f : Container → Container) :
    (s.amend e f).event =
      some { e with container := ((s.tracked.get? e.actorId).map f).or e.container } := by
  unfold amend
  cases s.tracked.get? e.actorId <;> rfl

/-- A container that the event of `g` shows is tracked as it is shown, and is the one that the event
is about if the answer to the inspect was. -/
def Shows (e : ContainerEvent) (reply : Except HostFault Container) (g : Handled) : Prop :=
  ∀ x c, g.event = some x → x.container = some c → g.store.tracked.get? c.id = some c ∧
    ((∀ d, reply = .ok d → d.id = e.actorId) → c.id = e.actorId)

theorem shows_bare (s : Store) (bare : e.container = none) :
    Shows e reply { store := s, event := some e } := by
  rintro x c told shown
  rw [← Option.some.inj told, bare] at shown
  simp at shown

theorem shows_amend (tidy : Tidy s.tracked) (bare : e.container = none)
    {f : Container → Container} (same : ∀ c, (f c).id = c.id) : Shows e reply (s.amend e f) := by
  rintro x c told shown
  rw [amend_event] at told
  rw [← Option.some.inj told, bare, Option.or_none] at shown
  obtain ⟨old, before, rfl⟩ := Option.map_eq_some_iff.mp shown
  have named : (f old).id = e.actorId := (same old).trans (tidy.keyed e.actorId old before)
  refine ⟨?_, fun _ => named⟩
  rw [named, get?_amend, if_pos rfl, before, Option.map_some]

theorem shows_welcome (s : Store) (e : ContainerEvent) (starts : Bool)
    (reply : Except HostFault Container) : Shows e reply (s.welcome e starts reply) := by
  rintro x c told shown
  cases reply with
  | error fault => simp [welcome] at told
  | ok d =>
    cases inside : s.settings.filter.accepts d.labels with
    | false => simp [welcome, inside] at told
    | true =>
      simp only [welcome, inside, if_true] at told ⊢
      rw [← Option.some.inj told] at shown
      obtain rfl := Option.some.inj shown
      refine ⟨?_, fun named => named d rfl⟩
      have entered : (s.upsert d).1.tracked.get? (s.upsert d).2.id = some (s.upsert d).2 :=
        Entries.get?_put_self _ _ _
      cases starts <;> exact entered

theorem shows_handle (tidy : Tidy s.tracked) (bare : e.container = none) :
    Shows e reply (s.handle e reply) := by
  unfold handle
  split
  · exact s.shows_welcome e false reply
  · exact s.shows_welcome e true reply
  · exact shows_bare _ bare
  · exact shows_amend tidy bare (f := (·.buried e.time)) fun _ => rfl
  · exact shows_amend tidy bare fun _ => rfl
  · unfold rename
    split
    · exact shows_amend tidy bare fun _ => rfl
    · exact shows_amend tidy bare fun _ => rfl
    · exact shows_bare s bare
  · unfold renew
    split
    · exact fun x c told => by simp at told
    · next loaded =>
      have refreshed : Shows e (.ok loaded) (s.amend e (·.refresh loaded)) :=
        shows_amend tidy bare fun _ => rfl
      split
      · simp only
        split
        · exact refreshed
        · exact refreshed
      · exact shows_bare s bare
  · exact shows_bare s bare

end Store

namespace Handling

variable {h : Handling}

def after (h : Handling) : Entries Container := (h.store.handle h.event h.reply).store.tracked

def told (h : Handling) : List ContainerEvent :=
  (h.store.handle h.event h.reply).told (h.store.tracked.has h.event.actorId) h.event.actorId

/-- The inspect of a create or a start failed or gave a container outside the filter, or the inspect
of an update failed. -/
def IsRefused (h : Handling) : Prop :=
  (h.event.kind = .create ∨ h.event.kind = .start) ∧
      (∀ c, h.reply = .ok c → h.store.settings.filter.accepts c.labels = false) ∨
    h.event.kind = .update ∧ ∀ c, h.reply ≠ .ok c

/-- There is a filter, and the container is tracked neither before nor after. -/
def IsForeign (h : Handling) : Prop :=
  h.store.settings.filter.isEmpty = false ∧ h.store.tracked.has h.event.actorId = false ∧
    h.after.has h.event.actorId = false

/-- An update finds a tracked container not running, and leaves it running. -/
def IsStart (h : Handling) : Prop :=
  h.event.kind = .update ∧ ∃ old new, h.store.tracked.get? h.event.actorId = some old ∧
    h.after.get? h.event.actorId = some new ∧ old.isRunning = false ∧ new.isRunning = true

def IsNamed (h : Handling) : Prop := ∀ c, h.reply = .ok c → c.id = h.event.actorId

/-- What subscribers are told of an event: nothing at all, or the event once, and a start after it
exactly if it is an update that makes a container run. A container that is shown is tracked as it is
shown. -/
structure Tells (h : Handling) : Prop where
  silent : h.IsRefused ∨ h.IsForeign → h.told = []
  once : ¬ h.IsRefused → ¬ h.IsForeign → ¬ h.IsStart →
    ∃ snapshot, h.told = [{ h.event with container := snapshot }]
  started : h.IsStart → ∃ snapshot c, h.after.get? h.event.actorId = some c ∧
    h.told = [{ h.event with container := snapshot },
      { name := "start", actorId := h.event.actorId, host := h.event.host, container := some c }]
  shown : ∀ e ∈ h.told, ∀ c, e.container = some c →
    h.after.get? c.id = some c ∧ (h.IsNamed → c.id = h.event.actorId)

/-! ### Each kind of event -/

theorem event_of_refused (refused : h.IsRefused) :
    (h.store.handle h.event h.reply).event = none := by
  obtain ⟨s, e, reply⟩ := h
  have welcomed : (∀ c, reply = .ok c → s.settings.filter.accepts c.labels = false) →
      ∀ starts, (s.welcome e starts reply).event = none := by
    intro outside starts
    cases reply with
    | error fault => rfl
    | ok c => simp [Store.welcome, outside c rfl]
  rcases refused with ⟨kind | kind, outside⟩ | ⟨kind, failed⟩
  · simp only [Store.handle, kind]
    exact welcomed outside false
  · simp only [Store.handle, kind]
    exact welcomed outside true
  · simp only [Store.handle, kind]
    cases reply with
    | error fault => rfl
    | ok c => exact absurd rfl (failed c)

theorem event_of_not_refused (taken : ¬ h.IsRefused) :
    ∃ snapshot, (h.store.handle h.event h.reply).event =
      some { h.event with container := snapshot } := by
  obtain ⟨s, e, reply⟩ := h
  have welcomed : (∃ c, reply = .ok c ∧ s.settings.filter.accepts c.labels = true) → ∀ starts,
      ∃ snapshot, (s.welcome e starts reply).event = some { e with container := snapshot } := by
    rintro ⟨c, rfl, inside⟩ starts
    exact ⟨_, by simp only [Store.welcome, inside, if_true]; rfl⟩
  have accepted : e.kind = .create ∨ e.kind = .start →
      ∃ c, reply = .ok c ∧ s.settings.filter.accepts c.labels = true := by
    intro kind
    cases reply with
    | error fault => exact absurd (Or.inl ⟨kind, by simp⟩) taken
    | ok c =>
      cases inside : s.settings.filter.accepts c.labels with
      | true => exact ⟨c, rfl, inside⟩
      | false => exact absurd (Or.inl ⟨kind, by simpa using inside⟩) taken
  have amended : ∀ f, ∃ snapshot, (s.amend e f).event = some { e with container := snapshot } :=
    fun f => ⟨_, s.amend_event e f⟩
  have itself : ∃ snapshot, some e = some { e with container := snapshot } := ⟨e.container, rfl⟩
  cases kind : e.kind with
  | create =>
    simp only [Store.handle, kind]
    exact welcomed (accepted (Or.inl kind)) false
  | start =>
    simp only [Store.handle, kind]
    exact welcomed (accepted (Or.inr kind)) true
  | destroy =>
    simp only [Store.handle, kind]
    exact itself
  | die =>
    simp only [Store.handle, kind]
    exact amended _
  | health status =>
    simp only [Store.handle, kind]
    exact amended _
  | rename =>
    simp only [Store.handle, kind, Store.rename]
    split
    · exact amended _
    · exact amended _
    · exact itself
  | update =>
    simp only [Store.handle, kind]
    cases reply with
    | error fault => exact absurd (Or.inr ⟨kind, by simp⟩) taken
    | ok loaded =>
      simp only [Store.renew]
      split
      · split
        · exact amended _
        · exact amended _
      · exact itself
  | other =>
    simp only [Store.handle, kind]
    exact itself

/-! ### The start after an update -/

theorem start_of_isStart (starts : h.IsStart) : ∃ c,
    h.after.get? h.event.actorId = some c ∧
      (h.store.handle h.event h.reply).start = some (Store.impliedStart h.event c) := by
  obtain ⟨s, e, reply⟩ := h
  obtain ⟨kind, old, new, before, known, stood, runs⟩ := starts
  simp only [after, Store.handle, kind] at before known ⊢
  cases reply with
  | error fault =>
    -- Nothing has changed.
    have same : some old = some new := before.symm.trans known
    rw [Option.some.inj same, runs] at stood
    simp at stood
  | ok loaded =>
    have refreshed := Store.get?_renew (s := s) (e := e) loaded e.actorId
    rw [if_pos rfl, before, Option.map_some] at refreshed
    rw [known] at refreshed
    obtain rfl := Option.some.inj refreshed
    refine ⟨_, known, ?_⟩
    simp [Store.renew, before, stood, runs]

theorem start_of_not_isStart (stays : ¬ h.IsStart) :
    (h.store.handle h.event h.reply).start = none := by
  obtain ⟨s, e, reply⟩ := h
  have amended : ∀ f, (s.amend e f).start = none := by
    intro f
    unfold Store.amend
    split <;> rfl
  have welcomed : ∀ starts, (s.welcome e starts reply).start = none := by
    intro starts
    unfold Store.welcome
    split
    · rfl
    · split <;> rfl
  simp only
  unfold Store.handle
  split
  · exact welcomed false
  · exact welcomed true
  · rfl
  · exact amended (·.buried e.time)
  · exact amended _
  · unfold Store.rename
    split
    · exact amended _
    · exact amended _
    · rfl
  · next kind =>
    unfold Store.renew
    split
    · rfl
    · next loaded =>
      split
      · next old before =>
        simp only
        split
        · next turned =>
          have refreshed := Store.get?_renew (s := s) (e := e) loaded e.actorId
          rw [if_pos rfl, before, Option.map_some] at refreshed
          have known : (Handling.mk s e (.ok loaded)).after.get? e.actorId =
              some (old.refresh loaded) := by
            simpa only [after, Store.handle, kind] using refreshed
          simp only [Bool.and_eq_true, Bool.not_eq_true'] at turned
          exact absurd ⟨kind, old, _, before, known, turned.1, turned.2⟩ stays
        · exact amended _
      · rfl
  · rfl

/-! ### What is told -/

theorem told_eq_nil (silent : h.IsRefused ∨ h.IsForeign) : h.told = [] := by
  rcases silent with refused | ⟨filtered, before, gone⟩
  · simp only [told, Handled.told, event_of_refused refused]
  · have settings := Store.handle_settings h.store h.event h.reply
    unfold told Handled.told
    split
    · rfl
    · rw [settings, filtered, before]
      exact if_neg (by simpa [after] using gone)

theorem told_eq_cons (taken : ¬ h.IsRefused) (known : ¬ h.IsForeign) :
    ∃ snapshot, (h.store.handle h.event h.reply).event =
        some { h.event with container := snapshot } ∧
      h.told = { h.event with container := snapshot } ::
        (h.store.handle h.event h.reply).start.toList := by
  obtain ⟨snapshot, event⟩ := event_of_not_refused taken
  refine ⟨snapshot, event, ?_⟩
  have settings := Store.handle_settings h.store h.event h.reply
  have listened : ((h.store.handle h.event h.reply).store.settings.filter.isEmpty ||
      h.store.tracked.has h.event.actorId ||
      (h.store.handle h.event h.reply).store.tracked.has h.event.actorId) = true := by
    rw [← Bool.not_eq_false, Bool.or_eq_false_iff, Bool.or_eq_false_iff, settings]
    exact fun foreign => known ⟨foreign.1.1, foreign.1.2, foreign.2⟩
  simp only [told, Handled.told, event]
  rw [if_pos listened]

theorem heeded_of_isStart (starts : h.IsStart) : ¬ h.IsRefused ∧ ¬ h.IsForeign := by
  obtain ⟨c, -, start⟩ := start_of_isStart starts
  obtain ⟨kind, old, new, before, -⟩ := starts
  constructor
  · rintro (⟨other | other, -⟩ | ⟨-, failed⟩)
    · simp [kind] at other
    · simp [kind] at other
    · cases reply : h.reply with
      | ok loaded => exact failed loaded reply
      | error fault => simp [Store.handle, kind, reply, Store.renew] at start
  · rintro ⟨-, unknown, -⟩
    simp [Entries.has, before] at unknown

theorem tells (tidy : Store.Tidy h.store.tracked) (bare : h.event.container = none) : h.Tells where
  silent := told_eq_nil
  once taken known stays := by
    obtain ⟨snapshot, -, told⟩ := told_eq_cons taken known
    rw [start_of_not_isStart stays] at told
    exact ⟨snapshot, told⟩
  started starts := by
    obtain ⟨taken, known⟩ := heeded_of_isStart starts
    obtain ⟨snapshot, -, told⟩ := told_eq_cons taken known
    obtain ⟨c, entry, start⟩ := start_of_isStart starts
    rw [start] at told
    exact ⟨snapshot, c, entry, told⟩
  shown x among c shown := by
    by_cases silent : h.IsRefused ∨ h.IsForeign
    · simp [told_eq_nil silent] at among
    · obtain ⟨taken, known⟩ := not_or.mp silent
      obtain ⟨snapshot, event, told⟩ := told_eq_cons taken known
      rw [told] at among
      rcases List.mem_cons.mp among with rfl | later
      · exact Store.shows_handle tidy bare _ c event shown
      · by_cases starts : h.IsStart
        · obtain ⟨d, entry, start⟩ := start_of_isStart starts
          rw [start] at later
          obtain rfl := List.mem_singleton.mp later
          obtain rfl := Option.some.inj shown
          have tidied : Store.Tidy h.after := Store.tidy_handle tidy
          have named : d.id = h.event.actorId := tidied.keyed h.event.actorId d entry
          exact ⟨named.symm ▸ entry, fun _ => named⟩
        · rw [start_of_not_isStart starts] at later
          simp at later

end Handling

end ContainerWatch
