import ContainerWatch.Proofs.Store.Steps

/-!
Handling events that wait, all against the same host. What an event writes into an entry is looked
at up to some parts of a container: entries that differ in these parts only go on to do so. The
last event that writes a part decides it, and so a host may change such a part as long as an event
for it follows.
-/

namespace ContainerWatch

inductive Part
  | name | image | command | state | health | tty
deriving DecidableEq, Repr

/-- A container without what a store adds to it: the time of its end, which events give, the
samples, and whether an inspect has filled it in. -/
def Container.known (c : Container) : Container :=
  { c with finishedAt := none, stats := History.empty 0, fullyLoaded := false }

/-- Two containers about which the same is known, but perhaps for some parts. -/
structure Container.Alike (but : List Part) (c d : Container) : Prop where
  id : c.id = d.id
  created : c.created = d.created
  startedAt : c.startedAt = d.startedAt
  host : c.host = d.host
  labels : c.labels = d.labels
  group : c.group = d.group
  name : .name ∈ but ∨ c.name = d.name
  image : .image ∈ but ∨ c.image = d.image
  command : .command ∈ but ∨ c.command = d.command
  state : .state ∈ but ∨ c.state = d.state
  health : .health ∈ but ∨ c.health = d.health
  tty : .tty ∈ but ∨ c.tty = d.tty

namespace Container.Alike

variable {but : List Part} {c d e : Container}

theorem refl (but : List Part) (c : Container) : Alike but c c :=
  ⟨rfl, rfl, rfl, rfl, rfl, rfl, .inr rfl, .inr rfl, .inr rfl, .inr rfl, .inr rfl, .inr rfl⟩

theorem part_trans {α : Type} {p : Prop} {x y z : α} (h : p ∨ x = y) (h' : p ∨ y = z) :
    p ∨ x = z := by
  rcases h with h | rfl
  · exact Or.inl h
  · exact h'

theorem symm (h : Alike but c d) : Alike but d c where
  id := h.id.symm
  created := h.created.symm
  startedAt := h.startedAt.symm
  host := h.host.symm
  labels := h.labels.symm
  group := h.group.symm
  name := h.name.imp_right Eq.symm
  image := h.image.imp_right Eq.symm
  command := h.command.imp_right Eq.symm
  state := h.state.imp_right Eq.symm
  health := h.health.imp_right Eq.symm
  tty := h.tty.imp_right Eq.symm

theorem trans (h : Alike but c d) (h' : Alike but d e) : Alike but c e where
  id := h.id.trans h'.id
  created := h.created.trans h'.created
  startedAt := h.startedAt.trans h'.startedAt
  host := h.host.trans h'.host
  labels := h.labels.trans h'.labels
  group := h.group.trans h'.group
  name := part_trans h.name h'.name
  image := part_trans h.image h'.image
  command := part_trans h.command h'.command
  state := part_trans h.state h'.state
  health := part_trans h.health h'.health
  tty := part_trans h.tty h'.tty

theorem weaken (h : Alike [] c d) (but : List Part) : Alike but c d :=
  { h with
    name := h.name.imp_left (by simp)
    image := h.image.imp_left (by simp)
    command := h.command.imp_left (by simp)
    state := h.state.imp_left (by simp)
    health := h.health.imp_left (by simp)
    tty := h.tty.imp_left (by simp) }

theorem settle (h : Alike but c d) (name : .name ∈ but → c.name = d.name)
    (image : .image ∈ but → c.image = d.image) (command : .command ∈ but → c.command = d.command)
    (state : .state ∈ but → c.state = d.state) (health : .health ∈ but → c.health = d.health)
    (tty : .tty ∈ but → c.tty = d.tty) : Alike [] c d where
  id := h.id
  created := h.created
  startedAt := h.startedAt
  host := h.host
  labels := h.labels
  group := h.group
  name := Or.inr (h.name.elim name fun he => he)
  image := Or.inr (h.image.elim image fun he => he)
  command := Or.inr (h.command.elim command fun he => he)
  state := Or.inr (h.state.elim state fun he => he)
  health := Or.inr (h.health.elim health fun he => he)
  tty := Or.inr (h.tty.elim tty fun he => he)

theorem known_eq (h : Alike [] c d) : c.known = d.known := by
  obtain ⟨id, created, startedAt, host, labels, group, name, image, command, state, health, tty⟩ :=
    h
  simp only [List.not_mem_nil, false_or] at name image command state health tty
  simp [Container.known, *]

end Container.Alike

def AlikeEntries (but : List Part) : Option Container → Option Container → Prop
  | some c, some d => c.Alike but d
  | none, none => True
  | _, _ => False

namespace AlikeEntries

variable {but : List Part} {x y z : Option Container}

theorem refl (but : List Part) (x : Option Container) : AlikeEntries but x x := by
  cases x with
  | none => trivial
  | some c => exact Container.Alike.refl but c

theorem trans (h : AlikeEntries but x y) (h' : AlikeEntries but y z) : AlikeEntries but x z := by
  cases x <;> cases y <;> cases z <;> first | trivial | exact h.elim | exact h'.elim | skip
  exact Container.Alike.trans h h'

theorem map {f g : Container → Container} (h : AlikeEntries but x y)
    (hfg : ∀ c d, c.Alike but d → (f c).Alike but (g d)) :
    AlikeEntries but (x.map f) (y.map g) := by
  cases x <;> cases y <;> first | trivial | exact h.elim | skip
  exact hfg _ _ h

end AlikeEntries

def answer (now : Option Container) (id : String) : Except HostFault Container :=
  match now with
  | some c => .ok { c with fullyLoaded := true }
  | none => .error (.notFound id)

/-- The entry after events were handled, all while the host has the same entry. -/
def replay (settings : StoreSettings) (now : Option Container) (es : List ContainerEvent)
    (old : Option Container) : Option Container :=
  es.foldl (fun old e => e.entryAfter settings (answer now e.actorId) old) old

variable {settings : StoreSettings} {but : List Part} {e : ContainerEvent}
  {es : List ContainerEvent} {now now' old old' : Option Container}

theorem replay_append_singleton (settings : StoreSettings) (now : Option Container)
    (es : List ContainerEvent) (e : ContainerEvent) (old : Option Container) :
    replay settings now (es ++ [e]) old =
      e.entryAfter settings (answer now e.actorId) (replay settings now es old) := by
  simp [replay]

theorem alike_succeeding {c d : Container} (h : c.Alike but d) (x y : Option Container) :
    (c.succeeding settings x).Alike but (d.succeeding settings y) := { h with }

theorem alike_refresh {c d c' d' : Container} (h : c.Alike but d) (h' : c'.Alike but d') :
    (c.refresh c').Alike but (d.refresh d') :=
  { h' with id := h.id, created := h.created, host := h.host }

inductive AlikeReplies (but : List Part) :
    Except HostFault Container → Except HostFault Container → Prop
  | ok {c d} (h : c.Alike but d) : AlikeReplies but (.ok c) (.ok d)
  | error (f g) : AlikeReplies but (.error f) (.error g)

theorem AlikeEntries.answer (h : AlikeEntries but now now') (id : String) :
    AlikeReplies but (answer now id) (answer now' id) := by
  cases now <;> cases now' <;> first | exact h.elim | skip
  · exact .error _ _
  · next c d =>
    have hc : c.Alike but d := h
    exact .ok { hc with }

/-- Handling an event keeps entries alike, and what is answered may differ in the same parts. -/
theorem entryAfter_congr {reply reply' : Except HostFault Container}
    (replies : AlikeReplies but reply reply') (h : AlikeEntries but old old') :
    AlikeEntries but (e.entryAfter settings reply old) (e.entryAfter settings reply' old') := by
  have welcomed : ∀ c d : Container, c.Alike but d → AlikeEntries but
      (if settings.filter.accepts c.labels then some (c.succeeding settings old) else old)
      (if settings.filter.accepts d.labels then some (d.succeeding settings old') else old') := by
    intro c d hc
    rw [hc.labels]
    split
    · exact alike_succeeding hc old old'
    · exact h
  cases hk : e.kind with
  | create =>
    simp only [ContainerEvent.entryAfter, hk]
    cases replies with
    | ok hc => exact welcomed _ _ hc
    | error f g => exact h
  | start =>
    simp only [ContainerEvent.entryAfter, hk]
    cases replies with
    | ok hc => exact welcomed _ _ hc
    | error f g => exact h
  | destroy =>
    simp only [ContainerEvent.entryAfter, hk]
    trivial
  | die =>
    simp only [ContainerEvent.entryAfter, hk]
    exact h.map fun x y hx => { hx with state := Or.inr rfl }
  | health status =>
    simp only [ContainerEvent.entryAfter, hk]
    exact h.map fun x y hx => { hx with health := Or.inr rfl }
  | rename =>
    simp only [ContainerEvent.entryAfter, hk]
    cases e.attributes.get? nameAttribute with
    | some name => exact h.map fun x y hx => { hx with name := Or.inr rfl }
    | none =>
      cases replies with
      | ok hc => exact h.map fun x y hx => { hx with name := hc.name }
      | error f g => exact h
  | update =>
    simp only [ContainerEvent.entryAfter, hk]
    cases replies with
    | ok hc => exact h.map fun x y hx => alike_refresh hx hc
    | error f g => exact h
  | other =>
    simp only [ContainerEvent.entryAfter, hk]
    exact h

theorem replay_congr (hnow : AlikeEntries but now now') (hold : AlikeEntries but old old') :
    AlikeEntries but (replay settings now es old) (replay settings now' es old') := by
  induction es generalizing old old' with
  | nil => exact hold
  | cons e es ih => exact ih (entryAfter_congr (hnow.answer e.actorId) hold)

theorem alike_sample (s : Store) (u : Usage) (id : String) :
    AlikeEntries [] (((Deed.sample u).table s).get? id) (s.tracked.get? id) := by
  rw [Deed.table, Store.get?_recordSample]
  split
  · cases s.tracked.get? id with
    | none => trivial
    | some c => exact { Container.Alike.refl [] c with }
  · exact AlikeEntries.refl [] _

/-! ### Events that follow a change of the host -/

def shown (settings : StoreSettings) (now : Option Container) : Option Container :=
  now.filter fun c => settings.filter.accepts c.labels

/-- The host changes some parts of a container, and an event that writes them comes last. -/
theorem replay_write {c d : Container} (same : c.Alike but d)
    (writes : settings.filter.accepts d.labels = true → ∀ x : Container, x.Alike but d →
      AlikeEntries [] (e.entryAfter settings (answer (some d) e.actorId) (some x)) (some d))
    (blank : settings.filter.accepts d.labels = false →
      e.entryAfter settings (answer (some d) e.actorId) none = none)
    (h : AlikeEntries [] (replay settings (some c) es old) (shown settings (some c))) :
    AlikeEntries [] (replay settings (some d) (es ++ [e]) old) (shown settings (some d)) := by
  rw [replay_append_singleton]
  -- What waits was looked at against `c`; against `d` it differs in the changed parts at most.
  have hr : AlikeEntries but (replay settings (some c) es old) (replay settings (some d) es old) :=
    replay_congr same (.refl but old)
  cases accepted : settings.filter.accepts d.labels with
  | true =>
    have hc : shown settings (some c) = some c := by simp [shown, same.labels, accepted]
    have hd : shown settings (some d) = some d := by simp [shown, accepted]
    rw [hc] at h
    rw [hd]
    cases hx : replay settings (some c) es old with
    | none => rw [hx] at h; exact h.elim
    | some x =>
      rw [hx] at h hr
      cases hy : replay settings (some d) es old with
      | none => rw [hy] at hr; exact hr.elim
      | some y =>
        rw [hy] at hr
        have hxc : x.Alike [] c := h
        have hxy : x.Alike but y := hr
        exact writes accepted y (hxy.symm.trans ((hxc.weaken but).trans same))
  | false =>
    have hc : shown settings (some c) = none := by simp [shown, same.labels, accepted]
    have hd : shown settings (some d) = none := by simp [shown, accepted]
    rw [hc] at h
    rw [hd]
    cases hx : replay settings (some c) es old with
    | some x => rw [hx] at h; exact h.elim
    | none =>
      rw [hx] at hr
      cases hy : replay settings (some d) es old with
      | some y => rw [hy] at hr; exact hr.elim
      | none => rw [blank accepted]; trivial

theorem replay_start {c d : Container} (kind : e.kind = .start) (same : c.Alike [.state] d)
    (h : AlikeEntries [] (replay settings (some c) es old) (shown settings (some c))) :
    AlikeEntries [] (replay settings (some d) (es ++ [e]) old) (shown settings (some d)) := by
  refine replay_write same (fun accepted x hx => ?_) (fun refused => ?_) h
  · simp only [ContainerEvent.entryAfter, kind, answer, accepted, if_true]
    exact { Container.Alike.refl [] d with }
  · simp [ContainerEvent.entryAfter, kind, answer, refused]

theorem replay_die {c d : Container} (kind : e.kind = .die) (same : c.Alike [.state] d)
    (exited : d.state = .exited)
    (h : AlikeEntries [] (replay settings (some c) es old) (shown settings (some c))) :
    AlikeEntries [] (replay settings (some d) (es ++ [e]) old) (shown settings (some d)) := by
  refine replay_write same (fun accepted x hx => ?_) (fun refused => ?_) h
  · simp only [ContainerEvent.entryAfter, kind, Option.map_some]
    have hb : (x.buried e.time).Alike [.state] d := { hx with state := Or.inl (by simp) }
    exact hb.settle (by simp) (by simp) (by simp) (fun _ => exited.symm) (by simp) (by simp)
  · simp [ContainerEvent.entryAfter, kind]

theorem replay_health {c d : Container} {status : Health} (kind : e.kind = .health status)
    (same : c.Alike [.health] d) (health : d.health = some status)
    (h : AlikeEntries [] (replay settings (some c) es old) (shown settings (some c))) :
    AlikeEntries [] (replay settings (some d) (es ++ [e]) old) (shown settings (some d)) := by
  refine replay_write same (fun accepted x hx => ?_) (fun refused => ?_) h
  · simp only [ContainerEvent.entryAfter, kind, Option.map_some]
    have hb : ({ x with health := some status } : Container).Alike [.health] d :=
      { hx with health := Or.inl (by simp) }
    exact hb.settle (by simp) (by simp) (by simp) (by simp) (fun _ => health.symm) (by simp)
  · simp [ContainerEvent.entryAfter, kind]

theorem replay_rename {c d : Container} (kind : e.kind = .rename) (same : c.Alike [.name] d)
    (told : ∀ name, e.attributes.get? nameAttribute = some name →
      Store.wantedName name = d.name)
    (h : AlikeEntries [] (replay settings (some c) es old) (shown settings (some c))) :
    AlikeEntries [] (replay settings (some d) (es ++ [e]) old) (shown settings (some d)) := by
  have renamed : ∀ x : Container, x.Alike [.name] d → ∀ name, name = d.name →
      ({ x with name } : Container).Alike [] d := by
    intro x hx name hn
    have hb : ({ x with name } : Container).Alike [.name] d := { hx with name := Or.inl (by simp) }
    exact hb.settle (fun _ => hn) (by simp) (by simp) (by simp) (by simp) (by simp)
  refine replay_write same (fun accepted x hx => ?_) (fun refused => ?_) h
  · simp only [ContainerEvent.entryAfter, kind, answer]
    cases ha : e.attributes.get? nameAttribute with
    | some name => exact renamed x hx _ (told name ha)
    | none => exact renamed x hx _ rfl
  · simp only [ContainerEvent.entryAfter, kind, answer]
    cases e.attributes.get? nameAttribute <;> rfl

theorem replay_update {c d : Container} (kind : e.kind = .update)
    (same : c.Alike [.name, .image, .command, .state, .health, .tty] d)
    (h : AlikeEntries [] (replay settings (some c) es old) (shown settings (some c))) :
    AlikeEntries [] (replay settings (some d) (es ++ [e]) old) (shown settings (some d)) := by
  refine replay_write same (fun accepted x hx => ?_) (fun refused => ?_) h
  · simp only [ContainerEvent.entryAfter, kind, answer, Option.map_some]
    exact { Container.Alike.refl [] d with
      id := hx.id, created := hx.created, host := hx.host }
  · simp [ContainerEvent.entryAfter, kind, answer]

theorem replay_destroy (kind : e.kind = .destroy) :
    AlikeEntries [] (replay settings none (es ++ [e]) old) (shown settings none) := by
  rw [replay_append_singleton]
  simp only [ContainerEvent.entryAfter, kind]
  trivial

theorem isSome_entryAfter {d : Container} (refused : settings.filter.accepts d.labels = false)
    (h : old.isSome = old'.isSome) :
    (e.entryAfter settings (answer (some d) e.actorId) old).isSome =
      (e.entryAfter settings (answer none e.actorId) old').isSome := by
  cases hk : e.kind with
  | rename =>
    simp only [ContainerEvent.entryAfter, hk, answer]
    cases e.attributes.get? nameAttribute <;> simpa using h
  | _ => simp [ContainerEvent.entryAfter, hk, answer, refused, h]

theorem isSome_replay {d : Container} (refused : settings.filter.accepts d.labels = false)
    (h : old.isSome = old'.isSome) :
    (replay settings (some d) es old).isSome = (replay settings none es old').isSome := by
  induction es generalizing old old' with
  | nil => exact h
  | cons e es ih => exact ih (isSome_entryAfter refused h)

theorem replay_create {d : Container} (kind : e.kind = .create)
    (h : AlikeEntries [] (replay settings none es old) (shown settings none)) :
    AlikeEntries [] (replay settings (some d) (es ++ [e]) old) (shown settings (some d)) := by
  rw [replay_append_singleton]
  simp only [ContainerEvent.entryAfter, kind, answer, shown]
  cases accepted : settings.filter.accepts d.labels with
  | true =>
    simp only [Option.filter_some, accepted, if_true]
    exact { Container.Alike.refl [] d with }
  | false =>
    -- Inspects that meet the refused container leave the entry as it is, as failing ones do.
    have hs : (replay settings (some d) es old).isSome = (replay settings none es old).isSome :=
      isSome_replay accepted rfl
    cases hn : replay settings none es old with
    | some x => rw [hn] at h; exact h.elim
    | none =>
      rw [hn] at hs
      have hd : replay settings (some d) es old = none := by simpa using hs
      simp only [hd, Option.filter_some, accepted, Bool.false_eq_true, if_false]
      trivial

end ContainerWatch
