import ContainerWatch.Proofs.Sampling.Sessions

/-!
Samplers of a session that nobody stops. Once its samplers are at rest, a sampler comes when its
container is started and goes when its container is dead, or when the host refuses to sample; no
other step of sampling takes one away.
-/

namespace ContainerWatch

def SampledHost.refuses (w : SampledHost) (t : SamplingTask) (id : String) : Bool :=
  match t with
  | .sampler k =>
    match w.sampling.samplers[k]? with
    | some { phase := .opening, id := own, .. } =>
      id = own && w.sampling.registered.get? own = some k && w.host.failingSamplers.contains own
    | _ => false
  | _ => false

namespace Sampling

/-- A session runs, and all registered samplers are its own. -/
structure Engaged (n : Nat) (s : Sampling) : Prop where
  current : s.current = some n
  alive : s.cancelled = false
  relaying : ∃ t, s.sessions[n]? = some t ∧ t.stopped = false ∧ t.phase = .relaying
  listed : ∀ (m : Nat) (t : Session), s.sessions[m]? = some t → t.phase ≠ .listing
  registry : s.Registry fun t => t.phase ≠ .ended ∧ t.session = n ∧ t.cancelled = false

/-- Sampling goes on, with the containers that a condition leaves, unless its session is stopped. -/
def GoesOn (n : Nat) (s s' : Sampling) (left : String → Prop) : Prop :=
  s'.isStopped n = true ∨ Engaged n s' ∧ ∀ id, id ∈ s'.ids ↔ id ∈ s.ids ∧ left id

namespace Engaged

variable {n m k : Nat} {s s' : Sampling} {w : SampledHost} {id : String}

theorem isStopped (h : Engaged n s) : s.isStopped n = false := by
  obtain ⟨t, known, running, -⟩ := h.relaying
  simp [Sampling.isStopped, h.alive, known, running]

theorem hasEnded (h : Engaged n s) : s.hasEnded n = false := by
  obtain ⟨t, known, -, relaying⟩ := h.relaying
  simp [Sampling.hasEnded, known, relaying]

theorem of_sessions (h : Engaged n s) (sessions : s'.sessions = s.sessions)
    (cancelled : s'.cancelled = s.cancelled) (current : s'.current = s.current)
    (registry : s'.Registry fun t => t.phase ≠ .ended ∧ t.session = n ∧ t.cancelled = false) :
    Engaged n s' where
  current := current.trans h.current
  alive := cancelled.trans h.alive
  relaying := by
    rw [sessions]
    exact h.relaying
  listed := by
    rw [sessions]
    exact h.listed
  registry := registry

theorem aside (h : Engaged n s) (sessions : s'.sessions = s.sessions)
    (cancelled : s'.cancelled = s.cancelled) (current : s'.current = s.current)
    (samplers : s'.samplers = s.samplers) (registered : s'.registered = s.registered) :
    Engaged n s' := by
  refine h.of_sessions sessions cancelled current ?_
  intro id k known
  rw [registered] at known
  rw [samplers]
  exact h.registry id k known

theorem onSession (h : Engaged n s) {f : Session → Session}
    (stopped : ∀ t, (f t).stopped = t.stopped)
    (listing : ∀ t, t.phase ≠ .listing → (f t).phase ≠ .listing)
    (relaying : m = n → ∀ t, t.phase = .relaying → (f t).phase = .relaying) :
    Engaged n (s.onSession m f) where
  current := h.current
  alive := h.alive
  relaying := by
    obtain ⟨t, known, running, phase⟩ := h.relaying
    by_cases same : m = n
    · refine ⟨f t, ?_, (stopped t).trans running, relaying same t phase⟩
      simp [Sampling.onSession, same, known]
    · exact ⟨t, by simp [Sampling.onSession, same, known], running, phase⟩
  listed j t known := by
    simp only [Sampling.onSession, List.getElem?_modify] at known
    obtain ⟨u, old, rfl⟩ := Option.map_eq_some_iff.mp known
    split
    · exact listing u (h.listed j u old)
    · exact h.listed j u old
  registry := h.registry

theorem addSampler (h : Engaged n s) (id : String) : Engaged n (s.addSampler n id) := by
  obtain ⟨sessions, cancelled, current⟩ := addSampler_sessions n id s
  exact h.of_sessions sessions cancelled current (h.registry.addSampler ⟨by simp, rfl, rfl⟩)

theorem containerStarted (h : Engaged n s) (id : String) : Engaged n (s.containerStarted id) := by
  simp only [Sampling.containerStarted, h.current]
  exact h.addSampler id

theorem mem_ids_containerStarted (h : Engaged n s) {other : String} :
    other ∈ (s.containerStarted id).ids ↔ other ∈ s.ids ∨ other = id := by
  simp only [Sampling.containerStarted, h.current]
  exact mem_ids_addSampler

theorem startAll (h : Engaged n s) (ids : List String) :
    Engaged n (ids.foldl (fun t id => t.containerStarted id) s) ∧
      ∀ id, id ∈ (ids.foldl (fun t id => t.containerStarted id) s).ids ↔ id ∈ s.ids ∨ id ∈ ids := by
  induction ids generalizing s with
  | nil => simpa using h
  | cons first rest ih =>
    obtain ⟨engaged, sampled⟩ := ih (h.containerStarted first)
    refine ⟨engaged, fun id => (sampled id).trans ?_⟩
    rw [h.mem_ids_containerStarted, List.mem_cons, or_assoc]

theorem containerDied (h : Engaged n s) (id : String) : Engaged n (s.containerDied id) := by
  obtain ⟨sessions, cancelled, current⟩ := containerDied_sessions id s
  exact h.of_sessions sessions cancelled current h.registry.containerDied

theorem endSampler (h : Engaged n s) (k : Nat) : Engaged n (s.endSampler k) := by
  obtain ⟨sessions, cancelled, current⟩ := endSampler_sessions k s
  exact h.of_sessions sessions cancelled current h.registry.endSampler

theorem onSampler (h : Engaged n s) {f : Sampler → Sampler} (named : ∀ t, (f t).id = t.id)
    (session : ∀ t, (f t).session = t.session) (cancelled : ∀ t, (f t).cancelled = t.cancelled)
    (phase : ∀ t, (f t).phase ≠ .ended) : Engaged n (s.onSampler k f) :=
  h.of_sessions rfl rfl rfl (h.registry.onSampler fun t property =>
    ⟨named t, phase t, (session t).trans property.2.1, (cancelled t).trans property.2.2⟩)

/-- A sampler that is over, and that no container has, takes nothing away. -/
theorem endSampler_stray (h : Engaged n s) {t : Sampler} (sampler : s.samplers[k]? = some t)
    (stray : s.registered.get? t.id ≠ some k) : s.GoesOn n (s.endSampler k) fun _ => True := by
  refine Or.inr ⟨h.endSampler k, fun id => ?_⟩
  rw [mem_ids_endSampler sampler]
  simp [stray]

theorem own (h : Engaged n s) {t : Sampler} (sampler : s.samplers[k]? = some t)
    (own : s.registered.get? t.id = some k) : t.session = n ∧ t.cancelled = false := by
  obtain ⟨u, sampler', -, -, property⟩ := h.registry t.id k own
  obtain rfl := Option.some.inj (sampler.symm.trans sampler')
  exact property

/-! ### The tasks of sampling -/

theorem goesOn_aside (h : Engaged n s) (sessions : s'.sessions = s.sessions)
    (cancelled : s'.cancelled = s.cancelled) (current : s'.current = s.current)
    (samplers : s'.samplers = s.samplers) (registered : s'.registered = s.registered) :
    s.GoesOn n s' fun _ => True :=
  Or.inr ⟨h.aside sessions cancelled current samplers registered, fun id => by
    simp [ids, registered]⟩

theorem isStopped_forceStop (h : Engaged n s) : s.forceStop.isStopped n = true := by
  obtain ⟨t, known, -⟩ := h.relaying
  exact Sampling.isStopped_forceStop h.current known

theorem expire (h : Engaged n s) : s.GoesOn n s.expire fun _ => True := by
  unfold Sampling.expire
  simp only
  split
  · have idle : Engaged n { s with deadline := none } := h.aside rfl rfl rfl rfl rfl
    exact Or.inl idle.isStopped_forceStop
  · exact h.goesOn_aside rfl rfl rfl rfl rfl

theorem onQueue (h : Engaged n s) (m : Nat) (f : List Usage → List Usage) :
    Engaged n (s.onSession m fun t => { t with queue := f t.queue }) :=
  h.onSession (fun _ => rfl) (fun _ phase => phase) fun _ _ phase => phase

theorem relay (h : Engaged n s) (relayed : s.relay? m = some s') :
    s.GoesOn n s' fun _ => True := by
  unfold relay? at relayed
  split at relayed
  · split at relayed
    · next stopped =>
      obtain rfl := Option.some.inj relayed
      have finished : Engaged n (s.onSession m fun t => { t with phase := .ended, queue := [] }) := by
        refine h.onSession (fun _ => rfl) (by simp) ?_
        rintro rfl
        rw [h.isStopped] at stopped
        simp at stopped
      exact Or.inr ⟨finished, fun _ => by simp [ids, Sampling.onSession]⟩
    · split at relayed
      · simp at relayed
      · next x rest _ =>
        obtain rfl := Option.some.inj relayed
        exact Or.inr ⟨(h.onQueue m fun _ => rest).aside rfl rfl rfl rfl rfl,
          fun _ => by simp [ids, Sampling.onSession]⟩
  · simp at relayed

theorem opened (h : Engaged n w.sampling) {t : Sampler} (known : w.sampling.samplers[k]? = some t)
    (opening : ∀ i, w.refuses (.sampler k) i = (i = t.id &&
      w.sampling.registered.get? t.id = some k && w.host.failingSamplers.contains t.id)) :
    w.sampling.GoesOn n (w.sampling.opened k (w.host.sampling t.id)) fun i =>
      w.refuses (.sampler k) i = false := by
  unfold ScriptedHost.sampling Sampling.opened
  cases failing : w.host.failingSamplers.contains t.id with
  | false =>
    have served : ∀ i, w.refuses (.sampler k) i = false := by
      intro i
      rw [opening, failing, Bool.and_false]
    simp only [Bool.false_eq_true, if_false]
    refine Or.inr ⟨h.onSampler (fun _ => rfl) (fun _ => rfl) (fun _ => rfl) (by simp), fun i => ?_⟩
    simp [served, ids, Sampling.onSampler]
  | true =>
    have refused : ∀ i, w.refuses (.sampler k) i = false ↔
        ¬ (i = t.id ∧ w.sampling.registered.get? t.id = some k) := by
      intro i
      rw [opening, failing, Bool.and_true]
      simp
    simp only [if_true]
    have noted : Engaged n (w.sampling.note .samplerFailed) := h.aside rfl rfl rfl rfl rfl
    refine Or.inr ⟨noted.endSampler k, fun i => ?_⟩
    exact (mem_ids_endSampler (s := w.sampling.note .samplerFailed) known).trans
      (and_congr_right fun _ => (refused i).symm)

theorem send (h : Engaged n s) (sent : s.send? k = some s') : s.GoesOn n s' fun _ => True := by
  unfold send? at sent
  split at sent
  · obtain rfl := Option.some.inj sent
    refine Or.inr ⟨h.onSampler (fun _ => rfl) (fun _ => rfl) (fun _ => rfl) (by simp), fun _ => ?_⟩
    simp [ids, Sampling.onSampler]
  · next id session cancelled x rest known =>
    split at sent
    · next finished =>
      obtain rfl := Option.some.inj sent
      refine h.endSampler_stray known fun own => ?_
      obtain ⟨rfl, -⟩ := h.own known own
      rw [h.hasEnded] at finished
      simp at finished
    · simp only at sent
      split at sent
      · obtain rfl := Option.some.inj sent
        refine Or.inr ⟨(h.onQueue session (· ++ [x])).onSampler (fun _ => rfl) (fun _ => rfl)
          (fun _ => rfl) (by simp), fun _ => ?_⟩
        simp [ids, Sampling.onSampler, Sampling.onSession]
      · simp at sent
  · simp at sent

theorem conclude (h : Engaged n s) (concluded : s.conclude? k = some s') :
    s.GoesOn n s' fun _ => True := by
  unfold conclude? at concluded
  split at concluded
  · next t known =>
    split at concluded
    · split at concluded
      · next stopped =>
        obtain rfl := Option.some.inj concluded
        refine h.endSampler_stray known fun own => ?_
        obtain ⟨session, cancelled⟩ := h.own known own
        simp [isCancelled, session, cancelled, h.isStopped] at stopped
      · simp at concluded
    · simp at concluded
  · simp at concluded

/-- A step of sampling takes a container away only if the host refuses to sample it. -/
theorem step {v : SampledHost} {now : Nat} {t : SamplingTask} (h : Engaged n w.sampling)
    (moved : w.step? now t = some v) :
    w.sampling.GoesOn n v.sampling fun id => w.refuses t id = false := by
  cases t with
  | idleTimer =>
    simp only [SampledHost.step?, SampledHost.stepTimer?] at moved
    split at moved
    · split at moved
      · obtain rfl := Option.some.inj moved
        simpa [SampledHost.refuses, GoesOn] using h.expire
      · simp at moved
    · simp at moved
  | session m =>
    simp only [SampledHost.step?, SampledHost.stepSession?] at moved
    split at moved
    · next stopped queue known => exact absurd rfl (h.listed m _ known)
    · obtain ⟨s, relayed, rfl⟩ := Option.map_eq_some_iff.mp moved
      simpa [SampledHost.refuses, GoesOn] using h.relay relayed
  | sampler k =>
    simp only [SampledHost.step?, SampledHost.stepSampler?] at moved
    split at moved
    · next known =>
      obtain rfl := Option.some.inj moved
      exact h.opened known fun i => by simp [SampledHost.refuses, known]
    · next known =>
      obtain ⟨s, concluded, rfl⟩ := Option.map_eq_some_iff.mp moved
      simpa [SampledHost.refuses, known, GoesOn] using h.conclude concluded
    · next opening waiting =>
      obtain ⟨s, sent, rfl⟩ := Option.map_eq_some_iff.mp moved
      have none_ : ∀ i, w.refuses (.sampler k) i = false := by
        intro i
        simp only [SampledHost.refuses]
      simpa [none_, GoesOn] using h.send sent
  | watchers =>
    simp only [SampledHost.step?, SampledHost.stepWatchers?] at moved
    split at moved
    · obtain rfl := Option.some.inj moved
      have settled : w.sampling.GoesOn n
          { w.sampling with
            subscribers := w.sampling.subscribers.settle.1
            notices := w.sampling.notices ++ w.sampling.subscribers.settle.2 } fun _ => True :=
        h.goesOn_aside rfl rfl rfl rfl rfl
      simpa [SampledHost.refuses, GoesOn] using settled
    · simp at moved

theorem use (h : Engaged n s) (used : s.Use s') : s.GoesOn n s' fun _ => True := by
  cases used with
  | start =>
    have held : s.start.1 = { s with deadline := none, active := s.active + 1 } := by
      simp [start, h.current]
    rw [held]
    exact h.goesOn_aside rfl rfl rfl rfl rfl
  | stop now =>
    unfold stop
    split <;> exact h.goesOn_aside rfl rfl rfl rfl rfl
  | forceStop => exact Or.inl h.isStopped_forceStop
  | cancel => exact Or.inl (by simp [Sampling.isStopped, cancel])
  | subscribers subscribers => exact h.goesOn_aside rfl rfl rfl rfl rfl
  | notices notices => exact h.goesOn_aside rfl rfl rfl rfl rfl

end Engaged

/-! ### Sampling at rest -/

theorem step?_of_notMem_tasks {w : SampledHost} {now : Nat} {t : SamplingTask} (h : t ∉ w.tasks) :
    w.step? now t = none := by
  cases t with
  | idleTimer => simp [SampledHost.tasks] at h
  | watchers => simp [SampledHost.tasks] at h
  | session m =>
    have unknown : w.sampling.sessions[m]? = none := by simpa [SampledHost.tasks] using h
    simp [SampledHost.step?, SampledHost.stepSession?, unknown, relay?]
  | sampler k =>
    have unknown : w.sampling.samplers[k]? = none := by simpa [SampledHost.tasks] using h
    simp [SampledHost.step?, SampledHost.stepSampler?, unknown, send?]

theorem rest_of_tasks {w : SampledHost} {now : Nat}
    (h : (w.tasks.all fun t => (w.step? now t).isNone) = true) (t : SamplingTask) :
    w.step? now t = none := by
  by_cases known : t ∈ w.tasks
  · exact Option.isNone_iff_eq_none.mp (List.all_eq_true.mp h t known)
  · exact step?_of_notMem_tasks known

section Rest

variable {n k : Nat} {w : SampledHost} {now : Nat} (rest : ∀ t, w.step? now t = none)
include rest

theorem not_listing_of_rest (m : Nat) (t : Session) (known : w.sampling.sessions[m]? = some t) :
    t.phase ≠ .listing := by
  intro listing
  have still := rest (.session m)
  obtain ⟨stopped, phase, queue⟩ := t
  subst listing
  simp [SampledHost.step?, SampledHost.stepSession?, known] at still

theorem queue_of_rest {m : Nat} {t : Session} (known : w.sampling.sessions[m]? = some t)
    (relaying : t.phase = .relaying) :
    w.sampling.isStopped m = false ∧ t.queue = [] := by
  have still := rest (.session m)
  obtain ⟨stopped, phase, queue⟩ := t
  subst relaying
  simp only [SampledHost.step?, SampledHost.stepSession?, known, Option.map_eq_none_iff,
    relay?] at still
  cases stopped' : w.sampling.isStopped m with
  | true => simp [stopped'] at still
  | false =>
    cases queue with
    | nil => exact ⟨rfl, rfl⟩
    | cons x rest => simp [stopped'] at still

theorem send_of_rest {t : Sampler} {x : Usage} {left : List Usage}
    (known : w.sampling.samplers[k]? = some t) (sending : t.phase = .sending (x :: left))
    (session : t.session < w.sampling.sessions.length) : (w.sampling.send? k).isSome = true := by
  obtain ⟨u, opened⟩ : ∃ u, w.sampling.sessions[t.session]? = some u :=
    ⟨_, List.getElem?_eq_getElem session⟩
  obtain ⟨id, number, cancelled, phase⟩ := t
  subst sending
  cases finished : u.phase with
  | listing => exact absurd finished (not_listing_of_rest rest _ u opened)
  | ended =>
    have ended : w.sampling.hasEnded number = true := by simp [hasEnded, opened, finished]
    simp [send?, known, ended]
  | relaying =>
    have empty := (queue_of_rest rest opened finished).2
    have going : w.sampling.hasEnded number = false := by simp [hasEnded, opened, finished]
    have room : 0 < w.sampling.capacity := by
      unfold capacity
      omega
    simp [send?, known, going, opened, empty, room]

theorem waits_of_rest {t : Sampler} (known : w.sampling.samplers[k]? = some t)
    (going : t.phase ≠ .ended) (session : t.session < w.sampling.sessions.length) :
    w.sampling.isCancelled t = false := by
  have still := rest (.sampler k)
  cases phase : t.phase with
  | ended => exact absurd phase going
  | opening =>
    obtain ⟨id, number, cancelled, _⟩ := t
    subst phase
    simp [SampledHost.step?, SampledHost.stepSampler?, known] at still
  | sending left =>
    have sent : (w.sampling.send? k).isSome = true := by
      cases left with
      | nil =>
        obtain ⟨id, number, cancelled, _⟩ := t
        subst phase
        simp [send?, known]
      | cons x left => exact send_of_rest rest known phase session
    obtain ⟨id, number, cancelled, _⟩ := t
    subst phase
    obtain ⟨s, sent⟩ := Option.isSome_iff_exists.mp sent
    simp [SampledHost.step?, SampledHost.stepSampler?, known, sent] at still
  | waiting =>
    have concluded : w.sampling.conclude? k = none := by
      obtain ⟨id, number, cancelled, _⟩ := t
      subst phase
      simpa [SampledHost.step?, SampledHost.stepSampler?, known] using still
    simpa [conclude?, known, phase] using concluded

/-- When nothing moves, all registered samplers are those of the session that runs. -/
theorem Orderly.engaged (orderly : Orderly w.sampling) (current : w.sampling.current = some n)
    (alive : w.sampling.cancelled = false) : Engaged n w.sampling where
  current := current
  alive := alive
  listed := not_listing_of_rest rest
  relaying := by
    obtain ⟨t, known, running⟩ := orderly.running n current
    refine ⟨t, known, running, ?_⟩
    cases phase : t.phase with
    | listing => exact absurd phase (not_listing_of_rest rest n t known)
    | relaying => rfl
    | ended =>
      have stopped := orderly.ended n t known phase
      simp [isStopped, alive, known, running] at stopped
  registry := by
    intro id k registered
    obtain ⟨t, known, named, going, session⟩ := orderly.registry id k registered
    have waits := waits_of_rest rest known going session
    obtain ⟨u, opened⟩ : ∃ u, w.sampling.sessions[t.session]? = some u :=
      ⟨_, List.getElem?_eq_getElem session⟩
    obtain ⟨cancelled, running⟩ : t.cancelled = false ∧ u.stopped = false := by
      simpa [isCancelled, isStopped, alive, opened] using waits
    have own := orderly.current t.session u opened running
    rw [current] at own
    exact ⟨t, known, named, going, (Option.some.inj own).symm, cancelled⟩

end Rest

end Sampling

end ContainerWatch
