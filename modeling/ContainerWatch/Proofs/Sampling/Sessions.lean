import ContainerWatch.Proofs.Sampling.Registry

/-!
Sessions and their samplers. Everything that happens to sampling is made of a few changes, and each
of them keeps what is true of sessions and registered samplers from the beginning: only the session
that runs has not been stopped, and a session ends only once it was.
-/

namespace ContainerWatch

theorem getElem?_concat {α : Type} {l : List α} {a t : α} {j : Nat} (h : (l ++ [a])[j]? = some t) :
    l[j]? = some t ∨ j = l.length ∧ t = a := by
  rw [List.getElem?_append] at h
  split at h
  · exact Or.inl h
  · next old =>
    rw [List.getElem?_singleton] at h
    split at h
    · exact Or.inr ⟨by omega, (Option.some.inj h).symm⟩
    · simp at h

namespace Sampling

/-- The ways in which sampling changes. -/
inductive Change : Sampling → Sampling → Prop
  | aside {s s' : Sampling} (current : s'.current = s.current) (sessions : s'.sessions = s.sessions)
    (cancelled : s'.cancelled = s.cancelled) (samplers : s'.samplers = s.samplers)
    (registered : s'.registered = s.registered) : Change s s'
  /-- A session goes on; it ends only if it was stopped. -/
  | session {s : Sampling} (m : Nat) {f : Session → Session}
    (stopped : ∀ t, (f t).stopped = t.stopped)
    (ended : ∀ t, (f t).phase = .ended → t.phase = .ended ∨ s.isStopped m = true) :
    Change s (s.onSession m f)
  | sampler {s : Sampling} (k : Nat) {f : Sampler → Sampler} (id : ∀ t, (f t).id = t.id)
    (session : ∀ t, (f t).session = t.session) (phase : ∀ t, (f t).phase ≠ .ended) :
    Change s (s.onSampler k f)
  | finish {s : Sampling} (k : Nat) : Change s (s.endSampler k)
  | add {s : Sampling} {m : Nat} (id : String) (known : m < s.sessions.length) :
    Change s (s.addSampler m id)
  | drop {s : Sampling} (id : String) : Change s (s.containerDied id)
  | openSession {s : Sampling} (idle : s.current = none) : Change s
      { s with
        current := some s.sessions.length
        sessions := s.sessions ++ [{ phase := .listing }] }
  | close (s : Sampling) : Change s s.forceStop
  | cancel (s : Sampling) : Change s s.cancel
  | trans {s t u : Sampling} (h : Change s t) (h' : Change t u) : Change s u

/-- What is true of sessions and registered samplers. -/
structure Orderly (s : Sampling) : Prop where
  current : ∀ m t, s.sessions[m]? = some t → t.stopped = false → s.current = some m
  running : ∀ n, s.current = some n → ∃ t, s.sessions[n]? = some t ∧ t.stopped = false
  ended : ∀ m t, s.sessions[m]? = some t → t.phase = .ended → s.isStopped m = true
  registry : s.Registry fun t => t.phase ≠ .ended ∧ t.session < s.sessions.length

variable {s s' t : Sampling} {id : String} {k m n : Nat}

/-! ### Stops -/

theorem isStopped_iff : s.isStopped n = true ↔
    s.cancelled = true ∨ ∃ t, s.sessions[n]? = some t ∧ t.stopped = true := by
  unfold isStopped
  cases s.sessions[n]? <;> simp

theorem isStopped_modify {f : Session → Session}
    (keeps : ∀ t, t.stopped = true → (f t).stopped = true)
    (sessions : s'.sessions = s.sessions.modify m f) (cancelled : s'.cancelled = s.cancelled)
    (stopped : s.isStopped n = true) : s'.isStopped n = true := by
  rw [isStopped_iff] at stopped ⊢
  rw [sessions, cancelled]
  refine stopped.imp (fun h => h) ?_
  rintro ⟨t, known, stopped⟩
  by_cases same : m = n
  · exact ⟨f t, by simp [same, known], keeps t stopped⟩
  · exact ⟨t, by simp [same, known], stopped⟩

theorem isStopped_congr (sessions : s'.sessions = s.sessions)
    (cancelled : s'.cancelled = s.cancelled) (n : Nat) : s'.isStopped n = s.isStopped n := by
  simp only [isStopped, sessions, cancelled]

theorem addSampler_sessions (m : Nat) (id : String) (s : Sampling) :
    (s.addSampler m id).sessions = s.sessions ∧ (s.addSampler m id).cancelled = s.cancelled ∧
      (s.addSampler m id).current = s.current := by
  unfold addSampler
  split <;> exact ⟨rfl, rfl, rfl⟩

theorem containerDied_sessions (id : String) (s : Sampling) :
    (s.containerDied id).sessions = s.sessions ∧ (s.containerDied id).cancelled = s.cancelled ∧
      (s.containerDied id).current = s.current := by
  unfold containerDied
  split <;> exact ⟨rfl, rfl, rfl⟩

theorem endSampler_sessions (k : Nat) (s : Sampling) :
    (s.endSampler k).sessions = s.sessions ∧ (s.endSampler k).cancelled = s.cancelled ∧
      (s.endSampler k).current = s.current := by
  unfold endSampler
  split <;> exact ⟨rfl, rfl, rfl⟩

theorem forceStop_sessions (s : Sampling) : s.forceStop.cancelled = s.cancelled ∧
    s.forceStop.current = none ∧ s.forceStop.registered = [] ∧
    s.forceStop.sessions = match s.current with
      | some n => s.sessions.modify n fun t => { t with stopped := true }
      | none => s.sessions := by
  unfold forceStop stopSession cancelSamplers note
  cases hc : s.current <;> simp [hc]

theorem isStopped_forceStop {t : Session} (current : s.current = some n)
    (known : s.sessions[n]? = some t) : s.forceStop.isStopped n = true := by
  obtain ⟨-, -, -, sessions⟩ := s.forceStop_sessions
  rw [current] at sessions
  rw [isStopped_iff, sessions]
  exact Or.inr ⟨{ t with stopped := true }, by simp [known], rfl⟩

theorem Change.onward (h : Change s s') (stopped : s.isStopped n = true) :
    s'.isStopped n = true := by
  induction h with
  | aside _ sessions cancelled _ _ => rwa [isStopped_congr sessions cancelled]
  | session m keeps _ => exact isStopped_modify (fun t ht => (keeps t).trans ht) rfl rfl stopped
  | sampler k _ _ _ => exact stopped
  | finish k =>
    obtain ⟨sessions, cancelled, -⟩ := endSampler_sessions k _
    rwa [isStopped_congr sessions cancelled]
  | add id _ =>
    obtain ⟨sessions, cancelled, -⟩ := addSampler_sessions _ id _
    rwa [isStopped_congr sessions cancelled]
  | drop id =>
    obtain ⟨sessions, cancelled, -⟩ := containerDied_sessions id _
    rwa [isStopped_congr sessions cancelled]
  | openSession _ =>
    rw [isStopped_iff] at stopped ⊢
    refine stopped.imp (fun h => h) ?_
    rintro ⟨t, known, stopped⟩
    have old := (List.getElem?_eq_some_iff.mp known).1
    exact ⟨t, (List.getElem?_append_left old).trans known, stopped⟩
  | close s =>
    obtain ⟨cancelled, -, -, sessions⟩ := forceStop_sessions s
    cases hc : s.current with
    | none =>
      rw [hc] at sessions
      rwa [isStopped_congr sessions cancelled]
    | some m =>
      rw [hc] at sessions
      exact isStopped_modify (fun _ _ => rfl) sessions cancelled stopped
  | cancel s => simp [isStopped, Sampling.cancel]
  | trans _ _ ih ih' => exact ih' (ih stopped)

/-! ### Order -/

theorem Orderly.of_sessions (h : Orderly s) (sessions : s'.sessions = s.sessions)
    (cancelled : s'.cancelled = s.cancelled) (current : s'.current = s.current)
    (registry : s'.Registry fun t => t.phase ≠ .ended ∧ t.session < s.sessions.length) :
    Orderly s' where
  current := by
    rw [sessions, current]
    exact h.current
  running := by
    rw [sessions, current]
    exact h.running
  ended m := by
    rw [sessions, isStopped_congr sessions cancelled]
    exact h.ended m
  registry := by
    rw [sessions]
    exact registry

theorem Orderly.onSession (h : Orderly s) {f : Session → Session}
    (stopped : ∀ t, (f t).stopped = t.stopped)
    (ended : ∀ t, (f t).phase = .ended → t.phase = .ended ∨ s.isStopped m = true) :
    Orderly (s.onSession m f) := by
  have go : ∀ j t, (s.onSession m f).sessions[j]? = some t →
      ∃ u, s.sessions[j]? = some u ∧ t.stopped = u.stopped ∧
        (t.phase = .ended → u.phase = .ended ∨ s.isStopped j = true) := by
    intro j t known
    simp only [Sampling.onSession, List.getElem?_modify] at known
    obtain ⟨u, old, rfl⟩ := Option.map_eq_some_iff.mp known
    refine ⟨u, old, ?_⟩
    split
    · next same => exact ⟨stopped u, same ▸ ended u⟩
    · exact ⟨rfl, Or.inl⟩
  refine ⟨?_, ?_, ?_, ?_⟩
  · intro j t known running
    obtain ⟨u, known, same, -⟩ := go j t known
    exact h.current j u known (same ▸ running)
  · intro n current
    obtain ⟨u, known, running⟩ := h.running n current
    by_cases same : m = n
    · exact ⟨f u, by simp [Sampling.onSession, same, known], (stopped u).trans running⟩
    · exact ⟨u, by simp [Sampling.onSession, same, known], running⟩
  · intro j t known finished
    obtain ⟨u, old, -, before⟩ := go j t known
    exact (Change.session m stopped ended).onward ((before finished).elim (h.ended j u old) fun h => h)
  · exact h.registry.mono fun t property => by simpa [Sampling.onSession] using property

theorem Orderly.openSession (h : Orderly s) (idle : s.current = none) : Orderly
    { s with
      current := some s.sessions.length
      sessions := s.sessions ++ [{ phase := .listing }] } where
  current j t known running := by
    rcases getElem?_concat known with old | ⟨rfl, -⟩
    · have other := h.current j t old running
      simp [idle] at other
    · rfl
  running n current := by
    obtain rfl := Option.some.inj current
    exact ⟨_, List.getElem?_concat_length, rfl⟩
  ended j t known finished := by
    rcases getElem?_concat known with old | ⟨-, rfl⟩
    · exact (Change.openSession idle).onward (h.ended j t old finished)
    · simp at finished
  registry := h.registry.mono fun t property => by
    refine ⟨property.1, ?_⟩
    rw [List.length_append, List.length_singleton]
    exact Nat.lt_succ_of_lt property.2

theorem Orderly.stopped (h : Orderly s) {t : Session} (known : s.sessions[m]? = some t)
    (other : s.current ≠ some m) : t.stopped = true := by
  cases running : t.stopped with
  | true => rfl
  | false => exact absurd (h.current m t known running) other

theorem Orderly.close (h : Orderly s) : Orderly s.forceStop := by
  obtain ⟨cancelled, current, registered, sessions⟩ := s.forceStop_sessions
  have go : ∀ (j : Nat) (t : Session), s.forceStop.sessions[j]? = some t → t.stopped = true ∧
      ∃ u, s.sessions[j]? = some u ∧ t.phase = u.phase := by
    intro j t known
    rw [sessions] at known
    cases hc : s.current with
    | none =>
      simp only [hc] at known
      exact ⟨h.stopped known (by simp [hc]), t, known, rfl⟩
    | some n =>
      simp only [hc, List.getElem?_modify] at known
      obtain ⟨u, old, rfl⟩ := Option.map_eq_some_iff.mp known
      by_cases same : n = j
      · rw [if_pos same]
        exact ⟨rfl, u, old, rfl⟩
      · rw [if_neg same]
        exact ⟨h.stopped old (by simp [hc, same]), u, old, rfl⟩
  refine ⟨?_, ?_, ?_, ?_⟩
  · intro j t known running
    rw [(go j t known).1] at running
    simp at running
  · simp [current]
  · intro j t known finished
    rw [isStopped_iff]
    exact Or.inr ⟨t, known, (go j t known).1⟩
  · intro id k known
    rw [registered] at known
    simp at known

theorem Change.orderly (h : Change s s') (orderly : Orderly s) : Orderly s' := by
  induction h with
  | aside current sessions cancelled samplers registered =>
    refine orderly.of_sessions sessions cancelled current ?_
    intro id k known
    rw [registered] at known
    rw [samplers]
    exact orderly.registry id k known
  | session m stopped ended => exact orderly.onSession stopped ended
  | @sampler s k f named session phase =>
    refine orderly.of_sessions rfl rfl rfl (orderly.registry.onSampler fun t property => ?_)
    exact ⟨named t, phase t, (session t).symm ▸ property.2⟩
  | finish k =>
    obtain ⟨sessions, cancelled, current⟩ := endSampler_sessions k _
    exact orderly.of_sessions sessions cancelled current orderly.registry.endSampler
  | add id known =>
    obtain ⟨sessions, cancelled, current⟩ := addSampler_sessions _ id _
    exact orderly.of_sessions sessions cancelled current
      (orderly.registry.addSampler ⟨by simp, known⟩)
  | drop id =>
    obtain ⟨sessions, cancelled, current⟩ := containerDied_sessions id _
    exact orderly.of_sessions sessions cancelled current orderly.registry.containerDied
  | openSession idle => exact orderly.openSession idle
  | close s => exact orderly.close
  | cancel s =>
    refine ⟨orderly.current, orderly.running, ?_, orderly.registry⟩
    intro j t known finished
    simp [isStopped, Sampling.cancel]
  | trans _ _ ih ih' => exact ih' (ih orderly)

theorem orderly_ofSettings (settings : SamplingSettings) (filter : LabelFilter) :
    Orderly (ofSettings settings filter) where
  current j t known := by simp [ofSettings] at known
  running n current := by simp [ofSettings] at current
  ended j t known := by simp [ofSettings] at known
  registry id k known := by simp [ofSettings] at known

/-! ### Operations -/

theorem Change.refl (s : Sampling) : Change s s := .aside rfl rfl rfl rfl rfl

inductive Use (s : Sampling) : Sampling → Prop
  | start : Use s s.start.1
  | stop (now : Nat) : Use s (s.stop now)
  | forceStop : Use s s.forceStop
  | cancel : Use s s.cancel
  | subscribers (subscribers : Broadcast Usage) : Use s { s with subscribers }
  | notices (notices : List Notice) : Use s { s with notices }

theorem Use.change (h : s.Use s') : Change s s' := by
  cases h with
  | start =>
    unfold Sampling.start
    cases idle : s.current with
    | some n => exact .aside idle.symm rfl rfl rfl rfl
    | none => exact (Change.openSession idle).trans (.aside rfl rfl rfl rfl rfl)
  | stop now =>
    unfold Sampling.stop
    split <;> exact .aside rfl rfl rfl rfl rfl
  | forceStop => exact .close s
  | cancel => exact .cancel s
  | subscribers subscribers => exact .aside rfl rfl rfl rfl rfl
  | notices notices => exact .aside rfl rfl rfl rfl rfl

theorem Change.containerStarted (orderly : Orderly s) (id : String) :
    Change s (s.containerStarted id) := by
  unfold Sampling.containerStarted
  split
  · next n current =>
    obtain ⟨t, known, -⟩ := orderly.running n current
    exact .add id (List.getElem?_eq_some_iff.mp known).1
  · exact .refl s

theorem Change.startAll (orderly : Orderly s) (ids : List String) :
    Change s (ids.foldl (fun t id => t.containerStarted id) s) := by
  induction ids generalizing s with
  | nil => exact .refl s
  | cons id rest ih =>
    have started := Change.containerStarted orderly id
    exact started.trans (ih (started.orderly orderly))

theorem Change.addAll (known : m < s.sessions.length) (cs : List Container) :
    Change s (cs.foldl (fun s c => s.addSampler m c.id) s) := by
  induction cs generalizing s with
  | nil => exact .refl s
  | cons c rest ih =>
    refine (Change.add c.id known).trans (ih ?_)
    rwa [(addSampler_sessions m c.id s).1]

theorem Change.listed (known : m < s.sessions.length) (reply : Except HostFault (List Container)) :
    Change s (s.listed m reply) := by
  have relaying : Change s (s.onSession m fun t => { t with phase := .relaying }) :=
    .session m (fun _ => rfl) (by simp)
  unfold Sampling.listed
  cases reply with
  | ok cs => exact relaying.trans (.addAll (by simpa [onSession] using known) _)
  | error fault => exact relaying.trans (.aside rfl rfl rfl rfl rfl)

theorem Change.relay (relayed : s.relay? m = some s') : Change s s' := by
  unfold relay? at relayed
  split at relayed
  · next stopped queue known =>
    split at relayed
    · next finished =>
      exact Option.some.inj relayed ▸ .session m (fun _ => rfl) fun _ _ => Or.inr finished
    · split at relayed
      · simp at relayed
      · next x rest =>
        have taken : Change s (s.onSession m fun t => { t with queue := rest }) :=
          .session m (fun _ => rfl) fun _ finished => Or.inl finished
        exact Option.some.inj relayed ▸ taken.trans (.aside rfl rfl rfl rfl rfl)
  · simp at relayed

theorem Change.opened (k : Nat) (reply : Except HostFault (List Usage)) :
    Change s (s.opened k reply) := by
  unfold Sampling.opened
  cases reply with
  | ok samples => exact .sampler k (fun _ => rfl) (fun _ => rfl) (by simp)
  | error fault => exact (Change.aside rfl rfl rfl rfl rfl : Change s (s.note _)).trans (.finish k)

theorem Change.send (sent : s.send? k = some s') : Change s s' := by
  unfold send? at sent
  split at sent
  · exact Option.some.inj sent ▸ .sampler k (fun _ => rfl) (fun _ => rfl) (by simp)
  · next id session cancelled x rest known =>
    split at sent
    · exact Option.some.inj sent ▸ .finish k
    · simp only at sent
      split at sent
      · have queued : Change s (s.onSession session fun t => { t with queue := t.queue ++ [x] }) :=
          .session session (fun _ => rfl) fun _ finished => Or.inl finished
        exact Option.some.inj sent ▸
          queued.trans (.sampler k (fun _ => rfl) (fun _ => rfl) (by simp))
      · simp at sent
  · simp at sent

theorem Change.conclude (concluded : s.conclude? k = some s') : Change s s' := by
  unfold conclude? at concluded
  split at concluded
  · split at concluded
    · split at concluded
      · exact Option.some.inj concluded ▸ .finish k
      · simp at concluded
    · simp at concluded
  · simp at concluded

theorem Change.expire (s : Sampling) : Change s s.expire := by
  have idle : Change s { s with deadline := none } := .aside rfl rfl rfl rfl rfl
  unfold Sampling.expire
  simp only
  split
  · exact idle.trans (.close _)
  · exact idle

end Sampling

/-- The tasks of sampling change it in no other way. -/
theorem SampledHost.change {w v : SampledHost} {now : Nat} {t : SamplingTask}
    (moved : w.step? now t = some v) : Sampling.Change w.sampling v.sampling := by
  cases t with
  | idleTimer =>
    simp only [step?, stepTimer?] at moved
    split at moved
    · split at moved
      · exact Option.some.inj moved ▸ .expire _
      · simp at moved
    · simp at moved
  | session n =>
    simp only [step?, stepSession?] at moved
    split at moved
    · next stopped queue known =>
      exact Option.some.inj moved ▸ .listed (List.getElem?_eq_some_iff.mp known).1 _
    · obtain ⟨s, relayed, rfl⟩ := Option.map_eq_some_iff.mp moved
      exact .relay relayed
  | sampler k =>
    simp only [step?, stepSampler?] at moved
    split at moved
    · exact Option.some.inj moved ▸ .opened k _
    · obtain ⟨s, concluded, rfl⟩ := Option.map_eq_some_iff.mp moved
      exact .conclude concluded
    · obtain ⟨s, sent, rfl⟩ := Option.map_eq_some_iff.mp moved
      exact .send sent
  | watchers =>
    simp only [step?, stepWatchers?] at moved
    split at moved
    · exact Option.some.inj moved ▸ .aside rfl rfl rfl rfl rfl
    · simp at moved

end ContainerWatch
