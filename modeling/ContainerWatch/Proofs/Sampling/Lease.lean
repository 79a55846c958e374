import ContainerWatch.Proofs.Sampling.Engaged

/-!
What the references, the idle time and the session depend on. Of the tasks of sampling only the idle
timer bears on them; the end that it makes of a session reaches every sampler.
-/

namespace ContainerWatch

/-- Who holds the session that runs, and how long it lasts. -/
structure Lease where
  idleTimeout : Nat
  active : Nat
  current : Option Nat
  deadline : Option Nat
  cancelled : Bool

namespace Sampling

variable {s s' : Sampling} {k m : Nat} {id : String}

def lease (s : Sampling) : Lease :=
  ⟨s.settings.idleTimeout, s.active, s.current, s.deadline, s.cancelled⟩

/-! ### What bears on the lease -/

theorem lease_start (s : Sampling) : s.start.1.lease =
    { s.lease with
      active := s.active + 1
      current := some (s.current.getD s.sessions.length)
      deadline := none } := by
  unfold start
  cases current : s.current <;> simp [lease, note, current]

theorem lease_stop (now : Nat) (s : Sampling) : (s.stop now).lease =
    { s.lease with
      active := s.active - 1
      deadline := if 1 < s.active then s.deadline else some (now + s.settings.idleTimeout) } := by
  unfold stop
  split <;> rfl

theorem lease_expire (s : Sampling) : s.expire.lease =
    { s.lease with
      current := if s.active = 0 then none else s.current
      deadline := none } := by
  unfold expire forceStop stopSession cancelSamplers
  by_cases nobody : s.active = 0 <;> cases current : s.current <;>
    simp [lease, note, nobody, current]

/-! ### What leaves it alone -/

theorem lease_addSampler (m : Nat) (id : String) (s : Sampling) :
    (s.addSampler m id).lease = s.lease := by
  unfold addSampler
  split <;> rfl

theorem lease_endSampler (k : Nat) (s : Sampling) : (s.endSampler k).lease = s.lease := by
  unfold endSampler
  split <;> rfl

theorem lease_containerStarted (id : String) (s : Sampling) :
    (s.containerStarted id).lease = s.lease := by
  unfold containerStarted
  split
  · exact lease_addSampler _ id s
  · rfl

theorem lease_startAll (ids : List String) (s : Sampling) :
    (ids.foldl (fun t id => t.containerStarted id) s).lease = s.lease := by
  induction ids generalizing s with
  | nil => rfl
  | cons id rest ih => exact (ih _).trans (lease_containerStarted id s)

theorem lease_containerDied (id : String) (s : Sampling) :
    (s.containerDied id).lease = s.lease := by
  unfold containerDied
  split <;> rfl

theorem lease_listed (m : Nat) (reply : Except HostFault (List Container)) (s : Sampling) :
    (s.listed m reply).lease = s.lease := by
  have addAll (cs : List Container) (t : Sampling) :
      (cs.foldl (fun s c => s.addSampler m c.id) t).lease = t.lease := by
    induction cs generalizing t with
    | nil => rfl
    | cons c rest ih => exact (ih _).trans (lease_addSampler m c.id t)
  cases reply with
  | ok cs => exact addAll _ _
  | error fault => rfl

theorem lease_relay? (relayed : s.relay? m = some s') : s'.lease = s.lease := by
  unfold relay? at relayed
  split at relayed
  · split at relayed
    · exact Option.some.inj relayed ▸ rfl
    · split at relayed
      · simp at relayed
      · exact Option.some.inj relayed ▸ rfl
  · simp at relayed

theorem lease_opened (k : Nat) (reply : Except HostFault (List Usage)) (s : Sampling) :
    (s.opened k reply).lease = s.lease := by
  cases reply with
  | ok samples => rfl
  | error fault => exact lease_endSampler k _

theorem lease_send? (sent : s.send? k = some s') : s'.lease = s.lease := by
  unfold send? at sent
  split at sent
  · exact Option.some.inj sent ▸ rfl
  · split at sent
    · exact Option.some.inj sent ▸ lease_endSampler k s
    · simp only at sent
      split at sent
      · exact Option.some.inj sent ▸ rfl
      · simp at sent
  · simp at sent

theorem lease_conclude? (concluded : s.conclude? k = some s') : s'.lease = s.lease := by
  unfold conclude? at concluded
  split at concluded
  · split at concluded
    · split at concluded
      · exact Option.some.inj concluded ▸ lease_endSampler k s
      · simp at concluded
    · simp at concluded
  · simp at concluded

end Sampling

theorem SampledHost.lease_of_step {now : Nat} {w v : SampledHost} {t : SamplingTask}
    (moved : w.step? now t = some v) (other : t ≠ .idleTimer) :
    v.sampling.lease = w.sampling.lease := by
  cases t with
  | idleTimer => exact absurd rfl other
  | session n =>
    simp only [step?, stepSession?] at moved
    split at moved
    · exact Option.some.inj moved ▸ Sampling.lease_listed n _ w.sampling
    · obtain ⟨s, relayed, rfl⟩ := Option.map_eq_some_iff.mp moved
      exact Sampling.lease_relay? relayed
  | sampler k =>
    simp only [step?, stepSampler?] at moved
    split at moved
    · exact Option.some.inj moved ▸ Sampling.lease_opened k _ w.sampling
    · obtain ⟨s, concluded, rfl⟩ := Option.map_eq_some_iff.mp moved
      exact Sampling.lease_conclude? concluded
    · obtain ⟨s, sent, rfl⟩ := Option.map_eq_some_iff.mp moved
      exact Sampling.lease_send? sent
  | watchers =>
    simp only [step?, stepWatchers?] at moved
    split at moved
    · exact Option.some.inj moved ▸ rfl
    · simp at moved

theorem SampledHost.step?_idleTimer {now : Nat} {w v : SampledHost} :
    w.step? now .idleTimer = some v ↔
      (∃ d, w.sampling.deadline = some d ∧ d ≤ now) ∧
        v = { w with sampling := w.sampling.expire } := by
  simp only [step?, stepTimer?]
  cases w.sampling.deadline with
  | none => simp
  | some d =>
    by_cases due : d ≤ now
    · simp [due, eq_comm]
    · simp [due]

namespace Sampling

variable {s s' : Sampling} {k m : Nat}

/-! ### Samplers and their sessions -/

/-- Every sampler, registered or not, belongs to a session. -/
def Owned (s : Sampling) : Prop := ∀ n ∈ s.samplers.map (·.session), n < s.sessions.length

theorem map_session_modify {f : Sampler → Sampler} (session : ∀ t, (f t).session = t.session)
    (k : Nat) (ts : List Sampler) : (ts.modify k f).map (·.session) = ts.map (·.session) := by
  refine List.ext_getElem? fun j => ?_
  simp only [List.getElem?_map, List.getElem?_modify]
  cases ts[j]? with
  | none => rfl
  | some t =>
    simp only [Option.map_eq_map, Option.map_some]
    split
    · rw [session]
    · rfl

theorem map_session_cancelSamplers (numbers : List Nat) (s : Sampling) :
    (s.cancelSamplers numbers).samplers.map (·.session) = s.samplers.map (·.session) := by
  have stays (ts : List Sampler) :
      (numbers.foldl (fun ts k => ts.modify k fun t => { t with cancelled := true }) ts).map
        (·.session) = ts.map (·.session) := by
    induction numbers generalizing ts with
    | nil => rfl
    | cons k rest ih => exact (ih _).trans (map_session_modify (by exact fun _ => rfl) k ts)
  exact stays s.samplers

theorem Owned.congr (owned : Owned s)
    (samplers : s'.samplers.map (·.session) = s.samplers.map (·.session))
    (sessions : s'.sessions.length = s.sessions.length) : Owned s' := by
  unfold Owned
  rw [samplers, sessions]
  exact owned

theorem Change.owned (h : Change s s') (owned : Owned s) : Owned s' := by
  induction h with
  | aside _ sessions _ samplers _ =>
    exact owned.congr (by rw [samplers]) (by rw [sessions])
  | session m _ _ => exact owned.congr rfl (List.length_modify ..)
  | sampler k _ session _ => exact owned.congr (map_session_modify session k _) rfl
  | finish k =>
    unfold endSampler
    split
    · exact owned.congr (map_session_modify (by exact fun _ => rfl) k _) rfl
    · exact owned
  | @add s m id known =>
    unfold addSampler
    split
    · exact owned
    · intro n found
      rw [List.map_append, List.mem_append] at found
      rcases found with old | new
      · exact owned n old
      · obtain rfl := List.mem_singleton.mp new
        exact known
  | drop id =>
    unfold containerDied
    split
    · exact owned.congr (map_session_cancelSamplers _ _) rfl
    · exact owned
  | openSession _ =>
    intro n found
    rw [List.length_append]
    exact Nat.lt_of_lt_of_le (owned n found) (Nat.le_add_right _ _)
  | close s =>
    refine owned.congr ((map_session_cancelSamplers _ _).trans ?_) ?_
    · unfold stopSession note
      cases s.current <;> rfl
    · rw [(forceStop_sessions s).2.2.2]
      cases s.current with
      | none => rfl
      | some n => exact List.length_modify ..
  | cancel s => exact owned
  | trans _ _ ih ih' => exact ih' (ih owned)

theorem Orderly.torn (orderly : Orderly s) (owned : Owned s) (ended : s.current = none) :
    (∀ t ∈ s.sessions, t.stopped = true) ∧ ∀ t ∈ s.samplers, s.isCancelled t = true := by
  have stopped (t : Session) (member : t ∈ s.sessions) : t.stopped = true := by
    obtain ⟨n, known⟩ := List.getElem?_of_mem member
    exact orderly.stopped known (by simp [ended])
  refine ⟨stopped, fun t member => ?_⟩
  have opened := owned t.session (List.mem_map.mpr ⟨t, member, rfl⟩)
  have told : s.isStopped t.session = true :=
    isStopped_iff.mpr
      (Or.inr ⟨_, List.getElem?_eq_getElem opened, stopped _ (List.getElem_mem opened)⟩)
  simp [isCancelled, told]

/-- When nothing moves and no session runs, everything has ended. -/
theorem Orderly.gone {w : SampledHost} {now : Nat} (orderly : Orderly w.sampling)
    (owned : Owned w.sampling) (ended : w.sampling.current = none)
    (rest : ∀ t, w.step? now t = none) :
    w.sampling.ids = [] ∧ (∀ t ∈ w.sampling.sessions, t.phase = .ended) ∧
      ∀ t ∈ w.sampling.samplers, t.phase = .ended := by
  obtain ⟨stopped, cancelled⟩ := orderly.torn owned ended
  have samplers (t : Sampler) (member : t ∈ w.sampling.samplers) : t.phase = .ended := by
    obtain ⟨k, known⟩ := List.getElem?_of_mem member
    have opened := owned t.session (List.mem_map.mpr ⟨t, member, rfl⟩)
    cases phase : t.phase with
    | ended => rfl
    | _ =>
      have waits := waits_of_rest rest known (by simp [phase]) opened
      simp [cancelled t member] at waits
  refine ⟨List.eq_nil_iff_forall_not_mem.mpr fun id known => ?_, fun t member => ?_, samplers⟩
  · obtain ⟨k, registered⟩ := mem_ids.mp known
    obtain ⟨t, sampler, -, going, -⟩ := orderly.registry id k registered
    exact going (samplers t (List.mem_of_getElem? sampler))
  · obtain ⟨n, known⟩ := List.getElem?_of_mem member
    cases phase : t.phase with
    | ended => rfl
    | listing => exact absurd phase (not_listing_of_rest rest n t known)
    | relaying =>
      have going := (queue_of_rest rest known phase).1
      have told : w.sampling.isStopped n = true :=
        isStopped_iff.mpr (Or.inr ⟨t, known, stopped t member⟩)
      simp [told] at going

end Sampling

end ContainerWatch
