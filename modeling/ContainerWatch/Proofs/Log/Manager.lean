import ContainerWatch.Proofs.Log.Projection

/-!
A manager of followed containers. It starts rounds of sources, each into a queue of its own, and one
stop ends all rounds that it has started: they run under a token that the stop cancels, and later
rounds run under a new one. What a round gives of a container is what the source of that container
gives alone, whatever the other sources are and whatever has become of earlier rounds.
-/

namespace ContainerWatch.Log

def Tail.isClosed (t : Tail) : Bool := t.queue.isEmpty && t.followers.all Tail.Follower.isDone

/-- One start of a manager: the token it runs under, how far its followers are, what its receiver
has taken, and the number of steps that its tasks have made. -/
structure Round where
  token : Nat
  sources : List Source
  tail : Tail
  taken : List Entry := []
  worked : Nat := 0

/-- A manager: how it tunes pipelines, the token of the rounds that it starts now, and all rounds
that it has started. A token is cancelled once the manager has gone on to the next. -/
structure Manager where
  tuning : Tuning
  token : Nat := 0
  rounds : List Round := []

namespace Round

/-- What can happen to a round. Its tasks work and its receiver takes entries or goes away; time
passes for a pipeline at rest. Once its token is cancelled, each task may see that, or be ended
where it is. -/
inductive Step (cancelled : Prop) (r : Round) : Round → Prop
  | work {u} (works : r.tail.Works u) :
    Step cancelled r { r with tail := u, worked := r.worked + 1 }
  | take {e rest} (queue : r.tail.queue = e :: rest) :
    Step cancelled r { r with tail := { r.tail with queue := rest }, taken := r.taken ++ [e] }
  | pass {i f p} (ms : Nat) (found : r.tail.followers[i]? = some f)
    (runs : f.task.pipeline? = some p) (idle : p.isAtRest) :
    Step cancelled r { r with tail := r.tail.putPipeline i f (p.advance ms) }
  | dropReceiver : Step cancelled r { r with tail := r.tail.dropReceiver }
  | cancel {i f p} (ended : cancelled) (found : r.tail.followers[i]? = some f)
    (runs : f.task.pipeline? = some p) :
    Step cancelled r { r with tail := r.tail.putPipeline i f p.cancel }
  | leave {i f p} (ended : cancelled) (found : r.tail.followers[i]? = some f)
    (follows : f.task = .following p) :
    Step cancelled r { r with
      tail := r.tail.put i
        ⟨{ f with task := .concluding p.abandon }, r.tail.queue, r.tail.notices⟩ }
  | abort {i f} (ended : cancelled) (found : r.tail.followers[i]? = some f) :
    Step cancelled r { r with
      tail := r.tail.put i ⟨{ f with task := .done }, r.tail.queue, r.tail.notices⟩ }

/-- What a round that is neither stopped nor deserted keeps. -/
def Sound (tuning : Tuning) (r : Round) : Prop :=
  Tail.Merging tuning r.sources r.taken r.tail ∧
    r.worked + r.tail.left ≤ total Source.steps r.sources

variable {tuning : Tuning} {cancelled : Prop} {r r' : Round}

theorem Step.same (step : r.Step cancelled r') :
    r'.token = r.token ∧ r'.sources = r.sources := by
  cases step <;> exact ⟨rfl, rfl⟩

theorem Step.received (step : r.Step cancelled r') (received : r'.tail.received = true) :
    r.tail.received = true := by
  cases step with
  | work works => cases works <;> exact received
  | dropReceiver => simp [Tail.dropReceiver] at received
  | take _ => exact received
  | pass _ _ _ _ => exact received
  | cancel _ _ _ => exact received
  | leave _ _ _ => exact received
  | abort _ _ => exact received

theorem Step.sound (step : r.Step cancelled r') (live : ¬ cancelled)
    (received : r'.tail.received = true) (distinct : (r.sources.map (·.container)).Nodup)
    (patient : 1 ≤ tuning.peekTimeout) (h : r.Sound tuning) : r'.Sound tuning := by
  obtain ⟨merging, bound⟩ := h
  cases step with
  | work works =>
    obtain ⟨merging, less⟩ := merging.works distinct patient works
    refine ⟨merging, ?_⟩
    dsimp only
    omega
  | take queue => exact ⟨merging.take queue, bound⟩
  | pass ms found runs idle =>
    obtain ⟨merging, same⟩ := merging.pass distinct found runs ms idle
    exact ⟨merging, by rw [same]; exact bound⟩
  | dropReceiver => simp [Tail.dropReceiver] at received
  | cancel ended found runs => exact absurd ended live
  | leave ended found follows => exact absurd ended live
  | abort ended found => exact absurd ended live

/-- A round gives of each container what the source of that container gives alone. -/
structure Projects (tuning : Tuning) (r : Round) : Prop where
  /-- At any time a beginning of it has come. -/
  order : ∀ s ∈ r.sources,
    ofContainer s.container (r.taken ++ r.tail.queue) <+: s.output tuning.window
  /-- Nothing comes that is not of a source with a log. -/
  origin : ∀ e ∈ r.taken ++ r.tail.queue, ∃ s ∈ r.sources, s.log ≠ none ∧ e.container = s.container
  /-- When the queue is at its end, everything has come. -/
  whole : r.tail.isClosed = true →
    ∀ s ∈ r.sources, ofContainer s.container r.taken = s.output tuning.window
  /-- Until then, if the receiver has to wait, some task can go on. -/
  going : r.tail.queue = [] → r.tail.isClosed = false → ∃ u, r.tail.Works u
  /-- The tasks come to an end, whatever the order in which they work. -/
  bounded : r.worked ≤ total Source.steps r.sources
  /-- Taking turns and taking what comes leads to the end from here. -/
  drained : r.tail.readAll.2.isClosed = true ∧
    ∀ s ∈ r.sources,
      ofContainer s.container (r.taken ++ r.tail.readAll.1) = s.output tuning.window

theorem projects_of_sound (h : r.Sound tuning) (distinct : (r.sources.map (·.container)).Nodup)
    (patient : 1 ≤ tuning.peekTimeout) : r.Projects tuning := by
  obtain ⟨merging, bound⟩ := h
  have enough : r.tail.left + min 1 r.tail.queue.length < r.tail.fuel := by
    have more := merging.steps_lt_fuel
    omega
  obtain ⟨drained, empty, all⟩ := merging.collect distinct patient enough
  refine ⟨fun s hs => merging.isPrefix patient hs, fun e he => merging.foreign patient he,
    fun closed s hs => ?_, fun empty going => ?_, by omega, ?_, fun s hs => ?_⟩
  · simp only [Tail.isClosed, Bool.and_eq_true, List.isEmpty_iff] at closed
    have out := merging.finished closed.2 hs
    rwa [closed.1, List.append_nil] at out
  · obtain ⟨f, mem, open_⟩ : ∃ f ∈ r.tail.followers, Tail.Follower.isDone f = false := by
      simpa [Tail.isClosed, empty] using going
    obtain ⟨i, found⟩ := List.getElem?_of_mem mem
    exact (merging.ready empty mem open_).works found
  · simp only [Tail.isClosed, Bool.and_eq_true, List.isEmpty_iff]
    exact ⟨empty, all⟩
  · have out := drained.finished all hs
    rwa [empty, List.append_nil] at out

end Round

namespace Manager

def start (m : Manager) (capacity : Nat) (sources : List Source) : Manager :=
  { m with rounds := m.rounds ++
      [{ token := m.token, sources, tail := .start m.tuning capacity sources }] }

def stop (m : Manager) : Manager := { m with token := m.token + 1 }

inductive Run (tuning : Tuning) : Manager → Prop
  | fresh : Run tuning { tuning }
  | start {m} (capacity : Nat) (sources : List Source) (h : Run tuning m) :
    Run tuning (m.start capacity sources)
  | stop {m} (h : Run tuning m) : Run tuning m.stop
  | round {m k r r'} (known : m.rounds[k]? = some r) (step : r.Step (r.token < m.token) r')
    (h : Run tuning m) : Run tuning { m with rounds := m.rounds.set k r' }

/-- What all states of a manager have in common. -/
structure Standing (tuning : Tuning) (m : Manager) : Prop where
  tuned : m.tuning = tuning
  token_le : ∀ r ∈ m.rounds, r.token ≤ m.token
  sound : ∀ r ∈ m.rounds, r.token = m.token → r.tail.received = true →
    (r.sources.map (·.container)).Nodup → r.Sound tuning

variable {tuning : Tuning} {m : Manager} {r : Round}

theorem Standing.start (h : Standing tuning m) (capacity : Nat) (sources : List Source) :
    Standing tuning (m.start capacity sources) where
  tuned := h.tuned
  token_le r hr := by
    rcases List.mem_append.mp hr with old | new
    · exact h.token_le r old
    · obtain rfl := List.mem_singleton.mp new
      exact Nat.le_refl _
  sound r hr current received distinct := by
    rcases List.mem_append.mp hr with old | new
    · exact h.sound r old current received distinct
    · obtain rfl := List.mem_singleton.mp new
      rw [h.tuned]
      exact ⟨Tail.merging_start tuning capacity sources,
        by rw [Nat.zero_add]; exact Nat.le_of_eq (Tail.left_start tuning capacity sources)⟩

theorem Standing.stop (h : Standing tuning m) : Standing tuning m.stop where
  tuned := h.tuned
  token_le r hr := Nat.le_succ_of_le (h.token_le r hr)
  sound r hr current := by
    have old := h.token_le r hr
    rw [current] at old
    exact absurd old (Nat.not_succ_le_self m.token)

/-- A round that goes on changes no other, and no stop has reached it if it is current. -/
theorem Standing.round (h : Standing tuning m) (patient : 1 ≤ tuning.peekTimeout) {k : Nat}
    {r r' : Round} (known : m.rounds[k]? = some r) (step : r.Step (r.token < m.token) r') :
    Standing tuning { m with rounds := m.rounds.set k r' } where
  tuned := h.tuned
  token_le g hg := by
    rcases List.mem_or_eq_of_mem_set hg with old | rfl
    · exact h.token_le g old
    · rw [step.same.1]
      exact h.token_le r (List.mem_of_getElem? known)
  sound g hg current received distinct := by
    rcases List.mem_or_eq_of_mem_set hg with old | rfl
    · exact h.sound g old current received distinct
    · obtain ⟨token, sources⟩ := step.same
      rw [token] at current
      rw [sources] at distinct
      have live : ¬ r.token < m.token := current ▸ Nat.lt_irrefl m.token
      exact step.sound live received distinct patient
        (h.sound r (List.mem_of_getElem? known) current (step.received received) distinct)

theorem Run.standing (h : Run tuning m) (patient : 1 ≤ tuning.peekTimeout) :
    Standing tuning m := by
  induction h with
  | fresh => exact ⟨rfl, by simp, by simp⟩
  | start capacity sources h ih => exact ih.start capacity sources
  | stop h ih => exact ih.stop
  | round known step h ih => exact ih.round patient known step

/-- In every state of a manager, a round that is not stopped and whose receiver has not gone away
gives of each container what the source of that container gives alone. -/
theorem Run.projects (h : Run tuning m) (patient : 1 ≤ tuning.peekTimeout) (mem : r ∈ m.rounds)
    (current : r.token = m.token) (received : r.tail.received = true)
    (distinct : (r.sources.map (·.container)).Nodup) : r.Projects tuning :=
  Round.projects_of_sound ((h.standing patient).sound r mem current received distinct) distinct
    patient

def severalSources : List Source := [
  { container := "web", tty := true, log := some [97, 10, 98, 10] },
  { container := "ghost", tty := false, log := none },
  { container := "db", tty := false, log := some [1, 0, 0, 0, 0, 0, 0, 2, 99, 10, 1],
    ending := .broken "connection reset" }]

/-- A third round has begun to work after the first was stopped and the second has lost its
receiver. -/
theorem Run.projects_third : ∃ m r, Run {} m ∧ m.rounds[2]? = some r ∧
    m.rounds.map (·.token) = [0, 1, 1] ∧ m.rounds.map (·.tail.received) = [true, false, true] ∧
    r.sources = severalSources ∧ r.worked = 1 ∧ r.Projects {} ∧
    r.tail.readAll.1.map (·.container) = ["web", "web", "db"] := by
  have unused : Run {} { tuning := {} } := .fresh
  have started := (unused.start 4 severalSources).stop
  have aborted := started.round (k := 0) rfl (.abort (i := 1) Nat.zero_lt_one rfl)
  have deserted := (aborted.start 1 severalSources).round (k := 1) rfl .dropReceiver
  have third := (deserted.start 1 severalSources).round (k := 2) rfl
    (.work (.step (i := 0) rfl rfl))
  refine ⟨_, _, third, rfl, rfl, rfl, rfl, rfl, ?_, by decide +kernel⟩
  exact third.projects (by decide) (List.mem_of_getElem? (i := 2) rfl) rfl rfl (by decide)

end Manager

end ContainerWatch.Log
