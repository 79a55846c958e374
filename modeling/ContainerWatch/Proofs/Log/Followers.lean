import ContainerWatch.Proofs.Log.Sources

/-!
Several sources at once. Each has a follower that moves what its pipeline hands out into the queue
that all of them share. Whatever the followers and the tasks of their pipelines do in whatever
order, what has gone into the queue from one source is a beginning of the output of that source.
-/

namespace ContainerWatch.Log

def ofContainer (container : String) (es : List Entry) : List Entry :=
  es.filter fun e => e.container = container

section OfContainer

variable {container : String} {es : List Entry}

@[simp] theorem ofContainer_append (container : String) (es more : List Entry) :
    ofContainer container (es ++ more) = ofContainer container es ++ ofContainer container more :=
  List.filter_append es more

theorem ofContainer_own (own : ∀ e ∈ es, e.container = container) :
    ofContainer container es = es :=
  List.filter_eq_self.mpr fun e he => by simpa using own e he

theorem ofContainer_foreign (foreign : ∀ e ∈ es, e.container ≠ container) :
    ofContainer container es = [] :=
  List.filter_eq_nil_iff.mpr fun e he => by simpa using foreign e he

end OfContainer

namespace FollowTask

def pipeline? : FollowTask → Option Pipeline
  | .following p | .holding p _ | .concluding p => some p
  | .unopened | .done => none

def withPipeline (q : Pipeline) : FollowTask → FollowTask
  | .following _ => .following q
  | .holding _ e => .holding q e
  | .concluding _ => .concluding q
  | task => task

variable {task : FollowTask} {p : Pipeline}

theorem withPipeline_self (runs : task.pipeline? = some p) : task.withPipeline p = task := by
  cases task with
  | following p' => exact congrArg following (Option.some.inj runs).symm
  | holding p' e => exact congrArg (holding · e) (Option.some.inj runs).symm
  | concluding p' => exact congrArg concluding (Option.some.inj runs).symm
  | unopened => rfl
  | done => rfl

theorem pipeline?_withPipeline (runs : task.pipeline? = some p) (q : Pipeline) :
    (task.withPipeline q).pipeline? = some q := by
  cases task with
  | following p' => rfl
  | holding p' e => rfl
  | concluding p' => rfl
  | unopened => simp [pipeline?] at runs
  | done => simp [pipeline?] at runs

@[simp] theorem withPipeline_withPipeline (task : FollowTask) (p q : Pipeline) :
    (task.withPipeline p).withPipeline q = task.withPipeline q := by
  cases task <;> rfl

theorem turn_eq_of_pipeline? (runs : task.pipeline? = some p) :
    Tail.FollowTask.turn task = task.withPipeline (Tail.turnPipeline p) := by
  cases task with
  | following p' => exact congrArg (fun p => following (Tail.turnPipeline p)) (Option.some.inj runs)
  | holding p' e =>
    exact congrArg (fun p => holding (Tail.turnPipeline p) e) (Option.some.inj runs)
  | concluding p' =>
    exact congrArg (fun p => concluding (Tail.turnPipeline p)) (Option.some.inj runs)
  | unopened => simp [pipeline?] at runs
  | done => simp [pipeline?] at runs

theorem turn_eq_of_none (runs : task.pipeline? = none) : Tail.FollowTask.turn task = task := by
  cases task <;> first | rfl | simp [pipeline?] at runs

end FollowTask

/-- More steps than it takes to follow a source to its end. -/
def Source.steps (s : Source) : Nat := 7 * (s.log.getD []).length + 19

namespace Follower

/-- How far a follower is that has sent the given entries. -/
def Reached (tuning : Tuning) (f : Follower) (sent : List Entry) : Prop :=
  match f.task with
  | .unopened => sent = []
  | .following p => ∃ bytes j, f.source.log = some bytes ∧
    Pipeline.Fed tuning f.source bytes j p ∧ j.taken = sent
  | .holding p e => ∃ bytes j, f.source.log = some bytes ∧
    Pipeline.Fed tuning f.source bytes j p ∧ j.taken = sent ++ [e]
  | .concluding p =>
    p.reading = .stopped ∧ p.grouping = .stopped ∧ sent = f.source.output tuning.window
  | .done => sent = f.source.output tuning.window

/-- More steps than a follower and the tasks of its pipeline will take. -/
def left (f : Follower) : Nat :=
  match f.task with
  | .unopened => f.source.steps
  | .following p => p.effort + 2
  | .holding p _ => p.effort + 3
  | .concluding _ => 1
  | .done => 0

variable {tuning : Tuning} {f : Follower} {sent : List Entry}

theorem Reached.isPrefix (h : f.Reached tuning sent) (patient : 1 ≤ tuning.peekTimeout) :
    sent <+: f.source.output tuning.window := by
  obtain ⟨source, task⟩ := f
  cases task with
  | unopened =>
    obtain rfl : sent = [] := h
    exact List.nil_prefix
  | following p =>
    obtain ⟨bytes, j, log, fed, rfl⟩ := h
    exact (List.prefix_append j.taken p.events).trans (fed.emitted log patient).1
  | holding p e =>
    obtain ⟨bytes, j, log, fed, taken⟩ := h
    have out := (List.prefix_append j.taken p.events).trans (fed.emitted log patient).1
    rw [taken] at out
    exact (List.prefix_append sent [e]).trans out
  | concluding p =>
    obtain ⟨-, -, rfl⟩ := h
    exact List.prefix_refl _
  | done =>
    obtain rfl : sent = source.output tuning.window := h
    exact List.prefix_refl _

theorem Reached.eq_output (h : f.Reached tuning sent) (finished : Tail.Follower.isDone f = true) :
    sent = f.source.output tuning.window := by
  obtain ⟨source, task⟩ := f
  cases task with
  | done => exact h
  | _ => simp [Tail.Follower.isDone] at finished

theorem container_of_taken {s : Source} {bytes : List UInt8} {j : Pipeline.Journal} {p : Pipeline}
    {e : Entry} (log : s.log = some bytes) (patient : 1 ≤ tuning.peekTimeout)
    (fed : Pipeline.Fed tuning s bytes j p) (taken : e ∈ j.taken) :
    e.container = s.container := by
  have out := (fed.emitted log patient).1.subset (List.mem_append_left p.events taken)
  exact (Source.container_of_output out).1

/-! ### The moving task -/

/-- What a step of a follower leaves: more in the queue, and less to do. -/
structure Advances (tuning : Tuning) (f : Follower) (queue : List Entry) (sent : List Entry)
    (r : Tail.Turn) : Prop where
  source : r.follower.source = f.source
  queue : ∃ more, r.queue = queue ++ more ∧ (∀ e ∈ more, e.container = f.source.container) ∧
    r.follower.Reached tuning (sent ++ more)
  left : r.follower.left < f.left

variable {capacity : Nat} {queue : List Entry} {notices : List Notice} {r : Tail.Turn}

theorem advances_alone (source : r.follower.source = f.source) (same : r.queue = queue)
    (reached : r.follower.Reached tuning sent) (less : r.follower.left < f.left) :
    f.Advances tuning queue sent r :=
  ⟨source, ⟨[], by rw [same, List.append_nil], by simp, by rwa [List.append_nil]⟩, less⟩

theorem advances_openLog (opening : f.task = .unopened) (h : f.Reached tuning sent) :
    f.Advances tuning queue sent (Tail.Turn.openLog ⟨f, queue, notices⟩ tuning) := by
  obtain ⟨s, task⟩ := f
  obtain rfl : task = .unopened := opening
  obtain rfl : sent = [] := h
  unfold Tail.Turn.openLog
  cases log : s.log with
  | none =>
    simp only
    refine advances_alone rfl rfl ?_ (by simp [left, Source.steps])
    simp [Reached, Source.output, log]
  | some bytes =>
    simp only
    refine advances_alone rfl rfl ⟨bytes, _, log, .start, rfl⟩ ?_
    have bound := Pipeline.effort_pipeline tuning s bytes
    simp only [left, Source.steps, log, Option.getD_some]
    exact Nat.lt_of_le_of_lt (Nat.add_le_add_right bound 2) (by omega)

theorem advances_send {s : Source} {bytes : List UInt8} {j : Pipeline.Journal} {p : Pipeline}
    {e : Entry} (source : f.source = s) (log : s.log = some bytes)
    (patient : 1 ≤ tuning.peekTimeout) (fed : Pipeline.Fed tuning s bytes j p)
    (taken : j.taken = sent ++ [e]) (less : p.effort + 3 < f.left ∨
      p.effort + 2 < f.left ∧ queue.length < capacity) :
    f.Advances tuning queue sent (Tail.Turn.send ⟨f, queue, notices⟩ capacity true p e) := by
  have own : e.container = s.container :=
    container_of_taken log patient fed (by simp [taken])
  unfold Tail.Turn.send
  simp only [not_true_eq_false, if_false]
  split
  · refine ⟨rfl, ⟨[e], rfl, by simpa [source] using own, bytes, j, ?_, ?_, taken⟩, ?_⟩
    · exact source ▸ log
    · exact source ▸ fed
    · show p.effort + 2 < f.left
      omega
  · next full =>
    refine advances_alone rfl rfl ⟨bytes, j, source ▸ log, source ▸ fed, taken⟩ ?_
    show p.effort + 3 < f.left
    omega

/-- A follower whose queue is received moves its events on in order. -/
theorem advances_step (h : f.Reached tuning sent) (patient : 1 ≤ tuning.peekTimeout)
    (moved : Tail.Turn.step? ⟨f, queue, notices⟩ tuning capacity true = some r) :
    f.Advances tuning queue sent r := by
  obtain ⟨s, task⟩ := f
  cases task with
  | unopened => exact Option.some.inj moved ▸ advances_openLog rfl h
  | following p =>
    obtain ⟨bytes, j, log, fed, rfl⟩ := h
    simp only [Tail.Turn.step?] at moved
    split at moved
    · next e q took =>
      have effort := Pipeline.effort_take took
      refine Option.some.inj moved ▸ advances_send rfl log patient (fed.take took) rfl (.inl ?_)
      simp only [left]
      omega
    · next none_ =>
      split at moved
      · next closed =>
        obtain ⟨events, stopped⟩ := Pipeline.isClosed_iff.mp closed
        have all := (fed.emitted log patient).2 stopped
        rw [Pipeline.Journal.emitted, events, List.append_nil] at all
        have ended : Reached tuning ⟨s, .concluding p.abandon⟩ j.taken :=
          ⟨fed.reading_of_stopped stopped, stopped, all⟩
        refine Option.some.inj moved ▸ advances_alone rfl rfl ended ?_
        simp only [left, Tail.Turn.continueAs]
        omega
      · simp at moved
  | holding p e =>
    obtain ⟨bytes, j, log, fed, taken⟩ := h
    simp only [Tail.Turn.step?] at moved
    split at moved
    · next room =>
      refine Option.some.inj moved ▸ advances_send rfl log patient fed taken (.inr ⟨?_, ?_⟩)
      · simp only [left]
        omega
      · simpa using room
    · simp at moved
  | concluding p =>
    obtain ⟨reading, grouping, rfl⟩ := h
    simp only [Tail.Turn.step?, reading, grouping] at moved
    exact Option.some.inj moved ▸ advances_alone rfl rfl rfl (by simp [left, Tail.Turn.continueAs])
  | done => simp [Tail.Turn.step?] at moved

/-! ### The tasks of the pipeline -/

theorem step?_of_stopped {p : Pipeline} (reading : p.reading = .stopped)
    (grouping : p.grouping = .stopped) (m : Move) : p.step? m = none := by
  cases m <;> simp [Pipeline.step?, reading, grouping]

theorem Reached.move {p q : Pipeline} {m : Move} (h : f.Reached tuning sent)
    (runs : f.task.pipeline? = some p) (moved : p.step? m = some q) :
    Reached tuning { f with task := f.task.withPipeline q } sent ∧
      left { f with task := f.task.withPipeline q } < f.left := by
  obtain ⟨s, task⟩ := f
  cases task with
  | unopened => simp [FollowTask.pipeline?] at runs
  | following p' =>
    obtain rfl : p' = p := Option.some.inj runs
    obtain ⟨bytes, j, log, fed, rfl⟩ := h
    have less := Pipeline.effort_lt fed.fixed.calm (Pipeline.step_of_step? moved)
    exact ⟨⟨bytes, _, log, fed.move m moved, rfl⟩, Nat.add_lt_add_right less 2⟩
  | holding p' e =>
    obtain rfl : p' = p := Option.some.inj runs
    obtain ⟨bytes, j, log, fed, taken⟩ := h
    have less := Pipeline.effort_lt fed.fixed.calm (Pipeline.step_of_step? moved)
    exact ⟨⟨bytes, _, log, fed.move m moved, taken⟩, Nat.add_lt_add_right less 3⟩
  | concluding p' =>
    obtain rfl : p' = p := Option.some.inj runs
    obtain ⟨reading, grouping, -⟩ := h
    simp [step?_of_stopped reading grouping] at moved
  | done => simp [FollowTask.pipeline?] at runs

theorem Reached.advance {p : Pipeline} (h : f.Reached tuning sent)
    (runs : f.task.pipeline? = some p) (ms : Nat) (idle : p.isAtRest = true) :
    Reached tuning { f with task := f.task.withPipeline (p.advance ms) } sent ∧
      left { f with task := f.task.withPipeline (p.advance ms) } = f.left := by
  obtain ⟨s, task⟩ := f
  cases task with
  | unopened => simp [FollowTask.pipeline?] at runs
  | following p' =>
    obtain rfl : p' = p := Option.some.inj runs
    obtain ⟨bytes, j, log, fed, rfl⟩ := h
    exact ⟨⟨bytes, j, log, fed.advance ms idle, rfl⟩, rfl⟩
  | holding p' e =>
    obtain rfl : p' = p := Option.some.inj runs
    obtain ⟨bytes, j, log, fed, taken⟩ := h
    exact ⟨⟨bytes, j, log, fed.advance ms idle, taken⟩, rfl⟩
  | concluding p' =>
    obtain rfl : p' = p := Option.some.inj runs
    exact ⟨h, rfl⟩
  | done => simp [FollowTask.pipeline?] at runs

/-- A follower that is not done can go on while there is room in the queue, by itself or through its
pipeline. -/
theorem Reached.movable (h : f.Reached tuning sent) (room : queue.length < capacity)
    (going : Tail.Follower.isDone f = false) :
    (∃ r, Tail.Turn.step? ⟨f, queue, notices⟩ tuning capacity true = some r) ∨
      ∃ p m q, f.task.pipeline? = some p ∧ p.step? m = some q := by
  obtain ⟨s, task⟩ := f
  cases task with
  | unopened => exact .inl ⟨_, rfl⟩
  | following p =>
    obtain ⟨bytes, j, log, fed, rfl⟩ := h
    simp only [Tail.Turn.step?]
    cases took : p.takeEvent? with
    | some eq => exact .inl ⟨_, rfl⟩
    | none =>
      cases closed : p.isClosed with
      | true => exact .inl ⟨_, if_pos rfl⟩
      | false =>
        have events : p.events = [] := by
          unfold Pipeline.takeEvent? at took
          split at took
          · next none_ => exact none_
          · simp at took
        obtain ⟨m, q, moved⟩ := fed.movable events closed
        exact .inr ⟨p, m, q, rfl, moved⟩
  | holding p e =>
    simp only [Tail.Turn.step?]
    exact .inl ⟨_, if_pos (.inr room)⟩
  | concluding p =>
    obtain ⟨reading, grouping, -⟩ := h
    exact .inl ⟨_, by simp only [Tail.Turn.step?, reading, grouping]; rfl⟩
  | done => simp [Tail.Follower.isDone] at going

end Follower

end ContainerWatch.Log
