import ContainerWatch.Proofs.Log.Followers

/-!
The queue that followers share. What it gives of one container is what the source of that container
gives alone, as long as somebody takes from it and the sources are of distinct containers. There is
always somebody who can go on until all followers are done, and they come to an end.
-/

namespace ContainerWatch.Log

namespace Tail

def put (t : Tail) (i : Nat) (r : Turn) : Tail :=
  { t with followers := t.followers.set i r.follower, queue := r.queue, notices := r.notices }

@[simp] theorem put_followers (t : Tail) (i : Nat) (r : Turn) :
    (t.put i r).followers = t.followers.set i r.follower := rfl

@[simp] theorem put_queue (t : Tail) (i : Nat) (r : Turn) : (t.put i r).queue = r.queue := rfl

def putPipeline (t : Tail) (i : Nat) (f : Follower) (q : Pipeline) : Tail :=
  t.put i ⟨{ f with task := f.task.withPipeline q }, t.queue, t.notices⟩

/-- One step of one of the tasks: of a follower, or in its pipeline. -/
inductive Works (t : Tail) : Tail → Prop
  | step {i f r} (found : t.followers[i]? = some f)
    (moved : Turn.step? ⟨f, t.queue, t.notices⟩ t.tuning t.capacity t.received = some r) :
    Works t (t.put i r)
  | move {i f p q} (m : Move) (found : t.followers[i]? = some f)
    (runs : f.task.pipeline? = some p) (moved : p.step? m = some q) :
    Works t (t.putPipeline i f q)

/-- The queue merges what the sources give. -/
structure Merging (tuning : Tuning) (sources : List Source) (taken : List Entry) (t : Tail) :
    Prop where
  tuned : t.tuning = tuning
  room : 1 ≤ t.capacity
  received : t.received = true
  followed : t.followers.map (·.source) = sources
  reached : ∀ (i : Nat) (f : Follower), t.followers[i]? = some f →
    f.Reached tuning (ofContainer f.source.container (taken ++ t.queue))
  own : ∀ e ∈ taken ++ t.queue, ∃ s ∈ sources, e.container = s.container

/-- More steps than all followers and the tasks of their pipelines will take. -/
def left (t : Tail) : Nat := total Follower.left t.followers

variable {tuning : Tuning} {sources : List Source} {taken : List Entry} {t u : Tail} {i : Nat}
  {f : Follower}

theorem left_put (found : t.followers[i]? = some f) (r : Turn) :
    (t.put i r).left + f.left = t.left + r.follower.left :=
  total_set found r.follower

theorem left_putPipeline (found : t.followers[i]? = some f) (q : Pipeline) :
    (t.putPipeline i f q).left + f.left =
      t.left + Follower.left { f with task := f.task.withPipeline q } :=
  left_put found _

theorem merging_start (tuning : Tuning) (capacity : Nat) (sources : List Source) :
    Merging tuning sources [] (start tuning capacity sources) where
  tuned := rfl
  room := Nat.le_max_left 1 capacity
  received := rfl
  followed := by simp [start, Function.comp_def]
  reached i f found := by
    obtain ⟨s, -, rfl⟩ := List.mem_map.mp (List.mem_of_getElem? found)
    rfl
  own := by simp [start]

theorem left_start (tuning : Tuning) (capacity : Nat) (sources : List Source) :
    (start tuning capacity sources).left = total Source.steps sources :=
  total_map _ _ sources

namespace Merging

theorem steps_lt_fuel (h : Merging tuning sources taken t) :
    total Source.steps sources + 1 < t.fuel := by
  have each : ∀ ss : List Source, total Source.steps ss ≤
      8 * total (fun s => (s.log.getD []).length + 8) ss := by
    intro ss
    induction ss with
    | nil => exact Nat.le_refl _
    | cons s ss ih =>
      simp only [total, Source.steps]
      omega
  have bound := each sources
  rw [← h.followed, total_map, total_map] at bound
  rw [← h.followed, total_map, fuel]
  omega

theorem source_mem (h : Merging tuning sources taken t) (found : t.followers[i]? = some f) :
    f.source ∈ sources := by
  rw [← h.followed]
  exact List.mem_map_of_mem (List.mem_of_getElem? found)

theorem index_eq (h : Merging tuning sources taken t)
    (distinct : (sources.map (·.container)).Nodup) {k : Nat} {g : Follower}
    (found : t.followers[i]? = some f) (known : t.followers[k]? = some g)
    (same : f.source.container = g.source.container) : i = k := by
  have named : ∀ j : Nat, (sources.map (·.container))[j]? =
      t.followers[j]?.map fun f : Follower => f.source.container := by
    intro j
    rw [← h.followed]
    simp [Function.comp_def]
  have inside : i < (sources.map (·.container)).length := by
    rw [← h.followed]
    simpa using (List.getElem?_eq_some_iff.mp found).1
  refine (List.getElem?_inj inside distinct).mp ?_
  rw [named, named, found, known]
  simp [same]

theorem update (h : Merging tuning sources taken t) (distinct : (sources.map (·.container)).Nodup)
    (found : t.followers[i]? = some f) {f' : Follower} {more : List Entry} {notices : List Notice}
    (source : f'.source = f.source) (own : ∀ e ∈ more, e.container = f.source.container)
    (reached : f'.Reached tuning (ofContainer f.source.container (taken ++ t.queue) ++ more)) :
    Merging tuning sources taken (t.put i ⟨f', t.queue ++ more, notices⟩) where
  tuned := h.tuned
  room := h.room
  received := h.received
  followed := by
    have stands : (t.followers.map (·.source))[i]? = some f.source := by simp [found]
    obtain ⟨inside, at_⟩ := List.getElem?_eq_some_iff.mp stands
    rw [put_followers, List.map_set, source, ← at_, List.set_getElem_self, h.followed]
  reached k g known := by
    rw [put_followers] at known
    rw [put_queue, ← List.append_assoc, ofContainer_append]
    by_cases here : i = k
    · subst here
      have inside := (List.getElem?_eq_some_iff.mp found).1
      rw [List.getElem?_set_self inside] at known
      obtain rfl := Option.some.inj known
      rw [source, ofContainer_own own]
      exact reached
    · rw [List.getElem?_set_ne here] at known
      have foreign : ∀ e ∈ more, e.container ≠ g.source.container := fun e he same =>
        here (h.index_eq distinct found known ((own e he).symm.trans same))
      rw [ofContainer_foreign foreign, List.append_nil]
      exact h.reached k g known
  own e he := by
    rw [put_queue, ← List.append_assoc] at he
    rcases List.mem_append.mp he with old | new
    · exact h.own e old
    · exact ⟨f.source, h.source_mem found, own e new⟩

theorem updatePipeline (h : Merging tuning sources taken t)
    (distinct : (sources.map (·.container)).Nodup) (found : t.followers[i]? = some f)
    {q : Pipeline} (reached : Follower.Reached tuning { f with task := f.task.withPipeline q }
      (ofContainer f.source.container (taken ++ t.queue))) :
    Merging tuning sources taken (t.putPipeline i f q) := by
  have kept : Merging tuning sources taken
      (t.put i ⟨{ f with task := f.task.withPipeline q }, t.queue ++ [], t.notices⟩) :=
    h.update distinct found rfl (by simp) (by simpa using reached)
  rw [List.append_nil] at kept
  exact kept

theorem works (h : Merging tuning sources taken t) (distinct : (sources.map (·.container)).Nodup)
    (patient : 1 ≤ tuning.peekTimeout) (worked : t.Works u) :
    Merging tuning sources taken u ∧ u.left < t.left := by
  cases worked with
  | @step i f r found moved =>
    have sum := left_put found r
    rw [h.tuned, h.received] at moved
    obtain ⟨source, ⟨more, queue, own, reached⟩, less⟩ :=
      Follower.advances_step (h.reached i f found) patient moved
    obtain ⟨f', _, notices⟩ := r
    obtain rfl := queue
    exact ⟨h.update distinct found source own reached, by omega⟩
  | @move i f p q m found runs moved =>
    obtain ⟨reached, less⟩ := (h.reached i f found).move runs moved
    have sum := left_putPipeline found q
    exact ⟨h.updatePipeline distinct found reached, by omega⟩

theorem pass (h : Merging tuning sources taken t) (distinct : (sources.map (·.container)).Nodup)
    {p : Pipeline} (found : t.followers[i]? = some f) (runs : f.task.pipeline? = some p) (ms : Nat)
    (idle : p.isAtRest = true) :
    Merging tuning sources taken (t.putPipeline i f (p.advance ms)) ∧
      (t.putPipeline i f (p.advance ms)).left = t.left := by
  obtain ⟨reached, same⟩ := (h.reached i f found).advance runs ms idle
  have sum := left_putPipeline found (p.advance ms)
  exact ⟨h.updatePipeline distinct found reached, by omega⟩

theorem take {es rest : List Entry} (h : Merging tuning sources taken t)
    (queue : t.queue = es ++ rest) :
    Merging tuning sources (taken ++ es) { t with queue := rest } where
  tuned := h.tuned
  room := h.room
  received := h.received
  followed := h.followed
  reached k g known := by
    rw [List.append_assoc, ← queue]
    exact h.reached k g known
  own e he := by
    rw [List.append_assoc, ← queue] at he
    exact h.own e he

/-- The queue has given, and holds, a beginning of what each source gives alone. -/
theorem isPrefix (h : Merging tuning sources taken t) (patient : 1 ≤ tuning.peekTimeout)
    {s : Source} (hs : s ∈ sources) :
    ofContainer s.container (taken ++ t.queue) <+: s.output tuning.window := by
  rw [← h.followed] at hs
  obtain ⟨f, hf, rfl⟩ := List.mem_map.mp hs
  obtain ⟨i, found⟩ := List.getElem?_of_mem hf
  exact (h.reached i f found).isPrefix patient

/-- Nothing comes from elsewhere than a source with a log. -/
theorem foreign (h : Merging tuning sources taken t) (patient : 1 ≤ tuning.peekTimeout)
    {e : Entry} (he : e ∈ taken ++ t.queue) :
    ∃ s ∈ sources, s.log ≠ none ∧ e.container = s.container := by
  obtain ⟨s, hs, own⟩ := h.own e he
  have kept : e ∈ ofContainer s.container (taken ++ t.queue) :=
    List.mem_filter.mpr ⟨he, by simpa using own⟩
  have out := (h.isPrefix patient hs).subset kept
  exact ⟨s, hs, (Source.container_of_output out).2, own⟩

theorem finished (h : Merging tuning sources taken t)
    (all : t.followers.all Follower.isDone = true) {s : Source} (hs : s ∈ sources) :
    ofContainer s.container (taken ++ t.queue) = s.output tuning.window := by
  rw [← h.followed] at hs
  obtain ⟨f, hf, rfl⟩ := List.mem_map.mp hs
  obtain ⟨i, found⟩ := List.getElem?_of_mem hf
  exact (h.reached i f found).eq_output (List.all_eq_true.mp all f hf)

end Merging

/-! ### Taking turns -/

def Ready (t : Tail) (f : Follower) : Prop :=
  (∃ r, Turn.step? ⟨f, t.queue, t.notices⟩ t.tuning t.capacity t.received = some r) ∨
    ∃ p m q, f.task.pipeline? = some p ∧ p.step? m = some q

/-- While the queue is empty, whoever is not done can go on. -/
theorem Merging.ready (h : Merging tuning sources taken t) (empty : t.queue = [])
    (mem : f ∈ t.followers) (going : Follower.isDone f = false) : t.Ready f := by
  obtain ⟨i, found⟩ := List.getElem?_of_mem mem
  have room : t.queue.length < t.capacity := by
    rw [empty]
    exact h.room
  unfold Ready
  rw [h.tuned, h.received]
  exact (h.reached i f found).movable room going

theorem Ready.works (ready : t.Ready f) (found : t.followers[i]? = some f) : ∃ u, t.Works u := by
  obtain ⟨r, moved⟩ | ⟨p, m, q, runs, moved⟩ := ready
  · exact ⟨_, .step found moved⟩
  · exact ⟨_, .move m found runs moved⟩

inductive Worked : Nat → Tail → Tail → Prop
  | rest (t : Tail) : Worked 0 t t
  | step {n : Nat} {t u v : Tail} (first : t.Works u) (more : Worked n u v) : Worked (n + 1) t v

theorem Worked.trans {n k : Nat} {v : Tail} (first : Worked n t u) (more : Worked k u v) :
    Worked (n + k) t v := by
  induction first with
  | rest => simpa using more
  | @step n t u w works _ ih =>
    have whole := Worked.step works (ih more)
    rwa [Nat.add_right_comm]

theorem Worked.eq_of_zero {n : Nat} (worked : Worked n t u) (zero : n = 0) : u = t := by
  cases worked with
  | rest => rfl
  | step first more => simp at zero

theorem Merging.worked {n : Nat} (h : Merging tuning sources taken t)
    (distinct : (sources.map (·.container)).Nodup) (patient : 1 ≤ tuning.peekTimeout)
    (worked : Worked n t u) : Merging tuning sources taken u ∧ u.left + n ≤ t.left := by
  induction worked with
  | rest => exact ⟨h, Nat.le_refl _⟩
  | step first more ih =>
    obtain ⟨merging, less⟩ := h.works distinct patient first
    obtain ⟨merging, bound⟩ := ih merging
    exact ⟨merging, by omega⟩

theorem put_self (found : t.followers[i]? = some f) : t.put i ⟨f, t.queue, t.notices⟩ = t := by
  obtain ⟨inside, rfl⟩ := List.getElem?_eq_some_iff.mp found
  simp [put]

@[simp] theorem put_put (t : Tail) (i : Nat) (r r' : Turn) : (t.put i r).put i r' = t.put i r' := by
  simp [put]

theorem getElem?_put (found : t.followers[i]? = some f) (r : Turn) :
    (t.put i r).followers[i]? = some r.follower := by
  rw [put_followers, List.getElem?_set_self (List.getElem?_eq_some_iff.mp found).1]

theorem getElem?_putPipeline (found : t.followers[i]? = some f) (q : Pipeline) :
    (t.putPipeline i f q).followers[i]? = some { f with task := f.task.withPipeline q } :=
  getElem?_put found _

@[simp] theorem putPipeline_putPipeline (t : Tail) (i : Nat) (f : Follower) (p q : Pipeline) :
    (t.putPipeline i f p).putPipeline i { f with task := f.task.withPipeline p } q =
      t.putPipeline i f q := by
  simp only [putPipeline, put_put, FollowTask.withPipeline_withPipeline]
  rfl

theorem worked_run (fuel : Nat) (found : t.followers[i]? = some f) :
    ∃ n, Worked n t (t.put i
        (Turn.run t.tuning t.capacity t.received fuel ⟨f, t.queue, t.notices⟩)) ∧
      (n = 0 → 0 < fuel →
        Turn.step? ⟨f, t.queue, t.notices⟩ t.tuning t.capacity t.received = none) := by
  induction fuel generalizing t f with
  | zero =>
    refine ⟨0, ?_, fun _ none_ => absurd none_ (Nat.lt_irrefl 0)⟩
    simp only [Turn.run]
    rw [put_self found]
    exact .rest t
  | succ fuel ih =>
    simp only [Turn.run]
    split
    · next r moved =>
      obtain ⟨n, worked, -⟩ := ih (getElem?_put found r)
      rw [put_put] at worked
      exact ⟨n + 1, .step (.step found moved) worked, fun zero => by simp at zero⟩
    · next none_ =>
      refine ⟨0, ?_, fun _ _ => none_⟩
      rw [put_self found]
      exact .rest t

theorem putPipeline_self {p : Pipeline} (found : t.followers[i]? = some f)
    (runs : f.task.pipeline? = some p) : t.putPipeline i f p = t := by
  rw [putPipeline, FollowTask.withPipeline_self runs]
  exact put_self found

theorem worked_runTask (ms : List Move) (fuel : Nat) {p : Pipeline}
    (found : t.followers[i]? = some f) (runs : f.task.pipeline? = some p) :
    ∃ n, Worked n t (t.putPipeline i f (Pipeline.runTask ms fuel p)) ∧
      (n = 0 → 0 < fuel → p.firstOf ms = none) := by
  induction fuel generalizing t f p with
  | zero =>
    refine ⟨0, ?_, fun _ none_ => absurd none_ (Nat.lt_irrefl 0)⟩
    rw [Pipeline.runTask, putPipeline_self found runs]
    exact .rest t
  | succ fuel ih =>
    rw [Pipeline.runTask]
    split
    · next q first =>
      obtain ⟨m, -, moved⟩ := List.exists_of_findSome?_eq_some first
      obtain ⟨n, worked, -⟩ := ih (getElem?_putPipeline found q)
        (FollowTask.pipeline?_withPipeline runs q)
      rw [putPipeline_putPipeline] at worked
      exact ⟨n + 1, .step (.move m found runs moved) worked, fun zero => by simp at zero⟩
    · next none_ =>
      refine ⟨0, ?_, fun _ _ => none_⟩
      rw [putPipeline_self found runs]
      exact .rest t

theorem worked_turnPipeline {p : Pipeline} (found : t.followers[i]? = some f)
    (runs : f.task.pipeline? = some p) :
    ∃ n, Worked n t (t.putPipeline i f (turnPipeline p)) ∧
      (n = 0 → ∀ m, p.step? m = none) := by
  obtain ⟨n, reads, noRead⟩ := worked_runTask Pipeline.readingMoves p.fuel found runs
  obtain ⟨k, groups, noGroup⟩ := worked_runTask Pipeline.groupingMoves
    (Pipeline.runTask Pipeline.readingMoves p.fuel p).fuel (getElem?_putPipeline found _)
    (FollowTask.pipeline?_withPipeline runs _)
  rw [putPipeline_putPipeline] at groups
  refine ⟨n + k, reads.trans groups, fun zero => ?_⟩
  have enough : ∀ p : Pipeline, 0 < p.fuel := fun p => by
    unfold Pipeline.fuel
    omega
  have noRead := noRead (by omega) (enough p)
  have still : Pipeline.runTask Pipeline.readingMoves p.fuel p = p := by
    cases fuel : p.fuel <;> simp [Pipeline.runTask, noRead]
  rw [still] at noGroup
  have noGroup := noGroup (by omega) (enough p)
  intro m
  have known : m ∈ Pipeline.readingMoves ++ Pipeline.groupingMoves := by
    cases m <;> decide
  rcases List.mem_append.mp known with reads | groups
  · exact List.findSome?_eq_none_iff.mp noRead m reads
  · exact List.findSome?_eq_none_iff.mp noGroup m groups

theorem run_of_none {r : Turn} {capacity : Nat} {received : Bool}
    (none_ : r.step? tuning capacity received = none) (fuel : Nat) :
    Turn.run tuning capacity received fuel r = r := by
  cases fuel <;> simp only [Turn.run, none_]

theorem turnFuel_pos (f : Follower) : 0 < turnFuel f := by
  unfold turnFuel
  split <;> omega

/-- A follower takes its turn. If that is no step, it could not go on. -/
theorem worked_turn (found : t.followers[i]? = some f) :
    ∃ n, Worked n t (t.put i (turn t f)) ∧ (n = 0 → ¬ t.Ready f) := by
  obtain ⟨n, moves, noMove⟩ := worked_run (turnFuel f) found
  have still : n = 0 →
      Turn.run t.tuning t.capacity t.received (turnFuel f) ⟨f, t.queue, t.notices⟩ =
        ⟨f, t.queue, t.notices⟩ := fun zero => run_of_none (noMove zero (turnFuel_pos f)) _
  unfold turn
  generalize Turn.run t.tuning t.capacity t.received (turnFuel f) ⟨f, t.queue, t.notices⟩ = r
    at moves still
  dsimp only
  cases runs : r.follower.task.pipeline? with
  | none =>
    rw [FollowTask.turn_eq_of_none runs]
    refine ⟨n, moves, fun zero ready => ?_⟩
    rw [still zero] at runs
    obtain ⟨r', moved⟩ | ⟨p, m, q, runs', -⟩ := ready
    · simp [noMove zero (turnFuel_pos f)] at moved
    · simp [runs] at runs'
  | some p =>
    rw [FollowTask.turn_eq_of_pipeline? runs]
    obtain ⟨k, works, noWork⟩ := worked_turnPipeline (getElem?_put found r) runs
    rw [putPipeline, put_put] at works
    refine ⟨n + k, moves.trans works, fun zero ready => ?_⟩
    have zero : n = 0 ∧ k = 0 := by omega
    rw [still zero.1] at runs
    obtain ⟨r', moved⟩ | ⟨p', m, q, runs', moved⟩ := ready
    · simp [noMove zero.1 (turnFuel_pos f)] at moved
    · obtain rfl : p = p' := Option.some.inj (runs.symm.trans runs')
      simp [noWork zero.2 m] at moved

def takeTurn (acc : Tail × List Follower) (f : Follower) : Tail × List Follower :=
  let r := turn acc.1 f
  ({ acc.1 with queue := r.queue, notices := r.notices }, acc.2 ++ [r.follower])

theorem worked_turns (waiting : List Follower) (t : Tail) (served : List Follower) :
    ∃ n, Worked n { t with followers := served ++ waiting }
        { (waiting.foldl takeTurn (t, served)).1 with
          followers := (waiting.foldl takeTurn (t, served)).2 } ∧
      (n = 0 → ∀ f ∈ waiting, ¬ t.Ready f) := by
  induction waiting generalizing t served with
  | nil =>
    refine ⟨0, ?_, fun _ => by simp⟩
    rw [List.append_nil]
    exact .rest _
  | cons f waiting ih =>
    have found : (served ++ f :: waiting)[served.length]? = some f := by simp
    obtain ⟨n, first, notReady⟩ :=
      worked_turn (t := { t with followers := served ++ f :: waiting }) found
    obtain ⟨k, others, noOther⟩ := ih (takeTurn (t, served) f).1 (takeTurn (t, served) f).2
    have after : put { t with followers := served ++ f :: waiting } served.length (turn t f) =
        { (takeTurn (t, served) f).1 with
          followers := (takeTurn (t, served) f).2 ++ waiting } := by
      simp [put, takeTurn]
    rw [← after] at others
    refine ⟨n + k, first.trans others, fun zero g hg => ?_⟩
    have zero : n = 0 ∧ k = 0 := by omega
    rcases List.mem_cons.mp hg with rfl | later
    · exact notReady zero.1
    · -- The first turn left the queue as it was.
      have same := first.eq_of_zero zero.1
      have queue : (turn t f).queue = t.queue := congrArg Tail.queue same
      have notices : (turn t f).notices = t.notices := congrArg Tail.notices same
      have kept : (takeTurn (t, served) f).1 = t := by
        simp only [takeTurn, queue, notices]
      have stuck := noOther zero.2 g later
      rwa [kept] at stuck

/-- All followers take a turn. If that is no step, nobody could go on. -/
theorem worked_round (t : Tail) :
    ∃ n, Worked n t t.round ∧ (n = 0 → ∀ f ∈ t.followers, ¬ t.Ready f) :=
  worked_turns t.followers t []

theorem Merging.collect (distinct : (sources.map (·.container)).Nodup)
    (patient : 1 ≤ tuning.peekTimeout) {fuel : Nat} (h : Merging tuning sources taken t)
    (enough : t.left + min 1 t.queue.length < fuel) :
    Merging tuning sources (taken ++ (Tail.collect fuel t).1) (Tail.collect fuel t).2 ∧
      (Tail.collect fuel t).2.queue = [] ∧
      (Tail.collect fuel t).2.followers.all Follower.isDone = true := by
  induction fuel generalizing taken t with
  | zero => omega
  | succ fuel ih =>
    unfold Tail.collect
    split
    · next all => exact ⟨h.take (List.append_nil _).symm, rfl, all⟩
    · next going =>
      obtain ⟨n, worked, stuck⟩ := t.worked_round
      obtain ⟨merging, bound⟩ := h.worked distinct patient worked
      have less : t.round.left < fuel := by
        by_cases idle : n = 0 ∧ t.queue = []
        · obtain ⟨f, mem, open_⟩ : ∃ f ∈ t.followers, Follower.isDone f = false := by
            simpa using going
          exact absurd (h.ready idle.2 mem open_) (stuck idle.1 f mem)
        · rw [← List.length_eq_zero_iff] at idle
          omega
      obtain ⟨whole, empty, all⟩ := ih (merging.take (List.append_nil _).symm)
        (Nat.lt_of_le_of_lt (Nat.le_of_eq (Nat.add_zero _)) less)
      rw [List.append_assoc] at whole
      exact ⟨whole, empty, all⟩

end Tail

end ContainerWatch.Log
