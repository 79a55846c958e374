import ContainerWatch.Proofs.Rounds
import ContainerWatch.Proofs.Sampling.Lease

/-!
How long a session lasts. References are taken and given back while time passes and the tasks of
sampling move in any order; nobody does anything with a reference while the idle timer is due. Then
what was done with references, and when, tells whether a session runs: it lasts from the taking that
opened it until the idle time has passed since a return that left nobody, with nothing done since.
-/

namespace ContainerWatch

/-- What is done with references. Who acquires a guard takes one, and dropping the guard gives it
back. -/
inductive Holding
  | taken
  | returned
deriving DecidableEq, Repr

namespace Holding

def after (n : Nat) : Holding → Nat
  | taken => n + 1
  | returned => n - 1

def holders (hs : List (Nat × Holding)) : Nat := hs.foldl (fun n h => h.2.after n) 0

/-- In what was done later, a return left nobody, and the idle time was over before the next thing
was done, or is over now. -/
def Lapsed (idle now : Nat) (past later : List (Nat × Holding)) : Prop :=
  ∃ between t rest, later = between ++ (t, .returned) :: rest ∧
    holders (past ++ between ++ [(t, .returned)]) = 0 ∧
    t + idle ≤ (rest.head?.map Prod.fst).getD now

/-- A reference was taken and no idle time is over since. -/
def Lasts (idle now : Nat) (hs : List (Nat × Holding)) : Prop :=
  ∃ past t later, hs = past ++ (t, .taken) :: later ∧
    ¬ Lapsed idle now (past ++ [(t, .taken)]) later

variable {idle now t : Nat} {h : Holding} {hs past later : List (Nat × Holding)}

@[simp] theorem holders_append_singleton (hs : List (Nat × Holding)) (t : Nat) (h : Holding) :
    holders (hs ++ [(t, h)]) = h.after (holders hs) := List.foldl_append

theorem append_singleton_eq_split {α : Type} {xs before rest : List α} {x y : α} :
    xs ++ [x] = before ++ y :: rest ↔ rest = [] ∧ xs = before ∧ x = y ∨
      ∃ earlier, rest = earlier ++ [x] ∧ xs = before ++ y :: earlier := by
  constructor
  · intro split
    rcases List.eq_nil_or_concat rest with rfl | ⟨earlier, last, rfl⟩
    · obtain ⟨same, last⟩ := List.append_inj' split rfl
      exact Or.inl ⟨rfl, same, (List.cons.inj last).1⟩
    · rw [List.concat_eq_append, ← List.cons_append, ← List.append_assoc] at split
      obtain ⟨same, last⟩ := List.append_inj' split rfl
      exact Or.inr ⟨earlier, by rw [List.concat_eq_append, last], same⟩
  · rintro (⟨rfl, rfl, rfl⟩ | ⟨earlier, rfl, rfl⟩)
    · rfl
    · rw [List.append_assoc, List.cons_append]

theorem lapsed_append_singleton : Lapsed idle now past (later ++ [(t, h)]) ↔
    Lapsed idle t past later ∨
      h = .returned ∧ holders (past ++ later ++ [(t, h)]) = 0 ∧ t + idle ≤ now := by
  constructor
  · rintro ⟨between, s, rest, split, nobody, elapsed⟩
    rcases append_singleton_eq_split.mp split with ⟨rfl, rfl, last⟩ | ⟨earlier, rfl, rfl⟩
    · cases last
      exact Or.inr ⟨rfl, nobody, elapsed⟩
    · refine Or.inl ⟨between, s, earlier, rfl, nobody, ?_⟩
      cases earlier <;> exact elapsed
  · rintro (⟨between, s, rest, rfl, nobody, elapsed⟩ | ⟨rfl, nobody, elapsed⟩)
    · refine ⟨between, s, rest ++ [(t, h)], by simp, nobody, ?_⟩
      cases rest <;> exact elapsed
    · exact ⟨later, t, [], rfl, nobody, elapsed⟩

theorem Lapsed.mono {later' : Nat} (h : Lapsed idle now past later) (le : now ≤ later') :
    Lapsed idle later' past later := by
  obtain ⟨between, s, rest, split, nobody, elapsed⟩ := h
  refine ⟨between, s, rest, split, nobody, ?_⟩
  cases rest with
  | nil => exact Nat.le_trans elapsed le
  | cons next rest => exact elapsed

theorem Lasts.anti {later' : Nat} (h : Lasts idle later' hs) (le : now ≤ later') :
    Lasts idle now hs := by
  obtain ⟨past, s, later, split, lasts⟩ := h
  exact ⟨past, s, later, split, fun lapse => lasts (lapse.mono le)⟩

theorem not_lasts_nil : ¬ Lasts idle now [] := by
  rintro ⟨past, s, later, split, -⟩
  simp at split

theorem not_lapsed_nil : ¬ Lapsed idle now past [] := by
  rintro ⟨between, s, rest, split, -⟩
  simp at split

theorem lasts_taken : Lasts idle now (hs ++ [(t, .taken)]) := ⟨hs, t, [], rfl, not_lapsed_nil⟩

theorem lasts_returned : Lasts idle now (hs ++ [(t, .returned)]) ↔
    Lasts idle t hs ∧ ¬ (holders (hs ++ [(t, .returned)]) = 0 ∧ t + idle ≤ now) := by
  constructor
  · rintro ⟨past, s, later, split, lasts⟩
    rcases append_singleton_eq_split.mp split with ⟨rfl, rfl, last⟩ | ⟨earlier, rfl, rfl⟩
    · cases last
    · rw [lapsed_append_singleton, not_or] at lasts
      refine ⟨⟨past, s, earlier, rfl, lasts.1⟩, fun lapse => lasts.2 ⟨rfl, ?_, lapse.2⟩⟩
      simpa using lapse.1
  · rintro ⟨⟨past, s, later, rfl, lasts⟩, stays⟩
    refine ⟨past, s, later ++ [(t, .returned)], by simp, ?_⟩
    rw [lapsed_append_singleton, not_or]
    exact ⟨lasts, fun lapse => stays ⟨by simpa using lapse.2.1, lapse.2.2⟩⟩

end Holding

open Holding

structure Moment where
  clock : Nat
  work : SampledHost

inductive SampledHost.Elsewhere (w : SampledHost) : SampledHost → Prop
  | host (host : ScriptedHost) : Elsewhere w { w with host }
  | started (id : String) : Elsewhere w { w with sampling := w.sampling.containerStarted id }
  | died (id : String) : Elsewhere w { w with sampling := w.sampling.containerDied id }
  | subscribers (subscribers : Broadcast Usage) :
    Elsewhere w { w with sampling := { w.sampling with subscribers } }
  | notices (notices : List Notice) :
    Elsewhere w { w with sampling := { w.sampling with notices } }

namespace Moment

def sampling (m : Moment) : Sampling := m.work.sampling

def IsServed (m : Moment) : Prop := m.work.step? m.clock .idleTimer = none

def start (m : Moment) : Moment := { m with work := { m.work with sampling := m.sampling.start.1 } }

def stop (m : Moment) : Moment :=
  { m with work := { m.work with sampling := m.sampling.stop m.clock } }

/-- The way from one moment to another, with what is done with references. The clock may go on by any
step and tasks may move in any order, but an idle timer that is due comes before what is done with
references. -/
inductive Course (m : Moment) : List (Nat × Holding) → Moment → Prop
  | nil : Course m [] m
  | start {hs v} (h : Course m hs v) (served : v.IsServed) :
    Course m (hs ++ [(v.clock, .taken)]) v.start
  | stop {hs v} (h : Course m hs v) (served : v.IsServed) :
    Course m (hs ++ [(v.clock, .returned)]) v.stop
  | pass {hs v} (h : Course m hs v) (milliseconds : Nat) :
    Course m hs { v with clock := v.clock + milliseconds }
  | task {hs v work} (h : Course m hs v) (t : SamplingTask)
    (moved : v.work.step? v.clock t = some work) : Course m hs { v with work }
  | elsewhere {hs v work} (h : Course m hs v) (out : v.work.Elsewhere work) :
    Course m hs { v with work }

variable {m v p q : Moment} {w : SampledHost} {hs past later : List (Nat × Holding)} {idle k : Nat}

theorem isServed_iff : m.IsServed ↔ ∀ d, m.sampling.deadline = some d → m.clock < d := by
  unfold IsServed sampling
  simp only [SampledHost.step?, SampledHost.stepTimer?]
  cases m.work.sampling.deadline with
  | none => simp
  | some d => simp

/-! ### What is true of sampling after what was done -/

/-- What references and the idle time have to do with each other. -/
structure Tenure (idle : Nat) (hs : List (Nat × Holding)) (s : Sampling) : Prop where
  active : s.active = holders hs
  idleTimeout : s.settings.idleTimeout = idle
  alive : s.cancelled = false
  running : 0 < s.active → s.isRunning = true
  /-- The idle time passes only while nobody holds a reference. -/
  deadline : ∀ d, s.deadline = some d → s.active = 0
  orderly : s.Orderly
  owned : s.Owned

variable {s s' : Sampling}

theorem tenure_ofSettings (settings : SamplingSettings) (filter : LabelFilter) :
    Tenure settings.idleTimeout [] (.ofSettings settings filter) where
  active := rfl
  idleTimeout := rfl
  alive := rfl
  running := by simp [Sampling.ofSettings]
  deadline := by simp [Sampling.ofSettings]
  orderly := Sampling.orderly_ofSettings settings filter
  owned := by simp [Sampling.Owned, Sampling.ofSettings]

theorem Tenure.change (h : Tenure idle past s) (change : s.Change s')
    (active : s'.active = holders hs)
    (idleTimeout : s'.settings.idleTimeout = s.settings.idleTimeout)
    (cancelled : s'.cancelled = s.cancelled) (running : 0 < s'.active → s'.isRunning = true)
    (deadline : ∀ d, s'.deadline = some d → s'.active = 0) : Tenure idle hs s' :=
  ⟨active, idleTimeout.trans h.idleTimeout, cancelled.trans h.alive, running, deadline,
    change.orderly h.orderly, change.owned h.owned⟩

theorem Tenure.start (h : Tenure idle hs s) (t : Nat) :
    Tenure idle (hs ++ [(t, .taken)]) s.start.1 := by
  obtain ⟨idleTimeout, active, current, deadline, cancelled⟩ :=
    Lease.mk.inj (Sampling.lease_start s)
  refine h.change (Sampling.Use.start).change ?_ idleTimeout cancelled ?_ ?_
  · rw [active, h.active, holders_append_singleton]
    rfl
  · intro _
    rw [Sampling.isRunning, current]
    rfl
  · intro d waiting
    rw [deadline] at waiting
    cases waiting

theorem Tenure.stop (h : Tenure idle hs s) (t : Nat) :
    Tenure idle (hs ++ [(t, .returned)]) (s.stop t) := by
  obtain ⟨idleTimeout, active, current, deadline, cancelled⟩ :=
    Lease.mk.inj (Sampling.lease_stop t s)
  refine h.change (Sampling.Use.stop t).change ?_ idleTimeout cancelled ?_ ?_
  · rw [active, h.active, holders_append_singleton]
    rfl
  · intro held
    rw [Sampling.isRunning, current]
    exact h.running (by omega)
  · intro d waiting
    rw [deadline] at waiting
    rw [active]
    split at waiting
    · next shared => simp [h.deadline d waiting] at shared
    · next last => omega

theorem Tenure.aside (h : Tenure idle hs s) (change : s.Change s') (lease : s'.lease = s.lease) :
    Tenure idle hs s' := by
  obtain ⟨idleTimeout, active, current, deadline, cancelled⟩ := Lease.mk.inj lease
  refine h.change change (active.trans h.active) idleTimeout cancelled ?_ ?_
  · rw [active, Sampling.isRunning, current]
    exact h.running
  · rw [active, deadline]
    exact h.deadline

theorem Tenure.expire (h : Tenure idle hs s) {d : Nat} (waiting : s.deadline = some d) :
    Tenure idle hs s.expire := by
  have nobody := h.deadline d waiting
  obtain ⟨idleTimeout, active, current, deadline, cancelled⟩ :=
    Lease.mk.inj (Sampling.lease_expire s)
  refine h.change (Sampling.Change.expire s) (active.trans h.active) idleTimeout cancelled ?_ ?_
  · rw [active]
    intro held
    simp [Sampling.lease, nobody] at held
  · intro d' waiting
    rw [deadline] at waiting
    cases waiting

theorem Tenure.expire_eq (h : Tenure idle hs s) {d : Nat} (waiting : s.deadline = some d) :
    s.expire = Sampling.forceStop { s with deadline := none } := by
  simp [Sampling.expire, h.deadline d waiting]

theorem Tenure.torn (h : Tenure idle hs s) {d : Nat} (waiting : s.deadline = some d) :
    s.expire.current = none ∧ s.expire.ids = [] := by
  obtain ⟨-, current, registered, -⟩ := Sampling.forceStop_sessions { s with deadline := none }
  rw [h.expire_eq waiting, Sampling.ids, registered]
  exact ⟨current, rfl⟩

theorem Tenure.not_running (h : Tenure idle hs s) (stopped : s.isStopped k = true) :
    s.current ≠ some k := by
  intro current
  obtain ⟨t, known, running⟩ := h.orderly.running k current
  simp [Sampling.isStopped, h.alive, known, running] at stopped

/-! ### What the idle timer foretells -/

/-- From now on, something is over exactly when the idle timer is due. -/
def Foretells (m : Moment) (gone : Nat → Prop) : Prop :=
  ∀ now, m.clock ≤ now → (gone now ↔ ∃ d, m.sampling.deadline = some d ∧ d ≤ now)

variable {gone gone' : Nat → Prop}

theorem Foretells.not_gone (h : m.Foretells gone) (served : m.IsServed) : ¬ gone m.clock := by
  rw [h m.clock (Nat.le_refl _)]
  rintro ⟨d, waiting, due⟩
  exact Nat.lt_irrefl _ (Nat.lt_of_lt_of_le (isServed_iff.mp served d waiting) due)

theorem Foretells.pass (h : m.Foretells gone) (milliseconds : Nat) :
    ({ m with clock := m.clock + milliseconds } : Moment).Foretells gone :=
  fun now le => h now (Nat.le_trans (Nat.le_add_right _ _) le)

theorem Foretells.aside (h : m.Foretells gone) (lease : w.sampling.lease = m.sampling.lease) :
    ({ m with work := w } : Moment).Foretells gone := by
  have deadline : w.sampling.deadline = m.sampling.deadline := congrArg Lease.deadline lease
  intro now le
  exact (h now le).trans (by rw [← deadline]; rfl)

theorem foretells_start (never : ∀ now, ¬ gone now) : m.start.Foretells gone := by
  have waiting : m.start.sampling.deadline = none :=
    congrArg Lease.deadline (Sampling.lease_start m.sampling)
  intro now _
  simp [waiting, never]

theorem Tenure.foretells_stop (h : Tenure idle hs m.sampling)
    (next : ∀ now, gone now ↔
      holders (hs ++ [(m.clock, .returned)]) = 0 ∧ m.clock + idle ≤ now) :
    m.stop.Foretells gone := by
  have deadline : m.stop.sampling.deadline = if 1 < m.sampling.active then m.sampling.deadline
      else some (m.clock + m.sampling.settings.idleTimeout) :=
    congrArg Lease.deadline (Sampling.lease_stop m.clock m.sampling)
  intro now _
  rw [next, holders_append_singleton, ← h.active, ← h.idleTimeout, deadline]
  simp only [Holding.after]
  split
  · next shared =>
    have waiting : m.sampling.deadline = none := by
      cases waiting : m.sampling.deadline with
      | none => rfl
      | some d => simp [h.deadline d waiting] at shared
    have held : m.sampling.active - 1 ≠ 0 := by omega
    simp [waiting, held]
  · next last =>
    have nobody : m.sampling.active - 1 = 0 := by omega
    simp [nobody]

/-! ### Courses -/

theorem Tenure.elsewhere (h : Tenure idle hs m.sampling) (out : m.work.Elsewhere w) :
    m.sampling.Change w.sampling ∧ w.sampling.lease = m.sampling.lease := by
  cases out with
  | host host => exact ⟨.refl _, rfl⟩
  | started id =>
    exact ⟨.containerStarted h.orderly id, Sampling.lease_containerStarted id m.sampling⟩
  | died id => exact ⟨.drop id, Sampling.lease_containerDied id m.sampling⟩
  | subscribers subscribers => exact ⟨.aside rfl rfl rfl rfl rfl, rfl⟩
  | notices notices => exact ⟨.aside rfl rfl rfl rfl rfl, rfl⟩

theorem Course.tenure (tenure : Tenure idle past p.sampling) (course : Course p later q) :
    Tenure idle (past ++ later) q.sampling := by
  induction course with
  | nil => simpa using tenure
  | start h served ih =>
    rw [← List.append_assoc]
    exact ih.start _
  | stop h served ih =>
    rw [← List.append_assoc]
    exact ih.stop _
  | pass h milliseconds ih => exact ih
  | task h t moved ih =>
    by_cases timer : t = .idleTimer
    · subst timer
      obtain ⟨⟨d, waiting, -⟩, rfl⟩ := SampledHost.step?_idleTimer.mp moved
      exact ih.expire waiting
    · exact ih.aside (SampledHost.change moved) (SampledHost.lease_of_step moved timer)
  | elsewhere h out ih =>
    obtain ⟨change, lease⟩ := ih.elsewhere out
    exact ih.aside change lease

/-- What holds of a course as far as the lease goes: of the tasks only the idle timer counts, and of
all else only what is done with references and the clock. -/
theorem Course.lease_induction {motive : List (Nat × Holding) → Moment → Prop}
    (tenure : Tenure idle past p.sampling) (nil : motive [] p)
    (start : ∀ hs v, Tenure idle (past ++ hs) v.sampling → v.IsServed → motive hs v →
      motive (hs ++ [(v.clock, .taken)]) v.start)
    (stop : ∀ hs v, Tenure idle (past ++ hs) v.sampling → v.IsServed → motive hs v →
      motive (hs ++ [(v.clock, .returned)]) v.stop)
    (pass : ∀ hs (v : Moment) milliseconds, motive hs v →
      motive hs { v with clock := v.clock + milliseconds })
    (expire : ∀ hs v d, Tenure idle (past ++ hs) v.sampling → v.sampling.deadline = some d →
      d ≤ v.clock → motive hs v →
        motive hs { v with work := { v.work with sampling := v.sampling.expire } })
    (aside : ∀ hs v work, v.sampling.Change work.sampling →
      work.sampling.lease = v.sampling.lease → motive hs v → motive hs { v with work })
    (course : Course p later q) : motive later q := by
  induction course with
  | nil => exact nil
  | start h served ih => exact start _ _ (h.tenure tenure) served ih
  | stop h served ih => exact stop _ _ (h.tenure tenure) served ih
  | pass h milliseconds ih => exact pass _ _ milliseconds ih
  | task h t moved ih =>
    by_cases timer : t = .idleTimer
    · subst timer
      obtain ⟨⟨d, waiting, due⟩, rfl⟩ := SampledHost.step?_idleTimer.mp moved
      exact expire _ _ d (h.tenure tenure) waiting due ih
    · exact aside _ _ _ (SampledHost.change moved) (SampledHost.lease_of_step moved timer) ih
  | elsewhere h out ih =>
    obtain ⟨change, lease⟩ := (h.tenure tenure).elsewhere out
    exact aside _ _ _ change lease ih

/-- A session runs on, and the idle timer foretells its end, or it was stopped when the idle time
was over. -/
theorem Course.lapse (tenure : Tenure idle past p.sampling) (current : p.sampling.current = some k)
    (waiting : p.sampling.deadline = none) (course : Course p later q) :
    q.sampling.current = some k ∧ q.Foretells (fun now => Lapsed idle now past later) ∨
      q.sampling.isStopped k = true ∧ Lapsed idle q.clock past later := by
  refine course.lease_induction tenure (motive := fun hs v =>
    v.sampling.current = some k ∧ v.Foretells (fun now => Lapsed idle now past hs) ∨
      v.sampling.isStopped k = true ∧ Lapsed idle v.clock past hs)
    ?nil ?start ?stop ?pass ?expire ?aside
  case nil => exact Or.inl ⟨current, fun now _ => by simp [waiting, not_lapsed_nil]⟩
  case start =>
    rintro hs v tenure served (⟨runs, foretold⟩ | ⟨stopped, lapsed⟩)
    · have going := foretold.not_gone served
      have same : v.start.sampling.current = some (v.sampling.current.getD _) :=
        congrArg Lease.current (Sampling.lease_start v.sampling)
      refine Or.inl ⟨by rw [same, runs]; rfl, foretells_start fun now lapse => ?_⟩
      rw [lapsed_append_singleton] at lapse
      simp [going] at lapse
    · exact Or.inr ⟨(Sampling.Use.start).change.onward stopped,
        lapsed_append_singleton.mpr (Or.inl lapsed)⟩
  case stop =>
    rintro hs v tenure served (⟨runs, foretold⟩ | ⟨stopped, lapsed⟩)
    · have going := foretold.not_gone served
      have same : v.stop.sampling.current = v.sampling.current :=
        congrArg Lease.current (Sampling.lease_stop v.clock v.sampling)
      refine Or.inl ⟨same.trans runs, tenure.foretells_stop fun now => ?_⟩
      rw [lapsed_append_singleton]
      simp [going, List.append_assoc]
    · exact Or.inr ⟨(Sampling.Use.stop v.clock).change.onward stopped,
        lapsed_append_singleton.mpr (Or.inl lapsed)⟩
  case pass =>
    rintro hs v milliseconds (⟨runs, foretold⟩ | ⟨stopped, lapsed⟩)
    · exact Or.inl ⟨runs, foretold.pass milliseconds⟩
    · exact Or.inr ⟨stopped, lapsed.mono (Nat.le_add_right _ _)⟩
  case expire =>
    rintro hs v d tenure waiting due (⟨runs, foretold⟩ | ⟨stopped, lapsed⟩)
    · obtain ⟨t, known, -⟩ := tenure.orderly.running k runs
      have stopped : v.sampling.expire.isStopped k = true := by
        rw [tenure.expire_eq waiting]
        exact Sampling.isStopped_forceStop runs known
      exact Or.inr ⟨stopped, (foretold v.clock (Nat.le_refl _)).mpr ⟨d, waiting, due⟩⟩
    · exact Or.inr ⟨(Sampling.Change.expire v.sampling).onward stopped, lapsed⟩
  case aside =>
    rintro hs v work change lease (⟨runs, foretold⟩ | ⟨stopped, lapsed⟩)
    · exact Or.inl ⟨(congrArg Lease.current lease).trans runs, foretold.aside lease⟩
    · exact Or.inr ⟨change.onward stopped, lapsed⟩

/-- What was done with references tells whether a session runs, and the idle timer foretells when
that ends. -/
theorem Course.lasting (tenure : Tenure idle [] p.sampling) (fresh : p.sampling.current = none)
    (course : Course p hs q) :
    q.sampling.current ≠ none ∧ q.Foretells (fun now => ¬ Lasts idle now hs) ∨
      q.sampling.current = none ∧ ¬ Lasts idle q.clock hs := by
  refine course.lease_induction tenure (motive := fun hs v =>
    v.sampling.current ≠ none ∧ v.Foretells (fun now => ¬ Lasts idle now hs) ∨
      v.sampling.current = none ∧ ¬ Lasts idle v.clock hs)
    ?nil ?start ?stop ?pass ?expire ?aside
  case nil => exact Or.inr ⟨fresh, not_lasts_nil⟩
  case start =>
    rintro hs v tenure served -
    have opened : v.start.sampling.current = some _ :=
      congrArg Lease.current (Sampling.lease_start v.sampling)
    exact Or.inl ⟨by simp [opened], foretells_start fun now ended => ended lasts_taken⟩
  case stop =>
    intro hs v tenure served before
    have same : v.stop.sampling.current = v.sampling.current :=
      congrArg Lease.current (Sampling.lease_stop v.clock v.sampling)
    rw [same]
    rcases before with ⟨runs, foretold⟩ | ⟨ended, expired⟩
    · have lasts : Lasts idle v.clock hs := Classical.not_not.mp (foretold.not_gone served)
      refine Or.inl ⟨runs, tenure.foretells_stop fun now => ?_⟩
      rw [lasts_returned]
      simp only [lasts, true_and, Classical.not_not, List.nil_append]
    · exact Or.inr ⟨ended, fun lasts => expired (lasts_returned.mp lasts).1⟩
  case pass =>
    rintro hs v milliseconds (⟨runs, foretold⟩ | ⟨ended, expired⟩)
    · exact Or.inl ⟨runs, foretold.pass milliseconds⟩
    · exact Or.inr ⟨ended, fun lasts => expired (lasts.anti (Nat.le_add_right _ _))⟩
  case expire =>
    rintro hs v d tenure waiting due before
    refine Or.inr ⟨(tenure.torn waiting).1, ?_⟩
    rcases before with ⟨-, foretold⟩ | ⟨-, expired⟩
    · exact (foretold v.clock (Nat.le_refl _)).mpr ⟨d, waiting, due⟩
    · exact expired
  case aside =>
    rintro hs v work - lease before
    have same : work.sampling.current = v.sampling.current := congrArg Lease.current lease
    rw [← same] at before
    exact before.imp_left (And.imp_right (·.aside lease))

/-! ### Settling -/

def settle (m : Moment) : Moment := { m with work := m.work.settle m.clock }

theorem settle_eq (now : Nat) (w : SampledHost) :
    w.settle now = Rounds.settle (SampledHost.step? now) SampledHost.tasks SampledHost.fuel w := by
  have round : SampledHost.round? now =
      Rounds.round? (SampledHost.step? now) SampledHost.tasks SampledHost.fuel := by
    funext w
    unfold SampledHost.round? Rounds.round?
    cases w.tasks.filter fun t => (w.step? now t).isSome <;> rfl
  rw [SampledHost.settle, round]
  rfl

theorem Course.settle (course : Course m hs v) : Course m hs v.settle := by
  have keep (w : SampledHost) (t : SamplingTask) (w' : SampledHost)
      (h : Course m hs { v with work := w }) (moved : w.step? v.clock t = some w') :
      Course m hs { v with work := w' } := h.task t moved
  unfold Moment.settle
  rw [settle_eq]
  exact Rounds.settle_induction keep course

theorem isServed_settle (m : Moment) : m.settle.IsServed := by
  have keep (w : SampledHost) (t : SamplingTask) (w' : SampledHost)
      (served : IsServed ⟨m.clock, w⟩) (moved : w.step? m.clock t = some w') :
      IsServed ⟨m.clock, w'⟩ := by
    rw [isServed_iff] at served ⊢
    by_cases timer : t = .idleTimer
    · subst timer
      obtain ⟨⟨d, waiting, due⟩, -⟩ := SampledHost.step?_idleTimer.mp moved
      exact absurd due (Nat.not_le_of_lt (served d waiting))
    · have deadline : w'.sampling.deadline = w.sampling.deadline :=
        congrArg Lease.deadline (SampledHost.lease_of_step moved timer)
      rw [sampling, deadline]
      exact served
  unfold settle
  rw [settle_eq]
  cases timer : m.work.step? m.clock .idleTimer with
  | none => exact Rounds.settle_induction keep timer
  | some w =>
    have enough : 0 < m.work.fuel := by
      simp only [SampledHost.fuel]
      omega
    have served : IsServed ⟨m.clock, w⟩ := by
      rw [isServed_iff]
      obtain ⟨-, rfl⟩ := SampledHost.step?_idleTimer.mp timer
      have deadline : m.work.sampling.expire.deadline = none :=
        congrArg Lease.deadline (Sampling.lease_expire m.work.sampling)
      intro d waiting
      rw [sampling, deadline] at waiting
      cases waiting
    exact Rounds.settle_of_first keep enough rfl timer served

/-! ### The lifetime of a session -/

def initial (settings : SamplingSettings) (filter : LabelFilter) (host : ScriptedHost)
    (clock : Nat) : Moment :=
  ⟨clock, { host, sampling := .ofSettings settings filter }⟩

/-- The references held are those taken less those given back, as far as there were any. Taking one
opens a session exactly if none runs; a session runs while references are held, and whether one runs
can be told from what was done with references. What a taking has opened or found lasts until the
idle time is over after a return that left nobody, with nothing done since, and no longer. Then the
session and all samplers are told to stop, at once, and all of them end. -/
theorem Course.lifetime {settings : SamplingSettings} {filter : LabelFilter} {host : ScriptedHost}
    {clock : Nat} (reached : Course (initial settings filter host clock) past p) :
    p.sampling.active = holders past ∧
      (p.sampling.start.2 = true ↔ p.sampling.isRunning = false) ∧
      (0 < p.sampling.active → p.sampling.isRunning = true) ∧
      (p.IsServed →
        (p.sampling.isRunning = true ↔ Lasts settings.idleTimeout p.clock past)) ∧
      (p.IsServed → ∀ later q, Course p.start later q → q.IsServed →
        (q.sampling.current = p.start.sampling.current ↔
          ¬ Lapsed settings.idleTimeout q.clock (past ++ [(p.clock, .taken)]) later)) ∧
      (∀ work, p.work.step? p.clock .idleTimer = some work →
        work.sampling.isRunning = false ∧ work.sampling.ids = []) ∧
      (p.sampling.isRunning = false →
        (∀ t ∈ p.sampling.sessions, t.stopped = true) ∧
        (∀ t ∈ p.sampling.samplers, p.sampling.isCancelled t = true) ∧
        ((∀ t, p.work.step? p.clock t = none) →
          p.sampling.ids = [] ∧ (∀ t ∈ p.sampling.sessions, t.phase = .ended) ∧
            ∀ t ∈ p.sampling.samplers, t.phase = .ended)) := by
  have fresh : Tenure settings.idleTimeout []
      (initial settings filter host clock).sampling := tenure_ofSettings settings filter
  have tenure : Tenure settings.idleTimeout past p.sampling := reached.tenure fresh
  refine ⟨tenure.active, ?_, tenure.running, fun served => ?_,
    fun served later q course served' => ?_, fun work fired => ?_, fun ended => ?_⟩
  · unfold Sampling.start Sampling.isRunning
    cases p.sampling.current <;> simp
  · rw [Sampling.isRunning]
    rcases reached.lasting fresh rfl with ⟨runs, foretold⟩ | ⟨ended, expired⟩
    · have lasts := Classical.not_not.mp (foretold.not_gone served)
      simp [lasts, Option.isSome_iff_ne_none, runs]
    · simp [ended, expired]
  · have begun := Lease.mk.inj (Sampling.lease_start p.sampling)
    have current : p.start.sampling.current = some _ := begun.2.2.1
    have waiting : p.start.sampling.deadline = none := begun.2.2.2.1
    rw [current]
    rcases course.lapse (tenure.start p.clock) current waiting with
      ⟨runs, foretold⟩ | ⟨stopped, lapsed⟩
    · simp [runs, foretold.not_gone served']
    · have after := course.tenure (tenure.start p.clock)
      simp only [lapsed, not_true, iff_false]
      exact after.not_running stopped
  · obtain ⟨⟨d, waiting, -⟩, rfl⟩ := SampledHost.step?_idleTimer.mp fired
    have ended : p.work.sampling.expire.current = none := (tenure.torn waiting).1
    exact ⟨by simp [Sampling.isRunning, ended], (tenure.torn waiting).2⟩
  · have ended : p.sampling.current = none := by simpa [Sampling.isRunning] using ended
    obtain ⟨sessions, samplers⟩ := tenure.orderly.torn tenure.owned ended
    exact ⟨sessions, samplers, tenure.orderly.gone tenure.owned ended⟩

/-! ### A session that lingers

It is opened for a host with one running container, at the beginning. The reference is given back at
3, and a surplus one at 7. -/

def wait (milliseconds : Nat) (m : Moment) : Moment :=
  ({ m with clock := m.clock + milliseconds } : Moment).settle

theorem Course.wait (course : Course m hs v) (milliseconds : Nat) :
    Course m hs (v.wait milliseconds) := (course.pass milliseconds).settle

theorem isServed_wait (milliseconds : Nat) (m : Moment) : (m.wait milliseconds).IsServed :=
  isServed_settle _

def quiet : Moment :=
  initial { idleTimeout := 5 } .all
    ((ScriptedHost.named "fake").put { id := "aaa", name := "web", state := .running }) 0

def opened : Moment := (quiet.wait 0).start.wait 3

def released : Moment := (opened.stop.wait 4).stop

theorem course_released :
    Course quiet [(0, .taken), (3, .returned), (7, .returned)] released := by
  have opened := ((Course.nil.wait 0).start (isServed_wait 0 quiet)).wait 3
  exact ((opened.stop (isServed_wait 3 _)).wait 4).stop (isServed_wait 4 _)

/-- The surplus return has begun the idle time anew: it is not over after four milliseconds, and is
after five, when everything ends. -/
theorem Course.lifetime_released :
    Course quiet [(0, .taken), (3, .returned), (7, .returned)] (released.wait 4) ∧
      (released.wait 4).sampling.ids = ["aaa"] ∧
      Lasts 5 11 [(0, .taken), (3, .returned), (7, .returned)] ∧
      Course quiet [(0, .taken), (3, .returned), (7, .returned)] (released.wait 5) ∧
      ¬ Lasts 5 12 [(0, .taken), (3, .returned), (7, .returned)] ∧
      (released.wait 5).sampling.active = 0 ∧ (released.wait 5).sampling.ids = [] ∧
      (∀ t ∈ (released.wait 5).sampling.sessions, t.phase = .ended) ∧
      ∀ t ∈ (released.wait 5).sampling.samplers, t.phase = .ended := by
  have before := course_released.wait 4
  have after := course_released.wait 5
  obtain ⟨-, -, -, lasting, -⟩ := before.lifetime
  obtain ⟨active, -, -, ended, -, -, gone⟩ := after.lifetime
  have runs : (released.wait 4).sampling.isRunning = true := by decide +kernel
  have stopped : (released.wait 5).sampling.isRunning = false := by decide +kernel
  have rest : ((released.wait 5).work.tasks.all fun t =>
      ((released.wait 5).work.step? (released.wait 5).clock t).isNone) = true := by decide +kernel
  obtain ⟨-, -, everything⟩ := gone stopped
  refine ⟨before, by decide +kernel, (lasting (isServed_wait 4 _)).mp runs, after, ?_, active,
    everything (Sampling.rest_of_tasks rest)⟩
  exact fun lasts => absurd ((ended (isServed_wait 5 _)).mpr lasts) (by simp [stopped])

end Moment

end ContainerWatch
