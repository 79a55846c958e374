import ContainerWatch.Proofs.Log.Backpressure
import ContainerWatch.Proofs.Log.Standing

/-!
How long a record is held back. When a pipeline has done all it can and its output is taken, at most
one record of those decoded is not handed out: the current one, and it has not been current for as
long as a look ahead lasts. Once that time has passed without new input, every record is out, and
one that was inside a group is the end of it.
-/

namespace ContainerWatch.Log

namespace Group

variable {window : Int}

theorem Grouped.length_eq {rs ds : List Record} {seen : List (Record × Bool)} {cur : Option Record}
    (h : Grouped window rs seen ds cur) : seen.length = ds.length := by
  induction h with
  | start => rfl
  | turn r h ih => exact ih
  | found linked h ih => simp [ih]
  | alone h ih => simp [ih]

theorem Grouped.alone_at {rs ds : List Record} {seen : List (Record × Bool)} {cur : Option Record}
    (h : Grouped window rs seen ds cur) (fresh : ∀ r ∈ rs, r.IsFresh) {k : Nat} {c : Record}
    (alone : seen[k]? = some (c, false)) :
    ds[k]? = some (close c) ∧
      ∃ s, Standing.of? ((ds.take k).map Record.entry) = some s ∧ Fits s c := by
  induction h with
  | start => simp at alone
  | turn r h ih => exact ih (fun r hr => fresh r (List.mem_append_left _ hr)) alone
  | @found rs seen ds c' next decided left linked h ih =>
    obtain ⟨before, hk⟩ : seen[k]? = some (c, false) ∧ k < ds.length := by
      rw [← h.length_eq]
      grind
    rw [List.getElem?_append_left hk, List.take_append_of_le_length (Nat.le_of_lt hk)]
    exact ih (fun r hr => fresh r (List.mem_append_left _ hr)) before
  | @alone rs seen ds c' h ih =>
    obtain before | last := Nat.lt_or_ge k seen.length
    · rw [List.getElem?_append_left before] at alone
      rw [h.length_eq] at before
      rw [List.getElem?_append_left before, List.take_append_of_le_length (Nat.le_of_lt before)]
      exact ih fresh alone
    · obtain ⟨rfl, rfl⟩ : k = ds.length ∧ c' = c := by
        rw [← h.length_eq]
        grind
      refine ⟨by simp, ?_⟩
      simpa using h.standing fresh

theorem position_close_of_fits {c : Record} {l : Severity} (fits : Fits (.inside l) c) :
    position (close c) = some .finish := by
  rw [close, if_pos fits.1]
  rfl

end Group

namespace Pipeline

def isDrained (p : Pipeline) : Bool := p.isStill && p.events.isEmpty

def turnsTo (p q : Pipeline) : List (Record × Nat) :=
  match p.grouping, q.grouping with
  | .peeking _ _, _ => []
  | _, .peeking r _ => [(r, p.clock)]
  | _, _ => []

/-- The records decoded so far. A stream that goes on reads so far as if it broke off here, which
leaves out a frame that is not complete. -/
def Journal.decoded (j : Journal) (container : String) (tty : Bool) (ending : Option Ending) :
    List Record :=
  j.records container tty (ending.getD (.broken ""))

/-- Runs that nobody asks to stop, with the records that became current and when. Bytes come in
pieces of any size and at any time until the stream ends. -/
inductive Watched (tuning : Tuning) (container : String) (tty : Bool) :
    List (Record × Nat) → Journal → Pipeline → Prop
  | start : Watched tuning container tty [] {} (start tuning container tty)
  | arrive {turns j p} (bytes : List UInt8) (open_ : p.ending = none)
      (h : Watched tuning container tty turns j p) :
    Watched tuning container tty turns { j with chunks := j.chunks ++ [bytes] } (p.arrive bytes)
  | finishInput {turns j p} (ending : Ending) (open_ : p.ending = none)
      (h : Watched tuning container tty turns j p) :
    Watched tuning container tty turns j (p.finishInput ending)
  | advance {turns j p} (ms : Nat) (h : Watched tuning container tty turns j p) :
    Watched tuning container tty turns j (p.advance ms)
  | take {turns j p q e} (took : p.takeEvent? = some (e, q))
      (h : Watched tuning container tty turns j p) :
    Watched tuning container tty turns { j with taken := j.taken ++ [e] } q
  | move {turns j p q} (m : Move) (moved : p.step? m = some q)
      (h : Watched tuning container tty turns j p) :
    Watched tuning container tty (turns ++ p.turnsTo q) { j with looks := j.looks ++ p.look m } q

variable {tuning : Tuning} {container : String} {tty : Bool} {turns : List (Record × Nat)}
  {j : Journal} {p q : Pipeline}

theorem Watched.run (h : Watched tuning container tty turns j p) :
    Run tuning container tty j p := by
  induction h with
  | start => exact .start
  | arrive bytes open_ h ih => exact ih.arrive bytes open_
  | finishInput ending open_ h ih => exact ih.finishInput ending open_
  | advance ms h ih => exact ih.advance ms
  | take took h ih => exact ih.take took
  | move m moved h ih => exact ih.move m moved

theorem Watched.calm (h : Watched tuning container tty turns j p) : p.cancelled = false := by
  induction h with
  | start => rfl
  | arrive bytes open_ h ih => exact ih
  | finishInput ending open_ h ih => exact ih
  | advance ms h ih => exact ih
  | take took h ih =>
    obtain ⟨rest, -, rfl⟩ := takeEvent?_eq_some took
    exact ih
  | move m moved h ih => exact (step_of_step? moved).outside_eq.2.1.trans ih

theorem Run.watched (run : Run tuning container tty j p) (calm : p.cancelled = false) :
    ∃ turns, Watched tuning container tty turns j p := by
  induction run with
  | start => exact ⟨[], .start⟩
  | arrive bytes open_ h ih => exact (ih calm).imp fun _ hw => hw.arrive bytes open_
  | finishInput ending open_ h ih => exact (ih calm).imp fun _ hw => hw.finishInput ending open_
  | advance ms h ih => exact (ih calm).imp fun _ hw => hw.advance ms
  | take took h ih =>
    obtain ⟨rest, -, rfl⟩ := takeEvent?_eq_some took
    exact (ih calm).imp fun _ hw => hw.take took
  | cancel h ih => simp [Pipeline.cancel] at calm
  | abandon h ih => simp [Pipeline.abandon] at calm
  | move m moved h ih =>
    obtain ⟨-, cancelled, -⟩ := (step_of_step? moved).outside_eq
    obtain ⟨turns, hw⟩ := ih (cancelled.symm.trans calm)
    exact ⟨_, hw.move m moved⟩

/-! ### When the current record became so -/

theorem turnsTo_eq_nil {c : Record} {deadline : Nat} (looks : p.grouping = .peeking c deadline) :
    p.turnsTo q = [] := by
  simp [turnsTo, looks]

theorem Step.looks {m : Move} (h : p.Step m q) {c : Record} {deadline : Nat}
    (looks : q.grouping = .peeking c deadline) :
    p.grouping = .peeking c deadline ∨
      p.turnsTo q = [(c, p.clock)] ∧ deadline = p.clock + p.tuning.peekTimeout := by
  cases h with
  | receive waits queue =>
    obtain ⟨rfl, rfl⟩ := GroupingTask.peeking.inj looks
    exact .inr ⟨by simp [turnsTo, waits], rfl⟩
  | @emit c next holds received room =>
    cases next with
    | none => simp at looks
    | some r =>
      obtain ⟨rfl, rfl⟩ := GroupingTask.peeking.inj looks
      exact .inr ⟨by simp [turnsTo, holds], rfl⟩
  | exhaust => simp at looks
  | peek => simp at looks
  | expire => simp at looks
  | emitNowhere => simp at looks
  | stopGrouping => simp at looks
  | _ => exact .inl looks

theorem Step.clock_eq {m : Move} (h : p.Step m q) : q.clock = p.clock := by
  cases h <;> rfl

theorem Watched.deadline_eq (h : Watched tuning container tty turns j p) {c : Record}
    {deadline : Nat} (looks : p.grouping = .peeking c deadline) :
    ∃ t, turns.getLast? = some (c, t) ∧ deadline = t + tuning.peekTimeout ∧ t ≤ p.clock := by
  induction h generalizing c deadline with
  | start => simp [Pipeline.start] at looks
  | arrive bytes open_ h ih => exact ih looks
  | finishInput ending open_ h ih => exact ih looks
  | advance ms h ih =>
    obtain ⟨t, last, set, past⟩ := ih looks
    exact ⟨t, last, set, Nat.le_add_right_of_le past⟩
  | take took h ih =>
    obtain ⟨rest, -, rfl⟩ := takeEvent?_eq_some took
    exact ih looks
  | @move turns j p q m moved h ih =>
    have stepped := step_of_step? moved
    rw [stepped.clock_eq]
    obtain goesOn | ⟨turned, set⟩ := stepped.looks looks
    · rw [turnsTo_eq_nil goesOn, List.append_nil]
      exact ih goesOn
    · rw [turned, List.getLast?_concat]
      rw [h.run.tuning_eq.1] at set
      exact ⟨p.clock, rfl, set, Nat.le_refl _⟩

/-! ### What is held when nothing moves -/

theorem isDrained_iff : p.isDrained ↔ p.isStill ∧ p.events = [] := by
  simp [isDrained]

theorem all_of_isStill (still : p.isStill) (reading : p.reading = .reading) :
    p.arrived = [] ∧ p.ending = none := by
  have stuck := step?_of_isStill still .read
  cases arrived : p.arrived with
  | nil =>
    cases ending : p.ending with
    | none => exact ⟨rfl, rfl⟩
    | some ending => simp [step?, reading, read?, arrived, ending] at stuck
  | cons b bytes =>
    simp only [step?, reading, read?, arrived] at stuck
    split at stuck <;> simp at stuck

theorem reading_of_isStill (still : p.isStill) (queue : p.records = [])
    (going : p.grouping ≠ .stopped) (goesOn : p.reading ≠ .stopped) : p.reading = .reading := by
  cases reading : p.reading with
  | reading => rfl
  | stopped => exact absurd reading goesOn
  | holding r =>
    exact absurd reading (ne_holding_of_step? (step?_of_isStill still .pass) going queue r)

/-- Where grouping stands that nobody asked to stop, when no task can go on and nothing is left to
take: at its end with all that was read, or it waits for a record or for time to pass. -/
inductive Resting (p : Pipeline) : Prop
  | ended (reading : p.reading = .stopped) (grouping : p.grouping = .stopped)
  | waiting (reading : p.reading = .reading) (grouping : p.grouping = .waiting)
  | looking {c : Record} {deadline : Nat} (reading : p.reading = .reading)
      (grouping : p.grouping = .peeking c deadline) (due : p.clock < deadline)

theorem Undisturbed.resting {rs lost : List Record} {cur : Option Record}
    (h : Undisturbed tty j p rs lost cur) (drained : p.isDrained) :
    p.records = [] ∧ Resting p := by
  obtain ⟨still, events⟩ := isDrained_iff.mp drained
  have stuck := step?_of_isStill still
  cases grouping : p.grouping with
  | stopped =>
    obtain ⟨-, -, queue, reading⟩ := h.exhausted grouping
    exact ⟨queue, .ended reading grouping⟩
  | waiting =>
    obtain ⟨queue, goesOn⟩ := waiting_of_step? grouping (stuck .receive)
    have reading := reading_of_isStill still queue (by simp [grouping]) goesOn
    exact ⟨queue, .waiting reading grouping⟩
  | peeking c deadline =>
    obtain ⟨queue, goesOn, due⟩ := peeking_of_step? grouping (stuck .peek) (stuck .expire)
    have reading := reading_of_isStill still queue (by simp [grouping]) goesOn
    exact ⟨queue, .looking reading grouping due⟩
  | holding c next =>
    have full := full_of_step? grouping (stuck .emit) h.received
    have room := p.capacity_pos
    rw [events, List.length_nil] at full
    omega

/-- A stream that breaks off gives no record of what is not complete. -/
theorem recordsOf_readings_broken (container : String) (d : Decoder) (cause : String) :
    recordsOf container (d.readings (.broken cause) []) = [] := by
  rfl

theorem Undisturbed.decoded_eq {rs lost : List Record} {cur : Option Record}
    (h : Undisturbed tty j p rs lost cur) (drained : p.isDrained) :
    j.decoded p.container tty p.ending = rs := by
  obtain ⟨queue, resting⟩ := h.resting drained
  have possible : p.Possible (p.ending.getD (.broken "")) [] := by
    cases ending : p.ending <;> simp [Possible, ending]
  have whole := h.sourced.whole _ _ possible
  rw [queue, List.append_nil, List.append_nil] at whole
  rw [Journal.decoded, Journal.records_eq, ← whole]
  have still := (isDrained_iff.mp drained).1
  have reads : p.reading = .reading →
      p.ahead (p.ending.getD (.broken "")) [] = [] ∧ p.reading.held = [] := fun reading => by
    obtain ⟨all, open_⟩ := all_of_isStill still reading
    rw [ahead_of_ne_stopped (by simp [reading]), all, open_, reading]
    exact ⟨recordsOf_readings_broken _ _ _, rfl⟩
  cases resting with
  | ended reading grouping =>
    rw [ahead_of_stopped reading, reading]
    simp [ReadingTask.held]
  | waiting reading grouping => simp [reads reading]
  | looking reading grouping due => simp [reads reading]

/-! ### Time passes without new input -/

theorem runTask_of_none {ms : List Move} (fuel : Nat) (h : p.firstOf ms = none) :
    runTask ms fuel p = p := by
  cases fuel with
  | zero => rfl
  | succ fuel => rw [runTask, h]

theorem runTask_of_some {ms : List Move} (fuel : Nat) (h : p.firstOf ms = some q) :
    runTask ms (fuel + 1) p = runTask ms fuel q := by
  rw [runTask, h]

/-- Reading waits for bytes, the queue is empty, and the output is taken by somebody. -/
structure Quiet (p : Pipeline) : Prop where
  reading : p.reading = .reading
  all : p.arrived = []
  open_ : p.ending = none
  queue : p.records = []
  calm : p.cancelled = false
  received : p.received = true

theorem Undisturbed.quiet {rs lost : List Record} {cur : Option Record}
    (h : Undisturbed tty j p rs lost cur) (calm : p.cancelled = false) (drained : p.isDrained)
    (reading : p.reading = .reading) : p.Quiet :=
  have idle := all_of_isStill (isDrained_iff.mp drained).1 reading
  ⟨reading, idle.1, idle.2, (h.resting drained).1, calm, h.received⟩

theorem Quiet.firstOf_readingMoves (h : p.Quiet) : p.firstOf readingMoves = none := by
  simp [firstOf, readingMoves, step?, h.reading, read?, h.all, h.open_, h.calm]

theorem Quiet.firstOf_of_due (h : p.Quiet) {c : Record} {deadline : Nat}
    (grouping : p.grouping = .peeking c deadline) (due : deadline ≤ p.clock) :
    p.firstOf groupingMoves = some { p with grouping := .holding (Group.close c) none } := by
  simp [firstOf, groupingMoves, step?, grouping, peek?, expire?, decideAbout, Group.check, h.queue,
    h.calm, due]

theorem Quiet.firstOf_of_alone (h : p.Quiet) {c : Record} (grouping : p.grouping = .holding c none)
    (events : p.events = []) :
    p.firstOf groupingMoves = some { p with events := [c.entry], grouping := .waiting } := by
  have room := p.capacity_pos
  simp [firstOf, groupingMoves, step?, grouping, emit?, h.calm, h.received, events, room]

theorem Quiet.isStill_of_waiting (h : p.Quiet) (grouping : p.grouping = .waiting) : p.isStill := by
  refine isStill_of_step? fun m => ?_
  cases m <;> simp [step?, grouping, read?, receive?, readingStopped, h.reading, h.all, h.open_,
    h.queue, h.calm]

theorem Quiet.settle_of_due (h : p.Quiet) {c : Record} {deadline : Nat}
    (grouping : p.grouping = .peeking c deadline) (due : deadline ≤ p.clock)
    (events : p.events = []) :
    p.settle = { p with events := [(Group.close c).entry], grouping := .waiting } ∧
      p.settle.isStill := by
  have decided : ({ p with
      grouping := .holding (Group.close c) none } : Pipeline).Quiet := { h with }
  have quiet : ({ p with
      events := [(Group.close c).entry], grouping := .waiting } : Pipeline).Quiet := { h with }
  have still := quiet.isStill_of_waiting rfl
  suffices settled : p.settle = _ from ⟨settled, settled ▸ still⟩
  have movable : ¬ p.isStill := fun stuck => by
    simpa [h.firstOf_of_due grouping due] using firstOf_of_isStill stuck groupingMoves
  have reads : runTask readingMoves 32 p = p := runTask_of_none 32 h.firstOf_readingMoves
  have groups : runTask groupingMoves 32 p =
      { p with events := [(Group.close c).entry], grouping := .waiting } := by
    rw [runTask_of_some 31 (h.firstOf_of_due grouping due),
      runTask_of_some 30 (decided.firstOf_of_alone rfl events)]
    exact runTask_of_none 30 (firstOf_of_isStill still groupingMoves)
  have fuel : p.fuel = 32 := by simp [Pipeline.fuel, h.all, h.queue]
  rw [settle, fuel, takeTurns, ← isStill, if_neg movable]
  simp only [fuel, reads, groups]
  exact takeTurns_of_isStill 31 still

/-! ### What a run holds back -/

/-- What a run has handed out when nothing moves and nothing is left to take. -/
structure Withheld (tuning : Tuning) (container : String) (tty : Bool)
    (turns : List (Record × Nat)) (j : Journal) (p : Pipeline) : Prop where
  /-- Of the records decoded, at most the one that became current last is not handed out, and not
  as much time has passed since as a look ahead lasts. -/
  held : ∃ held : Option (Record × Nat),
    (j.decoded container tty p.ending).map Record.plain =
      j.taken.map Entry.plain ++ held.toList.map (fun h => h.1.plain) ∧
    ∀ r t, held = some (r, t) →
      turns.getLast? = some (r, t) ∧ t ≤ p.clock ∧ p.clock < t + tuning.peekTimeout
  /-- Once so much time passes without new input, every record is handed out; inside a group, as
  the end of it. -/
  released : ∀ extra : Nat,
    let q := (p.advance (tuning.peekTimeout + extra)).settle
    q.isStill ∧
      (j.decoded container tty q.ending).map Record.plain = (j.emitted q).map Entry.plain ∧
      ∀ l, Standing.of? j.taken = some (.inside l) →
        q.events.map Entry.position = [some .finish]
  /-- Wherever a look ahead found nothing inside a group, its record came as the end of it. -/
  closed : ∀ k c e l, j.looks[k]? = some (c, false) → j.taken[k]? = some e →
    Standing.of? (j.taken.take k) = some (.inside l) → e.position = some .finish

theorem Undisturbed.lost_eq {window : Int} {rs ds lost : List Record} {cur : Option Record}
    (h : Undisturbed tty j p rs lost cur) (hp : Progress window j p rs ds lost cur)
    (drained : p.isDrained) : lost = [] ∧ cur = p.grouping.current := by
  obtain ⟨-, resting⟩ := h.resting drained
  cases resting with
  | ended reading grouping =>
    obtain ⟨rfl, rfl, -, -⟩ := h.exhausted grouping
    rw [grouping]
    exact ⟨rfl, rfl⟩
  | waiting reading grouping =>
    rw [grouping]
    exact hp.lost_eq grouping (by simp)
  | looking reading grouping due =>
    rw [grouping]
    exact hp.lost_eq grouping (by simp)

/-- What a drained run has taken are the records decoded but for the current one, which is inside of
a group if what was taken leads there. -/
theorem Watched.taken_of_isDrained (run : Watched tuning container tty turns j p)
    (drained : p.isDrained) :
    (j.decoded container tty p.ending).map Record.plain =
      j.taken.map Entry.plain ++ p.grouping.current.toList.map Record.plain ∧
    ∀ l, Standing.of? j.taken = some (.inside l) →
      ∃ c, p.grouping.current = some c ∧ Group.Fits (.inside l) c := by
  obtain ⟨rs, ds, lost, cur, hp, hu⟩ := run.run.reaches
  have hu := hu run.calm
  obtain ⟨rfl, current⟩ := hu.lost_eq hp drained
  have taken : j.taken = ds.map Record.entry := by
    simpa [Journal.emitted, (isDrained_iff.mp drained).2] using hp.emitted
  rw [← current]
  refine ⟨?_, fun l inside => ?_⟩
  · rw [← run.run.tuning_eq.2, hu.decoded_eq drained, ← hp.grouped.decided_plain, taken,
      List.map_map]
    rfl
  · obtain ⟨s, hs, hc⟩ := hp.grouped.standing fun r hr => hp.fresh r (by simp [hr])
    obtain rfl : .inside l = s := by simpa [← taken, inside] using hs
    cases cur with
    | none => simp at hc
    | some c => exact ⟨c, rfl, hc⟩

theorem Run.position_of_alone (run : Run tuning container tty j p) {k : Nat} {c : Record}
    {e : Entry} {l : Severity} (alone : j.looks[k]? = some (c, false))
    (out : (j.emitted p)[k]? = some e)
    (inside : Standing.of? ((j.emitted p).take k) = some (.inside l)) :
    e.position = some .finish := by
  obtain ⟨rs, ds, lost, cur, hp, -⟩ := run.reaches
  obtain ⟨decided, s, hs, fits⟩ := hp.grouped.alone_at (fun r hr => hp.fresh r (by simp [hr])) alone
  have hk : k < (j.emitted p).length := (List.getElem?_eq_some_iff.mp out).1
  have first : (j.emitted p).take k = (ds.take k).map Record.entry := by
    rw [List.map_take, ← hp.emitted, List.take_append_of_le_length (Nat.le_of_lt hk)]
  have same : e = (Group.close c).entry := by
    have at_ : (ds.map Record.entry)[k]? = some e := by
      rw [← hp.emitted, List.getElem?_append_left hk, out]
    simpa [decided] using at_.symm
  obtain rfl : .inside l = s := by simpa [← first, inside] using hs
  rw [same]
  exact Group.position_close_of_fits fits

theorem Watched.current_of_isDrained (run : Watched tuning container tty turns j p)
    (drained : p.isDrained) {c : Record} (current : p.grouping.current = some c) :
    ∃ t, turns.getLast? = some (c, t) ∧ t ≤ p.clock ∧ p.clock < t + tuning.peekTimeout := by
  obtain ⟨rs, ds, lost, cur, hp, hu⟩ := run.run.reaches
  obtain ⟨-, resting⟩ := (hu run.calm).resting drained
  cases resting with
  | ended reading grouping => simp [grouping, GroupingTask.current] at current
  | waiting reading grouping => simp [grouping, GroupingTask.current] at current
  | looking reading grouping due =>
    obtain ⟨t, last, rfl, past⟩ := run.deadline_eq grouping
    obtain rfl := Option.some.inj (grouping ▸ current)
    exact ⟨t, last, past, due⟩

theorem Watched.settle_advance (run : Watched tuning container tty turns j p)
    (drained : p.isDrained) {ms : Nat} (long : tuning.peekTimeout ≤ ms) :
    (p.advance ms).settle.isStill ∧ (p.advance ms).settle.ending = p.ending ∧
      (p.advance ms).settle.events =
        p.grouping.current.toList.map fun c => (Group.close c).entry := by
  obtain ⟨rs, ds, lost, cur, hp, hu⟩ := run.run.reaches
  have hu := hu run.calm
  have events := (isDrained_iff.mp drained).2
  have quiet : p.reading = .reading → (p.advance ms).Quiet := fun reading =>
    { hu.quiet run.calm drained reading with }
  obtain ⟨-, resting⟩ := hu.resting drained
  cases resting with
  | ended reading grouping =>
    have still : (p.advance ms).isStill := isStill_of_stopped reading grouping
    rw [settle_of_isStill still, grouping]
    exact ⟨still, rfl, events⟩
  | waiting reading grouping =>
    have still := (quiet reading).isStill_of_waiting grouping
    rw [settle_of_isStill still, grouping]
    exact ⟨still, rfl, events⟩
  | @looking c deadline reading grouping due =>
    obtain ⟨t, -, rfl, past⟩ := run.deadline_eq grouping
    have late : t + tuning.peekTimeout ≤ (p.advance ms).clock := Nat.add_le_add past long
    obtain ⟨settled, still⟩ := (quiet reading).settle_of_due grouping late events
    refine ⟨still, ?_⟩
    rw [settled, grouping]
    exact ⟨rfl, rfl⟩

/-- Records are held back briefly. However bytes, time and takers come, of the records decoded at
most one is not handed out once no task can go on and nothing is left to take, and it is the one
that became current last, less than the time of a look ahead ago. When that time has passed without
new input, every record is handed out, and what is handed out alone inside of a group ends it. -/
theorem Watched.withheld (run : Watched tuning container tty turns j p) (drained : p.isDrained) :
    Withheld tuning container tty turns j p := by
  obtain ⟨decoded, inGroup⟩ := run.taken_of_isDrained drained
  refine ⟨?_, fun extra => ?_, fun k c e l alone out inside => ?_⟩
  · rw [decoded]
    cases current : p.grouping.current with
    | none => exact ⟨none, rfl, by simp⟩
    | some c =>
      obtain ⟨t, last, past, due⟩ := run.current_of_isDrained drained current
      refine ⟨some (c, t), rfl, fun r t' held => ?_⟩
      obtain ⟨rfl, rfl⟩ := Prod.mk.inj (Option.some.inj held)
      exact ⟨last, past, due⟩
  · obtain ⟨still, ending, events⟩ :=
      run.settle_advance drained (Nat.le_add_right tuning.peekTimeout extra)
    refine ⟨still, ?_, fun l inside => ?_⟩
    · rw [ending, decoded, Journal.emitted, events, List.map_append, List.map_map]
      refine congrArg (j.taken.map Entry.plain ++ ·) (List.map_congr_left fun c _ => ?_)
      exact (Group.close_plain c).symm
    · obtain ⟨c, current, fits⟩ := inGroup l inside
      rw [events, current]
      exact congrArg ([·]) (Group.position_close_of_fits fits)
  · have all : j.emitted p = j.taken := by
      rw [Journal.emitted, (isDrained_iff.mp drained).2, List.append_nil]
    rw [← all] at out inside
    exact run.run.position_of_alone alone out inside

/-- Three lines of one group and the beginning of another, a millisecond before the third line has
waited long enough. -/
def pausing : Pipeline :=
  let come := ((start {} "web" true).arrive (threeLines ++ [97])).settle
  (takeSettled 9 9 come).2.2.advance 49

theorem run_pausing : ∃ j, Run {} "web" true j pausing := by
  have h0 : Run {} "web" true {} (start {} "web" true) := .start
  obtain ⟨_, h1, -⟩ := (h0.arrive (threeLines ++ [97]) rfl).settle
  obtain ⟨j, h2, -⟩ := h1.takeSettled 9 9
  exact ⟨j, h2.advance 49⟩

theorem Watched.withheld_pausing :
    ∃ turns j, Watched {} "web" true turns j pausing ∧ pausing.isDrained = true ∧
      Withheld {} "web" true turns j pausing := by
  have drained : pausing.isDrained = true := by decide +kernel
  obtain ⟨j, run⟩ := run_pausing
  obtain ⟨turns, watched⟩ := run.watched (by decide +kernel)
  exact ⟨turns, j, watched, drained, watched.withheld drained⟩

end Pipeline

end ContainerWatch.Log
