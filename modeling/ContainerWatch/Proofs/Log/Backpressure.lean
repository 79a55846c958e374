import ContainerWatch.Proofs.Log.Refinement

/-!
Runs in which no time passes while a task can go on. The whole stream is there from the beginning,
so a record can miss its successor only at the end: a task that waits for time to pass waits for
room in the output, and never while it looks ahead. What such a run hands out is the batch grouping
of all records, however narrow the queues are and whenever somebody takes from them.
-/

namespace ContainerWatch.Log

namespace Group

variable {window : Int}

theorem linkAll_isPrefix (r : Record) (rest more : List Record) :
    (linkAll window r rest).1 <+: batch window (r :: rest ++ more) := by
  induction rest generalizing r with
  | nil => exact List.nil_prefix
  | cons next rest ih => exact List.cons_prefix_cons.mpr ⟨rfl, ih (link window r next).2⟩

def Unbroken (looks : List (Record × Bool)) : Prop := ∀ l ∈ looks, l.2 = true

/-- What is decided about the records of one segment that is still open. -/
inductive Opened (window : Int) : List Record → List Record → Option Record → Prop
  | empty : Opened window [] [] none
  | going (r : Record) (rest : List Record) :
    Opened window (r :: rest) (linkAll window r rest).1 (some (linkAll window r rest).2)

theorem Opened.isPrefix {rs ds : List Record} {cur : Option Record}
    (h : Opened window rs ds cur) (more : List Record) : ds <+: batch window (rs ++ more) := by
  cases h with
  | empty => exact List.nil_prefix
  | going r rest => exact linkAll_isPrefix r rest more

/-- Until a look ahead finds nothing, there is one segment. -/
theorem Grouped.opened {rs ds : List Record} {seen : List (Record × Bool)} {cur : Option Record}
    (h : Grouped window rs seen ds cur) (unbroken : Unbroken seen) : Opened window rs ds cur := by
  induction h with
  | start => exact .empty
  | turn r h ih =>
    cases ih unbroken with
    | empty => exact .going r []
  | @found _ _ _ _ next _ _ linked h ih =>
    cases ih fun l hl => unbroken l (List.mem_append_left _ hl) with
    | going r rest =>
      have whole := @linkAll_append_singleton window r rest next
      have longer := @Opened.going window r (rest ++ [next])
      rwa [whole, linked] at longer
  | alone h ih =>
    have last := unbroken _ (List.mem_append_right _ (List.mem_singleton_self _))
    simp at last

theorem Grouped.eq_batch {rs ds : List Record} {seen : List (Record × Bool)} {c : Record}
    (h : Grouped window rs (seen ++ [(c, false)]) ds none) (unbroken : Unbroken seen) :
    ds = batch window rs := by
  generalize all : seen ++ [(c, false)] = looks at h
  cases h with
  | start => simp at all
  | alone h =>
    obtain ⟨rfl, last⟩ := List.append_inj' all rfl
    obtain ⟨rfl⟩ : c = _ := by simpa using last
    cases h.opened unbroken with
    | going r rest => exact (batchFrom_eq r rest).symm

end Group

namespace Pipeline

/-- Whether every task waits for something outside. The rest of the stream can be read at any time,
so the reading task does not wait while it reads. -/
def isAtRest (p : Pipeline) : Bool :=
  (p.firstOf (readingMoves ++ groupingMoves)).isNone && match p.reading with
    | .reading => false
    | _ => true

/-- Runs on a stream that is there as a whole from the beginning, with the bytes that are still to
be handed to the reading task. It is given them in pieces of any size, events are taken at any time,
and time passes by any amount, but only when every task is at rest. -/
inductive Prompt (tuning : Tuning) (container : String) (tty : Bool) (bytes : List UInt8) :
    List UInt8 → Journal → Pipeline → Prop
  | start : Prompt tuning container tty bytes bytes {} (start tuning container tty)
  | arrive {rest j p} (piece : List UInt8) (open_ : p.ending = none)
      (h : Prompt tuning container tty bytes (piece ++ rest) j p) :
    Prompt tuning container tty bytes rest { j with chunks := j.chunks ++ [piece] } (p.arrive piece)
  | finishInput {j p} (open_ : p.ending = none) (h : Prompt tuning container tty bytes [] j p) :
    Prompt tuning container tty bytes [] j (p.finishInput .closed)
  | advance {rest j p} (ms : Nat) (idle : p.isAtRest)
      (h : Prompt tuning container tty bytes rest j p) :
    Prompt tuning container tty bytes rest j (p.advance ms)
  | take {rest j p q e} (took : p.takeEvent? = some (e, q))
      (h : Prompt tuning container tty bytes rest j p) :
    Prompt tuning container tty bytes rest { j with taken := j.taken ++ [e] } q
  | move {rest j p q} (m : Move) (moved : p.step? m = some q)
      (h : Prompt tuning container tty bytes rest j p) :
    Prompt tuning container tty bytes rest { j with looks := j.looks ++ p.look m } q

variable {tuning : Tuning} {container : String} {tty : Bool} {bytes rest : List UInt8}
  {j : Journal} {p q : Pipeline}

theorem Prompt.run (h : Prompt tuning container tty bytes rest j p) :
    Run tuning container tty j p := by
  induction h with
  | start => exact .start
  | arrive piece open_ h ih => exact ih.arrive piece open_
  | finishInput open_ h ih => exact ih.finishInput .closed open_
  | advance ms idle h ih => exact ih.advance ms
  | take took h ih => exact ih.take took
  | move m moved h ih => exact ih.move m moved

theorem Prompt.kept : Kept (Prompt tuning container tty bytes rest) where
  move m moved h := h.move m moved
  take took h := h.take took

/-! ### Tasks at rest -/

theorem capacity_pos (p : Pipeline) : 0 < p.capacity :=
  Nat.lt_of_lt_of_le Nat.one_pos (Nat.le_max_left 1 p.tuning.buffer)

theorem step?_of_isAtRest (h : p.isAtRest) (m : Move) : p.step? m = none := by
  simp only [isAtRest, Bool.and_eq_true] at h
  exact step?_of_isStill h.1 m

theorem ne_reading_of_isAtRest (h : p.isAtRest) : p.reading ≠ .reading := by
  intro reading
  simp [isAtRest, reading] at h

theorem ne_holding_of_step? (stuck : p.step? .pass = none) (going : p.grouping ≠ .stopped)
    (queue : p.records = []) (r : Record) : p.reading ≠ .holding r := by
  intro reading
  have room := p.capacity_pos
  unfold step? at stuck
  simp only [reading] at stuck
  unfold pass? at stuck
  split at stuck
  · next shut => exact absurd shut going
  · simp [queue, room] at stuck

theorem stopped_of_isAtRest (h : p.isAtRest) (going : p.grouping ≠ .stopped)
    (queue : p.records = []) : p.reading = .stopped := by
  cases reading : p.reading with
  | reading => exact absurd reading (ne_reading_of_isAtRest h)
  | stopped => rfl
  | holding r =>
    exact absurd reading (ne_holding_of_step? (step?_of_isAtRest h .pass) going queue r)

theorem waiting_of_step? (waits : p.grouping = .waiting) (stuck : p.step? .receive = none) :
    p.records = [] ∧ p.reading ≠ .stopped := by
  cases queue : p.records with
  | cons r rest => simp [step?, waits, receive?, queue] at stuck
  | nil =>
    refine ⟨rfl, fun stopped => ?_⟩
    simp [step?, waits, receive?, queue, readingStopped, stopped] at stuck

theorem peeking_of_step? {c : Record} {deadline : Nat} (looks : p.grouping = .peeking c deadline)
    (stuck : p.step? .peek = none) (early : p.step? .expire = none) :
    p.records = [] ∧ p.reading ≠ .stopped ∧ p.clock < deadline := by
  cases queue : p.records with
  | cons r rest => simp [step?, looks, peek?, queue] at stuck
  | nil =>
    have wait : p.readingStopped = false ∧ p.clock < deadline := by
      simpa [step?, looks, expire?, queue] using early
    refine ⟨rfl, fun stopped => ?_, wait.2⟩
    simp [readingStopped, stopped] at wait

theorem full_of_step? {c : Record} {next : Option Record} (holds : p.grouping = .holding c next)
    (stuck : p.step? .emit = none) (received : p.received = true) :
    p.capacity ≤ p.events.length := by
  obtain room | full := Nat.lt_or_ge p.events.length p.capacity
  · cases next <;> simp [step?, holds, emit?, received, room] at stuck
  · exact full

theorem grouping_of_isAtRest (h : p.isAtRest) :
    p.grouping = .stopped ∨
      ∃ c next, p.grouping = .holding c next ∧
        (p.received = true → p.capacity ≤ p.events.length) := by
  cases grouping : p.grouping with
  | stopped => exact .inl rfl
  | waiting =>
    obtain ⟨queue, going⟩ := waiting_of_step? grouping (step?_of_isAtRest h .receive)
    exact absurd (stopped_of_isAtRest h (by simp [grouping]) queue) going
  | peeking c deadline =>
    obtain ⟨queue, going, -⟩ := peeking_of_step? grouping (step?_of_isAtRest h .peek)
      (step?_of_isAtRest h .expire)
    exact absurd (stopped_of_isAtRest h (by simp [grouping]) queue) going
  | holding c next =>
    exact .inr ⟨c, next, rfl, full_of_step? grouping (step?_of_isAtRest h .emit)⟩

/-! ### What a run keeps -/

/-- How much of the stream has come, while the output is taken and nobody asks the tasks to stop. -/
structure Supplied (bytes rest : List UInt8) (j : Journal) (p : Pipeline) : Prop where
  whole : j.chunks.flatten ++ rest = bytes
  possible : p.Possible .closed rest
  calm : p.cancelled = false
  received : p.received = true

theorem Step.outside_eq {m : Move} (h : p.Step m q) :
    q.ending = p.ending ∧ q.cancelled = p.cancelled ∧ q.received = p.received := by
  cases h <;> exact ⟨rfl, rfl, rfl⟩

theorem Prompt.supplied (run : Prompt tuning container tty bytes rest j p) :
    Supplied bytes rest j p := by
  induction run with
  | start => exact ⟨rfl, .inl rfl, rfl, rfl⟩
  | arrive piece open_ h ih => exact ⟨by simpa using ih.whole, .inl open_, ih.calm, ih.received⟩
  | finishInput open_ h ih => exact ⟨ih.whole, .inr ⟨rfl, rfl⟩, ih.calm, ih.received⟩
  | advance ms idle h ih => exact ⟨ih.whole, ih.possible, ih.calm, ih.received⟩
  | take took h ih =>
    obtain ⟨others, -, rfl⟩ := takeEvent?_eq_some took
    exact ⟨ih.whole, ih.possible, ih.calm, ih.received⟩
  | move m moved h ih =>
    obtain ⟨ending, cancelled, received⟩ := (step_of_step? moved).outside_eq
    exact ⟨ih.whole, by simpa [Possible, ending] using ih.possible, cancelled.trans ih.calm,
      received.trans ih.received⟩

inductive Looks (j : Journal) (p : Pipeline) : Prop
  | going (unbroken : Group.Unbroken j.looks)
  | ended {seen : List (Record × Bool)} {c : Record} (looks : j.looks = seen ++ [(c, false)])
      (unbroken : Group.Unbroken seen) (queue : p.records = []) (reading : p.reading = .stopped)
      (current : p.grouping.current = none)

theorem Looks.congr {k : Journal} (h : Looks j p) (looks : k.looks = j.looks)
    (records : q.records = p.records) (reading : q.reading = p.reading)
    (grouping : q.grouping = p.grouping) : Looks k q := by
  cases h with
  | going unbroken => exact .going (looks ▸ unbroken)
  | ended seen unbroken queue stopped current =>
    exact .ended (looks.trans seen) unbroken (records.trans queue) (reading.trans stopped)
      (grouping ▸ current)

/-- No deadline has passed, and the looks ahead are as they should be. -/
structure Timely (j : Journal) (p : Pipeline) : Prop where
  due : ∀ c deadline, p.grouping = .peeking c deadline → p.clock < deadline
  looks : Looks j p

/-- A look ahead gives up only when reading has stopped. -/
theorem Looks.step {m : Move} (h : Looks j p) (calm : p.cancelled = false)
    (due : ∀ c deadline, p.grouping = .peeking c deadline → p.clock < deadline)
    (stepped : p.Step m q) : Looks { j with looks := j.looks ++ p.look m } q := by
  cases h with
  | going unbroken =>
    cases stepped with
    | @peek c deadline next rest decided left looks queue linked =>
      refine .going fun l hl => ?_
      obtain old | new := List.mem_append.mp hl
      · exact unbroken l old
      · obtain rfl : l = (c, true) := by simpa [look, looks] using new
        rfl
    | @expire c deadline looks queue gone =>
      have past := due c deadline looks
      have reading : p.reading = .stopped := gone.resolve_right (Nat.not_le.mpr past)
      have seen : p.look .expire = [(c, false)] := by simp [look, looks]
      exact .ended (congrArg (j.looks ++ ·) seen) unbroken queue reading rfl
    | _ => exact .going (by simpa [look] using unbroken)
  | ended looks unbroken queue reading current =>
    cases stepped with
    | readOn goes _ _ => simp [reading] at goes
    | readFrame goes _ _ => simp [reading] at goes
    | readEnd goes _ _ _ => simp [reading] at goes
    | hand holds _ _ => simp [reading] at holds
    | giveUp holds _ => simp [reading] at holds
    | stopReading cancelled => simp [calm] at cancelled
    | receive waits more => simp [queue] at more
    | exhaust waits none_ stopped =>
      exact .ended (by simpa [look] using looks) unbroken queue reading rfl
    | peek peeks more linked => simp [queue] at more
    | expire peeks none_ gone => simp [peeks, GroupingTask.current] at current
    | @emit c next holds received room =>
      obtain rfl : next = none := by simpa [holds, GroupingTask.current] using current
      exact .ended (by simpa [look] using looks) unbroken queue reading rfl
    | emitNowhere holds gone =>
      exact .ended (by simpa [look] using looks) unbroken queue reading rfl
    | stopGrouping cancelled => simp [calm] at cancelled

theorem due_step {m : Move} (patient : 1 ≤ p.tuning.peekTimeout)
    (due : ∀ c deadline, p.grouping = .peeking c deadline → p.clock < deadline)
    (stepped : p.Step m q) (c : Record) (deadline : Nat)
    (peeks : q.grouping = .peeking c deadline) : q.clock < deadline := by
  cases stepped with
  | receive waits queue =>
    obtain ⟨-, rfl⟩ := GroupingTask.peeking.inj peeks
    exact Nat.lt_add_of_pos_right patient
  | @emit c next holds received room =>
    cases next with
    | none => simp at peeks
    | some r =>
      obtain ⟨-, rfl⟩ := GroupingTask.peeking.inj peeks
      exact Nat.lt_add_of_pos_right patient
  | exhaust => simp at peeks
  | peek => simp at peeks
  | expire => simp at peeks
  | emitNowhere => simp at peeks
  | stopGrouping => simp at peeks
  | _ => exact due c deadline peeks

/-- No deadline passes while tasks can go on, so looks ahead give up at the end only. -/
theorem Prompt.timely (run : Prompt tuning container tty bytes rest j p)
    (patient : 1 ≤ tuning.peekTimeout) : Timely j p := by
  induction run with
  | start => exact ⟨by simp [Pipeline.start], .going (by simp [Group.Unbroken])⟩
  | arrive piece open_ h ih => exact ⟨ih.due, ih.looks.congr rfl rfl rfl rfl⟩
  | finishInput open_ h ih => exact ⟨ih.due, ih.looks.congr rfl rfl rfl rfl⟩
  | @advance rest j p ms idle h ih =>
    refine ⟨fun c deadline peeks => ?_, ih.looks.congr rfl rfl rfl rfl⟩
    have peeks : p.grouping = .peeking c deadline := peeks
    obtain stopped | ⟨_, _, holds, -⟩ := grouping_of_isAtRest idle
    · simp [stopped] at peeks
    · simp [holds] at peeks
  | take took h ih =>
    obtain ⟨others, -, rfl⟩ := takeEvent?_eq_some took
    exact ⟨ih.due, ih.looks.congr rfl rfl rfl rfl⟩
  | move m moved h ih =>
    have stepped := step_of_step? moved
    rw [← h.run.tuning_eq.1] at patient
    exact ⟨due_step patient ih.due stepped, ih.looks.step h.supplied.calm ih.due stepped⟩

/-! ### What comes out -/

/-- What a state that is in time has reached: the records taken so far, those to come, what is
decided and what of that is not handed out yet. Once grouping has stopped, nothing is left. -/
theorem Timely.reached {window : Int} {ending : Ending} {all : List Record} (timely : Timely j p)
    (reaches : Reaches window tty j p) (calm : p.cancelled = false)
    (possible : p.Possible ending rest)
    (whole : recordsOf p.container
      ((Decoder.start tty).readings ending (j.chunks.flatten ++ rest)) = all) :
    ∃ rs more ds lost, rs ++ more = all ∧ j.emitted p ++ lost = ds.map Record.entry ∧
      ds <+: Group.batch window (rs ++ more) ∧
      (p.grouping = .stopped → lost = [] ∧ ds = Group.batch window (rs ++ more)) := by
  obtain ⟨rs, ds, lost, cur, hp, hu⟩ := reaches
  have hu := hu calm
  have sourced := (hu.sourced.whole ending rest possible).trans whole
  have none_left : p.records = [] → p.reading = .stopped →
      p.records ++ p.reading.held ++ p.ahead ending rest = [] := by
    intro queue reading
    simp [queue, reading, ReadingTask.held, ahead_of_stopped]
  refine ⟨rs, p.records ++ p.reading.held ++ p.ahead ending rest, ds, lost.map Record.entry,
    by simpa using sourced, hp.emitted, ?_⟩
  cases timely.looks with
  | going unbroken =>
    have opened := hp.grouped.opened unbroken
    refine ⟨opened.isPrefix _, fun stopped => ?_⟩
    obtain ⟨rfl, rfl, queue, reading⟩ := hu.exhausted stopped
    cases opened with
    | empty => exact ⟨rfl, by simp [none_left queue reading, Group.batch]⟩
  | @ended seen c looks unbroken queue reading current =>
    have finished : cur = none := by
      by_cases stopped : p.grouping = .stopped
      · exact (hu.exhausted stopped).2.1
      · exact (hp.working stopped).2.trans current
    subst finished
    have grouped := hp.grouped
    rw [looks] at grouped
    have decided := grouped.eq_batch unbroken
    rw [none_left queue reading, List.append_nil]
    refine ⟨decided ▸ List.prefix_refl ds, fun stopped => ?_⟩
    obtain ⟨rfl, -, -, -⟩ := hu.exhausted stopped
    exact ⟨rfl, decided⟩

/-- The records that a stream reads as if it ends cleanly after the given bytes. -/
def recordsIn (container : String) (tty : Bool) (bytes : List UInt8) : List Record :=
  recordsOf container
    (FrameReader.ofDelivery tty { chunks := [bytes], ending := .closed }).readAll.1

theorem recordsIn_eq (container : String) (tty : Bool) (bytes : List UInt8) :
    recordsIn container tty bytes =
      recordsOf container ((Decoder.start tty).readings .closed bytes) := by
  rw [recordsIn, FrameReader.readAll_eq, FrameReader.readings]
  simp [FrameReader.ofDelivery]

theorem Prompt.reached (run : Prompt tuning container tty bytes rest j p)
    (patient : 1 ≤ tuning.peekTimeout) :
    ∃ rs more ds lost, rs ++ more = recordsIn container tty bytes ∧
      j.emitted p ++ lost = ds.map Record.entry ∧
      ds <+: Group.batch (Group.windowOfWord tuning.window) (rs ++ more) ∧
      (p.grouping = .stopped →
        lost = [] ∧ ds = Group.batch (Group.windowOfWord tuning.window) (rs ++ more)) := by
  have supplied := run.supplied
  rw [← run.run.window_eq]
  refine (run.timely patient).reached run.run.reaches supplied.calm supplied.possible ?_
  rw [supplied.whole, run.run.tuning_eq.2, ← recordsIn_eq]

theorem Prompt.taken_of_closed (run : Prompt tuning container tty bytes rest j p)
    (patient : 1 ≤ tuning.peekTimeout) (closed : p.isClosed) :
    j.taken = (Group.batch (Group.windowOfWord tuning.window)
      (recordsIn container tty bytes)).map Record.entry := by
  obtain ⟨events, stopped⟩ := isClosed_iff.mp closed
  obtain ⟨rs, more, ds, lost, all, emitted, -, whole⟩ := run.reached patient
  obtain ⟨rfl, decided⟩ := whole stopped
  rw [← all, ← decided, ← emitted, Journal.emitted, events, List.append_nil, List.append_nil]

/-- The output of a prompt run is the batch grouping of all records as one segment: what is handed
out is a beginning of it at every moment, all of it is taken once the output is closed, and a run at
rest with nothing to take is closed. So two such runs on the same bytes and with the same window
give the same, whatever their queues hold, however the bytes are handed to them, and whenever events
are taken and time passes. -/
theorem Prompt.taken_eq_batch (run : Prompt tuning container tty bytes rest j p)
    (patient : 1 ≤ tuning.peekTimeout) :
    let output := (Group.batch (Group.windowOfWord tuning.window)
      (recordsIn container tty bytes)).map Record.entry
    j.emitted p <+: output ∧ (p.isClosed → j.taken = output) ∧
      (p.isAtRest → p.events = [] → p.isClosed) ∧
      ∀ {tuning' rest' j' p'}, Prompt tuning' container tty bytes rest' j' p' →
        1 ≤ tuning'.peekTimeout → tuning'.window = tuning.window → p.isClosed → p'.isClosed →
        j'.taken = j.taken := by
  intro output
  refine ⟨?_, run.taken_of_closed patient, fun idle events => ?_, ?_⟩
  · obtain ⟨rs, more, ds, lost, all, emitted, decided, -⟩ := run.reached patient
    rw [all] at decided
    have out : j.emitted p <+: ds.map Record.entry := ⟨lost, emitted⟩
    exact out.trans (decided.map Record.entry)
  · obtain stopped | ⟨c, next, -, full⟩ := grouping_of_isAtRest idle
    · exact isClosed_iff.mpr ⟨events, stopped⟩
    · have room := p.capacity_pos
      have filled := full run.supplied.received
      rw [events, List.length_nil] at filled
      omega
  · intro tuning' rest' j' p' other patient' window closed closed'
    rw [other.taken_of_closed patient' closed', run.taken_of_closed patient closed, window]

def threeLines : List UInt8 :=
  Utf8.encode
    "2024-05-01T10:00:00Z ERROR a\n2024-05-01T10:00:00Z at b\n2024-05-01T10:00:00Z at c\n"

def narrow : Tuning := { buffer := 0, peekTimeout := 1 }

/-- A narrow pipeline on three lines that come in two pieces, with delays before the first and the
second of them are taken. -/
def squeezed : Pipeline :=
  let early := ((start narrow "web" true).arrive (threeLines.take 40)).settle
  let waiting := ((early.arrive (threeLines.drop 40)).finishInput .closed).settle
  let later := (takeSettled 1 1 (waiting.advance 1000)).2.2
  (takeSettled 9 9 (later.settle.advance 1000)).2.2

theorem prompt_squeezed : ∃ j, Prompt narrow "web" true threeLines [] j squeezed := by
  have h0 : Prompt narrow "web" true threeLines
      (threeLines.take 40 ++ threeLines.drop 40) {} (start narrow "web" true) := by
    rw [List.take_append_drop]
    exact .start
  obtain ⟨_, h1, -⟩ := Prompt.kept.settle (h0.arrive (threeLines.take 40) rfl)
  rw [← List.append_nil (threeLines.drop 40)] at h1
  have h2 := h1.arrive (threeLines.drop 40) (by decide +kernel)
  obtain ⟨_, h3, -⟩ := Prompt.kept.settle (h2.finishInput (by decide +kernel))
  have h4 := h3.advance 1000 (by decide +kernel)
  obtain ⟨_, h5, -⟩ := Prompt.kept.takeSettled 1 1 h4
  obtain ⟨_, h6, -⟩ := Prompt.kept.settle h5
  have h7 := h6.advance 1000 (by decide +kernel)
  obtain ⟨j, h8, -⟩ := Prompt.kept.takeSettled 9 9 h7
  exact ⟨j, h8⟩

theorem Prompt.taken_eq_batch_squeezed :
    ∃ j, Prompt narrow "web" true threeLines [] j squeezed ∧
      squeezed.isClosed = true ∧
      j.taken = (Group.batch (Group.windowOfWord 10)
        (recordsIn "web" true threeLines)).map Record.entry := by
  have closed : squeezed.isClosed = true := by decide +kernel
  obtain ⟨j, run⟩ := prompt_squeezed
  exact ⟨j, run, closed, (run.taken_eq_batch (by decide)).2.1 closed⟩

end Pipeline

end ContainerWatch.Log
