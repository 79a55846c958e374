import ContainerWatch.Proofs.Log.Grouping
import ContainerWatch.Proofs.Log.Readings

/-!
Runs of a pipeline. Bytes, the end of the stream, time, takers and the moves of both tasks come in
any order; a journal notes what came, what was taken and what each look ahead found. `Step` says
once what each move does.
-/

namespace ContainerWatch.Log

/-- The record of a reading: a frame with some text gives one, and so does a line that was read in
place of a header. -/
def Reading.record? (container : String) : Reading → Option Record
  | .frame f => if f.text.isEmpty then none else some (Pipeline.record container f.text f.stream)
  | .shortHeader recovered => some (Pipeline.record container recovered .unknown)
  | .failed _ | .finished => none

def recordsOf (container : String) (rs : List Reading) : List Record :=
  rs.filterMap (·.record? container)

def ReadingTask.after (container : String) : Reading → ReadingTask
  | .failed _ | .finished => .stopped
  | r =>
    match r.record? container with
    | some r => .holding r
    | none => .reading

def StreamFault.after (known : Option StreamFault) : Reading → Option StreamFault
  | .failed fault => some fault
  | _ => known

def ReadingTask.held : ReadingTask → List Record
  | .holding r => [r]
  | _ => []

def GroupingTask.held : GroupingTask → List Record
  | .holding current _ => [current]
  | _ => []

def GroupingTask.current : GroupingTask → Option Record
  | .peeking current _ => some current
  | .holding _ next => next
  | _ => none

namespace Pipeline

/-- What each move does, and when it is possible. -/
inductive Step (p : Pipeline) : Move → Pipeline → Prop
  | readOn {d rest notices notes} (reading : p.reading = .reading) (come : p.arrived ≠ [])
      (took : p.decoder.take p.arrived = (d, none, rest, notices)) :
    Step p .read { p with decoder := d, arrived := rest, notices := notes }
  | readFrame {d f rest notices notes} (reading : p.reading = .reading) (come : p.arrived ≠ [])
      (took : p.decoder.take p.arrived = (d, some f, rest, notices)) :
    Step p .read { p with
      decoder := d, arrived := rest, notices := notes, reading := .after p.container (.frame f) }
  | readEnd {d r ending notices notes} (reading : p.reading = .reading) (all : p.arrived = [])
      (ended : p.ending = some ending) (stop : p.decoder.stop ending = (d, r, notices)) :
    Step p .read { p with
      decoder := d, notices := notes, reading := .after p.container r
      fault := StreamFault.after p.fault r }
  | hand {r} (holds : p.reading = .holding r) (open_ : p.grouping ≠ .stopped)
      (room : p.records.length < p.capacity) :
    Step p .pass { p with records := p.records ++ [r], reading := .reading }
  | giveUp {r} (holds : p.reading = .holding r) (shut : p.grouping = .stopped) :
    Step p .pass { p with reading := .stopped }
  | stopReading (cancelled : p.cancelled) : Step p .stopReading { p with reading := .stopped }
  | receive {r rest} (waits : p.grouping = .waiting) (queue : p.records = r :: rest) :
    Step p .receive { p with
      records := rest, grouping := .peeking r (p.clock + p.tuning.peekTimeout) }
  | exhaust (waits : p.grouping = .waiting) (queue : p.records = [])
      (stopped : p.reading = .stopped) : Step p .receive { p with grouping := .stopped }
  | peek {c deadline next rest decided left} (looks : p.grouping = .peeking c deadline)
      (queue : p.records = next :: rest)
      (linked : Group.link p.window c next = (decided, left)) :
    Step p .peek { p with records := rest, grouping := .holding decided (some left) }
  | expire {c deadline} (looks : p.grouping = .peeking c deadline) (queue : p.records = [])
      (gone : p.reading = .stopped ∨ deadline ≤ p.clock) :
    Step p .expire { p with grouping := .holding (Group.close c) none }
  | emit {c next} (holds : p.grouping = .holding c next) (received : p.received)
      (room : p.events.length < p.capacity) :
    Step p .emit { p with
      events := p.events ++ [c.entry]
      grouping := match next with
        | some r => .peeking r (p.clock + p.tuning.peekTimeout)
        | none => .waiting }
  | emitNowhere {c next} (holds : p.grouping = .holding c next) (gone : p.received = false) :
    Step p .emit { p with grouping := .stopped }
  | stopGrouping (cancelled : p.cancelled) :
    Step p .stopGrouping { p with grouping := .stopped, records := [] }

theorem readingStopped_iff (p : Pipeline) : p.readingStopped ↔ p.reading = .stopped := by
  unfold readingStopped
  cases p.reading <;> simp

theorem hold_frame (p : Pipeline) (f : Frame) :
    p.hold f.text f.stream = { p with
      reading := .after p.container (.frame f)
      notices := if f.text.isEmpty then p.notices else p.notices ++ Line.notices f.text } := by
  unfold hold
  cases h : f.text.isEmpty <;> simp [ReadingTask.after, Reading.record?, h]

theorem hold_shortHeader (p : Pipeline) {recovered : String} (h : recovered.isEmpty = false) :
    p.hold recovered .unknown = { p with
      reading := .after p.container (.shortHeader recovered)
      notices := p.notices ++ Line.notices recovered } := by
  simp [hold, ReadingTask.after, Reading.record?, h]

theorem step_read {p q : Pipeline} (reading : p.reading = .reading) (h : p.read? = some q) :
    Step p .read q := by
  obtain ⟨tuning, container, clock, arrived, ending, decoder, task, records, grouping, events,
    received, cancelled, fault, notes⟩ := p
  cases arrived with
  | nil =>
    cases ending with
    | none => simp [read?] at h
    | some ending =>
      rcases hs : decoder.stop ending with ⟨d, r, notices⟩
      simp only [read?, hs, Option.some.injEq] at h
      subst h
      cases r with
      | frame f =>
        rw [onReading, hold_frame]
        exact .readEnd reading rfl rfl hs
      | shortHeader recovered =>
        rw [onReading, hold_shortHeader _ (Decoder.isEmpty_of_stop_shortHeader hs)]
        exact .readEnd reading rfl rfl hs
      | failed fault => exact .readEnd reading rfl rfl hs
      | finished => exact .readEnd reading rfl rfl hs
  | cons b bytes =>
    rcases ht : decoder.take (b :: bytes) with ⟨d, frame, rest, notices⟩
    simp only [read?, ht] at h
    cases frame with
    | some f =>
      simp only [hold_frame, Option.some.injEq] at h
      exact h ▸ .readFrame reading (by simp) ht
    | none =>
      simp only [Option.some.injEq] at h
      exact h ▸ .readOn reading (by simp) ht

theorem step_pass {p q : Pipeline} {r : Record} (holds : p.reading = .holding r)
    (h : p.pass? r = some q) : Step p .pass q := by
  unfold pass? at h
  split at h
  · next shut =>
    exact Option.some.inj h ▸ .giveUp holds shut
  · next shut =>
    split at h
    · next room =>
      exact Option.some.inj h ▸ .hand holds shut room
    · simp at h

theorem step_receive {p q : Pipeline} (waits : p.grouping = .waiting) (h : p.receive? = some q) :
    Step p .receive q := by
  unfold receive? at h
  split at h
  · next r rest queue =>
    exact Option.some.inj h ▸ .receive waits queue
  · next queue =>
    split at h
    · next stopped =>
      exact Option.some.inj h ▸ .exhaust waits queue (p.readingStopped_iff.mp stopped)
    · simp at h

theorem decideAbout_eq {p : Pipeline} {c decided : Record} {next left : Option Record}
    (h : Group.check p.window c next = (decided, left)) :
    p.decideAbout c next = { p with grouping := .holding decided left } := by
  simp only [decideAbout, h]

theorem step_peek {p q : Pipeline} {c : Record} {deadline : Nat}
    (looks : p.grouping = .peeking c deadline) (h : p.peek? c = some q) : Step p .peek q := by
  unfold peek? at h
  split at h
  · next next rest queue =>
    rcases linked : Group.link p.window c next with ⟨decided, left⟩
    have hc : Group.check (window { p with records := rest }) c (some next) =
        (decided, some left) := Group.check_some linked
    rw [decideAbout_eq hc, Option.some.injEq] at h
    exact h ▸ .peek looks queue linked
  · simp at h

theorem step_expire {p q : Pipeline} {c : Record} {deadline : Nat}
    (looks : p.grouping = .peeking c deadline) (h : p.expire? c deadline = some q) :
    Step p .expire q := by
  unfold expire? at h
  split at h
  · next gone =>
    have stopped := gone.2.imp_left p.readingStopped_iff.mp
    exact Option.some.inj h ▸ .expire looks (List.isEmpty_iff.mp gone.1) stopped
  · simp at h

theorem step_emit {p q : Pipeline} {c : Record} {next : Option Record}
    (holds : p.grouping = .holding c next) (h : p.emit? c next = some q) : Step p .emit q := by
  unfold emit? at h
  split at h
  · next gone =>
    exact Option.some.inj h ▸ .emitNowhere holds (by simpa using gone)
  · next received =>
    split at h
    · next room =>
      have hs := Step.emit holds (by simpa using received) room
      cases next with
      | none =>
        exact Option.some.inj h ▸ hs
      | some r =>
        simp only [Option.some.injEq] at h
        exact h ▸ hs
    · simp at h

theorem step_of_step? {p q : Pipeline} {m : Move} (h : p.step? m = some q) : Step p m q := by
  unfold step? at h
  split at h
  · next reading => exact step_read reading h
  · next holds => exact step_pass holds h
  · simp at h
  · split at h
    · next cancelled =>
      exact Option.some.inj h ▸ .stopReading cancelled
    · simp at h
  · next _ waits => exact step_receive waits h
  · next _ looks => exact step_peek looks h
  · next _ looks => exact step_expire looks h
  · next _ holds => exact step_emit holds h
  · simp at h
  · split at h
    · next cancelled =>
      exact Option.some.inj h ▸ .stopGrouping cancelled
    · simp at h
  · simp at h

/-! ### Runs -/

/-- What is noted of a run: the bytes as they came, the events taken from the output, and for each
look ahead the record that was current and whether another was found. -/
structure Journal where
  chunks : List (List UInt8) := []
  taken : List Entry := []
  looks : List (Record × Bool) := []

def look (p : Pipeline) (m : Move) : List (Record × Bool) :=
  match m, p.grouping with
  | .peek, .peeking c _ => [(c, true)]
  | .expire, .peeking c _ => [(c, false)]
  | _, _ => []

/-- The runs of a pipeline, with their journals. Outside, bytes come until the stream ends, time
passes, events are taken, and the tasks may be asked to stop, with or without the output being
closed; in between the tasks move. -/
inductive Run (tuning : Tuning) (container : String) (tty : Bool) : Journal → Pipeline → Prop
  | start : Run tuning container tty {} (start tuning container tty)
  | arrive {j p} (bytes : List UInt8) (open_ : p.ending = none) (h : Run tuning container tty j p) :
    Run tuning container tty { j with chunks := j.chunks ++ [bytes] } (p.arrive bytes)
  | finishInput {j p} (ending : Ending) (open_ : p.ending = none)
      (h : Run tuning container tty j p) : Run tuning container tty j (p.finishInput ending)
  | advance {j p} (ms : Nat) (h : Run tuning container tty j p) :
    Run tuning container tty j (p.advance ms)
  | take {j p q e} (took : p.takeEvent? = some (e, q)) (h : Run tuning container tty j p) :
    Run tuning container tty { j with taken := j.taken ++ [e] } q
  | cancel {j p} (h : Run tuning container tty j p) : Run tuning container tty j p.cancel
  | abandon {j p} (h : Run tuning container tty j p) : Run tuning container tty j p.abandon
  | move {j p q} (m : Move) (moved : p.step? m = some q) (h : Run tuning container tty j p) :
    Run tuning container tty { j with looks := j.looks ++ p.look m } q

/-- The events handed out so far, whether or not they were taken. -/
def Journal.emitted (j : Journal) (p : Pipeline) : List Entry := j.taken ++ p.events

def Journal.delivery (j : Journal) (ending : Ending) : Delivery := { chunks := j.chunks, ending }

def Journal.records (j : Journal) (container : String) (tty : Bool) (ending : Ending) :
    List Record :=
  recordsOf container (FrameReader.ofDelivery tty (j.delivery ending)).readAll.1

/-! ### Letting the tasks take turns

Turns end when no task can go on without something from outside. -/

def isStill (p : Pipeline) : Bool := (p.firstOf (readingMoves ++ groupingMoves)).isNone

theorem step?_of_isStill {p : Pipeline} (h : p.isStill) (m : Move) : p.step? m = none := by
  have all : p.firstOf (readingMoves ++ groupingMoves) = none := Option.isNone_iff_eq_none.mp h
  have among : m ∈ readingMoves ++ groupingMoves := by cases m <;> decide
  exact List.findSome?_eq_none_iff.mp all m among

theorem firstOf_of_isStill {p : Pipeline} (h : p.isStill) (ms : List Move) : p.firstOf ms = none :=
  List.findSome?_eq_none_iff.mpr fun m _ => step?_of_isStill h m

theorem isStill_of_step? {p : Pipeline} (h : ∀ m, p.step? m = none) : p.isStill := by
  rw [isStill, Option.isNone_iff_eq_none]
  exact List.findSome?_eq_none_iff.mpr fun m _ => h m

theorem isStill_of_stopped {p : Pipeline} (reading : p.reading = .stopped)
    (grouping : p.grouping = .stopped) : p.isStill := by
  refine isStill_of_step? fun m => ?_
  cases m <;> simp [step?, reading, grouping]

theorem takeTurns_of_isStill {p : Pipeline} (turns : Nat) (h : p.isStill) :
    takeTurns turns p = p := by
  cases turns with
  | zero => rfl
  | succ turns => exact if_pos h

theorem settle_of_isStill {p : Pipeline} (h : p.isStill) : p.settle = p :=
  takeTurns_of_isStill p.fuel h

/-! `settle` and `takeSettled` only make moves and take events, so they stay among the runs of any
kind that are closed under both. -/

/-- What moves and takers keep of a journal and a pipeline. -/
structure Kept (P : Journal → Pipeline → Prop) : Prop where
  move : ∀ {j p q} (m : Move), p.step? m = some q → P j p →
    P { j with looks := j.looks ++ p.look m } q
  take : ∀ {j p q e}, p.takeEvent? = some (e, q) → P j p → P { j with taken := j.taken ++ [e] } q

section Settling

variable {P : Journal → Pipeline → Prop} {j : Journal} {p : Pipeline}

theorem Kept.runTask (kept : Kept P) (ms : List Move) (fuel : Nat) (h : P j p) :
    ∃ k, P k (runTask ms fuel p) ∧ k.chunks = j.chunks ∧ k.taken = j.taken := by
  induction fuel generalizing j p with
  | zero => exact ⟨j, h, rfl, rfl⟩
  | succ fuel ih =>
    rw [Pipeline.runTask]
    cases hf : p.firstOf ms with
    | none => exact ⟨j, h, rfl, rfl⟩
    | some q =>
      obtain ⟨m, -, moved⟩ := List.exists_of_findSome?_eq_some hf
      obtain ⟨k, hk, hc, ht⟩ := ih (kept.move m moved h)
      exact ⟨k, hk, hc, ht⟩

theorem Kept.takeTurns (kept : Kept P) (turns : Nat) (h : P j p) :
    ∃ k, P k (takeTurns turns p) ∧ k.chunks = j.chunks ∧ k.taken = j.taken := by
  induction turns generalizing j p with
  | zero => exact ⟨j, h, rfl, rfl⟩
  | succ turns ih =>
    rw [Pipeline.takeTurns]
    split
    · exact ⟨j, h, rfl, rfl⟩
    · obtain ⟨k, hk, hc, ht⟩ := kept.runTask readingMoves p.fuel h
      obtain ⟨l, hl, hc', ht'⟩ :=
        kept.runTask groupingMoves (Pipeline.runTask readingMoves p.fuel p).fuel hk
      obtain ⟨o, ho, hc'', ht''⟩ := ih hl
      exact ⟨o, ho, by rw [hc'', hc', hc], by rw [ht'', ht', ht]⟩

theorem Kept.settle (kept : Kept P) (h : P j p) :
    ∃ k, P k p.settle ∧ k.chunks = j.chunks ∧ k.taken = j.taken :=
  kept.takeTurns p.fuel h

theorem Kept.takeSettled (kept : Kept P) (fuel n : Nat) (h : P j p) :
    ∃ k, P k (takeSettled fuel n p).2.2 ∧ k.chunks = j.chunks ∧
      k.taken = j.taken ++ (takeSettled fuel n p).1 := by
  induction fuel generalizing n j p with
  | zero => exact ⟨j, h, rfl, by simp [Pipeline.takeSettled]⟩
  | succ fuel ih =>
    cases n with
    | zero => exact ⟨j, h, rfl, by simp [Pipeline.takeSettled]⟩
    | succ n =>
      rw [Pipeline.takeSettled]
      cases took : p.takeEvent? with
      | none => exact ⟨j, h, rfl, by simp⟩
      | some eq =>
        obtain ⟨e, q⟩ := eq
        have ht := kept.take took h
        obtain ⟨k, hk, hc, hj⟩ : ∃ k, P k (if q.events.isEmpty then q.settle else q) ∧
            k.chunks = j.chunks ∧ k.taken = j.taken ++ [e] := by
          split
          · exact kept.settle ht
          · exact ⟨_, ht, rfl, rfl⟩
        obtain ⟨l, hl, hc', hj'⟩ := ih n hk
        exact ⟨l, hl, hc'.trans hc, by rw [hj', hj, List.append_assoc]; rfl⟩

end Settling

section Running

variable {tuning : Tuning} {container : String} {tty : Bool} {j : Journal} {p : Pipeline}

theorem Run.kept : Kept (Run tuning container tty) where
  move m moved h := h.move m moved
  take took h := h.take took

theorem Run.settle (h : Run tuning container tty j p) :
    ∃ k, Run tuning container tty k p.settle ∧ k.chunks = j.chunks ∧ k.taken = j.taken :=
  Run.kept.settle h

theorem Run.takeSettled (fuel n : Nat) (h : Run tuning container tty j p) :
    ∃ k, Run tuning container tty k (takeSettled fuel n p).2.2 ∧ k.chunks = j.chunks ∧
      k.taken = j.taken ++ (takeSettled fuel n p).1 :=
  Run.kept.takeSettled fuel n h

end Running

end Pipeline

end ContainerWatch.Log
