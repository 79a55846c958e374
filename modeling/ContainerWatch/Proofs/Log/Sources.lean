import ContainerWatch.Log.Tail
import ContainerWatch.Proofs.Log.Backpressure

/-!
What one source gives. Its pipeline has the whole log and its end from the beginning; as long as
time passes only while nothing can move, the pipeline hands out the batch grouping of the records of
the log, whether the log ends cleanly or breaks, and it does so in a number of moves that the length
of the log bounds.
-/

namespace ContainerWatch.Log

namespace Source

def records (s : Source) (bytes : List UInt8) : List Record :=
  recordsOf s.container
    (FrameReader.ofDelivery s.tty { chunks := [bytes], ending := s.ending }).readAll.1

/-- What a source gives if it is followed: its records, grouped in one go, or nothing if it has no
log. -/
def output (window : Nat) (s : Source) : List Entry :=
  match s.log with
  | some bytes => (Group.batch (Group.windowOfWord window) (s.records bytes)).map Record.entry
  | none => []

def pipeline (tuning : Tuning) (s : Source) (bytes : List UInt8) : Pipeline :=
  ((Pipeline.start tuning s.container s.tty).arrive bytes).finishInput s.ending

variable {s : Source} {bytes : List UInt8} {window : Nat}

theorem records_eq (s : Source) (bytes : List UInt8) :
    s.records bytes = recordsOf s.container ((Decoder.start s.tty).readings s.ending bytes) := by
  rw [records, FrameReader.readAll_eq, FrameReader.readings]
  simp [FrameReader.ofDelivery]

theorem container_of_records {r : Record} (h : r ∈ s.records bytes) :
    r.entry.container = s.container := by
  obtain ⟨rd, -, made⟩ := List.mem_filterMap.mp h
  cases rd with
  | frame f =>
    simp only [Reading.record?] at made
    split at made
    · simp at made
    · exact Option.some.inj made ▸ rfl
  | shortHeader recovered => exact Option.some.inj made ▸ rfl
  | failed fault => simp [Reading.record?] at made
  | finished => simp [Reading.record?] at made

theorem container_of_output {e : Entry} (h : e ∈ s.output window) :
    e.container = s.container ∧ s.log ≠ none := by
  unfold output at h
  split at h
  · next bytes log =>
    obtain ⟨d, decided, rfl⟩ := List.mem_map.mp h
    have plain : d.plain ∈ (s.records bytes).map Record.plain := by
      rw [← Group.batch_plain]
      exact List.mem_map_of_mem decided
    obtain ⟨r, hr, same⟩ := List.mem_map.mp plain
    refine ⟨?_, by simp [log]⟩
    rw [← container_of_records hr]
    exact (congrArg Entry.container same).symm
  · simp at h

end Source

def GroupingTask.effort : GroupingTask → Nat
  | .waiting => 1
  | .peeking _ _ => 5
  | .holding _ none => 4
  | .holding _ (some _) => 8
  | .stopped => 0

namespace Pipeline

/-- Runs of a pipeline that has its whole stream from the beginning. Events are taken at any time,
and time passes by any amount, but only when every task is at rest. -/
inductive Fed (tuning : Tuning) (s : Source) (bytes : List UInt8) : Journal → Pipeline → Prop
  | start : Fed tuning s bytes { chunks := [bytes] } (s.pipeline tuning bytes)
  | advance {j p} (ms : Nat) (idle : p.isAtRest) (h : Fed tuning s bytes j p) :
    Fed tuning s bytes j (p.advance ms)
  | take {j p q e} (took : p.takeEvent? = some (e, q)) (h : Fed tuning s bytes j p) :
    Fed tuning s bytes { j with taken := j.taken ++ [e] } q
  | move {j p q} (m : Move) (moved : p.step? m = some q) (h : Fed tuning s bytes j p) :
    Fed tuning s bytes { j with looks := j.looks ++ p.look m } q

variable {tuning : Tuning} {s : Source} {bytes : List UInt8} {j : Journal} {p q : Pipeline}

theorem Fed.run (h : Fed tuning s bytes j p) : Run tuning s.container s.tty j p := by
  induction h with
  | start => exact (Run.start.arrive bytes rfl).finishInput s.ending rfl
  | advance ms idle h ih => exact ih.advance ms
  | take took h ih => exact ih.take took
  | move m moved h ih => exact ih.move m moved

structure Fixed (s : Source) (bytes : List UInt8) (j : Journal) (p : Pipeline) : Prop where
  chunks : j.chunks = [bytes]
  ending : p.ending = some s.ending
  calm : p.cancelled = false
  received : p.received = true

theorem Fed.fixed (h : Fed tuning s bytes j p) : Fixed s bytes j p := by
  induction h with
  | start => exact ⟨rfl, rfl, rfl, rfl⟩
  | advance ms idle h ih => exact ⟨ih.chunks, ih.ending, ih.calm, ih.received⟩
  | take took h ih =>
    obtain ⟨others, -, rfl⟩ := takeEvent?_eq_some took
    exact ⟨ih.chunks, ih.ending, ih.calm, ih.received⟩
  | move m moved h ih =>
    obtain ⟨ending, cancelled, received⟩ := (step_of_step? moved).outside_eq
    exact ⟨ih.chunks, ending.trans ih.ending, cancelled.trans ih.calm,
      received.trans ih.received⟩

theorem Fed.timely (h : Fed tuning s bytes j p) (patient : 1 ≤ tuning.peekTimeout) :
    Timely j p := by
  induction h with
  | start =>
    exact ⟨by simp [Source.pipeline, Pipeline.start, Pipeline.arrive, Pipeline.finishInput],
      .going (by simp [Group.Unbroken])⟩
  | @advance j p ms idle h ih =>
    refine ⟨fun c deadline peeks => ?_, ih.looks.congr rfl rfl rfl rfl⟩
    have peeks : p.grouping = .peeking c deadline := peeks
    obtain stopped | ⟨_, _, holds, -⟩ := grouping_of_isAtRest idle
    · simp [stopped] at peeks
    · simp [holds] at peeks
  | take took h ih =>
    obtain ⟨others, -, rfl⟩ := takeEvent?_eq_some took
    exact ⟨ih.due, ih.looks.congr rfl rfl rfl rfl⟩
  | move m moved h ih =>
    have stepped := step_of_step? moved
    rw [← h.run.tuning_eq.1] at patient
    exact ⟨due_step patient ih.due stepped, ih.looks.step h.fixed.calm ih.due stepped⟩

/-- What is handed out is a beginning of the output of the source, and all of it once grouping has
stopped. -/
theorem Fed.emitted (h : Fed tuning s bytes j p) (log : s.log = some bytes)
    (patient : 1 ≤ tuning.peekTimeout) :
    j.emitted p <+: s.output tuning.window ∧
      (p.grouping = .stopped → j.emitted p = s.output tuning.window) := by
  have fixed := h.fixed
  have whole : recordsOf p.container
      ((Decoder.start s.tty).readings s.ending (j.chunks.flatten ++ [])) = s.records bytes := by
    rw [h.run.tuning_eq.2, Source.records_eq, fixed.chunks]
    simp
  obtain ⟨rs, more, ds, lost, all, emitted, decided, stopped⟩ :=
    (h.timely patient).reached h.run.reaches fixed.calm (.inr ⟨fixed.ending, rfl⟩) whole
  rw [all, h.run.window_eq] at decided stopped
  have output : s.output tuning.window = (Group.batch (Group.windowOfWord tuning.window)
      (s.records bytes)).map Record.entry := by
    simp only [Source.output, log]
  rw [output]
  refine ⟨?_, fun at_end => ?_⟩
  · have out : j.emitted p <+: ds.map Record.entry := ⟨lost, emitted⟩
    exact out.trans (decided.map Record.entry)
  · obtain ⟨rfl, all⟩ := stopped at_end
    rw [← all, ← emitted, List.append_nil]

theorem Fed.reading_of_stopped (h : Fed tuning s bytes j p) (stopped : p.grouping = .stopped) :
    p.reading = .stopped := by
  obtain ⟨rs, ds, lost, cur, -, hu⟩ := h.run.reaches
  exact ((hu h.fixed.calm).exhausted stopped).2.2.2

theorem Fed.movable (h : Fed tuning s bytes j p) (events : p.events = [])
    (open_ : p.isClosed = false) : ∃ m q, p.step? m = some q := by
  cases first : p.firstOf (readingMoves ++ groupingMoves) with
  | some q =>
    obtain ⟨m, -, moved⟩ := List.exists_of_findSome?_eq_some first
    exact ⟨m, q, moved⟩
  | none =>
    by_cases reading : p.reading = .reading
    · -- The end of the stream is there to be read.
      have come : p.read? ≠ none := by
        unfold read?
        rw [h.fixed.ending]
        cases p.arrived with
        | nil => simp
        | cons b rest =>
          simp only
          split <;> simp
      obtain ⟨q, read⟩ := Option.ne_none_iff_exists'.mp come
      exact ⟨.read, q, by simpa only [step?, reading] using read⟩
    · have idle : p.isAtRest = true := by
        cases task : p.reading with
        | reading => exact absurd task reading
        | _ => simp [isAtRest, first, task]
      obtain stopped | ⟨c, next, -, full⟩ := grouping_of_isAtRest idle
      · rw [isClosed_iff.mpr ⟨events, stopped⟩] at open_
        simp at open_
      · have room := p.capacity_pos
        have filled := full h.fixed.received
        rw [events, List.length_nil] at filled
        omega

/-! ### How many moves are left -/

def readingEffort (p : Pipeline) : Nat :=
  let ahead := min 1 p.arrived.length +
    7 * (p.decoder.readings (p.ending.getD .closed) p.arrived).length
  match p.reading with
  | .reading => ahead
  | .holding _ => ahead + 6
  | .stopped => 0

/-- More moves than a pipeline will make, with those that take its events on. -/
def effort (p : Pipeline) : Nat :=
  p.readingEffort + 5 * p.records.length + p.grouping.effort + 2 * p.events.length

theorem readingEffort_after {d : Decoder} (rest : List UInt8) (notes : List Notice)
    (fault : Option StreamFault) (r : Reading) {left : Nat} (reading : p.reading = .reading)
    (fewer : r.isLast = false →
      (d.readings (p.ending.getD .closed) rest).length + 1 ≤ left)
    (readings : (p.decoder.readings (p.ending.getD .closed) p.arrived).length = left)
    (some_ : 1 ≤ left) (come : min 1 rest.length ≤ min 1 p.arrived.length) :
    readingEffort { p with
      decoder := d, arrived := rest, notices := notes, fault
      reading := .after p.container r } < p.readingEffort := by
  have before : p.readingEffort = min 1 p.arrived.length + 7 * left := by
    simp only [readingEffort, reading, readings]
  rw [before]
  cases last : r.isLast with
  | true =>
    have stopped := (ReadingTask.after_eq_stopped_iff p.container r).mpr last
    simp only [readingEffort, stopped]
    omega
  | false =>
    have fewer := fewer last
    simp only [readingEffort]
    split
    · omega
    · omega
    · omega

theorem effort_grouping_lt {records : List Record} {grouping : GroupingTask} {events : List Entry}
    (less : 5 * records.length + grouping.effort + 2 * events.length <
      5 * p.records.length + p.grouping.effort + 2 * p.events.length) :
    effort { p with records, grouping, events } < p.effort := by
  have same : readingEffort { p with records, grouping, events } = p.readingEffort := rfl
  simp only [effort, same]
  omega

theorem effort_lt {m : Move} (calm : p.cancelled = false) (stepped : p.Step m q) :
    q.effort < p.effort := by
  cases stepped with
  | @readOn d rest notices notes reading come took =>
    obtain ⟨rfl, readings⟩ := Decoder.readings_of_take_none took (p.ending.getD .closed) []
    rw [List.append_nil] at readings
    have some_ : 0 < p.arrived.length := List.length_pos_iff.mpr come
    simp only [effort, readingEffort, reading, readings, List.length_nil]
    omega
  | @readFrame d f rest notices notes reading come took =>
    have readings := Decoder.readings_of_take_some took (p.ending.getD .closed) []
    rw [List.append_nil, List.append_nil] at readings
    have some_ : 0 < p.arrived.length := List.length_pos_iff.mpr come
    have less := readingEffort_after rest notes p.fault (.frame f) reading
      (fun _ => Nat.le_refl _) (by rw [readings, List.length_cons]) (Nat.le_add_left 1 _)
      (show min 1 rest.length ≤ min 1 p.arrived.length by omega)
    simp only [effort]
    omega
  | @readEnd d r ending notices notes reading all ended stop =>
    have readings := p.decoder.readings_nil ending
    simp only [stop] at readings
    have given : p.ending.getD .closed = ending := by simp [ended]
    have length : (p.decoder.readings (p.ending.getD .closed) p.arrived).length =
        (if r.isLast then [] else d.readings ending []).length + 1 := by
      rw [all, given, readings, List.length_cons]
    have less := readingEffort_after (d := d) p.arrived notes (StreamFault.after p.fault r) r reading
      (fun going => by rw [all, given, going]; exact Nat.le_refl _) length (Nat.le_add_left 1 _)
      (Nat.le_refl _)
    simp only [effort]
    omega
  | hand holds open_ room =>
    simp only [effort, readingEffort, holds, List.length_append, List.length_singleton]
    omega
  | giveUp holds shut =>
    simp only [effort, readingEffort, holds]
    omega
  | stopReading cancelled => simp [calm] at cancelled
  | receive waits queue =>
    apply effort_grouping_lt
    simp only [waits, queue, GroupingTask.effort, List.length_cons]
    omega
  | exhaust waits queue stopped =>
    apply effort_grouping_lt
    simp only [waits, GroupingTask.effort]
    omega
  | peek looks queue linked =>
    apply effort_grouping_lt
    simp only [looks, queue, GroupingTask.effort, List.length_cons]
    omega
  | expire looks queue gone =>
    apply effort_grouping_lt
    simp only [looks, GroupingTask.effort]
    omega
  | @emit c next holds received room =>
    apply effort_grouping_lt
    cases next with
    | none =>
      simp only [holds, GroupingTask.effort, List.length_append, List.length_singleton]
      omega
    | some r =>
      simp only [holds, GroupingTask.effort, List.length_append, List.length_singleton]
      omega
  | @emitNowhere c next holds gone =>
    apply effort_grouping_lt
    cases next <;> simp [holds, GroupingTask.effort]
  | stopGrouping cancelled => simp [calm] at cancelled

theorem effort_take {e : Entry} (took : p.takeEvent? = some (e, q)) : q.effort + 2 = p.effort := by
  obtain ⟨rest, events, rfl⟩ := takeEvent?_eq_some took
  have same : readingEffort { p with events := rest } = p.readingEffort := rfl
  simp only [effort, same, events, List.length_cons]
  omega

/-- A source is followed to its end in a number of moves that the length of its log bounds. -/
theorem effort_pipeline (tuning : Tuning) (s : Source) (bytes : List UInt8) :
    (s.pipeline tuning bytes).effort ≤ 7 * bytes.length + 16 := by
  have readings := Decoder.length_readings_le s.ending (Decoder.start s.tty) bytes
  simp only [effort, readingEffort, Source.pipeline, Pipeline.start, Pipeline.arrive,
    Pipeline.finishInput, List.nil_append, Option.getD_some, List.length_nil, GroupingTask.effort]
  omega

end Pipeline

end ContainerWatch.Log
