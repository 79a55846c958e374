import ContainerWatch.Proofs.Log.Refinement

/-!
How a stream ends is reported exactly. The readings that the reading task has made and those still
ahead are the ones of the stream, and the fault that is known is the one among those made. So once
the output is closed, everything that was decoded has come out, stray bytes as one event of their
own, nothing stands for what came after a fault, and finishing reports that fault.
-/

namespace ContainerWatch.Log

/-- The fault that readings report. -/
def faultOf (rs : List Reading) : Option StreamFault := rs.foldl StreamFault.after none

theorem faultOf_append_singleton (rs : List Reading) (r : Reading) :
    faultOf (rs ++ [r]) = StreamFault.after (faultOf rs) r := by
  simp [faultOf]

theorem StreamFault.after_of_not_isLast {known : Option StreamFault} {r : Reading}
    (h : r.isLast = false) : after known r = known := by
  cases r with
  | failed fault => simp [Reading.isLast] at h
  | _ => rfl

theorem faultOf_eq_none {rs : List Reading} (h : ∀ r ∈ rs, r.isLast = false) :
    faultOf rs = none := by
  induction rs with
  | nil => rfl
  | cons r rs ih =>
    rw [faultOf, List.foldl_cons, StreamFault.after_of_not_isLast (h r (by simp))]
    exact ih fun s hs => h s (by simp [hs])

theorem recordsOf_append (container : String) (rs ss : List Reading) :
    recordsOf container (rs ++ ss) = recordsOf container rs ++ recordsOf container ss :=
  List.filterMap_append

/-- Reading comes to its end with the last reading, and not before. -/
def EndsOnce (rs : List Reading) : Prop :=
  ∃ front last, rs = front ++ [last] ∧ last.isLast = true ∧ ∀ r ∈ front, r.isLast = false

namespace EndsOnce

variable {rs front back : List Reading} {r : Reading} {fault : StreamFault}

theorem cons (h : EndsOnce rs) (goesOn : r.isLast = false) : EndsOnce (r :: rs) := by
  obtain ⟨front, last, rfl, isLast, before⟩ := h
  exact ⟨r :: front, last, rfl, isLast, by simpa [goesOn] using before⟩

/-- Nothing is read after a fault. -/
theorem back_eq_nil (h : EndsOnce rs) (eq : rs = front ++ r :: back) (isLast : r.isLast = true) :
    back = [] := by
  obtain ⟨others, last, rfl, -, before⟩ := h
  obtain none_ | ⟨inner, s, rfl⟩ := List.eq_nil_or_concat back
  · exact none_
  · rw [List.concat_eq_append, ← List.cons_append, ← List.append_assoc] at eq
    obtain ⟨rfl, -⟩ := List.append_inj' eq rfl
    have goesOn := before r (by simp)
    simp [isLast] at goesOn

theorem isLast_of_eq (h : EndsOnce rs) (eq : rs = front ++ [r]) : r.isLast = true := by
  obtain ⟨others, last, rfl, isLast, -⟩ := h
  obtain ⟨-, same⟩ := List.append_inj' eq rfl
  exact List.singleton_inj.mp same ▸ isLast

theorem faultOf_eq_some_iff (h : EndsOnce rs) :
    faultOf rs = some fault ↔ rs.getLast? = some (.failed fault) := by
  obtain ⟨front, last, rfl, isLast, before⟩ := h
  rw [faultOf_append_singleton, faultOf_eq_none before, List.getLast?_concat,
    Option.some.injEq]
  cases last with
  | failed f => simp [StreamFault.after]
  | finished => simp [StreamFault.after]
  | frame f => simp [Reading.isLast] at isLast
  | shortHeader recovered => simp [Reading.isLast] at isLast

end EndsOnce

namespace Decoder

theorem endsOnce_finals (d : Decoder) (ending : Ending) : EndsOnce (d.finals ending) := by
  cases h : (d.stop ending).2.1.isLast with
  | true =>
    have one : d.finals ending = [(d.stop ending).2.1] := by simp [finals, h]
    exact ⟨[], _, one, h, by simp⟩
  | false =>
    rw [finals_eq, h, finals_stop d ending h]
    refine EndsOnce.cons ⟨[], _, rfl, ?_, by simp⟩ h
    cases ending with
    | broken cause => simp [stop, Reading.isLast] at h
    | closed =>
      cases d with
      | header got => cases got <;> simp_all [stop, close, Reading.isLast]
      | payload stream missing got => simp [stop, close, Reading.isLast] at h
      | line got => cases got <;> simp_all [stop, close, Reading.isLast]

theorem endsOnce_readings (ending : Ending) (d : Decoder) (bytes : List UInt8) :
    EndsOnce (d.readings ending bytes) := by
  induction bytes generalizing d with
  | nil => exact endsOnce_finals d ending
  | cons b rest ih =>
    rw [readings]
    split
    · exact (ih _).cons rfl
    · exact ih _

end Decoder

namespace Pipeline

def readingsAhead (p : Pipeline) (ending : Ending) (more : List UInt8) : List Reading :=
  match p.reading with
  | .stopped => []
  | _ => p.decoder.readings ending (p.arrived ++ more)

theorem readingsAhead_of_stopped {p : Pipeline} (h : p.reading = .stopped) (ending : Ending)
    (more : List UInt8) : p.readingsAhead ending more = [] := by
  simp [readingsAhead, h]

theorem readingsAhead_of_ne_stopped {p : Pipeline} (h : p.reading ≠ .stopped) (ending : Ending)
    (more : List UInt8) :
    p.readingsAhead ending more = p.decoder.readings ending (p.arrived ++ more) := by
  unfold readingsAhead
  split
  · contradiction
  · rfl

/-- The readings made so far and those ahead are the ones of the stream, and the known fault is
theirs. -/
structure Told (tty : Bool) (chunks : List (List UInt8)) (made : List Reading) (p : Pipeline) :
    Prop where
  whole : ∀ ending more, p.Possible ending more →
    made ++ p.readingsAhead ending more =
      (Decoder.start tty).readings ending (chunks.flatten ++ more)
  fault : p.fault = faultOf made

namespace Told

variable {tty : Bool} {chunks : List (List UInt8)} {made : List Reading} {p q : Pipeline}

theorem congr (h : Told tty chunks made p) (decoder : q.decoder = p.decoder)
    (arrived : q.arrived = p.arrived) (ending : q.ending = p.ending) (fault : q.fault = p.fault)
    (task : q.reading = .stopped ↔ p.reading = .stopped) : Told tty chunks made q where
  whole e more possible := by
    have possible : p.Possible e more := by simpa [Possible, ending] using possible
    rw [← h.whole e more possible]
    by_cases stopped : p.reading = .stopped
    · rw [readingsAhead_of_stopped stopped, readingsAhead_of_stopped (task.mpr stopped)]
    · rw [readingsAhead_of_ne_stopped stopped, readingsAhead_of_ne_stopped (mt task.mp stopped),
        decoder, arrived]
  fault := fault.trans h.fault

theorem readOn {d : Decoder} {rest : List UInt8} {notices notes : List Notice}
    (h : Told tty chunks made p) (took : p.decoder.take p.arrived = (d, none, rest, notices)) :
    Told tty chunks made { p with decoder := d, arrived := rest, notices := notes } where
  whole e more possible := by
    obtain ⟨rfl, later⟩ := Decoder.readings_of_take_none took e more
    simpa [readingsAhead, later] using h.whole e more possible
  fault := h.fault

theorem readFrame {d : Decoder} {f : Frame} {rest : List UInt8} {notices notes : List Notice}
    (h : Told tty chunks made p) (reading : p.reading = .reading)
    (took : p.decoder.take p.arrived = (d, some f, rest, notices)) :
    Told tty chunks (made ++ [.frame f]) { p with
      decoder := d, arrived := rest, notices := notes
      reading := .after p.container (.frame f) } where
  whole e more possible := by
    have goesOn : ReadingTask.after p.container (.frame f) ≠ .stopped := by
      simp [ReadingTask.after_eq_stopped_iff, Reading.isLast]
    have whole := h.whole e more possible
    rw [readingsAhead_of_ne_stopped (by simp [reading]),
      Decoder.readings_of_take_some took e more] at whole
    rw [readingsAhead_of_ne_stopped goesOn, ← whole]
    simp
  fault := by
    rw [faultOf_append_singleton, StreamFault.after_of_not_isLast rfl]
    exact h.fault

theorem readEnd {d : Decoder} {r : Reading} {ending : Ending} {notices notes : List Notice}
    (h : Told tty chunks made p) (reading : p.reading = .reading) (all : p.arrived = [])
    (ended : p.ending = some ending) (stop : p.decoder.stop ending = (d, r, notices)) :
    Told tty chunks (made ++ [r]) { p with
      decoder := d, notices := notes, reading := .after p.container r
      fault := StreamFault.after p.fault r } where
  whole e more possible := by
    have whole := h.whole e more possible
    obtain ⟨rfl, rfl⟩ : ending = e ∧ more = [] := by simpa [Possible, ended] using possible
    have last := p.decoder.readings_nil ending
    rw [stop] at last
    rw [readingsAhead_of_ne_stopped (by simp [reading]), all, List.append_nil, last] at whole
    rw [← whole, List.append_assoc, List.singleton_append]
    cases isLast : r.isLast with
    | true =>
      rw [readingsAhead_of_stopped ((ReadingTask.after_eq_stopped_iff _ _).mpr isLast)]
      simp
    | false =>
      have goesOn : ReadingTask.after p.container r ≠ .stopped := by
        simp [ReadingTask.after_eq_stopped_iff, isLast]
      rw [readingsAhead_of_ne_stopped goesOn]
      simp [all]
  fault := by rw [faultOf_append_singleton, ← h.fault]

/-- What a move of a run reads, it notes; a record is given up only when grouping has stopped. -/
theorem step {m : Move} (h : Told tty chunks made p) (calm : p.cancelled = false)
    (exhausted : p.grouping = .stopped → p.reading = .stopped) (stepped : p.Step m q) :
    ∃ made, Told tty chunks made q := by
  cases stepped with
  | readOn reading come took => exact ⟨_, h.readOn took⟩
  | readFrame reading come took => exact ⟨_, h.readFrame reading took⟩
  | readEnd reading all ended stop => exact ⟨_, h.readEnd reading all ended stop⟩
  | hand holds open_ room => exact ⟨_, h.congr rfl rfl rfl rfl (by simp [holds])⟩
  | giveUp holds shut =>
    have stopped := exhausted shut
    simp [holds] at stopped
  | stopReading cancelled => simp [calm] at cancelled
  | stopGrouping cancelled => simp [calm] at cancelled
  | _ => exact ⟨_, h.congr rfl rfl rfl rfl Iff.rfl⟩

end Told

variable {tuning : Tuning} {container : String} {tty : Bool} {j : Journal} {p q : Pipeline}

theorem Step.cancelled_eq {m : Move} (h : p.Step m q) : q.cancelled = p.cancelled := by
  cases h <;> rfl

theorem Run.told (run : Run tuning container tty j p) (calm : p.cancelled = false) :
    ∃ made, Told tty j.chunks made p := by
  induction run with
  | start => exact ⟨[], fun e more _ => by simp [readingsAhead, Pipeline.start], rfl⟩
  | arrive bytes open_ h ih =>
    obtain ⟨made, told⟩ := ih calm
    refine ⟨made, fun e more _ => ?_, told.fault⟩
    simpa [readingsAhead, Pipeline.arrive] using told.whole e (bytes ++ more) (Or.inl open_)
  | finishInput ending open_ h ih =>
    obtain ⟨made, told⟩ := ih calm
    exact ⟨made, fun e more _ => told.whole e more (Or.inl open_), told.fault⟩
  | advance ms h ih =>
    obtain ⟨made, told⟩ := ih calm
    exact ⟨made, told.congr rfl rfl rfl rfl Iff.rfl⟩
  | take took h ih =>
    obtain ⟨rest, -, rfl⟩ := takeEvent?_eq_some took
    obtain ⟨made, told⟩ := ih calm
    exact ⟨made, told.congr rfl rfl rfl rfl Iff.rfl⟩
  | cancel h ih => simp [Pipeline.cancel] at calm
  | abandon h ih => simp [Pipeline.abandon] at calm
  | move m moved h ih =>
    have stepped := step_of_step? moved
    rw [stepped.cancelled_eq] at calm
    obtain ⟨made, told⟩ := ih calm
    obtain ⟨rs, ds, lost, cur, -, undisturbed⟩ := h.reaches
    exact told.step calm (fun shut => ((undisturbed calm).exhausted shut).2.2.2) stepped

theorem Run.taken_plain (run : Run tuning container tty j p) (calm : p.cancelled = false)
    (closed : p.isClosed = true) :
    ∃ ending, p.ending = some ending ∧
      j.taken.map Entry.plain = (j.records container tty ending).map Record.plain := by
  obtain ⟨events, stopped⟩ := isClosed_iff.mp closed
  obtain ⟨rs, ds, lost, cur, progress, undisturbed⟩ := run.reaches
  obtain ⟨rfl, rfl, -, -⟩ := (undisturbed calm).exhausted stopped
  obtain ⟨ending, ended, all⟩ := (undisturbed calm).records_eq stopped
  rw [run.tuning_eq.2] at all
  subst all
  have taken : j.taken = ds.map Record.entry := by
    have emitted := progress.emitted
    simpa [Journal.emitted, events] using emitted
  have plain := progress.grouped.decided_plain
  refine ⟨ending, ended, ?_⟩
  rw [taken, List.map_map, ← plain, Option.toList_none, List.map_nil, List.append_nil]
  rfl

/-- Once reading has stopped of itself, the fault that is known is the one of the whole stream. -/
theorem Run.fault_eq (run : Run tuning container tty j p) (calm : p.cancelled = false)
    (reading : p.reading = .stopped) {ending : Ending} (ended : p.ending = some ending) :
    p.fault = faultOf (FrameReader.ofDelivery tty (j.delivery ending)).readAll.1 := by
  obtain ⟨made, told⟩ := run.told calm
  have whole := told.whole ending [] (Or.inr ⟨ended, rfl⟩)
  rw [readingsAhead_of_stopped reading, List.append_nil, List.append_nil] at whole
  rw [told.fault, whole, FrameReader.readAll_eq]
  rfl

theorem settle_of_stopped (reading : p.reading = .stopped) (grouping : p.grouping = .stopped) :
    p.settle = p :=
  settle_of_isStill (isStill_of_stopped reading grouping)

/-- The record of a line that was read in place of a header is of no known stream. -/
theorem record_stream (container text : String) (stream : Stream) :
    (record container text stream).plain.stream = stream := by
  simp only [Record.plain, record, Record.ofEntry, Line.read, Line.readPlain, Entry.plain]
  split <;> rfl

/-- Stray bytes are one event among those of the readings before and after them. -/
theorem exists_event_of_shortHeader {events : List Entry} {front back : List Reading}
    {recovered : String}
    (plain : events.map Entry.plain =
      (recordsOf container (front ++ .shortHeader recovered :: back)).map Record.plain) :
    ∃ before e after, events = before ++ e :: after ∧
      before.map Entry.plain = (recordsOf container front).map Record.plain ∧
      e.plain = (record container recovered .unknown).plain ∧ e.stream = .unknown ∧
      after.map Entry.plain = (recordsOf container back).map Record.plain := by
  rw [recordsOf_append, recordsOf_cons, List.map_append, List.map_append] at plain
  obtain ⟨before, others, all, earlier, fromHere⟩ := List.map_eq_append_iff.mp plain
  obtain ⟨own, after, rfl, here, later⟩ := List.map_eq_append_iff.mp fromHere
  obtain ⟨e, rfl, line⟩ := List.map_eq_singleton_iff.mp here
  have stream := congrArg Entry.stream line
  exact ⟨before, e, after, all, earlier, line, stream.trans (record_stream ..), later⟩

/-- What a broken stream leaves. A run that nobody disturbs and that is read until its output is
closed gives one event for every piece of output that could be read, in order: stray bytes at the
end give one of no known stream, and do not keep others from coming; after a fault nothing is read,
so what comes out is what was read before it. Finishing then finds both tasks at their end, and
reports a fault exactly if reading has ended with one, and that one. -/
theorem Run.fault_reported (run : Run tuning container tty j p) (calm : p.cancelled = false)
    (closed : p.isClosed = true) :
    ∃ ending, p.ending = some ending ∧
      let readings := (FrameReader.ofDelivery tty (j.delivery ending)).readAll.1
      j.taken.map Entry.plain = (recordsOf container readings).map Record.plain ∧
      (∀ front recovered back, readings = front ++ .shortHeader recovered :: back →
        back ≠ [] ∧ ∃ before e after, j.taken = before ++ e :: after ∧
          before.map Entry.plain = (recordsOf container front).map Record.plain ∧
          e.plain = (record container recovered .unknown).plain ∧ e.stream = .unknown ∧
          after.map Entry.plain = (recordsOf container back).map Record.plain) ∧
      (∀ front fault back, readings = front ++ .failed fault :: back →
        back = [] ∧ j.taken.map Entry.plain = (recordsOf container front).map Record.plain) ∧
      p.abandon.settle.reading = .stopped ∧ p.abandon.settle.grouping = .stopped ∧
      ∀ fault, p.abandon.settle.fault = some fault ↔ readings.getLast? = some (.failed fault) := by
  obtain ⟨-, grouping⟩ := isClosed_iff.mp closed
  obtain ⟨rs, ds, lost, cur, -, undisturbed⟩ := run.reaches
  have reading := ((undisturbed calm).exhausted grouping).2.2.2
  obtain ⟨ending, ended, taken⟩ := run.taken_plain calm closed
  refine ⟨ending, ended, ?_⟩
  intro readings
  have once : EndsOnce readings := by
    have all : readings = (Decoder.start tty).readings ending j.chunks.flatten :=
      FrameReader.readAll_eq _
    exact all ▸ Decoder.endsOnce_readings ending _ _
  have taken : j.taken.map Entry.plain = (recordsOf container readings).map Record.plain := taken
  have settled : p.abandon.settle = p.abandon := settle_of_stopped reading grouping
  refine ⟨taken, ?_, ?_, by rw [settled]; exact reading, by rw [settled]; exact grouping, ?_⟩
  · intro front recovered back cut
    have goesOn : back ≠ [] := by
      rintro rfl
      have isLast := once.isLast_of_eq cut
      simp [Reading.isLast] at isLast
    rw [cut] at taken
    exact ⟨goesOn, exists_event_of_shortHeader taken⟩
  · intro front fault back cut
    obtain rfl := once.back_eq_nil cut rfl
    rw [cut, recordsOf_append] at taken
    exact ⟨rfl, by simpa [recordsOf, Reading.record?] using taken⟩
  · intro fault
    rw [settled, ← once.faultOf_eq_some_iff]
    exact iff_of_eq (congrArg (· = some fault) (run.fault_eq calm reading ended))

def severed : Pipeline :=
  (takeSettled 9 9 (((start {} "web" false).arrive
    [1, 0, 0, 0, 0, 0, 0, 1, 97, 2, 0, 0, 0, 0, 0, 0, 2, 98]).finishInput .closed).settle).2.2

theorem run_severed : ∃ j, Run {} "web" false j severed := by
  have begun : Run {} "web" false {} (start {} "web" false) := .start
  obtain ⟨_, worked, -⟩ := ((begun.arrive
    [1, 0, 0, 0, 0, 0, 0, 1, 97, 2, 0, 0, 0, 0, 0, 0, 2, 98] rfl).finishInput .closed rfl).settle
  obtain ⟨j, run, -⟩ := worked.takeSettled 9 9
  exact ⟨j, run⟩

theorem Run.fault_reported_severed :
    ∃ j, Run {} "web" false j severed ∧ severed.cancelled = false ∧ severed.isClosed = true ∧
      ∃ ending, severed.ending = some ending ∧
        let readings := (FrameReader.ofDelivery false (j.delivery ending)).readAll.1
        j.taken.map Entry.plain = (recordsOf "web" readings).map Record.plain ∧
        severed.abandon.settle.fault = some .truncated ∧
        readings.getLast? = some (.failed .truncated) := by
  have calm : severed.cancelled = false := by decide +kernel
  have closed : severed.isClosed = true := by decide +kernel
  have fault : severed.abandon.settle.fault = some .truncated := by decide +kernel
  obtain ⟨j, run⟩ := run_severed
  obtain ⟨ending, ended, taken, -, -, -, -, reported⟩ := run.fault_reported calm closed
  exact ⟨j, run, calm, closed, ending, ended, taken, fault, (reported _).mp fault⟩

end Pipeline

end ContainerWatch.Log
