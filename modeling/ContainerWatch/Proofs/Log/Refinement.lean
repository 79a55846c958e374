import ContainerWatch.Proofs.Log.Progress

/-!
Grouping record by record refines grouping in one go. A run that nobody disturbs, read until its
output is closed, hands out the batch groupings of segments of the records that its stream reads as;
a segment ends where a look ahead found nothing.
-/

namespace ContainerWatch.Log.Pipeline

variable {tuning : Tuning} {container : String} {tty : Bool} {j : Journal} {p : Pipeline}

theorem isClosed_iff : p.isClosed = true ↔ p.events = [] ∧ p.grouping = .stopped := by
  unfold isClosed
  cases p.grouping <;> simp

theorem Journal.records_eq (j : Journal) (container : String) (tty : Bool) (ending : Ending) :
    j.records container tty ending =
      recordsOf container ((Decoder.start tty).readings ending j.chunks.flatten) := by
  rw [records, FrameReader.readAll_eq, FrameReader.readings]
  rfl

/-- When grouping has stopped of itself, it has taken all records of the stream. -/
theorem Undisturbed.records_eq {rs lost : List Record} {cur : Option Record}
    (h : Undisturbed tty j p rs lost cur) (stopped : p.grouping = .stopped) :
    ∃ ending, p.ending = some ending ∧ rs = j.records p.container tty ending := by
  obtain ⟨-, -, queue, reading⟩ := h.exhausted stopped
  obtain ⟨ending, ended⟩ := Option.ne_none_iff_exists'.mp (h.sourced.ended reading)
  refine ⟨ending, ended, ?_⟩
  have hw := h.sourced.whole ending [] (Or.inr ⟨ended, rfl⟩)
  rw [ahead_of_stopped reading, queue, reading, List.append_nil] at hw
  simpa [ReadingTask.held, Journal.records_eq] using hw

/-- What is taken from a pipeline until its output is closed. Each record that the stream reads as
comes out once, in its place; grouping has worked on the segments that the looks ahead cut, and each
look was made while the record of its own number was current. -/
theorem Run.taken_eq_batches (run : Run tuning container tty j p)
    (undisturbed : p.cancelled = false) (closed : p.isClosed = true) :
    ∃ ending, p.ending = some ending ∧
      let rs := j.records container tty ending
      let segments := Group.segments (j.looks.map Prod.snd) rs
      segments.flatten = rs ∧ (∀ s ∈ segments, s ≠ []) ∧
      j.looks.map (fun l => l.1.plain) = rs.map Record.plain ∧
      j.taken = (segments.flatMap (Group.batch p.window)).map Record.entry ∧
      j.taken.length = rs.length ∧
      j.taken.map Entry.plain = rs.map Record.plain := by
  obtain ⟨events, stopped⟩ := isClosed_iff.mp closed
  obtain ⟨rs, ds, lost, cur, hp, hu⟩ := run.reaches
  obtain ⟨rfl, rfl, -, -⟩ := (hu undisturbed).exhausted stopped
  obtain ⟨ending, ended, hr⟩ := (hu undisturbed).records_eq stopped
  rw [run.tuning_eq.2] at hr
  subst hr
  have taken : j.taken = ds.map Record.entry := by
    have he := hp.emitted
    simpa [Journal.emitted, events] using he
  have plain : ds.map Record.plain = (j.records container tty ending).map Record.plain := by
    have hd := hp.grouped.decided_plain
    simpa using hd
  refine ⟨ending, ended, Group.flatten_segments _ _, Group.segments_ne_nil _ _, ?_, ?_, ?_, ?_⟩
  · have hl := hp.grouped.looks_plain
    simpa using hl
  · rw [taken, hp.grouped.eq_batches]
  · have hl := congrArg List.length plain
    simpa [taken] using hl
  · rw [taken, ← plain, List.map_map]
    rfl

/-- Two lines that come so far apart that the first waits for the second in vain. -/
def apart : Pipeline :=
  (takeSettled 9 9 (((((((start {} "web" true).arrive [97, 10]).settle.advance 50).settle).arrive
    [98, 10]).finishInput .closed).settle)).2.2

theorem run_apart : ∃ j, Run {} "web" true j apart := by
  have h0 : Run {} "web" true {} (start {} "web" true) := .start
  obtain ⟨_, h1, -⟩ := (h0.arrive [97, 10] rfl).settle
  obtain ⟨_, h2, -⟩ := (h1.advance 50).settle
  obtain ⟨_, h3, -⟩ := ((h2.arrive [98, 10] (by decide +kernel)).finishInput .closed
    (by decide +kernel)).settle
  obtain ⟨j, h4, -⟩ := h3.takeSettled 9 9
  exact ⟨j, h4⟩

theorem Run.taken_eq_batches_apart :
    ∃ j, Run {} "web" true j apart ∧ apart.cancelled = false ∧ apart.isClosed = true ∧
      ∃ ending, apart.ending = some ending ∧
        let rs := j.records "web" true ending
        let segments := Group.segments (j.looks.map Prod.snd) rs
        segments.flatten = rs ∧ (∀ s ∈ segments, s ≠ []) ∧
        j.looks.map (fun l => l.1.plain) = rs.map Record.plain ∧
        j.taken = (segments.flatMap (Group.batch apart.window)).map Record.entry ∧
        j.taken.length = rs.length ∧
        j.taken.map Entry.plain = rs.map Record.plain := by
  have undisturbed : apart.cancelled = false := by decide +kernel
  have closed : apart.isClosed = true := by decide +kernel
  obtain ⟨j, run⟩ := run_apart
  exact ⟨j, run, undisturbed, closed, run.taken_eq_batches undisturbed closed⟩

end ContainerWatch.Log.Pipeline
