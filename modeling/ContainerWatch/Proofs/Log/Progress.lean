import ContainerWatch.Proofs.Log.Runs

/-!
How far a run has come. Whatever the order of its moves, the records that a pipeline has taken
from its queue, its looks ahead and what it has handed out are a state of `Group.Grouped`; and
while nobody asks the tasks to stop, the records made so far and those still ahead are the ones
that the stream reads as.
-/

namespace ContainerWatch.Log

theorem ReadingTask.held_after (container : String) (r : Reading) :
    (after container r).held = (r.record? container).toList := by
  cases r with
  | frame f => cases h : f.text.isEmpty <;> simp [after, Reading.record?, h, held]
  | shortHeader recovered => rfl
  | failed fault => rfl
  | finished => rfl

theorem ReadingTask.after_eq_stopped_iff (container : String) (r : Reading) :
    after container r = .stopped ↔ r.isLast = true := by
  cases r with
  | frame f => cases h : f.text.isEmpty <;> simp [after, Reading.record?, h, Reading.isLast]
  | shortHeader recovered => simp [after, Reading.record?, Reading.isLast]
  | failed fault => simp [after, Reading.isLast]
  | finished => simp [after, Reading.isLast]

theorem recordsOf_cons (container : String) (r : Reading) (rs : List Reading) :
    recordsOf container (r :: rs) = (r.record? container).toList ++ recordsOf container rs := by
  unfold recordsOf
  cases h : r.record? container <;> simp [h]

def Record.IsFresh (r : Record) : Prop :=
  ∃ container text stream, r = Pipeline.record container text stream

theorem Reading.record?_isFresh {container : String} {rd : Reading} {r : Record}
    (h : rd.record? container = some r) : r.IsFresh := by
  cases rd with
  | frame f =>
    simp only [record?] at h
    split at h
    · simp at h
    · exact ⟨_, _, _, (Option.some.inj h).symm⟩
  | shortHeader recovered => exact ⟨_, _, _, (Option.some.inj h).symm⟩
  | failed fault => simp [record?] at h
  | finished => simp [record?] at h

namespace Pipeline

theorem takeEvent?_eq_some {p q : Pipeline} {e : Entry} (h : p.takeEvent? = some (e, q)) :
    ∃ rest, p.events = e :: rest ∧ q = { p with events := rest } := by
  unfold takeEvent? at h
  split at h
  · simp at h
  · next _ rest events =>
    obtain ⟨rfl, rfl⟩ := by simpa using h
    exact ⟨rest, events, rfl⟩

/-! ### The reading side -/

/-- Whether a stream may still go on with these bytes and this end. -/
def Possible (p : Pipeline) (ending : Ending) (more : List UInt8) : Prop :=
  p.ending = none ∨ p.ending = some ending ∧ more = []

def ahead (p : Pipeline) (ending : Ending) (more : List UInt8) : List Record :=
  match p.reading with
  | .stopped => []
  | _ => recordsOf p.container (p.decoder.readings ending (p.arrived ++ more))

theorem ahead_of_stopped {p : Pipeline} (h : p.reading = .stopped) (ending : Ending)
    (more : List UInt8) : p.ahead ending more = [] := by
  simp [ahead, h]

theorem ahead_of_ne_stopped {p : Pipeline} (h : p.reading ≠ .stopped) (ending : Ending)
    (more : List UInt8) : p.ahead ending more =
      recordsOf p.container (p.decoder.readings ending (p.arrived ++ more)) := by
  unfold ahead
  split
  · contradiction
  · rfl

/-- The records handed on, the one that is held and those ahead are what the stream reads as. -/
structure Sourced (tty : Bool) (chunks : List (List UInt8)) (handed : List Record) (p : Pipeline) :
    Prop where
  ended : p.reading = .stopped → p.ending ≠ none
  whole : ∀ ending more, p.Possible ending more →
    handed ++ p.reading.held ++ p.ahead ending more =
      recordsOf p.container ((Decoder.start tty).readings ending (chunks.flatten ++ more))

namespace Sourced

variable {tty : Bool} {chunks : List (List UInt8)} {handed : List Record} {p : Pipeline}

theorem start (tuning : Tuning) (container : String) (tty : Bool) :
    Sourced tty [] [] (start tuning container tty) where
  ended := by simp [Pipeline.start]
  whole ending more _ := by simp [Pipeline.start, ahead, ReadingTask.held]

theorem congr {q : Pipeline} (h : Sourced tty chunks handed p) (reading : q.reading = p.reading)
    (ending : q.ending = p.ending) (arrived : q.arrived = p.arrived)
    (decoder : q.decoder = p.decoder) (container : q.container = p.container) :
    Sourced tty chunks handed q where
  ended := by rw [reading, ending]; exact h.ended
  whole e more possible := by
    have hp : p.Possible e more := by simpa [Possible, ending] using possible
    have hw := h.whole e more hp
    simpa [ahead, reading, arrived, decoder, container] using hw

theorem arrive (h : Sourced tty chunks handed p) (open_ : p.ending = none) (bytes : List UInt8) :
    Sourced tty (chunks ++ [bytes]) handed (p.arrive bytes) where
  ended stopped := absurd open_ (h.ended stopped)
  whole e more _ := by
    have hw := h.whole e (bytes ++ more) (Or.inl open_)
    simpa [ahead, Pipeline.arrive, List.append_assoc] using hw

theorem finishInput (h : Sourced tty chunks handed p) (open_ : p.ending = none) (ending : Ending) :
    Sourced tty chunks handed (p.finishInput ending) where
  ended := by simp [Pipeline.finishInput]
  whole e more _ := h.whole e more (Or.inl open_)

theorem readOn {d : Decoder} {rest : List UInt8} {notices notes : List Notice}
    (h : Sourced tty chunks handed p)
    (took : p.decoder.take p.arrived = (d, none, rest, notices)) :
    Sourced tty chunks handed { p with decoder := d, arrived := rest, notices := notes } where
  ended := h.ended
  whole e more possible := by
    have hw := h.whole e more possible
    obtain ⟨rfl, hr⟩ := Decoder.readings_of_take_none took e more
    simpa [ahead, hr] using hw

theorem readFrame {d : Decoder} {f : Frame} {rest : List UInt8} {notices notes : List Notice}
    (h : Sourced tty chunks handed p) (reading : p.reading = .reading)
    (took : p.decoder.take p.arrived = (d, some f, rest, notices)) :
    Sourced tty chunks handed { p with
      decoder := d, arrived := rest, notices := notes
      reading := .after p.container (.frame f) } where
  ended stopped := by
    have hl := (ReadingTask.after_eq_stopped_iff p.container (.frame f)).mp stopped
    simp [Reading.isLast] at hl
  whole e more possible := by
    have hw := h.whole e more possible
    have hr := Decoder.readings_of_take_some took e more
    have hs : ReadingTask.after p.container (.frame f) ≠ .stopped := by
      simp [ReadingTask.after_eq_stopped_iff, Reading.isLast]
    rw [ahead_of_ne_stopped (by simp [reading]), hr, recordsOf_cons, reading] at hw
    rw [ahead_of_ne_stopped hs, ReadingTask.held_after, ← hw]
    simp [ReadingTask.held]

theorem readEnd {d : Decoder} {r : Reading} {ending : Ending} {notices notes : List Notice}
    {fault : Option StreamFault} (h : Sourced tty chunks handed p) (reading : p.reading = .reading)
    (all : p.arrived = []) (ended : p.ending = some ending)
    (stop : p.decoder.stop ending = (d, r, notices)) :
    Sourced tty chunks handed { p with
      decoder := d, notices := notes, fault, reading := .after p.container r } where
  ended := by simp [ended]
  whole e more possible := by
    have hw := h.whole e more possible
    obtain ⟨rfl, rfl⟩ : ending = e ∧ more = [] := by simpa [Possible, ended] using possible
    have hr := p.decoder.readings_nil ending
    simp only [stop] at hr
    rw [ahead_of_ne_stopped (by simp [reading]), all, List.append_nil, hr, recordsOf_cons,
      reading] at hw
    rw [ReadingTask.held_after, ← hw]
    cases hl : r.isLast with
    | true =>
      rw [ahead_of_stopped ((ReadingTask.after_eq_stopped_iff _ _).mpr hl)]
      simp [ReadingTask.held, recordsOf]
    | false =>
      have hs : ReadingTask.after p.container r ≠ .stopped := by
        simp [ReadingTask.after_eq_stopped_iff, hl]
      rw [ahead_of_ne_stopped hs]
      simp [ReadingTask.held, all]

theorem hand {r : Record} (h : Sourced tty chunks handed p) (holds : p.reading = .holding r)
    (records : List Record) :
    Sourced tty chunks (handed ++ [r]) { p with records, reading := .reading } where
  ended := by simp
  whole e more possible := by
    have hw := h.whole e more possible
    simpa [ahead, holds, ReadingTask.held] using hw

end Sourced

/-! ### The grouping side -/

/-- How far the grouping of a run has come: the records it has taken, what it has decided, what of
that it has not handed out, and the record that is current. -/
structure Progress (window : Int) (j : Journal) (p : Pipeline) (rs ds lost : List Record)
    (cur : Option Record) : Prop where
  window_eq : p.window = window
  grouped : Group.Grouped window rs j.looks ds cur
  emitted : j.emitted p ++ lost.map Record.entry = ds.map Record.entry
  working : p.grouping ≠ .stopped → lost = p.grouping.held ∧ cur = p.grouping.current
  fresh : ∀ r ∈ rs ++ p.records ++ p.reading.held, r.IsFresh

/-- What holds while nobody asks the tasks to stop: somebody takes the output, the records come from
the stream, and grouping stops only when it has handed out all of them. -/
structure Undisturbed (tty : Bool) (j : Journal) (p : Pipeline) (rs lost : List Record)
    (cur : Option Record) : Prop where
  received : p.received = true
  sourced : Sourced tty j.chunks (rs ++ p.records) p
  exhausted : p.grouping = .stopped →
    lost = [] ∧ cur = none ∧ p.records = [] ∧ p.reading = .stopped

variable {window : Int} {tty : Bool} {j : Journal} {p q : Pipeline} {rs ds lost : List Record}
  {cur : Option Record}

namespace Progress

theorem reads (h : Progress window j p rs ds lost cur) (tuning : q.tuning = p.tuning)
    (events : q.events = p.events) (grouping : q.grouping = p.grouping)
    (fresh : ∀ r ∈ q.records ++ q.reading.held, r ∈ p.records ++ p.reading.held ∨ r.IsFresh) :
    Progress window j q rs ds lost cur where
  window_eq := by rw [← h.window_eq, Pipeline.window, tuning, Pipeline.window]
  grouped := h.grouped
  emitted := by rw [← h.emitted, Journal.emitted, events, Journal.emitted]
  working := by rw [grouping]; exact h.working
  fresh r hr := by
    rw [List.append_assoc, List.mem_append] at hr
    rcases hr with hr | hr
    · exact h.fresh r (by simp [hr])
    · rcases fresh r hr with hm | hf
      · exact h.fresh r (by rw [List.append_assoc]; exact List.mem_append_right _ hm)
      · exact hf

theorem stopReading (h : Progress window j p rs ds lost cur) :
    Progress window j { p with reading := .stopped } rs ds lost cur := by
  refine h.reads rfl rfl rfl fun r hr => Or.inl ?_
  have hm : r ∈ p.records ++ [] := hr
  rw [List.append_nil] at hm
  exact List.mem_append_left _ hm

theorem lost_eq (h : Progress window j p rs ds lost cur) {task : GroupingTask}
    (at_ : p.grouping = task) (going : task ≠ .stopped) :
    lost = task.held ∧ cur = task.current :=
  at_ ▸ h.working (at_ ▸ going)

theorem receive {r : Record} {rest : List Record} (h : Progress window j p rs ds [] none)
    (queue : p.records = r :: rest) (deadline : Nat) :
    Progress window j { p with records := rest, grouping := .peeking r deadline }
      (rs ++ [r]) ds [] (some r) where
  window_eq := h.window_eq
  grouped := h.grouped.turn r
  emitted := h.emitted
  working _ := ⟨rfl, rfl⟩
  fresh := by
    have hf := h.fresh
    simpa [queue] using hf

theorem peek {c next decided left : Record} {rest : List Record}
    (h : Progress window j p rs ds [] (some c)) (queue : p.records = next :: rest)
    (linked : Group.link window c next = (decided, left)) :
    Progress window { j with looks := j.looks ++ [(c, true)] }
      { p with records := rest, grouping := .holding decided (some left) }
      (rs ++ [next]) (ds ++ [decided]) [decided] (some left) where
  window_eq := h.window_eq
  grouped := h.grouped.found linked
  emitted := by
    have he := h.emitted
    simp only [Journal.emitted, List.map_nil, List.append_nil] at he
    simp [Journal.emitted, ← he]
  working _ := ⟨rfl, rfl⟩
  fresh := by
    have hf := h.fresh
    simpa [queue] using hf

theorem expire {c : Record} (h : Progress window j p rs ds [] (some c)) :
    Progress window { j with looks := j.looks ++ [(c, false)] }
      { p with grouping := .holding (Group.close c) none }
      rs (ds ++ [Group.close c]) [Group.close c] none where
  window_eq := h.window_eq
  grouped := h.grouped.alone
  emitted := by
    have he := h.emitted
    simp only [Journal.emitted, List.map_nil, List.append_nil] at he
    simp [Journal.emitted, ← he]
  working _ := ⟨rfl, rfl⟩
  fresh := h.fresh

theorem emit {c : Record} {task : GroupingTask} (h : Progress window j p rs ds [c] cur)
    (held : task.held = []) (current : task.current = cur) :
    Progress window j { p with events := p.events ++ [c.entry], grouping := task } rs ds []
      cur where
  window_eq := h.window_eq
  grouped := h.grouped
  emitted := by
    have he := h.emitted
    simpa [Journal.emitted] using he
  working _ := ⟨held.symm, current.symm⟩
  fresh := h.fresh

theorem stop (h : Progress window j p rs ds lost cur) {records : List Record}
    (kept : ∀ r ∈ records, r ∈ p.records) :
    Progress window j { p with grouping := .stopped, records } rs ds lost cur where
  window_eq := h.window_eq
  grouped := h.grouped
  emitted := h.emitted
  working going := absurd rfl going
  fresh r hr := by
    have hf := h.fresh r
    simp only [List.mem_append] at hr hf
    exact hf (hr.imp_left (Or.imp_right (kept r)))

end Progress

/-- A state that a run may reach: how far grouping has come, and what holds if nobody has asked the
tasks to stop. -/
def Reaches (window : Int) (tty : Bool) (j : Journal) (p : Pipeline) : Prop :=
  ∃ rs ds lost cur, Progress window j p rs ds lost cur ∧
    (p.cancelled = false → Undisturbed tty j p rs lost cur)

namespace Reaches

theorem read (h : Reaches window tty j p) (stepped : p.Step .read q) : Reaches window tty j q := by
  obtain ⟨rs, ds, lost, cur, hp, hu⟩ := h
  have fresh : ∀ rd, ∀ r ∈ p.records ++ (ReadingTask.after p.container rd).held,
      r ∈ p.records ++ p.reading.held ∨ r.IsFresh := by
    intro rd r hr
    rw [ReadingTask.held_after] at hr
    rcases List.mem_append.mp hr with hr | hr
    · exact Or.inl (List.mem_append_left _ hr)
    · exact Or.inr (Reading.record?_isFresh (Option.mem_toList.mp hr))
  have going : p.reading = .reading → p.cancelled = false → p.grouping ≠ .stopped := by
    intro reading quiet stopped
    have hr := ((hu quiet).exhausted stopped).2.2.2
    simp [reading] at hr
  cases stepped with
  | readOn reading come took =>
    refine ⟨rs, ds, lost, cur, hp.reads rfl rfl rfl fun r hr => Or.inl hr, fun quiet => ?_⟩
    exact ⟨(hu quiet).received, (hu quiet).sourced.readOn took, (hu quiet).exhausted⟩
  | @readFrame d f rest notices notes reading come took =>
    refine ⟨rs, ds, lost, cur, hp.reads rfl rfl rfl (fresh (.frame f)), fun quiet => ?_⟩
    exact ⟨(hu quiet).received, (hu quiet).sourced.readFrame reading took,
      fun stopped => absurd stopped (going reading quiet)⟩
  | @readEnd d rd ending notices notes reading all ended stop =>
    refine ⟨rs, ds, lost, cur, hp.reads rfl rfl rfl (fresh rd), fun quiet => ?_⟩
    exact ⟨(hu quiet).received, (hu quiet).sourced.readEnd reading all ended stop,
      fun stopped => absurd stopped (going reading quiet)⟩

theorem pass (h : Reaches window tty j p) (stepped : p.Step .pass q) : Reaches window tty j q := by
  obtain ⟨rs, ds, lost, cur, hp, hu⟩ := h
  cases stepped with
  | @hand r holds open_ room =>
    have fresh : ∀ r' ∈ (p.records ++ [r]) ++ ReadingTask.reading.held,
        r' ∈ p.records ++ p.reading.held := by
      simp [holds, ReadingTask.held]
    refine ⟨rs, ds, lost, cur, hp.reads rfl rfl rfl fun r' hr => Or.inl (fresh r' hr),
      fun quiet => ⟨(hu quiet).received, ?_, fun stopped => absurd stopped open_⟩⟩
    have hs := (hu quiet).sourced.hand holds (p.records ++ [r])
    simpa using hs
  | @giveUp r holds shut =>
    refine ⟨rs, ds, lost, cur, hp.stopReading, fun quiet => ?_⟩
    have hr := ((hu quiet).exhausted shut).2.2.2
    simp [holds] at hr

theorem stopReading (h : Reaches window tty j p) (stepped : p.Step .stopReading q) :
    Reaches window tty j q := by
  obtain ⟨rs, ds, lost, cur, hp, hu⟩ := h
  cases stepped with
  | stopReading cancelled =>
    refine ⟨rs, ds, lost, cur, hp.stopReading, fun quiet => ?_⟩
    simp [cancelled] at quiet

theorem receive (h : Reaches window tty j p) (stepped : p.Step .receive q) :
    Reaches window tty j q := by
  obtain ⟨rs, ds, lost, cur, hp, hu⟩ := h
  cases stepped with
  | @receive r rest waits queue =>
    obtain ⟨rfl, rfl⟩ := hp.lost_eq waits (by simp)
    refine ⟨rs ++ [r], ds, [], some r, hp.receive queue _, fun quiet => ?_⟩
    have hs := (hu quiet).sourced
    rw [queue, ← List.singleton_append, ← List.append_assoc] at hs
    exact ⟨(hu quiet).received, hs.congr rfl rfl rfl rfl rfl, by simp⟩
  | exhaust waits queue stopped =>
    obtain ⟨rfl, rfl⟩ := hp.lost_eq waits (by simp)
    refine ⟨rs, ds, [], none, hp.stop fun r hr => hr, fun quiet => ?_⟩
    exact ⟨(hu quiet).received, (hu quiet).sourced.congr rfl rfl rfl rfl rfl,
      fun _ => ⟨rfl, rfl, queue, stopped⟩⟩

theorem peek (h : Reaches window tty j p) (stepped : p.Step .peek q) :
    Reaches window tty { j with looks := j.looks ++ p.look .peek } q := by
  obtain ⟨rs, ds, lost, cur, hp, hu⟩ := h
  cases stepped with
  | @peek c deadline next rest decided left looks queue linked =>
    obtain ⟨rfl, rfl⟩ := hp.lost_eq looks (by simp)
    have hl : p.look .peek = [(c, true)] := by simp [look, looks]
    rw [hl]
    refine ⟨rs ++ [next], ds ++ [decided], [decided], some left,
      hp.peek queue (hp.window_eq ▸ linked), fun quiet => ?_⟩
    have hs := (hu quiet).sourced
    rw [queue, ← List.singleton_append, ← List.append_assoc] at hs
    exact ⟨(hu quiet).received, hs.congr rfl rfl rfl rfl rfl, by simp⟩

theorem expire (h : Reaches window tty j p) (stepped : p.Step .expire q) :
    Reaches window tty { j with looks := j.looks ++ p.look .expire } q := by
  obtain ⟨rs, ds, lost, cur, hp, hu⟩ := h
  cases stepped with
  | @expire c deadline looks queue gone =>
    obtain ⟨rfl, rfl⟩ := hp.lost_eq looks (by simp)
    have hl : p.look .expire = [(c, false)] := by simp [look, looks]
    rw [hl]
    refine ⟨rs, ds ++ [Group.close c], [Group.close c], none, hp.expire, fun quiet => ?_⟩
    exact ⟨(hu quiet).received, (hu quiet).sourced.congr rfl rfl rfl rfl rfl, by simp⟩

theorem emit (h : Reaches window tty j p) (stepped : p.Step .emit q) : Reaches window tty j q := by
  obtain ⟨rs, ds, lost, cur, hp, hu⟩ := h
  cases stepped with
  | @emit c next holds received room =>
    obtain ⟨rfl, hc⟩ := hp.lost_eq holds (by simp)
    obtain rfl : next = cur := hc.symm
    refine ⟨rs, ds, [], next, hp.emit ?_ ?_, fun quiet => ?_⟩
    · cases next <;> rfl
    · cases next <;> rfl
    · refine ⟨(hu quiet).received, (hu quiet).sourced.congr rfl rfl rfl rfl rfl, ?_⟩
      cases next <;> simp
  | @emitNowhere c next holds gone =>
    refine ⟨rs, ds, lost, cur, hp.stop fun r hr => hr, fun quiet => ?_⟩
    have hr := (hu quiet).received
    simp [gone] at hr

theorem stopGrouping (h : Reaches window tty j p) (stepped : p.Step .stopGrouping q) :
    Reaches window tty j q := by
  obtain ⟨rs, ds, lost, cur, hp, hu⟩ := h
  cases stepped with
  | stopGrouping cancelled =>
    refine ⟨rs, ds, lost, cur, hp.stop (by simp), fun quiet => ?_⟩
    simp [cancelled] at quiet

theorem step {m : Move} (h : Reaches window tty j p) (stepped : p.Step m q) :
    Reaches window tty { j with looks := j.looks ++ p.look m } q := by
  have unseen : p.look m = [] → Reaches window tty j q →
      Reaches window tty { j with looks := j.looks ++ p.look m } q := by
    intro hl hq
    simpa [hl] using hq
  cases m with
  | read => exact unseen rfl (h.read stepped)
  | pass => exact unseen rfl (h.pass stepped)
  | stopReading => exact unseen rfl (h.stopReading stepped)
  | receive => exact unseen rfl (h.receive stepped)
  | peek => exact h.peek stepped
  | expire => exact h.expire stepped
  | emit => exact unseen rfl (h.emit stepped)
  | stopGrouping => exact unseen rfl (h.stopGrouping stepped)

theorem start (tuning : Tuning) (container : String) (tty : Bool) :
    Reaches (start tuning container tty).window tty {} (start tuning container tty) := by
  refine ⟨[], [], [], none, ⟨rfl, .start, rfl, fun _ => ⟨rfl, rfl⟩, ?_⟩, fun _ => ?_⟩
  · simp [Pipeline.start, ReadingTask.held]
  · exact ⟨rfl, .start tuning container tty, by simp [Pipeline.start]⟩

theorem arrive (h : Reaches window tty j p) (open_ : p.ending = none) (bytes : List UInt8) :
    Reaches window tty { j with chunks := j.chunks ++ [bytes] } (p.arrive bytes) := by
  obtain ⟨rs, ds, lost, cur, hp, hu⟩ := h
  refine ⟨rs, ds, lost, cur, ⟨hp.window_eq, hp.grouped, hp.emitted, hp.working, hp.fresh⟩,
    fun quiet => ?_⟩
  exact ⟨(hu quiet).received, (hu quiet).sourced.arrive open_ bytes, (hu quiet).exhausted⟩

theorem finishInput (h : Reaches window tty j p) (open_ : p.ending = none) (ending : Ending) :
    Reaches window tty j (p.finishInput ending) := by
  obtain ⟨rs, ds, lost, cur, hp, hu⟩ := h
  refine ⟨rs, ds, lost, cur, hp.reads rfl rfl rfl fun r hr => Or.inl hr, fun quiet => ?_⟩
  exact ⟨(hu quiet).received, (hu quiet).sourced.finishInput open_ ending, (hu quiet).exhausted⟩

theorem advance (h : Reaches window tty j p) (ms : Nat) : Reaches window tty j (p.advance ms) := by
  obtain ⟨rs, ds, lost, cur, hp, hu⟩ := h
  refine ⟨rs, ds, lost, cur, hp.reads rfl rfl rfl fun r hr => Or.inl hr, fun quiet => ?_⟩
  exact ⟨(hu quiet).received, (hu quiet).sourced.congr rfl rfl rfl rfl rfl, (hu quiet).exhausted⟩

theorem take {e : Entry} (h : Reaches window tty j p) (took : p.takeEvent? = some (e, q)) :
    Reaches window tty { j with taken := j.taken ++ [e] } q := by
  obtain ⟨rs, ds, lost, cur, hp, hu⟩ := h
  obtain ⟨rest, events, rfl⟩ := takeEvent?_eq_some took
  refine ⟨rs, ds, lost, cur, ⟨hp.window_eq, hp.grouped, ?_, hp.working, hp.fresh⟩,
    fun quiet => ?_⟩
  · have he := hp.emitted
    simpa [Journal.emitted, events] using he
  · exact ⟨(hu quiet).received, (hu quiet).sourced.congr rfl rfl rfl rfl rfl,
      (hu quiet).exhausted⟩

theorem cancelled {received : Bool} (h : Reaches window tty j p) :
    Reaches window tty j { p with received, cancelled := true } := by
  obtain ⟨rs, ds, lost, cur, hp, -⟩ := h
  exact ⟨rs, ds, lost, cur, hp.reads rfl rfl rfl fun r hr => Or.inl hr, by simp⟩

end Reaches

variable {tuning : Tuning} {container : String}

theorem Step.tuning_eq {m : Move} (h : p.Step m q) :
    q.tuning = p.tuning ∧ q.container = p.container := by
  cases h <;> exact ⟨rfl, rfl⟩

theorem Run.tuning_eq (h : Run tuning container tty j p) :
    p.tuning = tuning ∧ p.container = container := by
  induction h with
  | start => exact ⟨rfl, rfl⟩
  | arrive bytes open_ h ih => exact ih
  | finishInput ending open_ h ih => exact ih
  | advance ms h ih => exact ih
  | take took h ih =>
    obtain ⟨rest, events, rfl⟩ := takeEvent?_eq_some took
    exact ih
  | cancel h ih => exact ih
  | abandon h ih => exact ih
  | move m moved h ih =>
    obtain ⟨ht, hc⟩ := (step_of_step? moved).tuning_eq
    exact ⟨ht.trans ih.1, hc.trans ih.2⟩

theorem Run.window_eq (h : Run tuning container tty j p) :
    p.window = Group.windowOfWord tuning.window := by
  rw [Pipeline.window, h.tuning_eq.1]

/-- Every run is grouping at work, whatever the order of what happens. -/
theorem Run.reaches (h : Run tuning container tty j p) : Reaches p.window tty j p := by
  rw [h.window_eq]
  induction h with
  | start => exact Reaches.start tuning container tty
  | arrive bytes open_ h ih => exact ih.arrive open_ bytes
  | finishInput ending open_ h ih => exact ih.finishInput open_ ending
  | advance ms h ih => exact ih.advance ms
  | take took h ih => exact ih.take took
  | cancel h ih => exact ih.cancelled
  | abandon h ih => exact ih.cancelled
  | move m moved h ih => exact ih.step (step_of_step? moved)

end Pipeline

end ContainerWatch.Log
