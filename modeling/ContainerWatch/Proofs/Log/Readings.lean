import ContainerWatch.Log.Pipeline

/-!
What a stream reads as. `Decoder.readings` gives all readings of a byte stream and its end at once;
a reader that gets the same bytes in any chunks gives the same readings, and it needs at most two
reads more than there are bytes.
-/

namespace ContainerWatch.Utf8

theorem start_fst_ne_nil {b : UInt8} (h : (start b).2 = none) : (start b).1 ≠ [] := by
  revert h
  unfold start
  simp only
  repeat' split
  all_goals simp

theorem decodeFrom_some_ne_nil (p : Pending) (bytes : List UInt8) :
    decodeFrom (some p) bytes ≠ [] := by
  induction bytes generalizing p with
  | nil => simp [decodeFrom]
  | cons b rest ih =>
    have hs : (step (some p) b).1 ≠ [] ∨ ∃ q, (step (some p) b).2 = some q := by
      simp only [step]
      split
      · split <;> simp
      · simp
    rcases hs with hs | ⟨q, hq⟩
    · simp [decodeFrom, hs]
    · rw [decodeFrom, hq]
      simp [ih q]

theorem decode_cons_isEmpty (b : UInt8) (rest : List UInt8) :
    (decode (b :: rest)).isEmpty = false := by
  have hne : decodeFrom none (b :: rest) ≠ [] := by
    rw [decodeFrom]
    cases h : (step none b).2 with
    | none => simp [step, start_fst_ne_nil h]
    | some p => simp [decodeFrom_some_ne_nil]
  simpa [decode, String.isEmpty_iff] using hne

end ContainerWatch.Utf8

namespace ContainerWatch.Log

namespace Decoder

/-- The readings that the end of a stream gives: a beginning that is left over, and then the end. -/
def finals (d : Decoder) (ending : Ending) : List Reading :=
  let s := d.stop ending
  if s.2.1.isLast then [s.2.1] else [s.2.1, (s.1.stop ending).2.1]

/-- All readings of a stream, from the state of its decoder on. -/
def readings (ending : Ending) : Decoder → List UInt8 → List Reading
  | d, [] => d.finals ending
  | d, b :: rest =>
    match (d.push b).frame with
    | some f => .frame f :: readings ending (d.push b).after rest
    | none => readings ending (d.push b).after rest

theorem finals_stop (d : Decoder) (ending : Ending) (h : (d.stop ending).2.1.isLast = false) :
    (d.stop ending).1.finals ending = [((d.stop ending).1.stop ending).2.1] := by
  cases ending with
  | broken cause => simp [stop, Reading.isLast] at h
  | closed =>
    cases d with
    | header got => cases got <;> simp_all [finals, stop, close, Reading.isLast]
    | payload stream missing got => simp [stop, close, Reading.isLast] at h
    | line got => cases got <;> simp_all [finals, stop, close, Reading.isLast]

theorem finals_eq (d : Decoder) (ending : Ending) :
    d.finals ending = (d.stop ending).2.1 ::
      if (d.stop ending).2.1.isLast then [] else (d.stop ending).1.finals ending := by
  cases h : (d.stop ending).2.1.isLast with
  | true => simp [finals, h]
  | false => rw [finals_stop d ending h]; simp [finals, h]

theorem isEmpty_of_stop_shortHeader {d d' : Decoder} {ending : Ending} {recovered : String}
    {notices : List Notice} (h : d.stop ending = (d', .shortHeader recovered, notices)) :
    recovered.isEmpty = false := by
  cases ending with
  | broken cause => simp [stop] at h
  | closed =>
    cases d with
    | header got =>
      cases got with
      | nil => simp [stop, close] at h
      | cons b got =>
        obtain ⟨-, rfl, -⟩ := by simpa [stop, close] using h
        cases hr : got.reverse ++ [b] with
        | nil => simp at hr
        | cons c rest => exact Utf8.decode_cons_isEmpty c rest
    | payload stream missing got => simp [stop, close] at h
    | line got => cases got <;> simp [stop, close] at h

theorem length_finals_le (d : Decoder) (ending : Ending) : (d.finals ending).length ≤ 2 := by
  unfold finals
  simp only
  split <;> simp

theorem length_readings_le (ending : Ending) (d : Decoder) (bytes : List UInt8) :
    (d.readings ending bytes).length ≤ bytes.length + 2 := by
  induction bytes generalizing d with
  | nil => simpa [readings] using length_finals_le d ending
  | cons b rest ih =>
    have h := ih (d.push b).after
    rw [readings]
    split <;> simp <;> omega

/-- Bytes that complete no frame only bring the decoder on. -/
theorem readings_of_take_none {d d' : Decoder} {bytes rest : List UInt8} {notices : List Notice}
    (h : d.take bytes = (d', none, rest, notices)) (ending : Ending) (more : List UInt8) :
    rest = [] ∧ d.readings ending (bytes ++ more) = d'.readings ending more := by
  induction bytes generalizing d notices with
  | nil =>
    obtain ⟨rfl, rfl, -⟩ := by simpa [take] using h
    exact ⟨rfl, rfl⟩
  | cons b bytes ih =>
    cases hf : (d.push b).frame with
    | some f => simp [take, hf] at h
    | none =>
      obtain ⟨hd, hn, hr, -⟩ := by simpa [take, hf] using h
      rw [List.cons_append, readings, hf]
      exact ih (Prod.ext hd (Prod.ext hn (Prod.ext hr rfl)))

/-- The first frame that bytes complete is the first reading; the bytes left give the others. -/
theorem readings_of_take_some {d d' : Decoder} {bytes rest : List UInt8} {f : Frame}
    {notices : List Notice} (h : d.take bytes = (d', some f, rest, notices)) (ending : Ending)
    (more : List UInt8) :
    d.readings ending (bytes ++ more) = .frame f :: d'.readings ending (rest ++ more) := by
  induction bytes generalizing d notices with
  | nil => simp [take] at h
  | cons b bytes ih =>
    cases hf : (d.push b).frame with
    | some g =>
      obtain ⟨rfl, rfl, rfl, -⟩ := by simpa [take, hf] using h
      rw [List.cons_append, readings, hf]
    | none =>
      obtain ⟨hd, hn, hr, -⟩ := by simpa [take, hf] using h
      rw [List.cons_append, readings, hf]
      exact ih (Prod.ext hd (Prod.ext hn (Prod.ext hr rfl)))

theorem readings_nil (d : Decoder) (ending : Ending) :
    d.readings ending [] = (d.stop ending).2.1 ::
      if (d.stop ending).2.1.isLast then [] else (d.stop ending).1.readings ending [] :=
  finals_eq d ending

end Decoder

namespace FrameReader

def readings (r : FrameReader) : List Reading :=
  r.decoder.readings r.source.ending (r.source.arrived ++ r.source.chunks.flatten)

theorem readings_readFrom (d : Decoder) (arrived : List UInt8) (ending : Ending)
    (chunks : List (List UInt8)) :
    d.readings ending (arrived ++ chunks.flatten) = (readFrom d arrived ending chunks).1 ::
      if (readFrom d arrived ending chunks).1.isLast then []
      else (readFrom d arrived ending chunks).2.1.readings := by
  -- By the chunks still to come: one more is taken only if what has arrived gives no frame.
  rcases ht : d.take arrived with ⟨d', frame, rest, notices⟩
  induction chunks generalizing d d' arrived frame rest notices with
  | nil =>
    cases frame with
    | some f =>
      rw [Decoder.readings_of_take_some ht]
      simp [readFrom, ht, readings, Reading.isLast]
    | none =>
      rw [List.flatten_nil, (Decoder.readings_of_take_none ht ending []).2, Decoder.readings_nil]
      simp [readFrom, ht, readings]
  | cons chunk chunks ih =>
    cases frame with
    | some f =>
      rw [Decoder.readings_of_take_some ht]
      simp [readFrom, ht, readings, Reading.isLast]
    | none =>
      rw [(Decoder.readings_of_take_none ht ending _).2, List.flatten_cons, ih d' chunk _ _ _ _ rfl]
      simp [readFrom, ht]

theorem readings_eq (r : FrameReader) :
    r.readings = r.read.1 :: if r.read.1.isLast then [] else r.read.2.1.readings :=
  readings_readFrom r.decoder r.source.arrived r.source.ending r.source.chunks

theorem readMany_eq (fuel : Nat) (r : FrameReader) (h : r.readings.length ≤ fuel) :
    (readMany fuel r).1 = r.readings := by
  induction fuel generalizing r with
  | zero =>
    rw [readings_eq] at h
    simp at h
  | succ fuel ih =>
    rw [readings_eq] at h ⊢
    cases hl : r.read.1.isLast with
    | true => simp [readMany, hl]
    | false =>
      simp only [hl, Bool.false_eq_true, if_false, List.length_cons] at h
      have hr := ih r.read.2.1 (by omega)
      simp [readMany, hl, hr]

theorem bytesLeft_eq (r : FrameReader) :
    r.bytesLeft = (r.source.arrived ++ r.source.chunks.flatten).length := by
  have ht : ∀ cs : List (List UInt8), total List.length cs = cs.flatten.length := by
    intro cs
    induction cs with
    | nil => rfl
    | cons c cs ih => simp only [total, ih, List.flatten_cons, List.length_append]
  simp [bytesLeft, ht]

/-- Reading until nothing follows gives all readings of the stream, however it is cut. -/
theorem readAll_eq (r : FrameReader) : r.readAll.1 = r.readings := by
  apply readMany_eq
  have h := Decoder.length_readings_le r.source.ending r.decoder
    (r.source.arrived ++ r.source.chunks.flatten)
  simpa [bytesLeft_eq, readings] using h

end FrameReader

end ContainerWatch.Log
