import ContainerWatch.Proofs.Log.Readings

/-!
The multiplexed format read declaratively. Bytes are cut into whole frames for as long as there is a
whole one, and the bytes left over decide how reading ends. A reader gives exactly this, however the
bytes are delivered, and needs at most two reads more than an eighth of their number.
-/

namespace ContainerWatch.Log

namespace Frame

/-- The number that four bytes write, the most significant first. -/
def bigEndian (a b c d : UInt8) : Nat :=
  a.toNat * 0x1000000 + b.toNat * 0x10000 + c.toNat * 0x100 + d.toNat

theorem lengthOf_four (a b c d : UInt8) : lengthOf [a, b, c, d] = bigEndian a b c d := by
  simp only [lengthOf, bigEndian, List.foldl_cons, List.foldl_nil]
  omega

theorem exists_header (bytes : List UInt8) (enough : headerLength ≤ bytes.length) :
    ∃ tag x y z a b c d body, bytes = tag :: x :: y :: z :: a :: b :: c :: d :: body := by
  rw [← List.take_append_drop headerLength bytes]
  have eight : (bytes.take headerLength).length = 8 := by
    rw [List.length_take]
    exact Nat.min_eq_left enough
  match bytes.take headerLength, eight with
  | [tag, x, y, z, a, b, c, d], _ => exact ⟨tag, x, y, z, a, b, c, d, _, rfl⟩

/-- The whole frame that bytes begin with, and the bytes after it. -/
def whole? : List UInt8 → Option (Frame × List UInt8)
  | tag :: _ :: _ :: _ :: a :: b :: c :: d :: body =>
    if bigEndian a b c d ≤ body.length then
      some (ofPayload (Stream.ofTag tag) (body.take (bigEndian a b c d)),
        body.drop (bigEndian a b c d))
    else none
  | _ => none

theorem length_of_whole? {bytes rest : List UInt8} {f : Frame}
    (h : whole? bytes = some (f, rest)) : rest.length + headerLength ≤ bytes.length := by
  unfold whole? at h
  split at h
  · split at h
    · obtain ⟨-, rfl⟩ := Prod.mk.inj (Option.some.inj h)
      simp only [List.length_drop, List.length_cons, headerLength]
      omega
    · simp at h
  · simp at h

/-- Bytes cut into whole frames, as many as there are, and what is left. -/
def split (bytes : List UInt8) : List Frame × List UInt8 :=
  match _h : whole? bytes with
  | some (f, rest) =>
    let s := split rest
    (f :: s.1, s.2)
  | none => ([], bytes)
termination_by bytes.length
decreasing_by
  have := length_of_whole? _h
  simp only [headerLength] at this
  omega

theorem split_of_some {bytes rest : List UInt8} {f : Frame} (h : whole? bytes = some (f, rest)) :
    split bytes = (f :: (split rest).1, (split rest).2) := by
  rw [split]
  split
  · next g r hg =>
    obtain ⟨rfl, rfl⟩ := Prod.mk.inj (Option.some.inj (hg.symm.trans h))
    rfl
  · next hn => simp [h] at hn

theorem split_of_none {bytes : List UInt8} (h : whole? bytes = none) :
    split bytes = ([], bytes) := by
  rw [split]
  split
  · next g r hg => simp [h] at hg
  · rfl

theorem length_split (bytes : List UInt8) :
    (split bytes).1.length * headerLength + (split bytes).2.length ≤ bytes.length := by
  induction bytes using split.induct with
  | case1 bytes f rest whole ih =>
    have shorter := length_of_whole? whole
    simp only [split_of_some whole, List.length_cons, Nat.add_mul, Nat.one_mul]
    omega
  | case2 bytes none_ => simp [split_of_none none_]

end Frame

/-- What is read after the last whole frame, from the bytes that are left. -/
def Ending.readings : Ending → List UInt8 → List Reading
  | .broken cause, _ => [.failed (.broken cause)]
  | .closed, left =>
    if left = [] then [.finished]
    else if left.length < Frame.headerLength then
      [.shortHeader (Utf8.decode left), .finished]
    else [.failed .truncated]

theorem Ending.length_readings_le (ending : Ending) (left : List UInt8) :
    (ending.readings left).length ≤ 2 := by
  cases ending with
  | broken cause => simp [readings]
  | closed =>
    simp only [readings]
    split
    · simp
    · split <;> simp

namespace Decoder

variable {ending : Ending} {stream : Stream} {missing : Nat} {got body : List UInt8}

theorem readings_payload (some_ : 0 < missing) (enough : missing ≤ body.length) :
    (payload stream missing got).readings ending body =
      .frame (Frame.ofPayload stream (got.reverse ++ body.take missing)) ::
        (header []).readings ending (body.drop missing) := by
  induction body generalizing missing got with
  | nil => simp at enough; omega
  | cons b rest ih =>
    rw [readings]
    by_cases last : missing ≤ 1
    · obtain rfl : missing = 1 := by omega
      simp [push]
    · obtain ⟨n, rfl⟩ : ∃ n, missing = n + 2 := ⟨missing - 2, by omega⟩
      have fewer : n + 1 ≤ rest.length := Nat.le_of_succ_le_succ enough
      simp [push, ih (Nat.succ_pos n) fewer]

theorem readings_payload_of_lt (ending : Ending) (stream : Stream) (got : List UInt8)
    (short : body.length < missing) :
    ∃ missing' got', (payload stream missing got).readings ending body =
      (payload stream missing' got').finals ending := by
  induction body generalizing missing got with
  | nil => exact ⟨missing, got, rfl⟩
  | cons b rest ih =>
    obtain ⟨n, rfl⟩ : ∃ n, missing = n + 2 := ⟨missing - 2, by simp at short; omega⟩
    have fewer : rest.length < n + 1 := Nat.lt_of_succ_lt_succ short
    obtain ⟨m, g, hr⟩ := ih (b :: got) fewer
    exact ⟨m, g, by simpa [readings, push] using hr⟩

theorem readings_header_of_lt (short : got.length + body.length < Frame.headerLength) :
    (header got).readings ending body = (header (body.reverse ++ got)).finals ending := by
  induction body generalizing got with
  | nil => rfl
  | cons b rest ih =>
    simp only [List.length_cons] at short
    have more : got.length + 1 < Frame.headerLength := by omega
    have fewer : (b :: got).length + rest.length < Frame.headerLength := by
      simp only [List.length_cons]
      omega
    simpa [readings, push, more] using ih fewer

theorem readings_header (tag x y z a b c d : UInt8) (body : List UInt8) :
    (header []).readings ending (tag :: x :: y :: z :: a :: b :: c :: d :: body) =
      if Frame.bigEndian a b c d = 0 then
        .frame (Frame.ofPayload (Stream.ofTag tag) []) :: (header []).readings ending body
      else (payload (Stream.ofTag tag) (Frame.bigEndian a b c d) []).readings ending body := by
  have taken : (afterHeader [tag, x, y, z, a, b, c, d]).frame =
        (if Frame.bigEndian a b c d = 0 then some (Frame.ofPayload (Stream.ofTag tag) [])
          else none) ∧
      (afterHeader [tag, x, y, z, a, b, c, d]).after =
        if Frame.bigEndian a b c d = 0 then header []
        else payload (Stream.ofTag tag) (Frame.bigEndian a b c d) [] := by
    have size : Frame.lengthOf ([tag, x, y, z, a, b, c, d].drop 4) = Frame.bigEndian a b c d :=
      Frame.lengthOf_four a b c d
    unfold afterHeader
    simp only [size]
    cases Frame.bigEndian a b c d <;> exact ⟨rfl, rfl⟩
  simp only [readings, push, Frame.headerLength, List.length_nil, List.length_cons, Nat.reduceAdd,
    Nat.reduceLT, if_true, if_false, List.reverse_cons, List.reverse_nil, List.nil_append,
    List.cons_append, taken]
  by_cases none_ : Frame.bigEndian a b c d = 0
  · simp only [none_, if_true]
  · simp only [none_, if_false]

theorem finals_header (left : List UInt8) (short : left.length < Frame.headerLength) :
    (header left.reverse).finals ending = ending.readings left := by
  cases ending with
  | broken cause => rfl
  | closed =>
    cases hl : left.reverse with
    | nil =>
      obtain rfl : left = [] := by simpa using hl
      rfl
    | cons b got =>
      have hne : left ≠ [] := by
        rintro rfl
        simp at hl
      have back : (b :: got).reverse = left := by rw [← hl, List.reverse_reverse]
      simp [finals, stop, close, Reading.isLast, Ending.readings, back, hne, short]

/-- Bytes that no whole frame begins give what the end of the stream makes of them. -/
theorem readings_of_whole?_eq_none {bytes : List UInt8} (h : Frame.whole? bytes = none) :
    (header []).readings ending bytes = ending.readings bytes := by
  by_cases short : bytes.length < Frame.headerLength
  · rw [readings_header_of_lt (by simpa using short), List.append_nil, finals_header bytes short]
  · obtain ⟨tag, x, y, z, a, b, c, d, body, rfl⟩ := Frame.exists_header bytes (by omega)
    have cut : body.length < Frame.bigEndian a b c d := by
      simpa [Frame.whole?] using h
    have some_ : Frame.bigEndian a b c d ≠ 0 := by omega
    obtain ⟨m, g, hr⟩ := readings_payload_of_lt ending (Stream.ofTag tag) [] cut
    rw [readings_header, if_neg some_, hr]
    cases ending with
    | broken cause => rfl
    | closed =>
      rw [Ending.readings, if_neg (by simp), if_neg short]
      rfl

/-- The whole frame that bytes begin with is read first. -/
theorem readings_of_whole?_eq_some {bytes rest : List UInt8} {f : Frame}
    (h : Frame.whole? bytes = some (f, rest)) :
    (header []).readings ending bytes = .frame f :: (header []).readings ending rest := by
  have long : Frame.headerLength ≤ bytes.length := by
    have := Frame.length_of_whole? h
    omega
  obtain ⟨tag, x, y, z, a, b, c, d, body, rfl⟩ := Frame.exists_header bytes long
  by_cases enough : Frame.bigEndian a b c d ≤ body.length
  · simp only [Frame.whole?, enough, if_true, Option.some.injEq, Prod.mk.injEq] at h
    obtain ⟨rfl, rfl⟩ := h
    rw [readings_header]
    by_cases none_ : Frame.bigEndian a b c d = 0
    · rw [if_pos none_, none_, List.take_zero, List.drop_zero]
    · rw [if_neg none_, readings_payload (Nat.pos_of_ne_zero none_) enough, List.reverse_nil,
        List.nil_append]
  · simp [Frame.whole?, enough] at h

theorem readings_eq_split (ending : Ending) (bytes : List UInt8) :
    (header []).readings ending bytes =
      (Frame.split bytes).1.map .frame ++ ending.readings (Frame.split bytes).2 := by
  induction bytes using Frame.split.induct with
  | case1 bytes f rest whole ih =>
    rw [readings_of_whole?_eq_some whole, Frame.split_of_some whole, ih]
    rfl
  | case2 bytes none_ =>
    rw [readings_of_whole?_eq_none none_, Frame.split_of_none none_]
    rfl

end Decoder

namespace FrameReader

/-- A stream of frames reads as its whole frames in order, and then as what is left and the end of
the stream make of each other, whatever the chunks are in which it comes; and the reads are at most
two more than an eighth of the bytes. -/
theorem readAll_multiplexed (chunks : List (List UInt8)) (ending : Ending) :
    (ofDelivery false { chunks, ending }).readAll.1 =
        (Frame.split chunks.flatten).1.map .frame ++
          ending.readings (Frame.split chunks.flatten).2 ∧
      (ofDelivery false { chunks, ending }).readAll.1.length ≤ chunks.flatten.length / 8 + 2 := by
  have all : (ofDelivery false { chunks, ending }).readAll.1 =
      (Frame.split chunks.flatten).1.map .frame ++
        ending.readings (Frame.split chunks.flatten).2 := by
    rw [readAll_eq]
    exact Decoder.readings_eq_split ending chunks.flatten
  refine ⟨all, ?_⟩
  have frames := Frame.length_split chunks.flatten
  have last := ending.length_readings_le (Frame.split chunks.flatten).2
  rw [all, List.length_append, List.length_map]
  simp only [Frame.headerLength] at frames
  omega

end FrameReader

end ContainerWatch.Log
