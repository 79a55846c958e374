import ContainerWatch.Text.Utf8

/-!
Decoding undoes encoding: the bytes of a text decode to that text. Each character's bytes lead the
decoder through one sequence, whose first byte says how many are to follow and between which bounds
the second lies.
-/

namespace ContainerWatch.Utf8

variable {p : Pending} {b low high : UInt8} {rest : List UInt8} {k n m bits : Nat}

theorem toNat_ofNat_of_lt (h : n < 0x100) : (UInt8.ofNat n).toNat = n := by
  rw [UInt8.toNat_ofNat', Nat.mod_eq_of_lt h]

/-! ### First bytes -/

theorem decodeFrom_first (h : start b = ([], some p)) :
    decodeFrom none (b :: rest) = decodeFrom (some p) rest := by
  simp [decodeFrom, step, h]

theorem start_two (least : 2 ≤ k) (most : k < 0x20) :
    start (UInt8.ofNat (k + 0xC0)) = ([], some ⟨1, 0x80, 0xBF, k⟩) := by
  have byte : (UInt8.ofNat (k + 0xC0)).toNat = k + 0xC0 := toNat_ofNat_of_lt (by omega)
  simp only [start, byte]
  rw [if_neg (by omega), if_neg (by omega), if_pos (by omega), Nat.add_sub_cancel]

/-- The bounds of the second of three bytes: the least numbers would fit in two bytes, and those
from 0xD800 to 0xDFFF are no characters. -/
theorem start_three (most : k < 0x10) :
    ∃ low high, start (UInt8.ofNat (k + 0xE0)) = ([], some ⟨2, low, high, k⟩) ∧
      (k = 0 ∧ low.toNat = 0xA0 ∨ 0 < k ∧ low.toNat = 0x80) ∧
      (k = 0xD ∧ high.toNat = 0x9F ∨ k ≠ 0xD ∧ high.toNat = 0xBF) := by
  by_cases first : k = 0
  · subst first
    exact ⟨0xA0, 0xBF, rfl, by decide, by decide⟩
  by_cases gap : k = 0xD
  · subst gap
    exact ⟨0x80, 0x9F, rfl, by decide, by decide⟩
  refine ⟨0x80, 0xBF, ?_, .inr ⟨by omega, rfl⟩, .inr ⟨gap, rfl⟩⟩
  have byte : (UInt8.ofNat (k + 0xE0)).toNat = k + 0xE0 := toNat_ofNat_of_lt (by omega)
  simp only [start, byte]
  rw [if_neg (by omega), if_neg (by omega), if_neg (by omega), if_neg (by omega),
    if_neg (by omega), if_pos (by omega), Nat.add_sub_cancel]

/-- The bounds of the second of four bytes: the least numbers would fit in three bytes, and those
from 0x110000 on are no characters. -/
theorem start_four (most : k < 5) :
    ∃ low high, start (UInt8.ofNat (k + 0xF0)) = ([], some ⟨3, low, high, k⟩) ∧
      (k = 0 ∧ low.toNat = 0x90 ∨ 0 < k ∧ low.toNat = 0x80) ∧
      (k = 4 ∧ high.toNat = 0x8F ∨ k < 4 ∧ high.toNat = 0xBF) := by
  by_cases first : k = 0
  · subst first
    exact ⟨0x90, 0xBF, rfl, by decide, by decide⟩
  by_cases last : k = 4
  · subst last
    exact ⟨0x80, 0x8F, rfl, by decide, by decide⟩
  refine ⟨0x80, 0xBF, ?_, .inr ⟨by omega, rfl⟩, .inr ⟨by omega, rfl⟩⟩
  have byte : (UInt8.ofNat (k + 0xF0)).toNat = k + 0xF0 := toNat_ofNat_of_lt (by omega)
  simp only [start, byte]
  rw [if_neg (by omega), if_neg (by omega), if_neg (by omega), if_neg (by omega),
    if_neg (by omega), if_neg (by omega), if_neg (by omega), if_pos (by omega),
    Nat.add_sub_cancel]

/-! ### Bytes that follow -/

def tail (n : Nat) : UInt8 := UInt8.ofNat (n % 64 + 0x80)

theorem toNat_tail (n : Nat) : (tail n).toNat = n % 64 + 0x80 := toNat_ofNat_of_lt (by omega)

theorem step_tail (lower : p.low.toNat ≤ n % 64 + 0x80) (upper : n % 64 + 0x80 ≤ p.high.toNat) :
    step (some p) (tail n) =
      if p.missing ≤ 1 then ([Char.ofNat (p.bits * 64 + n % 64)], none)
      else ([], some ⟨p.missing - 1, 0x80, 0xBF, p.bits * 64 + n % 64⟩) := by
  have among : p.low ≤ tail n ∧ tail n ≤ p.high := by
    rw [UInt8.le_iff_toNat_le, UInt8.le_iff_toNat_le, toNat_tail]
    exact ⟨lower, upper⟩
  simp only [step, if_pos among, toNat_tail, Nat.add_sub_cancel]

theorem decodeFrom_last (lower : low.toNat ≤ n % 64 + 0x80)
    (upper : n % 64 + 0x80 ≤ high.toNat) :
    decodeFrom (some ⟨1, low, high, bits⟩) (tail n :: rest) =
      Char.ofNat (bits * 64 + n % 64) :: decodeFrom none rest := by
  rw [decodeFrom, step_tail lower upper]
  rfl

theorem decodeFrom_inner (lower : low.toNat ≤ n % 64 + 0x80)
    (upper : n % 64 + 0x80 ≤ high.toNat) :
    decodeFrom (some ⟨m + 2, low, high, bits⟩) (tail n :: rest) =
      decodeFrom (some ⟨m + 1, 0x80, 0xBF, bits * 64 + n % 64⟩) rest := by
  rw [decodeFrom, step_tail lower upper]
  simp

theorem tail_bounds (n : Nat) :
    (0x80 : UInt8).toNat ≤ n % 64 + 0x80 ∧ n % 64 + 0x80 ≤ (0xBF : UInt8).toNat := by
  have top : (0xBF : UInt8).toNat = 0xBF := rfl
  have bottom : (0x80 : UInt8).toNat = 0x80 := rfl
  omega

/-! ### Characters -/

theorem decodeFrom_one (h : n < 0x80) :
    decodeFrom none (UInt8.ofNat n :: rest) = Char.ofNat n :: decodeFrom none rest := by
  have byte : (UInt8.ofNat n).toNat = n := toNat_ofNat_of_lt (by omega)
  simp [decodeFrom, step, start, byte, h]

theorem decodeFrom_two (least : 0x80 ≤ n) (most : n < 0x800) :
    decodeFrom none (UInt8.ofNat (n / 64 % 32 + 0xC0) :: tail n :: rest) =
      Char.ofNat n :: decodeFrom none rest := by
  have number : n / 64 % 32 * 64 + n % 64 = n := by omega
  rw [decodeFrom_first (start_two (by omega) (by omega)),
    decodeFrom_last (tail_bounds n).1 (tail_bounds n).2, number]

theorem decodeFrom_three (least : 0x800 ≤ n) (most : n < 0x10000)
    (valid : n < 0xD800 ∨ 0xDFFF < n) :
    decodeFrom none (UInt8.ofNat (n / 4096 % 16 + 0xE0) :: tail (n / 64) :: tail n :: rest) =
      Char.ofNat n :: decodeFrom none rest := by
  obtain ⟨low, high, first, lower, upper⟩ := @start_three (n / 4096 % 16) (by omega)
  have number : (n / 4096 % 16 * 64 + n / 64 % 64) * 64 + n % 64 = n := by omega
  rw [decodeFrom_first first, decodeFrom_inner (by omega) (by omega),
    decodeFrom_last (tail_bounds n).1 (tail_bounds n).2, number]

theorem decodeFrom_four (least : 0x10000 ≤ n) (most : n < 0x110000) :
    decodeFrom none (UInt8.ofNat (n / 262144 % 8 + 0xF0) :: tail (n / 4096) :: tail (n / 64) ::
      tail n :: rest) = Char.ofNat n :: decodeFrom none rest := by
  obtain ⟨low, high, first, lower, upper⟩ := @start_four (n / 262144 % 8) (by omega)
  have number : ((n / 262144 % 8 * 64 + n / 4096 % 64) * 64 + n / 64 % 64) * 64 + n % 64 = n := by
    omega
  rw [decodeFrom_first first, decodeFrom_inner (by omega) (by omega),
    decodeFrom_inner (tail_bounds (n / 64)).1 (tail_bounds (n / 64)).2,
    decodeFrom_last (tail_bounds n).1 (tail_bounds n).2, number]

/-- The bytes of a character decode to it, whatever follows. -/
theorem decodeFrom_utf8EncodeChar (c : Char) (rest : List UInt8) :
    decodeFrom none (String.utf8EncodeChar c ++ rest) = c :: decodeFrom none rest := by
  have valid : c.val.toNat < 0xD800 ∨ 0xDFFF < c.val.toNat ∧ c.val.toNat < 0x110000 := c.valid
  have same : Char.ofNat c.val.toNat = c := Char.ofNat_toNat c
  suffices h : decodeFrom none (String.utf8EncodeChar c ++ rest) =
      Char.ofNat c.val.toNat :: decodeFrom none rest by rwa [same] at h
  unfold String.utf8EncodeChar
  simp only
  split
  · exact decodeFrom_one (by omega)
  split
  · exact decodeFrom_two (by omega) (by omega)
  split
  · exact decodeFrom_three (by omega) (by omega) (by omega)
  · exact decodeFrom_four (by omega) (by omega)

theorem decode_encode (s : String) : decode (encode s) = s := by
  have all : ∀ cs : List Char, decodeFrom none (cs.flatMap String.utf8EncodeChar) = cs := by
    intro cs
    induction cs with
    | nil => rfl
    | cons c cs ih => rw [List.flatMap_cons, decodeFrom_utf8EncodeChar, ih]
  rw [decode, encode, all, String.ofList_toList]

theorem eq_encode {bytes : List UInt8} {s : String} (h : bytes.toByteArray = s.toByteArray) :
    bytes = encode s := by
  rw [← String.utf8Encode_toList] at h
  exact List.toByteArray_inj.mp h

end ContainerWatch.Utf8
