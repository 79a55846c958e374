import ContainerWatch.Proofs.Text.Utf8

/-!
Newlines in undecodable text. The byte of a newline is no part of a longer sequence, and no longer
sequence is a newline. So decoding may be interrupted behind any newline: however broken the bytes
before it are, the same replacements come out.
-/

namespace ContainerWatch.Utf8

variable {p q : Pending} {s : Option Pending} {b : UInt8} {n : Nat}

/-- An open sequence as decoding leaves it: its next byte is beyond ASCII, and so is the character
that it comes to. -/
structure Pending.Wide (p : Pending) : Prop where
  low : 0x80 ≤ p.low.toNat
  bits : 0 < p.bits ∨ 1 < p.missing ∧ 0x80 < p.low.toNat

theorem wide_start (h : (start b).2 = some p) : p.Wide := by
  revert h
  unfold start
  simp only
  repeat' split
  all_goals
    intro h
    simp only [Option.some.injEq, reduceCtorEq] at h
  all_goals
    subst h
    constructor
    · simp only [UInt8.reduceToNat, Nat.le_refl, Nat.reduceLeDiff]
    · simp only [UInt8.reduceToNat]
      omega

theorem wide_step (wide : ∀ p ∈ s, p.Wide) : ∀ q ∈ (step s b).2, q.Wide := by
  intro q h
  cases s with
  | none => exact wide_start h
  | some p =>
    have open_ := wide p rfl
    simp only [step] at h
    split at h
    · next among =>
      have above : p.low.toNat ≤ b.toNat := among.1
      split at h
      · simp at h
      · obtain rfl := Option.some.inj h
        refine ⟨Nat.le_refl _, .inl ?_⟩
        have bits := open_.bits
        have low := open_.low
        show 0 < p.bits * 64 + (b.toNat - 0x80)
        omega
    · exact wide_start h

theorem ofNat_eq_newline_iff : Char.ofNat n = '\n' ↔ n = 10 := by
  constructor
  · intro h
    by_cases valid : n.isValidChar
    · have made : Char.ofNat n = Char.ofNatAux n valid := dif_pos valid
      exact congrArg Char.toNat (made.symm.trans h)
    · have made : Char.ofNat n = '\x00' := dif_neg valid
      exact absurd (made.symm.trans h) (by decide)
  · rintro rfl
    rfl

theorem mem_start_iff : '\n' ∈ (start b).1 ↔ b = 0x0A := by
  have byte : b = 0x0A ↔ b.toNat = 10 := UInt8.toNat_inj.symm
  rw [byte]
  unfold start
  simp only
  split
  · rw [List.mem_singleton, eq_comm, ofNat_eq_newline_iff]
  · repeat' split
    all_goals
      simp only [List.mem_singleton, List.not_mem_nil, replacement, Char.reduceEq, false_iff]
      omega

theorem mem_step_iff (wide : ∀ p ∈ s, p.Wide) : '\n' ∈ (step s b).1 ↔ b = 0x0A := by
  cases s with
  | none => exact mem_start_iff
  | some p =>
    obtain ⟨low, bits⟩ := wide p rfl
    have byte : b = 0x0A ↔ b.toNat = 10 := UInt8.toNat_inj.symm
    simp only [step]
    split
    · next among =>
      have above : p.low.toNat ≤ b.toNat := among.1
      rw [byte]
      split
      · rw [List.mem_singleton, eq_comm, ofNat_eq_newline_iff]
        omega
      · simp only [List.not_mem_nil, false_iff]
        omega
    · rw [List.mem_cons, mem_start_iff]
      simp [replacement]

theorem step_newline (wide : ∀ p ∈ s, p.Wide) :
    ∃ cs, step s 0x0A = (cs ++ ['\n'], none) ∧ '\n' ∉ cs := by
  cases s with
  | none => exact ⟨[], rfl, by simp⟩
  | some p =>
    have low := (wide p rfl).low
    have outside : ¬ (p.low ≤ 0x0A ∧ 0x0A ≤ p.high) := by
      rintro ⟨above, -⟩
      have above : p.low.toNat ≤ 10 := above
      omega
    refine ⟨[replacement], ?_, by decide⟩
    simp only [step, if_neg outside]
    rfl

/-- Newlines come of their bytes and of nothing else. -/
theorem mem_decodeFrom_iff (wide : ∀ p ∈ s, p.Wide) (bytes : List UInt8) :
    '\n' ∈ decodeFrom s bytes ↔ 0x0A ∈ bytes := by
  induction bytes generalizing s with
  | nil => cases s <;> simp [decodeFrom, replacement]
  | cons b rest ih =>
    rw [decodeFrom, List.mem_append, mem_step_iff wide, ih (wide_step wide), List.mem_cons,
      eq_comm]

theorem decodeFrom_line (wide : ∀ p ∈ s, p.Wide) {line : List UInt8} (inner : 0x0A ∉ line) :
    ∃ cs, decodeFrom s (line ++ [0x0A]) = cs ++ ['\n'] ∧ '\n' ∉ cs := by
  induction line generalizing s with
  | nil =>
    obtain ⟨cs, stepped, none_⟩ := step_newline wide
    exact ⟨cs, by simp [decodeFrom, stepped], none_⟩
  | cons b line ih =>
    obtain ⟨first, others⟩ := not_or.mp (mt List.mem_cons.mpr inner)
    obtain ⟨cs, decoded, none_⟩ := ih (@wide_step s b wide) others
    refine ⟨(step s b).1 ++ cs, by simp [decodeFrom, decoded], ?_⟩
    rw [List.mem_append, mem_step_iff wide]
    exact not_or.mpr ⟨Ne.symm first, none_⟩

/-- What comes before a newline has no bearing on what comes after it. -/
theorem decodeFrom_append_line (wide : ∀ p ∈ s, p.Wide) (line rest : List UInt8) :
    decodeFrom s (line ++ 0x0A :: rest) =
      decodeFrom s (line ++ [0x0A]) ++ decodeFrom none rest := by
  induction line generalizing s with
  | nil =>
    obtain ⟨cs, stepped, -⟩ := step_newline wide
    simp [decodeFrom, stepped]
  | cons b line ih => simp [decodeFrom, ih (wide_step wide)]

/-! ### Texts -/

theorem mem_decode_iff (bytes : List UInt8) : '\n' ∈ (decode bytes).toList ↔ 0x0A ∈ bytes := by
  rw [decode, String.toList_ofList, mem_decodeFrom_iff (by simp)]

theorem decode_line {line : List UInt8} (inner : 0x0A ∉ line) :
    ∃ cs, (decode (line ++ [0x0A])).toList = cs ++ ['\n'] ∧ '\n' ∉ cs := by
  rw [decode, String.toList_ofList]
  exact decodeFrom_line (by simp) inner

theorem decode_append_line (line rest : List UInt8) :
    decode (line ++ 0x0A :: rest) = decode (line ++ [0x0A]) ++ decode rest := by
  rw [decode, decode, decode, decodeFrom_append_line (by simp), String.ofList_append]

end ContainerWatch.Utf8
