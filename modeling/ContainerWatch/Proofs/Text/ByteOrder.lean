import ContainerWatch.Text.Utf8

/-!
Texts in the order of their bytes. A greater character has greater bytes, whatever follows, since a
longer sequence has a greater first byte and those of one length hold the bits from the highest on.
So texts are in the order of their bytes as they are in that of their characters.
-/

namespace ContainerWatch.Utf8

theorem cons_lt_cons_iff {a b : UInt8} {x y : List UInt8} :
    a :: x < b :: y ↔ a.toNat < b.toNat ∨ a.toNat = b.toNat ∧ x < y := by
  rw [List.cons_lt_cons_iff, UInt8.lt_iff_toNat_lt, UInt8.toNat_inj]

theorem append_lt_append_iff (front x y : List UInt8) : front ++ x < front ++ y ↔ x < y := by
  induction front with
  | nil => rfl
  | cons b front ih => simp [ih]

theorem utf8EncodeChar_append_lt {c d : Char} (less : c < d) (x y : List UInt8) :
    String.utf8EncodeChar c ++ x < String.utf8EncodeChar d ++ y := by
  have less : c.val.toNat < d.val.toNat := less
  have most : d.val.toNat < 0x110000 := by
    obtain below | ⟨-, below⟩ : d.val.toNat < 0xD800 ∨
        0xDFFF < d.val.toNat ∧ d.val.toNat < 0x110000 := d.valid
    · omega
    · exact below
  -- Bits that stand higher are had by taking off six bits at a time.
  have sixes : ∀ n, n / 4096 = n / 64 / 64 ∧ n / 262144 = n / 64 / 64 / 64 := fun n => by
    simp [Nat.div_div_eq_div_mul]
  unfold String.utf8EncodeChar
  simp only
  generalize c.val.toNat = m at *
  generalize d.val.toNat = n at *
  repeat' split
  all_goals
    simp only [List.cons_append, List.nil_append, cons_lt_cons_iff, UInt8.toNat_ofNat',
      (sixes m).1, (sixes m).2, (sixes n).1, (sixes n).2]
    clear sixes
    omega

theorem flatMap_lt_iff (cs ds : List Char) :
    cs.flatMap String.utf8EncodeChar < ds.flatMap String.utf8EncodeChar ↔ cs < ds := by
  induction cs generalizing ds with
  | nil =>
    cases ds with
    | nil => simp
    | cons d ds =>
      obtain ⟨b, bytes, head⟩ := List.exists_cons_of_ne_nil
        (String.utf8EncodeChar_ne_nil (c := d))
      simp [head]
  | cons c cs ih =>
    cases ds with
    | nil => simp
    | cons d ds =>
      rw [List.flatMap_cons, List.flatMap_cons, List.cons_lt_cons_iff]
      obtain less | rfl | more := Std.lt_trichotomy c d
      · exact iff_of_true (utf8EncodeChar_append_lt less _ _) (.inl less)
      · simp [append_lt_append_iff, ih]
      · refine iff_of_false (List.lt_asymm (utf8EncodeChar_append_lt more _ _)) ?_
        rintro (less | ⟨rfl, -⟩)
        · exact Char.lt_irrefl c (Char.lt_trans less more)
        · exact Char.lt_irrefl c more

/-- Texts stand in the order of their bytes. -/
theorem encode_lt_iff (s t : String) : encode s < encode t ↔ s < t :=
  flatMap_lt_iff s.toList t.toList

end ContainerWatch.Utf8
