import ContainerWatch.Proofs.Log.Scanning

/-!
Dates at the start of a line, as a regular expression apart from the code that skips them. Nothing
is skipped but a date; and a date is skipped as a whole, whichever of its forms it has, unless what
follows it starts with a digit or a blank, which could belong to a longer one.
-/

namespace ContainerWatch.Log.Detect

open scoped Computability

/-! ### The expression -/

def digit : Language Char := char Unicode.isDigit

def blank : Language Char := char Text.isBlank

def blanks : Language Char := blank * blank∗

def day : Language Char :=
  digit ^ 4 * charOf ['-', '/'] * digit ^ 2 * charOf ['-', '/'] * digit ^ 2

def fraction : Language Char := charOf ['.', ','] * (digit * digit∗)

def offset : Language Char := charOf ['+', '-'] * digit ^ 2 * ((1 + charOf [':']) * digit ^ 2)

def zone : Language Char := charOf ['Z'] + offset

def clock24 : Language Char :=
  digit ^ 2 * charOf [':'] * digit ^ 2 * charOf [':'] * digit ^ 2 * ((1 + fraction) * (1 + zone))

def half : Language Char := (1 + blank) * (charOf ['A', 'P'] * charOf ['M'])

def clock12 : Language Char := digit * ((1 + digit) * (charOf [':'] * digit ^ 2 * half))

/-- A date, with a time or without, and the blanks after it. -/
def date : Language Char := day * (1 + charOf ['T', ' '] * (clock24 + clock12)) * blanks

/-! ### Kinds of characters -/

theorem not_digit_of_blank {c : Char} (h : Text.isBlank c = true) : Unicode.isDigit c = false := by
  have low : ∀ n < 0x21, Unicode.digits.contains n = false := by decide +kernel
  have high : ∀ n < 0xB, Unicode.digits.contains (0x2000 + n) = false := by decide +kernel
  have single : ∀ n ∈ [0x85, 0xA0, 0x1680, 0x2028, 0x2029, 0x202F, 0x205F, 0x3000],
      Unicode.digits.contains n = false := by decide +kernel
  simp only [Text.isBlank, Bool.or_eq_true, Bool.and_eq_true, decide_eq_true_eq, beq_iff_eq] at h
  unfold Unicode.isDigit
  by_cases controls : c.toNat < 0x21
  · exact low _ controls
  · by_cases spaces : 0x2000 ≤ c.toNat ∧ c.toNat < 0x200B
    · obtain ⟨n, hn⟩ := Nat.exists_eq_add_of_le spaces.1
      rw [hn]
      exact high n (by omega)
    · refine single _ ?_
      simp only [List.mem_cons, List.not_mem_nil, or_false]
      omega

def marks : List Char := ['-', '/', 'T', ':', '.', ',', 'Z', '+', 'A', 'P', 'M']

section Marks

variable {choice : List Char} {c : Char}

theorem not_digit_of_mark (sub : choice ⊆ marks) (h : choice.contains c = true) :
    Unicode.isDigit c = false := by
  have plain : marks.all (!Unicode.isDigit ·) = true := by decide +kernel
  simpa using List.all_eq_true.mp plain c (sub (List.contains_iff_mem.mp h))

theorem not_blank_of_mark (sub : choice ⊆ marks) (h : choice.contains c = true) :
    Text.isBlank c = false := by
  have plain : marks.all (!Text.isBlank ·) = true := by decide
  simpa using List.all_eq_true.mp plain c (sub (List.contains_iff_mem.mp h))

theorem not_mark_of_digit (sub : choice ⊆ marks) (h : Unicode.isDigit c = true) :
    choice.contains c = false := by
  refine Bool.eq_false_iff.mpr fun mark => ?_
  have plain := not_digit_of_mark sub mark
  simp [h] at plain

theorem not_mark_of_blank (sub : choice ⊆ marks) (h : Text.isBlank c = true) :
    choice.contains c = false := by
  refine Bool.eq_false_iff.mpr fun mark => ?_
  have plain := not_blank_of_mark sub mark
  simp [h] at plain

end Marks

/-! ### What the scanners take -/

theorem takes_digits (n : Nat) : Takes (digits? n) (digit ^ n) never := by
  induction n with
  | zero =>
    intro cs rest
    simp [digits?, eq_comm]
  | succ n ih =>
    rw [pow_succ']
    exact (takes_one Unicode.isDigit).bind ih

theorem takes_blanks : Takes blanks? blanks Text.isBlank := takes_run Text.isBlank

theorem takes_day : Takes day? day never := by
  have months := ((takes_digits 4).bind (takes_oneOf ['-', '/'])).bind (takes_digits 2)
  exact (months.bind (takes_oneOf ['-', '/'])).bind (takes_digits 2)

def fraction? (cs : List Char) : Option (List Char) :=
  oneOf? ['.', ','] cs >>= run? Unicode.isDigit

theorem afterFraction_eq (cs : List Char) : afterFraction cs = (fraction? cs).getD cs := by
  unfold afterFraction fraction?
  cases mark : oneOf? ['.', ','] cs with
  | none => rfl
  | some rest => cases first : one? Unicode.isDigit rest <;> simp [run?, first]

theorem takes_fraction : Takes fraction? fraction Unicode.isDigit :=
  (takes_oneOf ['.', ',']).bind (takes_run Unicode.isDigit)

def zone? (cs : List Char) : Option (List Char) :=
  oneOf? ['Z'] cs <|>
    (oneOf? ['+', '-'] cs >>= digits? 2 >>= fun rest => digits? 2 ((oneOf? [':'] rest).getD rest))

theorem afterZone_eq (cs : List Char) : afterZone cs = (zone? cs).getD cs := by
  unfold afterZone zone?
  cases utc : oneOf? ['Z'] cs with
  | some rest => rfl
  | none =>
    cases hours : oneOf? ['+', '-'] cs >>= digits? 2 with
    | none => simp
    | some rest => cases minutes : digits? 2 ((oneOf? [':'] rest).getD rest) <;> simp [minutes]

theorem opens_digits (n : Nat) : Opens (digit ^ (n + 1)) Unicode.isDigit := by
  rw [pow_succ']
  exact opens_char.mul _

theorem opens_offset : Opens offset ['+', '-'].contains := ((opens_charOf _).mul _).mul _

theorem opens_zone : Opens zone ['Z', '+', '-'].contains :=
  ((opens_charOf ['Z']).add opens_offset).mono (by simp +contextual)

theorem opens_blanks : Opens blanks Text.isBlank := opens_char.mul _

theorem takes_zone : Takes zone? zone never := by
  have minutes : Takes (fun rest => digits? 2 ((oneOf? [':'] rest).getD rest))
      ((1 + charOf [':']) * digit ^ 2) never :=
    (takes_oneOf [':']).optional (takes_digits 2) (opens_charOf _) (opens_digits 1)
      fun c digit => ⟨not_mark_of_digit (by decide) digit, rfl⟩
  have offset := ((takes_oneOf ['+', '-']).bind (takes_digits 2)).bind minutes
  exact (takes_oneOf ['Z']).orElse offset (opens_charOf _) opens_offset (by simp +contextual)

theorem takes_clock24 :
    Takes (fun cs => clock24? cs >>= blanks?) (clock24 * blanks) Text.isBlank := by
  have zoned : Takes (fun cs => blanks? (afterZone cs)) ((1 + zone) * blanks) Text.isBlank := by
    simp only [afterZone_eq]
    exact takes_zone.optional takes_blanks opens_zone opens_blanks
      fun c blank => ⟨not_mark_of_blank (by decide) blank, rfl⟩
  have ended : Takes (fun cs => blanks? (afterZone (afterFraction cs)))
      ((1 + fraction) * ((1 + zone) * blanks)) Text.isBlank := by
    simp only [afterFraction_eq]
    refine takes_fraction.optional zoned ((opens_charOf _).mul _)
      (opens_zone.optional opens_blanks) fun c starts => ?_
    rcases Bool.or_eq_true_iff.mp starts with blank | zoned
    · exact ⟨not_mark_of_blank (by decide) blank, not_digit_of_blank blank⟩
    · have others : (['Z', '+', '-'].all fun c => !(['.', ','].contains c)) = true := by decide
      have other := List.all_eq_true.mp others c (List.contains_iff_mem.mp zoned)
      exact ⟨by simpa using other, not_digit_of_mark (by decide) zoned⟩
  have minutes := ((takes_digits 2).bind (takes_oneOf [':'])).bind (takes_digits 2)
  have whole := ((minutes.bind (takes_oneOf [':'])).bind (takes_digits 2)).bind ended
  have same : (fun cs => clock24? cs >>= blanks?) = fun cs =>
      (digits? 2 cs >>= oneOf? [':'] >>= digits? 2 >>= oneOf? [':'] >>= digits? 2) >>=
        fun rest => blanks? (afterZone (afterFraction rest)) := by
    funext cs
    exact Option.bind_map
  rw [same, clock24]
  simpa only [mul_assoc] using whole

theorem takes_clock12 : Takes clock12? clock12 never := by
  have half := (takes_oneOf ['A', 'P']).bind (takes_oneOf ['M'])
  have gap := (takes_one Text.isBlank).optional half opens_char ((opens_charOf _).mul _)
    fun c mark => ⟨not_blank_of_mark (by decide) mark, rfl⟩
  have minutes := ((takes_oneOf [':']).bind (takes_digits 2)).bind gap
  have second := (takes_one Unicode.isDigit).optional minutes opens_char
    (((opens_charOf _).mul _).mul _) fun c mark => ⟨not_digit_of_mark (by decide) mark, rfl⟩
  exact (takes_one Unicode.isDigit).bind second

/-! ### Dates as a whole -/

/-- A time of either form after its mark, with the blanks after it. -/
def timed (clock : Language Char) : Language Char := charOf ['T', ' '] * (clock * blanks)

def timed24? (cs : List Char) : Option (List Char) := oneOf? ['T', ' '] cs >>= clock24? >>= blanks?

def timed12? (cs : List Char) : Option (List Char) := oneOf? ['T', ' '] cs >>= clock12? >>= blanks?

theorem date?_eq (cs : List Char) :
    date? cs = day? cs >>= fun rest => timed24? rest <|> timed12? rest <|> blanks? rest := rfl

theorem takes_timed24 : Takes timed24? (timed clock24) Text.isBlank := by
  have whole := (takes_oneOf ['T', ' ']).bind takes_clock24
  have same : timed24? = fun cs => oneOf? ['T', ' '] cs >>= fun cs => clock24? cs >>= blanks? := by
    funext cs
    exact bind_assoc _ _ _
  rw [same]
  exact whole

theorem takes_timed12 : Takes timed12? (timed clock12) Text.isBlank := by
  have whole := ((takes_oneOf ['T', ' ']).bind takes_clock12).bind takes_blanks
  rw [timed, ← mul_assoc]
  exact whole

theorem date_eq : date = day * (blanks + timed clock24 + timed clock12) := by
  simp only [date, timed, mul_add, add_mul, mul_assoc, mul_one, add_assoc]

section Whole

variable {cs rest w : List Char}

/-- Nothing is skipped but a date, with all the blanks after it. -/
theorem exists_date (h : date? cs = some rest) :
    (∃ d ∈ date, d ++ rest = cs) ∧ Stops Text.isBlank rest := by
  rw [date?_eq] at h
  obtain ⟨after, first, second⟩ := Option.bind_eq_some_iff.mp h
  obtain ⟨⟨u, hu, rfl⟩, -⟩ := (takes_day cs after).mp first
  obtain ⟨⟨v, hv, rfl⟩, stops⟩ :
      (∃ v ∈ blanks + timed clock24 + timed clock12, v ++ rest = after) ∧
        Stops Text.isBlank rest := by
    rcases (Option.orElse_eq_some _ _ _).mp second with taken | ⟨-, second⟩
    · obtain ⟨⟨v, hv, same⟩, stops⟩ := (takes_timed24 _ _).mp taken
      exact ⟨⟨v, .inl (.inr hv), same⟩, stops⟩
    · rcases (Option.orElse_eq_some _ _ _).mp second with taken | ⟨-, taken⟩
      · obtain ⟨⟨v, hv, same⟩, stops⟩ := (takes_timed12 _ _).mp taken
        exact ⟨⟨v, .inr hv, same⟩, stops⟩
      · obtain ⟨⟨v, hv, same⟩, stops⟩ := (takes_blanks _ _).mp taken
        exact ⟨⟨v, .inl (.inl hv), same⟩, stops⟩
  refine ⟨⟨u ++ v, ?_, List.append_assoc u v rest⟩, stops⟩
  rw [date_eq]
  exact Language.append_mem_mul hu hv

theorem mem_two_digits : w ∈ digit ^ 2 ↔
    ∃ a b, Unicode.isDigit a = true ∧ Unicode.isDigit b = true ∧ w = [a, b] := by
  rw [pow_two, Language.mem_mul]
  constructor
  · rintro ⟨_, ⟨a, ha, rfl⟩, _, ⟨b, hb, rfl⟩, rfl⟩
    exact ⟨a, b, ha, hb, rfl⟩
  · rintro ⟨a, b, ha, hb, rfl⟩
    exact ⟨[a], ⟨a, ha, rfl⟩, [b], ⟨b, hb, rfl⟩, rfl⟩

theorem clock24_starts (h : w ∈ clock24) : ∃ a b c d tail,
    w = a :: b :: ':' :: c :: d :: ':' :: tail ∧ Unicode.isDigit b = true := by
  simp only [clock24, Language.mem_mul, mem_two_digits, mem_charOf_singleton] at h
  obtain ⟨_, ⟨_, ⟨_, ⟨_, ⟨_, hours, _, rfl, rfl⟩, _, minutes, rfl⟩, _, rfl, rfl⟩, s, -, rfl⟩, r, -,
    rfl⟩ := h
  obtain ⟨a, b, -, hb, rfl⟩ := hours
  obtain ⟨c, d, -, -, rfl⟩ := minutes
  exact ⟨a, b, c, d, s ++ r, rfl, hb⟩

theorem half_starts (h : w ∈ half) : ∃ c tail, w = c :: tail ∧ c ≠ ':' := by
  have opens : Opens half fun c => ['A', 'P'].contains c || Text.isBlank c :=
    opens_char.optional ((opens_charOf _).mul _)
  obtain ⟨c, tail, same, hc⟩ := opens w h
  refine ⟨c, tail, same, ?_⟩
  rintro rfl
  revert hc
  decide

/-- The second form of a time has no colon where the first one has its second colon. -/
theorem clock12_starts (h : w ∈ clock12) : (∃ a tail, w = a :: ':' :: tail) ∨
    ∃ a b c d e tail, w = a :: b :: ':' :: c :: d :: e :: tail ∧ e ≠ ':' := by
  simp only [clock12, Language.mem_mul, Language.mem_add, Language.mem_one, mem_two_digits,
    mem_charOf_singleton] at h
  obtain ⟨_, ⟨a, -, rfl⟩, _, ⟨_, second, _, ⟨_, ⟨_, rfl, _, ⟨c, d, -, -, rfl⟩, rfl⟩, r, late, rfl⟩,
    rfl⟩, rfl⟩ := h
  rcases second with rfl | ⟨b, -, rfl⟩
  · exact .inl ⟨a, c :: d :: r, rfl⟩
  · obtain ⟨e, tail, rfl, he⟩ := half_starts late
    exact .inr ⟨a, b, c, d, e, tail, rfl, he⟩

/-- No text starts with times of both forms. -/
theorem timed_apart {u v : List Char} (hu : u ∈ timed clock24) (hv : v ∈ timed clock12)
    (same : u ++ cs = v ++ rest) : False := by
  simp only [timed, Language.mem_mul] at hu hv
  obtain ⟨_, ⟨m, -, rfl⟩, _, ⟨u, long, r, -, rfl⟩, rfl⟩ := hu
  obtain ⟨_, ⟨n, -, rfl⟩, _, ⟨v, short, r', -, rfl⟩, rfl⟩ := hv
  obtain ⟨a, b, c, d, tail, rfl, hb⟩ := clock24_starts long
  rcases clock12_starts short with ⟨x, tail', rfl⟩ | ⟨x, y, z, z', e, tail', rfl, he⟩
  · simp only [List.cons_append, List.nil_append, List.cons.injEq] at same
    obtain ⟨-, -, colon, -⟩ := same
    have plain : Unicode.isDigit ':' = false := by decide +kernel
    simp [colon, plain] at hb
  · simp only [List.cons_append, List.nil_append, List.cons.injEq] at same
    obtain ⟨-, -, -, -, -, -, colon, -⟩ := same
    exact he colon.symm

theorem timed_starts {clock : Language Char} (opens : Opens clock Unicode.isDigit)
    (h : w ∈ timed clock) : ∃ a b tail, w = a :: b :: tail ∧ Unicode.isDigit b = true := by
  obtain ⟨_, ⟨a, -, rfl⟩, v, hv, rfl⟩ := Language.mem_mul.mp h
  obtain ⟨b, tail, rfl, hb⟩ := opens.mul blanks v hv
  exact ⟨a, b, tail, rfl, hb⟩

theorem not_timed_of_blanks {p : Scanner} {clock : Language Char} {more : Char → Bool}
    (takes : Takes p (timed clock) more) (opens : Opens clock Unicode.isDigit) {b : List Char}
    (hb : b ∈ blanks) (stops : Stops Unicode.isDigit rest) : p (b ++ rest) = none := by
  refine Option.eq_none_iff_forall_ne_some.mpr fun left taken => ?_
  obtain ⟨⟨w, hw, same⟩, -⟩ := (takes _ _).mp taken
  obtain ⟨x, y, tail, rfl, hy⟩ := timed_starts opens hw
  obtain ⟨_, ⟨c, -, rfl⟩, others, run, rfl⟩ := Language.mem_mul.mp hb
  cases others with
  | nil =>
    have second : rest = y :: (tail ++ left) := by simp_all
    simp [second, hy] at stops
  | cons d others =>
    have second : y = d := by simp_all
    have plain := not_digit_of_blank (mem_star_char.mp run d (by simp))
    rw [← second, hy] at plain
    exact Bool.noConfusion plain

/-- A date is skipped as a whole, if what follows it starts with neither a digit nor a blank. -/
theorem date?_append {d : List Char} (hd : d ∈ date) (digits : Stops Unicode.isDigit rest)
    (stops : Stops Text.isBlank rest) : date? (d ++ rest) = some rest := by
  rw [date_eq] at hd
  obtain ⟨u, hu, v, hv, rfl⟩ := Language.mem_mul.mp hd
  have first : day? (u ++ v ++ rest) = some (v ++ rest) :=
    (takes_day _ _).mpr ⟨⟨u, hu, (List.append_assoc u v rest).symm⟩, stops_never⟩
  have opens24 : Opens clock24 Unicode.isDigit := by
    simpa only [clock24, mul_assoc] using (opens_digits 1).mul _
  have opens12 : Opens clock12 Unicode.isDigit := opens_char.mul _
  rw [date?_eq, first]
  rcases hv with (hv | hv) | hv
  · have none24 := not_timed_of_blanks takes_timed24 opens24 hv digits
    have none12 := not_timed_of_blanks takes_timed12 opens12 hv digits
    have taken : blanks? (v ++ rest) = some rest := (takes_blanks _ _).mpr ⟨⟨v, hv, rfl⟩, stops⟩
    simp [none24, none12, taken]
  · have taken : timed24? (v ++ rest) = some rest := (takes_timed24 _ _).mpr ⟨⟨v, hv, rfl⟩, stops⟩
    simp [taken]
  · have none24 : timed24? (v ++ rest) = none := by
      refine Option.eq_none_iff_forall_ne_some.mpr fun left taken => ?_
      obtain ⟨⟨w, hw, same⟩, -⟩ := (takes_timed24 _ _).mp taken
      exact timed_apart hw hv same
    have taken : timed12? (v ++ rest) = some rest := (takes_timed12 _ _).mpr ⟨⟨v, hv, rfl⟩, stops⟩
    simp [none24, taken]

/-- The dates are the texts that are skipped to their ends. -/
theorem date?_eq_some_nil_iff : date? cs = some [] ↔ cs ∈ date := by
  constructor
  · intro h
    obtain ⟨⟨d, hd, same⟩, -⟩ := exists_date h
    rwa [← same, List.append_nil]
  · intro hd
    simpa using date?_append hd stops_nil stops_nil

/-! ### The characters of a date -/

def inDate (c : Char) : Bool := Unicode.isDigit c || Text.isBlank c || marks.contains c

theorem within_date : Within date inDate := by
  have digits : Within digit inDate := within_char fun c hc => by simp [inDate, hc]
  have blank : Within blank inDate := within_char fun c hc => by simp [inDate, hc]
  have mark : ∀ choice : List Char, choice.all inDate = true → Within (charOf choice) inDate :=
    fun _ => within_charOf
  have dash := mark ['-', '/'] (by decide +kernel)
  have colon := mark [':'] (by decide +kernel)
  have two := digits.pow 2
  have days := ((((digits.pow 4).mul dash).mul two).mul dash).mul two
  have fractions := (mark ['.', ','] (by decide +kernel)).mul (digits.mul digits.star)
  have offsets := ((mark ['+', '-'] (by decide +kernel)).mul two).mul
    ((within_one.add colon).mul two)
  have zones := (mark ['Z'] (by decide +kernel)).add offsets
  have clocks := ((((two.mul colon).mul two).mul colon).mul two).mul
    ((within_one.add fractions).mul (within_one.add zones))
  have halves := (within_one.add blank).mul
    ((mark ['A', 'P'] (by decide +kernel)).mul (mark ['M'] (by decide +kernel)))
  have clocks' := digits.mul ((within_one.add digits).mul ((colon.mul two).mul halves))
  have times := (mark ['T', ' '] (by decide +kernel)).mul (clocks.add clocks')
  exact (days.mul (within_one.add times)).mul (blank.mul blank.star)

theorem blank_of_getLast? {d : List Char} {c : Char} (hd : d ∈ date) (h : d.getLast? = some c) :
    Text.isBlank c = true := by
  obtain ⟨u, -, v, hv, rfl⟩ := Language.mem_mul.mp hd
  obtain ⟨_, ⟨b, hb, rfl⟩, others, run, rfl⟩ := Language.mem_mul.mp hv
  have all : ∀ c ∈ [b] ++ others, Text.isBlank c = true :=
    List.forall_mem_cons.mpr ⟨hb, mem_star_char.mp run⟩
  have last : ([b] ++ others).getLast? = some c :=
    (List.getLast?_append_of_ne_nil u (List.cons_ne_nil b others)).symm.trans h
  exact all c (List.mem_of_getLast? last)

end Whole

end ContainerWatch.Log.Detect
