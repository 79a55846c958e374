import ContainerWatch.Proofs.Entries
import ContainerWatch.Proofs.Log.Dates

/-!
Decorations of a line: a date before it, and escape sequences anywhere in it, also within the date
or within the name of a severity. None of them changes the severity that is found.
-/

namespace ContainerWatch.Log.Detect

open scoped Computability

def escapeSequence : Language Char :=
  charOf [escape] * charOf ['['] * (char isParameter)∗ * char Char.isAlpha

/-- A text with escape sequences between and around its characters, and the text without them. -/
inductive Decorated : List Char → List Char → Prop
  | nil : Decorated [] []
  | sequence {s shown plain} (hs : s ∈ escapeSequence) (h : Decorated shown plain) :
    Decorated (s ++ shown) plain
  | char {c shown plain} (h : Decorated shown plain) : Decorated (c :: shown) (c :: plain)

variable {c : Char} {cs rest s shown plain : List Char}

/-! ### Taking sequences out -/

theorem stripFrom_append (cs rest : List Char) :
    stripFrom cs.length (cs ++ rest) = stripFrom 0 rest := by
  induction cs with
  | nil => rfl
  | cons c cs ih => simpa [stripFrom] using ih

theorem strip_cons (other : c ≠ escape) (rest : List Char) :
    strip (c :: rest) = c :: strip rest := by
  simp [strip, stripFrom, other]

theorem strip_append (none_ : escape ∉ cs) (rest : List Char) :
    strip (cs ++ rest) = cs ++ strip rest := by
  induction cs with
  | nil => rfl
  | cons c cs ih =>
    obtain ⟨other, none_⟩ := not_or.mp (mt List.mem_cons.mpr none_)
    rw [List.cons_append, strip_cons (Ne.symm other), ih none_, List.cons_append]

theorem strip_of_notMem (none_ : escape ∉ cs) : strip cs = cs := by
  simpa [strip, stripFrom] using strip_append none_ []

theorem not_parameter_of_isAlpha (letter : c.isAlpha = true) : isParameter c = false := by
  have digit : c.isDigit = false := by
    refine Bool.eq_false_iff.mpr fun digit => ?_
    have most : c.val ≤ 57 := of_decide_eq_true (Bool.and_eq_true_iff.mp digit).2
    obtain upper | lower := Bool.or_eq_true_iff.mp letter
    · have least : 65 ≤ c.val := (of_decide_eq_true upper).1
      exact absurd (UInt32.le_trans least most) (by decide)
    · have least : 97 ≤ c.val := of_decide_eq_true (Bool.and_eq_true_iff.mp lower).1
      exact absurd (UInt32.le_trans least most) (by decide)
  have semicolon : c ≠ ';' := by
    rintro rfl
    exact absurd letter (by decide)
  have question : c ≠ '?' := by
    rintro rfl
    exact absurd letter (by decide)
  simp [isParameter, digit, semicolon, question]

/-- A sequence is as long as its letter says, since no letter is a parameter. -/
theorem sequenceLength?_append {params : List Char} (inside : ∀ p ∈ params, isParameter p = true)
    (letter : c.isAlpha = true) (rest : List Char) :
    sequenceLength? ('[' :: (params ++ c :: rest)) = some (params.length + 2) := by
  have final := not_parameter_of_isAlpha letter
  have taken : (params ++ c :: rest).takeWhile isParameter = params := by
    rw [List.takeWhile_append_of_pos inside]
    simp [final]
  have left : (params ++ c :: rest).dropWhile isParameter = c :: rest := by
    rw [List.dropWhile_append_of_pos inside]
    simp [final]
  simp [sequenceLength?, taken, left, letter]

theorem strip_sequence (hs : s ∈ escapeSequence) (rest : List Char) :
    strip (s ++ rest) = strip rest := by
  simp only [escapeSequence, Language.mem_mul, mem_charOf_singleton, mem_star_char] at hs
  obtain ⟨_, ⟨_, ⟨_, rfl, _, rfl, rfl⟩, params, inside, rfl⟩, _, ⟨c, letter, rfl⟩, rfl⟩ := hs
  have length := sequenceLength?_append inside letter rest
  have gone := stripFrom_append ('[' :: (params ++ [c])) rest
  have size : ('[' :: (params ++ [c])).length = params.length + 2 := by simp
  rw [size] at gone
  simpa [strip, stripFrom, length] using gone

theorem Decorated.strip (h : Decorated shown plain) (none_ : escape ∉ plain) :
    strip shown = plain := by
  induction h with
  | nil => rfl
  | sequence hs h ih => rw [strip_sequence hs, ih none_]
  | @char c shown plain h ih =>
    obtain ⟨other, none_⟩ := not_or.mp (mt List.mem_cons.mpr none_)
    rw [strip_cons (Ne.symm other), ih none_]

theorem exists_sequence {n : Nat} (h : sequenceLength? cs = some n) :
    ∃ s rest, cs = s ++ rest ∧ s.length = n ∧ escape :: s ∈ escapeSequence := by
  cases cs with
  | nil => simp [sequenceLength?] at h
  | cons b cs =>
    by_cases bracket : b = '['
    · subst bracket
      cases left : cs.dropWhile isParameter with
      | nil => simp [sequenceLength?, left] at h
      | cons c rest =>
        by_cases letter : c.isAlpha = true
        · have whole : cs = cs.takeWhile isParameter ++ c :: rest := by
            rw [← left, List.takeWhile_append_dropWhile]
          have inside : cs.takeWhile isParameter ∈ (char isParameter)∗ :=
            mem_star_char.mpr fun p hp => List.all_eq_true.mp List.all_takeWhile p hp
          have start : [escape, '['] ∈ charOf [escape] * charOf ['['] :=
            Language.append_mem_mul (mem_charOf_singleton.mpr rfl) (mem_charOf_singleton.mpr rfl)
          have sequence := Language.append_mem_mul (Language.append_mem_mul start inside)
            (mem_char.mpr ⟨c, letter, rfl⟩)
          refine ⟨'[' :: (cs.takeWhile isParameter ++ [c]), rest, by simp [← whole], ?_, sequence⟩
          simpa [sequenceLength?, left, letter] using h
        · simp [sequenceLength?, left, letter] at h
    · simp [sequenceLength?, bracket] at h

theorem decorated_strip (cs : List Char) : Decorated cs (strip cs) := by
  induction size : cs.length using Nat.strong_induction_on generalizing cs with
  | h n ih =>
    cases cs with
    | nil => exact .nil
    | cons c rest =>
      have kept := ih rest.length (by simp [← size]) rest rfl
      by_cases esc : c = escape
      · cases length : sequenceLength? rest with
        | none =>
          have same : strip (c :: rest) = c :: strip rest := by simp [strip, stripFrom, length]
          rw [same]
          exact .char kept
        | some k =>
          obtain ⟨s, left, rfl, rfl, sequence⟩ := exists_sequence length
          have shorter : left.length < n := by
            simp only [← size, List.length_cons, List.length_append]
            omega
          have decorated := ih left.length shorter left rfl
          subst esc
          rw [← List.cons_append, strip_sequence sequence]
          exact .sequence sequence decorated
      · rw [strip_cons esc]
        exact .char kept

/-- Taking sequences out undoes decorating. -/
theorem decorated_iff (none_ : escape ∉ plain) : Decorated shown plain ↔ strip shown = plain := by
  constructor
  · intro h
    exact h.strip none_
  · rintro rfl
    exact decorated_strip shown

/-! ### Dates before a text -/

theorem date?_eq_none (digits : Stops Unicode.isDigit cs) : date? cs = none := by
  refine Option.eq_none_iff_forall_ne_some.mpr fun rest taken => ?_
  obtain ⟨⟨d, hd, rfl⟩, -⟩ := exists_date taken
  have opens : Opens date Unicode.isDigit := by
    simpa only [date, day, mul_assoc] using (opens_digits 3).mul _
  obtain ⟨c, d, rfl, hc⟩ := opens d hd
  rw [List.cons_append, stops_cons, hc] at digits
  exact Bool.noConfusion digits

theorem dropDate_append {d : List Char} (dated : d = [] ∨ d ∈ date)
    (digits : Stops Unicode.isDigit rest) (blanks : Stops Text.isBlank rest) :
    dropDate (d ++ rest) = rest := by
  rcases dated with rfl | dated
  · simp [dropDate, date?_eq_none digits]
  · simp [dropDate, date?_append dated digits blanks]

theorem escape_notMem_date {d : List Char} (hd : d ∈ date) : escape ∉ d := by
  intro mem
  have inside := within_date d hd escape mem
  revert inside
  decide +kernel

/-! ### Fields -/

/-- A key whose text says the severity of fields: the first key, or the second where the first has
no text. -/
structure Tells (fields : Entries Json) (key s : String) : Prop where
  text : fields.get? key = some (.string s)
  first : key = "level" ∨ key = "severity" ∧ (fields.get? "level").bind Json.string? = none

theorem Tells.ofMessage {fields : Entries Json} {key s : String} (h : Tells fields key s) :
    ofMessage (.fields fields) = Severity.ofAlias (String.ofList (Detect.strip s.toList)) := by
  obtain ⟨text, rfl | ⟨rfl, none_⟩⟩ := h
  · simp [Detect.ofMessage, keys, text, Json.string?]
  · simp [Detect.ofMessage, keys, none_, text, Json.string?]

theorem Tells.put {fields : Entries Json} {key s : String} (h : Tells fields key s) (t : String) :
    Tells (fields.put key (.string t)) key t where
  text := Entries.get?_put_self ..
  first := by
    obtain ⟨-, rfl | ⟨rfl, none_⟩⟩ := h
    · exact .inl rfl
    · exact .inr ⟨rfl, by rwa [Entries.get?_put_of_ne (by decide)]⟩

/-! ### Decorations -/

/-- The severity found in a text is that of the text without a date before it and without escape
sequences anywhere in both; and the severity that fields tell is that of the telling text without
escape sequences. -/
theorem severity_decorated :
    (∀ d t shown, d = [] ∨ d ∈ date → escape ∉ t → Stops Unicode.isDigit t → Stops Text.isBlank t →
      Decorated shown (d ++ t) → ofText shown = ofText t) ∧
    ∀ fields key s shown, Tells fields key s → escape ∉ s.toList → Decorated shown s.toList →
      ofMessage (.fields (fields.put key (.string (String.ofList shown)))) =
        ofMessage (.fields fields) := by
  constructor
  · intro d t shown dated none_ digits blanks decorated
    have plain : escape ∉ d ++ t := by
      rcases dated with rfl | dated
      · exact none_
      · simp [escape_notMem_date dated, none_]
    have same : dropDate (Detect.strip shown) = t := by
      rw [decorated.strip plain, dropDate_append dated digits blanks]
    have same' : dropDate (Detect.strip t) = t := by
      rw [strip_of_notMem none_]
      exact dropDate_append (d := []) (.inl rfl) digits blanks
    rw [ofText, same, ofText, same']
  · intro fields key s shown tells none_ decorated
    rw [(tells.put _).ofMessage, tells.ofMessage, String.toList_ofList, decorated.strip none_,
      strip_of_notMem none_]

def stamp : List Char := "2024-01-15 10:30:00,5+0530 ".toList

def failure : List Char := "ERROR: boom".toList

/-- The error with the date before it, and sequences within the date and the word, and back to
back. -/
def colouredLine : List Char :=
  "2024-01\x1b[1;33m-15 10:30:00,5+0530 \x1b[0m\x1b[31mERR\x1b[?25hOR: boom\x1b[m".toList

theorem severity_decorated_coloured :
    (stamp = [] ∨ stamp ∈ date) ∧ escape ∉ failure ∧ Stops Unicode.isDigit failure ∧
    Stops Text.isBlank failure ∧ Decorated colouredLine (stamp ++ failure) ∧
    ofText colouredLine = ofText failure ∧ ofText failure = .error ∧
    Tells [("severity", .string "warn")] "severity" "warn" ∧ escape ∉ "warn".toList ∧
    Decorated "\x1b[33mwa\x1b[0mrn".toList "warn".toList ∧
    ofMessage (.fields
        (Entries.put "severity" (.string (String.ofList "\x1b[33mwa\x1b[0mrn".toList))
          [("severity", .string "warn")])) =
      ofMessage (.fields [("severity", .string "warn")]) := by
  have skipped : date? "2024-01-15 10:30:00,5+0530 ".toList = some [] := by decide +kernel
  have dated : stamp = [] ∨ stamp ∈ date := .inr (date?_eq_some_nil_iff.mp skipped)
  have none_ : escape ∉ failure := by decide +kernel
  have digits : Stops Unicode.isDigit failure := by decide +kernel
  have blanks : Stops Text.isBlank failure := by decide +kernel
  have decorated : Decorated colouredLine (stamp ++ failure) :=
    (decorated_iff (by decide +kernel)).mpr (by decide +kernel)
  have tells : Tells [("severity", .string "warn")] "severity" "warn" := ⟨rfl, .inr ⟨rfl, rfl⟩⟩
  have plain : escape ∉ "warn".toList := by decide +kernel
  have decorated' : Decorated "\x1b[33mwa\x1b[0mrn".toList "warn".toList :=
    (decorated_iff plain).mpr (by decide +kernel)
  have found : ofText failure = .error := by decide +kernel
  have line := severity_decorated.1 stamp failure colouredLine dated none_ digits blanks decorated
  have fields := severity_decorated.2 _ _ _ _ tells plain decorated'
  exact ⟨dated, none_, digits, blanks, decorated, line, found, tells, plain, decorated', fields⟩

end ContainerWatch.Log.Detect
