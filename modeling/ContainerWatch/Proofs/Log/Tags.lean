import ContainerWatch.Proofs.Log.Decorations
import ContainerWatch.Proofs.Text.Cut

/-!
Tags of a severity: one of its names in brackets, or in capitals in double quotes or between blanks.
A line with a tag in it, wherever it stands, shows the severity of the tag or one that is looked for
before. Escape sequences after the tag leave it whole; and of all tags a date before it can only
take the first blank, which leaves the name at the start of the line.
-/

namespace ContainerWatch.Log.Detect

inductive IsTag (name : List Char) : List Char → Prop
  | bracketed {before word after} (cased : word.map Char.toLower = name)
    (left : before ∈ [[], [' ']]) (right : after ∈ [[], [' ']]) :
    IsTag name ('[' :: (before ++ (word ++ (after ++ [']']))))
  | quoted : IsTag name ('"' :: (name.map Char.toUpper ++ ['"']))
  | spaced : IsTag name (' ' :: (name.map Char.toUpper ++ [' ']))

variable {l : Severity} {a : String} {c : Char} {name word tag cs rest : List Char}

/-! ### Finding a part of a text -/

theorem anyTail_append {p : List Char → Bool} (h : p rest = true) (before : List Char) :
    anyTail p (before ++ rest) = true := by
  induction before with
  | nil => cases rest <;> simp [anyTail, h]
  | cons c before ih => simp [anyTail, ih]

/-! ### Names -/

theorem plain_of_lower (lower : c.toLower.isLower = true) : plain c = c.toLower := by
  have longS : c ≠ 'ſ' := by
    rintro rfl
    exact absurd lower (by decide)
  have kelvin : c ≠ '\u212A' := by
    rintro rfl
    exact absurd lower (by decide)
  simp [plain, longS, kelvin]

theorem caseless?_append (lower : ∀ c ∈ name, c.isLower = true)
    (cased : word.map Char.toLower = name) (rest : List Char) :
    caseless? name (word ++ rest) = some rest := by
  subst cased
  induction word with
  | nil => rfl
  | cons c word ih =>
    obtain ⟨first, others⟩ := List.forall_mem_cons.mp lower
    simpa [caseless?, plain_of_lower first] using ih others

theorem lower_of_mem_aliases (named : a ∈ l.aliases) : ∀ c ∈ a.toList, c.isLower = true := by
  have all : ∀ a ∈ l.aliases, a.toList.all Char.isLower = true := by
    cases l <;> decide +kernel
  exact List.all_eq_true.mp (all a named)

theorem capitals (named : a ∈ l.aliases) :
    (a.toList.map Char.toUpper).map Char.toLower = a.toList ∧
    (∀ c ∈ a.toList.map Char.toUpper, Text.isBlank c = false) ∧
    ∃ c ∈ a.toList.map Char.toUpper, inDate c = false := by
  have all : ∀ a ∈ l.aliases, (a.toList.map Char.toUpper).map Char.toLower = a.toList ∧
      (a.toList.map Char.toUpper).all (!Text.isBlank ·) = true ∧
      (a.toList.map Char.toUpper).any (!inDate ·) = true := by
    cases l <;> decide +kernel
  obtain ⟨folded, solid, outer⟩ := all a named
  obtain ⟨c, member, outside⟩ := List.any_eq_true.mp outer
  refine ⟨folded, fun c hc => ?_, c, member, by simpa using outside⟩
  simpa using List.all_eq_true.mp solid c hc

theorem mem_known_of_alias (named : a ∈ l.aliases) : l ∈ Severity.known := by
  cases l <;> first | decide | exact absurd named List.not_mem_nil

/-! ### What a tag shows -/

theorem afterSpace_of_ne (other : c ≠ ' ') (rest : List Char) :
    afterSpace (c :: rest) = c :: rest := by
  unfold afterSpace
  split
  · simp_all
  · rfl

theorem afterSpace_append {before : List Char} (named : a ∈ l.aliases)
    (cased : word.map Char.toLower = a.toList) (left : before ∈ [[], [' ']]) (rest : List Char) :
    afterSpace (before ++ (word ++ rest)) = word ++ rest := by
  rcases List.mem_pair.mp left with rfl | rfl
  · cases word with
    | nil =>
      obtain ⟨-, -, c, inside, -⟩ := capitals named
      simp [← cased] at inside
    | cons c word =>
      have lower := lower_of_mem_aliases named
      rw [← cased] at lower
      refine afterSpace_of_ne ?_ (word ++ rest)
      rintro rfl
      exact absurd (lower _ (List.mem_cons_self ..)) (by decide)
  · rfl

theorem startsBracketed_append {before word after : List Char} (named : a ∈ l.aliases)
    (cased : word.map Char.toLower = a.toList) (left : before ∈ [[], [' ']])
    (right : after ∈ [[], [' ']]) (rest : List Char) :
    startsBracketed a.toList ('[' :: (before ++ (word ++ (after ++ ']' :: rest)))) = true := by
  have lower := lower_of_mem_aliases named
  have found := caseless?_append lower cased (after ++ ']' :: rest)
  have opened := afterSpace_append named cased left (after ++ ']' :: rest)
  have closed : (afterSpace (after ++ ']' :: rest)).head? = some ']' := by
    rcases List.mem_pair.mp right with rfl | rfl <;> rfl
  simp [startsBracketed, opened, found, closed]

/-- A tag shows its severity wherever it stands. -/
theorem shows_tag (named : a ∈ l.aliases) (tagged : IsTag a.toList tag) (before after : List Char) :
    shows l (before ++ (tag ++ after)) = true := by
  refine List.any_eq_true.mpr ⟨a, named, ?_⟩
  cases tagged with
  | @bracketed left' word right' cased left right =>
    have starts := startsBracketed_append named cased left right after
    have found := anyTail_append starts before
    have whole : '[' :: (left' ++ (word ++ (right' ++ [']']))) ++ after =
        '[' :: (left' ++ (word ++ (right' ++ ']' :: after))) := by simp
    rw [whole, found, Bool.or_true, Bool.true_or]
  | quoted =>
    have found : shouts a.toList
        (before ++ ('"' :: (a.toList.map Char.toUpper ++ ['"']) ++ after)) = true :=
      Bool.or_eq_true_iff.mpr (.inl (Text.occursIn_append before _ after))
    rw [found, Bool.or_true]
  | spaced =>
    have found : shouts a.toList
        (before ++ (' ' :: (a.toList.map Char.toUpper ++ [' ']) ++ after)) = true :=
      Bool.or_eq_true_iff.mpr (.inr (Text.occursIn_append before _ after))
    rw [found, Bool.or_true]

theorem shows_opened (named : a ∈ l.aliases) (after : List Char) :
    shows l (a.toList.map Char.toUpper ++ ' ' :: after) = true := by
  have found := caseless?_append (lower_of_mem_aliases named) (capitals named).1 (' ' :: after)
  have blank : isLetter ' ' = false := by decide
  exact List.any_eq_true.mpr ⟨a, named, by simp [opens, found, blank]⟩

/-! ### A tag in a line -/

theorem escape_notMem_of_cased (named : a ∈ l.aliases) (cased : word.map Char.toLower = a.toList) :
    escape ∉ word := by
  intro mem
  have inside : escape.toLower ∈ a.toList := cased ▸ List.mem_map_of_mem mem
  exact absurd (lower_of_mem_aliases named _ inside) (by decide)

theorem escape_notMem_tag (named : a ∈ l.aliases) (tagged : IsTag a.toList tag) : escape ∉ tag := by
  have upper := escape_notMem_of_cased named (capitals named).1
  cases tagged with
  | bracketed cased left right =>
    have inner := escape_notMem_of_cased named cased
    have blank : ∀ gap ∈ [[], [' ']], escape ∉ gap := by decide
    have bracket : escape ≠ '[' ∧ escape ≠ ']' := by decide
    simp [blank _ left, inner, blank _ right, bracket]
  | quoted =>
    have quote : escape ≠ '"' := by decide
    simp [quote, upper]
  | spaced =>
    have blank : escape ≠ ' ' := by decide
    simp [blank, upper]

/-- What a date takes of a tag is nothing, or the blank before the name. -/
theorem shows_rest {pre taken post : List Char} (named : a ∈ l.aliases)
    (tagged : IsTag a.toList tag) (dated : pre ++ taken ∈ date)
    (same : tag ++ post = taken ++ rest) : shows l rest = true := by
  have inside : ∀ c ∈ taken, inDate c = true := fun c hc =>
    within_date _ dated c (List.mem_append_right pre hc)
  cases taken with
  | nil =>
    have whole := shows_tag named tagged [] post
    rwa [List.nil_append, same, List.nil_append] at whole
  | cons first taken =>
    have first_ := inside first (List.mem_cons_self ..)
    cases tagged with
    | bracketed cased left right =>
      obtain rfl : '[' = first := (List.cons.inj same).1
      exact absurd first_ (by decide +kernel)
    | quoted =>
      obtain rfl : '"' = first := (List.cons.inj same).1
      exact absurd first_ (by decide +kernel)
    | spaced =>
      obtain ⟨-, unblank, odd, within, undated⟩ := capitals named
      have others : a.toList.map Char.toUpper ++ ' ' :: post = taken ++ rest := by
        simpa using (List.cons.inj same).2
      rcases List.append_eq_append_iff.mp others with ⟨more, rfl, -⟩ | ⟨left, whole, rfl⟩
      · -- The date would have all letters of the name in it.
        have dated' := inside odd (by simp [within])
        simp [undated] at dated'
      · rcases List.eq_nil_or_concat' taken with rfl | ⟨before, last, rfl⟩
        · rw [List.nil_append] at whole
          exact whole ▸ shows_opened named post
        · -- The date would end within the name.
          have ends : pre ++ first :: (before ++ [last]) = (pre ++ first :: before) ++ [last] := by
            simp
          have blank := blank_of_getLast? dated (c := last) (by rw [ends, List.getLast?_concat])
          have letter := unblank last (by simp [whole])
          simp [blank] at letter

/-- A date before a tag leaves what the tag shows. -/
theorem shows_dropDate (named : a ∈ l.aliases) (tagged : IsTag a.toList tag)
    (pre post : List Char) : shows l (dropDate (pre ++ (tag ++ post))) = true := by
  cases taken : date? (pre ++ (tag ++ post)) with
  | none => simpa [dropDate, taken] using shows_tag named tagged pre post
  | some rest =>
    obtain ⟨⟨d, dated, same⟩, -⟩ := exists_date taken
    have dropped : dropDate (pre ++ (tag ++ post)) = rest := by simp [dropDate, taken]
    rw [dropped]
    rcases List.append_eq_append_iff.mp same with ⟨left, rfl, rfl⟩ | ⟨more, rfl, whole⟩
    · exact shows_tag named tagged left post
    · exact shows_rest named tagged dated whole

theorem find?_known {p : Severity → Bool} (known : l ∈ Severity.known) (h : p l = true) :
    ∃ m ∈ Severity.known, Severity.known.find? p = some m ∧
      Severity.known.idxOf m ≤ Severity.known.idxOf l := by
  obtain ⟨m, found⟩ := Option.isSome_iff_exists.mp (List.find?_isSome.mpr ⟨l, known, h⟩)
  obtain ⟨-, before, after, whole, none_⟩ := List.find?_eq_some_iff_append.mp found
  have late : l ∉ before := fun mem => by simpa [h] using none_ l mem
  refine ⟨m, List.mem_of_find?_eq_some found, found, ?_⟩
  have upTo : (before ++ m :: after).idxOf m ≤ before.length := by
    rw [List.idxOf_append]
    split
    · exact List.idxOf_le_length
    · simp
  rw [whole, List.idxOf_append_of_notMem late]
  omega

/-- A line with a tag in it shows a known severity, that of the tag or one that is looked for before
it, whatever stands before the tag, escape sequences apart, and whatever after it. -/
theorem ofText_tagged {pre : List Char} (post : List Char) (named : a ∈ l.aliases)
    (unescaped : escape ∉ pre) (tagged : IsTag a.toList tag) :
    ofText (pre ++ tag ++ post) ∈ Severity.known ∧
      Severity.known.idxOf (ofText (pre ++ tag ++ post)) ≤ Severity.known.idxOf l := by
  have stripped : strip (pre ++ tag ++ post) = pre ++ (tag ++ strip post) := by
    rw [List.append_assoc, strip_append unescaped, strip_append (escape_notMem_tag named tagged)]
  have shown := shows_dropDate named tagged pre (strip post)
  obtain ⟨m, known, found, first⟩ :=
    find?_known (p := (shows · (dropDate (pre ++ (tag ++ strip post))))) (mem_known_of_alias named)
      shown
  have result : ofText (pre ++ tag ++ post) = m := by
    rw [ofText, stripped, found, Option.getD_some]
  rw [result]
  exact ⟨known, first⟩

/-- A tag whose first blank goes with the date before it, and another tag after it that outranks
it. -/
theorem ofText_tagged_dated :
    "trace" ∈ Severity.trace.aliases ∧ escape ∉ "2024-01-15".toList ∧
    IsTag "trace".toList " TRACE ".toList ∧
    dropDate ("2024-01-15".toList ++ " TRACE ".toList) = "TRACE ".toList ∧
    ofText ("2024-01-15".toList ++ " TRACE ".toList ++ "step \x1b[31m[ Dbg]\x1b[0m".toList) =
      .debug ∧
    ofText ("2024-01-15".toList ++ " TRACE ".toList ++ "step \x1b[31m[ Dbg]\x1b[0m".toList) ∈
      Severity.known ∧
    Severity.known.idxOf (ofText
        ("2024-01-15".toList ++ " TRACE ".toList ++ "step \x1b[31m[ Dbg]\x1b[0m".toList)) ≤
      Severity.known.idxOf .trace := by
  have named : "trace" ∈ Severity.trace.aliases := by decide
  have unescaped : escape ∉ "2024-01-15".toList := by decide +kernel
  have written : ' ' :: ("trace".toList.map Char.toUpper ++ [' ']) = " TRACE ".toList := by
    decide +kernel
  have tagged : IsTag "trace".toList " TRACE ".toList := written ▸ .spaced
  have dropped : dropDate ("2024-01-15".toList ++ " TRACE ".toList) = "TRACE ".toList := by
    decide +kernel
  have found : ofText ("2024-01-15".toList ++ " TRACE ".toList ++
      "step \x1b[31m[ Dbg]\x1b[0m".toList) = .debug := by decide +kernel
  exact ⟨named, unescaped, tagged, dropped, found, ofText_tagged _ named unescaped tagged⟩

end ContainerWatch.Log.Detect
