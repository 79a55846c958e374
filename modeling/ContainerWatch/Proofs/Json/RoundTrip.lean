import ContainerWatch.Json.Printer
import ContainerWatch.Json.Reader
import ContainerWatch.Proofs.Entries

/-!
Reading JSON text that was printed. A string comes back whatever its characters are, since what the
printer escapes the reader takes back one character at a time; and so do the members of an object of
texts, in their order, as long as their names are distinct.
-/

namespace ContainerWatch.Decimal

theorem hexDigit?_hexDigit {n : Nat} (h : n < 16) : hexDigit? (hexDigit n) = some n := by
  revert n
  decide

end ContainerWatch.Decimal

namespace ContainerWatch.Json

theorem hex4?_of_lt {n : Nat} (h : n < 0x20) (rest : List Char) :
    hex4? ('0' :: '0' :: Decimal.hexDigit (n / 16) :: Decimal.hexDigit (n % 16) :: rest) =
      some (n, rest) := by
  have zero : Decimal.hexDigit? '0' = some 0 := by decide
  have high := Decimal.hexDigit?_hexDigit (n := n / 16) (by omega)
  have low := Decimal.hexDigit?_hexDigit (n := n % 16) (by omega)
  have whole : n / 16 * 16 + n % 16 = n := by omega
  simp [hex4?, Decimal.readBase?, zero, high, low, whole]

theorem char_of_toNat {c : Char} {n : Nat} (h : c.toNat = n) : c = Char.ofNat n := by
  rw [← h, Char.ofNat_toNat]

/-- What is escaped is read back as the character that it was. -/
theorem escape?_control {c : Char} (h : c.toNat < 0x20) (rest : List Char) :
    ∃ text, escapeChar c = '\\' :: text ∧ escape? (text ++ rest) = some (c, rest) := by
  have quote : c ≠ '"' := by rintro rfl; simp at h
  have slash : c ≠ '\\' := by rintro rfl; simp at h
  unfold escapeChar
  rw [if_neg quote, if_neg slash, if_pos h]
  split
  · next n => exact ⟨['b'], rfl, by rw [char_of_toNat n]; rfl⟩
  · next n => exact ⟨['t'], rfl, by rw [char_of_toNat n]; rfl⟩
  · next n => exact ⟨['n'], rfl, by rw [char_of_toNat n]; rfl⟩
  · next n => exact ⟨['f'], rfl, by rw [char_of_toNat n]; rfl⟩
  · next n => exact ⟨['r'], rfl, by rw [char_of_toNat n]; rfl⟩
  · refine ⟨_, rfl, ?_⟩
    have high : ¬ (0xD800 ≤ c.toNat ∧ c.toNat < 0xDC00) := by omega
    have low : ¬ (0xDC00 ≤ c.toNat ∧ c.toNat < 0xE000) := by omega
    simp [escape?, hex4?_of_lt h, high, low]

theorem readString_escapeChar (c : Char) (fuel : Nat) (rest : List Char) :
    readString (fuel + 1) (escapeChar c ++ rest) =
      (readString fuel rest).map fun r => (c :: r.1, r.2) := by
  by_cases control : c.toNat < 0x20
  · obtain ⟨text, escaped, back⟩ := escape?_control control rest
    rw [escaped, List.cons_append, readString]
    simp [back]
  · by_cases quote : c = '"'
    · subst quote
      simp [escapeChar, readString, escape?]
    · by_cases slash : c = '\\'
      · subst slash
        simp [escapeChar, readString, escape?]
      · have plain : escapeChar c = [c] := by simp [escapeChar, quote, slash, control]
        rw [plain, List.singleton_append, readString]
        simp [quote, slash, control]

theorem readString_flatMap (cs : List Char) {fuel : Nat} (enough : cs.length < fuel)
    (rest : List Char) :
    readString fuel (cs.flatMap escapeChar ++ '"' :: rest) = some (cs, rest) := by
  induction cs generalizing fuel with
  | nil =>
    obtain ⟨fuel, rfl⟩ := Nat.exists_eq_add_one_of_ne_zero (Nat.ne_of_gt enough)
    simp [readString]
  | cons c cs ih =>
    obtain ⟨fuel, rfl⟩ := Nat.exists_eq_add_one_of_ne_zero (Nat.ne_zero_of_lt enough)
    rw [List.flatMap_cons, List.append_assoc, readString_escapeChar,
      ih (Nat.lt_of_succ_lt_succ enough)]
    rfl

theorem length_le_flatMap_escapeChar (cs : List Char) :
    cs.length ≤ (cs.flatMap escapeChar).length := by
  induction cs with
  | nil => exact Nat.le_refl 0
  | cons c cs ih =>
    have some_ : 0 < (escapeChar c).length := by
      unfold escapeChar
      repeat' split
      all_goals simp
    rw [List.flatMap_cons, List.length_append, List.length_cons]
    omega

theorem readString_quoted (s : String) (rest : List Char) :
    readString (s.toList.flatMap escapeChar ++ '"' :: rest).length.succ
      (s.toList.flatMap escapeChar ++ '"' :: rest) = some (s.toList, rest) := by
  refine readString_flatMap s.toList ?_ rest
  have long := length_le_flatMap_escapeChar s.toList
  rw [List.length_append]
  omega

theorem skipGaps_cons {c : Char} (h : isGap c = false) (rest : List Char) :
    skipGaps (c :: rest) = c :: rest := by
  simp [skipGaps, h]

theorem quote_append (s : String) (rest : List Char) :
    quote s ++ rest = '"' :: (s.toList.flatMap escapeChar ++ '"' :: rest) := by
  simp [quote]

theorem value?_quote (s : String) (fuel depth : Nat) (rest : List Char) :
    value? (fuel + 1) depth (quote s ++ rest) = some (string s, rest) := by
  rw [quote_append, value?, skipGaps_cons (by decide)]
  simp only [readString_quoted, Option.map_some, String.ofList_toList]

theorem members?_comma (key s : String) (fuel depth : Nat) (done : Entries Json)
    (rest : List Char) :
    members? (fuel + 2) depth done (quote key ++ ':' :: (quote s ++ ',' :: rest)) =
      members? (fuel + 1) depth (done.put key (string s)) rest := by
  rw [quote_append, members?, skipGaps_cons (by decide)]
  simp only [readString_quoted, Option.bind_eq_bind, Option.bind_some]
  rw [skipGaps_cons (by decide)]
  simp only [value?_quote, Option.bind_some, String.ofList_toList]
  rw [skipGaps_cons (by decide)]
  rfl

theorem members?_brace (key s : String) (fuel depth : Nat) (done : Entries Json)
    (rest : List Char) :
    members? (fuel + 2) depth done (quote key ++ ':' :: (quote s ++ '}' :: rest)) =
      some (done.put key (string s), rest) := by
  rw [quote_append, members?, skipGaps_cons (by decide)]
  simp only [readString_quoted, Option.bind_eq_bind, Option.bind_some]
  rw [skipGaps_cons (by decide)]
  simp only [value?_quote, Option.bind_some, String.ofList_toList]
  rw [skipGaps_cons (by decide)]
  rfl

def strings (fields : Entries String) : Entries Json := fields.map fun p => (p.1, string p.2)

/-- What members with distinct names print is read back, put to those read before. -/
theorem members?_strings (fields : Entries String) (some_ : fields ≠ []) (depth : Nat)
    (done : Entries Json) (distinct : (done.keys ++ fields.keys).Nodup) {fuel : Nat}
    (enough : fields.length < fuel) (rest : List Char) :
    members? fuel depth done (commas (renderFields (strings fields)) ++ '}' :: rest) =
      some (done ++ strings fields, rest) := by
  induction fields generalizing done fuel with
  | nil => exact absurd rfl some_
  | cons p fields ih =>
    obtain ⟨key, s⟩ := p
    obtain ⟨fuel, rfl⟩ : ∃ n, fuel = n + 2 := ⟨fuel - 2, by simp at enough; omega⟩
    have fresh : key ∉ done.keys := by
      intro known
      have apart := (List.nodup_append.mp distinct).2.2 key known key
      simp [Entries.keys] at apart
    have last : done.put key (string s) = done ++ [(key, string s)] := Entries.put_of_notMem fresh
    cases fields with
    | nil =>
      have first := members?_brace key s fuel depth done rest
      rw [last] at first
      simpa [strings, renderFields, commas, render] using first
    | cons q fields =>
      have first := members?_comma key s fuel depth done
        (commas (renderFields (strings (q :: fields))) ++ '}' :: rest)
      have distinct' : (Entries.keys (done ++ [(key, string s)]) ++
          Entries.keys (q :: fields)).Nodup := by
        simpa [Entries.keys] using distinct
      have enough' : (q :: fields).length < fuel + 1 := by simpa using enough
      have others := ih (by simp) (done ++ [(key, string s)]) distinct' enough'
      rw [last, others] at first
      simpa [strings, renderFields, commas, render] using first

theorem length_commas (pieces : List (List Char)) :
    pieces.length ≤ (commas pieces).length + 1 := by
  induction pieces with
  | nil => simp
  | cons x rest ih =>
    cases rest with
    | nil => simp
    | cons y rest =>
      simp only [commas, List.length_append, List.length_cons] at ih ⊢
      omega

theorem length_renderFields (fields : List (String × Json)) :
    (renderFields fields).length = fields.length := by
  induction fields with
  | nil => rfl
  | cons p rest ih => simp [renderFields, ih]

theorem exists_commas (fields : Entries String) (some_ : fields ≠ []) :
    ∃ text, commas (renderFields (strings fields)) = '"' :: text := by
  cases fields with
  | nil => exact absurd rfl some_
  | cons p fields =>
    cases fields <;> simp [strings, renderFields, commas, quote]

theorem value?_strings {fields : Entries String} (some_ : fields ≠ [])
    (distinct : fields.keys.Nodup) {fuel : Nat} (enough : fields.length < fuel) (depth : Nat)
    (rest : List Char) :
    value? (fuel + 1) (depth + 1) ('{' :: (commas (renderFields (strings fields)) ++ '}' :: rest)) =
      some (object (strings fields), rest) := by
  obtain ⟨text, quoted⟩ := exists_commas fields some_
  have read := members?_strings fields some_ depth [] distinct enough rest
  rw [quoted, List.cons_append, List.nil_append] at read
  rw [quoted, List.cons_append, value?, skipGaps_cons (by decide)]
  simp [skipGaps_cons (c := '"') (by decide), read]

/-- The text of an object of texts with distinct names reads as that object. -/
theorem readList?_strings {fields : Entries String} (distinct : fields.keys.Nodup) :
    readList? (render (object (strings fields))) = some (object (strings fields)) := by
  by_cases some_ : fields = []
  · subst some_
    rfl
  · have whole : render (object (strings fields)) =
        '{' :: (commas (renderFields (strings fields)) ++ ['}']) := by simp [render]
    have enough : fields.length < 2 * (render (object (strings fields))).length + 1 := by
      have long := length_commas (renderFields (strings fields))
      rw [length_renderFields, strings, List.length_map] at long
      rw [whole, List.length_cons, List.length_append, strings]
      omega
    have read := value?_strings some_ distinct enough 126 []
    rw [← whole] at read
    rw [readList?, depthLimit, read]
    rfl

end ContainerWatch.Json
