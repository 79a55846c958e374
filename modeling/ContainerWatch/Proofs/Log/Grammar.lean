import ContainerWatch.Log.Logfmt
import ContainerWatch.Proofs.Entries

/-!
The grammar of lines of pairs, and what the reader makes of it. A line is a sequence of items, the
last of which the end of the text may close. A text is read exactly if it is such a line; otherwise
the items that it begins with, as many as there are, lead to the one place that is wrong.
-/

namespace ContainerWatch.Log.Logfmt

/-! ### The grammar -/

structure IsKey (k : List Char) : Prop where
  some_ : k ≠ []
  plain : ∀ c ∈ k, c ≠ '=' ∧ c ≠ ' '

/-- Characters among which `stop` does not stand by itself, and what they denote. -/
inductive Body (stop : Char) : List Char → List Char → Prop
  | nil : Body stop [] []
  | plain {c text value} (other : c ≠ stop) (bare : c ≠ '\\') (h : Body stop text value) :
    Body stop (c :: text) (c :: value)
  | escaped {c text value} (h : Body stop text value) : Body stop ('\\' :: c :: text) (c :: value)

/-- A value without quotes around it, and what it denotes. -/
structure IsBare (text value : List Char) : Prop where
  body : Body ' ' text value
  unquoted : text.head? ≠ some '"'

inductive Item : List Char → List Pair → Prop
  | blank : Item [' '] []
  | bare {k text value} (key : IsKey k) (h : IsBare text value) :
    Item (k ++ '=' :: (text ++ [' '])) [(k, value)]
  | quoted {k text value} (key : IsKey k) (h : Body '"' text value) :
    Item (k ++ '=' :: '"' :: (text ++ ['"'])) [(k, value)]

inductive Items : List Char → List Pair → Prop
  | nil : Items [] []
  | cons {t rest ps qs} (first : Item t ps) (h : Items rest qs) : Items (t ++ rest) (ps ++ qs)

/-- What may stand after the items of a line: nothing, or a value without quotes that the end of the
text closes, perhaps with a backslash that denotes nothing. -/
inductive Last : List Char → List Pair → Prop
  | nothing : Last [] []
  | bare {k text value} (key : IsKey k) (h : IsBare text value) :
    Last (k ++ '=' :: text) [(k, value)]
  | backslash {k text value} (key : IsKey k) (h : IsBare text value) :
    Last (k ++ '=' :: (text ++ ['\\'])) [(k, value)]

/-- A line, with the pairs that it gives. -/
inductive Line : List Char → List Pair → Prop
  | mk {done rest ps qs} (items : Items done ps) (last : Last rest qs) :
    Line (done ++ rest) (ps ++ qs)

/-- What stands after the items of a text that is no line, and what is wrong with it. -/
inductive Broken : Fault → List Char → Prop
  | emptyKey (rest : List Char) : Broken .emptyKey ('=' :: rest)
  | spaceInKey {k} (key : IsKey k) (rest : List Char) : Broken .spaceInKey (k ++ ' ' :: rest)
  | danglingKey {k} (key : IsKey k) : Broken .danglingKey k
  | unterminatedQuote {k text value} (key : IsKey k) (h : Body '"' text value) {left : List Char}
    (cut : left = [] ∨ left = ['\\']) :
    Broken .unterminatedQuote (k ++ '=' :: '"' :: (text ++ left))

/-- The longest beginning of a text that consists of items. -/
structure IsLongest (done cs : List Char) : Prop where
  starts : done <+: cs
  items : ∃ ps, Items done ps
  longest : ∀ other ps, Items other ps → other <+: cs → other <+: done

/-! ### Reading what the grammar describes -/

section Reading

variable {k text value t done rest : List Char} {ps qs : List Pair} {name : List Char}

theorem scan_plain (plain : ∀ c ∈ k, c ≠ '=' ∧ c ≠ ' ') (done rest : List Char) :
    scan (.key done) (k ++ rest) = scan (.key (k.reverse ++ done)) rest := by
  induction k generalizing done with
  | nil => rfl
  | cons c k ih =>
    obtain ⟨equals, blank⟩ := plain c (by simp)
    have := ih (fun d hd => plain d (by simp [hd])) (c :: done)
    simpa [scan, Mode.step, equals, blank] using this

theorem scan_key (key : IsKey k) :
    scan (.key []) (k ++ '=' :: rest) = scan (.value k.reverse [] false) rest := by
  rw [scan_plain key.plain, List.append_nil]
  simp [scan, Mode.step, key.some_]

theorem scan_value (h : Body ' ' text value) (done : List Char)
    (late : done ≠ [] ∨ text.head? ≠ some '"') :
    scan (.value name done false) (text ++ rest) =
      scan (.value name (value.reverse ++ done) false) rest := by
  induction h generalizing done with
  | nil => rfl
  | @plain c text value other bare h ih =>
    have unquoted : ¬ (c = '"' ∧ done = []) := by
      rintro ⟨rfl, rfl⟩
      simp at late
    have := ih (c :: done) (by simp)
    simpa [scan, Mode.step, other, bare, unquoted] using this
  | @escaped c text value h ih =>
    have := ih (c :: done) (by simp)
    simpa [scan, Mode.step] using this

theorem scan_quoted (h : Body '"' text value) (done : List Char) :
    scan (.quoted name done false) (text ++ rest) =
      scan (.quoted name (value.reverse ++ done) false) rest := by
  induction h generalizing done with
  | nil => rfl
  | @plain c text value other bare h ih =>
    simpa [scan, Mode.step, other, bare] using ih (c :: done)
  | @escaped c text value h ih => simpa [scan, Mode.step] using ih (c :: done)

theorem scan_bare (key : IsKey k) (h : IsBare text value) (rest : List Char) :
    scan (.key []) (k ++ '=' :: (text ++ rest)) =
      scan (.value k.reverse value.reverse false) rest := by
  rw [scan_key key, scan_value h.body [] (Or.inr h.unquoted), List.append_nil]

theorem scan_quote (key : IsKey k) (h : Body '"' text value) :
    scan (.key []) (k ++ '=' :: '"' :: (text ++ rest)) =
      scan (.quoted k.reverse value.reverse false) rest := by
  have opened : scan (.value k.reverse [] false) ('"' :: (text ++ rest)) =
      scan (.quoted k.reverse [] false) (text ++ rest) := by simp [scan, Mode.step]
  rw [scan_key key, opened, scan_quoted h [], List.append_nil]

theorem scan_item (h : Item t ps) :
    scan (.key []) (t ++ rest) = (scan (.key []) rest).map (ps ++ ·) := by
  cases h with
  | blank =>
    have hs : scan (.key []) ([' '] ++ rest) = scan (.key []) rest := by simp [scan, Mode.step]
    rw [hs]
    cases scan (.key []) rest <;> rfl
  | bare key h =>
    rw [List.append_assoc, List.cons_append, List.append_assoc, scan_bare key h]
    simp [scan, Mode.step, pair]
  | quoted key h =>
    rw [List.append_assoc, List.cons_append, List.cons_append, List.append_assoc, scan_quote key h]
    simp [scan, Mode.step, pair]

theorem scan_items (h : Items t ps) :
    scan (.key []) (t ++ rest) = (scan (.key []) rest).map (ps ++ ·) := by
  induction h with
  | nil =>
    rw [List.nil_append]
    cases scan (.key []) rest <;> rfl
  | @cons t' rest' ps qs first h ih =>
    rw [List.append_assoc, scan_item first, ih]
    cases scan (.key []) rest <;> simp [Except.map]

theorem scan_last (h : Last rest qs) : scan (.key []) rest = .ok qs := by
  cases h with
  | nothing => rfl
  | bare key h =>
    have hs := scan_bare key h []
    rw [List.append_nil] at hs
    simp [hs, scan, Mode.close, pair]
  | backslash key h =>
    rw [scan_bare key h]
    simp [scan, Mode.step, Mode.close, pair]

theorem scan_broken {e : Fault} (h : Broken e rest) : scan (.key []) rest = .error e := by
  cases h with
  | emptyKey => rfl
  | spaceInKey key rest =>
    rw [scan_plain key.plain, List.append_nil]
    simp [scan, Mode.step, key.some_]
  | danglingKey key =>
    have hs := scan_plain key.plain [] []
    rw [List.append_nil, List.append_nil] at hs
    rw [hs, scan]
    cases hr : rest.reverse with
    | nil => exact absurd (by simpa using hr) key.some_
    | cons c cs => rfl
  | unterminatedQuote key h cut =>
    rw [scan_quote key h]
    rcases cut with rfl | rfl
    · rfl
    · rfl

end Reading

/-! ### Every text is described -/

/-- What follows the characters of a value: the end of the text, a backslash there, or what closes
the value. -/
def Stops (stop : Char) (left : List Char) : Prop :=
  left = [] ∨ left = ['\\'] ∨ ∃ rest, left = stop :: rest

theorem exists_body (stop : Char) (s : List Char) :
    ∃ text value left, Body stop text value ∧ s = text ++ left ∧ Stops stop left := by
  match s with
  | [] => exact ⟨[], [], [], .nil, rfl, Or.inl rfl⟩
  | [c] =>
    by_cases stops : c = stop
    · exact ⟨[], [], [c], .nil, rfl, Or.inr (Or.inr ⟨[], by rw [stops]⟩)⟩
    · by_cases escapes : c = '\\'
      · exact ⟨[], [], [c], .nil, rfl, Or.inr (Or.inl (by rw [escapes]))⟩
      · exact ⟨[c], [c], [], .plain stops escapes .nil, rfl, Or.inl rfl⟩
  | c :: d :: s =>
    by_cases stops : c = stop
    · exact ⟨[], [], c :: d :: s, .nil, rfl, Or.inr (Or.inr ⟨d :: s, by rw [stops]⟩)⟩
    · by_cases escapes : c = '\\'
      · obtain ⟨text, value, left, h, hs, hl⟩ := exists_body stop s
        exact ⟨'\\' :: d :: text, d :: value, left, .escaped h, by simp [escapes, hs], hl⟩
      · obtain ⟨text, value, left, h, hs, hl⟩ := exists_body stop (d :: s)
        exact ⟨c :: text, c :: value, left, .plain stops escapes h, by simp [hs], hl⟩

theorem exists_plain (s : List Char) : ∃ k left, s = k ++ left ∧ (∀ c ∈ k, c ≠ '=' ∧ c ≠ ' ') ∧
    (left = [] ∨ (∃ rest, left = '=' :: rest) ∨ ∃ rest, left = ' ' :: rest) := by
  induction s with
  | nil => exact ⟨[], [], rfl, by simp, Or.inl rfl⟩
  | cons c s ih =>
    by_cases equals : c = '='
    · exact ⟨[], c :: s, rfl, by simp, Or.inr (Or.inl ⟨s, by rw [equals]⟩)⟩
    · by_cases blank : c = ' '
      · exact ⟨[], c :: s, rfl, by simp, Or.inr (Or.inr ⟨s, by rw [blank]⟩)⟩
      · obtain ⟨k, left, hs, plain, hl⟩ := ih
        exact ⟨c :: k, left, by simp [hs], by simp [equals, blank]; exact plain, hl⟩

/-- A text at the place where an item may begin: it has none, and either ends well or is broken. -/
def Ends (s : List Char) : Prop := (∃ qs, Last s qs) ∨ ∃ e, Broken e s

theorem exists_item_of_key {k : List Char} (key : IsKey k) (s : List Char) :
    (∃ t ps rest, Item t ps ∧ k ++ '=' :: s = t ++ rest) ∨ Ends (k ++ '=' :: s) := by
  by_cases quoted : s.head? = some '"'
  · obtain ⟨s, rfl⟩ : ∃ r, s = '"' :: r := by
      cases s with
      | nil => simp at quoted
      | cons c r => exact ⟨r, by simpa using quoted⟩
    obtain ⟨text, value, left, h, rfl, rfl | rfl | ⟨rest, rfl⟩⟩ := exists_body '"' s
    · exact Or.inr (Or.inr ⟨_, .unterminatedQuote key h (Or.inl rfl)⟩)
    · exact Or.inr (Or.inr ⟨_, .unterminatedQuote key h (Or.inr rfl)⟩)
    · exact Or.inl ⟨_, _, rest, .quoted key h, by simp⟩
  · obtain ⟨text, value, left, h, rfl, hl⟩ := exists_body ' ' s
    have bare : IsBare text value := by
      refine ⟨h, ?_⟩
      cases text with
      | nil => simp
      | cons c text => simpa using quoted
    rcases hl with rfl | rfl | ⟨rest, rfl⟩
    · exact Or.inr (Or.inl ⟨_, by rw [List.append_nil]; exact .bare key bare⟩)
    · exact Or.inr (Or.inl ⟨_, .backslash key bare⟩)
    · exact Or.inl ⟨_, _, rest, .bare key bare, by simp⟩

theorem exists_item (s : List Char) : (∃ t ps rest, Item t ps ∧ s = t ++ rest) ∨ Ends s := by
  obtain ⟨k, left, rfl, plain, hl⟩ := exists_plain s
  cases k with
  | nil =>
    rcases hl with rfl | ⟨rest, rfl⟩ | ⟨rest, rfl⟩
    · exact Or.inr (Or.inl ⟨_, .nothing⟩)
    · exact Or.inr (Or.inr ⟨_, .emptyKey rest⟩)
    · exact Or.inl ⟨_, _, rest, .blank, rfl⟩
  | cons c k =>
    have key : IsKey (c :: k) := ⟨by simp, plain⟩
    rcases hl with rfl | ⟨rest, rfl⟩ | ⟨rest, rfl⟩
    · exact Or.inr (Or.inr ⟨_, by rw [List.append_nil]; exact .danglingKey key⟩)
    · exact exists_item_of_key key rest
    · exact Or.inr (Or.inr ⟨_, .spaceInKey key rest⟩)

theorem Item.length_pos {t : List Char} {ps : List Pair} (h : Item t ps) : 0 < t.length := by
  cases h <;> simp only [List.length_append, List.length_cons] <;> omega

theorem exists_items (s : List Char) :
    ∃ done rest ps, s = done ++ rest ∧ Items done ps ∧ Ends rest := by
  rcases exists_item s with ⟨t, ps, rest, item, hs⟩ | ends
  · have shorter : rest.length < s.length := by
      have := item.length_pos
      rw [hs, List.length_append]
      omega
    obtain ⟨done, left, qs, hr, items, ends⟩ := exists_items rest
    exact ⟨t ++ done, left, ps ++ qs, by rw [hs, hr, List.append_assoc], .cons item items, ends⟩
  · exact ⟨[], s, [], rfl, .nil, ends⟩
termination_by s.length

/-! ### The description is unique -/

theorem plain_inj {k k' left left' : List Char} (plain : ∀ c ∈ k, c ≠ '=' ∧ c ≠ ' ')
    (plain' : ∀ c ∈ k', c ≠ '=' ∧ c ≠ ' ') (stops : ∀ c ∈ left.head?, c = '=' ∨ c = ' ')
    (stops' : ∀ c ∈ left'.head?, c = '=' ∨ c = ' ') (h : k ++ left = k' ++ left') :
    k = k' ∧ left = left' := by
  induction k generalizing k' with
  | nil =>
    cases k' with
    | nil => exact ⟨rfl, h⟩
    | cons c k' =>
      obtain ⟨equals, blank⟩ := plain' c (by simp)
      have := stops c (by simp [show left = c :: (k' ++ left') from h])
      simp [equals, blank] at this
  | cons c k ih =>
    obtain ⟨equals, blank⟩ := plain c (by simp)
    cases k' with
    | nil =>
      have := stops' c (by simp [← show c :: (k ++ left) = left' from h])
      simp [equals, blank] at this
    | cons d k' =>
      obtain ⟨rfl, ht⟩ := List.cons.inj h
      obtain ⟨rfl, rfl⟩ := ih (fun d hd => plain d (by simp [hd]))
        (fun d hd => plain' d (by simp [hd])) ht
      exact ⟨rfl, rfl⟩

theorem Body.eq_nil {stop : Char} {text value left rest : List Char} (h : Body stop text value)
    (other : stop ≠ '\\') (stops : Stops stop left) (same : left = text ++ rest) : text = [] := by
  cases h with
  | nil => rfl
  | plain other' bare h =>
    rcases stops with rfl | rfl | ⟨left, rfl⟩
    · simp at same
    · exact absurd (List.cons.inj same).1.symm bare
    · exact absurd (List.cons.inj same).1.symm other'
  | escaped h =>
    rcases stops with rfl | rfl | ⟨left, rfl⟩
    · simp at same
    · simp at same
    · exact absurd (List.cons.inj same).1 other

theorem body_inj {stop : Char} (other : stop ≠ '\\')
    {text text' value value' left left' : List Char} (h : Body stop text value) (h' : Body stop text' value') (stops : Stops stop left)
    (stops' : Stops stop left') (same : text ++ left = text' ++ left') : left = left' := by
  induction h generalizing text' value' with
  | nil =>
    obtain rfl := h'.eq_nil other stops same
    exact same
  | @plain c text value other' bare h ih =>
    cases h' with
    | nil => exact absurd ((h.plain other' bare).eq_nil other stops' same.symm) (by simp)
    | plain _ _ h' => exact ih h' (List.cons.inj same).2
    | escaped h' => exact absurd (List.cons.inj same).1 bare
  | @escaped c text value h ih =>
    cases h' with
    | nil => exact absurd (h.escaped.eq_nil other stops' same.symm) (by simp)
    | plain _ bare' h' => exact absurd (List.cons.inj same).1.symm bare'
    | escaped h' => exact ih h' (List.cons.inj (List.cons.inj same).2).2

inductive Follows : List Char → List Char → Prop
  | bare {text value left} (h : IsBare text value) (stops : Stops ' ' left) :
    Follows (text ++ left) left
  | quoted {text value left} (h : Body '"' text value) (stops : Stops '"' left) :
    Follows ('"' :: (text ++ left)) left

theorem IsBare.ne_quoted {text value left rest : List Char} (h : IsBare text value)
    (stops : Stops ' ' left) : text ++ left ≠ '"' :: rest := by
  intro same
  cases text with
  | nil => rcases stops with rfl | rfl | ⟨left, rfl⟩ <;> simp at same
  | cons c text => exact h.unquoted (by simp [(List.cons.inj same).1])

theorem Follows.inj {v v' left left' : List Char} (h : Follows v left) (h' : Follows v' left')
    (same : v = v') : left = left' := by
  cases h with
  | bare h stops =>
    cases h' with
    | bare h' stops' => exact body_inj (by decide) h.body h'.body stops stops' same
    | quoted h' stops' => exact absurd same (h.ne_quoted stops)
  | quoted h stops =>
    cases h' with
    | bare h' stops' => exact absurd same.symm (h'.ne_quoted stops')
    | quoted h' stops' => exact body_inj (by decide) h h' stops stops' (List.cons.inj same).2

/-- How a text looks that begins with an item: it has a blank, or a key and a value that is
closed. -/
theorem Item.looks {t : List Char} {ps : List Pair} (h : Item t ps) (rest : List Char) :
    t ++ rest = ' ' :: rest ∨ ∃ k v c, IsKey k ∧ t ++ rest = k ++ '=' :: v ∧
      Follows v (c :: rest) ∧ c ≠ '\\' := by
  cases h with
  | blank => exact Or.inl rfl
  | @bare k text value key h =>
    exact Or.inr ⟨k, text ++ ' ' :: rest, ' ', key, by simp, .bare h (Or.inr (Or.inr ⟨rest, rfl⟩)),
      by decide⟩
  | @quoted k text value key h =>
    exact Or.inr ⟨k, '"' :: (text ++ '"' :: rest), '"', key, by simp,
      .quoted h (Or.inr (Or.inr ⟨rest, rfl⟩)), by decide⟩

/-- How a text looks that has no item at its beginning: there is no key with an equals sign, or the
value is open. -/
theorem Ends.looks {s : List Char} (h : Ends s) :
    (∃ k left, s = k ++ left ∧ (∀ c ∈ k, c ≠ '=' ∧ c ≠ ' ') ∧
      (left = [] ∨ (k ≠ [] ∧ left.head? = some ' ') ∨ k = [] ∧ left.head? = some '=')) ∨
    ∃ k v left, IsKey k ∧ s = k ++ '=' :: v ∧ Follows v left ∧ (left = [] ∨ left = ['\\']) := by
  rcases h with ⟨qs, last⟩ | ⟨e, broken⟩
  · cases last with
    | nothing => exact Or.inl ⟨[], [], rfl, by simp, Or.inl rfl⟩
    | @bare k text value key h =>
      exact Or.inr ⟨k, text ++ [], [], key, by simp, .bare h (Or.inl rfl), Or.inl rfl⟩
    | @backslash k text value key h =>
      exact Or.inr ⟨k, _, ['\\'], key, rfl, .bare h (Or.inr (Or.inl rfl)), Or.inr rfl⟩
  · cases broken with
    | emptyKey rest => exact Or.inl ⟨[], _, rfl, by simp, Or.inr (Or.inr ⟨rfl, rfl⟩)⟩
    | @spaceInKey k key rest =>
      exact Or.inl ⟨k, _, rfl, key.plain, Or.inr (Or.inl ⟨key.some_, rfl⟩)⟩
    | danglingKey key => exact Or.inl ⟨s, [], by simp, key.plain, Or.inl rfl⟩
    | @unterminatedQuote k text value key h left cut =>
      exact Or.inr ⟨k, _, left, key, rfl, .quoted h (cut.imp_right Or.inl), cut⟩

theorem IsKey.inj {k k' v v' : List Char} (key : IsKey k) (key' : IsKey k')
    (same : k ++ '=' :: v = k' ++ '=' :: v') : v = v' :=
  (List.cons.inj (plain_inj key.plain key'.plain (by simp) (by simp) same).2).2

theorem IsKey.ne_blank {k left rest : List Char} (key : IsKey k) : k ++ left ≠ ' ' :: rest := by
  intro same
  cases k with
  | nil => exact key.some_ rfl
  | cons c k => exact (key.plain c (by simp)).2 (List.cons.inj same).1

theorem Item.inj {t t' rest rest' : List Char} {ps ps' : List Pair} (h : Item t ps)
    (h' : Item t' ps') (same : t ++ rest = t' ++ rest') : rest = rest' := by
  rcases h.looks rest with hs | ⟨k, v, c, key, hs, follows, -⟩
  · rcases h'.looks rest' with hs' | ⟨k', v', c', key', hs', follows', -⟩
    · exact (List.cons.inj (hs.symm.trans (same.trans hs'))).2
    · exact absurd (hs'.symm.trans (same.symm.trans hs)) key'.ne_blank
  · rcases h'.looks rest' with hs' | ⟨k', v', c', key', hs', follows', -⟩
    · exact absurd (hs.symm.trans (same.trans hs')) key.ne_blank
    · have hv := key.inj key' (hs.symm.trans (same.trans hs'))
      exact (List.cons.inj (follows.inj follows' hv)).2

theorem Ends.ne_item {s t rest : List Char} {ps : List Pair} (h : Ends s) (item : Item t ps) :
    s ≠ t ++ rest := by
  intro same
  rcases h.looks with ⟨k, left, hs, plain, hl⟩ | ⟨k, v, left, key, hs, follows, hl⟩
  · have stops : ∀ c ∈ left.head?, c = '=' ∨ c = ' ' := by
      rcases hl with rfl | ⟨-, hl⟩ | ⟨-, hl⟩ <;> simp_all
    rcases item.looks rest with ht | ⟨k', v', c', key', ht, -, -⟩
    · have hb : k ++ left = [] ++ ' ' :: rest := hs.symm.trans (same.trans ht)
      obtain ⟨rfl, rfl⟩ := plain_inj plain (by simp) stops (by simp) hb
      simp at hl
    · obtain ⟨rfl, rfl⟩ := plain_inj plain key'.plain stops (by simp)
        (hs.symm.trans (same.trans ht))
      simp [key'.some_] at hl
  · rcases item.looks rest with ht | ⟨k', v', c', key', ht, follows', bare⟩
    · exact key.ne_blank (hs.symm.trans (same.trans ht))
    · have hv := key.inj key' (hs.symm.trans (same.trans ht))
      obtain rfl := follows.inj follows' hv
      simp [bare] at hl

/-- The items before the end of a text are the longest beginning of it that consists of items. -/
theorem isLongest_of_ends {done rest : List Char} {ps : List Pair} (items : Items done ps)
    (ends : Ends rest) : IsLongest done (done ++ rest) := by
  refine ⟨List.prefix_append _ _, ⟨ps, items⟩, ?_⟩
  rintro other qs others ⟨left, same⟩
  induction items generalizing other qs with
  | nil =>
    cases others with
    | nil => exact List.nil_prefix
    | cons first others =>
      rw [List.append_assoc] at same
      exact absurd same.symm (ends.ne_item first)
  | @cons t done ps qs' first items ih =>
    cases others with
    | nil => exact List.nil_prefix
    | @cons t' other ps' qs first' others =>
      rw [List.append_assoc, List.append_assoc] at same
      have hr := first'.inj first same
      obtain rfl : t' = t := List.append_cancel_right (hr ▸ same)
      exact (List.prefix_append_right_inj t').mpr (ih _ _ others hr)

/-! ### The reader -/

def texts (ps : List Pair) : List (String × String) :=
  ps.map fun p => (String.ofList p.1, String.ofList p.2)

theorem pairs_eq_ok_iff (cs : List Char) (ps : List Pair) : pairs cs = .ok ps ↔ Line cs ps := by
  constructor
  · intro read
    obtain ⟨done, rest, qs, rfl, items, ⟨rs, last⟩ | ⟨e, broken⟩⟩ := exists_items cs
    · rw [pairs, scan_items items, scan_last last] at read
      exact Except.ok.inj read ▸ .mk items last
    · rw [pairs, scan_items items, scan_broken broken] at read
      simp [Except.map] at read
  · rintro ⟨items, last⟩
    rw [pairs, scan_items items, scan_last last]
    rfl

theorem pairs_eq_error_iff (cs : List Char) (e : Fault) : pairs cs = .error e ↔
    ∃ done rest, cs = done ++ rest ∧ IsLongest done cs ∧ Broken e rest := by
  constructor
  · intro refused
    obtain ⟨done, rest, qs, rfl, items, ends⟩ := exists_items cs
    refine ⟨done, rest, rfl, isLongest_of_ends items ends, ?_⟩
    rcases ends with ⟨rs, last⟩ | ⟨e', broken⟩
    · rw [pairs, scan_items items, scan_last last] at refused
      simp [Except.map] at refused
    · rw [pairs, scan_items items, scan_broken broken] at refused
      exact Except.error.inj refused ▸ broken
  · rintro ⟨done, rest, rfl, longest, broken⟩
    obtain ⟨ps, items⟩ := longest.items
    rw [pairs, scan_items items, scan_broken broken]
    rfl

/-- What putting pairs in one by one leaves: a repeated name keeps its first place and has its last
value. -/
structure Collects (ps : List (String × String)) (m : Entries String) : Prop where
  put : m = Entries.ofPairs ps
  places : m.keys = (ps.map Prod.fst).eraseDups
  values : ∀ name, m.get? name = Entries.get? name ps.reverse

theorem collects_iff (ps : List (String × String)) (m : Entries String) :
    Collects ps m ↔ m = Entries.ofPairs ps := by
  constructor
  · exact fun h => h.put
  · rintro rfl
    exact ⟨rfl, Entries.keys_ofPairs ps, Entries.get?_ofPairs ps⟩

/-- A text reads as fields exactly if it is a line, and the fields are those that its pairs leave.
It is refused exactly if the items that it begins with are followed by what is broken, and that
decides the fault. -/
theorem read_eq_iff (cs : List Char) :
    (∀ m, read cs = .ok m ↔ ∃ ps, Line cs ps ∧ Collects (texts ps) m) ∧
      ∀ e, read cs = .error e ↔
        ∃ done rest, cs = done ++ rest ∧ IsLongest done cs ∧ Broken e rest := by
  have accepted := pairs_eq_ok_iff cs
  have refused := pairs_eq_error_iff cs
  cases h : pairs cs with
  | ok ps =>
    have same : read cs = .ok (Entries.ofPairs (texts ps)) := by
      rw [read, h]
      rfl
    refine ⟨fun m => ?_, fun e => ?_⟩
    · simp only [same, ← accepted, h, Except.ok.injEq, collects_iff]
      constructor
      · rintro rfl
        exact ⟨ps, rfl, rfl⟩
      · rintro ⟨qs, rfl, rfl⟩
        rfl
    · rw [← refused, h, same]
      simp
  | error e' =>
    have same : read cs = .error e' := by
      rw [read, h]
      rfl
    refine ⟨fun m => ?_, fun e => ?_⟩
    · simp [same, ← accepted, h]
    · rw [← refused, h, same]
      simp

end ContainerWatch.Log.Logfmt
