import ContainerWatch.Proofs.Decimal
import ContainerWatch.Proofs.Entries
import ContainerWatch.Proofs.Word
import ContainerWatch.Toml.Reader

/-!
The integers of documents: those that are read, however deep in arrays and tables they stand, are
words of 64 bits, and a word that is not negative is read from its decimal digits.
-/

namespace ContainerWatch.Toml

variable {x : Toml} {fields fields' : Entries Toml} {cs rest : List Char} {name : String}
  {path : List String}

/-- Every integer in a value is a word. -/
inductive IsNarrow : Toml → Prop
  | string (s : String) : IsNarrow (.string s)
  | int {n : Int} (held : Word.Holds n) : IsNarrow (.int n)
  | float (written : String) : IsNarrow (.float written)
  | bool (b : Bool) : IsNarrow (.bool b)
  | time (written : String) : IsNarrow (.time written)
  | array {items : List Toml} (h : ∀ x ∈ items, IsNarrow x) : IsNarrow (.array items)
  | table (form : TableForm) {fields : List (String × Toml)} (h : ∀ p ∈ fields, IsNarrow p.2) :
    IsNarrow (.table form fields)
  | tables {ts : List (List (String × Toml))} (h : ∀ t ∈ ts, ∀ p ∈ t, IsNarrow p.2) :
    IsNarrow (.tables ts)

def AllNarrow (fields : Entries Toml) : Prop := ∀ p ∈ fields, IsNarrow p.2

theorem allNarrow_nil : AllNarrow [] := by simp [AllNarrow]

theorem AllNarrow.get? (h : AllNarrow fields) (found : fields.get? name = some x) : IsNarrow x :=
  h _ (Entries.mem_of_get? found)

theorem AllNarrow.put (h : AllNarrow fields) (narrow : IsNarrow x) (name : String) :
    AllNarrow (fields.put name x) := by
  intro p member
  rcases Entries.mem_put member with rfl | old
  · exact narrow
  · exact h p old

theorem AllNarrow.inner (h : AllNarrow fields) {form : TableForm} {t : Entries Toml}
    (known : fields.get? name = some (.table form t)) : AllNarrow t := by
  cases h.get? known with
  | table _ narrow => exact narrow

theorem AllNarrow.each (h : AllNarrow fields) {ts : List (Entries Toml)}
    (known : fields.get? name = some (.tables ts)) : ∀ t ∈ ts, AllNarrow t := by
  cases h.get? known with
  | tables narrow => exact narrow

/-! ### Tables that are built -/

theorem isNarrow_last {ts : List (Entries Toml)} (h : ∀ t ∈ ts, AllNarrow t) {t : Entries Toml}
    (narrow : AllNarrow t) : IsNarrow (.tables (ts.dropLast ++ [t])) := by
  refine .tables fun u member => ?_
  rcases List.mem_append.mp member with old | last
  · exact h u ((List.dropLast_sublist ts).subset old)
  · exact List.mem_singleton.mp last ▸ narrow

theorem AllNarrow.within {f : Entries Toml → Option (Entries Toml)}
    (keeps : ∀ t t', AllNarrow t → f t = some t' → AllNarrow t') (h : AllNarrow fields)
    (made : within f path fields = some fields') : AllNarrow fields' := by
  fun_induction Toml.within f path fields generalizing fields' with
  | case1 fields => exact keeps fields fields' h made
  | case2 name path fields new ih =>
    obtain ⟨t, inner, rfl⟩ := Option.map_eq_some_iff.mp made
    exact h.put (.table _ (ih allNarrow_nil inner)) name
  | case3 => cases made
  | case4 name path fields form t open_ known ih =>
    obtain ⟨t', inner, rfl⟩ := Option.map_eq_some_iff.mp made
    exact h.put (.table _ (ih (h.inner known) inner)) name
  | case5 name path fields ts known t last ih =>
    obtain ⟨t', inner, rfl⟩ := Option.map_eq_some_iff.mp made
    have old : AllNarrow t := h.each known t (List.mem_of_getLast? last)
    exact h.put (isNarrow_last (h.each known) (ih old inner)) name
  | case6 => cases made
  | case7 => cases made

theorem AllNarrow.assign (h : AllNarrow fields) (narrow : IsNarrow x)
    (made : assign x path fields = some fields') : AllNarrow fields' := by
  fun_induction Toml.assign x path fields generalizing fields' with
  | case1 => cases made
  | case2 => cases made
  | case3 name fields new =>
    obtain rfl := Option.some.inj made
    exact h.put narrow name
  | case4 name next path fields new ih =>
    obtain ⟨t, inner, rfl⟩ := Option.map_eq_some_iff.mp made
    exact h.put (.table _ (ih allNarrow_nil inner)) name
  | case5 name next path fields t known ih =>
    obtain ⟨t', inner, rfl⟩ := Option.map_eq_some_iff.mp made
    exact h.put (.table _ (ih (h.inner known) inner)) name
  | case6 => cases made
  | case7 name next path fields t known more ih =>
    obtain ⟨t', inner, rfl⟩ := Option.map_eq_some_iff.mp made
    exact h.put (.table _ (ih (h.inner known) inner)) name
  | case8 name next fields ts known after path t last ih =>
    obtain ⟨t', inner, rfl⟩ := Option.map_eq_some_iff.mp made
    have old : AllNarrow t := h.each known t (List.mem_of_getLast? last)
    exact h.put (isNarrow_last (h.each known) (ih old inner)) name
  | case9 => cases made
  | case10 => cases made

theorem AllNarrow.openTable (h : AllNarrow fields)
    (made : openTable name fields = some fields') : AllNarrow fields' := by
  unfold Toml.openTable at made
  split at made
  · obtain rfl := Option.some.inj made
    exact h.put (.table _ allNarrow_nil) name
  · next t known =>
    obtain rfl := Option.some.inj made
    exact h.put (.table _ (h.inner known)) name
  · cases made

theorem AllNarrow.openRepeated (h : AllNarrow fields)
    (made : openRepeated name fields = some fields') : AllNarrow fields' := by
  unfold Toml.openRepeated at made
  split at made
  · obtain rfl := Option.some.inj made
    have before : ∀ t ∈ ([] : List (Entries Toml)), AllNarrow t := List.forall_mem_nil _
    exact h.put (isNarrow_last before allNarrow_nil) name
  · next ts known =>
    obtain rfl := Option.some.inj made
    refine h.put (.tables fun t member => ?_) name
    rcases List.mem_append.mp member with old | new
    · exact h.each known t old
    · exact List.mem_singleton.mp new ▸ allNarrow_nil
  · cases made

/-! ### Values that are read -/

theorem isNarrow_number? (h : number? cs = some (x, rest)) : IsNarrow x := by
  unfold number? at h
  split at h
  · split at h
    · next held =>
      obtain ⟨rfl, -⟩ := Prod.mk.inj (Option.some.inj h)
      exact .int (Word.holds_iff.mpr held)
    · cases h
  · obtain ⟨rfl, -⟩ := Prod.mk.inj (Option.some.inj h)
    exact .float _
  · cases h

theorem isNarrow_time? (h : time? cs = some (x, rest)) : IsNarrow x := by
  obtain ⟨_, -, same⟩ := Option.map_eq_some_iff.mp h
  obtain ⟨rfl, -⟩ := Prod.mk.inj same
  exact .time _

theorem isNarrow_word? {w : String} {b : Bool} (h : word? w (.bool b) cs = some (x, rest)) :
    IsNarrow x := by
  obtain ⟨_, -, same⟩ := Option.map_eq_some_iff.mp h
  obtain ⟨rfl, -⟩ := Prod.mk.inj same
  exact .bool b

theorem isNarrow_scalarValue? (h : scalarValue? cs = some (x, rest)) : IsNarrow x := by
  unfold scalarValue? at h
  split at h
  · cases h
  · split at h
    · obtain ⟨_, -, same⟩ := Option.map_eq_some_iff.mp h
      obtain ⟨rfl, -⟩ := Prod.mk.inj same
      exact .string _
    · split at h
      · exact isNarrow_word? h
      · split at h
        · exact isNarrow_word? h
        · rcases Option.or_eq_some_iff.mp h with time | ⟨-, number⟩
          · exact isNarrow_time? time
          · exact isNarrow_number? number

/-- With some fuel, all that is read is narrow. -/
structure ReadsNarrow (fuel : Nat) : Prop where
  value : ∀ {depth cs x rest}, value? fuel depth cs = some (x, rest) → IsNarrow x
  items : ∀ {depth cs xs rest}, items? fuel depth cs = some (xs, rest) → ∀ x ∈ xs, IsNarrow x
  pairs : ∀ {depth fields cs fields' rest}, AllNarrow fields →
    pairs? fuel depth fields cs = some (fields', rest) → AllNarrow fields'

theorem readsNarrow_zero : ReadsNarrow 0 where
  value h := by cases h
  items h := by cases h
  pairs _ h := by cases h

namespace ReadsNarrow

variable {fuel depth : Nat}

theorem value_succ (reads : ReadsNarrow fuel) (h : value? (fuel + 1) depth cs = some (x, rest)) :
    IsNarrow x := by
  unfold value? at h
  split at h
  · split at h
    · cases h
    · obtain ⟨_, inner, same⟩ := Option.map_eq_some_iff.mp h
      obtain ⟨rfl, -⟩ := Prod.mk.inj same
      exact .array (reads.items inner)
  · split at h
    · cases h
    · split at h
      · obtain ⟨rfl, -⟩ := Prod.mk.inj (Option.some.inj h)
        exact .table _ allNarrow_nil
      · obtain ⟨_, inner, same⟩ := Option.map_eq_some_iff.mp h
        obtain ⟨rfl, -⟩ := Prod.mk.inj same
        exact .table _ (reads.pairs allNarrow_nil inner)
  · exact isNarrow_scalarValue? h

theorem items_succ (reads : ReadsNarrow fuel) {xs : List Toml}
    (h : items? (fuel + 1) depth cs = some (xs, rest)) : ∀ x ∈ xs, IsNarrow x := by
  unfold items? at h
  split at h
  · obtain ⟨rfl, -⟩ := Prod.mk.inj (Option.some.inj h)
    simp
  · obtain ⟨⟨x, _⟩, first, h⟩ := Option.bind_eq_some_iff.mp h
    dsimp only at h
    split at h
    · obtain ⟨⟨more, _⟩, others, h⟩ := Option.bind_eq_some_iff.mp h
      obtain ⟨rfl, -⟩ := Prod.mk.inj (Option.some.inj h)
      exact List.forall_mem_cons.mpr ⟨reads.value first, reads.items others⟩
    · obtain ⟨rfl, -⟩ := Prod.mk.inj (Option.some.inj h)
      exact List.forall_mem_singleton.mpr (reads.value first)
    · cases h

theorem pairs_succ (reads : ReadsNarrow fuel) (narrow : AllNarrow fields)
    (h : pairs? (fuel + 1) depth fields cs = some (fields', rest)) : AllNarrow fields' := by
  unfold pairs? at h
  obtain ⟨⟨names, _⟩, -, h⟩ := Option.bind_eq_some_iff.mp h
  dsimp only at h
  split at h
  · obtain ⟨⟨x, _⟩, read, h⟩ := Option.bind_eq_some_iff.mp h
    obtain ⟨more, assigned, h⟩ := Option.bind_eq_some_iff.mp h
    have narrow' := narrow.assign (reads.value read) assigned
    dsimp only at h
    split at h
    · exact reads.pairs narrow' h
    · obtain ⟨rfl, -⟩ := Prod.mk.inj (Option.some.inj h)
      exact narrow'
    · cases h
  · cases h

end ReadsNarrow

theorem readsNarrow (fuel : Nat) : ReadsNarrow fuel := by
  induction fuel with
  | zero => exact readsNarrow_zero
  | succ fuel ih =>
    exact ⟨ih.value_succ, ih.items_succ, ih.pairs_succ⟩

theorem isNarrow_pair? {names : List String} (h : pair? cs = some (names, x, rest)) :
    IsNarrow x := by
  obtain ⟨⟨_, _⟩, -, h⟩ := Option.bind_eq_some_iff.mp h
  dsimp only at h
  split at h
  · obtain ⟨⟨_, _⟩, read, h⟩ := Option.bind_eq_some_iff.mp h
    obtain ⟨-, same⟩ := Prod.mk.inj (Option.some.inj h)
    obtain ⟨rfl, -⟩ := Prod.mk.inj same
    exact (readsNarrow _).value read
  · cases h

/-! ### Documents -/

namespace Document

variable {d d' : Document}

theorem allNarrow_enter {names : List String} {repeated : Bool} (narrow : AllNarrow d.fields)
    (h : d.enter names repeated = some d') : AllNarrow d'.fields := by
  obtain ⟨last, -, h⟩ := Option.bind_eq_some_iff.mp h
  obtain ⟨fields, made, h⟩ := Option.bind_eq_some_iff.mp h
  obtain rfl := Option.some.inj h
  refine narrow.within (fun t t' old opened => ?_) made
  split at opened
  · exact old.openRepeated opened
  · exact old.openTable opened

theorem allNarrow_header {names : List String} {repeated : Bool} (narrow : AllNarrow d.fields)
    (h : (do return (← d.enter names repeated, ← lineEnd? cs)) = some (d', rest)) :
    AllNarrow d'.fields := by
  obtain ⟨entered, opened, h⟩ := Option.bind_eq_some_iff.mp h
  obtain ⟨_, -, h⟩ := Option.bind_eq_some_iff.mp h
  obtain ⟨rfl, -⟩ := Prod.mk.inj (Option.some.inj h)
  exact allNarrow_enter narrow opened

theorem allNarrow_statement? (narrow : AllNarrow d.fields)
    (h : d.statement? cs = some (d', rest)) : AllNarrow d'.fields := by
  unfold statement? at h
  split at h
  · obtain ⟨⟨names, _⟩, -, h⟩ := Option.bind_eq_some_iff.mp h
    dsimp only at h
    split at h
    · exact allNarrow_header narrow h
    · cases h
  · obtain ⟨⟨names, _⟩, -, h⟩ := Option.bind_eq_some_iff.mp h
    dsimp only at h
    split at h
    · exact allNarrow_header narrow h
    · cases h
  · obtain ⟨⟨names, x, _⟩, read, h⟩ := Option.bind_eq_some_iff.mp h
    obtain ⟨fields, made, h⟩ := Option.bind_eq_some_iff.mp h
    obtain ⟨_, -, h⟩ := Option.bind_eq_some_iff.mp h
    obtain ⟨rfl, -⟩ := Prod.mk.inj (Option.some.inj h)
    exact narrow.within (fun t t' old assigned => old.assign (isNarrow_pair? read) assigned) made

theorem allNarrow_read? {fuel : Nat} (narrow : AllNarrow d.fields)
    (h : Document.read? fuel d cs = some d') : AllNarrow d'.fields := by
  induction fuel generalizing d cs with
  | zero => cases h
  | succ fuel ih =>
    unfold Document.read? at h
    split at h
    · exact Option.some.inj h ▸ narrow
    · obtain ⟨⟨later, _⟩, stated, h⟩ := Option.bind_eq_some_iff.mp h
      exact ih (allNarrow_statement? narrow stated) h

end Document

/-- Whatever a text says, no integer in it is too large for a word. -/
theorem allNarrow_read? {text : String} (h : read? text = some fields) : AllNarrow fields := by
  obtain ⟨d, read, rfl⟩ := Option.map_eq_some_iff.mp h
  exact Document.allNarrow_read? allNarrow_nil read

/-! ### Digits that are read -/

theorem mem_of_after? {c : Char} (h : after? c cs = some rest) : c ∈ cs := by
  cases cs with
  | nil => cases h
  | cons d cs =>
    rw [after?] at h
    split at h
    · next same => exact same ▸ List.mem_cons_self
    · cases h

theorem afterDay?_of_notMem (h : '-' ∉ cs) : afterDay? cs = none := by
  refine Option.eq_none_iff_forall_ne_some.mpr fun rest read => ?_
  obtain ⟨⟨year, afterYear⟩, taken, read⟩ := Option.bind_eq_some_iff.mp read
  obtain ⟨_, dash, -⟩ := Option.bind_eq_some_iff.mp read
  have left : afterYear = cs.drop 4 := Decimal.rest_of_takeDigits? taken
  exact h (List.mem_of_mem_drop (left ▸ mem_of_after? dash))

theorem afterClock?_of_notMem (h : ':' ∉ cs) : afterClock? cs = none := by
  refine Option.eq_none_iff_forall_ne_some.mpr fun rest read => ?_
  obtain ⟨⟨hour, afterHour⟩, taken, read⟩ := Option.bind_eq_some_iff.mp read
  obtain ⟨_, colon, -⟩ := Option.bind_eq_some_iff.mp read
  have left : afterHour = cs.drop 2 := Decimal.rest_of_takeDigits? taken
  exact h (List.mem_of_mem_drop (left ▸ mem_of_after? colon))

section Digits

variable (digits : ∀ c ∈ cs, c.isDigit = true)
include digits

theorem time?_of_digits : time? cs = none := by
  have day : '-' ∉ cs := fun h => by cases digits _ h
  have clock : ':' ∉ cs := fun h => by cases digits _ h
  simp [time?, afterMoment?, afterDay?_of_notMem day, afterClock?_of_notMem clock]

theorem digitRun_of_digits : digitRun Char.isDigit cs = (cs, []) := by
  fun_induction digitRun Char.isDigit cs with
  | case1 => rfl
  | case2 => cases digits '_' (by simp)
  | case3 => cases digits '_' (by simp)
  | case4 => cases digits '_' (by simp)
  | case5 c rest _ _ digit more ih =>
    have run : more = (rest, []) := ih (List.forall_mem_cons.mp digits).2
    rw [run]
  | case6 c rest _ _ other => exact absurd (digits c List.mem_cons_self) other

theorem value?_of_digits (some_ : cs ≠ []) (fuel depth : Nat) :
    value? (fuel + 1) depth cs = number? cs := by
  obtain ⟨c, rest, rfl⟩ := List.exists_cons_of_ne_nil some_
  have digit (d : Char) (h : c = d) : d.isDigit = true := h ▸ digits c List.mem_cons_self
  unfold value?
  split
  · next h => cases digit '[' (List.cons.inj h).1
  · next h => cases digit '{' (List.cons.inj h).1
  · have noQuote : ¬ (c = '"' ∨ c = '\'') := by
      rintro (h | h)
      · cases digit '"' h
      · cases digit '\'' h
    have noTrue : c ≠ 't' := fun h => by cases digit 't' h
    have noFalse : c ≠ 'f' := fun h => by cases digit 'f' h
    rw [scalarValue?, if_neg noQuote, if_neg noTrue, if_neg noFalse, time?_of_digits digits,
      Option.none_or]

end Digits

section Natural

variable (n : Nat)

theorem skipSpace_digits : skipSpace (' ' :: Decimal.digits n) = Decimal.digits n := by
  obtain ⟨c, cs, some_⟩ := List.exists_cons_of_ne_nil (Decimal.digits_ne_nil n)
  have digit (d : Char) (h : c = d) : d.isDigit = true :=
    h ▸ Decimal.isDigit_of_mem_digits (some_ ▸ List.mem_cons_self)
  have solid : ¬ isSpace c = true := by
    intro space
    rcases Bool.or_eq_true_iff.mp space with h | h
    · cases digit ' ' (beq_iff_eq.mp h)
    · cases digit '\t' (beq_iff_eq.mp h)
  rw [some_, skipSpace, List.dropWhile_cons_of_pos rfl, List.dropWhile_cons_of_neg solid]

theorem whole?_digits : whole? (Decimal.digits n) = some (Decimal.digits n, []) := by
  unfold whole?
  split
  · next rest zero =>
    obtain rfl := Decimal.eq_zero_of_digits zero
    obtain rfl : rest = [] := (List.cons.inj zero).2.symm
    rfl
  · obtain ⟨c, cs, some_⟩ := List.exists_cons_of_ne_nil (Decimal.digits_ne_nil n)
    have digits (d : Char) (h : d ∈ c :: cs) : d.isDigit = true :=
      Decimal.isDigit_of_mem_digits (some_ ▸ h)
    rw [some_, digits?, if_pos (digits c List.mem_cons_self), digitRun_of_digits digits]

theorem unsigned?_digits : unsigned? false (Decimal.digits n) = some (some (n : Int), []) := by
  have digit (c : Char) (h : c ∈ Decimal.digits n) : c.isDigit = true :=
    Decimal.isDigit_of_mem_digits h
  unfold unsigned?
  split
  · next h => cases digit 'i' (h ▸ List.mem_cons_self)
  · next h => cases digit 'n' (h ▸ List.mem_cons_self)
  · rw [whole?_digits]
    simp [numberTail?, fraction?, Decimal.read?_digits]

theorem numeral?_digits : numeral? (Decimal.digits n) = some (some (n : Int), []) := by
  have digit (c : Char) (h : c ∈ Decimal.digits n) : c.isDigit = true :=
    Decimal.isDigit_of_mem_digits h
  unfold numeral?
  split
  · next h => cases digit '+' (h ▸ List.mem_cons_self)
  · next h => cases digit '-' (h ▸ List.mem_cons_self)
  · next h => cases digit 'x' (by simp [h])
  · next h => cases digit 'o' (by simp [h])
  · next h => cases digit 'b' (by simp [h])
  · exact unsigned?_digits n

theorem value?_digits (held : Word.Holds n) (fuel depth : Nat) :
    value? (fuel + 1) depth (Decimal.digits n) = some (.int n, []) := by
  rw [value?_of_digits (fun _ => Decimal.isDigit_of_mem_digits) (Decimal.digits_ne_nil n), number?,
    numeral?_digits]
  exact if_pos (Word.holds_iff.mp held)

end Natural

end ContainerWatch.Toml
