import ContainerWatch.Container.LabelFilter
import ContainerWatch.Proofs.Entries

/-!
What a filter accepts, in terms of the pairs that were inserted into it. Of the pairs only the set
matters: a pair restricts its key, and the values beside a key are those that it may have.
-/

namespace ContainerWatch.LabelFilter

variable {f : LabelFilter} {pairs : List (String × String)} {labels : Labels}

/-- A filter allows the values that stand beside a key among pairs, and restricts no other key. -/
structure Restricts (f : LabelFilter) (pairs : List (String × String)) : Prop where
  distinct : f.allowed.keys.Nodup
  some_ : ∀ key values, f.allowed.get? key = some values → values ≠ []
  allows : ∀ key v, (∃ values, f.allowed.get? key = some values ∧ v ∈ values) ↔ (key, v) ∈ pairs

theorem restricts_all : Restricts all [] where
  distinct := List.nodup_nil
  some_ key values found := by cases found
  allows key v := by simp [all]

theorem Restricts.insert (h : Restricts f pairs) (key value : String) :
    Restricts (f.insert key value) (pairs ++ [(key, value)]) where
  distinct := Entries.nodup_put h.distinct
  some_ other values found := by
    rw [LabelFilter.insert, Entries.get?_put] at found
    split at found
    · obtain rfl := Option.some.inj found
      simp
    · exact h.some_ other values found
  allows other v := by
    rw [LabelFilter.insert, Entries.get?_put, List.mem_append, List.mem_singleton, ← h.allows]
    by_cases same : other = key
    · obtain rfl := same
      cases known : f.allowed.get? other <;> simp
    · simp [same]

theorem Restricts.insertAll (h : Restricts f pairs) (more : List (String × String)) :
    Restricts (f.insertAll more) (pairs ++ more) := by
  induction more generalizing f pairs with
  | nil => simpa [LabelFilter.insertAll] using h
  | cons p more ih =>
    have rest := ih (h.insert p.1 p.2)
    rwa [List.append_assoc] at rest

theorem accepts_iff_get? (distinct : f.allowed.keys.Nodup) :
    f.accepts labels = true ↔ ∀ key values, f.allowed.get? key = some values →
      ∃ v, labels.get? key = some v ∧ v ∈ values := by
  rw [accepts, List.all_eq_true]
  constructor
  · intro passes key values found
    have passed := passes (key, values) (Entries.mem_of_get? found)
    cases label : labels.get? key with
    | none => simp [label] at passed
    | some v => exact ⟨v, rfl, by simpa [label] using passed⟩
  · rintro passes ⟨key, values⟩ member
    obtain ⟨v, label, allowed⟩ := passes key values (Entries.get?_of_mem distinct member)
    simpa [label] using allowed

/-- Labels pass if each key that is restricted is a label with an allowed value. -/
theorem Restricts.accepts_iff (h : Restricts f pairs) :
    f.accepts labels = true ↔
      ∀ key, (∃ v, (key, v) ∈ pairs) → ∃ v, labels.get? key = some v ∧ (key, v) ∈ pairs := by
  rw [accepts_iff_get? h.distinct]
  constructor
  · rintro passes key ⟨w, restricted⟩
    obtain ⟨values, found, -⟩ := (h.allows key w).mpr restricted
    obtain ⟨v, label, allowed⟩ := passes key values found
    exact ⟨v, label, (h.allows key v).mp ⟨values, found, allowed⟩⟩
  · intro passes key values found
    obtain ⟨w, allowed⟩ := List.exists_mem_of_ne_nil values (h.some_ key values found)
    obtain ⟨v, label, paired⟩ := passes key ⟨w, (h.allows key w).mp ⟨values, found, allowed⟩⟩
    obtain ⟨values', found', allowed'⟩ := (h.allows key v).mpr paired
    obtain rfl := Option.some.inj (found.symm.trans found')
    exact ⟨v, label, allowed'⟩

/-- Another value for a key that is restricted shuts no labels out. -/
theorem Restricts.accepts_insert (h : Restricts f pairs) {key : String}
    (known : ∃ w, (key, w) ∈ pairs) (value : String) (passes : f.accepts labels = true) :
    (f.insert key value).accepts labels = true := by
  rw [h.accepts_iff] at passes
  rw [(h.insert key value).accepts_iff]
  rintro other ⟨w, paired⟩
  have before : ∃ w, (other, w) ∈ pairs := by
    rcases List.mem_append.mp paired with old | added
    · exact ⟨w, old⟩
    · obtain ⟨rfl, rfl⟩ := Prod.mk.inj (List.mem_singleton.mp added)
      exact known
  obtain ⟨v, label, allowed⟩ := passes other before
  exact ⟨v, label, List.mem_append_left _ allowed⟩

/-- A key that was not restricted lets no labels in. -/
theorem Restricts.accepts_of_insert (h : Restricts f pairs) {key : String}
    (new : ¬ ∃ w, (key, w) ∈ pairs) {value : String}
    (passes : (f.insert key value).accepts labels = true) : f.accepts labels = true := by
  rw [(h.insert key value).accepts_iff] at passes
  rw [h.accepts_iff]
  rintro other ⟨w, paired⟩
  obtain ⟨v, label, allowed⟩ := passes other ⟨w, List.mem_append_left _ paired⟩
  rcases List.mem_append.mp allowed with old | added
  · exact ⟨v, label, old⟩
  · obtain ⟨rfl, rfl⟩ := Prod.mk.inj (List.mem_singleton.mp added)
    exact absurd ⟨w, paired⟩ new

/-- The verdict of a filter is settled by the set of the pairs that were inserted, in whatever order
and however often: labels pass if each key of a pair is a label with a value that is paired with it.
So another value for a known key shuts no labels out, and a key that is new lets none in. -/
theorem insertAll_verdict (pairs : List (String × String)) (labels : Labels) :
    ((all.insertAll pairs).accepts labels = true ↔
      ∀ key ∈ pairs.map Prod.fst, ∃ v, (key, v) ∈ pairs ∧ labels.get? key = some v) ∧
    (∀ others : List (String × String), (∀ p, p ∈ others ↔ p ∈ pairs) →
      (all.insertAll others).accepts labels = (all.insertAll pairs).accepts labels) ∧
    (∀ key ∈ pairs.map Prod.fst, ∀ value, (all.insertAll pairs).accepts labels = true →
      ((all.insertAll pairs).insert key value).accepts labels = true) ∧
    ∀ key, key ∉ pairs.map Prod.fst → ∀ value, (all.insertAll pairs).accepts labels = false →
      ((all.insertAll pairs).insert key value).accepts labels = false := by
  have restricts (ps : List (String × String)) : Restricts (all.insertAll ps) ps :=
    restricts_all.insertAll ps
  have mem_fst_iff (key : String) : key ∈ pairs.map Prod.fst ↔ ∃ w, (key, w) ∈ pairs := by simp
  refine ⟨?_, fun others same => ?_, fun key known value => ?_, fun key new value fails => ?_⟩
  · simp only [(restricts pairs).accepts_iff, mem_fst_iff, and_comm]
  · rw [Bool.eq_iff_iff, (restricts others).accepts_iff, (restricts pairs).accepts_iff]
    simp only [same]
  · exact (restricts pairs).accepts_insert ((mem_fst_iff key).mp known) value
  · rw [Bool.eq_false_iff] at fails ⊢
    exact mt ((restricts pairs).accepts_of_insert (mt (mem_fst_iff key).mpr new)) fails

def spreadPairs : List (String × String) := [("team", "core"), ("env", "dev"), ("team", "infra")]

def mixedPairs : List (String × String) :=
  [("team", "infra"), ("team", "core"), ("env", "dev"), ("team", "infra")]

theorem insertAll_verdict_spread :
    let f := all.insertAll spreadPairs
    let infra : Labels := [("env", "dev"), ("team", "infra")]
    let guest : Labels := [("env", "dev"), ("team", "guest")]
    (∀ p, p ∈ mixedPairs ↔ p ∈ spreadPairs) ∧ (all.insertAll mixedPairs).accepts infra = true ∧
      "team" ∈ spreadPairs.map Prod.fst ∧ (f.insert "team" "web").accepts infra = true ∧
      "zone" ∉ spreadPairs.map Prod.fst ∧ (f.insert "zone" "eu").accepts guest = false := by
  have same (p : String × String) : p ∈ mixedPairs ↔ p ∈ spreadPairs := by
    simp only [mixedPairs, spreadPairs, List.mem_cons, List.not_mem_nil, or_false]
    grind
  have known : "team" ∈ spreadPairs.map Prod.fst := by decide
  have new : "zone" ∉ spreadPairs.map Prod.fst := by decide
  obtain ⟨-, regrouped, widened, -⟩ :=
    insertAll_verdict spreadPairs [("env", "dev"), ("team", "infra")]
  obtain ⟨-, -, -, narrowed⟩ := insertAll_verdict spreadPairs [("env", "dev"), ("team", "guest")]
  have passes : (all.insertAll spreadPairs).accepts [("env", "dev"), ("team", "infra")] = true := by
    decide
  exact ⟨same, (regrouped _ same).trans passes, known, widened _ known _ passes, new,
    narrowed _ new _ (by decide)⟩

end ContainerWatch.LabelFilter
