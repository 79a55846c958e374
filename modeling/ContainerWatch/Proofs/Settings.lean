import ContainerWatch.Proofs.Container.Filtering
import ContainerWatch.Settings

/-!
What the settings make of the labels that a file and the command line name. A key without a value
does not reach the filter.
-/

namespace ContainerWatch.Settings

variable {s : Settings} {extra : List (String × String)} {labels : Labels} {key v : String}

/-- A key occurs in the settings or among the further labels. -/
def Names (s : Settings) (extra : List (String × String)) (key : String) : Prop :=
  key ∈ s.labels.keys ∨ ∃ v, (key, v) ∈ extra

/-- The settings or the further labels have a value for a key. -/
def Allows (s : Settings) (extra : List (String × String)) (key v : String) : Prop :=
  (∃ values, (key, values) ∈ s.labels ∧ v ∈ values) ∨ (key, v) ∈ extra

def Meets (s : Settings) (extra : List (String × String)) (labels : Labels) (key : String) : Prop :=
  ∃ v, labels.get? key = some v ∧ s.Allows extra key v

theorem Allows.names (h : s.Allows extra key v) : s.Names extra key := by
  obtain ⟨values, configured, -⟩ | given := h
  · exact .inl (List.mem_map_of_mem configured)
  · exact .inr ⟨v, given⟩

theorem mem_pairs_iff :
    (key, v) ∈ (s.labels.flatMap fun p => p.2.map fun v => (p.1, v)) ++ extra ↔
      s.Allows extra key v := by
  rw [List.mem_append, List.mem_flatMap]
  refine or_congr ?_ Iff.rfl
  constructor
  · rintro ⟨p, configured, member⟩
    obtain ⟨w, allowed, same⟩ := List.mem_map.mp member
    obtain ⟨rfl, rfl⟩ := Prod.mk.inj same
    exact ⟨p.2, configured, allowed⟩
  · rintro ⟨values, configured, allowed⟩
    exact ⟨(key, values), configured, List.mem_map_of_mem allowed⟩

theorem filter_accepts_iff :
    (s.filter extra).accepts labels = true ↔
      ∀ key, (∃ v, s.Allows extra key v) → s.Meets extra labels key := by
  have restricts := (LabelFilter.restricts_all.insertAll
    (s.labels.flatMap fun p => p.2.map fun v => (p.1, v))).insertAll extra
  rw [filter, restricts.accepts_iff]
  simp only [List.nil_append, mem_pairs_iff, Meets]

/-- Labels pass if they meet every key that is named and has a value; they may fail to meet a key
that is named only if it is named without a value. -/
theorem filter_accepts (s : Settings) (extra : List (String × String)) (labels : Labels) :
    ((s.filter extra).accepts labels = true ↔
      ∀ key, (∃ v, s.Allows extra key v) → s.Meets extra labels key) ∧
    ((∀ key, s.Names extra key → s.Meets extra labels key) ↔
      (s.filter extra).accepts labels = true ∧
        ∀ key, s.Names extra key → ∃ v, s.Allows extra key v) := by
  refine ⟨filter_accepts_iff, ?_⟩
  rw [filter_accepts_iff]
  constructor
  · intro meets
    refine ⟨fun key h => ?_, fun key named => ?_⟩
    · obtain ⟨v, allowed⟩ := h
      exact meets key allowed.names
    · obtain ⟨v, -, allowed⟩ := meets key named
      exact ⟨v, allowed⟩
  · rintro ⟨passes, valued⟩ key named
    exact passes key (valued key named)

def valueless : String := "[store.labels]\nteam = []\n"

theorem valueless_unfiltered :
    ∃ s, read? valueless = some s ∧ s.Names [] "team" ∧ ¬ s.Meets [] [] "team" ∧
      (s.filter []).accepts [] = true := by
  have named : (read? valueless).map labels = some [("team", [])] := by decide +kernel
  obtain ⟨s, read, labels_⟩ := Option.map_eq_some_iff.mp named
  refine ⟨s, read, ?_, ?_, ?_⟩
  · simp [Names, Entries.keys, labels_]
  · simp [Meets]
  · simp [filter, labels_, LabelFilter.insertAll, LabelFilter.accepts, LabelFilter.all]

end ContainerWatch.Settings
