import ContainerWatch.Text.Cut

/-!
Cutting text and putting it together again. Splitting at a separator undoes joining as long as no
piece has the separator in it; a piece that has is itself split.
-/

namespace ContainerWatch.Text

/-! ### Parts of a text -/

theorem dropStart?_append (start rest : List Char) :
    dropStart? start (start ++ rest) = some rest := by
  induction start with
  | nil => rfl
  | cons c start ih => simpa [dropStart?] using ih

theorem occursIn_append (before needle after : List Char) :
    occursIn needle (before ++ (needle ++ after)) = true := by
  induction before with
  | nil =>
    have starts := dropStart?_append needle after
    rw [List.nil_append]
    cases whole : needle ++ after with
    | nil => simp [occursIn, (List.append_eq_nil_iff.mp whole).1]
    | cons c rest => simp [occursIn, whole ▸ starts]
  | cons c before ih => simp [occursIn, ih]

theorem cut?_append (start rest : String) (unbroken : ' ' ∉ start.toList) :
    cut? ' ' (start ++ " " ++ rest) = some (start, rest) := by
  have whole : (start ++ " " ++ rest).toList = start.toList ++ ' ' :: rest.toList := by simp
  rw [cut?, whole, cutList?_append unbroken]
  simp

/-! ### Splitting -/

theorem splitList_eq (sep : Char) (cs : List Char) : splitList sep cs = cs.splitOn sep := by
  induction cs with
  | nil => rfl
  | cons c rest ih =>
    rw [List.splitOn_cons_eq_if_modifyHead]
    by_cases cut : c = sep
    · simp [splitList, cut, ih]
    · cases pieces : rest.splitOn sep with
      | nil => exact absurd pieces (List.splitOn_ne_nil sep rest)
      | cons piece more => simp [splitList, cut, ih, pieces]

theorem splitOn_intercalate {sep : Char} {pieces : List (List Char)} (some_ : pieces ≠ []) :
    ([sep].intercalate pieces).splitOn sep = pieces.flatMap (·.splitOn sep) := by
  induction pieces with
  | nil => exact absurd rfl some_
  | cons piece more ih =>
    by_cases last : more = []
    · simp [last]
    · have joined : [sep].intercalate (piece :: more) = piece ++ sep :: [sep].intercalate more := by
        rw [List.intercalate_cons_of_ne_nil last, List.append_assoc, List.singleton_append]
      rw [joined, List.splitOn_append_cons_self, ih last, List.flatMap_cons]

/-- What is joined is split at the joints, and within the pieces. -/
theorem split_intercalate (sep : Char) {pieces : List String} (some_ : pieces ≠ []) :
    split sep ((String.singleton sep).intercalate pieces) = pieces.flatMap (split sep) := by
  have some' : pieces.map String.toList ≠ [] := by simpa using some_
  have lists : splitList sep ((String.singleton sep).intercalate pieces).toList =
      pieces.flatMap fun piece => splitList sep piece.toList := by
    simp only [splitList_eq, String.toList_intercalate, String.toList_singleton,
      splitOn_intercalate some', List.flatMap_map]
  rw [split, lists, List.map_flatMap]
  rfl

theorem split_of_notMem {sep : Char} {s : String} (none_ : sep ∉ s.toList) : split sep s = [s] := by
  simp [split, splitList_eq, List.splitOn_eq_singleton none_]

theorem one_lt_length_split {sep : Char} {s : String} (some_ : sep ∈ s.toList) :
    1 < (split sep s).length := by
  obtain ⟨front, back, cut⟩ := List.append_of_mem some_
  have left := List.length_pos_iff.mpr (List.splitOn_ne_nil sep front)
  have right := List.length_pos_iff.mpr (List.splitOn_ne_nil sep back)
  have whole : (split sep s).length = (front.splitOn sep).length + (back.splitOn sep).length := by
    rw [split, List.length_map, splitList_eq, cut, List.splitOn_append_cons_self,
      List.length_append]
  omega

end ContainerWatch.Text
