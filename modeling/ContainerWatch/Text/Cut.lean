/-!
Cutting text at a separator.
-/

namespace ContainerWatch.Text

def cutList? (sep : Char) : List Char → Option (List Char × List Char)
  | [] => none
  | c :: rest =>
    if c = sep then some ([], rest)
    else (cutList? sep rest).map fun p => (c :: p.1, p.2)

theorem eq_append_of_cutList? {sep : Char} {cs a b : List Char}
    (h : cutList? sep cs = some (a, b)) :
    cs = a ++ sep :: b ∧ sep ∉ a := by
  induction cs generalizing a b with
  | nil => simp [cutList?] at h
  | cons c rest ih =>
    by_cases hc : c = sep
    · simp only [cutList?, hc, if_true, Option.some.injEq, Prod.mk.injEq] at h
      obtain ⟨rfl, rfl⟩ := h
      simp [hc]
    · simp only [cutList?, hc, if_false, Option.map_eq_some_iff] at h
      obtain ⟨p, hp, hq⟩ := h
      obtain ⟨rfl, rfl⟩ := Prod.mk.inj hq
      obtain ⟨h₁, h₂⟩ := ih hp
      exact ⟨by simp [h₁], by simp [Ne.symm hc, h₂]⟩

theorem cutList?_append {sep : Char} {a : List Char} (h : sep ∉ a) (b : List Char) :
    cutList? sep (a ++ sep :: b) = some (a, b) := by
  induction a with
  | nil => simp [cutList?]
  | cons c a ih =>
    obtain ⟨first, others⟩ := not_or.mp (mt List.mem_cons.mpr h)
    simp [cutList?, Ne.symm first, ih others]

def cut? (sep : Char) (s : String) : Option (String × String) :=
  (cutList? sep s.toList).map fun p => (String.ofList p.1, String.ofList p.2)

/-- The pieces between the separators, one more than there are separators. -/
def splitList (sep : Char) : List Char → List (List Char)
  | [] => [[]]
  | c :: rest =>
    if c = sep then [] :: splitList sep rest
    else match splitList sep rest with
      | [] => [[c]]
      | piece :: more => (c :: piece) :: more

def split (sep : Char) (s : String) : List String := (splitList sep s.toList).map String.ofList

def dropStart? : List Char → List Char → Option (List Char)
  | [], cs => some cs
  | _ :: _, [] => none
  | p :: ps, c :: cs => if p = c then dropStart? ps cs else none

def occursIn (needle : List Char) : List Char → Bool
  | [] => needle.isEmpty
  | c :: rest => (dropStart? needle (c :: rest)).isSome || occursIn needle rest

def take (n : Nat) (s : String) : String := String.ofList (s.toList.take n)

end ContainerWatch.Text
