import ContainerWatch.Toml.Reader

/-!
Documents that are read statement by statement.
-/

namespace ContainerWatch.Toml

variable {cs rest : List Char}

theorem read?_ofList (unmarked : cs.head? ≠ some byteOrderMark) :
    read? (String.ofList cs) = (Document.read? (cs.length + 1) {} cs).map (·.fields) := by
  rw [read?, String.toList_ofList]
  cases cs with
  | nil => rfl
  | cons c rest =>
    have other : c ≠ byteOrderMark := fun same => unmarked (congrArg some same)
    simp only [if_neg other]

namespace Document

variable {d d' : Document}

theorem read?_succ (fuel : Nat) (more : cs ≠ []) (solid : skipLines cs.length cs = cs)
    (statement : d.statement? cs = some (d', rest)) :
    Document.read? (fuel + 1) d cs = Document.read? fuel d' rest := by
  rw [Document.read?, solid]
  split
  · exact absurd rfl more
  · rw [statement]
    rfl

/-- A statement that is no header gives its value to the table of the last one. -/
theorem statement?_of_pair? {names : List String} {x : Toml} {fields : Entries Toml}
    {rest' : List Char} (notHeader : cs.head? ≠ some '[')
    (pair : pair? cs = some (names, x, rest))
    (assigned : within (assign x names) d.current d.fields = some fields)
    (ended : lineEnd? rest = some rest') :
    d.statement? cs = some ({ d with fields }, rest') := by
  unfold statement?
  split
  · exact absurd rfl notHeader
  · exact absurd rfl notHeader
  · refine Option.bind_eq_some_iff.mpr ⟨_, pair, ?_⟩
    refine Option.bind_eq_some_iff.mpr ⟨_, assigned, ?_⟩
    exact Option.bind_eq_some_iff.mpr ⟨_, ended, rfl⟩

end Document

end ContainerWatch.Toml
