import ContainerWatch.Text.Cut

/-!
Arguments of the form `key=value`.
-/

namespace ContainerWatch

/-- An argument that is not of the form `key=value` with a key. -/
structure BadLabel where
  text : String
deriving DecidableEq, Repr

def BadLabel.message (e : BadLabel) : String := "expected key=value, got '" ++ e.text ++ "'"

def readLabel (text : String) : Except BadLabel (String × String) :=
  match Text.cut? '=' text with
  | some (key, value) => if key.isEmpty then .error ⟨text⟩ else .ok (key, value)
  | none => .error ⟨text⟩

end ContainerWatch
