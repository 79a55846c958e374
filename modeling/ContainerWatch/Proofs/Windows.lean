import ContainerWatch.Proofs.Toml.Documents
import ContainerWatch.Proofs.Toml.Integers
import ContainerWatch.Settings

/-!
The windows that files set. A window is a whole number of milliseconds, and a file can give any that
a signed word can hold.
-/

namespace ContainerWatch.Settings

open Toml

variable {s : Settings} {fields : Entries Toml} {name text : String} {names : List String}
  {x : Toml} {w : Nat}

/-- A file can set a window. -/
def Admits (w : Nat) : Prop := ∃ text s, read? text = some s ∧ s.tuning.window = w

/-! ### No file sets a larger one -/

theorem natural?_lt (narrow : IsNarrow x) (h : natural? x = some w) : w < 0x8000000000000000 := by
  unfold natural? at h
  split at h
  · next n =>
    cases narrow with
    | int held =>
      obtain ⟨-, high⟩ := Word.holds_iff.mp held
      split at h
      · obtain rfl := Option.some.inj h
        omega
      · cases h
  · cases h

theorem isNarrow_items? {xs : List Toml} (narrow : IsNarrow x) (h : items? x = some xs) :
    ∀ y ∈ xs, IsNarrow y := by
  unfold items? at h
  split at h
  · obtain rfl := Option.some.inj h
    cases narrow with
    | array each => exact each
  · obtain rfl := Option.some.inj h
    cases narrow with
    | tables each =>
      intro y member
      obtain ⟨t, known, rfl⟩ := List.mem_map.mp member
      exact .table _ (each t known)
  · cases h

theorem allNarrow_fields? {section_ : Entries Toml} (narrow : IsNarrow x)
    (h : fields? names x = some section_) : AllNarrow section_ := by
  unfold fields? at h
  split at h
  · obtain rfl := Option.some.inj h
    cases narrow with
    | table _ inner => exact inner
  · obtain rfl := Option.some.inj h
    exact allNarrow_nil
  · obtain ⟨xs, items, rfl⟩ := Option.map_eq_some_iff.mp h
    intro p member
    exact isNarrow_items? narrow items p.2 (List.of_mem_zip member).2

theorem allNarrow_section? {section_ : Entries Toml} (narrow : AllNarrow fields)
    (h : section? fields name names = some section_) : AllNarrow section_ := by
  unfold section? getD at h
  split at h
  · next known => exact allNarrow_fields? (narrow.get? known) h
  · exact Option.some.inj h ▸ allNarrow_nil

theorem window_lt_of_fields (narrow : AllNarrow fields) (h : ofFields? fields = some s) :
    s.window < 0x8000000000000000 := by
  obtain ⟨_, -, h⟩ := Option.bind_eq_some_iff.mp h
  obtain ⟨logs, readLogs, h⟩ := Option.bind_eq_some_iff.mp h
  obtain ⟨_, -, h⟩ := Option.bind_eq_some_iff.mp h
  obtain ⟨_, -, h⟩ := Option.bind_eq_some_iff.mp h
  obtain ⟨window, readWindow, h⟩ := Option.bind_eq_some_iff.mp h
  obtain ⟨_, -, h⟩ := Option.bind_eq_some_iff.mp h
  obtain ⟨_, -, h⟩ := Option.bind_eq_some_iff.mp h
  obtain ⟨_, -, h⟩ := Option.bind_eq_some_iff.mp h
  obtain ⟨_, -, h⟩ := Option.bind_eq_some_iff.mp h
  obtain ⟨_, -, h⟩ := Option.bind_eq_some_iff.mp h
  obtain ⟨_, -, h⟩ := Option.bind_eq_some_iff.mp h
  obtain ⟨_, -, h⟩ := Option.bind_eq_some_iff.mp h
  obtain ⟨_, -, h⟩ := Option.bind_eq_some_iff.mp h
  obtain ⟨_, -, h⟩ := Option.bind_eq_some_iff.mp h
  obtain rfl := Option.some.inj h
  have inner := allNarrow_section? narrow readLogs
  unfold getD at readWindow
  split at readWindow
  · next known => exact natural?_lt (inner.get? known) readWindow
  · obtain rfl := Option.some.inj readWindow
    change 10 < 0x8000000000000000
    decide

theorem window_lt (h : read? text = some s) : s.window < 0x8000000000000000 := by
  obtain ⟨fields, document, read⟩ := Option.bind_eq_some_iff.mp h
  exact window_lt_of_fields (allNarrow_read? document) read

/-! ### A file can set any other -/

def windowFile (w : Nat) : List Char :=
  "[logs]\n".toList ++ ("group_window_ms = ".toList ++ Decimal.digits w)

def windowFields (w : Nat) : Entries Toml :=
  [("logs", .table .header [("group_window_ms", .int w)])]

theorem statement?_header (rest : List Char) :
    Document.statement? {} ("[logs]\n".toList ++ rest) =
      some (⟨[("logs", .table .header [])], ["logs"]⟩, rest) := rfl

theorem keyOf?_window (rest : List Char) :
    keyOf? ("group_window_ms = ".toList ++ rest) =
      some (["group_window_ms"], '=' :: ' ' :: rest) := rfl

theorem pair?_window (held : Word.Holds w) :
    pair? ("group_window_ms = ".toList ++ Decimal.digits w) =
      some (["group_window_ms"], .int w, []) := by
  have value (fuel : Nat) :
      value? (fuel + 1) depthLimit (skipSpace (' ' :: Decimal.digits w)) = some (.int w, []) := by
    rw [skipSpace_digits]
    exact value?_digits w held fuel depthLimit
  unfold pair?
  refine Option.bind_eq_some_iff.mpr ⟨_, keyOf?_window _, ?_⟩
  exact Option.bind_eq_some_iff.mpr ⟨_, value _, rfl⟩

theorem skipLines_header (fuel : Nat) (rest : List Char) :
    skipLines fuel ("[logs]\n".toList ++ rest) = "[logs]\n".toList ++ rest := by
  cases fuel <;> rfl

theorem skipLines_window (fuel : Nat) (rest : List Char) :
    skipLines fuel ("group_window_ms = ".toList ++ rest) =
      "group_window_ms = ".toList ++ rest := by
  cases fuel <;> rfl

theorem statement?_window (held : Word.Holds w) :
    Document.statement? ⟨[("logs", .table .header [])], ["logs"]⟩
        ("group_window_ms = ".toList ++ Decimal.digits w) =
      some (⟨windowFields w, ["logs"]⟩, []) := by
  have notHeader : ("group_window_ms = ".toList ++ Decimal.digits w).head? ≠ some '[' := by
    simp
  have assigned : within (assign (.int w) ["group_window_ms"]) ["logs"]
      [("logs", .table .header [])] = some (windowFields w) := rfl
  exact Document.statement?_of_pair? notHeader (pair?_window held) assigned rfl

theorem document?_windowFile (held : Word.Holds w) (fuel : Nat) :
    Document.read? (fuel + 3) {} (windowFile w) = some ⟨windowFields w, ["logs"]⟩ := by
  have header := Document.read?_succ (fuel + 2) (by simp) (skipLines_header _ _)
    (statement?_header ("group_window_ms = ".toList ++ Decimal.digits w))
  have pair := Document.read?_succ (fuel + 1) (by simp) (skipLines_window _ _)
    (statement?_window held)
  exact header.trans pair

theorem length_windowFile (w : Nat) : (windowFile w).length = (Decimal.digits w).length + 25 := by
  have header : "[logs]\n".toList.length = 7 := rfl
  have name : "group_window_ms = ".toList.length = 18 := rfl
  unfold windowFile
  rw [List.length_append, List.length_append, header, name]
  omega

theorem read?_windowFile (held : Word.Holds w) :
    Toml.read? (String.ofList (windowFile w)) = some (windowFields w) := by
  have first : (windowFile w).head? = some '[' := rfl
  have unmarked : (windowFile w).head? ≠ some byteOrderMark := by
    rw [first]
    decide
  rw [read?_ofList unmarked, length_windowFile, document?_windowFile held, Option.map_some]

theorem ofFields?_window (w : Nat) : ofFields? (windowFields w) = some { window := w } := by
  have read : natural? (.int w) = some w := by simp [natural?]
  change (natural? (.int w)).bind (fun w => (some { window := w } : Option Settings)) = _
  rw [read]
  rfl

/-- Files can set the windows that a signed word can hold, and no others. -/
theorem admits_iff : Admits w ↔ w < 0x8000000000000000 := by
  constructor
  · rintro ⟨text, s, read, rfl⟩
    exact window_lt read
  · intro small
    have held : Word.Holds w := Word.holds_iff.mpr (by omega)
    refine ⟨String.ofList (windowFile w), { window := w }, ?_, rfl⟩
    rw [read?, read?_windowFile held]
    exact ofFields?_window w

end ContainerWatch.Settings
