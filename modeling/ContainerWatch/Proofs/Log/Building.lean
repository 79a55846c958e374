import ContainerWatch.CommandLine.SearchOptions
import ContainerWatch.Proofs.Log.KeyPaths

/-!
What a search passes, read off the steps that have built it. Of text patterns and of severities the
last step counts, of fields every step; a pattern ignores case if a step before it says so, and one
inversion is as good as many. The search does not build exactly if some pattern is none, and then it
names the first of these.
-/

namespace ContainerWatch.Log

open Pattern (Program)

namespace SearchStep

/-! ### Steps by what they ask for -/

def text? : SearchStep → Option String
  | .text pattern => some pattern
  | _ => none

def field? : SearchStep → Option (String × String)
  | .field path pattern => some (path, pattern)
  | _ => none

def severities? : SearchStep → Option (List Severity)
  | .severities wanted => some wanted
  | _ => none

def pattern? : SearchStep → Option String
  | .text pattern => if pattern = "" then none else some pattern
  | .field _ pattern => some pattern
  | _ => none

section Asking

variable {α : Type} (part : SearchStep → Option α) (asks : List SearchStep → α → Prop)

/-- What every step with a part of some kind asks for, given the steps before it. -/
def Each (steps : List SearchStep) : Prop :=
  ∀ before step after a, steps = before ++ step :: after → part step = some a → asks before a

/-- What the last step with a part of some kind asks for: nothing, if there is none. -/
def OfLast (steps : List SearchStep) : Prop :=
  ∀ before step after a, steps = before ++ step :: after → part step = some a →
    (∀ later ∈ after, part later = none) → asks before a

variable {part asks} {steps : List SearchStep} {step : SearchStep} {a : α}

theorem append_singleton_eq_iff {before after : List SearchStep} {x : SearchStep} :
    steps ++ [step] = before ++ x :: after ↔
      steps = before ∧ step = x ∧ after = [] ∨
        ∃ rest, after = rest ++ [step] ∧ steps = before ++ x :: rest := by
  rcases List.eq_nil_or_concat after with rfl | ⟨rest, last, rfl⟩
  · simp
  · have grouped : before ++ x :: (rest ++ [last]) = (before ++ x :: rest) ++ [last] := by simp
    rw [List.concat_eq_append, grouped, List.append_singleton_inj]
    constructor
    · rintro ⟨rfl, rfl⟩
      exact .inr ⟨rest, rfl, rfl⟩
    · rintro (⟨-, -, none_⟩ | ⟨rest', same, rfl⟩)
      · simp at none_
      · obtain ⟨rfl, rfl⟩ := List.append_singleton_inj.mp same
        exact ⟨rfl, rfl⟩

theorem each_nil : Each part asks [] := by
  intro before step after a cut
  simp at cut

theorem ofLast_nil : OfLast part asks [] := by
  intro before step after a cut
  simp at cut

theorem each_append_singleton :
    Each part asks (steps ++ [step]) ↔
      Each part asks steps ∧ ∀ a, part step = some a → asks steps a := by
  constructor
  · intro h
    refine ⟨fun before x after a cut => ?_, fun a => h steps step [] a rfl⟩
    exact h before x (after ++ [step]) a (by simp [cut])
  · rintro ⟨h, last⟩ before x after a cut known
    obtain ⟨rfl, rfl, -⟩ | ⟨rest, -, earlier⟩ := append_singleton_eq_iff.mp cut
    · exact last a known
    · exact h before x rest a earlier known

theorem each_append_singleton_of_none (other : part step = none) :
    Each part asks (steps ++ [step]) ↔ Each part asks steps := by
  rw [each_append_singleton]
  simp [other]

theorem each_append_singleton_of_some (known : part step = some a) :
    Each part asks (steps ++ [step]) ↔ Each part asks steps ∧ asks steps a := by
  rw [each_append_singleton]
  simp [known]

theorem ofLast_append_singleton_of_none (other : part step = none) :
    OfLast part asks (steps ++ [step]) ↔ OfLast part asks steps := by
  constructor
  · intro h before x after a cut known last
    refine h before x (after ++ [step]) a (by simp [cut]) known fun later hl => ?_
    obtain inside | rfl := List.mem_append.mp hl |>.imp_right List.mem_singleton.mp
    · exact last later inside
    · exact other
  · intro h before x after a cut known last
    obtain ⟨-, rfl, -⟩ | ⟨rest, rfl, earlier⟩ := append_singleton_eq_iff.mp cut
    · simp [other] at known
    · exact h before x rest a earlier known fun later hl =>
        last later (List.mem_append_left _ hl)

theorem ofLast_append_singleton_of_some (known : part step = some a) :
    OfLast part asks (steps ++ [step]) ↔ asks steps a := by
  constructor
  · exact fun h => h steps step [] a rfl known (by simp)
  · intro h before x after b cut same last
    obtain ⟨rfl, rfl, -⟩ | ⟨rest, rfl, -⟩ := append_singleton_eq_iff.mp cut
    · obtain rfl := Option.some.inj (known.symm.trans same)
      exact h
    · simp [last step (by simp)] at known

end Asking

end SearchStep

/-! ### What steps ask for together -/

def ignoresCase (steps : List SearchStep) : Bool := steps.contains .ignoreCase

def Finds (caseless : Bool) (pattern text : String) : Prop :=
  ∃ program, Search.compile caseless pattern = .ok program ∧ program.isMatch text = true

def HasField (e : Entry) (caseless : Bool) (path pattern : String) : Prop :=
  ∃ fields v, e.message = .fields fields ∧
    Leads (.object fields) (Text.split '.' path) v ∧ v ≠ .null ∧
    Finds caseless pattern (valueText v)

def Compiles (steps : List SearchStep) : Prop :=
  SearchStep.Each SearchStep.pattern? (fun before pattern =>
    ∃ program, Search.compile (ignoresCase before) pattern = .ok program) steps

/-- The severity is among those of the last step that sets some, unless these are none. -/
def WantsSeverity (steps : List SearchStep) (l : Severity) : Prop :=
  SearchStep.OfLast SearchStep.severities? (fun _ wanted => wanted = [] ∨ l ∈ wanted) steps

def FindsText (steps : List SearchStep) (text : String) : Prop :=
  SearchStep.OfLast SearchStep.text? (fun before pattern =>
    pattern = "" ∨ Finds (ignoresCase before) pattern text) steps

def FindsFields (steps : List SearchStep) (e : Entry) : Prop :=
  SearchStep.Each SearchStep.field? (fun before field =>
    HasField e (ignoresCase before) field.1 field.2) steps

/-- What steps ask of a record: a wanted severity, and either that text and fields are found or, if
some step inverts, that they are not. -/
def Passes (steps : List SearchStep) (e : Entry) : Prop :=
  WantsSeverity steps e.severity ∧
    ((FindsText steps e.searchText ∧ FindsFields steps e) ↔ .invert ∉ steps)

namespace Search

variable {s s' : Search} {steps : List SearchStep} {step : SearchStep} {e : Entry} {p : String}
  {caseless : Bool} {program : Program}

/-! ### One step -/

/-- A search is what steps ask for. -/
structure Built (steps : List SearchStep) (s : Search) : Prop where
  caseless : s.caseless = ignoresCase steps
  inverted : s.inverted = steps.contains .invert
  wants : ∀ l, s.wants l = true ↔ WantsSeverity steps l
  text : ∀ t, (∀ program, s.text = some program → program.isMatch t = true) ↔ FindsText steps t
  fields : ∀ e, (∀ c ∈ s.fields, ∃ fields, e.message = .fields fields ∧
    c.accepts fields = true) ↔ FindsFields steps e

theorem finds_iff (compiled : compile caseless p = .ok program) (t : String) :
    Finds caseless p t ↔ program.isMatch t = true := by
  constructor
  · rintro ⟨other, compiled', found⟩
    obtain rfl := Except.ok.inj (compiled.symm.trans compiled')
    exact found
  · exact fun found => ⟨program, compiled, found⟩

theorem hasField_iff (compiled : compile caseless p = .ok program) (path : String) :
    HasField e caseless path p ↔ ∃ fields, e.message = .fields fields ∧
      FieldClause.accepts ⟨Text.split '.' path, program⟩ fields = true := by
  simp only [HasField, FieldClause.accepts_iff, finds_iff compiled]
  constructor
  · rintro ⟨fields, v, structured, leads, valued, found⟩
    exact ⟨fields, structured, v, leads, valued, found⟩
  · rintro ⟨fields, structured, v, leads, valued, found⟩
    exact ⟨fields, v, structured, leads, valued, found⟩

theorem pattern_of_compile {fault : BadPattern} (bad : compile caseless p = .error fault) :
    fault.pattern = p := by
  rw [compile] at bad
  split at bad
  · cases bad
  · exact Except.error.inj bad ▸ rfl

theorem wants_iff (l : Severity) : s.wants l = true ↔ s.wanted = [] ∨ l ∈ s.wanted := by
  simp [wants]

theorem hits_iff : s.hits e = true ↔
    (∀ program, s.text = some program → program.isMatch e.searchText = true) ∧
      ∀ c ∈ s.fields, ∃ fields, e.message = .fields fields ∧ c.accepts fields = true := by
  rw [hits, Bool.and_eq_true, List.all_eq_true]
  refine and_congr ?_ (forall₂_congr fun c _ => ?_)
  · cases s.text <;> simp
  · cases e.message <;> simp

theorem built_nil : Built [] {} where
  caseless := rfl
  inverted := rfl
  wants l := by simp [wants, WantsSeverity, SearchStep.ofLast_nil]
  text t := by simp [FindsText, SearchStep.ofLast_nil]
  fields e := by simp [FindsFields, SearchStep.each_nil]

theorem Built.apply_text (h : Built steps s) (applied : s.apply (.text p) = .ok s') :
    Built (steps ++ [.text p]) s' := by
  obtain ⟨text, compiled, rfl⟩ : ∃ text, (p = "" ∧ text = none ∨
      p ≠ "" ∧ ∃ program, compile s.caseless p = .ok program ∧ text = some program) ∧
      s' = { s with text } := by
    by_cases empty : p = ""
    · refine ⟨none, .inl ⟨empty, rfl⟩, ?_⟩
      simpa [apply, empty] using applied.symm
    · cases compiled : compile s.caseless p with
      | error fault => simp [apply, empty, compiled, Except.map] at applied
      | ok program =>
        refine ⟨some program, .inr ⟨empty, program, rfl, rfl⟩, ?_⟩
        simpa [apply, empty, compiled, Except.map] using applied.symm
  exact {
    caseless := by simpa [ignoresCase] using h.caseless
    inverted := by simpa using h.inverted
    wants := fun l => (h.wants l).trans (SearchStep.ofLast_append_singleton_of_none rfl).symm
    fields := fun e => (h.fields e).trans (SearchStep.each_append_singleton_of_none rfl).symm
    text := fun t => by
      have set : (SearchStep.text p).text? = some p := rfl
      rw [FindsText, SearchStep.ofLast_append_singleton_of_some set, ← h.caseless]
      obtain ⟨rfl, rfl⟩ | ⟨some_, program, compiled, rfl⟩ := compiled
      · simp
      · simp [some_, finds_iff compiled] }

theorem Built.apply_field (h : Built steps s) {path : String}
    (applied : s.apply (.field path p) = .ok s') : Built (steps ++ [.field path p]) s' := by
  cases compiled : compile s.caseless p with
  | error fault => simp [apply, compiled, Except.map] at applied
  | ok program =>
    obtain rfl : { s with fields := s.fields ++ [⟨Text.split '.' path, program⟩] } = s' := by
      simpa [apply, compiled, Except.map] using applied
    exact {
      caseless := by simpa [ignoresCase] using h.caseless
      inverted := by simpa using h.inverted
      wants := fun l => (h.wants l).trans (SearchStep.ofLast_append_singleton_of_none rfl).symm
      text := fun t => (h.text t).trans (SearchStep.ofLast_append_singleton_of_none rfl).symm
      fields := fun e => by
        have added : (SearchStep.field path p).field? = some (path, p) := rfl
        rw [FindsFields, SearchStep.each_append_singleton_of_some added, ← h.caseless,
          hasField_iff compiled, ← FindsFields, ← h.fields e]
        simp [or_imp, forall_and] }

theorem Built.apply (h : Built steps s) (applied : s.apply step = .ok s') :
    Built (steps ++ [step]) s' := by
  cases step with
  | text p => exact h.apply_text applied
  | field path p => exact h.apply_field applied
  | ignoreCase =>
    obtain rfl := Except.ok.inj applied
    exact {
      caseless := by simp [ignoresCase]
      inverted := by simpa using h.inverted
      wants := fun l => (h.wants l).trans (SearchStep.ofLast_append_singleton_of_none rfl).symm
      text := fun t => (h.text t).trans (SearchStep.ofLast_append_singleton_of_none rfl).symm
      fields := fun e => (h.fields e).trans (SearchStep.each_append_singleton_of_none rfl).symm }
  | severities wanted =>
    obtain rfl := Except.ok.inj applied
    exact {
      caseless := by simpa [ignoresCase] using h.caseless
      inverted := by simpa using h.inverted
      wants := fun l => by
        have set : (SearchStep.severities wanted).severities? = some wanted := rfl
        rw [WantsSeverity, SearchStep.ofLast_append_singleton_of_some set, wants_iff]
      text := fun t => (h.text t).trans (SearchStep.ofLast_append_singleton_of_none rfl).symm
      fields := fun e => (h.fields e).trans (SearchStep.each_append_singleton_of_none rfl).symm }
  | invert =>
    obtain rfl := Except.ok.inj applied
    exact {
      caseless := by simpa [ignoresCase] using h.caseless
      inverted := by simp
      wants := fun l => (h.wants l).trans (SearchStep.ofLast_append_singleton_of_none rfl).symm
      text := fun t => (h.text t).trans (SearchStep.ofLast_append_singleton_of_none rfl).symm
      fields := fun e => (h.fields e).trans (SearchStep.each_append_singleton_of_none rfl).symm }

/-- A search passes what the steps ask for. -/
theorem Built.accepts_iff (h : Built steps s) : s.accepts e = true ↔ Passes steps e := by
  rw [accepts, Bool.and_eq_true, h.wants, Passes, ← h.text, ← h.fields, ← hits_iff, h.inverted]
  refine and_congr_right fun _ => ?_
  cases s.hits e <;> simp

/-! ### All steps -/

theorem applyAll_append (s : Search) (steps more : List SearchStep) :
    s.applyAll (steps ++ more) = (s.applyAll steps).bind (·.applyAll more) := by
  induction steps generalizing s with
  | nil => rfl
  | cons step steps ih =>
    cases applied : s.apply step with
    | ok s' => simpa [applyAll, applied] using ih s'
    | error fault => simp [applyAll, applied, Except.bind]

theorem exists_apply (compiled : ∀ p, step.pattern? = some p →
    ∃ program, compile s.caseless p = .ok program) : ∃ s', s.apply step = .ok s' := by
  cases step with
  | text p =>
    by_cases empty : p = ""
    · simp [Search.apply, empty]
    · obtain ⟨program, compiled⟩ := compiled p (by simp [SearchStep.pattern?, empty])
      simp [Search.apply, empty, compiled, Except.map]
  | field path p =>
    obtain ⟨program, compiled⟩ := compiled p rfl
    simp [Search.apply, compiled, Except.map]
  | _ => exact ⟨_, rfl⟩

theorem apply_of_fault {fault : BadPattern} (asked : step.pattern? = some p)
    (bad : compile s.caseless p = .error fault) : s.apply step = .error fault := by
  cases step with
  | text q =>
    by_cases empty : q = ""
    · simp [SearchStep.pattern?, empty] at asked
    · obtain rfl : q = p := by simpa [SearchStep.pattern?, empty] using asked
      simp [Search.apply, empty, bad, Except.map]
  | field path q =>
    obtain rfl : q = p := by simpa [SearchStep.pattern?] using asked
    simp [Search.apply, bad, Except.map]
  | _ => simp [SearchStep.pattern?] at asked

theorem exists_build (compiles : Compiles steps) : ∃ s, build steps = .ok s ∧ Built steps s := by
  -- By the steps from the last one on, since that is the one taken last.
  obtain ⟨reversed, rfl⟩ : ∃ reversed, steps = reversed.reverse := ⟨steps.reverse, by simp⟩
  induction reversed with
  | nil => exact ⟨{}, rfl, built_nil⟩
  | cons step earlier ih =>
    rw [List.reverse_cons] at compiles ⊢
    obtain ⟨before, last⟩ := SearchStep.each_append_singleton.mp compiles
    obtain ⟨s, built, h⟩ := ih before
    have taken : ∃ s', s.apply step = .ok s' := exists_apply (h.caseless ▸ last)
    obtain ⟨s', applied⟩ := taken
    refine ⟨s', ?_, h.apply applied⟩
    rw [build] at built ⊢
    simp [applyAll_append, built, Except.bind, applyAll, applied]

/-- A search whose patterns all compile builds, and it passes the records that the steps ask for.
Otherwise it does not build, for the first pattern that does not compile. -/
theorem build_reads (steps : List SearchStep) :
    (Compiles steps → ∃ s, build steps = .ok s ∧ ∀ e, s.accepts e = true ↔ Passes steps e) ∧
    ∀ before step after p fault, steps = before ++ step :: after → Compiles before →
      step.pattern? = some p → compile (ignoresCase before) p = .error fault →
      build steps = .error fault ∧ fault.pattern = p := by
  constructor
  · intro compiles
    obtain ⟨s, built, h⟩ := exists_build compiles
    exact ⟨s, built, fun e => h.accepts_iff⟩
  · rintro before step after p fault rfl compiles asked bad
    obtain ⟨s, built, h⟩ := exists_build compiles
    have refused : s.apply step = .error fault := apply_of_fault asked (h.caseless ▸ bad)
    constructor
    · rw [build] at built ⊢
      simp [applyAll_append, built, Except.bind, applyAll, refused]
    · exact pattern_of_compile bad

/-- Steps of which the second pattern ignores case and the first does not. -/
def lateSteps : List SearchStep :=
  [.text "500", .ignoreCase, .field "http.status" "^", .invert]

theorem compiles_lateSteps : Compiles lateSteps := by
  have caseless : ∃ program, compile true "^" = .ok program := by
    have compiled : (compile true "^").isOk = true := by decide +kernel
    cases result : compile true "^" with
    | ok program => exact ⟨program, rfl⟩
    | error fault => simp [result, Except.isOk, Except.toBool] at compiled
  have text : Compiles [.text "500"] :=
    SearchStep.each_append_singleton.mpr ⟨SearchStep.each_nil, by
      rintro p ⟨⟩
      exact ⟨fiveHundred, compile_fiveHundred⟩⟩
  have late : Compiles [.text "500", .ignoreCase] :=
    (SearchStep.each_append_singleton_of_none rfl).mpr text
  have field : Compiles [.text "500", .ignoreCase, .field "http.status" "^"] :=
    SearchStep.each_append_singleton.mpr ⟨late, by
      rintro p ⟨⟩
      exact caseless⟩
  exact (SearchStep.each_append_singleton_of_none rfl).mpr field

theorem build_reads_late :
    (Compiles lateSteps ∧
      ∃ s, build lateSteps = .ok s ∧ ∀ e, s.accepts e = true ↔ Passes lateSteps e) ∧
    compile (ignoresCase lateSteps) "(" = .error ⟨"(", .unclosedGroup⟩ ∧
      build (lateSteps ++ [.text "(", .field "http" ")"]) = .error ⟨"(", .unclosedGroup⟩ := by
  have bad : compile (ignoresCase lateSteps) "(" = .error ⟨"(", .unclosedGroup⟩ := by rfl
  have read := (build_reads lateSteps).1 compiles_lateSteps
  have refused := (build_reads (lateSteps ++ [.text "(", .field "http" ")"])).2 lateSteps
    (.text "(") [.field "http" ")"] "(" _ rfl compiles_lateSteps rfl bad
  exact ⟨⟨compiles_lateSteps, read⟩, bad, refused.1⟩

end Search

end ContainerWatch.Log

namespace ContainerWatch.SearchOptions

open Log (SearchStep)

variable {o : SearchOptions} {wanted : List Severity}

/-- The search that options ask for is the one that their steps build, severities last. -/
theorem build_eq_of_severities (known : severities o.levels = .ok wanted) :
    o.build = (Log.Search.build (o.steps ++ [.severities wanted])).mapError .pattern := by
  rw [build, Log.Search.build, Log.Search.build, Log.Search.applyAll_append]
  cases Log.Search.applyAll {} o.steps with
  | error fault => rfl
  | ok s =>
    simp only [known]
    rfl

end ContainerWatch.SearchOptions
