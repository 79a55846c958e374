import ContainerWatch.Log.Search
import ContainerWatch.Proofs.Log.Rereading
import ContainerWatch.Proofs.Text.Cut

/-!
Searching by the path of a value. The keys that lead to a value, joined by dots, find it by its
text; but a dot in a key is taken for a joint. A line of pairs has no objects within its fields, so
that its keys with a dot are never found.
-/

namespace ContainerWatch.Log

open Pattern (Program)

/-- Keys lead from a value through nested objects to a value. -/
inductive Leads : Json → List String → Json → Prop
  | here {v} : Leads v [] v
  | under {fields key inner keys v} (found : Entries.get? key fields = some inner)
    (h : Leads inner keys v) : Leads (.object fields) (key :: keys) v

/-- The text of a value: a string itself, or the JSON text of any other value. -/
def valueText : Json → String
  | .string s => s
  | j => j.print

/-- A line that is read as pairs: a time stamp, and words that are no JSON. -/
inductive OfPairs : String → Entries String → Prop
  | intro {raw stamp rest : String} {time : Instant} {pairs : Entries String}
    (cut : Text.cut? ' ' raw = some (stamp, rest)) (stamped : Rfc3339.read? stamp = some time)
    (unread : Json.readList? (Line.body rest.toList) = none)
    (words : Logfmt.read (Line.body rest.toList) = .ok pairs) : OfPairs raw pairs

variable {j v : Json} {keys : List String} {fields : Entries Json} {e : Entry} {p key : String}
  {program : Program}

/-! ### Values under paths -/

theorem valueAt?_eq_some_iff : valueAt? j keys = some v ↔ Leads j keys v := by
  constructor
  · intro h
    induction keys generalizing j with
    | nil =>
      obtain rfl := Option.some.inj h
      exact .here
    | cons key keys ih =>
      obtain ⟨inner, found, rest⟩ := Option.bind_eq_some_iff.mp h
      cases j with
      | object fields => exact .under found (ih rest)
      | _ => simp [Json.get?] at found
  · intro h
    induction h with
    | here => rfl
    | under found h ih => simpa [valueAt?, Json.get?, found] using ih

theorem Leads.unique {w : Json} (h : Leads j keys v) (h' : Leads j keys w) : v = w :=
  Option.some.inj ((valueAt?_eq_some_iff.mpr h).symm.trans (valueAt?_eq_some_iff.mpr h'))

theorem searchableText?_eq_some_iff {text : String} :
    searchableText? v = some text ↔ v ≠ .null ∧ valueText v = text := by
  cases v <;> simp [searchableText?, valueText]

theorem FieldClause.accepts_iff {path : List String} :
    accepts ⟨path, program⟩ fields = true ↔
      ∃ v, Leads (.object fields) path v ∧ v ≠ .null ∧ program.isMatch (valueText v) = true := by
  unfold accepts
  cases found : (valueAt? (.object fields) path).bind searchableText? with
  | none =>
    have nothing := Option.bind_eq_none_iff.mp found
    refine ⟨fun h => Bool.noConfusion h, ?_⟩
    rintro ⟨v, leads, valued, -⟩
    have some_ := searchableText?_eq_some_iff.mpr ⟨valued, rfl⟩
    rw [nothing v (valueAt?_eq_some_iff.mpr leads)] at some_
    cases some_
  | some text =>
    obtain ⟨v, leads, text_⟩ := Option.bind_eq_some_iff.mp found
    obtain ⟨valued, rfl⟩ := searchableText?_eq_some_iff.mp text_
    constructor
    · intro matches_
      exact ⟨v, valueAt?_eq_some_iff.mp leads, valued, matches_⟩
    · rintro ⟨w, leads', -, matches_⟩
      obtain rfl := (valueAt?_eq_some_iff.mp leads).unique leads'
      exact matches_

theorem Search.exists_build_field (compiled : compile false p = .ok program) (path : String) :
    ∃ s, build [.field path p] = .ok s ∧
      ∀ e fields, e.message = .fields fields →
        (s.accepts e = true ↔ ∃ v, Leads (.object fields) (Text.split '.' path) v ∧ v ≠ .null ∧
          program.isMatch (valueText v) = true) := by
  refine ⟨{ fields := [⟨Text.split '.' path, program⟩] }, ?_, fun e fields structured => ?_⟩
  · simp [build, applyAll, apply, compiled, Except.map]
  · rw [← FieldClause.accepts_iff]
    simp [accepts, wants, hits, structured]

/-! ### Lines of pairs -/

theorem get?_strings {pairs : Entries String} :
    Entries.get? key (Json.strings pairs) = (pairs.get? key).map .string := by
  induction pairs with
  | nil => rfl
  | cons p pairs ih =>
    by_cases same : p.1 = key
    · simp [Json.strings, Entries.get?, same]
    · simpa [Json.strings, Entries.get?, same] using ih

theorem OfPairs.message {raw : String} {pairs : Entries String} (h : OfPairs raw pairs)
    (some_ : pairs ≠ []) (stream : Stream) :
    (Line.read raw stream).message = .fields (Json.strings pairs) := by
  obtain ⟨cut, accepted, unread, words⟩ := h
  obtain ⟨⟨before, after⟩, parts, same⟩ := Option.map_eq_some_iff.mp cut
  obtain ⟨rfl, rfl⟩ := Prod.mk.inj same
  obtain ⟨whole, unbroken⟩ := Text.eq_append_of_cutList? parts
  rw [Rfc3339.read?, String.toList_ofList] at accepted
  rw [String.toList_ofList] at unread words
  have split := Line.split?_append unbroken accepted whole
  have nonempty : (Line.body after).isEmpty = false := by
    cases body : Line.body after with
    | nil =>
      rw [body] at words
      cases words
      exact absurd rfl some_
    | cons c cs => rfl
  have said : (Payload.read (Line.body after)).message = .fields (Json.strings pairs) := by
    cases pairs with
    | nil => exact absurd rfl some_
    | cons p ps => simp [Payload.read, nonempty, unread, Payload.ofWords, words, Json.strings]
  simp only [Line.read, Line.readPlain, split, said]

theorem leads_strings_iff {pairs : Entries String} (some_ : keys ≠ []) :
    Leads (.object (Json.strings pairs)) keys v ↔
      ∃ key value, keys = [key] ∧ pairs.get? key = some value ∧ v = .string value := by
  constructor
  · intro h
    cases h with
    | here => exact absurd rfl some_
    | @under _ key inner _ _ found deeper =>
      rw [get?_strings] at found
      obtain ⟨value, named, rfl⟩ := Option.map_eq_some_iff.mp found
      cases deeper
      exact ⟨key, value, rfl, named, rfl⟩
  · rintro ⟨key, value, rfl, found, rfl⟩
    exact .under (by simp [get?_strings, found]) .here

/-! ### Searching by keys -/

/-- A value within the fields is found by the keys that lead to it, joined by dots, as long as none
of them has a dot itself. -/
theorem Search.exists_build_keys (compiled : compile false p = .ok program)
    (structured : e.message = .fields fields) (leads : Leads (.object fields) keys v)
    (some_ : keys ≠ []) (valued : v ≠ .null) (dotless : ∀ key ∈ keys, '.' ∉ key.toList) :
    ∃ s, build [.field (".".intercalate keys) p] = .ok s ∧
      (s.accepts e = true ↔ program.isMatch (valueText v) = true) := by
  have path : Text.split '.' (".".intercalate keys) = keys := by
    have pieces : keys.flatMap (Text.split '.') = keys.flatMap fun key => [key] :=
      List.flatMap_congr fun key h => Text.split_of_notMem (dotless key h)
    simpa [pieces] using Text.split_intercalate '.' some_
  obtain ⟨s, built, accepts_iff⟩ := exists_build_field compiled (".".intercalate keys)
  refine ⟨s, built, ?_⟩
  rw [accepts_iff e fields structured, path]
  constructor
  · rintro ⟨w, leads', -, matches_⟩
    obtain rfl := leads.unique leads'
    exact matches_
  · exact fun matches_ => ⟨v, leads, valued, matches_⟩

/-- A key of a line of pairs finds its value, unless it has a dot: then it finds nothing. -/
theorem Search.exists_build_key (compiled : compile false p = .ok program) {raw value : String}
    {pairs : Entries String} (h : OfPairs raw pairs) (found : pairs.get? key = some value)
    (stream : Stream) :
    ∃ s, build [.field key p] = .ok s ∧
      (s.accepts (Line.read raw stream) = true ↔
        '.' ∉ key.toList ∧ program.isMatch value = true) := by
  have some_ : pairs ≠ [] := by
    rintro rfl
    cases found
  obtain ⟨s, built, accepts_iff⟩ := exists_build_field compiled key
  refine ⟨s, built, ?_⟩
  rw [accepts_iff _ _ (h.message some_ stream)]
  by_cases dotted : '.' ∈ key.toList
  · have pieces := Text.one_lt_length_split dotted
    refine ⟨?_, fun h => absurd dotted h.1⟩
    rintro ⟨v, leads, -, -⟩
    obtain ⟨name, _, path, -⟩ := (leads_strings_iff (List.ne_nil_of_length_pos (by omega))).mp leads
    rw [path] at pieces
    exact absurd pieces (Nat.lt_irrefl 1)
  · rw [Text.split_of_notMem dotted]
    constructor
    · rintro ⟨v, leads, -, matches_⟩
      obtain ⟨_, text, same, found', rfl⟩ := (leads_strings_iff (List.cons_ne_nil _ _)).mp leads
      obtain rfl := List.singleton_inj.mp same
      obtain rfl := Option.some.inj (found.symm.trans found')
      exact ⟨dotted, matches_⟩
    · rintro ⟨-, matches_⟩
      have leads := (leads_strings_iff (List.cons_ne_nil key [])).mpr ⟨key, value, rfl, found, rfl⟩
      exact ⟨.string value, leads, Json.noConfusion, matches_⟩

/-- Every value within the fields of a record is found by its keys, joined by dots, if none of them
has a dot; and of the keys of a line of pairs, which stand side by side, those without a dot find
their values, while the search for another finds nothing. -/
theorem Search.field_finds (compiled : compile false p = .ok program) :
    (∀ (e : Entry) (fields : Entries Json) (keys : List String) (v : Json),
      e.message = .fields fields → Leads (.object fields) keys v → keys ≠ [] → v ≠ .null →
      (∀ key ∈ keys, '.' ∉ key.toList) →
      ∃ s, build [.field (".".intercalate keys) p] = .ok s ∧
        (s.accepts e = true ↔ program.isMatch (valueText v) = true)) ∧
    ∀ (raw : String) (stream : Stream) (pairs : Entries String) (key value : String),
      OfPairs raw pairs → pairs.get? key = some value →
      ∃ s, build [.field key p] = .ok s ∧
        (s.accepts (Line.read raw stream) = true ↔
          '.' ∉ key.toList ∧ program.isMatch value = true) := by
  constructor
  · intro e fields keys v structured leads some_ valued dotless
    exact exists_build_keys compiled structured leads some_ valued dotless
  · intro raw stream pairs key value ofPairs found
    exact exists_build_key compiled ofPairs found stream

def fiveHundred : Program :=
  ⟨3, #[.accept, .take ⟨#[(48, 48)]⟩ 0, .take ⟨#[(48, 48)]⟩ 1, .take ⟨#[(53, 53)]⟩ 2]⟩

theorem compile_fiveHundred : Search.compile false "500" = .ok fiveHundred := by
  with_unfolding_all rfl

theorem isMatch_fiveHundred : fiveHundred.isMatch "500" = true := by
  simp [Program.isMatch, Program.find?, Program.searchFrom, Program.fuel, fiveHundred,
    Cursor.start, Pattern.explore, Cursor.next?, CharSet.contains, Unicode.Ranges.contains,
    Unicode.Ranges.search]

def statusEntry : Entry where
  id := 0
  message := .fields [("http", .object [("status", .int 500)])]
  searchText := ""
  stream := .stdout

def statusLine (key : String) : String := "2024-01-01T00:00:00Z" ++ " " ++ (key ++ "=500")

theorem ofPairs_statusLine {key : String}
    (unread : Json.readList? (Line.body (key ++ "=500").toList) = none)
    (words : Logfmt.read (Line.body (key ++ "=500").toList) = .ok [(key, "500")]) :
    OfPairs (statusLine key) [(key, "500")] := by
  have cut := Text.cut?_append "2024-01-01T00:00:00Z" (key ++ "=500") (by decide)
  have stamped : Rfc3339.read? "2024-01-01T00:00:00Z" = some ⟨1704067200, 0⟩ := by decide +kernel
  exact .intro cut stamped unread words

theorem Search.field_finds_status :
    compile false "500" = .ok fiveHundred ∧
      (∃ s, build [.field "http.status" "500"] = .ok s ∧ s.accepts statusEntry = true) ∧
      ∃ s, build [.field "status" "500"] = .ok s ∧
        s.accepts (Line.read (statusLine "status") .stdout) = true := by
  obtain ⟨inside, beside⟩ := field_finds compile_fiveHundred
  have pairs : OfPairs (statusLine "status") [("status", "500")] :=
    ofPairs_statusLine (Option.isNone_iff_eq_none.mp (by decide +kernel)) (by decide +kernel)
  refine ⟨compile_fiveHundred, ?_, ?_⟩
  · have leads : Leads (.object [("http", .object [("status", .int 500)])]) ["http", "status"]
        (.int 500) := .under rfl (.under rfl .here)
    obtain ⟨s, built, accepts_iff⟩ :=
      inside statusEntry _ _ _ rfl leads (by decide) (by simp) (by decide)
    have text : valueText (.int 500) = "500" := by decide +kernel
    exact ⟨s, built, accepts_iff.mpr (text ▸ isMatch_fiveHundred)⟩
  · obtain ⟨s, built, accepts_iff⟩ := beside _ .stdout _ "status" "500" pairs (by decide)
    exact ⟨s, built, accepts_iff.mpr ⟨by decide, isMatch_fiveHundred⟩⟩

theorem Search.dotted_key_unfound :
    compile false "500" = .ok fiveHundred ∧
      (∃ fields, (Line.read (statusLine "http.status") .stdout).message = .fields fields ∧
        Leads (.object fields) ["http.status"] (.string "500")) ∧
      fiveHundred.isMatch "500" = true ∧
      ∃ s, build [.field "http.status" "500"] = .ok s ∧
        s.accepts (Line.read (statusLine "http.status") .stdout) = false := by
  have pairs : OfPairs (statusLine "http.status") [("http.status", "500")] :=
    ofPairs_statusLine (Option.isNone_iff_eq_none.mp (by decide +kernel)) (by decide +kernel)
  have found : Entries.get? "http.status" [("http.status", "500")] = some "500" := by decide
  obtain ⟨s, built, accepts_iff⟩ :=
    exists_build_key compile_fiveHundred pairs found .stdout
  have dot : '.' ∈ "http.status".toList := by decide
  have unfound : s.accepts (Line.read (statusLine "http.status") .stdout) = false :=
    Bool.eq_false_iff.mpr fun h => (accepts_iff.mp h).1 dot
  have leads : Leads (.object (Json.strings [("http.status", "500")])) ["http.status"]
      (.string "500") := .under rfl .here
  exact ⟨compile_fiveHundred, ⟨_, pairs.message (by decide) .stdout, leads⟩,
    isMatch_fiveHundred, s, built, unfound⟩

end ContainerWatch.Log
