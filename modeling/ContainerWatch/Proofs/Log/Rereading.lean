import ContainerWatch.Log.Line
import ContainerWatch.Proofs.Json.RoundTrip
import Mathlib.Data.List.DropRight

/-!
Reading the search text of a line again. A payload of pairs is searched as the JSON object that it
is printed as, any other payload as the text that it is; either way that text, after the time stamp
of the line, reads as the line did.
-/

namespace ContainerWatch.Log

namespace Payload

def ofPairs (fields : Entries String) : Payload :=
  ⟨.fields (Json.strings fields), (Json.object (Json.strings fields)).print, []⟩

def ofText (cs : List Char) : Payload := ⟨.text (String.ofList cs), String.ofList cs, []⟩

/-- Words are kept as they are, or they say pairs with distinct keys. -/
theorem ofWords_cases (cs : List Char) :
    ofWords cs = ofText cs ∨
      ∃ fields : Entries String, fields.keys.Nodup ∧ ofWords cs = ofPairs fields := by
  cases pairs : Logfmt.pairs cs with
  | error e => exact .inl (by simp [ofWords, Logfmt.read, pairs, Except.map, ofText])
  | ok ps =>
    have distinct := Entries.nodup_ofPairs (ps.map fun p => (String.ofList p.1, String.ofList p.2))
    cases fields : Entries.ofPairs (ps.map fun p => (String.ofList p.1, String.ofList p.2)) with
    | nil => exact .inl (by simp [ofWords, Logfmt.read, pairs, Except.map, fields, ofText])
    | cons p rest =>
      rw [fields] at distinct
      refine .inr ⟨p :: rest, distinct, ?_⟩
      simp [ofWords, Logfmt.read, pairs, Except.map, fields, ofPairs, Json.strings]

theorem read_ofPairs {fields : Entries String} (distinct : fields.keys.Nodup) :
    read (ofPairs fields).searchText.toList = ofPairs fields := by
  have whole : (ofPairs fields).searchText.toList =
      Json.render (.object (Json.strings fields)) := by
    simp [ofPairs, Json.print]
  have some_ : (Json.render (.object (Json.strings fields))).isEmpty = false := by
    simp [Json.render]
  rw [whole, read, some_, Json.readList?_strings distinct]
  rfl

/-- A payload is searched by its own text, unless it says pairs. -/
theorem read_cases (cs : List Char) :
    (read cs).searchText.toList = cs ∨
      ∃ fields : Entries String, fields.keys.Nodup ∧ read cs = ofPairs fields := by
  unfold read
  split
  · simp
  · split
    · simp
    · simp
    · simp
    · obtain kept | pairs := ofWords_cases cs
      · exact .inl (by simp [kept, ofText])
      · exact .inr pairs

theorem read_searchText (cs : List Char) : read (read cs).searchText.toList = read cs := by
  obtain kept | ⟨fields, distinct, same⟩ := read_cases cs
  · rw [kept]
  · rw [same, read_ofPairs distinct]

end Payload

namespace Line

def body (cs : List Char) : List Char := Text.dropEndWhile isBreak cs

theorem body_body (cs : List Char) : body (body cs) = body cs :=
  List.rdropWhile_idempotent isBreak cs

theorem body_of_brace (cs : List Char) : body (cs ++ ['}']) = cs ++ ['}'] := by
  exact List.rdropWhile_concat_neg isBreak cs '}' (by decide)

theorem body_searchText (cs : List Char) :
    body (Payload.read (body cs)).searchText.toList =
      (Payload.read (body cs)).searchText.toList := by
  obtain kept | ⟨fields, -, same⟩ := Payload.read_cases (body cs)
  · rw [kept, body_body]
  · have braced : (Payload.ofPairs fields).searchText.toList =
        ('{' :: Json.commas (Json.renderFields (Json.strings fields))) ++ ['}'] := by
      simp [Payload.ofPairs, Json.print, Json.render]
    rw [same, braced, body_of_brace]

/-- Where a line with a time stamp is cut, and what its parts say. -/
theorem split?_append {stamp : List Char} {time : Instant} (unbroken : ' ' ∉ stamp)
    (accepted : Rfc3339.readList? stamp = some time) {raw : String} {rest : List Char}
    (cut : raw.toList = stamp ++ ' ' :: rest) :
    split? raw = some (time, Payload.read (body rest)) := by
  rw [split?, cut, Text.cutList?_append unbroken]
  simp [accepted, body]

/-- The search text of a line after the line's time stamp reads as the same entry in everything but
the fingerprint: the message with its fields in their order, the search text, the time, the severity
and the stream. -/
theorem read_reread {raw stamp rest : String} {time : Instant}
    (cut : Text.cut? ' ' raw = some (stamp, rest)) (accepted : Rfc3339.read? stamp = some time)
    (stream : Stream) :
    let e := read raw stream
    let again := read (stamp ++ " " ++ e.searchText) stream
    again = { e with id := again.id } := by
  intro e again
  obtain ⟨⟨before, after⟩, parts, same⟩ := Option.map_eq_some_iff.mp cut
  obtain ⟨rfl, rfl⟩ := Prod.mk.inj same
  obtain ⟨whole, unbroken⟩ := Text.eq_append_of_cutList? parts
  rw [Rfc3339.read?, String.toList_ofList] at accepted
  have first := split?_append unbroken accepted whole
  have searched : e.searchText = (Payload.read (body after)).searchText := by
    simp only [e, read, readPlain, first]
  have whole' : (String.ofList before ++ " " ++ e.searchText).toList =
      before ++ ' ' :: e.searchText.toList := by simp
  have second := split?_append unbroken accepted whole'
  rw [searched, body_searchText, Payload.read_searchText] at second
  simp only [again, e, read, readPlain, first, second]

def quotedLine : String :=
  "2024-05-01T10:00:00Z level=warn say=\"a \\\"b\\\" \\\\ \x01 é\" level=info\r\n"

theorem read_reread_quotedLine :
    ∃ rest, Text.cut? ' ' quotedLine = some ("2024-05-01T10:00:00Z", rest) ∧
      Rfc3339.read? "2024-05-01T10:00:00Z" = some ⟨1714557600, 0⟩ ∧
      let e := read quotedLine .stdout
      let again := read ("2024-05-01T10:00:00Z" ++ " " ++ e.searchText) .stdout
      again = { e with id := again.id } :=
  have cut : Text.cut? ' ' quotedLine = some ("2024-05-01T10:00:00Z",
      "level=warn say=\"a \\\"b\\\" \\\\ \x01 é\" level=info\r\n") := by decide +kernel
  have accepted : Rfc3339.read? "2024-05-01T10:00:00Z" = some ⟨1714557600, 0⟩ := by decide +kernel
  ⟨_, cut, accepted, read_reread cut accepted .stdout⟩

end Line

end ContainerWatch.Log
