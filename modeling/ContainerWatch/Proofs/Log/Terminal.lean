import ContainerWatch.Proofs.Log.Readings
import ContainerWatch.Proofs.Text.Newlines

/-!
The output of a terminal, read line by line. The lines are cut between bytes and decoded one by one,
and yet their texts are a cut of the decoded text: no replacement character comes or goes at a cut,
whatever the bytes are.
-/

namespace ContainerWatch.Log

def isWholeLine (text : String) : Bool := text.toList.getLast? = some '\n'

/-- Texts that cut a text into lines: none is empty, each but the last is a whole line, and none
goes on after a newline. -/
structure Lined (texts : List String) : Prop where
  some_ : ∀ t ∈ texts, t ≠ ""
  whole : ∀ t ∈ texts.dropLast, isWholeLine t = true
  single : ∀ t ∈ texts, '\n' ∉ t.toList.dropLast

section Lined

variable {t : String} {texts : List String} {cs : List Char}

theorem isWholeLine_of_toList (line : t.toList = cs ++ ['\n']) : isWholeLine t = true := by
  simp [isWholeLine, line]

theorem isWholeLine_of_not_mem (inner : '\n' ∉ t.toList) : isWholeLine t = false := by
  have last : t.toList.getLast? ≠ some '\n' := fun h => inner (List.mem_of_getLast? h)
  simpa [isWholeLine] using last

theorem Lined.last (some_ : t ≠ "") (inner : '\n' ∉ t.toList) : Lined [t] where
  some_ := by simpa using some_
  whole := by simp
  single := by simpa using fun h => inner (List.dropLast_subset _ h)

theorem Lined.cons (h : Lined texts) (line : t.toList = cs ++ ['\n']) (inner : '\n' ∉ cs) :
    Lined (t :: texts) where
  some_ := by
    have some_ : t ≠ "" := by
      rintro rfl
      simp at line
    exact List.forall_mem_cons.mpr ⟨some_, h.some_⟩
  whole := by
    cases texts with
    | nil => simp
    | cons u texts => exact List.forall_mem_cons.mpr ⟨isWholeLine_of_toList line, h.whole⟩
  single := List.forall_mem_cons.mpr ⟨by simpa [line] using inner, h.single⟩

end Lined

def Reading.ofLines (texts : List String) : List Reading := texts.map fun t => .frame ⟨t, .stdout⟩

namespace Decoder

/-- What comes of the bytes of an open line when the stream ends. -/
theorem finals_line {got : List UInt8} (open_ : newline ∉ got) :
    ∃ texts, (line got).finals .closed = Reading.ofLines texts ++ [.finished] ∧
      String.join texts = Utf8.decode got.reverse ∧ Lined texts ∧
      texts.filter isWholeLine = [] := by
  cases got with
  | nil => exact ⟨[], rfl, rfl, ⟨by simp, by simp, by simp⟩, rfl⟩
  | cons b got =>
    have inner : '\n' ∉ (Utf8.decode (b :: got).reverse).toList := by
      rw [Utf8.mem_decode_iff, List.mem_reverse]
      exact open_
    have some_ : Utf8.decode (b :: got).reverse ≠ "" := by
      obtain ⟨c, rest, first⟩ := List.exists_cons_of_ne_nil (l := (b :: got).reverse) (by simp)
      have isEmpty := Utf8.decode_cons_isEmpty c rest
      rw [first]
      rintro none_
      simp [none_] at isEmpty
    have cut : isWholeLine (Utf8.decode (b :: got).reverse) = false := isWholeLine_of_not_mem inner
    exact ⟨[Utf8.decode (b :: got).reverse], rfl, by simp, .last some_ inner, by simpa using cut⟩

/-- What is read of a terminal's output from an open line on: the lines of its text, and if the
stream breaks those of them that are whole. -/
theorem readings_line (bytes : List UInt8) {got : List UInt8} (open_ : newline ∉ got) :
    ∃ texts, (line got).readings .closed bytes = Reading.ofLines texts ++ [.finished] ∧
      String.join texts = Utf8.decode (got.reverse ++ bytes) ∧ Lined texts ∧
      ∀ cause, (line got).readings (.broken cause) bytes =
        Reading.ofLines (texts.filter isWholeLine) ++ [.failed (.broken cause)] := by
  induction bytes generalizing got with
  | nil =>
    obtain ⟨texts, clean, joined, lined, none_⟩ := finals_line open_
    refine ⟨texts, clean, by rw [joined, List.append_nil], lined, fun cause => ?_⟩
    rw [none_]
    rfl
  | cons b rest ih =>
    by_cases ends : b = newline
    · subst ends
      obtain ⟨texts, clean, joined, lined, broken⟩ := @ih [] (by simp)
      have inner : newline ∉ got.reverse := by rwa [List.mem_reverse]
      obtain ⟨cs, text, none_⟩ := Utf8.decode_line inner
      have whole : isWholeLine (Utf8.decode (got.reverse ++ [newline])) = true :=
        isWholeLine_of_toList text
      have pushed : (newline :: got).reverse = got.reverse ++ [newline] := List.reverse_cons
      refine ⟨Utf8.decode (got.reverse ++ [newline]) :: texts, ?_, ?_, lined.cons text none_,
        fun cause => ?_⟩
      · simp only [readings, push, if_true, clean, pushed]
        rfl
      · rw [String.join_cons, joined]
        exact (Utf8.decode_append_line got.reverse rest).symm
      · simp only [readings, push, if_true, broken cause, pushed]
        rw [List.filter_cons_of_pos whole]
        rfl
    · have longer : newline ∉ b :: got := by
        rw [List.mem_cons]
        exact not_or.mpr ⟨Ne.symm ends, open_⟩
      obtain ⟨texts, clean, joined, lined, broken⟩ := ih longer
      refine ⟨texts, ?_, ?_, lined, fun cause => ?_⟩
      · simpa only [readings, push, if_neg ends] using clean
      · simpa using joined
      · simpa only [readings, push, if_neg ends] using broken cause

end Decoder

namespace FrameReader

/-- The output of a terminal reads as lines of the text that it decodes to as a whole, one after the
other and all of them standard output, however it is cut on its way; and then it is at its end. If
it breaks instead, just those lines are read that their newlines have completed, and then the
fault. -/
theorem readAll_terminal (chunks : List (List UInt8)) :
    ∃ texts, (ofDelivery true { chunks, ending := .closed }).readAll.1 =
        Reading.ofLines texts ++ [.finished] ∧
      String.join texts = Utf8.decode chunks.flatten ∧ Lined texts ∧
      ∀ cause, (ofDelivery true { chunks, ending := .broken cause }).readAll.1 =
        Reading.ofLines (texts.filter isWholeLine) ++ [.failed (.broken cause)] := by
  have all : ∀ ending, (ofDelivery true { chunks, ending }).readAll.1 =
      (Decoder.line []).readings ending chunks.flatten := fun ending => readAll_eq _
  obtain ⟨texts, clean, joined, lined, broken⟩ :=
    Decoder.readings_line chunks.flatten (List.not_mem_nil (a := Decoder.newline))
  exact ⟨texts, (all _).trans clean, joined, lined, fun cause => (all _).trans (broken cause)⟩

/-- Two lines cut within a sequence that its newline breaks off, and a third without an end. -/
example : (ofDelivery true
      { chunks := [[0x61, 0xE2], [0x82, 0x0A, 0x0A], [0x62]], ending := .closed }).readAll.1 =
    Reading.ofLines ["a\uFFFD\n", "\n", "b"] ++ [.finished] := by decide

end FrameReader

end ContainerWatch.Log
