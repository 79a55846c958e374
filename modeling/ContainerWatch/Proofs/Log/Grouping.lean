import ContainerWatch.Log.Group

/-!
Grouping record by record. `Grouped` is the machine behind the grouping task: it holds at most one
record, whose mark may still change, and decides about it by a look at its successor. What it
decides is the batch grouping of the segments that the looks without a successor cut.
-/

namespace ContainerWatch.Log

def Entry.plain (e : Entry) : Entry := { e with severity := .unknown, position := none }

def Record.plain (r : Record) : Entry := r.entry.plain

namespace Group

variable {α : Type}

/-- Cuts a list after each item for which the flag is false. -/
def segments : List Bool → List α → List (List α)
  | _, [] => []
  | [], x :: xs => [x] :: segments [] xs
  | false :: flags, x :: xs => [x] :: segments flags xs
  | true :: flags, x :: xs =>
    match segments flags xs with
    | [] => [[x]]
    | s :: more => (x :: s) :: more

theorem segments_ne_nil (flags : List Bool) (xs : List α) : ∀ s ∈ segments flags xs, s ≠ [] := by
  fun_induction segments flags xs with
  | case1 => simp
  | case2 x xs ih => simpa using ih
  | case3 flags x xs ih => simpa using ih
  | case4 flags x xs h ih => simp
  | case5 flags x xs s more h ih =>
    intro t ht
    rcases List.mem_cons.mp ht with rfl | hm
    · simp
    · exact ih t (h ▸ List.mem_cons_of_mem s hm)

theorem flatten_segments (flags : List Bool) (xs : List α) : (segments flags xs).flatten = xs := by
  fun_induction segments flags xs with
  | case1 => rfl
  | case2 x xs ih => simp [ih]
  | case3 flags x xs ih => simp [ih]
  | case4 flags x xs h ih => simpa [h] using ih
  | case5 flags x xs s more h ih => simpa [h] using ih

/-- The looks ahead within a segment: each found the next record, but for the last. -/
def looks (segment : List α) : List Bool := List.replicate (segment.length - 1) true ++ [false]

theorem segments_looks_append {s : List α} (hs : s ≠ []) (flags : List Bool) (xs : List α) :
    segments (looks s ++ flags) (s ++ xs) = s :: segments flags xs := by
  induction s with
  | nil => exact absurd rfl hs
  | cons x s ih =>
    cases s with
    | nil => rfl
    | cons y s =>
      have h := ih (by simp)
      simp only [looks, List.length_cons, Nat.add_sub_cancel, List.replicate_succ,
        List.cons_append] at h ⊢
      rw [segments, h]

theorem segments_flatMap_looks {ss : List (List α)} (hs : ∀ s ∈ ss, s ≠ []) :
    segments (ss.flatMap looks) ss.flatten = ss := by
  induction ss with
  | nil => rfl
  | cons s ss ih =>
    rw [List.flatMap_cons, List.flatten_cons, segments_looks_append (hs s (by simp)),
      ih fun t ht => hs t (List.mem_cons_of_mem s ht)]

variable {window : Int}

theorem check_some {r next decided left : Record} (h : link window r next = (decided, left)) :
    check window r (some next) = (decided, some left) := by
  simp only [check, h]

/-- Links a record with those after it: what is decided, and the last record, which is open. -/
def linkAll (window : Int) (r : Record) : List Record → List Record × Record
  | [] => ([], r)
  | next :: rest =>
    let l := link window r next
    let more := linkAll window l.2 rest
    (l.1 :: more.1, more.2)

theorem batchFrom_eq (r : Record) (rest : List Record) :
    batchFrom window r rest = (linkAll window r rest).1 ++ [close (linkAll window r rest).2] := by
  induction rest generalizing r with
  | nil => rfl
  | cons next rest ih => simp [batchFrom, linkAll, ih]

theorem linkAll_append_singleton (r : Record) (rest : List Record) (next : Record) :
    linkAll window r (rest ++ [next]) =
      ((linkAll window r rest).1 ++ [(link window (linkAll window r rest).2 next).1],
        (link window (linkAll window r rest).2 next).2) := by
  induction rest generalizing r with
  | nil => rfl
  | cons x rest ih => simp [linkAll, ih]

@[simp] theorem close_plain (r : Record) : (close r).plain = r.plain := by
  unfold close
  split <;> rfl

def Opens (window : Int) (r next : Record) : Prop :=
  r.entry.isCloseTo next.entry window ∧ r.detected ∧ ¬ next.detected

/-- What deciding about a record and its successor leaves of the two. -/
inductive Link (window : Int) (r next : Record) : Record × Record → Prop
  | opens (h : Opens window r next) :
    Link window r next (place r .start, grade (place next .middle) r.entry.severity)
  | goesOn (shut : ¬ Opens window r next) (inside : position r = some .middle)
      (near : r.entry.isCloseTo next.entry window) (bare : ¬ next.detected) :
    Link window r next (r, grade (place next .middle) r.entry.severity)
  | ends (shut : ¬ Opens window r next) (inside : position r = some .middle)
      (cut : next.detected ∨ ¬ r.entry.isCloseTo next.entry window) :
    Link window r next (place r .finish, next)
  | repeated (shut : ¬ Opens window r next) (first : position r = some .start) :
    Link window r next (r, grade next r.entry.severity)
  | single (shut : ¬ Opens window r next) (out : position r ≠ some .middle)
      (notFirst : position r ≠ some .start) : Link window r next (r, next)

@[simp] theorem position_place (r : Record) (p : Position) : position (place r p) = some p := rfl

theorem link_spec (r next : Record) : Link window r next (link window r next) := by
  by_cases h : Opens window r next
  · have hl : link window r next =
        (place r .start, grade (place next .middle) r.entry.severity) := by
      have ho : _ ∧ _ ∧ _ := h
      simp only [link, if_pos ho, position_place, reduceCtorEq, if_false, Option.some.injEq,
        or_false, if_true]
      rfl
    exact hl ▸ .opens h
  · have ho : ¬ (_ ∧ _ ∧ _) := h
    by_cases hm : position r = some .middle
    · by_cases hc : next.detected ∨ ¬ r.entry.isCloseTo next.entry window
      · have hl : link window r next = (place r .finish, next) := by
          simp only [link, if_neg ho, if_pos hm, if_pos hc, position_place, Option.some.injEq,
            reduceCtorEq, or_self, if_false]
        exact hl ▸ .ends h hm hc
      · have hl : link window r next = (r, grade (place next .middle) r.entry.severity) := by
          simp only [link, if_neg ho, if_pos hm, if_neg hc, if_pos (Or.inr hm)]
        obtain ⟨hb, hn⟩ := not_or.mp hc
        exact hl ▸ .goesOn h hm (Decidable.not_not.mp hn) hb
    · by_cases hf : position r = some .start
      · have hl : link window r next = (r, grade next r.entry.severity) := by
          simp only [link, if_neg ho, if_neg hm, if_pos (Or.inl hf)]
        exact hl ▸ .repeated h hf
      · have hl : link window r next = (r, next) := by
          simp only [link, if_neg ho, hm, hf, or_self, if_false]
        exact hl ▸ .single h hm hf

theorem link_plain {r next decided left : Record} (h : link window r next = (decided, left)) :
    decided.plain = r.plain ∧ left.plain = next.plain := by
  have hs : Link window r next (decided, left) := h ▸ link_spec r next
  cases hs <;> exact ⟨rfl, rfl⟩

theorem batchFrom_plain (r : Record) (rest : List Record) :
    (batchFrom window r rest).map Record.plain = r.plain :: rest.map Record.plain := by
  induction rest generalizing r with
  | nil => simp [batchFrom]
  | cons next rest ih =>
    rcases linked : link window r next with ⟨decided, left⟩
    obtain ⟨hd, hl⟩ := link_plain linked
    simp [batchFrom, linked, ih, hd, hl]

theorem batch_plain (rs : List Record) :
    (batch window rs).map Record.plain = rs.map Record.plain := by
  cases rs with
  | nil => rfl
  | cons r rest => exact batchFrom_plain r rest

/-- Grouping as it goes on: the records taken so far, whether each look ahead found another, what is
decided, and the record that is current. -/
inductive Grouped (window : Int) :
    List Record → List (Record × Bool) → List Record → Option Record → Prop
  | start : Grouped window [] [] [] none
  | turn {rs looks ds} (r : Record) (h : Grouped window rs looks ds none) :
    Grouped window (rs ++ [r]) looks ds (some r)
  | found {rs looks ds c next decided left} (linked : link window c next = (decided, left))
      (h : Grouped window rs looks ds (some c)) :
    Grouped window (rs ++ [next]) (looks ++ [(c, true)]) (ds ++ [decided]) (some left)
  | alone {rs looks ds c} (h : Grouped window rs looks ds (some c)) :
    Grouped window rs (looks ++ [(c, false)]) (ds ++ [close c]) none

namespace Grouped

variable {rs ds : List Record} {seen : List (Record × Bool)} {c : Record} {cur : Option Record}

/-- What is decided is the grouping of whole segments, and the beginning of an open one. -/
theorem exists_segments (h : Grouped window rs seen ds cur) :
    ∃ ss : List (List Record), (∀ s ∈ ss, s ≠ []) ∧
      match cur with
      | none => rs = ss.flatten ∧ seen.map Prod.snd = ss.flatMap looks ∧
          ds = ss.flatMap (batch window)
      | some c => ∃ r rest, rs = ss.flatten ++ r :: rest ∧
          seen.map Prod.snd = ss.flatMap looks ++ List.replicate rest.length true ∧
          ds = ss.flatMap (batch window) ++ (linkAll window r rest).1 ∧
          c = (linkAll window r rest).2 := by
  -- By the turns of the machine: a segment grows at its end, a batch unfolds from its front.
  induction h with
  | start => exact ⟨[], by simp, rfl, rfl, rfl⟩
  | turn r h ih =>
    obtain ⟨ss, hne, hr, hs, hd⟩ := ih
    exact ⟨ss, hne, r, [], by simp [hr], by simp [hs], by simp [hd, linkAll], rfl⟩
  | @found _ _ _ _ next _ _ linked h ih =>
    obtain ⟨ss, hne, r, rest, hr, hs, hd, rfl⟩ := ih
    refine ⟨ss, hne, r, rest ++ [next], by simp [hr], ?_, ?_, ?_⟩
    · simp [hs, List.replicate_succ']
    · simp [hd, linked, linkAll_append_singleton]
    · simp [linked, linkAll_append_singleton]
  | alone h ih =>
    obtain ⟨ss, hne, r, rest, hr, hs, hd, hc⟩ := ih
    refine ⟨ss ++ [r :: rest], ?_, ?_, ?_, ?_⟩
    · simpa [or_imp, forall_and] using hne
    · simp [hr]
    · simp [hs, looks]
    · simp [hd, hc, batch, batchFrom_eq]

/-- Between two segments, what is decided is the batch grouping of the segments that the looks
cut. -/
theorem eq_batches (h : Grouped window rs seen ds none) :
    ds = (segments (seen.map Prod.snd) rs).flatMap (batch window) := by
  obtain ⟨ss, hne, hr, hs, hd⟩ := h.exists_segments
  rw [hs, hr, segments_flatMap_looks hne, hd]

theorem looks_plain (h : Grouped window rs seen ds cur) :
    seen.map (fun l => l.1.plain) ++ cur.toList.map Record.plain = rs.map Record.plain := by
  induction h with
  | start => rfl
  | turn r h ih => simpa using ih
  | @found _ _ _ c next _ _ linked h ih =>
    obtain ⟨hd, hl⟩ := link_plain linked
    simp [← ih, hl]
  | alone h ih => simpa using ih

/-- Each record is decided once, in order, and what its line says stays. -/
theorem decided_plain (h : Grouped window rs seen ds cur) :
    ds.map Record.plain ++ cur.toList.map Record.plain = rs.map Record.plain := by
  induction h with
  | start => rfl
  | turn r h ih => simpa using ih
  | @found _ _ _ c next _ _ linked h ih =>
    obtain ⟨hd, hl⟩ := link_plain linked
    simp [← ih, hd, hl]
  | alone h ih => simpa using ih

end Grouped

end Group

end ContainerWatch.Log
