import Mathlib.Computability.Language
import ContainerWatch.Log.Detect

/-!
Scanners and the languages they scan. A scanner takes a beginning off a text, or fails. A regular
expression says which beginnings it may take; and since a scanner takes all it can get, it leaves no
rest that starts with a character by which it would have gone on. Scanners that follow one another
scan the product of their languages, and a part that may be missing is scanned as such if the part
cannot be mistaken for what comes after it.
-/

namespace ContainerWatch.Log.Detect

open scoped Computability

/-- A scanner: what follows the beginning that it takes. -/
abbrev Scanner := List Char → Option (List Char)

def Stops (kind : Char → Bool) (cs : List Char) : Prop := ∀ c ∈ cs.head?, kind c = false

instance (kind : Char → Bool) (cs : List Char) : Decidable (Stops kind cs) :=
  decidable_of_iff (cs.head?.any kind = false) (by cases cs <;> simp [Stops])

def never : Char → Bool := fun _ => false

/-- A scanner takes the words of a language, as long as no character follows by which it would go
on. -/
def Takes (p : Scanner) (l : Language Char) (more : Char → Bool) : Prop :=
  ∀ cs rest, p cs = some rest ↔ (∃ w ∈ l, w ++ rest = cs) ∧ Stops more rest

def char (kind : Char → Bool) : Language Char := {w | ∃ c, kind c = true ∧ w = [c]}

def charOf (choice : List Char) : Language Char := char choice.contains

def Opens (l : Language Char) (kind : Char → Bool) : Prop :=
  ∀ w ∈ l, ∃ c rest, w = c :: rest ∧ kind c = true

def Within (l : Language Char) (kind : Char → Bool) : Prop := ∀ w ∈ l, ∀ c ∈ w, kind c = true

variable {p q : Scanner} {l m : Language Char} {kind more first second : Char → Bool}
  {c : Char} {cs rest w : List Char}

/-! ### Languages -/

@[simp] theorem stops_nil : Stops kind [] := by simp [Stops]

@[simp] theorem stops_cons : Stops kind (c :: rest) ↔ kind c = false := by simp [Stops]

@[simp] theorem stops_never : Stops never cs := fun _ _ => rfl

theorem stops_dropWhile : Stops kind (cs.dropWhile kind) := by
  intro c hc
  have first := List.head?_dropWhile_not kind cs
  rw [Option.mem_def.mp hc] at first
  exact first

theorem mem_char : w ∈ char kind ↔ ∃ c, kind c = true ∧ w = [c] := Iff.rfl

theorem mem_charOf_singleton : w ∈ charOf [c] ↔ w = [c] := by
  simp [charOf, mem_char]

theorem mem_star_char : w ∈ (char kind)∗ ↔ ∀ c ∈ w, kind c = true := by
  rw [Language.mem_kstar]
  constructor
  · rintro ⟨words, rfl, singles⟩ c hc
    obtain ⟨word, hw, inside⟩ := List.mem_flatten.mp hc
    obtain ⟨d, hd, rfl⟩ := mem_char.mp (singles word hw)
    rwa [List.mem_singleton.mp inside]
  · intro all
    refine ⟨w.map fun c => [c], ?_, fun word hw => ?_⟩
    · induction w with
      | nil => rfl
      | cons c w ih => simpa using ih fun d hd => all d (by simp [hd])
    · obtain ⟨c, hc, rfl⟩ := List.mem_map.mp hw
      exact ⟨c, all c hc, rfl⟩

theorem opens_char : Opens (char kind) kind := by
  rintro _ ⟨c, hc, rfl⟩
  exact ⟨c, [], rfl, hc⟩

theorem opens_charOf (choice : List Char) : Opens (charOf choice) choice.contains := opens_char

theorem Opens.mono (h : Opens l first) (sub : ∀ c, first c = true → kind c = true) :
    Opens l kind := by
  intro w hw
  obtain ⟨c, rest, same, hc⟩ := h w hw
  exact ⟨c, rest, same, sub c hc⟩

theorem Opens.mul (h : Opens l kind) (m : Language Char) : Opens (l * m) kind := by
  intro w hw
  obtain ⟨u, hu, v, -, rfl⟩ := Language.mem_mul.mp hw
  obtain ⟨c, rest, rfl, hc⟩ := h u hu
  exact ⟨c, rest ++ v, rfl, hc⟩

theorem Opens.add (hl : Opens l first) (hm : Opens m second) :
    Opens (l + m) fun c => first c || second c := by
  intro w hw
  rcases (Language.mem_add l m w).mp hw with hw | hw
  · obtain ⟨c, rest, rfl, hc⟩ := hl w hw
    exact ⟨c, rest, rfl, by simp [hc]⟩
  · obtain ⟨c, rest, rfl, hc⟩ := hm w hw
    exact ⟨c, rest, rfl, by simp [hc]⟩

theorem Opens.optional (hl : Opens l first) (hm : Opens m second) :
    Opens ((1 + l) * m) fun c => second c || first c := by
  rw [add_mul, one_mul]
  exact hm.add (hl.mul m)

theorem within_one : Within 1 kind := by
  intro w hw c hc
  obtain rfl := (Language.mem_one w).mp hw
  simp at hc

theorem within_char (sub : ∀ c, first c = true → kind c = true) : Within (char first) kind := by
  rintro _ ⟨c, hc, rfl⟩ d hd
  obtain rfl := List.mem_singleton.mp hd
  exact sub d hc

theorem within_charOf {choice : List Char} (sub : choice.all kind = true) :
    Within (charOf choice) kind :=
  within_char fun c hc => List.all_eq_true.mp sub c (List.contains_iff_mem.mp hc)

theorem Within.mul (hl : Within l kind) (hm : Within m kind) : Within (l * m) kind := by
  intro w hw c hc
  obtain ⟨u, hu, v, hv, rfl⟩ := Language.mem_mul.mp hw
  exact (List.mem_append.mp hc).elim (hl u hu c) (hm v hv c)

theorem Within.add (hl : Within l kind) (hm : Within m kind) : Within (l + m) kind := by
  intro w hw
  exact ((Language.mem_add l m w).mp hw).elim (hl w) (hm w)

theorem Within.pow (h : Within l kind) (n : Nat) : Within (l ^ n) kind := by
  induction n with
  | zero => exact within_one
  | succ n ih => exact ih.mul h

theorem Within.star (h : Within l kind) : Within l∗ kind := by
  intro w hw c hc
  obtain ⟨words, rfl, inside⟩ := Language.mem_kstar.mp hw
  obtain ⟨word, hword, hc⟩ := List.mem_flatten.mp hc
  exact h word (inside word hword) c hc

/-! ### Scanners -/

theorem Takes.eq_none (h : Takes p l more) (opens : Opens l kind) (stops : Stops kind cs) :
    p cs = none := by
  refine Option.eq_none_iff_forall_ne_some.mpr fun rest taken => ?_
  obtain ⟨⟨w, hw, rfl⟩, -⟩ := (h cs rest).mp taken
  obtain ⟨c, w', rfl, hc⟩ := opens w hw
  rw [List.cons_append, stops_cons, hc] at stops
  exact Bool.noConfusion stops

theorem Takes.bind (hp : Takes p l never) (hq : Takes q m more) :
    Takes (fun cs => p cs >>= q) (l * m) more := by
  intro cs rest
  constructor
  · intro taken
    obtain ⟨mid, left, right⟩ := Option.bind_eq_some_iff.mp taken
    obtain ⟨⟨u, hu, rfl⟩, -⟩ := (hp cs mid).mp left
    obtain ⟨⟨v, hv, rfl⟩, stops⟩ := (hq mid rest).mp right
    exact ⟨⟨u ++ v, Language.append_mem_mul hu hv, List.append_assoc u v rest⟩, stops⟩
  · rintro ⟨⟨w, hw, rfl⟩, stops⟩
    obtain ⟨u, hu, v, hv, rfl⟩ := Language.mem_mul.mp hw
    have left : p (u ++ v ++ rest) = some (v ++ rest) :=
      (hp _ _).mpr ⟨⟨u, hu, (List.append_assoc u v rest).symm⟩, stops_never⟩
    have right : q (v ++ rest) = some rest := (hq _ _).mpr ⟨⟨v, hv, rfl⟩, stops⟩
    exact Option.bind_eq_some_iff.mpr ⟨_, left, right⟩

theorem Takes.orElse (hp : Takes p l more) (hq : Takes q m more) (opensL : Opens l first)
    (opensM : Opens m second) (apart : ∀ c, second c = true → first c = false) :
    Takes (fun cs => p cs <|> q cs) (l + m) more := by
  intro cs rest
  constructor
  · intro taken
    rcases (Option.orElse_eq_some _ _ _).mp taken with taken | ⟨-, taken⟩
    · obtain ⟨⟨w, hw, same⟩, stops⟩ := (hp cs rest).mp taken
      exact ⟨⟨w, .inl hw, same⟩, stops⟩
    · obtain ⟨⟨w, hw, same⟩, stops⟩ := (hq cs rest).mp taken
      exact ⟨⟨w, .inr hw, same⟩, stops⟩
  · rintro ⟨⟨w, hw, same⟩, stops⟩
    rcases (Language.mem_add l m w).mp hw with hw | hw
    · have taken : p cs = some rest := (hp cs rest).mpr ⟨⟨w, hw, same⟩, stops⟩
      simp [taken]
    · have taken : q cs = some rest := (hq cs rest).mpr ⟨⟨w, hw, same⟩, stops⟩
      obtain ⟨c, w', rfl, hc⟩ := opensM w hw
      have none_ : p cs = none := hp.eq_none opensL (by simp [← same, apart c hc])
      simp [none_, taken]

/-- A part that may be missing before one that starts differently, and that the first part cannot
go on with. -/
theorem Takes.optional {on : Char → Bool} (hp : Takes p l on) (hq : Takes q m more)
    (opensL : Opens l first) (opensM : Opens m second)
    (apart : ∀ c, second c = true → first c = false ∧ on c = false) :
    Takes (fun cs => q ((p cs).getD cs)) ((1 + l) * m) more := by
  have starts : ∀ w ∈ m, ∀ rest, Stops first (w ++ rest) ∧ Stops on (w ++ rest) := by
    intro w hw rest
    obtain ⟨c, w', rfl, hc⟩ := opensM w hw
    simpa using apart c hc
  intro cs rest
  rw [add_mul, one_mul]
  constructor
  · intro taken
    cases here : p cs with
    | none =>
      simp only [here, Option.getD_none] at taken
      obtain ⟨⟨w, hw, same⟩, stops⟩ := (hq cs rest).mp taken
      exact ⟨⟨w, .inl hw, same⟩, stops⟩
    | some mid =>
      simp only [here, Option.getD_some] at taken
      obtain ⟨⟨u, hu, rfl⟩, -⟩ := (hp cs mid).mp here
      obtain ⟨⟨v, hv, rfl⟩, stops⟩ := (hq mid rest).mp taken
      refine ⟨⟨u ++ v, .inr (Language.append_mem_mul hu hv), List.append_assoc u v rest⟩, stops⟩
  · rintro ⟨⟨w, hw, rfl⟩, stops⟩
    rcases (Language.mem_add _ _ w).mp hw with hw | hw
    · have none_ : p (w ++ rest) = none := hp.eq_none opensL (starts w hw rest).1
      simpa only [none_, Option.getD_none] using (hq _ _).mpr ⟨⟨w, hw, rfl⟩, stops⟩
    · obtain ⟨u, hu, v, hv, rfl⟩ := Language.mem_mul.mp hw
      have here : p (u ++ v ++ rest) = some (v ++ rest) :=
        (hp _ _).mpr ⟨⟨u, hu, (List.append_assoc u v rest).symm⟩, (starts v hv rest).2⟩
      simpa only [here, Option.getD_some] using (hq _ _).mpr ⟨⟨v, hv, rfl⟩, stops⟩

theorem takes_one (kind : Char → Bool) : Takes (one? kind) (char kind) never := by
  intro cs rest
  constructor
  · intro taken
    cases cs with
    | nil => simp [one?] at taken
    | cons c cs =>
      by_cases hc : kind c = true
      · obtain rfl : cs = rest := by simpa [one?, hc] using taken
        exact ⟨⟨[c], ⟨c, hc, rfl⟩, rfl⟩, stops_never⟩
      · simp [one?, hc] at taken
  · rintro ⟨⟨_, ⟨c, hc, rfl⟩, rfl⟩, -⟩
    simp [one?, hc]

theorem takes_oneOf (choice : List Char) : Takes (oneOf? choice) (charOf choice) never :=
  takes_one choice.contains

/-- A run of characters of a kind, which goes on as long as there are any. -/
def run? (kind : Char → Bool) (cs : List Char) : Option (List Char) :=
  (one? kind cs).map (·.dropWhile kind)

theorem takes_run (kind : Char → Bool) : Takes (run? kind) (char kind * (char kind)∗) kind := by
  intro cs rest
  constructor
  · intro taken
    obtain ⟨others, one, rfl⟩ := Option.map_eq_some_iff.mp taken
    obtain ⟨⟨w, hw, rfl⟩, -⟩ := (takes_one kind cs others).mp one
    have run : others.takeWhile kind ∈ (char kind)∗ :=
      mem_star_char.mpr fun c hc => List.all_eq_true.mp List.all_takeWhile c hc
    have whole : w ++ others.takeWhile kind ++ others.dropWhile kind = w ++ others := by
      rw [List.append_assoc, List.takeWhile_append_dropWhile]
    exact ⟨⟨w ++ others.takeWhile kind, Language.append_mem_mul hw run, whole⟩, stops_dropWhile⟩
  · rintro ⟨⟨_, hw, rfl⟩, stops⟩
    obtain ⟨_, ⟨c, hc, rfl⟩, others, run, rfl⟩ := Language.mem_mul.mp hw
    have none_ : rest.dropWhile kind = rest := by
      cases rest with
      | nil => rfl
      | cons d rest => simp [stops_cons.mp stops]
    have gone : (others ++ rest).dropWhile kind = rest := by
      rw [List.dropWhile_append_of_pos (mem_star_char.mp run), none_]
    simp [run?, one?, hc, gone]

end ContainerWatch.Log.Detect
