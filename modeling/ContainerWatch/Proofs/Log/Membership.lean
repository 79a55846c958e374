import ContainerWatch.Proofs.Log.Grouping

/-!
What batch grouping means. A record belongs to the group of an earlier one that shows a severity, if
none since does and no two neighbours from there on are too far apart. This says of every record at
once what grouping finds out with one record of lookahead: where it stands, and which severity it
gets.
-/

namespace ContainerWatch.Log.Group

variable {window : Int} {rs : List Record} {i j k : Nat} {r c d next : Record}

/-- Record `i` of a list is a member of the group that record `j` starts. -/
structure Heads (window : Int) (rs : List Record) (j i : Nat) : Prop where
  before : j < i
  inside : i < rs.length
  detected : ∀ r, rs[j]? = some r → r.detected = true
  bare : ∀ k r, j < k → k ≤ i → rs[k]? = some r → r.detected = false
  near : ∀ k a b, j ≤ k → k < i → rs[k]? = some a → rs[k + 1]? = some b →
    ((a.entry.timestamp - b.entry.timestamp).natAbs : Int) < window

/-- What is decided about record `i` of a list. -/
structure Placed (window : Int) (rs : List Record) (i : Nat) (r d : Record) : Prop where
  middle : position d = some .middle ↔ ∃ j, Heads window rs j i ∧ Heads window rs j (i + 1)
  finish : position d = some .finish ↔
    (∃ j, Heads window rs j i) ∧ ¬ ∃ j, Heads window rs j (i + 1)
  start : position d = some .start ↔ r.detected = true ∧ Heads window rs i (i + 1)
  single : position d = none ↔ (¬ ∃ j, Heads window rs j i) ∧ ¬ Heads window rs i (i + 1)
  grouped : ∀ j head, Heads window rs j i → rs[j]? = some head →
    d.entry.severity = head.entry.severity
  alone : (¬ ∃ j, Heads window rs j i) → d.entry.severity = r.entry.severity
  plain : d.plain = r.plain

/-! ### Heads -/

theorem Heads.unique (h : Heads window rs j i) (h' : Heads window rs k i) : j = k := by
  have inside := h.inside
  have before := h.before
  have before' := h'.before
  rcases Nat.lt_trichotomy j k with later | same | earlier
  · have shows := h'.detected _ (List.getElem?_eq_getElem (by omega))
    have bare := h.bare k _ later (by omega) (List.getElem?_eq_getElem (by omega))
    simp [shows] at bare
  · exact same
  · have shows := h.detected _ (List.getElem?_eq_getElem (by omega))
    have bare := h'.bare j _ earlier (by omega) (List.getElem?_eq_getElem (by omega))
    simp [shows] at bare

theorem Heads.not_detected (h : Heads window rs j i) (known : rs[i]? = some r) :
    r.detected = false :=
  h.bare i r h.before (Nat.le_refl i) known

/-- The next record goes on with a group, or begins one with its head. -/
theorem heads_succ_iff (known : rs[i]? = some r) (follows : rs[i + 1]? = some next) :
    Heads window rs j (i + 1) ↔ (Heads window rs j i ∨ j = i ∧ r.detected = true) ∧
      r.entry.isCloseTo next.entry window = true ∧ next.detected = false := by
  have close : r.entry.isCloseTo next.entry window = true ↔
      ((r.entry.timestamp - next.entry.timestamp).natAbs : Int) < window := by
    simp [Entry.isCloseTo]
  have inside := (List.getElem?_eq_some_iff.mp follows).1
  constructor
  · intro h
    have near := close.mpr (h.near i r next (Nat.le_of_lt_succ h.before) (by omega) known follows)
    refine ⟨?_, near, h.not_detected follows⟩
    rcases Nat.lt_succ_iff_lt_or_eq.mp h.before with before | same
    · exact .inl ⟨before, by omega, h.detected,
        fun k r after upTo => h.bare k r after (by omega),
        fun k a b from_ below => h.near k a b from_ (by omega)⟩
    · exact .inr ⟨same, h.detected r (same ▸ known)⟩
  · rintro ⟨member, near, bare⟩
    have near := close.mp near
    -- Only the last pair and the last record are new, whether or not the group had members before.
    obtain ⟨before, detected, earlier, pairs⟩ : j ≤ i ∧
        (∀ r, rs[j]? = some r → r.detected = true) ∧
        (∀ k r, j < k → k ≤ i → rs[k]? = some r → r.detected = false) ∧
        ∀ k a b, j ≤ k → k < i → rs[k]? = some a → rs[k + 1]? = some b →
          ((a.entry.timestamp - b.entry.timestamp).natAbs : Int) < window := by
      rcases member with h | ⟨rfl, shows⟩
      · exact ⟨Nat.le_of_lt h.before, h.detected, h.bare, h.near⟩
      · refine ⟨Nat.le_refl j, fun r' known' => ?_, by omega, by omega⟩
        obtain rfl := Option.some.inj (known.symm.trans known')
        exact shows
    refine ⟨by omega, inside, detected, fun k r' after upTo known' => ?_,
      fun k a b from_ below first second => ?_⟩
    · rcases Nat.lt_or_eq_of_le upTo with below | rfl
      · exact earlier k r' after (by omega) known'
      · obtain rfl := Option.some.inj (follows.symm.trans known')
        exact bare
    · rcases Nat.lt_succ_iff_lt_or_eq.mp below with below | rfl
      · exact pairs k a b from_ below first second
      · obtain rfl := Option.some.inj (known.symm.trans first)
        obtain rfl := Option.some.inj (follows.symm.trans second)
        exact near

theorem not_heads_of_none (last : rs[i]? = none) : ¬ Heads window rs j i := by
  intro h
  have inside := h.inside
  have outside := List.getElem?_eq_none_iff.mp last
  omega

/-! ### What is decided -/

@[simp] theorem position_grade (r : Record) (l : Severity) : position (grade r l) = position r :=
  rfl

theorem placed_inside {head : Record} (member : Heads window rs j i) (first : rs[j]? = some head)
    (known : rs[i]? = some r) (goesOn : Heads window rs j (i + 1)) :
    Placed window rs i r (grade (place r .middle) head.entry.severity) where
  middle := by simpa using ⟨j, member, goesOn⟩
  finish := by simpa using fun _ _ => (⟨j, goesOn⟩ : ∃ j, Heads window rs j (i + 1))
  start := by simp [member.not_detected known]
  single := by simpa using fun out => absurd member (out j)
  grouped k other member' first' := by
    obtain rfl := member.unique member'
    obtain rfl := Option.some.inj (first.symm.trans first')
    rfl
  alone out := absurd ⟨j, member⟩ out
  plain := rfl

theorem placed_last {head : Record} (member : Heads window rs j i) (first : rs[j]? = some head)
    (known : rs[i]? = some r) (ends : ¬ ∃ j, Heads window rs j (i + 1)) :
    Placed window rs i r (grade (place r .finish) head.entry.severity) where
  middle := by simpa using fun k _ goesOn => ends ⟨k, goesOn⟩
  finish := by simpa using ⟨⟨j, member⟩, fun k goesOn => ends ⟨k, goesOn⟩⟩
  start := by simp [member.not_detected known]
  single := by simpa using fun out => absurd member (out j)
  grouped k other member' first' := by
    obtain rfl := member.unique member'
    obtain rfl := Option.some.inj (first.symm.trans first')
    rfl
  alone out := absurd ⟨j, member⟩ out
  plain := rfl

theorem placed_first (out : ¬ ∃ j, Heads window rs j i) (shows : r.detected = true)
    (opens : Heads window rs i (i + 1)) : Placed window rs i r (place r .start) where
  middle := by simpa using fun k member => absurd ⟨k, member⟩ out
  finish := by simpa using fun k member => absurd ⟨k, member⟩ out
  start := by simpa using ⟨shows, opens⟩
  single := by simpa using fun _ => opens
  grouped k head member := absurd ⟨k, member⟩ out
  alone _ := rfl
  plain := rfl

theorem placed_single (out : ¬ ∃ j, Heads window rs j i) (unplaced : position r = none)
    (shut : ¬ Heads window rs i (i + 1)) : Placed window rs i r r where
  middle := by simpa [unplaced] using fun k member => absurd ⟨k, member⟩ out
  finish := by simpa [unplaced] using fun k member => absurd ⟨k, member⟩ out
  start := by simpa [unplaced] using fun _ => shut
  single := by simpa [unplaced] using ⟨fun k member => out ⟨k, member⟩, shut⟩
  grouped k head member := absurd ⟨k, member⟩ out
  alone _ := rfl
  plain := rfl

/-! ### The current record -/

/-- How the current record stands before it is decided about: as it came if it is no member of a
group, and with the mark and the severity of one otherwise. -/
inductive Current (window : Int) (rs : List Record) (i : Nat) (r : Record) : Record → Prop
  | outside (out : ¬ ∃ j, Heads window rs j i) (unplaced : position r = none) :
    Current window rs i r r
  | inside {j head} (member : Heads window rs j i) (first : rs[j]? = some head) :
    Current window rs i r (grade (place r .middle) head.entry.severity)

/-- Deciding about a record and its successor places the one, and the other stands as it should. -/
theorem Current.link {decided left : Record} (h : Current window rs i r c)
    (known : rs[i]? = some r) (follows : rs[i + 1]? = some next) (fresh : position next = none)
    (linked : Link window c next (decided, left)) :
    Placed window rs i r decided ∧ Current window rs (i + 1) next left := by
  have succ : ∀ j, Heads window rs j (i + 1) ↔ (Heads window rs j i ∨ j = i ∧ r.detected = true) ∧
      r.entry.isCloseTo next.entry window = true ∧ next.detected = false :=
    fun j => heads_succ_iff known follows
  cases h with
  | outside out unplaced =>
    cases linked with
    | opens h =>
      obtain ⟨near, shows, bare⟩ := h
      have opens := (succ i).mpr ⟨.inr ⟨rfl, shows⟩, near, by simpa using bare⟩
      exact ⟨placed_first out shows opens, .inside opens known⟩
    | goesOn _ inside => simp [unplaced] at inside
    | ends _ inside => simp [unplaced] at inside
    | repeated _ first => simp [unplaced] at first
    | single shut =>
      have outside : ¬ ∃ j, Heads window rs j (i + 1) := by
        rintro ⟨j, h⟩
        obtain ⟨member | ⟨rfl, shows⟩, near, bare⟩ := (succ j).mp h
        · exact out ⟨j, member⟩
        · exact shut ⟨near, shows, by simp [bare]⟩
      exact ⟨placed_single out unplaced fun h => outside ⟨i, h⟩, .outside outside fresh⟩
  | @inside j head member first =>
    have undetected := member.not_detected known
    cases linked with
    | opens h =>
      have shows : r.detected = true := h.2.1
      simp [undetected] at shows
    | goesOn _ _ near bare =>
      have goesOn := (succ j).mpr ⟨.inl member, near, by simpa using bare⟩
      have after : Current window rs (i + 1) next
          (grade (place next .middle) head.entry.severity) := .inside goesOn first
      exact ⟨placed_inside member first known goesOn, after⟩
    | ends _ _ cut =>
      have outside : ¬ ∃ j, Heads window rs j (i + 1) := by
        rintro ⟨k, h⟩
        obtain ⟨-, near, bare⟩ := (succ k).mp h
        exact cut.elim (fun shows => by simp [bare] at shows) (absurd near)
      have placed : Placed window rs i r (grade (place r .finish) head.entry.severity) :=
        placed_last member first known outside
      exact ⟨placed, .outside outside fresh⟩
    | repeated _ start => simp at start
    | single _ out => simp at out

theorem Current.close (h : Current window rs i r c) (known : rs[i]? = some r)
    (last : rs[i + 1]? = none) : Placed window rs i r (close c) := by
  have ends : ¬ ∃ j, Heads window rs j (i + 1) := by
    rintro ⟨_, h⟩
    exact not_heads_of_none last h
  cases h with
  | outside out unplaced =>
    have same : Group.close r = r := if_neg (by simp [unplaced])
    rw [same]
    exact placed_single out unplaced fun h => ends ⟨i, h⟩
  | @inside j head member first =>
    have placed : Placed window rs i r (grade (place r .finish) head.entry.severity) :=
      placed_last member first known ends
    exact placed

/-! ### Whole lists -/

theorem getElem?_of_drop {rest : List Record} (left : rs.drop i = r :: rest) :
    rs[i]? = some r ∧ rs.drop (i + 1) = rest := by
  have first : (rs.drop i)[0]? = some r := by rw [left]; rfl
  have others : (rs.drop i).drop 1 = rest := by rw [left]; rfl
  exact ⟨by simpa using first, by simpa using others⟩

theorem Current.placed {rest : List Record} (h : Current window rs i r c)
    (left : rs.drop i = r :: rest) (fresh : ∀ r ∈ rest, position r = none)
    (known : (batchFrom window c rest)[k]? = some d) :
    ∃ r, rs[i + k]? = some r ∧ Placed window rs (i + k) r d := by
  induction rest generalizing i r c k with
  | nil =>
    obtain ⟨here, none_⟩ := getElem?_of_drop left
    obtain ⟨rfl, rfl⟩ : k = 0 ∧ Group.close c = d := by
      cases k <;> simp [batchFrom] at known ⊢
      exact known
    have last : rs[i + 1]? = none := List.getElem?_eq_none (List.drop_eq_nil_iff.mp none_)
    exact ⟨r, here, h.close here last⟩
  | cons next rest ih =>
    obtain ⟨here, others⟩ := getElem?_of_drop left
    obtain ⟨there, -⟩ := getElem?_of_drop others
    obtain ⟨placed, after⟩ := h.link here there (fresh next (by simp)) (link_spec c next)
    cases k with
    | zero =>
      obtain rfl : (Group.link window c next).1 = d := Option.some.inj known
      exact ⟨r, here, placed⟩
    | succ k =>
      rw [batchFrom, List.getElem?_cons_succ] at known
      rw [Nat.add_comm k 1, ← Nat.add_assoc]
      exact ih after others (fun r hr => fresh r (by simp [hr])) known

/-- Batch grouping decides about each record in its place: which group it belongs to, if any,
whether that goes on after it, and whether it starts one. -/
theorem batch_placed (fresh : ∀ r ∈ rs, position r = none) :
    (batch window rs).length = rs.length ∧
    ∀ i d, (batch window rs)[i]? = some d → ∃ r, rs[i]? = some r ∧ Placed window rs i r d := by
  refine ⟨by simpa using congrArg List.length (batch_plain rs), fun i d known => ?_⟩
  cases rs with
  | nil => simp [batch] at known
  | cons r rest =>
    have outside : ¬ ∃ j, Heads window (r :: rest) j 0 := by
      rintro ⟨j, h⟩
      have before := h.before
      omega
    have current : Current window (r :: rest) 0 r r := .outside outside (fresh r (by simp))
    have placed := current.placed rfl (fun r hr => fresh r (by simp [hr])) known
    simpa using placed

def blankRecord (timestamp : Int) (severity : Severity) : Record :=
  .ofEntry {
    id := 0, message := .text "", searchText := "", timestamp, severity, stream := .stdout }

def stackTrace : List Record :=
  [blankRecord 0 .error, blankRecord 5 .unknown, blankRecord 14 .unknown, blankRecord 24 .unknown,
    blankRecord 25 .warn]

theorem batch_placed_stackTrace :
    (∀ r ∈ stackTrace, position r = none) ∧
    (batch 10 stackTrace).map position = [some .start, some .middle, some .finish, none, none] ∧
    (batch 10 stackTrace).length = stackTrace.length ∧
    ∀ i d, (batch 10 stackTrace)[i]? = some d →
      ∃ r, stackTrace[i]? = some r ∧ Placed 10 stackTrace i r d := by
  have fresh : ∀ r ∈ stackTrace, position r = none := by decide
  exact ⟨fresh, by decide, batch_placed fresh⟩

end ContainerWatch.Log.Group
