import ContainerWatch.Proofs.Store.Changes
import ContainerWatch.Proofs.Store.Ordering

/-!
Looking a container up by its name. What is looked for is taken for an identifier first, and only if
nothing is found that way for a name. So a tracked container is found by a name that no other one
has, unless the name leads to another container as an identifier; and while the call is under way,
anything else may go on.
-/

namespace ContainerWatch

theorem wantedName_slashes {name : String} (plain : name.toList.head? ≠ some '/') (slashes : Nat) :
    Store.wantedName (String.ofList (List.replicate slashes '/') ++ name) = name := by
  have bare : Store.wantedName (String.ofList (List.replicate slashes '/') ++ name) =
      Store.wantedName name := by
    simp [Store.wantedName, Text.trimStart]
  rw [bare, wantedName_of_head? plain]

namespace Store

variable {s : Store} {id : String} {c : Container}

theorem named?_eq (tidy : Tidy s.tracked) (known : s.tracked.get? id = some c)
    (sole : ∀ other d, s.tracked.get? other = some d → d.name = c.name → other = id) :
    s.named? c.name = some id := by
  have held : c ∈ s.tracked.values :=
    (mem_values_iff tidy).mpr ((tidy.keyed id c known).symm ▸ known)
  obtain ⟨d, found⟩ : ∃ d, s.tracked.values.find? (fun d => d.name = c.name) = some d :=
    Option.isSome_iff_exists.mp (List.find?_isSome.mpr ⟨c, held, by simp⟩)
  have same : d.name = c.name := by simpa using List.find?_some found
  have other := (mem_values_iff tidy).mp (List.mem_of_find?_eq_some found)
  rw [named?, found, Option.map_some, sole d.id d other same]

theorem lookUp_of_unknown (unknown : s.tracked.get? id = none) : s.lookUp id .all = .missing := by
  simp [lookUp, unknown]

theorem lookUp_of_known (known : s.tracked.get? id = some c) :
    s.lookUp id .all = if c.fullyLoaded then .loaded c else .unloaded := by
  simp [lookUp, known, LabelFilter.accepts, LabelFilter.all]

theorem load_answered {d : Container} (tidy : Tidy s.tracked)
    (known : s.tracked.get? id = some c) (own : d.id = id) :
    ∃ x, (s.load id (.ok d)).answer = .ok x ∧ x.id = id := by
  subst own
  cases loaded : c.fullyLoaded with
  | true => exact ⟨c, by simp [load, replaceLoaded?, known, loaded], tidy.keyed _ c known⟩
  | false => exact ⟨{ d with stats := c.stats }, by simp [load, replaceLoaded?, known, loaded], rfl⟩

end Store

theorem ScriptedHost.details_cases (h : ScriptedHost) (id : String) :
    (∃ c, h.details id = .ok c) ∨ h.details id = .error (.notFound id) := by
  unfold details
  split
  · exact .inl ⟨_, rfl⟩
  · exact .inr rfl

theorem ScriptedHost.details_congr {h h' : ScriptedHost} (same : h'.containers = h.containers)
    (id : String) : h'.details id = h.details id := by
  unfold details
  rw [same]

namespace World

def Inspects (w : World) (i : Nat) (id : String) : Prop :=
  (∃ c, w.store.tracked.get? id = some c ∧ c.fullyLoaded = false) ∨
    ∃ due, w.phaseOf i = .inspecting id due

/-- A container that a connected store tracks, that has its name for itself, and of which the host
answers an inspect if a call needs one. -/
structure Named (w : World) (i : Nat) (id name : String) : Prop where
  connected : w.store.connected = true
  known : ∃ c, w.store.tracked.get? id = some c ∧ c.name = name
  sole : ∀ other c, w.store.tracked.get? other = some c → c.name = name → other = id
  answered : w.Inspects i id → ∃ d, w.host.details id = .ok d

/-- The name of a container is not mistaken for the identifier of another one: no other is tracked
under it but one that needs an inspect and is gone from the host. -/
structure Unmistaken (w : World) (i : Nat) (id name : String) : Prop extends Named w i id name where
  free : shortId name = id ∨ ∀ c, w.store.tracked.get? (shortId name) = some c →
    c.fullyLoaded = false ∧ ∃ x, w.host.details (shortId name) = .error (.notFound x)

def Finds (w : World) (i : Nat) (id : String) : Prop :=
  ∃ c, w.phaseOf i = .done (.ok (.container c)) ∧ c.id = id

/-- What comes of a world in which one call goes on alone, and time passes. -/
inductive Proceeds (w : World) (i : Nat) : World → Prop
  | nil : Proceeds w i w
  | pass {v} (clock : Nat) (h : Proceeds w i v) : Proceeds w i { v with clock }
  | step {v v'} (moved : v.step? (.read i) = some v') (h : Proceeds w i v) : Proceeds w i v'

/-- What comes of a world in which a call takes some steps, each while its name is not mistaken.
In between other tasks move, and anything happens outside. -/
inductive Meanwhile (w : World) (i : Nat) (id name : String) : Nat → World → Prop
  | nil : Meanwhile w i id name 0 w
  | happens {n v v'} (out : v.Happens v') (stays : v'.reads[i]? = v.reads[i]?)
    (h : Meanwhile w i id name n v) : Meanwhile w i id name n v'
  | aside {n v v'} (t : Task) (other : t ≠ .read i) (moved : v.step? t = some v')
    (h : Meanwhile w i id name n v) : Meanwhile w i id name n v'
  | step {n v v'} (clear : v.Unmistaken i id name) (moved : v.step? (.read i) = some v')
    (h : Meanwhile w i id name n v) : Meanwhile w i id name (n + 1) v'

variable {settings : StoreSettings} {host : ScriptedHost} {w v u : World}
  {hs : List (World × Task)} {i j k n : Nat} {t : Task} {id name text : String} {r r' : StoreRead}

/-! ### Other tasks -/

theorem reads_miss (w : World) (i : Nat) (r : StoreRead) (id : String) :
    ∃ r', (w.miss i r id).reads = w.reads.set i r' := by
  unfold miss
  split
  · split <;> exact ⟨_, rfl⟩
  · exact ⟨_, rfl⟩

theorem reads_lookUp (w : World) (i : Nat) (r : StoreRead) (id : String) (filter : LabelFilter) :
    ∃ r', (w.lookUp i r id filter).reads = w.reads.set i r' := by
  unfold lookUp
  split
  · exact reads_miss _ i r id
  · exact ⟨_, rfl⟩
  · exact ⟨_, rfl⟩

theorem reads_read (moved : w.step? (.read j) = some v) : ∃ r', v.reads = w.reads.set j r' := by
  obtain ⟨⟨errand, phase⟩, known⟩ := exists_of_stepRead? moved
  simp only [step?, stepRead?, known] at moved
  cases phase with
  | entering =>
    obtain rfl := Option.some.inj moved
    unfold enter
    split
    · exact ⟨_, rfl⟩
    · simp only
      split <;> exact ⟨_, rfl⟩
  | syncing sync =>
    simp only at moved
    split at moved
    · exact Option.some.inj moved ▸ ⟨_, rfl⟩
    · split at moved
      · exact Option.some.inj moved ▸ ⟨_, rfl⟩
      · simp at moved
  | connected =>
    obtain rfl := Option.some.inj moved
    unfold pursue
    split
    · exact ⟨_, rfl⟩
    · exact ⟨_, rfl⟩
    · exact reads_lookUp w j _ _ _
    · exact reads_lookUp w j _ _ _
  | inspecting id due =>
    simp only at moved
    split at moved
    · obtain rfl := Option.some.inj moved
      rw [load_eq, answerInspect]
      split
      · exact ⟨_, rfl⟩
      · exact reads_miss _ j _ _
      · exact ⟨_, rfl⟩
    · simp at moved
  | done result => simp at moved

theorem reads_aside (moved : w.step? t = some v) (other : t ≠ .read i)
    (calm : ∀ sync, w.phaseOf i ≠ .syncing sync) : v.reads[i]? = w.reads[i]? := by
  by_cases read : ∃ j, t = .read j
  · obtain ⟨j, rfl⟩ := read
    obtain ⟨r', reads⟩ := reads_read moved
    have apart : j ≠ i := fun same => other (same ▸ rfl)
    rw [reads, List.getElem?_set_ne apart]
  by_cases inspects : ∃ j, t = .inspects j
  · obtain ⟨j, rfl⟩ := inspects
    simp only [step?, stepInspects?] at moved
    split at moved
    · next sync errand known =>
      obtain ⟨⟨host, sync'⟩, -, rfl⟩ := Option.map_eq_some_iff.mp moved
      have apart : j ≠ i := fun same => calm _ (phaseOf_eq (same ▸ known))
      exact List.getElem?_set_ne apart
    · simp at moved
  by_cases feed : ∃ m, t = .feed m
  · obtain ⟨m, rfl⟩ := feed
    rw [(beside_feed moved).1]
  rw [(beside_of_step moved (fun j eq => read ⟨j, eq⟩) (fun j eq => inspects ⟨j, eq⟩)
    (fun m eq => feed ⟨m, eq⟩)).2.1]

/-! ### The steps of the call -/

/-- How far a call is that looks a container up by its name. At most so many steps are left: the
name is tried as an identifier, and then the identifier of the name is. -/
inductive Seeking (id text : String) : Nat → StoreRead → Prop
  | called : Seeking id text 6 { errand := .resolve text }
  | begun : Seeking id text 5 { errand := .resolve text, phase := .connected }
  | guessed (due : Nat) : Seeking id text 4
      { errand := .resolve text, phase := .inspecting (shortId (Store.wantedName text)) due }
  | told : Seeking id text 3 { errand := .find id .all }
  | sought : Seeking id text 2 { errand := .find id .all, phase := .connected }
  | asked (due : Nat) : Seeking id text 1
      { errand := .find id .all, phase := .inspecting id due }
  | found (errand : Errand) {c : Container} (own : c.id = id) : Seeking id text 0
      { errand, phase := .done (.ok (.container c)) }

/-- A step of the call that leaves the table and the host alone does not make the name mistaken. -/
theorem Unmistaken.goes (clear : w.Unmistaken i id name) (known : u.reads[i]? = some r)
    (connected : u.store.connected = w.store.connected)
    (tracked : u.store.tracked = w.store.tracked)
    (containers : u.host.containers = w.host.containers)
    (asks : ∀ due, r'.phase = .inspecting id due → w.Inspects i id) :
    (u.continueRead i r').Unmistaken i id name where
  connected := connected.trans clear.connected
  known := tracked.symm ▸ clear.known
  sole := tracked.symm ▸ clear.sole
  answered needed := by
    have before : w.Inspects i id := by
      obtain bare | ⟨due, phase⟩ := needed
      · exact .inl (tracked ▸ bare)
      · exact asks due ((phaseOf_continueRead known r').symm.trans phase)
    obtain ⟨d, answer⟩ := clear.answered before
    exact ⟨d, (ScriptedHost.details_congr containers id).trans answer⟩
  free := by
    refine clear.free.imp (fun same => same) fun gone c other => ?_
    obtain ⟨bare, x, answer⟩ := gone c (tracked ▸ other)
    exact ⟨bare, x, (ScriptedHost.details_congr containers _).trans answer⟩

/-- How the call is after a step: nearer to its end, and its name is not mistaken. -/
def Nearer (i : Nat) (id text : String) (k : Nat) (v : World) : Prop :=
  ∃ k' r', k' < k ∧ v.reads[i]? = some r' ∧ Seeking id text k' r' ∧
    (0 < k' → v.Unmistaken i id (Store.wantedName text))

theorem nearer_miss (clear : w.Unmistaken i id (Store.wantedName text))
    (tidy : Store.Tidy w.store.tracked) (known : u.reads[i]? = some r)
    (errand : r.errand = .resolve text) (connected : u.store.connected = w.store.connected)
    (tracked : u.store.tracked = w.store.tracked)
    (containers : u.host.containers = w.host.containers) (more : 3 < k) (x : String) :
    Nearer i id text k (u.miss i r x) := by
  obtain ⟨c, entry, named⟩ := clear.known
  have told : u.store.named? (Store.wantedName text) = some id := by
    rw [← named]
    exact Store.named?_eq (tracked.symm ▸ tidy) (tracked.symm ▸ entry) fun other d known same =>
      clear.sole other d (tracked ▸ known) (same.trans named)
  have missed : u.miss i r x = u.continueRead i { errand := .find id .all } := by
    simp only [miss, errand, told]
  rw [missed]
  exact ⟨3, _, more, getElem?_continueRead known, .told,
    fun _ => clear.goes known connected tracked containers (by simp)⟩

/-- An entry is looked up that is the one of the name, or needs an inspect. -/
theorem nearer_lookUp {c : Container} {x : String}
    (clear : w.Unmistaken i id (Store.wantedName text)) (tidy : Store.Tidy w.store.tracked)
    (known : w.reads[i]? = some r) (entry : w.store.tracked.get? x = some c)
    (own : c.fullyLoaded = true → x = id)
    (asks : ∀ due, Seeking id text n { r with phase := .inspecting x due }) (more : n < k) :
    Nearer i id text k (w.lookUp i r x .all) := by
  have looked := Store.lookUp_of_known entry
  cases loaded : c.fullyLoaded with
  | true =>
    have finished : w.lookUp i r x .all = w.finishRead i r (.ok (.container c)) := by
      simp only [lookUp, looked, loaded, if_true]
    rw [finished]
    exact ⟨0, _, Nat.zero_lt_of_lt more, getElem?_continueRead known,
      .found r.errand ((tidy.keyed x c entry).trans (own loaded)), by simp⟩
  | false =>
    have inspects : w.lookUp i r x .all = { w with host := w.host.beginInspect }.continueRead i
        { r with phase := .inspecting x (w.clock + w.host.inspectDelay) } := by
      simp only [lookUp, looked, loaded, Bool.false_eq_true, if_false]
    have known : ({ w with host := w.host.beginInspect } : World).reads[i]? = some r := known
    rw [inspects]
    refine ⟨n, _, more, getElem?_continueRead known, asks _, fun _ => ?_⟩
    refine clear.goes known rfl rfl rfl fun due same => .inl ⟨c, ?_, loaded⟩
    obtain ⟨rfl, -⟩ := ReadPhase.inspecting.inj same
    exact entry

theorem nearer_load {due : Nat} (clear : w.Unmistaken i id (Store.wantedName text))
    (tidy : Store.Tidy w.store.tracked) (known : w.reads[i]? = some r)
    (phase : r.phase = .inspecting id due) (pos : 0 < k) : Nearer i id text k (w.load i r id) := by
  obtain ⟨c, entry, -⟩ := clear.known
  obtain ⟨d, answer⟩ := clear.answered (.inr ⟨due, (phaseOf_eq known).trans phase⟩)
  obtain ⟨x, brought, own⟩ :=
    Store.load_answered tidy entry (ScriptedHost.details_id answer).1
  have finished : w.load i r id =
      (w.takeAnswer id (.ok d)).finishRead i r (.ok (.container x)) := by
    rw [load_eq, answer, answerInspect, brought]
  rw [finished]
  exact ⟨0, _, pos, getElem?_continueRead (w := w.takeAnswer id (.ok d)) known,
    .found r.errand own, by simp⟩

theorem nearer_load_gone {x : String} (clear : w.Unmistaken i id (Store.wantedName text))
    (tidy : Store.Tidy w.store.tracked) (known : w.reads[i]? = some r)
    (errand : r.errand = .resolve text)
    (gone : ∀ c, w.store.tracked.get? x = some c →
      c.fullyLoaded = false ∧ ∃ y, w.host.details x = .error (.notFound y)) (more : 3 < k) :
    Nearer i id text k (w.load i r x) := by
  have failed : (w.store.load x (w.host.details x)).answer = .error (.containerNotFound x) := by
    obtain ⟨d, answer⟩ | unknown := w.host.details_cases x
    · -- The host knows the container, so the table does not, and the answer comes too late.
      cases entry : w.store.tracked.get? x with
      | none =>
        have own := (ScriptedHost.details_id answer).1
        simp [answer, Store.load, Store.replaceLoaded?, own, entry]
      | some c =>
        obtain ⟨-, y, refused⟩ := gone c entry
        simp [refused] at answer
    · rw [unknown]
      rfl
  have tracked := (load_of_failed failed).2
  have connected := (w.store.tied_load x (w.host.details x)).connected
  have known : (w.takeAnswer x (w.host.details x)).reads[i]? = some r := known
  have missed : w.load i r x = (w.takeAnswer x (w.host.details x)).miss i r x := by
    rw [load_eq, answerInspect, failed]
  rw [missed]
  exact nearer_miss clear tidy known errand connected tracked rfl more x

theorem Seeking.step (h : Seeking id text k r) (known : w.reads[i]? = some r)
    (clear : w.Unmistaken i id (Store.wantedName text)) (tidy : Store.Tidy w.store.tracked)
    (moved : w.step? (.read i) = some v) : Nearer i id text k v := by
  obtain ⟨c, entry, named⟩ := clear.known
  cases h with
  | called =>
    rw [step_entering known rfl clear.connected] at moved
    obtain rfl := Option.some.inj moved
    exact ⟨5, _, by omega, getElem?_continueRead known, .begun,
      fun _ => clear.goes known rfl rfl rfl (by simp)⟩
  | begun =>
    rw [step_connected known rfl] at moved
    obtain rfl := Option.some.inj moved
    show Nearer i id text 5 (w.lookUp i _ (shortId (Store.wantedName text)) .all)
    -- The name is taken for an identifier, which may be the one of the container all the same.
    cases other : w.store.tracked.get? (shortId (Store.wantedName text)) with
    | none =>
      have known : ({ w with store := w.store.note .containerUnknown } : World).reads[i]? =
        some { errand := .resolve text, phase := .connected } := known
      simp only [lookUp, Store.lookUp_of_unknown other]
      exact nearer_miss clear tidy known rfl rfl rfl rfl (by omega) _
    | some o =>
      refine nearer_lookUp clear tidy known other (fun loaded => ?_) .guessed (by omega)
      refine clear.free.resolve_right fun gone => ?_
      simp [(gone o other).1] at loaded
  | guessed due =>
    simp only [step?, stepRead?, known] at moved
    split at moved
    · obtain rfl := Option.some.inj moved
      obtain own | gone := clear.free
      · rw [own] at known ⊢
        exact nearer_load clear tidy known rfl (by omega)
      · exact nearer_load_gone clear tidy known rfl gone (by omega)
    · simp at moved
  | told =>
    rw [step_entering known rfl clear.connected] at moved
    obtain rfl := Option.some.inj moved
    exact ⟨2, _, by omega, getElem?_continueRead known, .sought,
      fun _ => clear.goes known rfl rfl rfl (by simp)⟩
  | sought =>
    rw [step_connected known rfl] at moved
    obtain rfl := Option.some.inj moved
    exact nearer_lookUp clear tidy known entry (fun _ => rfl) .asked (by omega)
  | asked due =>
    simp only [step?, stepRead?, known] at moved
    split at moved
    · obtain rfl := Option.some.inj moved
      exact nearer_load clear tidy known rfl (by omega)
    · simp at moved
  | found errand own => simp [step?, stepRead?, known] at moved

/-! ### The whole call -/

theorem Seeking.finds {result : Except StoreFault Finding} (h : Seeking id text k r)
    (known : w.reads[i]? = some r) (ended : w.phaseOf i = .done result) : w.Finds i id := by
  rw [phaseOf_eq known] at ended
  cases h with
  | @found errand c own => exact ⟨c, phaseOf_eq known, own⟩
  | _ => simp at ended

theorem Seeking.movable (h : Seeking id text k r) (known : w.reads[i]? = some r) :
    k = 0 ∧ w.Finds i id ∨ (w.step? (.read i)).isSome = true ∨
      ∃ x due, w.phaseOf i = .inspecting x due ∧ w.clock < due := by
  have waiting : ∀ x due, r.phase = .inspecting x due → (w.step? (.read i)).isSome = true ∨
      ∃ x due, w.phaseOf i = .inspecting x due ∧ w.clock < due := fun x due phase => by
    by_cases ready : due ≤ w.clock
    · exact .inl (by simp [step?, stepRead?, known, phase, ready])
    · exact .inr ⟨x, due, (phaseOf_eq known).trans phase, Nat.lt_of_not_le ready⟩
  cases h with
  | guessed due => exact .inr (waiting _ due rfl)
  | asked due => exact .inr (waiting id due rfl)
  | @found errand c own => exact .inl ⟨rfl, c, phaseOf_eq known, own⟩
  | _ => exact .inr (.inl (by simp [step?, stepRead?, known]))

theorem Unmistaken.pass (clear : w.Unmistaken i id name) (clock : Nat) :
    ({ w with clock } : World).Unmistaken i id name :=
  ⟨⟨clear.connected, clear.known, clear.sole, clear.answered⟩, clear.free⟩

theorem Seeking.exists_step (h : Seeking id text k r) (known : w.reads[i]? = some r)
    (pos : 0 < k) : ∃ clock v, ({ w with clock } : World).step? (.read i) = some v := by
  obtain ⟨ended, -⟩ | ready | ⟨x, due, phase, -⟩ := h.movable known
  · omega
  · exact ⟨w.clock, Option.isSome_iff_exists.mp ready⟩
  · have later : ({ w with clock := due } : World).reads[i]? = some r := known
    obtain ⟨ended, -⟩ | ready | ⟨y, due', phase', late⟩ := h.movable later
    · omega
    · exact ⟨due, Option.isSome_iff_exists.mp ready⟩
    · obtain ⟨-, rfl⟩ := ReadPhase.inspecting.inj (phase.symm.trans phase')
      exact absurd late (Nat.lt_irrefl _)

theorem Proceeds.course (proceeds : w.Proceeds i v) (course : Course (initial settings host) hs w) :
    ∃ hs', Course (initial settings host) hs' v := by
  induction proceeds with
  | nil => exact ⟨hs, course⟩
  | pass clock h ih =>
    obtain ⟨_, ih⟩ := ih
    exact ⟨_, ih.happens (.pass clock)⟩
  | step moved h ih =>
    obtain ⟨_, ih⟩ := ih
    exact ⟨_, ih.step _ moved⟩

theorem Meanwhile.course (meanwhile : w.Meanwhile i id name n v)
    (course : Course (initial settings host) hs w) :
    ∃ hs', Course (initial settings host) hs' v := by
  induction meanwhile with
  | nil => exact ⟨hs, course⟩
  | happens out stays h ih =>
    obtain ⟨_, ih⟩ := ih
    exact ⟨_, ih.happens out⟩
  | aside t other moved h ih =>
    obtain ⟨_, ih⟩ := ih
    exact ⟨_, ih.step t moved⟩
  | step clear moved h ih =>
    obtain ⟨_, ih⟩ := ih
    exact ⟨_, ih.step _ moved⟩

theorem Course.tidy (course : Course (initial settings host) hs w) : Store.Tidy w.store.tracked :=
  course.path.held.tidy

theorem Proceeds.nearer (proceeds : w.Proceeds i v)
    (course : Course (initial settings host) hs w) (nearer : Nearer i id text k w) :
    Nearer i id text k v := by
  induction proceeds with
  | nil => exact nearer
  | pass clock h ih =>
    obtain ⟨m, r, less, known, seeking, clear⟩ := ih
    exact ⟨m, r, less, known, seeking, fun pos => (clear pos).pass clock⟩
  | @step v v' moved h ih =>
    obtain ⟨m, r, less, known, seeking, clear⟩ := ih
    obtain ⟨_, reached⟩ := h.course course
    cases m with
    | zero =>
      cases seeking
      simp [step?, stepRead?, known] at moved
    | succ m =>
      obtain ⟨m', r', less', rest⟩ :=
        seeking.step known (clear (Nat.succ_pos m)) reached.tidy moved
      exact ⟨m', r', Nat.lt_trans less' less, rest⟩

theorem exists_finds (course : Course (initial settings host) hs w) (proceeds : w.Proceeds i v)
    (nearer : Nearer i id text k v) : ∃ u, w.Proceeds i u ∧ u.Finds i id := by
  -- By the steps that are left; before each of them time passes until the host has answered.
  induction k generalizing v with
  | zero =>
    obtain ⟨_, _, less, -⟩ := nearer
    omega
  | succ k ih =>
    obtain ⟨m, r, less, known, seeking, clear⟩ := nearer
    cases m with
    | zero =>
      cases seeking with
      | @found errand c own => exact ⟨v, proceeds, c, phaseOf_eq known, own⟩
    | succ m =>
      obtain ⟨clock, v', moved⟩ := seeking.exists_step known (Nat.succ_pos m)
      obtain ⟨_, reached⟩ := proceeds.course course
      have clear := (clear (Nat.succ_pos m)).pass clock
      obtain ⟨m', r', less', rest⟩ :=
        seeking.step (w := { v with clock }) known clear reached.tidy moved
      exact ih ((proceeds.pass clock).step moved) ⟨m', r', by omega, rest⟩

/-- Whatever goes on beside it, a call is as far as it has taken steps. -/
theorem Meanwhile.seeking (meanwhile : w.Meanwhile i id (Store.wantedName text) n v)
    (course : Course (initial settings host) hs w)
    (called : w.reads[i]? = some { errand := .resolve text }) :
    ∃ k r, n + k ≤ 6 ∧ v.reads[i]? = some r ∧ Seeking id text k r := by
  induction meanwhile with
  | nil => exact ⟨6, _, by omega, called, .called⟩
  | happens out stays h ih =>
    obtain ⟨k, r, most, known, seeking⟩ := ih
    exact ⟨k, r, most, stays.trans known, seeking⟩
  | aside t other moved h ih =>
    obtain ⟨k, r, most, known, seeking⟩ := ih
    have calm : ∀ sync, r.phase ≠ .syncing sync := by cases seeking <;> simp
    have stays := reads_aside moved other fun sync => by
      rw [phaseOf_eq known]
      exact calm sync
    exact ⟨k, r, most, stays.trans known, seeking⟩
  | step clear moved h ih =>
    obtain ⟨k, r, most, known, seeking⟩ := ih
    obtain ⟨_, reached⟩ := h.course course
    obtain ⟨k', r', less, known', seeking', -⟩ := seeking.step known clear reached.tidy moved
    exact ⟨k', r', by omega, known', seeking'⟩

/-- A container is found by its own name, with any number of slashes in front, if no other tracked
container has that name and the name is not mistaken for the identifier of another one. A call that
goes on alone comes to its end, and brings that container home. Whatever else goes on meanwhile, if
this is so at each step of the call, it takes at most six of them, it waits for nothing but answers
of the host, and no other result comes of it. -/
theorem resolve_by_name (course : Course (initial settings host) hs w)
    (plain : name.toList.head? ≠ some '/') (slashes : Nat)
    (called : w.reads[i]? =
      some { errand := .resolve (String.ofList (List.replicate slashes '/') ++ name) }) :
    (w.Unmistaken i id name →
      (∃ v, w.Proceeds i v ∧ v.Finds i id) ∧
      ∀ v result, w.Proceeds i v → v.phaseOf i = .done result → v.Finds i id) ∧
    ∀ n v, w.Meanwhile i id name n v →
      n ≤ 6 ∧ (∀ result, v.phaseOf i = .done result → v.Finds i id) ∧
      (v.Finds i id ∨ (v.step? (.read i)).isSome = true ∨
        ∃ x due, v.phaseOf i = .inspecting x due ∧ v.clock < due) := by
  have wanted := wantedName_slashes plain slashes
  refine ⟨fun clear => ?_, fun n v meanwhile => ?_⟩
  · rw [← wanted] at clear
    have begun : Nearer i id _ 7 w := ⟨6, _, by omega, called, .called, fun _ => clear⟩
    refine ⟨exists_finds course .nil begun, fun v result proceeds ended => ?_⟩
    obtain ⟨k, r, -, known, seeking, -⟩ := proceeds.nearer course begun
    exact seeking.finds known ended
  · rw [← wanted] at meanwhile
    obtain ⟨k, r, most, known, seeking⟩ := meanwhile.seeking course called
    refine ⟨by omega, fun result ended => seeking.finds known ended, ?_⟩
    exact (seeking.movable known).imp_left And.right

def echoHost (state : ContainerState) : ScriptedHost :=
  ((ScriptedHost.named "fake").put { id := "aaa", name := "bbb", state }).put
    { id := "bbb", name := "web", state }

def echoGone : World :=
  { World.start {} (echoHost .exited) with
    host := (echoHost .exited).remove "bbb"
    reads := [{ errand := .resolve "//bbb" }] }

theorem resolve_by_name_echoGone :
    (∃ hs, Course (initial {} (echoHost .exited)) hs echoGone) ∧
      "bbb".toList.head? ≠ some '/' ∧
      echoGone.reads[0]? =
        some { errand := .resolve (String.ofList (List.replicate 2 '/') ++ "bbb") } ∧
      echoGone.Unmistaken 0 "aaa" "bbb" ∧ ∃ v, echoGone.Proceeds 0 v ∧ v.Finds 0 "aaa" := by
  obtain ⟨_, started⟩ := Course.start {} (echoHost .exited)
  have asked : Course (initial {} (echoHost .exited)) _ echoGone :=
    ((started.happens (.leave (List.nil_sublist _))).happens (.begin [.resolve "//bbb"])).happens
      (.host ((echoHost .exited).remove "bbb"))
  have plain : "bbb".toList.head? ≠ some '/' := by decide
  have called : echoGone.reads[0]? =
      some { errand := .resolve (String.ofList (List.replicate 2 '/') ++ "bbb") } := rfl
  have named : (echoGone.store.tracked.get? "aaa").any (·.name = "bbb") = true := by decide +kernel
  have sole : ∀ p ∈ echoGone.store.tracked, p.2.name = "bbb" → p.1 = "aaa" := by decide +kernel
  have bare : ∀ p ∈ echoGone.store.tracked, p.2.fullyLoaded = false := by decide +kernel
  have clear : echoGone.Unmistaken 0 "aaa" "bbb" := {
    connected := by decide +kernel
    known := by simpa [Option.any_eq_true] using named
    sole := fun other c known => sole (other, c) (Entries.mem_of_get? known)
    answered := fun _ => ⟨_, rfl⟩
    free := .inr fun c known => ⟨bare (_, c) (Entries.mem_of_get? known), "bbb", rfl⟩ }
  have found := ((resolve_by_name asked plain 2 called).1 clear).1
  exact ⟨⟨_, asked⟩, plain, called, clear, found⟩

def echoed : World :=
  { World.start {} (echoHost .running) with reads := [{ errand := .resolve "bbb" }] }

/-- A name that is the identifier of another container leads to that one. -/
theorem mistaken_echoed :
    (∃ hs, Course (initial {} (echoHost .running)) hs echoed) ∧
      "bbb".toList.head? ≠ some '/' ∧ echoed.reads[0]? = some { errand := .resolve "bbb" } ∧
      echoed.Named 0 "aaa" "bbb" ∧
      (∃ d, echoed.host.details "aaa" = .ok d ∧ d.name = "bbb") ∧
      ∃ v, echoed.Proceeds 0 v ∧ v.Finds 0 "bbb" ∧ ¬ v.Finds 0 "aaa" := by
  obtain ⟨_, started⟩ := Course.start {} (echoHost .running)
  have asked : Course (initial {} (echoHost .running)) _ echoed :=
    (started.happens (.leave (List.nil_sublist _))).happens (.begin [.resolve "bbb"])
  have named : (echoed.store.tracked.get? "aaa").any (·.name = "bbb") = true := by decide +kernel
  have sole : ∀ p ∈ echoed.store.tracked, p.2.name = "bbb" → p.1 = "aaa" := by decide +kernel
  have tells : echoed.Named 0 "aaa" "bbb" := {
    connected := by decide +kernel
    known := by simpa [Option.any_eq_true] using named
    sole := fun other c known => sole (other, c) (Entries.mem_of_get? known)
    answered := fun _ => ⟨_, rfl⟩ }
  have entered := Proceeds.nil.step (step?_moved (w := echoed) (t := .read 0) (by decide +kernel))
  have ended := entered.step (step?_moved (by decide +kernel))
  obtain ⟨c, result, own⟩ : ((echoed.moved (.read 0)).moved (.read 0)).Finds 0 "bbb" :=
    ⟨_, rfl, rfl⟩
  refine ⟨⟨_, asked⟩, by decide, rfl, tells, ⟨_, rfl, rfl⟩, _, ended, ⟨c, result, own⟩, ?_⟩
  rintro ⟨d, result', own'⟩
  obtain rfl : c = d := by simpa using result.symm.trans result'
  simp [own] at own'

end World

end ContainerWatch
