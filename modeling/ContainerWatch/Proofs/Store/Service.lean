import ContainerWatch.Proofs.Store.Feeds

/-!
A store in the service of reads that list or look up, while its host fails and recovers, breaks its
feeds and sends events, and time passes. A chronicle of the attempts to synchronise and of the steps
of the reads stays right about the line to the host and about the phase of each read, and the rounds
in which the tasks take their turns are among the ways that are described here.
-/

namespace ContainerWatch

def Errand.isPlain : Errand → Bool
  | resolve _ => false
  | _ => true

namespace World

def asks (w : World) : Nat := if w.store.connected then 0 else 1

def admits (w : World) : Bool := w.store.connected || w.isListable

def phaseOf (w : World) (i : Nat) : ReadPhase := (w.reads[i]?).elim .entering (·.phase)

/-- The attempt to synchronise that a step makes: the number of its feed, and whether the listing is
answered. -/
def attempt? (w : World) : Task → Option (Nat × Bool)
  | .read i =>
    if w.enters i && !w.store.connected then some (w.store.feeds.length, w.isListable) else none
  | _ => none

end World

/-- What is remembered of the way of a world: the last attempt to synchronise, and the steps since
reads were last given up, each in its world. -/
structure Chronicle where
  attempt : Option (Nat × Bool) := none
  steps : List (World × Task) := []

/-- What is remembered of one read: the worlds in which it checked the connection, how many listings
it asked for, and whether it went after its errand. -/
structure ReadRecord where
  entries : List World
  listings : Nat
  passed : Bool

inductive ReadRecord.Tells : ReadRecord → ReadPhase → Prop
  | entering : Tells ⟨[], 0, false⟩ .entering
  | syncing {u n sync} (asked : n = u.asks) (apart : u.store.connected = false)
    (answered : u.isListable = true) : Tells ⟨[u], n, false⟩ (.syncing sync)
  | connected {u n} (asked : n = u.asks) (through : u.admits = true) :
    Tells ⟨[u], n, false⟩ .connected
  | inspecting {u n id due} (asked : n = u.asks) (through : u.admits = true) :
    Tells ⟨[u], n, true⟩ (.inspecting id due)
  | done {u n passed result} (asked : n = u.asks) (same : passed = u.admits) :
    Tells ⟨[u], n, passed⟩ (.done result)

theorem ReadRecord.Tells.again {r : ReadRecord} {sync : Enrichment} (h : r.Tells (.syncing sync))
    (sync' : Enrichment) : r.Tells (.syncing sync') := by
  cases h with
  | syncing asked apart answered => exact .syncing asked apart answered

namespace Chronicle

def next (c : Chronicle) (w : World) (t : Task) : Chronicle where
  attempt := (w.attempt? t).or c.attempt
  steps := c.steps ++ [(w, t)]

def entries (c : Chronicle) (i : Nat) : List World :=
  c.steps.filterMap fun p => if p.2 = .read i ∧ p.1.enters i then some p.1 else none

def listings (c : Chronicle) (i : Nat) : Nat :=
  total (fun p => if p.2 = .read i then (p.1.moved p.2).host.lists - p.1.host.lists else 0) c.steps

def passed (c : Chronicle) (i : Nat) : Bool :=
  c.steps.any fun p => p.2 = .read i && p.1.isConnected i

def record (c : Chronicle) (i : Nat) : ReadRecord := ⟨c.entries i, c.listings i, c.passed i⟩

def cleared (c : Chronicle) : Chronicle := { c with steps := [] }

section Next

variable {c : Chronicle} {w : World} {t : Task} {i : Nat}

theorem entries_next : (c.next w t).entries i =
    c.entries i ++ if t = .read i ∧ w.enters i then [w] else [] := by
  rw [entries, next, List.filterMap_append]
  by_cases own : t = .read i ∧ w.enters i = true <;> simp [entries, own]

theorem listings_next : (c.next w t).listings i =
    c.listings i + if t = .read i then (w.moved t).host.lists - w.host.lists else 0 := by
  simp [listings, next, total_append, total]

theorem passed_next : (c.next w t).passed i =
    (c.passed i || (t = .read i && w.isConnected i)) := by
  simp [passed, next]

end Next

end Chronicle

namespace World

variable {w v : World} {i : Nat}

structure Apart (w v : World) : Prop where
  line : v.line = w.line
  lists : v.host.lists = w.host.lists

/-- How a step takes a read from one phase to another. -/
inductive Goes (w v : World) : ReadPhase → ReadPhase → Prop
  | straight (connected : w.store.connected = true) (same : w.Apart v) :
    Goes w v .entering .connected
  | listed {sync} (apart : w.store.connected = false) (answered : w.isListable = true)
    (line : v.line = w.line.attempted true) (lists : v.host.lists = w.host.lists + 1) :
    Goes w v .entering (.syncing sync)
  | refused {result} (apart : w.store.connected = false) (refused : w.isListable = false)
    (line : v.line = w.line.attempted false) (lists : v.host.lists = w.host.lists + 1) :
    Goes w v .entering (.done result)
  | enriched {sync sync'} (same : w.Apart v) : Goes w v (.syncing sync) (.syncing sync')
  | synced {sync} (same : w.Apart v) : Goes w v (.syncing sync) .connected
  | asked {id due} (same : w.Apart v) : Goes w v .connected (.inspecting id due)
  | found {result} (same : w.Apart v) : Goes w v .connected (.done result)
  | answered {id due result} (same : w.Apart v) : Goes w v (.inspecting id due) (.done result)

theorem miss_goes {w : World} {r : StoreRead} (plain : r.errand.isPlain = true) (id : String) :
    w.miss i r id = w.finishRead i r (.error (.containerNotFound id)) := by
  obtain ⟨errand, phase⟩ := r
  cases errand with
  | resolve text => simp [Errand.isPlain] at plain
  | _ => rfl

theorem read_goes {r : StoreRead} (known : w.reads[i]? = some r)
    (plain : r.errand.isPlain = true) (moved : w.step? (.read i) = some v) :
    ∃ p, v.reads = w.reads.set i { r with phase := p } ∧ Goes w v r.phase p := by
  obtain ⟨errand, phase⟩ := r
  simp only [step?, stepRead?, known] at moved
  cases phase with
  | entering =>
    obtain rfl := Option.some.inj moved
    cases connected : w.store.connected with
    | true =>
      simp only [enter, connected, if_true]
      exact ⟨_, rfl, .straight connected ⟨rfl, rfl⟩⟩
    | false =>
      have line := line_enter (i := i) (r := ⟨errand, .entering⟩) connected
      have settings := w.store.still_beginSync.settings
      simp only [enter, connected, Bool.false_eq_true, if_false, settings] at line ⊢
      cases reply : w.host.listing w.store.settings.filter with
      | error fault =>
        have refused : w.isListable = false := by rw [isListable, reply]; rfl
        rw [reply, refused] at line
        exact ⟨_, rfl, .refused connected refused line rfl⟩
      | ok listing =>
        have answered : w.isListable = true := by rw [isListable, reply]; rfl
        rw [reply, answered] at line
        exact ⟨_, rfl, .listed connected answered line rfl⟩
  | syncing e =>
    obtain ⟨running, queued, inFlight, outcomes⟩ := e
    cases outcomes with
    | cons o rest =>
      obtain rfl := Option.some.inj moved
      exact ⟨_, rfl, .enriched ⟨line_of_tied (w.store.tied_enrich o) rfl, rfl⟩⟩
    | nil =>
      simp only at moved
      split at moved
      · obtain rfl := Option.some.inj moved
        exact ⟨_, rfl, .synced ⟨line_of_tied (w.store.tied_endSync running) rfl, rfl⟩⟩
      · simp at moved
  | connected =>
    obtain rfl := Option.some.inj moved
    cases errand with
    | connect => exact ⟨_, rfl, .found ⟨rfl, rfl⟩⟩
    | list filter => exact ⟨_, rfl, .found ⟨rfl, rfl⟩⟩
    | find id filter =>
      simp only [pursue, lookUp]
      split
      · rw [miss_goes plain]
        exact ⟨_, rfl, .found ⟨rfl, rfl⟩⟩
      · exact ⟨_, rfl, .found ⟨rfl, rfl⟩⟩
      · exact ⟨_, rfl, .asked ⟨rfl, rfl⟩⟩
    | resolve text => simp [Errand.isPlain] at plain
  | inspecting id due =>
    simp only at moved
    split at moved
    · obtain rfl := Option.some.inj moved
      have tied := w.store.tied_load id (w.host.details id)
      simp only [load]
      split
      · exact ⟨_, rfl, .answered ⟨line_of_tied tied rfl, rfl⟩⟩
      · rw [miss_goes plain]
        exact ⟨_, rfl, .answered ⟨line_of_tied tied rfl, rfl⟩⟩
      · exact ⟨_, rfl, .answered ⟨line_of_tied tied rfl, rfl⟩⟩
    · simp at moved
  | done result => simp at moved

theorem phaseOf_eq {r : StoreRead} (known : w.reads[i]? = some r) : w.phaseOf i = r.phase := by
  rw [phaseOf, known]
  rfl

theorem phaseOf_set {r : StoreRead} (known : w.reads[i]? = some r) {r' : StoreRead}
    (set : v.reads = w.reads.set i r') (j : Nat) :
    v.phaseOf j = if j = i then r'.phase else w.phaseOf j := by
  have inside := (List.getElem?_eq_some_iff.mp known).1
  rw [phaseOf, phaseOf, set, List.getElem?_set]
  by_cases same : i = j
  · subst same
    simp [inside]
  · simp [same, Ne.symm same]

end World

open World in
theorem Chronicle.tells_next {c : Chronicle} {w v : World} {i : Nat} {r : StoreRead}
    {p : ReadPhase} (h : (c.record i).Tells r.phase) (known : w.reads[i]? = some r)
    (moved : w.step? (.read i) = some v) (goes : w.Goes v r.phase p) :
    ((c.next w (.read i)).record i).Tells p := by
  have entered : w.enters i = r.phase.isEntering := by rw [enters, known]; rfl
  have pursued : w.isConnected i = r.phase.isConnected := by rw [World.isConnected, known]; rfl
  have after : w.moved (.read i) = v := by rw [World.moved, moved]; rfl
  have next : (c.next w (.read i)).record i =
      ⟨c.entries i ++ (if r.phase.isEntering then [w] else []),
        c.listings i + (v.host.lists - w.host.lists), c.passed i || r.phase.isConnected⟩ := by
    rw [record, entries_next, listings_next, passed_next, entered, pursued, after]
    simp
  rw [next]
  rw [record] at h
  generalize c.entries i = entries, c.listings i = listings, c.passed i = passed at h
  obtain ⟨errand, phase⟩ := r
  cases goes with
  | straight connected same =>
    cases h
    rw [same.lists, Nat.sub_self]
    exact .connected (by simp [asks, connected]) (by simp [admits, connected])
  | listed apart answered line lists =>
    cases h
    rw [lists, Nat.add_sub_cancel_left]
    exact .syncing (by simp [asks, apart]) apart answered
  | refused apart refused line lists =>
    cases h
    rw [lists, Nat.add_sub_cancel_left]
    exact .done (by simp [asks, apart]) (by simp [admits, apart, refused, ReadPhase.isConnected])
  | enriched same =>
    cases h with
    | syncing asked apart answered =>
      rw [same.lists, Nat.sub_self]
      exact .syncing asked apart answered
  | synced same =>
    cases h with
    | syncing asked apart answered =>
      rw [same.lists, Nat.sub_self]
      exact .connected asked (by simp [admits, answered])
  | asked same =>
    cases h with
    | connected asked through =>
      rw [same.lists, Nat.sub_self]
      exact .inspecting asked through
  | found same =>
    cases h with
    | connected asked through =>
      rw [same.lists, Nat.sub_self]
      exact .done asked through.symm
  | answered same =>
    cases h with
    | inspecting asked through =>
      rw [same.lists, Nat.sub_self]
      exact .done asked through.symm

namespace World

/-! ### In service -/

/-- A store in service of reads that list, look up or only connect, from its making on. Its host may
change, fail and recover, break its feeds and send events, time may pass in any way, and reads may
be given up. Tasks move in any order, but a feed moves until it has to wait, and only when none
that came before it can move. The order of the feeds matters: a feed that was told to end takes all
open feeds off the host with it, since they send into one queue, so an old feed must not end after a
new one has opened. It does not, as tasks that become ready are served in the order of their
coming. -/
inductive Served (settings : StoreSettings) (host : ScriptedHost) : Chronicle → World → Prop
  | start (free : host.feeds = []) : Served settings host {} (initial settings host)
  | call {c v} (errands : List Errand) (plain : ∀ e ∈ errands, e.isPlain = true)
    (h : Served settings host c v) :
    Served settings host c { v with reads := v.reads ++ errands.map fun errand => { errand } }
  | leave {c v} (h : Served settings host c v) :
    Served settings host c.cleared { v with reads := [] }
  | change {c v} (host' : ScriptedHost) (feeds : host'.feeds = v.host.feeds)
    (h : Served settings host c v) : Served settings host c { v with host := host' }
  | disconnect {c v} (h : Served settings host c v) : Served settings host c v.disconnect
  | emit {c v} (emission : Option ContainerEvent) (h : Served settings host c v) :
    Served settings host c { v with emission }
  | pass {c v} (clock : Nat) (h : Served settings host c v) :
    Served settings host c { v with clock }
  | step {c v v'} (t : Task) (other : ∀ n, t ≠ .feed n) (moved : v.step? t = some v')
    (h : Served settings host c v) : Served settings host (c.next v t) v'
  | turn {c v} (n : Nat) (earlier : ∀ m < n, v.step? (.feed m) = none)
    (h : Served settings host c v) : Served settings host c (v.turn (.feed n))

variable {settings : StoreSettings} {host : ScriptedHost} {c : Chronicle} {w v : World} {i : Nat}

/-- The chronicle of a world is right about its line and its reads. -/
structure InTune (c : Chronicle) (w : World) : Prop where
  line : w.line.InStep c.attempt
  plain : ∀ r ∈ w.reads, r.errand.isPlain = true
  told : ∀ i, (c.record i).Tells (w.phaseOf i)

theorem attempt?_eq_none {t : Task} (other : ∀ i, t ≠ .read i) : w.attempt? t = none := by
  cases t with
  | read i => exact absurd rfl (other i)
  | _ => rfl

theorem record_next_of_ne {t : Task} (other : t ≠ .read i) :
    (c.next w t).record i = c.record i := by
  simp [Chronicle.record, Chronicle.entries_next, Chronicle.listings_next, Chronicle.passed_next,
    other]

/-- What a step of a read does to the line is the attempt that it makes. -/
theorem Goes.line {r : StoreRead} {p : ReadPhase} (goes : w.Goes v r.phase p)
    (known : w.reads[i]? = some r) (h : w.line.InStep c.attempt) :
    v.line.InStep (c.next w (.read i)).attempt := by
  have entered : w.enters i = r.phase.isEntering := by rw [enters, known]; rfl
  have attempt : (c.next w (.read i)).attempt =
      (if r.phase.isEntering && !w.store.connected then
        some (w.store.feeds.length, w.isListable) else none).or c.attempt := by
    rw [← entered]
    rfl
  rw [attempt]
  obtain ⟨errand, phase⟩ := r
  cases goes with
  | straight connected same =>
    rw [same.line, connected]
    exact h
  | listed apart answered line =>
    rw [line, apart, answered]
    exact h.attempted apart true
  | refused apart refused line =>
    rw [line, apart, refused]
    exact h.attempted apart false
  | _ same =>
    rw [same.line]
    exact h

theorem exists_of_stepRead? (moved : w.stepRead? i = some v) : ∃ r, w.reads[i]? = some r := by
  unfold stepRead? at moved
  split at moved
  · simp at moved
  · next r known => exact ⟨r, known⟩

theorem InTune.read (h : InTune c w) (moved : w.step? (.read i) = some v) :
    InTune (c.next w (.read i)) v := by
  obtain ⟨r, known⟩ := exists_of_stepRead? moved
  have plain := h.plain r (List.mem_of_getElem? known)
  obtain ⟨p, set, goes⟩ := read_goes known plain moved
  refine ⟨goes.line known h.line, fun r' hr' => ?_, fun j => ?_⟩
  · rw [set] at hr'
    rcases List.mem_or_eq_of_mem_set hr' with kept | rfl
    · exact h.plain r' kept
    · exact plain
  · rw [phaseOf_set known set]
    split
    · next same =>
      subst same
      exact Chronicle.tells_next (phaseOf_eq known ▸ h.told j) known moved goes
    · next apart =>
      have other : Task.read i ≠ .read j := fun same => apart (Task.read.inj same).symm
      rw [record_next_of_ne other]
      exact h.told j

theorem InTune.inspects (h : InTune c w) (moved : w.step? (.inspects i) = some v) :
    InTune (c.next w (.inspects i)) v := by
  have line := (line_inspects moved).1
  obtain ⟨errand, e, e', known, set⟩ : ∃ errand e e',
      w.reads[i]? = some { errand, phase := .syncing e } ∧
      v.reads = w.reads.set i { errand, phase := .syncing e' } := by
    simp only [step?, stepInspects?] at moved
    split at moved
    · next errand e known =>
      obtain ⟨⟨host, e'⟩, -, rfl⟩ := Option.map_eq_some_iff.mp moved
      exact ⟨errand, e, e', known, rfl⟩
    · simp at moved
  refine ⟨?_, fun r' hr' => ?_, fun j => ?_⟩
  · rw [line]
    exact h.line
  · rw [set] at hr'
    rcases List.mem_or_eq_of_mem_set hr' with kept | rfl
    · exact h.plain r' kept
    · have plain := h.plain _ (List.mem_of_getElem? known)
      exact plain
  · rw [phaseOf_set known set, record_next_of_ne (by simp)]
    split
    · next same =>
      subst same
      have told := h.told j
      rw [phaseOf_eq known] at told
      exact told.again e'
    · exact h.told j

theorem InTune.step {t : Task} (h : InTune c w) (feed : ∀ n, t ≠ .feed n)
    (moved : w.step? t = some v) : InTune (c.next w t) v := by
  by_cases read : ∃ i, t = .read i
  · obtain ⟨i, rfl⟩ := read
    exact h.read moved
  by_cases inspects : ∃ i, t = .inspects i
  · obtain ⟨i, rfl⟩ := inspects
    exact h.inspects moved
  have apart : ∀ i, t ≠ .read i := fun i same => read ⟨i, same⟩
  obtain ⟨line, reads, -⟩ := beside_of_step moved apart
    (fun i same => inspects ⟨i, same⟩) feed
  have attempt : (c.next w t).attempt = c.attempt := by
    rw [Chronicle.next, attempt?_eq_none apart]
    rfl
  refine ⟨?_, reads ▸ h.plain, fun i => ?_⟩
  · rw [line, attempt]
    exact h.line
  · rw [record_next_of_ne (apart i), phaseOf, reads]
    exact h.told i

theorem InTune.turn {n : Nat} (h : InTune c w) (earlier : ∀ m < n, w.step? (.feed m) = none) :
    InTune c (w.turn (.feed n)) := by
  obtain ⟨reads, -⟩ := w.beside_turn n
  refine ⟨?_, reads ▸ h.plain, fun i => ?_⟩
  · cases known : w.store.feeds[n]? with
    | none =>
      have rests : w.step? (.feed n) = none := by simp [step?, stepFeed?, known]
      rw [turn_of_none rests]
      exact h.line
    | some f =>
      rw [line_turn known h.line.going]
      refine h.line.turned known fun m before g held opening => ?_
      obtain ⟨cancelled, phase⟩ := g
      obtain rfl : phase = .opening := opening
      obtain ⟨v, moved, -⟩ := step_opening held
      simp [earlier m before] at moved
  · rw [phaseOf, reads]
    exact h.told i

theorem phaseOf_call (w : World) (errands : List Errand) (i : Nat) :
    phaseOf { w with reads := w.reads ++ errands.map fun errand => { errand } } i =
      w.phaseOf i := by
  unfold phaseOf
  by_cases before : i < w.reads.length
  · rw [List.getElem?_append_left before]
  · have past : w.reads.length ≤ i := Nat.le_of_not_lt before
    rw [List.getElem?_append_right past, List.getElem?_eq_none past, List.getElem?_map]
    cases errands[i - w.reads.length]? <;> rfl

theorem InTune.call (h : InTune c w) {errands : List Errand}
    (plain : ∀ e ∈ errands, e.isPlain = true) :
    InTune c { w with reads := w.reads ++ errands.map fun errand => { errand } } := by
  refine ⟨h.line, fun r hr => ?_, fun i => ?_⟩
  · rcases List.mem_append.mp hr with old | new
    · exact h.plain r old
    · obtain ⟨errand, among, rfl⟩ := List.mem_map.mp new
      exact plain errand among
  · rw [phaseOf_call]
    exact h.told i

theorem Served.inTune (run : Served settings host c w) : InTune c w := by
  induction run with
  | start free =>
    refine ⟨.fresh (line_initial settings free) rfl, by simp [initial], fun i => ?_⟩
    exact .entering
  | call errands plain h ih => exact ih.call plain
  | leave h ih => exact ⟨ih.line, by simp, fun i => .entering⟩
  | @change c v host' feeds h ih =>
    have line : ({ v with host := host' } : World).line = v.line := by simp [World.line, feeds]
    exact ⟨line ▸ ih.line, ih.plain, ih.told⟩
  | @disconnect c v h ih =>
    have line := v.line_disconnect
    exact ⟨line ▸ ih.line.lost, ih.plain, ih.told⟩
  | emit emission h ih => exact ⟨ih.line, ih.plain, ih.told⟩
  | pass clock h ih => exact ⟨ih.line, ih.plain, ih.told⟩
  | step t feed moved h ih => exact ih.step feed moved
  | turn n earlier h ih => exact ih.turn earlier

/-! ### Rounds

In a round the tasks that can move take their turns, the feeds among them in the order of their
coming. So when a feed has its turn, those before it have had theirs or could not move. -/

theorem Goes.onward {p q : ReadPhase} (goes : w.Goes v p q) : w.line.Onward v.line := by
  cases goes with
  | straight _ same =>
    rw [same.line]
    exact .refl _
  | listed _ _ line =>
    rw [line]
    exact w.line.onward_attempted true
  | refused _ _ line =>
    rw [line]
    exact w.line.onward_attempted false
  | _ same =>
    rw [same.line]
    exact .refl _

theorem InTune.onward {t : Task} (h : InTune c w) (feed : ∀ n, t ≠ .feed n)
    (moved : w.step? t = some v) : w.line.Onward v.line := by
  by_cases read : ∃ i, t = .read i
  · obtain ⟨i, rfl⟩ := read
    obtain ⟨r, known⟩ := exists_of_stepRead? moved
    obtain ⟨p, -, goes⟩ := read_goes known (h.plain r (List.mem_of_getElem? known)) moved
    exact goes.onward
  · have same : v.line = w.line := by
      by_cases inspects : ∃ i, t = .inspects i
      · obtain ⟨i, rfl⟩ := inspects
        exact (line_inspects moved).1
      · exact (beside_of_step moved (fun i same => read ⟨i, same⟩)
          (fun i same => inspects ⟨i, same⟩) feed).1
    rw [same]
    exact .refl _

theorem Served.take {t : Task} (h : Served settings host c w) (feed : ∀ n, t ≠ .feed n) :
    ∃ c', Served settings host c' (w.turn t) ∧ w.line.Onward (w.turn t).line := by
  refine exhaust_induction (P := fun v => ∃ c', Served settings host c' v ∧ w.line.Onward v.line)
    (fun v v' kept moved => ?_) w.fuel w ⟨c, h, .refl _⟩
  obtain ⟨c', served, onward⟩ := kept
  exact ⟨_, served.step t feed moved, onward.trans (served.inTune.onward feed moved)⟩

theorem Served.takeAll {ts : List Task} (h : Served settings host c w)
    (feed : ∀ t ∈ ts, ∀ n, t ≠ .feed n) :
    ∃ c', Served settings host c' (w.turns ts) ∧ w.line.Onward (w.turns ts).line := by
  induction ts generalizing w c with
  | nil => exact ⟨c, h, .refl _⟩
  | cons t ts ih =>
    obtain ⟨c', served, onward⟩ := h.take (feed t List.mem_cons_self)
    obtain ⟨c'', served', onward'⟩ := ih served fun t' ht' => feed t' (List.mem_cons_of_mem t ht')
    exact ⟨c'', served', onward.trans onward'⟩

theorem Served.takeFeed {n : Nat} (h : Served settings host c w) (inside : n < w.line.feeds.length)
    (earlier : ∀ m < n, w.line.Begun m) :
    Served settings host c (w.turn (.feed n)) ∧
      w.line.Onward (w.turn (.feed n)).line ∧ (w.turn (.feed n)).line.Begun n := by
  have line := line_turn (List.getElem?_eq_getElem inside) h.inTune.line.going
  obtain ⟨onward, begun⟩ := Line.onward_turned (l := w.line) (List.getElem?_eq_getElem inside)
  refine ⟨h.turn n fun m before => ?_, line ▸ onward, line ▸ begun⟩
  obtain ⟨cancelled, ended⟩ := h.inTune.line.ended before inside (earlier m before)
  exact step_ended ended

theorem Served.takeFeeds (h : Served settings host c w) (ready : Nat → Bool) {k : Nat}
    (inside : k ≤ w.line.feeds.length) (others : ∀ n < k, ready n = false → w.line.Begun n) :
    let v := w.turns (((List.range k).filter ready).map .feed)
    Served settings host c v ∧ w.line.Onward v.line ∧ ∀ n < k, v.line.Begun n := by
  induction k with
  | zero => exact ⟨h, .refl _, by simp⟩
  | succ k ih =>
    obtain ⟨served, onward, begun⟩ := ih (by omega) fun n hn => others n (by omega)
    rw [List.range_succ, List.filter_append, List.map_append, turns_append]
    cases now : ready k with
    | false =>
      have idle : [k].filter ready = [] := by simp [now]
      rw [idle]
      refine ⟨served, onward, fun n hn => ?_⟩
      rcases Nat.lt_succ_iff_lt_or_eq.mp hn with before | rfl
      · exact begun n before
      · exact onward.begun n (others n hn now)
    | true =>
      have moves : [k].filter ready = [k] := by simp [now]
      rw [moves]
      obtain ⟨served', onward', opened⟩ :=
        served.takeFeed (Nat.lt_of_lt_of_le inside onward.length) begun
      refine ⟨served', onward.trans onward', fun n hn => ?_⟩
      rcases Nat.lt_succ_iff_lt_or_eq.mp hn with before | rfl
      · exact onward'.begun n (begun n before)
      · exact opened

theorem begun_of_stuck {n : Nat} (inside : n < w.line.feeds.length)
    (stuck : w.step? (.feed n) = none) : w.line.Begun n := by
  refine ⟨_, List.getElem?_eq_getElem inside, fun opening => ?_⟩
  have known : w.store.feeds[n]? = some ⟨w.line.feeds[n].cancelled, .opening⟩ := by
    rw [← opening]
    exact List.getElem?_eq_getElem inside
  obtain ⟨v, moved, -⟩ := step_opening known
  simp [stuck] at moved

def tasksBefore (w : World) : List Task :=
  (List.range w.reads.length).map .read ++ [.emission] ++ (List.range w.reads.length).map .inspects

def tasksAfter (w : World) : List Task :=
  [.announcements] ++ w.sampled.tasks.map .sampling ++ [.dispatcher, .watchers]

theorem tasks_eq (w : World) :
    w.tasks = w.tasksBefore ++ (List.range w.line.feeds.length).map .feed ++ w.tasksAfter := by
  simp only [tasks, tasksBefore, tasksAfter, List.append_assoc]
  rfl

/-- The turns of a round: some tasks, then the feeds that could move, then other tasks. -/
theorem round?_eq (round : w.round? = some v) : ∃ before after : List Task,
    (∀ t ∈ before ++ after, ∀ n, t ≠ .feed n) ∧
    v = ((w.turns before).turns (((List.range w.line.feeds.length).filter
      fun n => (w.step? (.feed n)).isSome).map .feed)).turns after := by
  have ready : v = w.turns (w.tasks.filter fun t => (w.step? t).isSome) := by
    unfold round? at round
    split at round
    · simp at round
    · exact (Option.some.inj round).symm
  refine ⟨w.tasksBefore.filter fun t => (w.step? t).isSome,
    w.tasksAfter.filter fun t => (w.step? t).isSome, ?_, ?_⟩
  · rintro t ht n rfl
    simp [tasksBefore, tasksAfter] at ht
  · rw [ready, tasks_eq, List.filter_append, List.filter_append, turns_append, turns_append,
      List.filter_map]
    rfl

theorem Served.round (h : Served settings host c w) (round : w.round? = some v) :
    ∃ c', Served settings host c' v := by
  obtain ⟨before, after, feed, rfl⟩ := round?_eq round
  obtain ⟨c', served, onward⟩ := h.takeAll fun t ht => feed t (List.mem_append_left after ht)
  obtain ⟨served, -, -⟩ := served.takeFeeds (fun n => (w.step? (.feed n)).isSome) onward.length
    fun n inside stuck => onward.begun n (begun_of_stuck inside (by simpa using stuck))
  obtain ⟨c'', served, -⟩ := served.takeAll fun t ht => feed t (List.mem_append_right before ht)
  exact ⟨c'', served⟩

theorem Served.settle (h : Served settings host c w) : ∃ c', Served settings host c' w.settle :=
  exhaust_induction (P := fun v => ∃ c', Served settings host c' v)
    (fun _ _ kept round => kept.elim fun _ served => served.round round) w.fuel w ⟨c, h⟩

theorem Served.await (fuel : Nat) (h : Served settings host c w) :
    ∃ c', Served settings host c' (w.await fuel) := by
  induction fuel generalizing w c with
  | zero => exact h.settle
  | succ fuel ih =>
    obtain ⟨c', settled⟩ := h.settle
    rw [World.await]
    split
    · split
      · exact ih (settled.pass _)
      · exact ⟨c', settled⟩
    · exact ⟨c', settled⟩

theorem Served.perform {errands : List Errand} (plain : ∀ e ∈ errands, e.isPlain = true)
    (emission : Option ContainerEvent) (h : Served settings host c w) :
    ∃ c', Served settings host c' (w.perform errands emission).2 := by
  have begun : Served settings host c.cleared
      { w with reads := errands.map fun errand => { errand }, emission } :=
    (h.leave.call errands plain).emit emission
  unfold World.perform
  obtain ⟨c', performed⟩ := begun.await _
  exact ⟨_, performed.leave.emit none⟩

theorem served_start (settings : StoreSettings) (free : host.feeds = []) :
    ∃ c, Served settings host c (World.start settings host) := by
  obtain ⟨_, connected⟩ :=
    (Served.start free : Served settings host {} _).perform
      (show ∀ e ∈ [Errand.connect], e.isPlain = true by simp [Errand.isPlain]) none
  exact connected.settle

end World

end ContainerWatch
