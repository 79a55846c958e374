import ContainerWatch.Proofs.Store.Beside
import ContainerWatch.Proofs.Store.Runs

/-!
The feeds of a store over time. Each attempt to synchronise brings a new feed and tells the one
before to stop; a feed that was told to stop before it had opened ends in its first turn. As feeds
get their turns in the order of their coming, only the last one stays open, and the store counts as
connected exactly as long as that one was neither told to stop nor has ended.
-/

namespace ContainerWatch

/-- A feed that has stopped, or will as soon as it moves. -/
def Feed.Past (f : Feed) : Prop := f.phase = .ended ∨ f.cancelled = true ∧ f.phase = .opening

/-- A feed that has nothing to do: it has ended, or it is open and was not told to stop. -/
def Feed.Rests (f : Feed) : Prop := f.phase = .ended ∨ f.phase = .live ∧ f.cancelled = false

def Feed.works (f : Feed) : Bool := !f.cancelled && f.phase ≠ .ended

def Feed.lose (f : Feed) : Feed := if f.phase = .live then { f with phase := .broken } else f

theorem Feed.Past.lose_eq {f : Feed} (h : f.Past) : f.lose = f := by
  unfold Feed.lose
  rcases h with ended | ⟨-, opening⟩
  · simp [ended]
  · simp [opening]

theorem modify_append_last {α : Type} {xs : List α} {n : Nat} (last : n = xs.length) (x : α)
    (f : α → α) : (xs ++ [x]).modify n f = xs ++ [f x] := by
  subst last
  induction xs with
  | nil => rfl
  | cons y ys ih => exact congrArg (y :: ·) ih

def liveAmong (feeds : List Feed) : List Nat :=
  (List.range feeds.length).filter fun n => (feeds[n]?).any fun f => f.phase = .live

theorem liveAmong_append_last {old : List Feed} (shut : ∀ f ∈ old, f.phase ≠ .live)
    (last : Feed) :
    liveAmong (old ++ [last]) = if last.phase = .live then [old.length] else [] := by
  have none_ : (List.range old.length).filter (fun n =>
      ((old ++ [last])[n]?).any fun f => f.phase = .live) = [] := by
    refine List.filter_eq_nil_iff.mpr fun n hn => ?_
    have inside := List.mem_range.mp hn
    rw [List.getElem?_append_left inside, List.getElem?_eq_getElem inside]
    simpa using shut _ (List.getElem_mem inside)
  rw [liveAmong, List.length_append, List.length_singleton, List.range_succ, List.filter_append,
    none_]
  by_cases live : last.phase = .live <;> simp [live]

namespace Line

def fresh : Line := ⟨false, false, [], none, []⟩

def led (old : List Feed) (last : Feed) : Line :=
  ⟨last.works, false, old ++ [last], some old.length,
    if last.phase = .live then [old.length] else []⟩

/-- The line is as the last attempt, if any, and the fate of its feed since let expect. An attempt
is given by the number of its feed and by whether its listing was answered. -/
inductive InStep (l : Line) (attempt : Option (Nat × Bool)) : Prop
  | fresh (line : l = .fresh) (none_ : attempt = none)
  | led (old : List Feed) (last : Feed) (line : l = .led old last)
    (last_ : attempt = some (old.length, !last.cancelled)) (past : ∀ f ∈ old, f.Past)
    (order : last.phase ≠ .opening → ∀ f ∈ old, f.phase = .ended)
    (given : last.cancelled = true → last.Past)

/-- What an attempt makes of a line: a new feed, which is told to stop if the listing fails. -/
def attempted (l : Line) (answered : Bool) : Line :=
  let old := match l.feed with
    | some n => l.feeds.modify n fun f => { f with cancelled := true }
    | none => l.feeds
  { l with connected := answered, feeds := old ++ [{ cancelled := !answered }]
           feed := some old.length }

def lost (l : Line) : Line := { l with feeds := l.feeds.map Feed.lose, opened := [] }

/-- What the turn of a feed makes of a line: the feed opens unless it was told to stop, and ends if
it was or if it finds itself closed. -/
def turned (l : Line) (n : Nat) (f : Feed) : Line :=
  match f.phase, f.cancelled with
  | .opening, false =>
    { l with feeds := l.feeds.set n { f with phase := .live }, opened := l.opened ++ [n] }
  | .opening, true | .live, true =>
    { l with feeds := l.feeds.set n { f with phase := .ended }, opened := [] }
  | .broken, _ => { l with connected := false, feeds := l.feeds.set n { f with phase := .ended } }
  | .live, false | .ended, _ => l

variable {l : Line} {attempt : Option (Nat × Bool)}

theorem InStep.going (h : l.InStep attempt) : l.shut = false := by
  cases h with
  | fresh line => rw [line]; rfl
  | led _ _ line => rw [line]; rfl

/-- An attempt is only made where nothing works, and then its feed is the last one. -/
theorem InStep.attempted (h : l.InStep attempt) (apart : l.connected = false) (answered : Bool) :
    (l.attempted answered).InStep (some (l.feeds.length, answered)) := by
  have works : ({ cancelled := !answered } : Feed).works = answered := by
    cases answered <;> rfl
  have given : (!answered) = true → ({ cancelled := !answered } : Feed).Past :=
    fun stopped => .inr ⟨stopped, rfl⟩
  cases h with
  | fresh line none_ =>
    subst line
    refine .led [] { cancelled := !answered } ?_ (by simp [Line.fresh]) (by simp) (by simp) given
    simp [Line.attempted, Line.fresh, Line.led, works]
  | led old last line last_ past order stopped =>
    subst line
    have idle : last.phase = .ended ∨ last.cancelled = true := by
      have idle : last.works = false := apart
      simp only [Feed.works, ne_eq, decide_not, Bool.and_eq_false_imp, Bool.not_eq_true',
        Bool.not_eq_false', decide_eq_true_eq] at idle
      cases told : last.cancelled with
      | false => exact .inl (idle told)
      | true => exact .inr rfl
    have gone : last.Past := idle.elim .inl stopped
    have shut : last.phase ≠ .live := by
      rcases gone with ended | ⟨-, opening⟩
      · simp [ended]
      · simp [opening]
    refine .led (old ++ [{ last with cancelled := true }]) { cancelled := !answered } ?_
      (by simp [Line.led]) (fun f hf => ?_) (by simp) given
    · simp [Line.attempted, Line.led, works, shut, modify_append_last]
    · rcases List.mem_append.mp hf with before | same
      · exact past f before
      · obtain rfl := List.mem_singleton.mp same
        rcases gone with ended | ⟨-, opening⟩
        · exact .inl ended
        · exact .inr ⟨rfl, opening⟩

theorem InStep.lost (h : l.InStep attempt) : l.lost.InStep attempt := by
  cases h with
  | fresh line none_ =>
    subst line
    exact .fresh rfl none_
  | led old last line last_ past order given =>
    subst line
    have works : last.lose.works = last.works := by
      unfold Feed.lose Feed.works
      split
      · next live => simp [live]
      · rfl
    have told : last.lose.cancelled = last.cancelled := by
      unfold Feed.lose
      split <;> rfl
    have shut : last.lose.phase ≠ .live := by
      unfold Feed.lose
      split
      · simp
      · assumption
    have opening : last.phase = .opening → last.lose.phase = .opening := by
      intro opening
      simp [Feed.lose, opening]
    have kept : old.map Feed.lose = old :=
      (List.map_congr_left fun f hf => (past f hf).lose_eq).trans (List.map_id' old)
    refine .led old last.lose ?_ (by rw [told, last_]) past
      (fun further => order fun before => further (opening before)) fun stopped => ?_
    · simp [Line.lost, Line.led, kept, works, shut]
    · rw [told] at stopped
      have gone := given stopped
      rwa [gone.lose_eq]

/-- Feeds have their turns in the order of their coming: in that of a feed, none before it waits to
open. -/
theorem InStep.turned {n : Nat} {f : Feed} (h : l.InStep attempt) (known : l.feeds[n]? = some f)
    (earlier : ∀ m < n, ∀ g, l.feeds[m]? = some g → g.phase ≠ .opening) :
    (l.turned n f).InStep attempt := by
  cases h with
  | fresh line none_ =>
    subst line
    simp [Line.fresh] at known
  | led old last line last_ past order given =>
    have same : l.InStep attempt := .led old last line last_ past order given
    subst line
    have place := (List.getElem?_eq_some_iff.mp known).1
    simp only [Line.led, List.length_append, List.length_cons, List.length_nil] at place
    by_cases before : n < old.length
    · -- An earlier feed either rests already or ends now, and then the last one has not opened yet.
      have known : old[n]? = some f := (List.getElem?_append_left before).symm.trans known
      have held := List.mem_of_getElem? known
      obtain ⟨cancelled, phase⟩ := f
      rcases past _ held with ended | ⟨told, opening⟩
      · obtain rfl : phase = .ended := ended
        exact same
      · obtain rfl : cancelled = true := told
        obtain rfl : phase = .opening := opening
        have waits : last.phase = .opening :=
          Decidable.byContradiction fun further => by simpa using order further _ held
        refine .led (old.set n ⟨true, .ended⟩) last ?_ (by simpa using last_) (fun g hg => ?_)
          (fun further => absurd waits further) given
        · simp [Line.turned, Line.led, waits, List.set_append_left _ _ before]
        · rcases List.mem_or_eq_of_mem_set hg with kept | rfl
          · exact past g kept
          · exact .inl rfl
    · obtain rfl : n = old.length := by omega
      obtain rfl : last = f := by simpa [Line.led] using known
      have ended : ∀ g ∈ old, g.phase = .ended := by
        intro g hg
        obtain ⟨m, inside, rfl⟩ := List.getElem_of_mem hg
        rcases past _ hg with ended | ⟨-, opening⟩
        · exact ended
        · have known : (old ++ [last])[m]? = some old[m] := by
            rw [List.getElem?_append_left inside, List.getElem?_eq_getElem inside]
          exact absurd opening (earlier m inside _ known)
      obtain ⟨cancelled, phase⟩ := last
      cases phase with
      | opening =>
        cases cancelled with
        | false =>
          refine .led old ⟨false, .live⟩ ?_ last_ past (fun _ => ended) (by simp)
          simp [Line.turned, Line.led, Feed.works]
        | true =>
          refine .led old ⟨true, .ended⟩ ?_ last_ past (fun _ => ended)
            fun _ => .inl rfl
          simp [Line.turned, Line.led, Feed.works]
      | live =>
        cases cancelled with
        | false => exact same
        | true => simp [Feed.Past] at given
      | broken =>
        refine .led old ⟨cancelled, .ended⟩ ?_ last_ past (fun _ => ended)
          fun _ => .inl rfl
        simp [Line.turned, Line.led, Feed.works]
      | ended => exact same

/-- At rest every feed is open or has ended, and then at most the last one is open: exactly if the
store counts as connected, and exactly if its attempt was answered and it has not ended since. -/
theorem InStep.resting (h : l.InStep attempt)
    (rests : ∀ (n : Nat) (f : Feed), l.feeds[n]? = some f → f.Rests) :
    (liveAmong l.feeds).length ≤ 1 ∧ l.opened = liveAmong l.feeds ∧
    (l.connected = true ↔ (liveAmong l.feeds).length = 1) ∧
    (l.connected = true ↔ ∃ n f, attempt = some (n, true) ∧ l.feeds[n]? = some f ∧
      f.phase ≠ .ended) := by
  cases h with
  | fresh line none_ =>
    subst line none_
    simp [Line.fresh, liveAmong]
  | led old last line last_ past order given =>
    subst line last_
    have shut : ∀ f ∈ old, f.phase ≠ .live := by
      intro f hf
      rcases past f hf with ended | ⟨-, opening⟩
      · simp [ended]
      · simp [opening]
    have place : (old ++ [last])[old.length]? = some last := by simp
    have live := liveAmong_append_last shut last
    simp only [Line.led, live]
    rcases rests old.length last place with ended | ⟨open_, kept⟩
    · simp [ended, Feed.works]
    · simp [open_, kept, Feed.works]

/-! ### Feeds that have had a turn -/

def Begun (l : Line) (n : Nat) : Prop := ∃ f, l.feeds[n]? = some f ∧ f.phase ≠ .opening

structure Onward (l l' : Line) : Prop where
  length : l.feeds.length ≤ l'.feeds.length
  begun : ∀ n, l.Begun n → l'.Begun n

theorem Onward.refl (l : Line) : l.Onward l := ⟨Nat.le_refl _, fun _ h => h⟩

theorem Onward.trans {l l' l'' : Line} (h : l.Onward l') (h' : l'.Onward l'') : l.Onward l'' :=
  ⟨Nat.le_trans h.length h'.length, fun n begun => h'.begun n (h.begun n begun)⟩

theorem onward_attempted (l : Line) (answered : Bool) : l.Onward (l.attempted answered) := by
  obtain ⟨old, feeds, length, kept⟩ : ∃ old, (l.attempted answered).feeds = old ++
      [{ cancelled := !answered }] ∧ old.length = l.feeds.length ∧
      ∀ (n : Nat) (f : Feed), l.feeds[n]? = some f →
        ∃ g : Feed, old[n]? = some g ∧ g.phase = f.phase := by
    refine ⟨_, rfl, ?_, fun n f known => ?_⟩
    · split <;> simp
    · split
      · rw [List.getElem?_modify, known]
        refine ⟨_, rfl, ?_⟩
        split <;> rfl
      · exact ⟨f, known, rfl⟩
  refine ⟨by simp [feeds, length], ?_⟩
  rintro n ⟨f, known, further⟩
  obtain ⟨g, held, same⟩ := kept n f known
  have inside := (List.getElem?_eq_some_iff.mp held).1
  exact ⟨g, by rw [feeds, List.getElem?_append_left inside, held], same ▸ further⟩

theorem onward_set {l' : Line} {n : Nat} {g : Feed} (inside : n < l.feeds.length)
    (further : g.phase ≠ .opening) (set : l'.feeds = l.feeds.set n g) :
    l.Onward l' ∧ l'.Begun n := by
  refine ⟨⟨by simp [set], ?_⟩, g, by simp [set, inside], further⟩
  rintro m ⟨f, known, begun⟩
  by_cases same : n = m
  · subst same
    exact ⟨g, by simp [set, inside], further⟩
  · exact ⟨f, by simp [set, same, known], begun⟩

theorem onward_turned {n : Nat} {f : Feed} (known : l.feeds[n]? = some f) :
    l.Onward (l.turned n f) ∧ (l.turned n f).Begun n := by
  have inside := (List.getElem?_eq_some_iff.mp known).1
  obtain ⟨cancelled, phase⟩ := f
  cases phase with
  | opening => cases cancelled <;> exact onward_set inside (by simp) rfl
  | live =>
    cases cancelled with
    | false => exact ⟨.refl l, _, known, by simp⟩
    | true => exact onward_set inside (by simp) rfl
  | broken => exact onward_set inside (by simp) rfl
  | ended => exact ⟨.refl l, _, known, by simp⟩

theorem InStep.ended {m n : Nat} (h : l.InStep attempt) (before : m < n)
    (inside : n < l.feeds.length) (begun : l.Begun m) :
    ∃ cancelled, l.feeds[m]? = some ⟨cancelled, .ended⟩ := by
  obtain ⟨⟨cancelled, phase⟩, known, further⟩ := begun
  cases h with
  | fresh line =>
    subst line
    simp [Line.fresh] at inside
  | led old last line _ past =>
    subst line
    simp only [Line.led, List.length_append, List.length_singleton] at inside
    have among : m < old.length := by omega
    have held := (List.getElem?_append_left among).symm.trans known
    rcases past _ (List.mem_of_getElem? held) with ended | ⟨-, opening⟩
    · obtain rfl : phase = .ended := ended
      exact ⟨cancelled, known⟩
    · exact absurd opening further

end Line

namespace World

variable {w v : World} {n : Nat} {attempt : Option (Nat × Bool)}

def isListable (w : World) : Bool := (w.host.listing w.store.settings.filter).isOk

theorem line_initial (settings : StoreSettings) {host : ScriptedHost} (free : host.feeds = []) :
    (initial settings host).line = .fresh := by
  simp [line, initial, Store.ofSettings, Store.isShut, Sampling.ofSettings, Line.fresh, free]

theorem line_disconnect (w : World) : w.disconnect.line = w.line.lost := rfl

theorem line_enter {i : Nat} {r : StoreRead} (apart : w.store.connected = false) :
    (w.enter i r).line = w.line.attempted w.isListable := by
  have settings := w.store.still_beginSync.settings
  simp only [enter, apart, Bool.false_eq_true, if_false, settings]
  cases reply : w.host.listing w.store.settings.filter with
  | error fault =>
    have refused : w.isListable = false := by rw [isListable, reply]; rfl
    rw [refused]
    cases feed : w.store.feed <;>
      simp [line, finishRead, continueRead, ScriptedHost.countListing, Store.failSync, Store.note,
        Store.beginSync, Store.startFeed, Store.cancelFeed, Store.onFeed, Store.isShut,
        Line.attempted, feed, modify_append_last]
  | ok listing =>
    have answered : w.isListable = true := by rw [isListable, reply]; rfl
    have taken := Store.tied_absorb w.store.beginSync listing
    rw [answered]
    simp only [line, continueRead, ScriptedHost.countListing, taken.connected, taken.feeds,
      taken.feed, taken.shut]
    cases feed : w.store.feed <;>
      simp [Store.beginSync, Store.startFeed, Store.cancelFeed, Store.onFeed, Store.isShut,
        Line.attempted, feed]

/-! ### Turns -/

def turn (w : World) (t : Task) : World := exhaust (fun v => v.step? t) w.fuel w

def turns (w : World) (ts : List Task) : World := ts.foldl turn w

theorem turns_append (w : World) (ts us : List Task) :
    w.turns (ts ++ us) = (w.turns ts).turns us := List.foldl_append

section Turns

variable {t : Task} {u : World}

theorem two_le_fuel (w : World) : 2 ≤ w.fuel := by
  simp only [fuel]
  omega

theorem turn_of_none (rests : w.step? t = none) : w.turn t = w := exhaust_of_none rests _

theorem turn_of_step (moved : w.step? t = some v) (rests : v.step? t = none) : w.turn t = v := by
  have enough := w.two_le_fuel
  rw [turn, exhaust_of_some moved (by omega), exhaust_of_none rests]

theorem turn_of_steps (moved : w.step? t = some v) (again : v.step? t = some u)
    (rests : u.step? t = none) : w.turn t = u := by
  have enough := w.two_le_fuel
  rw [turn, exhaust_of_some moved (by omega), exhaust_of_some again (by omega),
    exhaust_of_none rests]

end Turns

theorem beside_turn (w : World) (n : Nat) :
    (w.turn (.feed n)).reads = w.reads ∧ (w.turn (.feed n)).clock = w.clock := by
  refine exhaust_induction (P := fun v => v.reads = w.reads ∧ v.clock = w.clock)
    (fun v v' kept moved => ?_) w.fuel w ⟨rfl, rfl⟩
  obtain ⟨reads, clock⟩ := beside_feed moved
  exact ⟨reads.trans kept.1, clock.trans kept.2⟩

theorem feeds_onFeed {s : Store} {f : Feed} (known : s.feeds[n]? = some f) (change : Feed → Feed) :
    (s.onFeed n change).feeds = s.feeds.set n (change f) ∧
      (s.onFeed n change).feeds[n]? = some (change f) := by
  obtain ⟨inside, rfl⟩ := List.getElem?_eq_some_iff.mp known
  have changed : s.feeds.modify n change = s.feeds.set n (change s.feeds[n]) := by
    refine List.ext_getElem? fun m => ?_
    rw [List.getElem?_modify, List.getElem?_set]
    split
    · next same =>
      subst same
      simp [inside]
    · simp
  refine ⟨changed, ?_⟩
  rw [Store.onFeed, changed]
  simp [inside]

theorem step_opening {cancelled : Bool} (known : w.store.feeds[n]? = some ⟨cancelled, .opening⟩) :
    ∃ v, w.step? (.feed n) = some v ∧ v.store.feeds[n]? = some ⟨cancelled, .live⟩ ∧
      v.line = { w.line with feeds := w.line.feeds.set n ⟨cancelled, .live⟩
                             opened := w.line.opened ++ [n] } := by
  obtain ⟨feeds, held⟩ := feeds_onFeed known fun f => { f with phase := .live }
  simp only [step?, stepFeed?, known]
  refine ⟨_, rfl, held, ?_⟩
  simp only [line, feeds]
  rfl

theorem step_told (known : w.store.feeds[n]? = some ⟨true, .live⟩) :
    ∃ v, w.step? (.feed n) = some v ∧ v.store.feeds[n]? = some ⟨true, .ended⟩ ∧
      v.line = { w.line with feeds := w.line.feeds.set n ⟨true, .ended⟩, opened := [] } := by
  obtain ⟨feeds, held⟩ := feeds_onFeed known fun f => { f with phase := .ended }
  simp only [step?, stepFeed?, known, Store.feedCancelled, Bool.true_or, if_true]
  refine ⟨_, rfl, held, ?_⟩
  simp only [line, Store.endFeed, Store.note, feeds]
  rfl

theorem step_broken {cancelled : Bool} (known : w.store.feeds[n]? = some ⟨cancelled, .broken⟩) :
    ∃ v, w.step? (.feed n) = some v ∧ v.store.feeds[n]? = some ⟨cancelled, .ended⟩ ∧
      v.line = { w.line with connected := false
                             feeds := w.line.feeds.set n ⟨cancelled, .ended⟩ } := by
  obtain ⟨feeds, held⟩ := feeds_onFeed known fun f => { f with phase := .ended }
  simp only [step?, stepFeed?, known]
  refine ⟨_, rfl, held, ?_⟩
  simp only [line, Store.loseFeed, Store.note, feeds]
  rfl

theorem step_ended {cancelled : Bool} (known : w.store.feeds[n]? = some ⟨cancelled, .ended⟩) :
    w.step? (.feed n) = none := by
  simp [step?, stepFeed?, known]

theorem step_open (known : w.store.feeds[n]? = some ⟨false, .live⟩)
    (going : w.store.isShut = false) : w.step? (.feed n) = none := by
  simp [step?, stepFeed?, known, Store.feedCancelled, going]

theorem line_turn {f : Feed} (known : w.store.feeds[n]? = some f) (going : w.store.isShut = false) :
    (w.turn (.feed n)).line = w.line.turned n f := by
  obtain ⟨cancelled, phase⟩ := f
  cases phase with
  | opening =>
    obtain ⟨v, moved, held, opened⟩ := step_opening known
    cases cancelled with
    | false =>
      have still : v.store.isShut = false := (congrArg Line.shut opened).trans going
      rw [turn_of_step moved (step_open held still), opened]
      rfl
    | true =>
      obtain ⟨u, again, finished, ended⟩ := step_told held
      rw [turn_of_steps moved again (step_ended finished), ended, opened]
      simp [Line.turned]
  | live =>
    cases cancelled with
    | false => rw [turn_of_none (step_open known going)]; rfl
    | true =>
      obtain ⟨v, moved, finished, ended⟩ := step_told known
      rw [turn_of_step moved (step_ended finished), ended]
      rfl
  | broken =>
    obtain ⟨v, moved, finished, lost⟩ := step_broken known
    rw [turn_of_step moved (step_ended finished), lost]
    rfl
  | ended => rw [turn_of_none (step_ended known)]; rfl

end World

end ContainerWatch
