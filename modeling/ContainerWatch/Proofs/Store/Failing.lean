import ContainerWatch.Proofs.Store.Connection
import ContainerWatch.Proofs.Store.Courses

/-!
Reads that fail. A read whose listing is refused has opened a feed and counted the store as
connected before it knew, and a look-up can fail before and after its inspect; but what such a read
does changes neither the table nor sampling, and no subscriber hears of it. A feed that was told to
stop is told for good, so the feed of a refused attempt has ended whenever everything has settled.
-/

namespace ContainerWatch

/-! ### Feeds that were told to stop -/

def ToldAmong (feeds : List Feed) (n : Nat) : Prop := ∃ f, feeds[n]? = some f ∧ f.cancelled = true

section ToldAmong

variable {feeds : List Feed} {m n : Nat}

theorem ToldAmong.append (h : ToldAmong feeds n) (more : List Feed) :
    ToldAmong (feeds ++ more) n := by
  obtain ⟨f, known, told⟩ := h
  exact ⟨f, by rw [List.getElem?_append_left (List.getElem?_eq_some_iff.mp known).1, known], told⟩

theorem ToldAmong.map (h : ToldAmong feeds n) {change : Feed → Feed}
    (keeps : ∀ f, (change f).cancelled = f.cancelled) : ToldAmong (feeds.map change) n := by
  obtain ⟨f, known, told⟩ := h
  exact ⟨change f, by simp [known], (keeps f).trans told⟩

theorem ToldAmong.modify (h : ToldAmong feeds n) {change : Feed → Feed}
    (keeps : ∀ f, f.cancelled = true → (change f).cancelled = true) :
    ToldAmong (feeds.modify m change) n := by
  obtain ⟨f, known, told⟩ := h
  by_cases same : m = n
  · exact ⟨change f, by simp [known, same], keeps f told⟩
  · exact ⟨f, by simp [known, same], told⟩

end ToldAmong

theorem Line.told_attempted {l : Line} {n : Nat} (h : ToldAmong l.feeds n) (answered : Bool) :
    ToldAmong (l.attempted answered).feeds n := by
  unfold Line.attempted
  simp only
  split
  · exact (h.modify fun _ _ => rfl).append _
  · exact h.append _

namespace World

variable {w v u : World} {hs : List (World × Task)} {i m n : Nat} {t : Task}

def takeAnswer (w : World) (id : String) (reply : Except HostFault Container) : World :=
  let l := w.store.load id reply
  { w with host := w.host.endInspect, store := l.store
           announcements := w.announcements ++ l.update.toList }

def answerInspect (w : World) (i : Nat) (r : StoreRead) (id : String)
    (reply : Except HostFault Container) : World :=
  match (w.store.load id reply).answer with
  | .ok c => (w.takeAnswer id reply).finishRead i r (.ok (.container c))
  | .error (.containerNotFound name) => (w.takeAnswer id reply).miss i r name
  | .error fault => (w.takeAnswer id reply).finishRead i r (.error fault)

theorem load_eq (w : World) (i : Nat) (r : StoreRead) (id : String) :
    w.load i r id = w.answerInspect i r id (w.host.details id) := rfl

def refuse (w : World) (i : Nat) (r : StoreRead) (fault : HostFault) : World :=
  finishRead { w with host := w.host.countListing, store := w.store.beginSync.failSync } i r
    (.error (.ofHost fault))

theorem enter_of_connected (r : StoreRead) (connected : w.store.connected = true) :
    w.enter i r = w.continueRead i { r with phase := .connected } := by
  rw [enter, if_pos connected]

theorem enter_of_refused {r : StoreRead} {fault : HostFault} (apart : w.store.connected = false)
    (refused : w.host.listing w.store.settings.filter = .error fault) :
    w.enter i r = w.refuse i r fault := by
  have settings := w.store.still_beginSync.settings
  simp only [enter, apart, Bool.false_eq_true, if_false, settings, refused]
  rfl

/-! ### What reads do to the line -/

theorem line_miss (w : World) (i : Nat) (r : StoreRead) (id : String) :
    (w.miss i r id).line = w.line := by
  unfold miss
  split
  · split <;> rfl
  · rfl

theorem line_lookUp (w : World) (i : Nat) (r : StoreRead) (id : String) (filter : LabelFilter) :
    (w.lookUp i r id filter).line = w.line := by
  unfold lookUp
  split
  · exact line_miss _ i r id
  · rfl
  · rfl

theorem line_pursue (w : World) (i : Nat) (r : StoreRead) : (w.pursue i r).line = w.line := by
  unfold pursue
  split
  · rfl
  · rfl
  · exact line_lookUp w i r _ _
  · exact line_lookUp w i r _ _

theorem line_answerInspect (w : World) (i : Nat) (r : StoreRead) (id : String)
    (reply : Except HostFault Container) : (w.answerInspect i r id reply).line = w.line := by
  have tied := w.store.tied_load id reply
  have taken : (w.takeAnswer id reply).line = w.line := line_of_tied tied rfl
  unfold answerInspect
  split
  · exact taken
  · exact (line_miss _ i r _).trans taken
  · exact taken

theorem line_read (moved : w.step? (.read i) = some v) :
    v.line = w.line ∨
      w.enters i = true ∧ ∃ answered, v.line = w.line.attempted answered := by
  obtain ⟨⟨errand, phase⟩, known⟩ := exists_of_stepRead? moved
  simp only [step?, stepRead?, known] at moved
  cases phase with
  | entering =>
    obtain rfl := Option.some.inj moved
    cases connected : w.store.connected with
    | true =>
      rw [enter_of_connected _ connected]
      exact .inl rfl
    | false =>
      have enters : w.enters i = true := by
        rw [World.enters, known]
        rfl
      exact .inr ⟨enters, _, line_enter connected⟩
  | syncing e =>
    obtain ⟨running, queued, inFlight, outcomes⟩ := e
    cases outcomes with
    | cons o rest =>
      obtain rfl := Option.some.inj moved
      exact .inl (line_of_tied (w.store.tied_enrich o) rfl)
    | nil =>
      simp only at moved
      split at moved
      · obtain rfl := Option.some.inj moved
        exact .inl (line_of_tied (w.store.tied_endSync running) rfl)
      · simp at moved
  | connected =>
    obtain rfl := Option.some.inj moved
    exact .inl (line_pursue w i _)
  | inspecting id due =>
    simp only at moved
    split at moved
    · obtain rfl := Option.some.inj moved
      exact .inl (line_answerInspect w i _ id _)
    · simp at moved
  | done result => simp at moved

/-- What a step makes of the line: a read attempts to connect, a feed goes on, or nothing. -/
inductive LineStep (w : World) (t : Task) (v : World) : Prop
  | kept (same : v.line = w.line)
  | attempted {i : Nat} (read : t = .read i) (enters : w.enters i = true) (answered : Bool)
    (line : v.line = w.line.attempted answered)
  | turned {m : Nat} (feed : t = .feed m) (phase : FeedPhase)
    (feeds : v.store.feeds = w.store.feeds.modify m fun f => { f with phase })
    (connected : v.store.connected = true → w.store.connected = true)

theorem lineStep_feed (moved : w.step? (.feed m) = some v) : w.LineStep (.feed m) v := by
  simp only [step?, stepFeed?] at moved
  split at moved
  · split at moved
    · exact Option.some.inj moved ▸ .turned rfl .live rfl id
    · split at moved
      · exact Option.some.inj moved ▸ .turned rfl .ended rfl id
      · simp at moved
    · exact Option.some.inj moved ▸ .turned rfl .ended rfl (by simp [Store.loseFeed])
    · simp at moved
  · simp at moved

theorem line_step (moved : w.step? t = some v) : w.LineStep t v := by
  by_cases read : ∃ i, t = .read i
  · obtain ⟨i, rfl⟩ := read
    obtain same | ⟨enters, answered, line⟩ := line_read moved
    · exact .kept same
    · exact .attempted rfl enters answered line
  by_cases inspects : ∃ i, t = .inspects i
  · obtain ⟨i, rfl⟩ := inspects
    exact .kept (line_inspects moved).1
  by_cases feed : ∃ m, t = .feed m
  · obtain ⟨m, rfl⟩ := feed
    exact lineStep_feed moved
  exact .kept (beside_of_step moved (fun i eq => read ⟨i, eq⟩) (fun i eq => inspects ⟨i, eq⟩)
    (fun m eq => feed ⟨m, eq⟩)).1

/-! ### What is over stays over -/

theorem told_step (h : ToldAmong w.store.feeds n) (moved : w.step? t = some v) :
    ToldAmong v.store.feeds n := by
  cases line_step moved with
  | kept same =>
    have feeds : v.store.feeds = w.store.feeds := congrArg Line.feeds same
    rwa [feeds]
  | attempted read enters answered line =>
    have feeds : v.store.feeds = (w.line.attempted answered).feeds := congrArg Line.feeds line
    rw [feeds]
    exact Line.told_attempted (l := w.line) h answered
  | turned feed phase feeds connected =>
    rw [feeds]
    exact h.modify fun _ told => told

theorem told_happens (h : ToldAmong w.store.feeds n) (out : w.Happens v) :
    ToldAmong v.store.feeds n := by
  cases out with
  | disconnect =>
    refine h.map fun f => ?_
    split <;> rfl
  | _ => exact h

theorem Course.told (course : Course w hs v) (h : ToldAmong w.store.feeds n) :
    ToldAmong v.store.feeds n := by
  induction course with
  | nil => exact h
  | happens out course ih => exact told_happens ih out
  | step t moved course ih => exact told_step ih moved

theorem IsSettled.ended_of_told (settled : w.IsSettled) (h : ToldAmong w.store.feeds n) :
    ∃ f, w.store.feeds[n]? = some f ∧ f.phase = .ended := by
  obtain ⟨f, known, told⟩ := h
  obtain ended | ⟨-, going⟩ := settled.feed_rests known
  · exact ⟨f, known, ended⟩
  · simp [told] at going

/-- No read checks the connection on the way. -/
def Unchecked (hs : List (World × Task)) : Prop :=
  ∀ p ∈ hs, ∀ i, p.2 = .read i → p.1.enters i = false

/-- Only a read that checks the connection connects a store. -/
theorem Course.apart (course : Course w hs v) (unchecked : Unchecked hs)
    (h : w.store.connected = false) : v.store.connected = false := by
  induction course with
  | nil => exact h
  | @happens hs v v' out course ih =>
    have same : v'.store.connected = v.store.connected := by cases out <;> rfl
    exact same.trans (ih unchecked)
  | @step hs v v' t moved course ih =>
    have before := ih fun p hp => unchecked p (List.mem_append_left _ hp)
    cases line_step moved with
    | kept same => exact (congrArg Line.connected same).trans before
    | @attempted i read enters answered line =>
      have calm := unchecked (v, t) (by simp) i read
      simp [enters] at calm
    | turned feed phase feeds connected =>
      exact Bool.eq_false_iff.mpr fun still => by simp [connected still] at before

/-! ### What a failed read leaves alone -/

/-- A change of a world that neither its table nor its sampling nor any subscriber sees. -/
structure Unseen (w v : World) : Prop where
  still : w.store.Still v.store
  tracked : v.store.tracked = w.store.tracked
  announcements : v.announcements = w.announcements

theorem Unseen.refl (w : World) : w.Unseen w := ⟨.refl _, rfl, rfl⟩

theorem Unseen.trans (h : w.Unseen v) (h' : v.Unseen u) : w.Unseen u :=
  ⟨h.still.trans h'.still, h'.tracked.trans h.tracked, h'.announcements.trans h.announcements⟩

/-- What a read has left whose listing was refused. -/
structure Refused (w : World) (i : Nat) (fault : HostFault) (v : World) : Prop where
  result : v.phaseOf i = .done (.error (.ofHost fault))
  unseen : w.Unseen v
  apart : ∀ hs u, Course v hs u → Unchecked hs → u.store.connected = false
  /-- The attempt has opened one feed. -/
  attempt : v.store.feeds.length = w.store.feeds.length + 1
  /-- That feed has ended when everything has settled, whatever happens in between. -/
  ended : ∀ hs u, Course v hs u → u.IsSettled →
    ∃ f, u.store.feeds[w.store.feeds.length]? = some f ∧ f.phase = .ended

theorem phaseOf_continueRead {r : StoreRead} (known : w.reads[i]? = some r) (r' : StoreRead) :
    (w.continueRead i r').phaseOf i = r'.phase := by
  have inside := (List.getElem?_eq_some_iff.mp known).1
  simp [phaseOf, continueRead, inside]

theorem feeds_refused (s : Store) : ∃ old : List Feed, old.length = s.feeds.length ∧
    s.beginSync.failSync.feeds = old ++ [{ cancelled := true }] := by
  cases feed : s.feed with
  | none =>
    refine ⟨s.feeds, rfl, ?_⟩
    simp [Store.beginSync, Store.startFeed, Store.failSync, Store.note, Store.cancelFeed,
      Store.onFeed, feed, modify_append_last]
  | some n =>
    refine ⟨s.feeds.modify n fun f => { f with cancelled := true }, by simp, ?_⟩
    simp [Store.beginSync, Store.startFeed, Store.failSync, Store.note, Store.cancelFeed,
      Store.onFeed, feed, modify_append_last]

theorem refused_refuse {r : StoreRead} (known : w.reads[i]? = some r) (fault : HostFault) :
    w.Refused i fault (w.refuse i r fault) := by
  obtain ⟨old, length, feeds⟩ := feeds_refused w.store
  have feeds : (w.refuse i r fault).store.feeds = old ++ [{ cancelled := true }] := feeds
  have told : ToldAmong (w.refuse i r fault).store.feeds w.store.feeds.length :=
    ⟨{ cancelled := true }, by simp [feeds, ← length], rfl⟩
  exact {
    result := phaseOf_continueRead known _
    unseen := {
      still := w.store.still_beginSync.trans (Store.still_failSync _)
      tracked := (Store.failSync_tracked _).trans (Store.beginSync_tracked _)
      announcements := rfl }
    apart := fun hs u course unchecked => course.apart unchecked rfl
    attempt := by simp [feeds, length]
    ended := fun hs u course settled => settled.ended_of_told (course.told told) }

/-! ### A read alone -/

/-- What comes of a world in which only one read goes on. Its host may change, also between two
steps of the read, and may refuse an inspect in words of its own, and time passes. -/
inductive Alone (i : Nat) (w : World) : World → Prop
  | nil : Alone i w w
  | change {v : World} (host : ScriptedHost) (h : Alone i w v) : Alone i w { v with host }
  | pass {v : World} (clock : Nat) (h : Alone i w v) : Alone i w { v with clock }
  | step {v v' : World} (moved : v.step? (.read i) = some v') (h : Alone i w v) : Alone i w v'
  | refuse {v : World} {r : StoreRead} {id : String} {due : Nat} (fault : HostFault)
    (known : v.reads[i]? = some r) (phase : r.phase = .inspecting id due) (h : Alone i w v) :
    Alone i w (v.answerInspect i r id (.error fault))

/-- How a look-up of a connected store goes on: nobody has seen it, or it has come to a good end. -/
inductive Looking (w : World) (i : Nat) (v : World) : Prop
  | going (unseen : w.Unseen v) (connected : v.store.connected = true)
    (phase : ∀ sync, v.phaseOf i ≠ .syncing sync)
  | found (x : Finding) (phase : v.phaseOf i = .done (.ok x))

variable {r : StoreRead}

theorem looking_continueRead {r' : StoreRead} (known : v.reads[i]? = some r)
    (unseen : w.Unseen v) (connected : v.store.connected = true)
    (phase : ∀ sync, r'.phase ≠ .syncing sync) : w.Looking i (v.continueRead i r') :=
  .going ⟨unseen.still, unseen.tracked, unseen.announcements⟩ connected fun sync => by
    rw [phaseOf_continueRead known]
    exact phase sync

theorem looking_miss (known : v.reads[i]? = some r) (unseen : w.Unseen v)
    (connected : v.store.connected = true) (id : String) : w.Looking i (v.miss i r id) := by
  unfold miss
  split
  · split <;> exact looking_continueRead known unseen connected (by simp)
  · exact looking_continueRead known unseen connected (by simp)

theorem looking_pursue (known : v.reads[i]? = some r) (unseen : w.Unseen v)
    (connected : v.store.connected = true) : w.Looking i (v.pursue i r) := by
  have lookUp : ∀ id filter, w.Looking i (v.lookUp i r id filter) := fun id filter => by
    unfold World.lookUp
    split
    · have noted : w.Unseen { v with store := v.store.note .containerUnknown } :=
        unseen.trans ⟨⟨⟨rfl, rfl, rfl⟩, rfl⟩, rfl, rfl⟩
      exact looking_miss (v := { v with store := v.store.note .containerUnknown }) known noted
        connected id
    · exact looking_continueRead known unseen connected (by simp)
    · have asked : w.Unseen { v with host := v.host.beginInspect } :=
        unseen.trans ⟨.refl _, rfl, rfl⟩
      exact looking_continueRead (v := { v with host := v.host.beginInspect }) known asked connected
        (by simp)
  unfold pursue
  split
  · exact looking_continueRead known unseen connected (by simp)
  · exact looking_continueRead known unseen connected (by simp)
  · exact lookUp _ _
  · exact lookUp _ _

theorem load_of_failed {s : Store} {id : String} {reply : Except HostFault Container}
    {fault : StoreFault} (failed : (s.load id reply).answer = .error fault) :
    (s.load id reply).update = none ∧ (s.load id reply).store.tracked = s.tracked := by
  cases reply with
  | error refusal => cases refusal <;> exact ⟨rfl, rfl⟩
  | ok c =>
    unfold Store.load at failed ⊢
    simp only at failed ⊢
    cases replaced : s.replaceLoaded? c with
    | some t => simp [replaced] at failed
    | none =>
      cases known : s.tracked.get? id with
      | some c => simp [replaced, known] at failed
      | none => exact ⟨rfl, rfl⟩

theorem looking_answerInspect (known : v.reads[i]? = some r) (unseen : w.Unseen v)
    (connected : v.store.connected = true) (id : String) (reply : Except HostFault Container) :
    w.Looking i (v.answerInspect i r id reply) := by
  have connected : (v.takeAnswer id reply).store.connected = true :=
    (v.store.tied_load id reply).connected.trans connected
  have failed : ∀ fault, (v.store.load id reply).answer = .error fault →
      w.Unseen (v.takeAnswer id reply) := fun fault h => by
    obtain ⟨update, tracked⟩ := load_of_failed h
    exact unseen.trans ⟨v.store.still_load id reply, tracked, by simp [takeAnswer, update]⟩
  have known : (v.takeAnswer id reply).reads[i]? = some r := known
  unfold answerInspect
  split
  · next c _ => exact .found (.container c) (phaseOf_continueRead known _)
  · next id' h => exact looking_miss known (failed _ h) connected id'
  · next fault _ h => exact looking_continueRead known (failed _ h) connected (by simp)

theorem Looking.step (h : w.Looking i v) (moved : v.step? (.read i) = some u) :
    w.Looking i u := by
  obtain ⟨⟨errand, phase⟩, known⟩ := exists_of_stepRead? moved
  have place := phaseOf_eq known
  simp only [step?, stepRead?, known] at moved
  cases h with
  | found x finished =>
    obtain rfl : phase = .done (.ok x) := place.symm.trans finished
    simp at moved
  | going unseen connected goes =>
    cases phase with
    | entering =>
      obtain rfl := Option.some.inj moved
      rw [enter_of_connected _ connected]
      exact looking_continueRead known unseen connected (by simp)
    | syncing sync => exact absurd place (goes sync)
    | connected =>
      obtain rfl := Option.some.inj moved
      exact looking_pursue known unseen connected
    | inspecting id due =>
      simp only at moved
      split at moved
      · obtain rfl := Option.some.inj moved
        rw [load_eq]
        exact looking_answerInspect known unseen connected id _
      · simp at moved
    | done result => simp at moved

theorem Alone.looking (alone : w.Alone i v) (connected : w.store.connected = true)
    (phase : ∀ sync, w.phaseOf i ≠ .syncing sync) : w.Looking i v := by
  induction alone with
  | nil => exact .going (.refl w) connected phase
  | change host h ih =>
    cases ih with
    | going unseen connected phase =>
      exact .going ⟨unseen.still, unseen.tracked, unseen.announcements⟩ connected phase
    | found x finished => exact .found x finished
  | pass clock h ih =>
    cases ih with
    | going unseen connected phase =>
      exact .going ⟨unseen.still, unseen.tracked, unseen.announcements⟩ connected phase
    | found x finished => exact .found x finished
  | step moved h ih => exact ih.step moved
  | @refuse v r id due fault known inspecting h ih =>
    have place := (phaseOf_eq known).trans inspecting
    cases ih with
    | going unseen connected phase => exact looking_answerInspect known unseen connected id _
    | found x finished => simp [place] at finished

/-- A read that fails changes nothing. If it comes to a store that is not connected, and the listing
is refused for whatever reason, then the table with its histories, sampling and all subscribers are
as before, the store is not connected, and the one feed that was opened has ended when everything
has settled. If it comes to a connected store, goes on alone and fails, for whatever reason, then
all these are as before, too, and the store stays connected. -/
theorem failed_read_unseen {r : StoreRead} (known : w.reads[i]? = some r)
    (entering : r.phase = .entering) :
    (w.store.connected = false → ∀ fault,
      (w.host.listing w.store.settings.filter = .error fault →
        w.step? (.read i) = some (w.refuse i r fault)) ∧
      w.Refused i fault (w.refuse i r fault)) ∧
    (w.store.connected = true → ∀ v fault, w.Alone i v → v.phaseOf i = .done (.error fault) →
      w.Unseen v ∧ v.store.connected = true) := by
  refine ⟨fun apart fault => ⟨fun refused => ?_, refused_refuse known fault⟩,
    fun connected v fault alone failed => ?_⟩
  · simp only [step?, stepRead?, known, entering]
    rw [enter_of_refused apart refused]
  · have begins : ∀ sync, w.phaseOf i ≠ .syncing sync := by
      simp [phaseOf_eq known, entering]
    cases alone.looking connected begins with
    | going unseen connected phase => exact ⟨unseen, connected⟩
    | found x found => simp [found] at failed

def askedAgain : World :=
  { World.start {} refusingHost with reads := [{ errand := .list .all }] }

def slowHost : ScriptedHost :=
  { (ScriptedHost.named "fake").put { id := "aaa", name := "web", state := .exited } with
    inspectDelay := 20 }

def lookedUp : World :=
  { World.start {} slowHost with reads := [{ errand := .find "aaa" .all }] }

def inspected : World := (lookedUp.moved (.read 0)).moved (.read 0)

def vanished : World :=
  moved { inspected with host := inspected.host.remove "aaa", clock := inspected.clock + 20 }
    (.read 0)

theorem alone_vanished : lookedUp.Alone 0 vanished := by
  have begun := Alone.nil (i := 0).step (step?_moved (w := lookedUp) (by decide +kernel))
  have asked := begun.step (step?_moved (by decide +kernel))
  exact ((asked.change (inspected.host.remove "aaa")).pass (inspected.clock + 20)).step
    (step?_moved (by decide +kernel))

theorem failed_read_unseen_vanished :
    (askedAgain.store.connected = false ∧
      askedAgain.step? (.read 0) =
        some (askedAgain.refuse 0 { errand := .list .all } (.io "daemon down")) ∧
      askedAgain.Refused 0 (.io "daemon down")
        (askedAgain.refuse 0 { errand := .list .all } (.io "daemon down"))) ∧
    lookedUp.store.connected = true ∧ lookedUp.Alone 0 vanished ∧
      vanished.phaseOf 0 = .done (.error (.containerNotFound "aaa")) ∧
      lookedUp.Unseen vanished ∧ vanished.store.connected = true := by
  have apart : askedAgain.store.connected = false := by decide +kernel
  have refused : askedAgain.host.listing askedAgain.store.settings.filter =
      .error (.io "daemon down") := by
    rfl
  have connected : lookedUp.store.connected = true := by decide +kernel
  have failed : vanished.phaseOf 0 = .done (.error (.containerNotFound "aaa")) := by
    rfl
  obtain ⟨moved, left⟩ := (failed_read_unseen (w := askedAgain) (i := 0) rfl rfl).1 apart _
  have kept := (failed_read_unseen (w := lookedUp) (i := 0) rfl rfl).2 connected _ _ alone_vanished
    failed
  exact ⟨⟨apart, moved refused, left⟩, connected, alone_vanished, failed, kept⟩

end World

end ContainerWatch
