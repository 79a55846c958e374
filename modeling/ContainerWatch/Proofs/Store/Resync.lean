import ContainerWatch.Proofs.Store.Beside
import ContainerWatch.Proofs.Store.Courses
import ContainerWatch.Proofs.Store.Listing

/-!
A synchronisation from its listing to its end. Each container that is listed as running is inspected
once, a limited number at a time; an answer in time replaces the listed entry, any other outcome
leaves it. The outcomes come in any order, and whatever else goes on in between changes nothing of
this but the histories that samples are added to.
-/

namespace ContainerWatch

/-! ### The inspects of a synchronisation -/

/-- How a host is to answer the inspects of one synchronisation: after how many milliseconds, and
what. -/
structure Replies where
  delay : String → Nat
  answer : String → Except HostFault Container

/-- How the inspect of a container comes out that nobody waits for longer than the time-out. -/
def Replies.outcome (a : Replies) (timeout : Nat) (id : String) : InspectOutcome :=
  if a.delay id ≤ timeout then .answered (a.answer id) else .timedOut

def Container.replacedBy (c : Container) : InspectOutcome → Container
  | .answered (.ok d) => d
  | _ => c

def Container.withStats (c : Container) (stats : History Usage) : Container := { c with stats }

@[simp] theorem Container.stats_withStats (c : Container) (stats : History Usage) :
    (c.withStats stats).stats = stats := rfl

@[simp] theorem Container.replacedBy_withStats (c : Container) (o : InspectOutcome)
    (stats stats' : History Usage) :
    ((c.withStats stats).replacedBy o).withStats stats' = (c.replacedBy o).withStats stats' := by
  cases o with
  | timedOut => rfl
  | answered reply => cases reply <;> rfl

theorem Store.get?_enrich_listed {s : Store} {o : InspectOutcome} {id : String}
    (about : ∀ c, o = .answered (.ok c) → c.id = id)
    (bare : ∀ old, s.tracked.get? id = some old → old.fullyLoaded = false) (other : String) :
    (s.enrich o).tracked.get? other =
      if other = id then
        (s.tracked.get? other).map fun old => (old.replacedBy o).withStats old.stats
      else s.tracked.get? other := by
  have unchanged : (∀ old : Container, old.replacedBy o = old) → (s.enrich o).tracked = s.tracked →
      (s.enrich o).tracked.get? other = if other = id then
        (s.tracked.get? other).map fun old => (old.replacedBy o).withStats old.stats
        else s.tracked.get? other := by
    intro same table
    have kept : ∀ old : Container, old.withStats old.stats = old := fun _ => rfl
    simp [same, table, kept]
  cases o with
  | timedOut => exact unchanged (fun _ => rfl) rfl
  | answered reply =>
    cases reply with
    | error fault => exact unchanged (fun _ => rfl) rfl
    | ok c =>
      rw [get?_enrich, about c rfl]
      split
      · next named =>
        subst named
        cases known : s.tracked.get? other with
        | none => rfl
        | some old =>
          have partial_ := bare old known
          simp [Container.completing, Container.replacedBy, Container.withStats, partial_]
      · rfl

theorem Store.nodup_enrich {s : Store} (map : s.tracked.keys.Nodup) (o : InspectOutcome) :
    (s.enrich o).tracked.keys.Nodup := by
  cases o with
  | timedOut => exact map
  | answered reply =>
    cases reply with
    | error fault => exact map
    | ok c =>
      rw [enrich_eq]
      split
      · split
        · exact map
        · exact Entries.nodup_put map
      · exact map

def gathered (settings : StoreSettings) (old : Option Container) (us : List Usage) (id : String) :
    History Usage :=
  (us.filter fun u => u.id = id).foldl History.push
    ((old.map (·.stats)).getD (History.empty settings.sampling.history))

def Replies.known (a : Replies) (timeout : Nat) (done : List String) (c : Container) : Container :=
  if c.id ∈ done then c.replacedBy (a.outcome timeout c.id) else c

def Deed.samples : Deed → List Usage
  | .sample u => [u]
  | _ => []

@[simp] theorem Deed.samples_rest : Deed.rest.samples = [] := rfl

namespace World

def enrichment? (w : World) (i : Nat) : Option Enrichment :=
  match w.reads[i]? with
  | some { phase := .syncing e, .. } => some e
  | _ => none

/-- Whether the host does as it is to about the inspect that comes out or begins next. -/
def Obeys (w : World) (a : Replies) (e : Enrichment) : Prop :=
  match settled? w.clock e.inFlight, e.queued with
  | some (x, _), _ => x.due ≤ w.clock → w.host.details x.id = a.answer x.id
  | none, id :: _ => w.host.inspectDelay = a.delay id
  | none, [] => True

/-- A synchronisation under way, with the samples recorded since it began. A read that finds the
store unconnected takes its first step; from then on any task may move, and anything may happen
outside, but no event is handled and no other read moves. Time may pass in any way, except that
nobody waits for an inspect beyond its time-out so long that it is answered after all. -/
inductive Syncs (w : World) (i : Nat) (a : Replies) : List Usage → World → Prop
  | enter {r v} (known : w.reads[i]? = some r) (entering : r.phase = .entering)
      (apart : w.store.connected = false) (moved : w.step? (.read i) = some v) : Syncs w i a [] v
  | happens {us v v' e} (under : v.enrichment? i = some e) (out : v.Happens v')
      (stays : v'.reads[i]? = v.reads[i]?)
      (punctual : ∀ x ∈ e.inFlight, x.deadline < x.due → v'.clock < x.due)
      (h : Syncs w i a us v) : Syncs w i a us v'
  | step {us v v' e} (t : Task) (under : v.enrichment? i = some e)
      (alone : ∀ j, t = .read j ∨ t = .inspects j → j = i) (quiet : (v.deed t).events = [])
      (obeys : t = .inspects i → v.Obeys a e) (moved : v.step? t = some v')
      (h : Syncs w i a us v) : Syncs w i a (us ++ (v.deed t).samples) v'

variable {w v v' : World} {i : Nat} {a : Replies} {e : Enrichment} {us : List Usage}
  {listing : List Container}

theorem enrichment?_eq_some :
    w.enrichment? i = some e ↔ ∃ errand, w.reads[i]? = some { errand, phase := .syncing e } := by
  unfold enrichment?
  split
  · next errand e' known =>
    rw [known]
    constructor
    · intro same
      obtain rfl := Option.some.inj same
      exact ⟨errand, rfl⟩
    · rintro ⟨errand', same⟩
      obtain ⟨-, same⟩ := StoreRead.mk.inj (Option.some.inj same)
      exact congrArg some (ReadPhase.syncing.inj same)
  · next other =>
    constructor
    · intro same
      simp at same
    · rintro ⟨errand, known⟩
      exact absurd known (other errand e)

theorem getElem?_continueRead {r r' : StoreRead} (known : w.reads[i]? = some r) :
    (w.continueRead i r').reads[i]? = some r' := by
  have inside := (List.getElem?_eq_some_iff.mp known).1
  simp [continueRead, inside]

theorem perm_of_settled? {clock : Nat} {xs rest : List Inspecting} {x : Inspecting}
    (h : settled? clock xs = some (x, rest)) :
    xs.Perm (x :: rest) ∧ (x.due ≤ clock ∨ x.deadline ≤ clock) := by
  induction xs generalizing rest with
  | nil => simp [settled?] at h
  | cons y ys ih =>
    unfold settled? at h
    split at h
    · next now =>
      obtain ⟨rfl, rfl⟩ := Prod.mk.inj (Option.some.inj h)
      exact ⟨.refl _, now⟩
    · obtain ⟨⟨z, others⟩, later, same⟩ := Option.map_eq_some_iff.mp h
      obtain ⟨rfl, rfl⟩ := Prod.mk.inj same
      obtain ⟨perm, now⟩ := ih later
      exact ⟨(perm.cons y).trans (.swap z y others), now⟩

/-- Where a synchronisation stands: whose outcomes have been taken over, whose have still to be, and
what the table shows meanwhile. -/
structure Enriching (w : World) (a : Replies) (listing : List Container) (us : List Usage)
    (v : World) (e : Enrichment) (done out : List String) : Prop where
  settings : v.store.settings = w.store.settings
  places : (done ++ (out ++ (e.inFlight.map (·.id) ++ e.queued))).Perm
    (w.store.absorb listing).pending
  outcomes : e.outcomes = out.map (a.outcome w.store.settings.timeout)
  genuine : ∀ id ∈ done ++ out, a.delay id ≤ w.store.settings.timeout →
    ∀ c, a.answer id = .ok c → c.id = id ∧ c.fullyLoaded = true
  flights : ∀ x ∈ e.inFlight, (x.due ≤ x.deadline ↔ a.delay x.id ≤ w.store.settings.timeout) ∧
    (x.deadline < x.due → v.clock < x.due)
  room : e.inFlight.length ≤ max 1 w.store.settings.parallelism
  nodup : v.store.tracked.keys.Nodup
  table : ∀ id, v.store.tracked.get? id = (lastListed listing id).map fun c =>
    (a.known w.store.settings.timeout done c).withStats
      (gathered w.store.settings (w.store.tracked.get? id) us id)

namespace Enriching

variable {done out : List String}

theorem begin (map : w.store.tracked.keys.Nodup)
    (tracked : v.store.tracked = (w.store.absorb listing).tracked)
    (settings : v.store.settings = w.store.settings) (running : List String) :
    Enriching w a listing [] v { running, queued := v.store.pending } [] [] where
  settings := settings
  places := by
    have same : v.store.pending = (w.store.absorb listing).pending := by
      simp only [Store.pending, tracked]
    simp [same]
  outcomes := rfl
  genuine := by simp
  flights := by simp
  room := Nat.zero_le _
  nodup := tracked ▸ (Store.tidy_absorb_of_nodup map listing).nodup
  table id := by
    rw [tracked, Store.get?_absorb]
    rfl

theorem aside {d : Deed} (h : Enriching w a listing us v e done out)
    (settings : v'.store.settings = v.store.settings)
    (tracked : v'.store.tracked = d.table v.store) (idle : d = .rest ∨ ∃ u, d = .sample u)
    (punctual : ∀ x ∈ e.inFlight, x.deadline < x.due → v'.clock < x.due) :
    Enriching w a listing (us ++ d.samples) v' e done out := by
  refine ⟨settings.trans h.settings, h.places, h.outcomes, h.genuine,
    fun x hx => ⟨(h.flights x hx).1, punctual x hx⟩, h.room, ?_, fun id => ?_⟩
  · obtain rfl | ⟨u, rfl⟩ := idle
    · exact tracked ▸ h.nodup
    · rw [tracked, Deed.table, Store.recordSample]
      split
      · exact Entries.nodup_put h.nodup
      · exact h.nodup
  · rw [tracked]
    obtain rfl | ⟨u, rfl⟩ := idle
    · rw [Deed.samples_rest, List.append_nil]
      exact h.table id
    · rw [Deed.table, Store.get?_recordSample, h.table]
      have one : gathered w.store.settings (w.store.tracked.get? id) (us ++ [u]) id =
          if id = u.id then (gathered w.store.settings (w.store.tracked.get? id) us id).push u
          else gathered w.store.settings (w.store.tracked.get? id) us id := by
        by_cases named : id = u.id
        · simp [gathered, named]
        · simp [gathered, named, Ne.symm named]
      rw [Deed.samples, one]
      split
      · rw [Option.map_map]
        rfl
      · rfl

theorem asked {host : ScriptedHost} {e' : Enrichment} (h : Enriching w a listing us v e done out)
    (obeys : v.Obeys a e) (stepped : v.stepEnrichment? e = some (host, e')) {errand : Errand} :
    ∃ out', Enriching w a listing us
      ({ v with host }.continueRead i { errand, phase := .syncing e' }) e' done out' := by
  unfold stepEnrichment? at stepped
  unfold Obeys at obeys
  split at stepped
  · next x inFlight next_ =>
    obtain ⟨rfl, rfl⟩ := Prod.mk.inj (Option.some.inj stepped)
    rw [next_] at obeys
    obtain ⟨perm, now⟩ := perm_of_settled? next_
    obtain ⟨timely, late⟩ := h.flights x (perm.mem_iff.mpr List.mem_cons_self)
    have outcome : (if x.due ≤ v.clock then InspectOutcome.answered (v.host.details x.id)
        else .timedOut) = a.outcome w.store.settings.timeout x.id := by
      by_cases due : x.due ≤ v.clock
      · have inTime : x.due ≤ x.deadline :=
          Nat.le_of_not_lt fun early => Nat.not_lt.mpr due (late early)
        rw [if_pos due, Replies.outcome, if_pos (timely.mp inTime), obeys due]
      · have slow : ¬ x.due ≤ x.deadline := by omega
        rw [if_neg due, Replies.outcome, if_neg (mt timely.mpr slow)]
    refine ⟨out ++ [x.id], h.settings, ?_, ?_, ?_, ?_, ?_, h.nodup, h.table⟩
    · refine .trans (List.Perm.append_left done ?_) h.places
      rw [List.append_assoc]
      refine List.Perm.append_left out ?_
      exact ((perm.map (·.id)).append_right e.queued).symm
    · rw [List.map_append, h.outcomes, outcome]
      rfl
    · intro id hid inTime c answer
      rw [← List.append_assoc] at hid
      obtain old | new := List.mem_append.mp hid
      · exact h.genuine id old inTime c answer
      · obtain rfl := List.mem_singleton.mp new
        have due : x.due ≤ v.clock := by
          have := timely.mpr inTime
          omega
        exact ScriptedHost.details_id ((obeys due).trans answer)
    · exact fun y hy => h.flights y (perm.mem_iff.mpr (List.mem_cons_of_mem x hy))
    · have fewer : e.inFlight.length = inFlight.length + 1 := perm.length_eq
      have kept : inFlight.length ≤ e.inFlight.length := by omega
      exact Nat.le_trans kept h.room
  · next none_ =>
    split at stepped
    · simp at stepped
    · next id queued waiting =>
      split at stepped
      · next free =>
        obtain ⟨rfl, rfl⟩ := Prod.mk.inj (Option.some.inj stepped)
        rw [none_, waiting] at obeys
        have tuned := h.settings
        refine ⟨out, h.settings, ?_, h.outcomes, h.genuine, ?_, ?_, h.nodup, h.table⟩
        · have places := h.places
          rw [waiting] at places
          simpa using places
        · intro x hx
          obtain old | new := List.mem_append.mp hx
          · exact h.flights x old
          · obtain rfl := List.mem_singleton.mp new
            have clock : ({ v with host := v.host.beginInspect } : World).clock = v.clock := rfl
            simp only [continueRead, obeys, tuned]
            constructor <;> omega
        · rw [tuned] at free
          rw [List.length_append, List.length_singleton]
          exact free
      · simp at stepped

theorem taken {o : InspectOutcome} {rest : List InspectOutcome} {r : StoreRead}
    (h : Enriching w a listing us v e done out) (map : w.store.tracked.keys.Nodup)
    (bare : ∀ c ∈ listing, c.fullyLoaded = false) (come : e.outcomes = o :: rest) :
    ∃ done' out', Enriching w a listing us
      ({ v with store := v.store.enrich o }.continueRead i r) { e with outcomes := rest }
      done' out' := by
  have outcomes := h.outcomes
  rw [come] at outcomes
  cases out with
  | nil => simp at outcomes
  | cons id out =>
    obtain ⟨rfl, rest_⟩ := List.cons.inj outcomes
    have fresh : id ∉ done := by
      have each := Store.nodup_pending (Store.tidy_absorb_of_nodup map listing)
      have apart := (List.nodup_append.mp (h.places.nodup_iff.mpr each)).2.2
      exact fun known => apart id known id (by simp) rfl
    have about : ∀ c, a.outcome w.store.settings.timeout id = .answered (.ok c) → c.id = id := by
      intro c answered
      unfold Replies.outcome at answered
      split at answered
      · next inTime =>
        exact (h.genuine id (by simp) inTime c (InspectOutcome.answered.inj answered)).1
      · simp at answered
    have listed : ∀ old, v.store.tracked.get? id = some old → old.fullyLoaded = false := by
      intro old known
      rw [h.table] at known
      obtain ⟨c, among, rfl⟩ := Option.map_eq_some_iff.mp known
      rw [Replies.known, id_of_lastListed among, if_neg fresh]
      exact bare c (mem_of_lastListed among)
    refine ⟨done ++ [id], out, (Store.enrich_settings _ _).trans h.settings, ?_, rest_, ?_,
      h.flights, h.room, Store.nodup_enrich h.nodup _, fun other => ?_⟩
    · simpa using h.places
    · simpa using h.genuine
    · have entry := Store.get?_enrich_listed about listed other
      refine entry.trans ?_
      rw [h.table]
      cases among : lastListed listing other with
      | none => simp
      | some c =>
        obtain rfl := id_of_lastListed among
        by_cases named : c.id = id
        · subst named
          simp [Replies.known, fresh]
        · simp [Replies.known, named]

end Enriching

/-! ### A whole synchronisation -/

inductive Stage (w : World) (i : Nat) (a : Replies) (us : List Usage) (v : World) : Prop
  | failed {errand result} (known : v.reads[i]? = some { errand, phase := .done result })
  | under {listing errand e done out}
      (listed : w.host.listing w.store.settings.filter = .ok listing)
      (known : v.reads[i]? = some { errand, phase := .syncing e })
      (h : Enriching w a listing us v e done out)
  | ended {listing errand e done}
      (listed : w.host.listing w.store.settings.filter = .ok listing)
      (known : v.reads[i]? = some { errand, phase := .connected })
      (h : Enriching w a listing us v e done []) (inFlight : e.inFlight = [])
      (queued : e.queued = [])

theorem bare_of_listing {host : ScriptedHost} {filter : LabelFilter}
    (listed : host.listing filter = .ok listing) : ∀ c ∈ listing, c.fullyLoaded = false := by
  unfold ScriptedHost.listing at listed
  split at listed
  · simp at listed
  · obtain rfl := Except.ok.inj listed
    intro c hc
    obtain ⟨d, -, rfl⟩ := List.mem_map.mp hc
    rfl

theorem Stage.enter {r : StoreRead} (map : w.store.tracked.keys.Nodup)
    (known : w.reads[i]? = some r) (entering : r.phase = .entering)
    (apart : w.store.connected = false) (moved : w.step? (.read i) = some v) :
    Stage w i a [] v := by
  obtain ⟨errand, phase⟩ := r
  obtain rfl : phase = .entering := entering
  have begun := w.store.still_beginSync
  have table := w.store.beginSync_tracked
  simp only [step?, stepRead?, known, World.enter, apart, begun.settings, Bool.false_eq_true,
    if_false, Option.some.injEq] at moved
  cases listed : w.host.listing w.store.settings.filter with
  | error fault =>
    simp only [listed] at moved
    subst moved
    exact .failed (getElem?_continueRead known)
  | ok listing =>
    simp only [listed] at moved
    subst moved
    exact .under listed (getElem?_continueRead known)
      (.begin map (Store.absorb_tracked_congr table begun.settings listing)
        ((Store.absorb_settings _ listing).trans begun.settings) _)

theorem Stage.read {errand : Errand} {done out : List String}
    (map : w.store.tracked.keys.Nodup)
    (listed : w.host.listing w.store.settings.filter = .ok listing)
    (known : v.reads[i]? = some { errand, phase := .syncing e })
    (h : Enriching w a listing us v e done out) (moved : v.step? (.read i) = some v') :
    Stage w i a us v' := by
  obtain ⟨running, queued, inFlight, outcomes⟩ := e
  simp only [step?, stepRead?, known] at moved
  cases outcomes with
  | cons o rest =>
    obtain rfl := Option.some.inj moved
    obtain ⟨done', out', taken⟩ := h.taken (i := i) (r := ⟨errand, .syncing ⟨running, queued,
      inFlight, rest⟩⟩) map (bare_of_listing listed) rfl
    exact .under listed (getElem?_continueRead known) taken
  | nil =>
    simp only at moved
    split at moved
    · next finished =>
      obtain rfl := Option.some.inj moved
      obtain ⟨rfl, rfl⟩ : queued = [] ∧ inFlight = [] := by simpa using finished
      obtain rfl : out = [] := List.map_eq_nil_iff.mp h.outcomes.symm
      have finished : Enriching w a listing us ({ v with store := v.store.endSync running
        }.continueRead i ⟨errand, .connected⟩) ⟨running, [], [], []⟩ done [] :=
        ⟨h.settings, h.places, rfl, h.genuine, by simp, Nat.zero_le _, h.nodup, h.table⟩
      exact .ended listed (getElem?_continueRead known) finished rfl rfl
    · simp at moved

theorem Stage.inspects {errand : Errand} {done out : List String}
    (listed : w.host.listing w.store.settings.filter = .ok listing)
    (known : v.reads[i]? = some { errand, phase := .syncing e })
    (h : Enriching w a listing us v e done out) (obeys : v.Obeys a e)
    (moved : v.step? (.inspects i) = some v') : Stage w i a us v' := by
  simp only [step?, stepInspects?, known] at moved
  obtain ⟨⟨host, e'⟩, stepped, rfl⟩ := Option.map_eq_some_iff.mp moved
  obtain ⟨out', asked⟩ := h.asked obeys stepped
  exact .under listed (getElem?_continueRead (w := { v with host }) known) asked

theorem quiet_read (v : World) (i : Nat) :
    (v.deed (.read i)).events = [] ∧ (v.deed (.read i)).samples = [] := by
  simp only [deed]
  split
  · unfold readDeed
    repeat' split
    all_goals exact ⟨rfl, rfl⟩
  · exact ⟨rfl, rfl⟩

theorem dispatcherDeed_cases (v : World) : v.dispatcherDeed = .rest ∨
    (∃ e reply, v.dispatcherDeed = .handle e reply) ∨ ∃ u, v.dispatcherDeed = .sample u := by
  unfold dispatcherDeed
  repeat' split
  all_goals simp

theorem deed_of_quiet {t : Task} (read : ∀ j, t ≠ .read j) (quiet : (v.deed t).events = []) :
    v.deed t = .rest ∨ ∃ u, v.deed t = .sample u := by
  cases t with
  | read j => exact absurd rfl (read j)
  | dispatcher =>
    have deed : v.deed .dispatcher = v.dispatcherDeed := rfl
    obtain idle | ⟨e, reply, handled⟩ | sampled := v.dispatcherDeed_cases
    · exact .inl idle
    · simp [deed, handled, Deed.events] at quiet
    · exact .inr sampled
  | _ => exact .inl rfl

/-- Other tasks leave the stage as it is, but for the samples that they record. -/
theorem Stage.beside {errand : Errand} {done out : List String} {t : Task}
    (listed : w.host.listing w.store.settings.filter = .ok listing)
    (known : v.reads[i]? = some { errand, phase := .syncing e })
    (h : Enriching w a listing us v e done out) (read : ∀ j, t ≠ .read j)
    (inspects : ∀ j, t ≠ .inspects j) (quiet : (v.deed t).events = [])
    (moved : v.step? t = some v') : Stage w i a (us ++ (v.deed t).samples) v' := by
  have stepped := step_of_step? moved
  obtain ⟨reads, clock⟩ : v'.reads = v.reads ∧ v'.clock = v.clock := by
    by_cases feed : ∃ n, t = .feed n
    · obtain ⟨n, rfl⟩ := feed
      exact beside_feed moved
    · exact (beside_of_step moved read inspects fun n same => feed ⟨n, same⟩).2
  refine .under listed (reads ▸ known) (h.aside stepped.settings stepped.tracked
    (deed_of_quiet read quiet) fun x hx late => ?_)
  rw [clock]
  exact (h.flights x hx).2 late

theorem Syncs.stage (map : w.store.tracked.keys.Nodup) (run : Syncs w i a us v) :
    Stage w i a us v := by
  induction run with
  | enter known entering apart moved => exact .enter map known entering apart moved
  | @happens us v v' e under out stays punctual h ih =>
    obtain ⟨errand, known⟩ := enrichment?_eq_some.mp under
    cases ih with
    | failed known' => simp [known] at known'
    | ended _ known' => simp [known] at known'
    | under listed known' h =>
      obtain ⟨rfl, same⟩ := StoreRead.mk.inj (Option.some.inj (known.symm.trans known'))
      obtain rfl := ReadPhase.syncing.inj same
      have kept := h.aside (d := .rest) out.outside.settings out.outside.tracked (.inl rfl) punctual
      rw [Deed.samples_rest, List.append_nil] at kept
      exact .under listed (stays.trans known) kept
  | @step us v v' e t under alone quiet obeys moved h ih =>
    obtain ⟨errand, known⟩ := enrichment?_eq_some.mp under
    cases ih with
    | failed known' => simp [known] at known'
    | ended _ known' => simp [known] at known'
    | under listed known' h =>
      obtain ⟨rfl, same⟩ := StoreRead.mk.inj (Option.some.inj (known.symm.trans known'))
      obtain rfl := ReadPhase.syncing.inj same
      by_cases own : t = .read i
      · subst own
        rw [(quiet_read v i).2, List.append_nil]
        exact .read map listed known h moved
      · by_cases inspects : t = .inspects i
        · subst inspects
          have silent : (v.deed (.inspects i)).samples = [] := rfl
          rw [silent, List.append_nil]
          exact .inspects listed known h (obeys rfl) moved
        · exact .beside listed known h (fun j same => own (alone j (.inl same) ▸ same))
            (fun j same => inspects (alone j (.inr same) ▸ same)) quiet moved

end World

/-- What a synchronisation makes of a listed container: if it runs and its inspect was answered in
time, the entry is the container that was answered, and else the listed one. The history is that of
the entry before, if there was one, with the samples recorded meanwhile. -/
structure Container.Resynced (settings : StoreSettings) (a : Replies) (old : Option Container)
    (us : List Usage) (c entry : Container) : Prop where
  loaded : ∀ d, c.isRunning = true → a.delay c.id ≤ settings.timeout → a.answer c.id = .ok d →
    entry = { d with stats := entry.stats } ∧ entry.fullyLoaded = true
  listed : ¬ (c.isRunning = true ∧ a.delay c.id ≤ settings.timeout ∧ ∃ d, a.answer c.id = .ok d) →
    entry = { c with stats := entry.stats } ∧ entry.fullyLoaded = false
  stats : entry.stats = gathered settings old us c.id

namespace World

variable {w v : World} {i : Nat} {a : Replies} {us : List Usage} {listing : List Container}

theorem mem_pending_absorb (map : w.store.tracked.keys.Nodup)
    (bare : ∀ c ∈ listing, c.fullyLoaded = false) {c : Container}
    (among : lastListed listing c.id = some c) :
    c.id ∈ (w.store.absorb listing).pending ↔ c.isRunning = true := by
  rw [Store.mem_pending (Store.tidy_absorb_of_nodup map listing), Store.get?_absorb, among]
  constructor
  · rintro ⟨d, same, running, -⟩
    obtain rfl := Option.some.inj same
    exact running
  · exact fun running => ⟨_, rfl, running, bare c (mem_of_lastListed among)⟩

theorem Enriching.entry_resynced {e : Enrichment} {done : List String}
    (h : Enriching w a listing us v e done []) (map : w.store.tracked.keys.Nodup)
    (bare : ∀ c ∈ listing, c.fullyLoaded = false) (inFlight : e.inFlight = [])
    (queued : e.queued = []) {c : Container} (among : lastListed listing c.id = some c) :
    c.Resynced w.store.settings a (w.store.tracked.get? c.id) us
      ((a.known w.store.settings.timeout done c).withStats
        (gathered w.store.settings (w.store.tracked.get? c.id) us c.id)) := by
  have inspected : c.id ∈ done ↔ c.isRunning = true := by
    have places := h.places
    rw [inFlight, queued] at places
    rw [← mem_pending_absorb map bare among, ← places.mem_iff]
    simp
  refine ⟨fun d running inTime answer => ?_, fun not_ => ?_, rfl⟩
  · have here := inspected.mpr running
    have outcome : a.known w.store.settings.timeout done c = d := by
      rw [Replies.known, if_pos here, Replies.outcome, if_pos inTime, answer]
      rfl
    rw [outcome]
    exact ⟨rfl, (h.genuine c.id (by simp [here]) inTime d answer).2⟩
  · have kept : a.known w.store.settings.timeout done c = c := by
      unfold Replies.known Replies.outcome
      split
      · next here =>
        split
        · next inTime =>
          cases answer : a.answer c.id with
          | error fault => rfl
          | ok d => exact absurd ⟨inspected.mp here, inTime, d, answer⟩ not_
        · rfl
      · rfl
    rw [kept]
    exact ⟨rfl, bare c (mem_of_lastListed among)⟩

/-- A synchronisation never has more inspects under way than it may; and when it has succeeded, the
tracked containers are those that were listed, each as its inspect and its history leave it. -/
theorem Syncs.resynced (map : w.store.tracked.keys.Nodup) (run : Syncs w i a us v) :
    (∀ e, v.enrichment? i = some e →
      e.inFlight.length ≤ max 1 w.store.settings.parallelism) ∧
    ∀ errand, v.reads[i]? = some { errand, phase := .connected } →
      ∃ listing, w.host.listing w.store.settings.filter = .ok listing ∧
        v.store.tracked.keys.Nodup ∧
        (∀ id, id ∈ v.store.tracked.keys ↔ id ∈ listing.map (·.id)) ∧
        ∀ id c, lastListed listing id = some c →
          ∃ entry, v.store.tracked.get? id = some entry ∧
            c.Resynced w.store.settings a (w.store.tracked.get? id) us entry := by
  have stage := run.stage map
  constructor
  · intro e under
    obtain ⟨errand, known⟩ := enrichment?_eq_some.mp under
    cases stage with
    | failed known' => simp [known] at known'
    | ended _ known' => simp [known] at known'
    | under listed known' h =>
      obtain ⟨-, same⟩ := StoreRead.mk.inj (Option.some.inj (known.symm.trans known'))
      obtain rfl := ReadPhase.syncing.inj same
      exact h.room
  · intro errand known
    cases stage with
    | failed known' => simp [known] at known'
    | under _ known' => simp [known] at known'
    | @ended listing errand' e done listed known' h inFlight queued =>
      refine ⟨listing, listed, h.nodup, fun id => ?_, fun id c among => ?_⟩
      · rw [Entries.mem_keys_iff, ← isSome_lastListed, h.table]
        simp only [Option.map_eq_some_iff]
        exact ⟨fun ⟨_, c, among, _⟩ => ⟨c, among⟩, fun ⟨c, among⟩ => ⟨_, c, among, rfl⟩⟩
      · obtain rfl := id_of_lastListed among
        have entry := h.table c.id
        rw [among] at entry
        exact ⟨_, entry, h.entry_resynced map (bare_of_listing listed) inFlight queued among⟩

/-! ### One inspect in time, one too late

A container that was known before and has a sample is inspected anew, then the host slows down and
the inspect of a second one is given up; a third one does not run, and a fourth is gone. -/

/-- Whether the host takes as long as it is to for the inspect that begins next. -/
def delaysAs (v : World) (a : Replies) (e : Enrichment) : Bool :=
  match settled? v.clock e.inFlight, e.queued with
  | none, id :: _ => v.host.inspectDelay == a.delay id
  | _, _ => true

theorem Syncs.forward {h : ScriptedHost} (answers : ∀ id, h.details id = a.answer id)
    (run : Syncs w i a us v ∧ v.host.containers = h.containers) {t : Task}
    (own : t = .read i ∨ t = .inspects i)
    (delays : (v.enrichment? i).any (v.delaysAs a) = true)
    (moves : (v.step? t).isSome = true) :
    Syncs w i a us (v.moved t) ∧ (v.moved t).host.containers = h.containers := by
  obtain ⟨run, containers⟩ := run
  have moved := step?_moved moves
  have told : ∀ id, v.host.details id = a.answer id := by
    intro id
    rw [← answers, ScriptedHost.details, ScriptedHost.details, containers]
  obtain ⟨e, under, delays⟩ := (Option.any_eq_true _ _).mp delays
  have obeys : v.Obeys a e := by
    unfold Obeys
    unfold delaysAs at delays
    split
    · next x _ _ => exact fun _ => told x.id
    · next id _ waiting none_ => simpa [waiting, none_] using delays
    · trivial
  obtain ⟨quiet, silent⟩ : (v.deed t).events = [] ∧ (v.deed t).samples = [] := by
    obtain rfl | rfl := own
    · exact quiet_read v i
    · exact ⟨rfl, rfl⟩
  have alone : ∀ j, t = .read j ∨ t = .inspects j → j = i := by
    obtain rfl | rfl := own <;> simp
  have step := run.step t under alone quiet (fun _ => obeys) moved
  rw [silent, List.append_nil] at step
  exact ⟨step, (step_of_step? moved).containers.trans containers⟩

theorem Syncs.aside {h : ScriptedHost}
    (run : Syncs w i a us v ∧ v.host.containers = h.containers) (out : v.Happens v')
    (stays : v'.reads = v.reads) (containers : v'.host.containers = v.host.containers)
    (punctual : (v.enrichment? i).any (fun e => e.inFlight.all fun x =>
      x.due ≤ x.deadline || v'.clock < x.due) = true) :
    Syncs w i a us v' ∧ v'.host.containers = h.containers := by
  obtain ⟨e, under, punctual⟩ := (Option.any_eq_true _ _).mp punctual
  refine ⟨run.1.happens under out (by rw [stays]) fun x hx late => ?_, containers.trans run.2⟩
  have inTime := List.all_eq_true.mp punctual x hx
  simp only [Bool.or_eq_true, decide_eq_true_eq] at inTime
  omega

def pacedHost : ScriptedHost :=
  { (((ScriptedHost.named "fake").put { id := "aaa", name := "web", state := .running }).put
      { id := "bbb", name := "db", state := .running }).put
      { id := "ccc", name := "job", state := .exited } with
    inspectDelay := 5 }

def pacedReplies : Replies where
  delay id := if id = "aaa" then 5 else 9000
  answer := pacedHost.details

def pacedBefore : World where
  host := pacedHost
  store :=
    { Store.ofSettings { parallelism := 1 } pacedHost.host with
      tracked := [("aaa", { id := "aaa", stats := ⟨2, []⟩, fullyLoaded := true }),
        ("ddd", { id := "ddd" })] }
  reads := [{ errand := .connect }]

def pacedAnswered : World :=
  ({ (pacedBefore.moved (.read 0)).moved (.inspects 0) with clock := 5 } : World).moved
    (.inspects 0)

def pacedGivenUp : World :=
  ({ ({ pacedAnswered with host := { pacedAnswered.host with inspectDelay := 9000 } } :
    World).moved (.inspects 0) with clock := 3005 } : World).moved (.inspects 0)

def pacedConnected : World :=
  ((pacedGivenUp.moved (.read 0)).moved (.read 0)).moved (.read 0)

theorem syncs_paced : Syncs pacedBefore 0 pacedReplies [] pacedConnected := by
  have same : ∀ id, pacedHost.details id = pacedReplies.answer id := fun _ => rfl
  have h0 : Syncs pacedBefore 0 pacedReplies [] (pacedBefore.moved (.read 0)) :=
    .enter rfl rfl rfl (step?_moved (by decide +kernel))
  have c0 : (pacedBefore.moved (.read 0)).host.containers = pacedHost.containers :=
    (step_of_step? (step?_moved (by decide +kernel))).containers
  have h1 := Syncs.forward (t := .inspects 0) same ⟨h0, c0⟩ (.inr rfl) (by decide +kernel)
    (by decide +kernel)
  have h2 := Syncs.aside h1 (.pass 5) rfl rfl (by decide +kernel)
  have h3 := Syncs.forward (t := .inspects 0) same h2 (.inr rfl) (by decide +kernel)
    (by decide +kernel)
  have h4 := Syncs.aside h3 (.host { pacedAnswered.host with inspectDelay := 9000 }) rfl rfl
    (by decide +kernel)
  have h5 := Syncs.forward (t := .inspects 0) same h4 (.inr rfl) (by decide +kernel)
    (by decide +kernel)
  have h6 := Syncs.aside h5 (.pass 3005) rfl rfl (by decide +kernel)
  have h7 := Syncs.forward (t := .inspects 0) same h6 (.inr rfl) (by decide +kernel)
    (by decide +kernel)
  have h8 := Syncs.forward (t := .read 0) same h7 (.inl rfl) (by decide +kernel)
    (by decide +kernel)
  have h9 := Syncs.forward (t := .read 0) same h8 (.inl rfl) (by decide +kernel)
    (by decide +kernel)
  exact (Syncs.forward (t := .read 0) same h9 (.inl rfl) (by decide +kernel)
    (by decide +kernel)).1

theorem Syncs.resynced_paced : ∃ listing, pacedHost.listing .all = .ok listing ∧
    pacedConnected.store.tracked.keys.Nodup ∧
    (∀ id, id ∈ pacedConnected.store.tracked.keys ↔ id ∈ listing.map (·.id)) ∧
    ∀ id c, lastListed listing id = some c →
      ∃ entry, pacedConnected.store.tracked.get? id = some entry ∧
        c.Resynced pacedBefore.store.settings pacedReplies (pacedBefore.store.tracked.get? id) []
          entry := by
  have map : pacedBefore.store.tracked.keys.Nodup := by decide +kernel
  obtain ⟨errand, connected⟩ := isConnected_iff.mp
    (show pacedConnected.isConnected 0 = true by decide +kernel)
  exact (Syncs.resynced map syncs_paced).2 errand connected

end World

end ContainerWatch
