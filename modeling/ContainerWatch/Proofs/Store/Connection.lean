import ContainerWatch.Proofs.Store.Service

/-!
Reads and the connection. Whatever happens to a store in service, in a settled world it counts as
connected exactly if it has an open feed, and each read has asked for a listing exactly if it found
the store unconnected.
-/

namespace ContainerWatch

namespace World

variable {settings : StoreSettings} {host : ScriptedHost} {c : Chronicle} {w v : World} {i n : Nat}

/-! ### Settled worlds -/

theorem mem_tasks_feed {f : Feed} (known : w.store.feeds[n]? = some f) : .feed n ∈ w.tasks := by
  have inside := (List.getElem?_eq_some_iff.mp known).1
  simp [tasks, inside]

theorem mem_tasks_read (inside : i < w.reads.length) :
    .read i ∈ w.tasks ∧ .inspects i ∈ w.tasks := by
  simp [tasks, inside]

def IsSettled (w : World) : Prop := ∀ t ∈ w.tasks, w.step? t = none

theorem IsSettled.feed_rests (settled : w.IsSettled) {f : Feed}
    (known : w.store.feeds[n]? = some f) : f.Rests := by
  have still := settled (.feed n) (mem_tasks_feed known)
  obtain ⟨cancelled, phase⟩ := f
  cases phase with
  | opening =>
    obtain ⟨v, moved, -⟩ := step_opening known
    simp [still] at moved
  | live =>
    cases cancelled with
    | false => exact .inr ⟨rfl, rfl⟩
    | true =>
      obtain ⟨v, moved, -⟩ := step_told known
      simp [still] at moved
  | broken =>
    obtain ⟨v, moved, -⟩ := step_broken known
    simp [still] at moved
  | ended => exact .inl rfl

def live (w : World) : List Nat := liveAmong w.store.feeds

/-- A read has its listing, and nothing but time helps the inspects that it waits for. -/
def AwaitsInspects (w : World) (i : Nat) : Prop :=
  ∃ sync, w.phaseOf i = .syncing sync ∧
    ∃ x ∈ sync.inFlight, w.clock < x.due ∧ w.clock < x.deadline

theorem waiting_of_settled? {clock : Nat} {xs : List Inspecting} (h : settled? clock xs = none) :
    ∀ x ∈ xs, clock < x.due ∧ clock < x.deadline := by
  induction xs with
  | nil => simp
  | cons y ys ih =>
    unfold settled? at h
    split at h
    · simp at h
    · next early =>
      have rest := ih (Option.map_eq_none_iff.mp h)
      intro x hx
      rcases List.mem_cons.mp hx with rfl | later
      · omega
      · exact rest x later

theorem IsSettled.awaits {errand : Errand} {sync : Enrichment} (settled : w.IsSettled)
    (known : w.reads[i]? = some { errand, phase := .syncing sync }) : w.AwaitsInspects i := by
  obtain ⟨running, queued, inFlight, outcomes⟩ := sync
  have among := mem_tasks_read (List.getElem?_eq_some_iff.mp known).1
  have read := settled (.read i) among.1
  have inspects := settled (.inspects i) among.2
  simp only [step?, stepRead?, stepInspects?, known] at read inspects
  cases outcomes with
  | cons o rest => simp at read
  | nil =>
    have stuck := Option.map_eq_none_iff.mp inspects
    unfold stepEnrichment? at stuck
    split at stuck
    · simp at stuck
    · next waiting =>
      have early := waiting_of_settled? waiting
      -- A synchronisation with nothing under way would begin an inspect or end.
      have busy : inFlight ≠ [] := by
        rintro rfl
        cases queued with
        | nil => simp at read
        | cons id queued =>
          simp at stuck
      obtain ⟨x, hx⟩ := List.exists_mem_of_ne_nil inFlight busy
      exact ⟨_, phaseOf_eq known, x, hx, early x hx⟩

theorem InTune.read_settled (h : InTune c w) (settled : w.IsSettled)
    (inside : i < w.reads.length) : ∃ u, c.entries i = [u] ∧
      (u.store.connected = true → c.listings i = 0 ∧ c.passed i = true) ∧
      (u.store.connected = false → c.listings i = 1 ∧
        (c.passed i = true ∨ w.AwaitsInspects i ↔ u.isListable = true)) := by
  obtain ⟨⟨errand, phase⟩, known⟩ : ∃ r, w.reads[i]? = some r :=
    ⟨_, List.getElem?_eq_getElem inside⟩
  have place := phaseOf_eq known
  have read := settled (.read i) (mem_tasks_read inside).1
  simp only [step?, stepRead?, known] at read
  have told := h.told i
  rw [place, Chronicle.record] at told
  generalize c.entries i = entries, c.listings i = listings, c.passed i = passed at told ⊢
  cases told with
  | entering => simp at read
  | connected asked through => simp at read
  | @syncing u _ sync asked apart answered =>
    refine ⟨u, rfl, fun connected => ?_, fun _ => ⟨?_, ?_⟩⟩
    · simp [apart] at connected
    · simpa [asks, apart] using asked
    · simp [answered, settled.awaits known]
  | @inspecting u _ id due asked through =>
    refine ⟨u, rfl, fun connected => ⟨?_, rfl⟩, fun apart => ⟨?_, ?_⟩⟩
    · simpa [asks, connected] using asked
    · simpa [asks, apart] using asked
    · simpa [admits, apart] using through
  | @done u _ _ result asked same =>
    have finished : ¬ w.AwaitsInspects i := by
      rintro ⟨sync, busy, -⟩
      simp [place] at busy
    refine ⟨u, rfl, fun connected => ⟨?_, ?_⟩, fun apart => ⟨?_, ?_⟩⟩
    · simpa [asks, connected] using asked
    · simpa [admits, connected] using same
    · simpa [asks, apart] using asked
    · simp [finished, same, admits, apart]

/-- The connection of a store, its feeds and what its reads did go together: at most one feed is
open, and it is the one that the host serves; the store counts as connected exactly if one is, and
exactly if the listing of the last attempt was answered and its feed has not ended since. Each read
has checked the connection once. If there was one, it asked for no listing and got through; if not,
it asked for exactly one, and got through, or will when its inspects are over, exactly if that was
answered. -/
structure Attuned (c : Chronicle) (w : World) : Prop where
  single : w.live.length ≤ 1
  served : w.host.feeds = w.live
  one : w.store.connected = true ↔ w.live.length = 1
  last : w.store.connected = true ↔
    ∃ n f, c.attempt = some (n, true) ∧ w.store.feeds[n]? = some f ∧ f.phase ≠ .ended
  reads : ∀ i < w.reads.length, ∃ u, c.entries i = [u] ∧
    (u.store.connected = true → c.listings i = 0 ∧ c.passed i = true) ∧
    (u.store.connected = false → c.listings i = 1 ∧
      (c.passed i = true ∨ w.AwaitsInspects i ↔ u.isListable = true))

/-- Whatever happens to a store in service, its connection is right whenever it settles. -/
theorem Served.attuned (run : Served settings host c w) (settled : w.IsSettled) : Attuned c w := by
  have tune := run.inTune
  obtain ⟨single, opened, one, last⟩ := tune.line.resting fun _ _ known => settled.feed_rests known
  exact ⟨single, opened, one, last, fun i inside => tune.read_settled settled inside⟩

/-! ### A refusal, a break and a slow host

A store is made on a host that answers no listings, and the first read is refused. The second one
connects the store, the third finds it connected. Then the host breaks the feed, and the last read
makes a new connection, but has to wait for an inspect. -/

def refusingHost : ScriptedHost :=
  { (ScriptedHost.named "fake").put { id := "aaa", name := "web", state := .running } with
    listingFails := true }

def connectionRefused : World :=
  settle { World.start {} refusingHost with
    reads := (World.start {} refusingHost).reads ++ [{ errand := .list .all }] }

def connectionMade : World :=
  settle { connectionRefused with
    host := { connectionRefused.host with listingFails := false }
    reads := connectionRefused.reads ++ [{ errand := .find "aaa" .all }] }

def connectionLost : World :=
  (settle { connectionMade with
    reads := connectionMade.reads ++ [{ errand := .list .all }] }).disconnect.settle

def connectionRegained : World :=
  settle { connectionLost with
    host := { connectionLost.host with inspectDelay := 20 }
    reads := connectionLost.reads ++ [{ errand := .list .all }] }

theorem served_regained : ∃ c, Served {} refusingHost c connectionRegained := by
  have lists : ∀ e ∈ [Errand.list .all], e.isPlain = true := by simp [Errand.isPlain]
  have finds : ∀ e ∈ [Errand.find "aaa" .all], e.isPlain = true := by simp [Errand.isPlain]
  have free : refusingHost.feeds = [] := rfl
  obtain ⟨_, made⟩ := served_start {} free
  obtain ⟨_, refused⟩ := (made.call _ lists).settle
  obtain ⟨_, connected⟩ := ((refused.change
    { connectionRefused.host with listingFails := false } rfl).call _ finds).settle
  obtain ⟨_, found⟩ := (connected.call _ lists).settle
  obtain ⟨_, lost⟩ := found.disconnect.settle
  exact ((lost.change { connectionLost.host with inspectDelay := 20 } rfl).call _ lists).settle

theorem Served.attuned_regained : ∃ c, Served {} refusingHost c connectionRegained ∧
    Attuned c connectionRegained ∧ connectionRegained.live = [3] ∧
    connectionRegained.reads.length = 4 := by
  obtain ⟨c, run⟩ := served_regained
  have rests : (connectionRegained.tasks.all fun t =>
      (connectionRegained.step? t).isNone) = true := by decide +kernel
  have settled : connectionRegained.IsSettled := by simpa [IsSettled] using rests
  exact ⟨c, run, run.attuned settled, by decide +kernel, by decide +kernel⟩

end World

end ContainerWatch
