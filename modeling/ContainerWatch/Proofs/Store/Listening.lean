import ContainerWatch.Proofs.Broadcast.Mailboxes
import ContainerWatch.Proofs.Store.Courses
import ContainerWatch.Proofs.Store.Telling

/-!
What a subscriber of events hears in the course of a feed. While no read is under way, the
dispatcher is the only one to tell it anything; a subscriber that always has room hears what it is
told of one event after the other, in the order in which the feed brings them.
-/

namespace ContainerWatch

namespace Store

variable {i : Nat} {t : Subscriber ContainerEvent}

theorem handle_events (s : Store) (e : ContainerEvent) (reply : Except HostFault Container) :
    (s.handle e reply).store.events = s.events := by
  have amended : ∀ f, (s.amend e f).store.events = s.events := fun f => (s.still_amend e f).events
  have welcomed : ∀ starts, (s.welcome e starts reply).store.events = s.events := by
    intro starts
    unfold welcome
    split
    · rfl
    · split
      · cases starts <;> rfl
      · rfl
  unfold handle
  split
  · exact welcomed false
  · exact welcomed true
  · rfl
  · exact amended _
  · exact amended _
  · exact (s.still_rename e reply).events
  · unfold renew
    split
    · rfl
    · split
      · simp only
        split
        · exact amended _
        · exact amended _
      · rfl
  · rfl

theorem seat_announceAll (told : List ContainerEvent) (s : Store)
    (seat : s.events.subscribers[i]? = some t) (enrolled : t.enrolled = true)
    (stays : t.isLeaving = false) (room : t.queue.length + told.length ≤ s.events.capacity) :
    (told.foldl announce s).events.capacity = s.events.capacity ∧
      (told.foldl announce s).events.subscribers[i]? =
        some { t with queue := t.queue ++ told } := by
  induction told generalizing s t with
  | nil => simpa using seat
  | cons e rest ih =>
    rw [List.length_cons] at room
    have offered : (t.offer s.events.capacity e).1 = { t with queue := t.queue ++ [e] } := by
      have present : t.done = false ∧ t.dropped = false := by
        simpa [Subscriber.isLeaving] using stays
      have fits : t.queue.length < s.events.capacity := by omega
      simp [Subscriber.offer, enrolled, present.1, present.2, fits]
    have next : (s.announce e).events.subscribers[i]? =
        some { t with queue := t.queue ++ [e] } := by
      simp [announce, Broadcast.send, Broadcast.onAll, seat, offered]
    have left : ({ t with queue := t.queue ++ [e] } : Subscriber _).queue.length + rest.length ≤
        (s.announce e).events.capacity := by
      have same : (s.announce e).events.capacity = s.events.capacity := rfl
      simp only [List.length_append, List.length_singleton, same]
      omega
    have later := ih (s.announce e) next enrolled stays left
    rw [List.append_assoc, List.singleton_append] at later
    exact later

theorem seat_receive {s : Store} {e : ContainerEvent} {reply : Except HostFault Container}
    (seat : s.events.subscribers[i]? = some t) (enrolled : t.enrolled = true)
    (stays : t.isLeaving = false)
    (room : t.queue.length + (Handling.mk s e reply).told.length ≤ s.events.capacity) :
    (s.receive e (s.tracked.has e.actorId) reply).events.subscribers[i]? =
      some { t with queue := t.queue ++ (Handling.mk s e reply).told } := by
  have same := s.handle_events e reply
  rw [← same] at seat room
  unfold receive
  rw [publish_eq]
  exact (seat_announceAll _ _ seat enrolled stays room).2

end Store

namespace World

def pending (w : World) : List ContainerEvent :=
  (match w.dispatcher with
    | .inspecting e _ _ => [e]
    | _ => []) ++ w.queue

theorem pending_of_idle {w : World} (idle : w.dispatcher = .idle) : w.pending = w.queue := by
  simp only [pending, idle, List.nil_append]

theorem pending_of_asked {w : World} {e : ContainerEvent} {trackedBefore : Bool} {due : Nat}
    (asked : w.dispatcher = .inspecting e trackedBefore due) : w.pending = e :: w.queue := by
  simp only [pending, asked, List.singleton_append]

def broughtBy (w : World) : Task → List ContainerEvent
  | .emission => w.emission.toList
  | _ => []

def handledBy (w : World) (t : Task) : List Handling :=
  match w.deed t with
  | .handle e reply => [⟨w.store, e, reply⟩]
  | _ => []

/-- A subscriber has room for all that it is told of an event. -/
def HasRoom (w : World) (i : Nat) (h : Handling) : Prop :=
  ∀ s, w.store.events.subscribers[i]? = some s →
    s.queue.length + h.told.length ≤ w.store.events.capacity

/-- No read is under way, and the events that wait were sent without a container. -/
structure Poised (w : World) : Prop where
  reads : w.reads = []
  announcements : w.announcements = []
  tidy : Store.Tidy w.store.tracked
  bare : ∀ e ∈ w.pending ++ w.emission.toList, e.container = none
  known : ∀ e trackedBefore due, w.dispatcher = .inspecting e trackedBefore due →
    trackedBefore = w.store.tracked.has e.actorId

/-- A way from one world to another on which one subscriber stays and always has room, with the
events that the feed has brought, those that were handled, and what the subscriber has read. The
host may give any answer to an inspect. -/
inductive Listens (i : Nat) (w : World) :
    List ContainerEvent → List Handling → List ContainerEvent → World → Prop
  | nil : Listens i w [] [] [] w
  | happens {sent hs heard v v'} (out : v.Happens v') (reads : v'.reads = v.reads)
    (seat : v'.store.events.subscribers[i]? = v.store.events.subscribers[i]?)
    (capacity : v'.store.events.capacity = v.store.events.capacity)
    (h : Listens i w sent hs heard v) : Listens i w sent hs heard v'
  | read {sent hs heard v receipt events}
    (got : v.store.events.receive i = some (receipt, events)) (h : Listens i w sent hs heard v) :
    Listens i w sent hs (heard ++ Receipt.items [receipt])
      { v with store := { v.store with events } }
  | answer {sent hs heard v e trackedBefore due} (reply : Except HostFault Container)
    (asked : v.dispatcher = .inspecting e trackedBefore due)
    (room : v.HasRoom i ⟨v.store, e, reply⟩) (h : Listens i w sent hs heard v) :
    Listens i w sent (hs ++ [⟨v.store, e, reply⟩]) heard
      { v with
        host := v.host.endInspect, dispatcher := .idle
        store := v.store.receive e trackedBefore reply }
  | step {sent hs heard v v'} (t : Task) (moved : v.step? t = some v')
    (room : ∀ h ∈ v.handledBy t, v.HasRoom i h) (h : Listens i w sent hs heard v) :
    Listens i w (sent ++ v.broughtBy t) (hs ++ v.handledBy t) heard v'

/-! ### Single steps -/

inductive Turn (i : Nat) (v : World) : List ContainerEvent → List Handling → World → Prop
  | aside {v'} (reads : v'.reads = v.reads) (announcements : v'.announcements = v.announcements)
    (dispatcher : v'.dispatcher = v.dispatcher) (queue : v'.queue = v.queue)
    (emission : ∀ e ∈ v'.emission, e.container = none ∨ v.emission = some e)
    (settings : v'.store.settings = v.store.settings)
    (tracked : v'.store.tracked = v.store.tracked)
    (seat : ∀ s, v.store.events.subscribers[i]? = some s → s.isLeaving = false →
      v'.store.events.subscribers[i]? = some s)
    (capacity : v'.store.events.capacity = v.store.events.capacity) : Turn i v [] [] v'
  | bring {e} (emission : v.emission = some e) :
    Turn i v [e] [] { v with emission := none, queue := v.queue ++ [e] }
  | stop : Turn i v [] [] { v with dispatcher := .stopped, queue := [] }
  | ask {e rest} (host : ScriptedHost) (due : Nat) (idle : v.dispatcher = .idle)
    (queue : v.queue = e :: rest) :
    Turn i v [] [] { v with
      host, queue := rest, dispatcher := .inspecting e (v.store.tracked.has e.actorId) due }
  | record (subscribers : Broadcast Usage) (u : Usage) (idle : v.dispatcher = .idle) :
    Turn i v [] [] { v with
      store := (v.store.onSampling fun t => { t with subscribers }).recordSample u }
  | handle {e queue} (host : ScriptedHost) (reply : Except HostFault Container)
    (pending : v.pending = e :: queue) (serves : v.dispatcher ≠ .stopped) :
    Turn i v [] [⟨v.store, e, reply⟩] { v with
      host, queue, dispatcher := .idle
      store := v.store.receive e (v.store.tracked.has e.actorId) reply }

variable {i : Nat} {w v v' : World} {brought sent : List ContainerEvent} {news hs : List Handling}
  {heard : List ContainerEvent} {s : Subscriber ContainerEvent}

theorem turn_feed {n : Nat} (moved : v.stepFeed? n = some v') : Turn i v [] [] v' := by
  unfold stepFeed? at moved
  have bare : ∀ e ∈ v.emission, e.container = none ∨ v.emission = some e := fun e he => Or.inr he
  split at moved
  · split at moved
    · exact Option.some.inj moved ▸ .aside rfl rfl rfl rfl bare rfl rfl (fun _ h _ => h) rfl
    · split at moved
      · exact Option.some.inj moved ▸ .aside rfl rfl rfl rfl bare rfl rfl (fun _ h _ => h) rfl
      · simp at moved
    · exact Option.some.inj moved ▸ .aside rfl rfl rfl rfl bare rfl rfl (fun _ h _ => h) rfl
    · simp at moved
  · simp at moved

theorem turn_watchers (moved : v.stepWatchers? = some v') : Turn i v [] [] v' := by
  unfold stepWatchers? at moved
  split at moved
  · refine Option.some.inj moved ▸ .aside rfl rfl rfl rfl (fun e he => Or.inr he) rfl rfl ?_ rfl
    intro s seat stays
    have watched : s.watch.1 = s := by simp [Subscriber.watch, stays]
    simp [seat, watched]
  · simp at moved

theorem turn_takeSample (idle : v.dispatcher = .idle) (queue : v.queue = [])
    (open_ : v.store.isShut = false) (moved : v.takeSample? = some v') :
    Turn i v [] (v.handledBy .dispatcher) v' := by
  unfold takeSample? at moved
  split at moved
  · next u subscribers received =>
    have deed : v.dispatcherDeed = .sample u := by
      simp only [dispatcherDeed, idle, open_, queue, received, Bool.false_eq_true, if_false]
    have none_ : v.handledBy .dispatcher = [] := by simp only [handledBy, World.deed, deed]
    rw [none_]
    exact Option.some.inj moved ▸ .record subscribers u idle
  · simp at moved

theorem turn_dispatch {e : ContainerEvent} {rest : List ContainerEvent}
    (idle : v.dispatcher = .idle) (queue : v.queue = e :: rest) (open_ : v.store.isShut = false) :
    Turn i v [] (v.handledBy .dispatcher) (({ v with queue := rest } : World).dispatch e) := by
  cases needs : e.needsInspect with
  | true =>
    have deed : v.dispatcherDeed = .rest := by
      simp only [dispatcherDeed, idle, open_, queue, needs, Bool.false_eq_true, if_false, if_true]
    have none_ : v.handledBy .dispatcher = [] := by simp only [handledBy, World.deed, deed]
    rw [none_]
    simp only [dispatch, needs, if_true]
    exact .ask _ _ idle queue
  | false =>
    have deed : v.dispatcherDeed = .handle e (.error .cancelled) := by
      simp only [dispatcherDeed, idle, open_, queue, needs, Bool.false_eq_true, if_false]
    have one : v.handledBy .dispatcher = [⟨v.store, e, .error .cancelled⟩] := by
      simp only [handledBy, World.deed, deed]
    have pending : v.pending = e :: rest := (pending_of_idle idle).trans queue
    rw [one]
    simp only [dispatch, needs, Bool.false_eq_true, if_false]
    have turn := Turn.handle (i := i) v.host (.error .cancelled) pending (by simp [idle])
    rw [← idle] at turn
    exact turn

theorem turn_dispatcher (h : Poised v) (moved : v.stepDispatcher? = some v') :
    Turn i v [] (v.handledBy .dispatcher) v' := by
  unfold stepDispatcher? at moved
  split at moved
  · simp at moved
  · next e trackedBefore due asked =>
    split at moved
    · obtain rfl := Option.some.inj moved
      have deed : v.dispatcherDeed = .handle e (v.host.details e.actorId) := by
        simp only [dispatcherDeed, asked]
      have one : v.handledBy .dispatcher = [⟨v.store, e, v.host.details e.actorId⟩] := by
        simp only [handledBy, World.deed, deed]
      rw [one, h.known e trackedBefore due asked]
      exact .handle v.host.endInspect _ (pending_of_asked asked) (by simp [asked])
    · simp at moved
  · next idle =>
    split at moved
    · next shut =>
      have deed : v.dispatcherDeed = .rest := by simp only [dispatcherDeed, idle, shut, if_true]
      have none_ : v.handledBy .dispatcher = [] := by simp only [handledBy, World.deed, deed]
      rw [none_]
      exact Option.some.inj moved ▸ .stop
    · next open_ =>
      have open_ : v.store.isShut = false := by simpa using open_
      split at moved
      · next e rest queue => exact Option.some.inj moved ▸ turn_dispatch idle queue open_
      · next queue => exact turn_takeSample idle queue open_ moved

theorem turn_of_step? {t : Task} (h : Poised v) (moved : v.step? t = some v') :
    Turn i v (v.broughtBy t) (v.handledBy t) v' := by
  cases t with
  | read j => simp [step?, stepRead?, h.reads] at moved
  | inspects j => simp [step?, stepInspects?, h.reads] at moved
  | announcements => simp [step?, stepAnnouncements?, h.announcements] at moved
  | feed n => exact turn_feed moved
  | watchers => exact turn_watchers moved
  | dispatcher => exact turn_dispatcher h moved
  | emission =>
    simp only [step?, stepEmission?] at moved
    split at moved
    · next e emission =>
      split at moved
      · obtain rfl := Option.some.inj moved
        have brings : v.broughtBy .emission = [e] := by simp [broughtBy, emission]
        rw [brings]
        exact .bring emission
      · simp at moved
    · simp at moved
  | sampling t =>
    obtain ⟨u, -, rfl⟩ := Option.map_eq_some_iff.mp moved
    exact .aside rfl rfl rfl rfl (fun e he => Or.inr he) rfl rfl (fun _ h _ => h) rfl

theorem turn_of_happens (out : v.Happens v') (reads : v'.reads = v.reads)
    (seat : v'.store.events.subscribers[i]? = v.store.events.subscribers[i]?)
    (capacity : v'.store.events.capacity = v.store.events.capacity) : Turn i v [] [] v' := by
  have outside := out.outside
  refine .aside reads ?_ outside.dispatcher outside.queue ?_ outside.settings outside.tracked
    (fun s known _ => seat.trans known) capacity
  · cases out <;> rfl
  · cases out with
    | emit bare => exact fun e he => Or.inl (bare e he)
    | _ => exact fun e he => Or.inr he

/-! ### What a turn keeps -/

theorem Poised.turn (h : Poised v) (turn : Turn i v brought news v') : Poised v' := by
  cases turn with
  | aside reads announcements dispatcher queue emission settings tracked seat capacity =>
    refine ⟨reads.trans h.reads, announcements.trans h.announcements, tracked ▸ h.tidy, ?_, ?_⟩
    · intro e he
      have same : v'.pending = v.pending := by simp only [pending, dispatcher, queue]
      rw [same] at he
      rcases List.mem_append.mp he with waits | sent
      · exact h.bare e (List.mem_append_left _ waits)
      · rcases emission e (by simpa using sent) with bare | sent
        · exact bare
        · exact h.bare e (List.mem_append_right _ (by simp [sent]))
    · intro e trackedBefore due asked
      rw [tracked]
      exact h.known e trackedBefore due (dispatcher ▸ asked)
  | bring emission =>
    refine ⟨h.reads, h.announcements, h.tidy, fun e he => h.bare e ?_, h.known⟩
    simpa [pending, emission] using he
  | stop =>
    refine ⟨h.reads, h.announcements, h.tidy, fun e he => h.bare e ?_, by simp⟩
    exact List.mem_append_right _ (by simpa [pending] using he)
  | ask host due idle queue =>
    refine ⟨h.reads, h.announcements, h.tidy, fun e he => h.bare e ?_, ?_⟩
    · simpa [pending, idle, queue] using he
    · rintro e' trackedBefore due' asked
      cases asked
      rfl
  | record subscribers u idle =>
    refine ⟨h.reads, h.announcements, ?_, h.bare, by simp [idle]⟩
    exact Store.tidy_recordSample (s := v.store.onSampling fun t => { t with subscribers }) h.tidy u
  | handle host reply pending serves =>
    refine ⟨h.reads, h.announcements, ?_, fun e he => h.bare e ?_, by simp⟩
    · rw [(receive_ground _ _ _ _).2]
      exact Store.tidy_handle h.tidy
    · rw [pending]
      exact List.mem_cons_of_mem _ (by simpa [World.pending] using he)

/-- What is true when a subscriber that began with `s` has listened for a while. -/
structure Hears (i : Nat) (w : World) (s : Subscriber ContainerEvent) (sent : List ContainerEvent)
    (hs : List Handling) (heard : List ContainerEvent) (v : World) : Prop where
  poised : Poised v
  settings : v.store.settings = w.store.settings
  /-- It has read what it was told, or has it still to read. -/
  seat : ∃ t, v.store.events.subscribers[i]? = some t ∧ t.enrolled = true ∧
    t.isLeaving = false ∧ heard ++ t.queue = s.queue ++ hs.flatMap Handling.told
  handled : ∀ h ∈ hs, h.store.settings = w.store.settings ∧ Store.Tidy h.store.tracked ∧
    h.event.container = none
  /-- What the feed has brought was handled, or waits, or was given up with the dispatcher. -/
  order : ∃ left, w.pending ++ sent = hs.map (·.event) ++ left ∧
    (v.dispatcher ≠ .stopped → left = v.pending)

theorem Hears.turn (h : Hears i w s sent hs heard v) (turn : Turn i v brought news v')
    (room : ∀ h ∈ news, v.HasRoom i h) :
    Hears i w s (sent ++ brought) (hs ++ news) heard v' := by
  have poised := h.poised.turn turn
  obtain ⟨t, seat, enrolled, stays, told⟩ := h.seat
  obtain ⟨left, order, waits⟩ := h.order
  cases turn with
  | aside reads announcements dispatcher queue emission settings tracked kept capacity =>
    have same : v'.pending = v.pending := by simp only [pending, dispatcher, queue]
    refine ⟨poised, settings.trans h.settings, ⟨t, kept t seat stays, enrolled, stays, ?_⟩, ?_,
      left, ?_, ?_⟩
    · simpa using told
    · simpa using h.handled
    · simpa using order
    · rw [dispatcher, same]
      exact waits
  | @bring e emission =>
    refine ⟨poised, h.settings, ⟨t, seat, enrolled, stays, by simpa using told⟩,
      by simpa using h.handled, left ++ [e], ?_, fun serves => ?_⟩
    · rw [← List.append_assoc, order]
      simp
    · rw [waits serves]
      simp [pending]
  | stop =>
    refine ⟨poised, h.settings, ⟨t, seat, enrolled, stays, by simpa using told⟩,
      by simpa using h.handled, left, by simpa using order, by simp⟩
  | ask host due idle queue =>
    refine ⟨poised, h.settings, ⟨t, seat, enrolled, stays, by simpa using told⟩,
      by simpa using h.handled, left, by simpa using order, fun _ => ?_⟩
    rw [waits (by simp [idle]), pending_of_idle idle, queue]
    rfl
  | record subscribers u idle =>
    have still := (v.store.onSampling fun t => { t with subscribers }).still_recordSample u
    refine ⟨poised, still.settings.trans h.settings, ⟨t, ?_, enrolled, stays, by simpa using told⟩,
      by simpa using h.handled, left, by simpa using order, waits⟩
    rw [still.events]
    exact seat
  | @handle e queue host reply pending serves =>
    have gets := Store.seat_receive seat enrolled stays (room ⟨v.store, e, reply⟩ (by simp) t seat)
    refine ⟨poised, ?_, ⟨_, gets, enrolled, stays, ?_⟩, ?_, queue, ?_, ?_⟩
    · exact (receive_ground _ _ _ _).1.trans h.settings
    · rw [← List.append_assoc, told]
      simp
    · intro g hg
      rcases List.mem_append.mp hg with earlier | now
      · exact h.handled g earlier
      · obtain rfl := List.mem_singleton.mp now
        exact ⟨h.settings, h.poised.tidy, h.poised.bare e (by simp [pending])⟩
    · rw [List.append_nil, order, waits serves, pending]
      simp
    · simp [World.pending]

theorem Hears.read {receipt : Receipt ContainerEvent} {events : Broadcast ContainerEvent}
    (h : Hears i w s sent hs heard v) (got : v.store.events.receive i = some (receipt, events)) :
    Hears i w s sent hs (heard ++ Receipt.items [receipt])
      { v with store := { v.store with events } } := by
  obtain ⟨t, seat, enrolled, stays, told⟩ := h.seat
  have present : t.dropped = false := by
    simp only [Subscriber.isLeaving, Bool.or_eq_false_iff] at stays
    exact stays.2
  obtain ⟨u, known, read⟩ := Option.map_eq_some_iff.mp got
  obtain rfl := Option.some.inj (seat.symm.trans known)
  obtain ⟨rfl, rfl⟩ := Prod.mk.inj read
  refine ⟨⟨h.poised.reads, h.poised.announcements, h.poised.tidy, h.poised.bare, h.poised.known⟩,
    h.settings, ?_, h.handled, h.order⟩
  have inside : i < v.store.events.subscribers.length := (List.getElem?_eq_some_iff.mp seat).1
  refine ⟨t.receive.2, by simp [inside], ?_⟩
  cases queue : t.queue with
  | nil =>
    have same : t.receive.2 = t := by simp [Subscriber.receive, present, queue]
    have none_ : Receipt.items [t.receive.1] = [] := by
      cases shut : t.isClosed <;> simp [Subscriber.receive, present, queue, Receipt.items, shut]
    rw [same, none_, List.append_nil]
    exact ⟨enrolled, stays, told⟩
  | cons e rest =>
    have taken : t.receive = (.item e, { t with queue := rest }) := by
      simp [Subscriber.receive, present, queue]
    rw [taken]
    refine ⟨enrolled, stays, ?_⟩
    rw [← told, queue]
    simp [Receipt.items]

theorem Listens.hears (run : w.Listens i sent hs heard v) (start : w.Poised)
    (seat : w.store.events.subscribers[i]? = some s) (enrolled : s.enrolled = true)
    (stays : s.isLeaving = false) : Hears i w s sent hs heard v := by
  induction run with
  | nil =>
    exact ⟨start, rfl, ⟨s, seat, enrolled, stays, by simp⟩, by simp, w.pending, by simp,
      fun _ => rfl⟩
  | happens out reads same capacity run ih =>
    have next := ih.turn (turn_of_happens out reads same capacity) (by simp)
    rwa [List.append_nil, List.append_nil] at next
  | read got run ih => exact ih.read got
  | @answer sent hs heard v e trackedBefore due reply asked room run ih =>
    have turn := Turn.handle (i := i) v.host.endInspect reply (pending_of_asked asked)
      (by simp [asked])
    rw [← ih.poised.known e trackedBefore due asked] at turn
    have next := ih.turn turn (by simpa using room)
    rwa [List.append_nil] at next
  | step t moved room run ih => exact ih.turn (turn_of_step? ih.poised moved) room

/-- What a subscriber of events that stays and always has room has read, and has still to read, is
what it is told of the handled events, one after the other: nothing where an inspect that is needed
failed or the container is none of the store's, else the event once, and a start directly after each
update that makes a tracked container run. The events are handled in the order in which the feed
brings them, and the containers shown are those tracked after each. This holds for any filter and
any answers to the inspects, while no reads are under way. -/
theorem Listens.heard_eq (run : w.Listens i sent hs heard v) (start : w.Poised)
    (seat : w.store.events.subscribers[i]? = some s) (enrolled : s.enrolled = true)
    (stays : s.isLeaving = false) :
    (∃ t, v.store.events.subscribers[i]? = some t ∧
      heard ++ t.queue = s.queue ++ hs.flatMap Handling.told) ∧
    (∀ h ∈ hs, h.store.settings = w.store.settings ∧ h.event.container = none ∧ h.Tells) ∧
    ∃ left, w.pending ++ sent = hs.map (·.event) ++ left ∧
      (v.dispatcher ≠ .stopped → left = v.pending) := by
  have hears := run.hears start seat enrolled stays
  obtain ⟨t, known, -, -, told⟩ := hears.seat
  refine ⟨⟨t, known, told⟩, fun h hh => ?_, hears.order⟩
  obtain ⟨settings, tidy, bare⟩ := hears.handled h hh
  exact ⟨settings, bare, Handling.tells tidy bare⟩

/-! ### A container that begins to run

An update tells that a container runs, and then one starts that the filter keeps out. -/

theorem poised_of_quiet (reads : v.reads.isEmpty = true)
    (announcements : v.announcements.isEmpty = true)
    (quiet : (v.pending ++ v.emission.toList).isEmpty = true)
    (tidy : Store.Tidy v.store.tracked) : v.Poised := by
  have nothing : v.pending ++ v.emission.toList = [] := List.isEmpty_iff.mp quiet
  refine ⟨List.isEmpty_iff.mp reads, List.isEmpty_iff.mp announcements, tidy, by simp [nothing], ?_⟩
  intro e trackedBefore due asked
  simp [pending, asked] at nothing

def roomy (v : World) (i : Nat) (t : Task) : Bool :=
  (v.handledBy t).all fun h => v.store.events.subscribers[i]?.all fun s =>
    s.queue.length + h.told.length ≤ v.store.events.capacity

theorem room_of_roomy {t : Task} (roomy : v.roomy i t = true) :
    ∀ h ∈ v.handledBy t, v.HasRoom i h := by
  intro h hh s seat
  have fits := List.all_eq_true.mp roomy h hh
  rw [seat] at fits
  simpa using fits

def coreSettings : StoreSettings := { filter := { allowed := [("team", ["core"])] } }

def coreHost : ScriptedHost :=
  ((ScriptedHost.named "fake").put { id := "aaa", name := "web", labels := [("team", "core")] }).put
    { id := "bbb", name := "db", state := .running }

def coreWatched : World :=
  let w := World.start coreSettings coreHost
  { w with store := { w.store with events := w.store.events.subscribe.1 } }

def coreRuns : ScriptedHost :=
  coreWatched.host.put
    { id := "aaa", name := "web", labels := [("team", "core")], state := .running }

def coreUpdated : World :=
  let update : ContainerEvent := { name := "update", actorId := "aaa", host := "fake" }
  ((({ coreWatched with host := coreRuns, emission := some update } : World).moved .emission).moved
    .dispatcher).moved .dispatcher

def coreStarted : World :=
  let start : ContainerEvent := { name := "start", actorId := "bbb", host := "fake" }
  ((({ coreUpdated with emission := some start } : World).moved .emission).moved
    .dispatcher).moved .dispatcher

theorem Listens.inspected (run : ∃ sent hs, w.Listens i sent hs heard v) (e : ContainerEvent)
    (bare : e.container = none) {v₁ v₂ v₃ : World}
    (brings : ({ v with emission := some e } : World).step? .emission = some v₁)
    (asks : v₁.step? .dispatcher = some v₂) (answers : v₂.step? .dispatcher = some v₃)
    (room : (v₁.roomy i .dispatcher && v₂.roomy i .dispatcher) = true) :
    ∃ sent hs, w.Listens i sent hs heard v₃ := by
  obtain ⟨sent, hs, run⟩ := run
  obtain ⟨first, second⟩ := Bool.and_eq_true_iff.mp room
  have ready : w.Listens i sent hs heard { v with emission := some e } :=
    run.happens (.emit (by simpa using bare)) rfl rfl rfl
  have brought := ready.step .emission brings (by simp [handledBy, deed])
  have asked := brought.step .dispatcher asks (room_of_roomy first)
  exact ⟨_, _, asked.step .dispatcher answers (room_of_roomy second)⟩

theorem listens_coreStarted : ∃ sent hs, coreWatched.Listens 0 sent hs [] coreStarted := by
  have changed : ∃ sent hs, coreWatched.Listens 0 sent hs []
      { coreWatched with host := coreRuns } :=
    ⟨_, _, Listens.nil.happens (.host _) rfl rfl rfl⟩
  have updated : ∃ sent hs, coreWatched.Listens 0 sent hs [] coreUpdated :=
    Listens.inspected changed { name := "update", actorId := "aaa", host := "fake" } rfl
      (step?_moved (by decide +kernel)) (step?_moved (by decide +kernel))
      (step?_moved (by decide +kernel)) (by decide +kernel)
  exact Listens.inspected updated { name := "start", actorId := "bbb", host := "fake" } rfl
    (step?_moved (by decide +kernel)) (step?_moved (by decide +kernel))
    (step?_moved (by decide +kernel)) (by decide +kernel)

/-- The subscriber is told of the update and of a start, and not of the other container. -/
theorem Listens.heard_eq_core : ∃ sent hs, coreWatched.Listens 0 sent hs [] coreStarted ∧
    ∃ t, coreStarted.store.events.subscribers[0]? = some t ∧
      t.queue.map (fun e => (e.name, e.actorId)) = [("update", "aaa"), ("start", "aaa")] ∧
      t.queue = hs.flatMap Handling.told ∧ ∀ h ∈ hs, h.Tells := by
  obtain ⟨sent, hs, run⟩ := listens_coreStarted
  obtain ⟨_, started⟩ := Course.start coreSettings coreHost
  have tidy : Store.Tidy coreWatched.store.tracked :=
    (started.path.sound (sound_initial coreSettings coreHost)).tidy
  have poised : coreWatched.Poised :=
    poised_of_quiet (by decide +kernel) (by decide +kernel) (by decide +kernel) tidy
  have fresh : coreWatched.store.events.subscribers[0]?.any (fun s =>
      s.enrolled && !s.isLeaving && s.queue.isEmpty) = true := by decide +kernel
  obtain ⟨s, seat, new⟩ := (Option.any_eq_true _ _).mp fresh
  simp only [Bool.and_eq_true, Bool.not_eq_true', List.isEmpty_iff] at new
  obtain ⟨⟨enrolled, stays⟩, empty⟩ := new
  obtain ⟨⟨t, known, told⟩, handled, -⟩ := run.heard_eq poised seat enrolled stays
  have names : (coreStarted.store.events.subscribers[0]?).map
      (fun t => t.queue.map fun e => (e.name, e.actorId)) =
        some [("update", "aaa"), ("start", "aaa")] := by decide +kernel
  rw [known] at names
  rw [empty, List.nil_append, List.nil_append] at told
  exact ⟨sent, hs, run, t, known, Option.some.inj names, told, fun h hh => (handled h hh).2.2⟩

end World

end ContainerWatch
