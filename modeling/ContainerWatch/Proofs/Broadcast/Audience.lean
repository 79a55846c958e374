import ContainerWatch.Proofs.Broadcast.Mailboxes

/-!
A broadcast is run with subscribers that have names, so that two runs can be compared in which other
subscribers come or do not come. Each subscriber reads what its own mailbox gives when it is served
with the steps that concern it, from its coming on. As nothing else enters, no step of another
subscriber can be seen.
-/

namespace ContainerWatch

inductive AudienceStep (ν α : Type)
  | subscribe (n : ν)
  | send (x : α)
  | receive (n : ν)
  | finish (n : ν)
  | drop (n : ν)
  | watch (n : ν)
  | settle

/-- A broadcast and the names of its subscribers, in the order of their coming. -/
structure Audience (ν α : Type) where
  broadcast : Broadcast α
  names : List ν := []

namespace AudienceStep

variable {ν α : Type} [DecidableEq ν]

def concern (n : ν) : AudienceStep ν α → Option (Mail α)
  | subscribe _ => none
  | send x => some (.send x)
  | receive m => if m = n then some .receive else none
  | finish m => if m = n then some .finish else none
  | drop m => if m = n then some .drop else none
  | watch m => if m = n then some .settle else none
  | settle => some .settle

def concerns (n : ν) : AudienceStep ν α → Bool
  | subscribe m => m = n
  | s => (s.concern n).isSome

/-- What happens to the subscriber of a name once it has come. -/
def own (n : ν) : List (AudienceStep ν α) → List (Mail α)
  | [] => []
  | subscribe m :: rest => if m = n then rest.filterMap (concern n) else own n rest
  | _ :: rest => own n rest

/-- Which steps of others are made makes no difference to what happens to a subscriber. -/
theorem own_filter (n : ν) (steps : List (AudienceStep ν α)) :
    own n (steps.filter (concerns n)) = own n steps := by
  have concern_filter (rest : List (AudienceStep ν α)) :
      (rest.filter (concerns n)).filterMap (concern n) = rest.filterMap (concern n) := by
    rw [List.filterMap_filter]
    congr 1
    funext s
    cases concern : s.concern n with
    | none => simp
    | some c => cases s <;> simp_all [concerns, AudienceStep.concern]
  induction steps with
  | nil => rfl
  | cons s rest ih =>
    cases s with
    | subscribe k =>
      by_cases same : k = n
      · simp [own, concerns, same, concern_filter]
      · simp [own, concerns, same, ih]
    | _ =>
      rw [List.filter_cons]
      split <;> simpa only [own] using ih

end AudienceStep

namespace Audience

variable {ν α : Type}

def ofBuffer (buffer : Nat) : Audience ν α := ⟨.ofBuffer buffer, []⟩

section Run

variable [DecidableEq ν]

/-- Makes a step. A name is given to one subscriber only, and what is asked of a name that nobody
has is not done. -/
def step (a : Audience ν α) : AudienceStep ν α → Audience ν α
  | .subscribe n => if n ∈ a.names then a else ⟨a.broadcast.subscribe.1, a.names ++ [n]⟩
  | .send x => { a with broadcast := (a.broadcast.send x).1 }
  | .receive n =>
    { a with broadcast := ((a.broadcast.receive (a.names.idxOf n)).map Prod.snd).getD a.broadcast }
  | .finish n => { a with broadcast := a.broadcast.finish (a.names.idxOf n) }
  | .drop n => { a with broadcast := a.broadcast.drop (a.names.idxOf n) }
  | .watch n =>
    { a with broadcast := a.broadcast.onOne (a.names.idxOf n) fun s => s.watch.1 }
  | .settle => { a with broadcast := a.broadcast.settle.1 }

def run (a : Audience ν α) (steps : List (AudienceStep ν α)) : Audience ν α := steps.foldl step a

def answer (n : ν) (a : Audience ν α) : AudienceStep ν α → List (Receipt α)
  | .receive m =>
    if m = n then ((a.broadcast.receive (a.names.idxOf m)).map Prod.fst).toList else []
  | _ => []

def heard (n : ν) : Audience ν α → List (AudienceStep ν α) → List (Receipt α)
  | _, [] => []
  | a, s :: rest => a.answer n s ++ heard n (a.step s) rest

end Run

structure Seated (capacity : Nat) (a : Audience ν α) : Prop where
  capacity_eq : a.broadcast.capacity = capacity
  distinct : a.names.Nodup
  seats : a.broadcast.subscribers.length = a.names.length
  sound : ∀ s ∈ a.broadcast.subscribers, s.Sound capacity

/-! ### Steps -/

variable {capacity : Nat} {a : Audience ν α} {n : ν}

theorem receive_eq_onOne (b : Broadcast α) (i : Nat) :
    ((b.receive i).map Prod.snd).getD b = b.onOne i fun s => s.receive.2 := by
  unfold Broadcast.receive Broadcast.onOne
  cases at_i : b.subscribers[i]? with
  | none =>
    rw [List.modify_eq_self (List.getElem?_eq_none_iff.mp at_i)]
    rfl
  | some s =>
    simp only [Option.map_some, Option.getD_some]
    congr 1
    refine List.ext_getElem? fun j => ?_
    rw [List.getElem?_set, List.getElem?_modify]
    obtain ⟨bound, rfl⟩ := List.getElem?_eq_some_iff.mp at_i
    by_cases same : i = j
    · subst same
      simp [bound]
    · simp [same]

theorem seated_ofBuffer (buffer : Nat) :
    (ofBuffer buffer : Audience ν α).Seated (max 1 buffer) :=
  ⟨rfl, List.nodup_nil, rfl, by simp [ofBuffer, Broadcast.ofBuffer]⟩

theorem Seated.onAll {f : Subscriber α → Subscriber α × List Notice} (h : a.Seated capacity)
    (keeps : ∀ s : Subscriber α, s.Sound capacity → (f s).1.Sound capacity) :
    ({ a with broadcast := (a.broadcast.onAll f).1 } : Audience ν α).Seated capacity := by
  refine ⟨h.capacity_eq, h.distinct, by simpa [Broadcast.onAll] using h.seats, ?_⟩
  intro s hs
  obtain ⟨before, member, rfl⟩ := List.mem_map.mp hs
  exact keeps before (h.sound before member)

theorem Seated.onOne {f : Subscriber α → Subscriber α} (h : a.Seated capacity) (i : Nat)
    (keeps : ∀ s : Subscriber α, s.Sound capacity → (f s).Sound capacity) :
    ({ a with broadcast := a.broadcast.onOne i f } : Audience ν α).Seated capacity := by
  refine ⟨h.capacity_eq, h.distinct, by simpa [Broadcast.onOne] using h.seats, ?_⟩
  intro s hs
  obtain ⟨j, bound, rfl⟩ := List.mem_iff_getElem.mp hs
  simp only [Broadcast.onOne, List.getElem_modify]
  simp only [Broadcast.onOne, List.length_modify] at bound
  split
  · exact keeps _ (h.sound _ (List.getElem_mem bound))
  · exact h.sound _ (List.getElem_mem bound)

variable [DecidableEq ν]

def seat (a : Audience ν α) (n : ν) : Option (Subscriber α) :=
  a.broadcast.subscribers[a.names.idxOf n]?

def box (a : Audience ν α) (n : ν) : Option (Mailbox α) := (a.seat n).map Subscriber.mailbox

theorem Seated.seat_eq_none_iff (h : a.Seated capacity) : a.seat n = none ↔ n ∉ a.names := by
  rw [seat, List.getElem?_eq_none_iff, h.seats, ← Nat.not_lt, List.idxOf_lt_length_iff]

theorem Seated.exists_seat (h : a.Seated capacity) (known : n ∈ a.names) :
    ∃ s, a.seat n = some s := by
  cases seated : a.seat n with
  | some s => exact ⟨s, rfl⟩
  | none => exact absurd known (h.seat_eq_none_iff.mp seated)

theorem Seated.sound_of_seat (h : a.Seated capacity) {s : Subscriber α}
    (seated : a.seat n = some s) : s.Sound capacity := h.sound s (List.mem_of_getElem? seated)

/-- A change under one name is seen under that name only. -/
theorem Seated.seat_onOne (h : a.Seated capacity) (m n : ν) (f : Subscriber α → Subscriber α) :
    ({ a with broadcast := a.broadcast.onOne (a.names.idxOf m) f } : Audience ν α).seat n =
      (a.seat n).map fun s => if m = n then f s else s := by
  simp only [seat, Broadcast.onOne, List.getElem?_modify]
  by_cases same : m = n
  · simp [same]
  · by_cases known : n ∈ a.names
    · have bound := List.idxOf_lt_length_of_mem known
      have apart : a.names.idxOf m ≠ a.names.idxOf n := by
        intro eq
        have known' : m ∈ a.names := List.idxOf_lt_length_iff.mp (eq ▸ bound)
        have named := List.getElem_idxOf (List.idxOf_lt_length_of_mem known')
        simp only [eq, List.getElem_idxOf] at named
        exact same named.symm
      simp [same, apart]
    · have nobody := h.seat_eq_none_iff.mpr known
      rw [seat] at nobody
      simp [nobody]

theorem Seated.step (h : a.Seated capacity) (s : AudienceStep ν α) :
    (a.step s).Seated capacity := by
  cases s with
  | subscribe n =>
    simp only [Audience.step]
    split
    · exact h
    · next newcomer =>
      have distinct : (a.names ++ [n]).Nodup := by
        rw [List.nodup_append]
        refine ⟨h.distinct, by simp, ?_⟩
        simpa using fun m (known : m ∈ a.names) => ne_of_mem_of_not_mem known newcomer
      refine ⟨h.capacity_eq, distinct, by simp [Broadcast.subscribe, h.seats], ?_⟩
      intro s hs
      rcases List.mem_append.mp hs with before | new
      · exact h.sound s before
      · rw [List.mem_singleton.mp new]
        exact Subscriber.sound_new capacity
  | send x => exact h.onAll fun s sound => by rw [h.capacity_eq]; exact sound.offer
  | receive n =>
    simp only [Audience.step, receive_eq_onOne]
    exact h.onOne _ fun s sound => sound.receive
  | finish n => exact h.onOne _ fun s sound => sound.finish
  | drop n => exact h.onOne _ fun s sound => sound.drop
  | watch n => exact h.onOne _ fun s sound => sound.watch
  | settle => exact h.onAll fun s sound => sound.watch

theorem Seated.box_onOne (h : a.Seated capacity) {m : Mailbox α} (present : a.box n = some m)
    (k : ν) {f : Subscriber α → Subscriber α} {c : Mail α}
    (serves : ∀ s : Subscriber α, s.Sound capacity → (f s).mailbox = s.mailbox.after capacity c) :
    ({ a with broadcast := a.broadcast.onOne (a.names.idxOf k) f } : Audience ν α).box n =
      some ((if k = n then some c else none).elim m (m.after capacity)) := by
  obtain ⟨s, seated, rfl⟩ := Option.map_eq_some_iff.mp present
  rw [box, h.seat_onOne, seated]
  by_cases own : k = n
  · simp [own, serves s (h.sound_of_seat seated)]
  · simp [own]

theorem Seated.box_onAll (h : a.Seated capacity) {m : Mailbox α} (present : a.box n = some m)
    {f : Subscriber α → Subscriber α × List Notice} {c : Mail α}
    (serves : ∀ s : Subscriber α, s.Sound capacity → (f s).1.mailbox = s.mailbox.after capacity c) :
    ({ a with broadcast := (a.broadcast.onAll f).1 } : Audience ν α).box n =
      some (m.after capacity c) := by
  obtain ⟨s, seated, rfl⟩ := Option.map_eq_some_iff.mp present
  have served := serves s (h.sound_of_seat seated)
  rw [seat] at seated
  simp [box, seat, Broadcast.onAll, seated, served]

theorem Seated.box_step (h : a.Seated capacity) {m : Mailbox α} (present : a.box n = some m)
    (s : AudienceStep ν α) :
    (a.step s).box n = some ((s.concern n).elim m (m.after capacity)) := by
  cases s with
  | subscribe k =>
    simp only [Audience.step]
    split
    · exact present
    · obtain ⟨s, seated, rfl⟩ := Option.map_eq_some_iff.mp present
      have known : n ∈ a.names := by
        by_cases known : n ∈ a.names
        · exact known
        · simp [h.seat_eq_none_iff.mpr known] at seated
      have bound := (List.getElem?_eq_some_iff.mp seated).1
      simp only [box, seat, Broadcast.subscribe, AudienceStep.concern]
      rw [List.idxOf_append, if_pos known, List.getElem?_append_left bound]
      exact congrArg _ seated
  | send x =>
    have served := h.box_onAll present (f := (·.offer capacity x)) fun _ => Subscriber.mailbox_offer
    simp only [Audience.step, Broadcast.send, h.capacity_eq]
    exact served
  | receive k =>
    simp only [Audience.step, receive_eq_onOne]
    exact h.box_onOne present k fun s sound => (Subscriber.mailbox_receive sound).2
  | finish k => exact h.box_onOne present k fun _ _ => rfl
  | drop k => exact h.box_onOne present k fun _ _ => rfl
  | watch k => exact h.box_onOne present k fun s _ => Subscriber.mailbox_watch s
  | settle => exact h.box_onAll present fun s _ => Subscriber.mailbox_watch s

theorem Seated.answer_step (h : a.Seated capacity) {m : Mailbox α} (present : a.box n = some m)
    (s : AudienceStep ν α) : a.answer n s = (s.concern n).elim [] m.answer := by
  obtain ⟨u, seated, rfl⟩ := Option.map_eq_some_iff.mp present
  cases s with
  | receive k =>
    by_cases own : k = n
    · subst own
      have read := (Subscriber.mailbox_receive (h.sound_of_seat seated)).1
      rw [seat] at seated
      simp [answer, Broadcast.receive, seated, read, AudienceStep.concern, Mailbox.answer]
    · simp [answer, AudienceStep.concern, own]
  | finish k | drop k | watch k =>
    simp only [answer, AudienceStep.concern]
    split <;> rfl
  | _ => rfl

theorem answer_of_none (nobody : a.box n = none) (s : AudienceStep ν α) : a.answer n s = [] := by
  have empty := Option.map_eq_none_iff.mp nobody
  rw [seat] at empty
  cases s with
  | receive k =>
    by_cases own : k = n
    · simp [answer, own, Broadcast.receive, empty]
    · simp [answer, own]
  | _ => rfl

theorem Seated.box_subscribe (h : a.Seated capacity) (nobody : a.box n = none) :
    (a.step (.subscribe n)).box n = some {} := by
  have newcomer := h.seat_eq_none_iff.mp (Option.map_eq_none_iff.mp nobody)
  simp only [Audience.step, if_neg newcomer, box, seat, Broadcast.subscribe]
  rw [List.idxOf_append, if_neg newcomer, ← h.seats]
  simp [Subscriber.mailbox]

theorem mem_names_step (s : AudienceStep ν α) :
    n ∈ (a.step s).names ↔ n ∈ a.names ∨ s = .subscribe n := by
  cases s with
  | subscribe k =>
    simp only [Audience.step]
    split
    · next known =>
      refine ⟨Or.inl, ?_⟩
      rintro (there | coming)
      · exact there
      · cases coming
        exact known
    · simp [eq_comm]
  | _ => simp [Audience.step]

theorem Seated.box_of_none (h : a.Seated capacity) (nobody : a.box n = none) {s : AudienceStep ν α}
    (other : s ≠ .subscribe n) : (a.step s).box n = none := by
  have unknown := h.seat_eq_none_iff.mp (Option.map_eq_none_iff.mp nobody)
  have still : n ∉ (a.step s).names := by
    rw [mem_names_step, not_or]
    exact ⟨unknown, other⟩
  exact Option.map_eq_none_iff.mpr ((h.step s).seat_eq_none_iff.mpr still)

/-! ### Runs -/

theorem Seated.run (h : a.Seated capacity) (steps : List (AudienceStep ν α)) :
    (a.run steps).Seated capacity := by
  induction steps generalizing a with
  | nil => exact h
  | cons s rest ih => exact ih (h.step s)

/-- Who is there ends with the mailbox that the steps of their own make, and reads what it gives. -/
theorem Seated.served (h : a.Seated capacity) {m : Mailbox α} (present : a.box n = some m)
    (steps : List (AudienceStep ν α)) :
    (a.run steps).box n =
        some ((steps.filterMap (AudienceStep.concern n)).foldl (·.after capacity) m) ∧
      heard n a steps = m.heard capacity (steps.filterMap (AudienceStep.concern n)) := by
  induction steps generalizing a m with
  | nil => exact ⟨present, rfl⟩
  | cons s rest ih =>
    obtain ⟨kept, read⟩ := ih (h.step s) (h.box_step present s)
    rw [heard, h.answer_step present, read]
    cases concern : s.concern n with
    | none =>
      rw [List.filterMap_cons_none concern]
      rw [concern] at kept
      exact ⟨kept, by simp⟩
    | some c =>
      rw [List.filterMap_cons_some concern]
      rw [concern] at kept
      exact ⟨kept, rfl⟩

/-- Who is not there reads nothing before they come, and from then on what an empty mailbox
gives. -/
theorem Seated.served_of_none (h : a.Seated capacity) (nobody : a.box n = none)
    (steps : List (AudienceStep ν α)) :
    (∀ m, (a.run steps).box n = some m →
        m = (AudienceStep.own n steps).foldl (·.after capacity) {}) ∧
      heard n a steps = ({} : Mailbox α).heard capacity (AudienceStep.own n steps) := by
  induction steps generalizing a with
  | nil =>
    refine ⟨fun m present => ?_, rfl⟩
    rw [Audience.run, List.foldl_nil, nobody] at present
    cases present
  | cons s rest ih =>
    rw [heard, answer_of_none nobody, List.nil_append]
    by_cases coming : s = .subscribe n
    · subst coming
      obtain ⟨left, read⟩ := (h.step _).served (h.box_subscribe nobody) rest
      have own : AudienceStep.own n (.subscribe n :: rest) =
          rest.filterMap (AudienceStep.concern n) := if_pos rfl
      rw [own]
      exact ⟨fun m present => Option.some.inj (present.symm.trans left), read⟩
    · have own : AudienceStep.own n (s :: rest) = AudienceStep.own n rest := by
        cases s with
        | subscribe k => exact if_neg fun eq => coming (congrArg _ eq)
        | _ => rfl
      rw [own]
      exact ih (h.step s) (h.box_of_none nobody coming)

theorem mem_names_run (steps : List (AudienceStep ν α)) :
    n ∈ (a.run steps).names ↔ n ∈ a.names ∨ .subscribe n ∈ steps := by
  induction steps generalizing a with
  | nil => simp [run]
  | cons s rest ih =>
    have later : n ∈ (a.run (s :: rest)).names ↔ n ∈ (a.step s).names ∨ .subscribe n ∈ rest := ih
    rw [later, mem_names_step, List.mem_cons, or_assoc, eq_comm]

/-! ### Counting -/

theorem Seated.map_seat (h : a.Seated capacity) :
    a.names.map a.seat = a.broadcast.subscribers.map some := by
  refine List.ext_getElem (by simp [h.seats]) fun i bound other => ?_
  simp only [List.length_map] at bound other
  simp [seat, h.distinct.idxOf_getElem, other]

/-- Once all watchers have run, those that have not left are enrolled. -/
theorem Seated.size_settle (h : a.Seated capacity) :
    (a.step .settle).broadcast.size =
      a.names.countP fun n => (a.seat n).any fun s => !s.isLeaving := by
  have staying : (a.step .settle).broadcast.size =
      a.broadcast.subscribers.countP fun s => !s.isLeaving := by
    simp only [Audience.step, Broadcast.settle, Broadcast.onAll, Broadcast.size, List.countP_map]
    refine List.countP_congr fun s member => ?_
    rw [Function.comp_apply, Subscriber.enrolled_watch (h.sound s member)]
  have named := congrArg (List.countP fun s => s.any fun s => !s.isLeaving) h.map_seat
  rw [List.countP_map, List.countP_map] at named
  rw [staying]
  exact named.symm

/-! ### Each alone -/

/-- What a subscriber reads is what a mailbox of its own gives, served with the steps that concern
it from its coming on. So it reads a part of what is sent between its coming and its leaving, in
that order, and reads that it was let go only once it has read all that found room. Steps of others
can be added, left out and changed without its noticing; one that never reads holds nobody up. A
queue never holds more than its capacity, and once all watchers have run those are counted that have
come and have not left. -/
theorem heard_eq_own (buffer : Nat) (steps : List (AudienceStep ν α)) (n : ν) :
    heard n (ofBuffer buffer) steps =
        ({} : Mailbox α).heard (max 1 buffer) (AudienceStep.own n steps) ∧
      (Receipt.items (heard n (ofBuffer buffer) steps)).Sublist
        (Mail.offered (AudienceStep.own n steps)) ∧
      (Receipt.closed ∈ heard n (ofBuffer buffer) steps →
        Receipt.items (heard n (ofBuffer buffer) steps) =
          ({} : Mailbox α).accepted (max 1 buffer) (AudienceStep.own n steps)) ∧
      (∀ others : List (AudienceStep ν α),
        others.filter (AudienceStep.concerns n) = steps.filter (AudienceStep.concerns n) →
          heard n (ofBuffer buffer) others = heard n (ofBuffer buffer) steps) ∧
      (∀ s ∈ ((ofBuffer buffer).run steps).broadcast.subscribers, s.queue.length ≤ max 1 buffer) ∧
      ((ofBuffer buffer).run steps).names.Nodup ∧
      (∀ m, m ∈ ((ofBuffer buffer).run steps).names ↔ .subscribe m ∈ steps) ∧
      ((ofBuffer buffer).run (steps ++ [.settle])).broadcast.size =
        ((ofBuffer buffer).run steps).names.countP
          fun m => !(AudienceStep.own m steps).any Mail.leaves := by
  have start : (ofBuffer buffer : Audience ν α).Seated (max 1 buffer) := seated_ofBuffer buffer
  have ends := start.run steps
  have alone (others : List (AudienceStep ν α)) := start.served_of_none (n := n) rfl others
  have read := (alone steps).2
  refine ⟨read, ?_, fun closed => ?_, fun others same => ?_, ?_, ends.distinct, fun m => ?_, ?_⟩
  · rw [read]
    exact Mailbox.items_heard_sublist _ _ {}
  · rw [read] at closed ⊢
    exact Mailbox.items_heard_of_closed _ _ {} closed
  · rw [(alone others).2, read, ← AudienceStep.own_filter n others, same, AudienceStep.own_filter]
  · exact fun s member => (ends.sound s member).bounded
  · rw [mem_names_run]
    simp [ofBuffer]
  · have settled : (ofBuffer buffer : Audience ν α).run (steps ++ [.settle]) =
        ((ofBuffer buffer).run steps).step .settle := List.foldl_append
    rw [settled, ends.size_settle]
    refine List.countP_congr fun m member => ?_
    obtain ⟨s, seated⟩ := ends.exists_seat member
    have served := (start.served_of_none (n := m) rfl steps).1 s.mailbox (by rw [box, seated]; rfl)
    have leaving : s.isLeaving = (AudienceStep.own m steps).any Mail.leaves := by
      have left := Mailbox.isLeft_foldl (max 1 buffer) (AudienceStep.own m steps) {}
      rw [← served] at left
      exact left
    simp [seated, leaving]

/-- The second item finds no room, the fourth comes after the subscriber has left. -/
example :
    heard 1 (ofBuffer 0)
        [.subscribe 1, .send 'a', .send 'b', .receive 1, .receive 1, .send 'c', .finish 1,
          .send 'd', .settle, .receive 1, .receive 1] =
      [.item 'a', .empty, .item 'c', .closed] := rfl

end Audience

end ContainerWatch
