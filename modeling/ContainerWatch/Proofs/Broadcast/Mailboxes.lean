import ContainerWatch.Broadcast

/-!
Each subscriber has a queue of its own. A mailbox is a bounded queue that takes what is sent until
its owner leaves, loses what it has no room for, and is closed once it was settled after that. What
a subscriber reads from a broadcast is what it would read from a mailbox that is served alone; the
others, and when they are let go, make no difference.
-/

namespace ContainerWatch

inductive Mail (α : Type)
  | send (x : α)
  | receive
  | finish
  | drop
  | settle

/-- A queue that one subscriber reads. -/
structure Mailbox (α : Type) where
  queue : List α := []
  /-- The subscriber has said that it is done. -/
  finished : Bool := false
  /-- The receiver is gone. -/
  dropped : Bool := false
  /-- The subscriber was let go. -/
  closed : Bool := false

namespace Mail

variable {α : Type}

def leaves : Mail α → Bool
  | finish | drop => true
  | _ => false

/-- The items that are sent before the subscriber leaves. -/
def offered : List (Mail α) → List α
  | [] => []
  | send x :: rest => x :: offered rest
  | finish :: _ | drop :: _ => []
  | receive :: rest | settle :: rest => offered rest

end Mail

def Receipt.items {α : Type} (rs : List (Receipt α)) : List α :=
  rs.filterMap fun
    | .item x => some x
    | _ => none

namespace Mailbox

variable {α : Type}

def isLeft (m : Mailbox α) : Bool := m.finished || m.dropped

def takes (capacity : Nat) (m : Mailbox α) : Bool :=
  !m.isLeft && !m.closed && m.queue.length < capacity

def read (m : Mailbox α) : Receipt α :=
  if m.dropped then .dropped
  else match m.queue with
    | x :: _ => .item x
    | [] => if m.closed then .closed else .empty

def after (capacity : Nat) (m : Mailbox α) : Mail α → Mailbox α
  | .send x => if m.takes capacity then { m with queue := m.queue ++ [x] } else m
  | .receive => { m with queue := m.queue.tail }
  | .finish => { m with finished := true }
  | .drop => { m with dropped := true, queue := [] }
  | .settle => { m with closed := m.closed || m.isLeft }

def answer (m : Mailbox α) : Mail α → List (Receipt α)
  | .receive => [m.read]
  | _ => []

def taken (capacity : Nat) (m : Mailbox α) : Mail α → List α
  | .send x => if m.takes capacity then [x] else []
  | _ => []

def heard (capacity : Nat) : Mailbox α → List (Mail α) → List (Receipt α)
  | _, [] => []
  | m, c :: rest => m.answer c ++ heard capacity (m.after capacity c) rest

def accepted (capacity : Nat) : Mailbox α → List (Mail α) → List α
  | _, [] => []
  | m, c :: rest => m.taken capacity c ++ accepted capacity (m.after capacity c) rest

/-! ### Reading a mailbox -/

variable {capacity : Nat} {m : Mailbox α}

theorem isLeft_after (capacity : Nat) (m : Mailbox α) (c : Mail α) :
    (m.after capacity c).isLeft = (m.isLeft || c.leaves) := by
  cases c <;> simp [after, isLeft, Mail.leaves]
  split <;> rfl

theorem isLeft_foldl (capacity : Nat) (course : List (Mail α)) (m : Mailbox α) :
    (course.foldl (·.after capacity) m).isLeft = (m.isLeft || course.any Mail.leaves) := by
  induction course generalizing m with
  | nil => simp
  | cons c rest ih => rw [List.foldl_cons, ih, isLeft_after, List.any_cons, Bool.or_assoc]

@[simp] theorem items_nil : Receipt.items ([] : List (Receipt α)) = [] := rfl

@[simp] theorem items_append (rs ss : List (Receipt α)) :
    Receipt.items (rs ++ ss) = Receipt.items rs ++ Receipt.items ss := List.filterMap_append

theorem items_answer_receive (present : m.dropped = false) :
    Receipt.items (m.answer .receive) ++ m.queue.tail = m.queue := by
  unfold answer read
  cases m.queue with
  | nil => cases m.closed <;> simp [Receipt.items, present]
  | cons x rest => simp [Receipt.items, present]

theorem items_answer_sublist (m : Mailbox α) :
    (Receipt.items (m.answer .receive) ++ m.queue.tail).Sublist m.queue := by
  cases dropped : m.dropped with
  | false => simp [items_answer_receive dropped]
  | true => simpa [answer, read, dropped, Receipt.items] using List.tail_sublist m.queue

theorem closed_of_read (shut : m.read = .closed) : m.closed = true ∧ m.queue = [] := by
  unfold read at shut
  split at shut
  · cases shut
  split at shut
  · cases shut
  · next empty => exact ⟨by cases closed : m.closed <;> simp [closed] at shut ⊢, empty⟩

/-- The items that are read were in the queue or are sent before the subscriber leaves, and are
read in that order. -/
theorem items_heard_sublist (capacity : Nat) (course : List (Mail α)) (m : Mailbox α) :
    (Receipt.items (m.heard capacity course)).Sublist
      (m.queue ++ if m.isLeft then [] else Mail.offered course) := by
  induction course generalizing m with
  | nil => simp [heard]
  | cons c rest ih =>
    have later := ih (m.after capacity c)
    rw [isLeft_after] at later
    rw [heard, items_append]
    cases c with
    | send x =>
      refine later.trans ?_
      cases takes : m.takes capacity with
      | true =>
        have stays : m.isLeft = false := by simp_all [Mailbox.takes]
        simp [after, takes, stays, Mail.leaves, Mail.offered]
      | false => cases m.isLeft <;> simp [after, takes, Mail.leaves, Mail.offered]
    | receive =>
      refine (later.append_left _).trans ?_
      rw [← List.append_assoc]
      simp only [Mail.leaves, Bool.or_false, Mail.offered]
      exact (items_answer_sublist m).append_right _
    | finish => simpa [after, answer, Mail.leaves, Mail.offered] using later
    | drop =>
      have nothing : Receipt.items ((m.after capacity .drop).heard capacity rest) = [] := by
        simpa [after, Mail.leaves] using later
      simp [answer, nothing]
    | settle =>
      simpa only [after, answer, Mail.leaves, Mail.offered, Bool.or_false, items_nil,
        List.nil_append] using later

theorem closed_notMem_heard (capacity : Nat) (course : List (Mail α)) (m : Mailbox α)
    (gone : m.dropped = true) : Receipt.closed ∉ m.heard capacity course := by
  induction course generalizing m with
  | nil => simp [heard]
  | cons c rest ih =>
    have still : (m.after capacity c).dropped = true := by
      cases c with
      | send x =>
        simp only [after]
        split <;> exact gone
      | drop => rfl
      | _ => exact gone
    rw [heard, List.mem_append, not_or]
    exact ⟨by cases c <;> simp [answer, read, gone], ih _ still⟩

theorem heard_of_closed (capacity : Nat) (course : List (Mail α)) (m : Mailbox α)
    (closed : m.closed = true) (empty : m.queue = []) :
    Receipt.items (m.heard capacity course) = [] ∧ m.accepted capacity course = [] := by
  induction course generalizing m with
  | nil => exact ⟨rfl, rfl⟩
  | cons c rest ih =>
    have still : (m.after capacity c).closed = true ∧ (m.after capacity c).queue = [] := by
      cases c <;> simp [after, takes, closed, empty]
    obtain ⟨none_read, none_taken⟩ := ih _ still.1 still.2
    rw [heard, accepted, items_append, none_read, none_taken]
    cases c <;> simp [answer, taken, takes, read, closed, empty, Receipt.items]
    cases m.dropped <;> rfl

/-- A mailbox reads closed only once all that it took has been read. -/
theorem items_heard_of_closed (capacity : Nat) (course : List (Mail α)) (m : Mailbox α)
    (closed : Receipt.closed ∈ m.heard capacity course) :
    Receipt.items (m.heard capacity course) = m.queue ++ m.accepted capacity course := by
  induction course generalizing m with
  | nil => simp [heard] at closed
  | cons c rest ih =>
    rw [heard, List.mem_append] at closed
    rw [heard, accepted, items_append]
    cases c with
    | send x =>
      rw [ih _ (closed.resolve_left (by simp [answer]))]
      cases takes : m.takes capacity <;> simp [after, answer, taken, takes]
    | receive =>
      have present : m.dropped = false := by
        cases dropped : m.dropped with
        | false => rfl
        | true =>
          have never := closed_notMem_heard capacity (.receive :: rest) m dropped
          exact absurd (List.mem_append.mpr closed) never
      have remaining : Receipt.items ((m.after capacity .receive).heard capacity rest) =
          m.queue.tail ++ (m.after capacity .receive).accepted capacity rest := by
        rcases closed with now | later
        · obtain ⟨shut, empty⟩ := closed_of_read (List.mem_singleton.mp now).symm
          obtain ⟨none_read, none_taken⟩ :=
            heard_of_closed capacity rest (m.after capacity .receive) shut (by simp [after, empty])
          rw [none_read, none_taken, empty]
          rfl
        · exact ih _ later
      rw [remaining, ← List.append_assoc, items_answer_receive present]
      rfl
    | finish => simpa [answer, taken, after] using ih _ (closed.resolve_left (by simp [answer]))
    | drop =>
      exact absurd (closed.resolve_left (by simp [answer])) (closed_notMem_heard _ _ _ rfl)
    | settle => simpa [answer, taken, after] using ih _ (closed.resolve_left (by simp [answer]))

end Mailbox

/-! ### Subscribers as mailboxes -/

namespace Subscriber

variable {α : Type} {capacity : Nat} {x : α} {s : Subscriber α}

/-- The mailbox that a subscriber stands for. -/
def mailbox (s : Subscriber α) : Mailbox α := ⟨s.queue, s.done, s.dropped, !s.watched⟩

structure Sound (capacity : Nat) (s : Subscriber α) : Prop where
  enrolled : s.enrolled = false → s.isLeaving = true
  watched : s.watched = false → s.enrolled = false
  emptied : s.dropped = true → s.queue = []
  bounded : s.queue.length ≤ capacity

theorem sound_new (capacity : Nat) : Sound capacity ({} : Subscriber α) :=
  ⟨by simp, by simp, by simp, by simp⟩

theorem Sound.enrolled_of_staying (h : Sound capacity s) (staying : s.isLeaving = false) :
    s.enrolled = true := by
  cases enrolled : s.enrolled with
  | true => rfl
  | false => simp [h.enrolled enrolled] at staying

theorem Sound.watched_of_enrolled (h : Sound capacity s) (enrolled : s.enrolled = true) :
    s.watched = true := by
  cases watched : s.watched with
  | true => rfl
  | false => simp [h.watched watched] at enrolled

theorem Sound.offer (h : Sound capacity s) : Sound capacity (s.offer capacity x).1 := by
  unfold Subscriber.offer
  split
  · exact h
  split
  · next done => exact ⟨fun _ => by simp [isLeaving, done], fun _ => rfl, h.emptied, h.bounded⟩
  split
  · next dropped =>
    exact ⟨fun _ => by simp [isLeaving, dropped], fun _ => rfl, h.emptied, h.bounded⟩
  · next dropped =>
    split
    · next room =>
      refine ⟨h.enrolled, h.watched, fun gone => absurd gone dropped, ?_⟩
      simpa using Nat.succ_le_of_lt room
    · exact h

/-- Who has left is not offered anything, so being let go by a broadcast cannot be told from
leaving. -/
theorem mailbox_offer (h : Sound capacity s) :
    (s.offer capacity x).1.mailbox = s.mailbox.after capacity (.send x) := by
  have stays (done : s.done = false) (dropped : s.dropped = false) :
      s.enrolled = true ∧ s.watched = true := by
    have enrolled := h.enrolled_of_staying (by simp [isLeaving, done, dropped])
    exact ⟨enrolled, h.watched_of_enrolled enrolled⟩
  unfold Subscriber.offer
  cases done : s.done with
  | true => split <;> simp [mailbox, Mailbox.after, Mailbox.takes, Mailbox.isLeft, done]
  | false =>
    cases dropped : s.dropped with
    | true => split <;> simp [mailbox, Mailbox.after, Mailbox.takes, Mailbox.isLeft, dropped, done]
    | false =>
      obtain ⟨enrolled, watched⟩ := stays done dropped
      by_cases room : s.queue.length < capacity <;>
        simp [mailbox, Mailbox.after, Mailbox.takes, Mailbox.isLeft, enrolled, watched, done,
          dropped, room]

theorem Sound.watch (h : Sound capacity s) : Sound capacity s.watch.1 := by
  unfold Subscriber.watch
  split
  · next leaving => exact ⟨fun _ => leaving.2, fun _ => rfl, h.emptied, h.bounded⟩
  · exact h

theorem mailbox_watch (s : Subscriber α) :
    s.watch.1.mailbox = s.mailbox.after capacity .settle := by
  unfold Subscriber.watch
  cases watched : s.watched with
  | true =>
    cases leaving : s.isLeaving <;>
      simp_all [mailbox, Mailbox.after, Mailbox.isLeft, isLeaving]
  | false => simp [mailbox, Mailbox.after, watched]

theorem enrolled_watch (h : Sound capacity s) : s.watch.1.enrolled = !s.isLeaving := by
  unfold Subscriber.watch
  cases watched : s.watched with
  | false =>
    have out := h.watched watched
    simp [h.enrolled out, out]
  | true =>
    cases leaving : s.isLeaving with
    | true => simp
    | false => simp [h.enrolled_of_staying leaving]

theorem Sound.receive (h : Sound capacity s) : Sound capacity s.receive.2 := by
  unfold Subscriber.receive
  split
  · exact h
  · next present =>
    split
    · next queue =>
      refine ⟨h.enrolled, h.watched, fun gone => absurd gone present, ?_⟩
      have bounded := h.bounded
      rw [queue, List.length_cons] at bounded
      exact Nat.le_of_succ_le bounded
    · exact h

theorem mailbox_receive (h : Sound capacity s) :
    s.receive.1 = s.mailbox.read ∧ s.receive.2.mailbox = s.mailbox.after capacity .receive := by
  have shut : s.isClosed = !s.watched := by
    unfold isClosed
    cases watched : s.watched with
    | true => simp
    | false => simp [h.watched watched]
  unfold Subscriber.receive
  cases dropped : s.dropped with
  | true => simp [mailbox, Mailbox.read, Mailbox.after, dropped, h.emptied dropped]
  | false =>
    cases queue : s.queue <;>
      simp [mailbox, Mailbox.read, Mailbox.after, dropped, queue, shut]

theorem Sound.finish (h : Sound capacity s) : Sound capacity s.finish :=
  ⟨fun _ => by simp [isLeaving, Subscriber.finish], h.watched, h.emptied, h.bounded⟩

theorem Sound.drop (h : Sound capacity s) : Sound capacity s.drop :=
  ⟨fun _ => by simp [isLeaving, Subscriber.drop], h.watched, fun _ => rfl,
    by simp [Subscriber.drop]⟩

end Subscriber

end ContainerWatch
