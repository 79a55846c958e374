import ContainerWatch.Proofs.Sampling.Lifetime

/-!
Who is sampled, and by which sampler. A sampler that was told to stop stays until its task moves
again, so a container may have several of them at a time; one at most has not been told to stop, and
the registry names it. What sampling was told since its session began, and which registered samplers
are over since, tells whose samplers are left once those that were told to stop have ended.
-/

namespace ContainerWatch

inductive Tiding
  | began
  /-- The session that runs has its listing, in which these containers run. -/
  | listed (ids : List String)
  /-- The listing of a session comes when that session was stopped already. -/
  | late
  | started (id : String)
  | died (id : String)
  /-- The sampler that is registered for a container is over, be it of the session that runs or one
  that the late listing of another session registered. -/
  | ended (id : String)
deriving DecidableEq, Repr

namespace Tiding

def Begins (id : String) : Tiding → Prop
  | listed ids => id ∈ ids
  | started other => id = other
  | _ => False

def Ends (id : String) : Tiding → Prop
  | began => True
  | died other | ended other => id = other
  | _ => False

/-- Since the last session began, a container was to be sampled, and that has not ended since. -/
def Sampled (id : String) (news : List Tiding) : Prop :=
  ∃ before x after, news = before ++ x :: after ∧ x.Begins id ∧ ∀ y ∈ after, ¬ y.Ends id

variable {id other : String} {news : List Tiding} {x : Tiding}

theorem sampled_append_singleton :
    Sampled id (news ++ [x]) ↔ x.Begins id ∨ Sampled id news ∧ ¬ x.Ends id := by
  constructor
  · rintro ⟨before, y, after, split, begins, lasts⟩
    rcases Holding.append_singleton_eq_split.mp split with ⟨-, -, rfl⟩ | ⟨earlier, rfl, rfl⟩
    · exact Or.inl begins
    · refine Or.inr ⟨⟨before, y, earlier, rfl, begins, fun z member => ?_⟩, lasts x (by simp)⟩
      exact lasts z (List.mem_append_left _ member)
  · rintro (begins | ⟨⟨before, y, after, rfl, begins, lasts⟩, goesOn⟩)
    · exact ⟨news, x, [], rfl, begins, by simp⟩
    · refine ⟨before, y, after ++ [x], by simp, begins, fun z member => ?_⟩
      rcases List.mem_append.mp member with old | new
      · exact lasts z old
      · obtain rfl := List.mem_singleton.mp new
        exact goesOn

end Tiding

namespace Sampling

def IsLive (s : Sampling) (t : Sampler) : Prop := t.phase ≠ .ended ∧ s.isCancelled t = false

/-- All samplers that were told to stop have ended. -/
def IsSettled (s : Sampling) : Prop := ∀ t ∈ s.samplers, s.isCancelled t = true → t.phase = .ended

/-- What the end of a sampler means to the container that it is registered for. The session of the
sampler is not looked at. -/
def loss (s : Sampling) (k : Nat) : List Tiding :=
  match s.samplers[k]? with
  | some t => if s.registered.get? t.id = some k then [.ended t.id] else []
  | none => []

def tidings (s : Sampling) (n : Nat) (reply : Except HostFault (List Container)) : Tiding :=
  if s.current = some n then
    .listed (((reply.toOption.getD []).filter Container.isRunning).map (·.id))
  else .late

/-- Everything that happens to sampling. Users may do anything at any moment, the idle time may be
over at any moment after it began, and sessions and samplers move in any order. A sampler may open
and send as it likes, and it may complete or fail at any moment. -/
inductive Move (s : Sampling) : List Tiding → Sampling → Prop
  | start : Move s (if s.isRunning then [] else [.began]) s.start.1
  | stop (now : Nat) : Move s [] (s.stop now)
  | expire (waiting : s.deadline ≠ none) : Move s [] s.expire
  | forceStop : Move s [] s.forceStop
  | cancel : Move s [] s.cancel
  | started (id : String) : Move s [.started id] (s.containerStarted id)
  | died (id : String) : Move s [.died id] (s.containerDied id)
  | listed {n : Nat} {t : Session} (reply : Except HostFault (List Container))
    (known : s.sessions[n]? = some t) (asks : t.phase = .listing) :
    Move s [s.tidings n reply] (s.listed n reply)
  | session (n : Nat) {f : Session → Session} (stopped : ∀ t, (f t).stopped = t.stopped)
    (ended : ∀ t, (f t).phase = .ended → t.phase = .ended ∨ s.isStopped n = true) :
    Move s [] (s.onSession n f)
  | sampler (k : Nat) (phase : SamplerPhase) (goesOn : phase ≠ .ended)
    (going : ∀ t, s.samplers[k]? = some t → t.phase ≠ .ended) :
    Move s [] (s.onSampler k fun t => { t with phase })
  | finish (k : Nat) : Move s (s.loss k) (s.endSampler k)
  | aside (subscribers : Broadcast Usage) (notices : List Notice) :
    Move s [] { s with subscribers, notices }

inductive Upkeep (s : Sampling) : List Tiding → Sampling → Prop
  | nil : Upkeep s [] s
  | move {news more t u} (h : Upkeep s news t) (moved : t.Move more u) : Upkeep s (news ++ more) u

variable {s s' t u : Sampling} {id other : String} {k m n : Nat} {news more : List Tiding}

/-! ### Samplers told to stop -/

theorem IsLive.of_change (change : s.Change s') {t : Sampler} (live : s'.IsLive t) :
    s.IsLive t := by
  obtain ⟨going, told⟩ := live
  refine ⟨going, ?_⟩
  simp only [isCancelled, Bool.or_eq_false_iff] at told ⊢
  refine ⟨told.1, ?_⟩
  cases stopped : s.isStopped t.session with
  | false => rfl
  | true =>
    rw [change.onward stopped] at told
    exact told.2

theorem getElem?_cancelSamplers_of_not_cancelled {numbers : List Nat} {t : Sampler}
    (found : (s.cancelSamplers numbers).samplers[k]? = some t) (untold : t.cancelled = false) :
    k ∉ numbers ∧ s.samplers[k]? = some t := by
  have stays (numbers : List Nat) (ts : List Sampler)
      (found : (numbers.foldl (fun ts k => ts.modify k fun t => { t with cancelled := true })
        ts)[k]? = some t) : k ∉ numbers ∧ ts[k]? = some t := by
    induction numbers generalizing ts with
    | nil => exact ⟨by simp, found⟩
    | cons j rest ih =>
      obtain ⟨others, found⟩ := ih _ found
      rw [List.getElem?_modify] at found
      obtain ⟨before, known, eq⟩ := Option.map_eq_some_iff.mp found
      by_cases same : j = k
      · rw [if_pos same] at eq
        subst eq
        simp at untold
      · rw [if_neg same] at eq
        subst eq
        exact ⟨by simp [others, Ne.symm same], known⟩
  exact stays numbers s.samplers found

/-! ### What every move keeps -/

/-- Who is to be sampled, and who is. -/
structure Tended (meant : String → Prop) (late : Prop) (s : Sampling) : Prop where
  orderly : s.Orderly
  owned : s.Owned
  nodup : s.ids.Nodup
  live : ∀ k t, s.samplers[k]? = some t → s.IsLive t → s.registered.get? t.id = some k
  /-- Who is to be sampled has a sampler. -/
  served : s.current ≠ none → ∀ id, meant id → id ∈ s.ids
  /-- The samplers of the session that runs are those of containers that are to be sampled. -/
  own : s.Registry fun t => s.current = some t.session → meant t.id
  /-- If no listing was late, all registered samplers are those of the session that runs. -/
  prompt : ¬ late → s.Registry fun t => t.cancelled = false ∧ s.current = some t.session

namespace Tended

variable {meant meant' : String → Prop} {late late' : Prop}

theorem congr (h : Tended meant late s) (same : ∀ id, meant' id ↔ meant id)
    (weaker : late → late') :
    Tended meant' late' s where
  orderly := h.orderly
  owned := h.owned
  nodup := h.nodup
  live := h.live
  served running id told := h.served running id ((same id).mp told)
  own := h.own.mono fun t own running => (same t.id).mpr (own running)
  prompt intime := h.prompt fun was => intime (weaker was)

theorem aside (h : Tended meant late s) (change : s.Change s') (current : s'.current = s.current)
    (samplers : s'.samplers = s.samplers) (registered : s'.registered = s.registered) :
    Tended meant late s' where
  orderly := change.orderly h.orderly
  owned := change.owned h.owned
  nodup := by
    rw [ids, registered]
    exact h.nodup
  live k t found live := by
    rw [samplers] at found
    rw [registered]
    exact h.live k t found (live.of_change change)
  served running id told := by
    rw [current] at running
    rw [ids, registered]
    exact h.served running id told
  own id k known := by
    rw [registered] at known
    rw [samplers, current]
    exact h.own id k known
  prompt intime id k known := by
    rw [registered] at known
    rw [samplers, current]
    exact h.prompt intime id k known

theorem onSampler (h : Tended meant late s) {phase : SamplerPhase} (goesOn : phase ≠ .ended)
    (going : ∀ t, s.samplers[k]? = some t → t.phase ≠ .ended) :
    Tended meant late (s.onSampler k fun t => { t with phase }) := by
  have change : s.Change (s.onSampler k fun t => { t with phase }) :=
    .sampler k (fun _ => rfl) (fun _ => rfl) (by exact fun _ => goesOn)
  refine ⟨change.orderly h.orderly, change.owned h.owned, h.nodup, ?_, h.served, ?_, ?_⟩
  · intro j t found live
    have found : (s.samplers.modify k fun t => { t with phase })[j]? = some t := found
    rw [List.getElem?_modify] at found
    obtain ⟨before, known, eq⟩ := Option.map_eq_some_iff.mp found
    by_cases same : k = j
    · rw [if_pos same] at eq
      subst same eq
      exact h.live k before known ⟨going before known, live.2⟩
    · rw [if_neg same] at eq
      subst eq
      exact h.live j before known live
  · exact h.own.onSampler fun t own => ⟨rfl, own⟩
  · exact fun intime => (h.prompt intime).onSampler fun t own => ⟨rfl, own⟩

theorem live_addSampler (h : Tended meant late s) (known : m < s.sessions.length) {id : String}
    {k : Nat} {t : Sampler} (found : (s.addSampler m id).samplers[k]? = some t)
    (live : (s.addSampler m id).IsLive t) :
    (s.addSampler m id).registered.get? t.id = some k := by
  have live := live.of_change (.add id known)
  unfold Sampling.addSampler at found ⊢
  split at found
  · next has =>
    rw [if_pos has]
    exact h.live k t found live
  · next fresh =>
    rw [if_neg fresh]
    rcases getElem?_concat found with old | ⟨rfl, rfl⟩
    · have registered := h.live k t old live
      have apart : t.id ≠ id := by
        rintro rfl
        exact fresh (by simp [Entries.has, registered])
      exact (Entries.get?_put_of_ne apart _ _).trans registered
    · exact Entries.get?_put_self _ _ _

/-- A session registers a sampler, which is in vain if it does not run any more. -/
theorem addSampler (h : Tended meant late s) (known : m < s.sessions.length) (id : String) :
    Tended (fun other => meant other ∨ s.current = some m ∧ other = id)
      (late ∨ s.current ≠ some m) (s.addSampler m id) := by
  obtain ⟨sessions, cancelled, current⟩ := addSampler_sessions m id s
  have change : s.Change (s.addSampler m id) := .add id known
  refine ⟨change.orderly h.orderly, change.owned h.owned, ?_, ?_, ?_, ?_, ?_⟩
  · unfold Sampling.addSampler
    split
    · exact h.nodup
    · exact Entries.nodup_put h.nodup
  · exact fun k t found live => h.live_addSampler known found live
  · intro running other told
    rw [current] at running
    rw [mem_ids_addSampler]
    exact told.imp (h.served running other) And.right
  · rw [current]
    refine Registry.addSampler (h.own.mono fun t own running => Or.inl (own running)) ?_
    exact fun running => Or.inr ⟨running, rfl⟩
  · intro intime
    obtain ⟨intime, running⟩ := not_or.mp intime
    rw [current]
    exact (h.prompt intime).addSampler ⟨rfl, Classical.not_not.mp running⟩

theorem addAll (h : Tended meant late s) (known : m < s.sessions.length) (cs : List Container) :
    Tended (fun other => meant other ∨ s.current = some m ∧ other ∈ cs.map (·.id))
      (late ∨ s.current ≠ some m) (cs.foldl (fun s c => s.addSampler m c.id) s) := by
  induction cs generalizing s meant late with
  | nil => exact h.congr (by simp) Or.inl
  | cons c rest ih =>
    obtain ⟨sessions, -, current⟩ := addSampler_sessions m c.id s
    have added := h.addSampler known c.id
    refine (ih added (by rwa [sessions])).congr (fun other => ?_) fun was => ?_
    · rw [current, List.map_cons, List.mem_cons, and_or_left, or_assoc]
    · rw [current] at was
      exact was.elim id Or.inr

theorem containerStarted (h : Tended meant late s) (id : String) :
    Tended (fun other => meant other ∨ other = id) late (s.containerStarted id) := by
  unfold Sampling.containerStarted
  cases current : s.current with
  | some n =>
    obtain ⟨t, known, -⟩ := h.orderly.running n current
    have added := h.addSampler (List.getElem?_eq_some_iff.mp known).1 id
    simp only [current] at added ⊢
    exact added.congr (by simp) (by simp)
  | none =>
    -- Nobody is to be sampled while no session runs.
    refine ⟨h.orderly, h.owned, h.nodup, h.live, by simp [current], ?_, h.prompt⟩
    exact h.own.mono fun t own running => Or.inl (own running)

theorem live_containerDied (h : Tended meant late s) {id : String} {k : Nat} {t : Sampler}
    (found : (s.containerDied id).samplers[k]? = some t) (live : (s.containerDied id).IsLive t) :
    (s.containerDied id).registered.get? t.id = some k := by
  have before := live.of_change (.drop id)
  cases registered : s.registered.get? id with
  | some j =>
    simp only [Sampling.containerDied, registered, note] at found ⊢
    have untold : t.cancelled = false := by
      have told := live.2
      simp only [isCancelled, Bool.or_eq_false_iff] at told
      exact told.1
    obtain ⟨apart, found⟩ := getElem?_cancelSamplers_of_not_cancelled found untold
    have named := h.live k t found before
    have other : t.id ≠ id := by
      rintro rfl
      rw [named] at registered
      exact apart (by simpa using registered)
    exact (Entries.get?_remove_of_ne other _).trans named
  | none =>
    simp only [Sampling.containerDied, registered] at found ⊢
    exact h.live k t found before

theorem containerDied (h : Tended meant late s) (id : String) :
    Tended (fun other => meant other ∧ other ≠ id) late (s.containerDied id) := by
  obtain ⟨-, -, current⟩ := containerDied_sessions id s
  have change : s.Change (s.containerDied id) := .drop id
  have others (k : Nat) (t : Sampler) (known : (s.containerDied id).registered.get? t.id = some k) :
      t.id ≠ id := by
    intro same
    have gone : id ∉ (s.containerDied id).ids := by simp [mem_ids_containerDied]
    exact gone (mem_ids.mpr ⟨k, same ▸ known⟩)
  refine ⟨change.orderly h.orderly, change.owned h.owned, ?_, ?_, ?_, ?_, ?_⟩
  · unfold Sampling.containerDied
    split
    · exact Entries.nodup_remove h.nodup
    · exact h.nodup
  · exact fun k t found live => h.live_containerDied found live
  · intro running other told
    rw [current] at running
    rw [mem_ids_containerDied]
    exact ⟨h.served running other told.1, told.2⟩
  · rw [current]
    intro other k known
    obtain ⟨t, found, named, own⟩ := h.own.containerDied other k known
    subst named
    exact ⟨t, found, rfl, fun running => ⟨own running, others k t known⟩⟩
  · intro intime
    rw [current]
    exact (h.prompt intime).containerDied

theorem live_endSampler (h : Tended meant late s) {k j : Nat} {t : Sampler}
    (found : (s.endSampler k).samplers[j]? = some t) (live : (s.endSampler k).IsLive t) :
    (s.endSampler k).registered.get? t.id = some j := by
  have before := live.of_change (.finish k)
  cases known : s.samplers[k]? with
  | some ended =>
    simp only [Sampling.endSampler, known] at found ⊢
    have found : (s.samplers.modify k fun t => { t with phase := .ended })[j]? = some t := found
    rw [List.getElem?_modify] at found
    obtain ⟨u, old, eq⟩ := Option.map_eq_some_iff.mp found
    have apart : k ≠ j := by
      rintro rfl
      rw [if_pos rfl] at eq
      subst eq
      exact live.1 rfl
    rw [if_neg apart] at eq
    subst eq
    have named := h.live j u old before
    split
    · next own =>
      have other : u.id ≠ ended.id := by
        intro same
        rw [← same, named] at own
        exact apart (Option.some.inj own).symm
      exact (Entries.get?_remove_of_ne other _).trans named
    · exact named
  | none =>
    simp only [Sampling.endSampler, known] at found ⊢
    exact h.live j t found before

theorem endSampler (h : Tended meant late s) (k : Nat) :
    Tended (fun other => meant other ∧ ∀ x ∈ s.loss k, ¬ x.Ends other) late (s.endSampler k) := by
  obtain ⟨-, -, current⟩ := endSampler_sessions k s
  have change : s.Change (s.endSampler k) := .finish k
  have left (other : String) : other ∈ (s.endSampler k).ids ↔
      other ∈ s.ids ∧ ∀ x ∈ s.loss k, ¬ x.Ends other := by
    cases known : s.samplers[k]? with
    | none => simp [Sampling.endSampler, loss, known]
    | some t =>
      rw [mem_ids_endSampler known]
      by_cases own : s.registered.get? t.id = some k
      · simp [loss, known, own, Tiding.Ends]
      · simp [loss, known, own]
  refine ⟨change.orderly h.orderly, change.owned h.owned, ?_, ?_, ?_, ?_, ?_⟩
  · unfold Sampling.endSampler
    split
    · simp only [ids]
      split
      · exact Entries.nodup_remove h.nodup
      · exact h.nodup
    · exact h.nodup
  · exact fun j t found live => h.live_endSampler found live
  · intro running other told
    rw [current] at running
    exact (left other).mpr ⟨h.served running other told.1, told.2⟩
  · rw [current]
    intro other j known
    obtain ⟨t, found, named, own⟩ := h.own.endSampler other j known
    subst named
    have stays := ((left t.id).mp (mem_ids.mpr ⟨j, known⟩)).2
    exact ⟨t, found, rfl, fun running => ⟨own running, stays⟩⟩
  · intro intime
    rw [current]
    exact (h.prompt intime).endSampler

theorem openSession (h : Tended meant late s) (idle : s.current = none) :
    Tended (fun _ => False) late { s with
      current := some s.sessions.length
      sessions := s.sessions ++ [{ phase := .listing }] } where
  orderly := (Change.openSession idle).orderly h.orderly
  owned := (Change.openSession idle).owned h.owned
  nodup := h.nodup
  live k t found live := h.live k t found (live.of_change (.openSession idle))
  served _ _ told := told.elim
  own id k known := by
    obtain ⟨t, found, named, -, older⟩ := h.orderly.registry id k known
    refine ⟨t, found, named, fun running => ?_⟩
    have newest : s.sessions.length = t.session := Option.some.inj running
    omega
  prompt intime id k known := by
    obtain ⟨t, -, -, -, running⟩ := h.prompt intime id k known
    simp [idle] at running

theorem close (h : Tended meant late s) : Tended meant late s.forceStop := by
  obtain ⟨-, current, registered, -⟩ := s.forceStop_sessions
  have change : s.Change s.forceStop := .close s
  have orderly := change.orderly h.orderly
  have owned := change.owned h.owned
  refine ⟨orderly, owned, by simp [ids, registered, Entries.keys], ?_, by simp [current], ?_, ?_⟩
  · intro k t found live
    have told := (orderly.torn owned current).2 t (List.mem_of_getElem? found)
    rw [live.2] at told
    cases told
  · simp [Registry, registered]
  · simp [Registry, registered]

theorem start (h : Tended meant late s) :
    Tended (fun id => meant id ∧ s.isRunning = true) late s.start.1 := by
  have change : s.Change s.start.1 := (Use.start).change
  cases current : s.current with
  | some n =>
    have held : s.start.1 = { s with deadline := none, active := s.active + 1 } := by
      simp [Sampling.start, current]
    rw [held] at change ⊢
    exact (h.aside change rfl rfl rfl).congr (by simp [isRunning, current]) id
  | none =>
    have opened : s.start.1 =
        ({ s with
            deadline := none, active := s.active + 1, current := some s.sessions.length
            sessions := s.sessions ++ [{ phase := .listing }] } : Sampling).note
          .sessionStarted := by
      simp [Sampling.start, current]
    rw [opened]
    refine Tended.congr ((h.openSession current).aside (.aside rfl rfl rfl rfl rfl) rfl rfl rfl)
      ?_ id
    simp [isRunning, current]

theorem expire (h : Tended meant late s) : Tended meant late s.expire := by
  have idle : Tended meant late { s with deadline := none } :=
    h.aside (.aside rfl rfl rfl rfl rfl) rfl rfl rfl
  unfold Sampling.expire
  simp only
  split
  · exact idle.close
  · exact idle

theorem listed {t : Session} (h : Tended meant late s) (known : s.sessions[n]? = some t)
    (reply : Except HostFault (List Container)) :
    Tended (fun id => meant id ∨ (s.tidings n reply).Begins id) (late ∨ s.tidings n reply = .late)
      (s.listed n reply) := by
  have relaying : s.Change (s.onSession n fun t => { t with phase := .relaying }) :=
    .session n (fun _ => rfl) (by simp)
  have h := h.aside relaying rfl rfl rfl
  have noted : Tended meant late
      ((s.onSession n fun t => { t with phase := .relaying }).note .sessionListingFailed) :=
    h.aside (.aside rfl rfl rfl rfl rfl) rfl rfl rfl
  have opened : n < (s.onSession n fun t => { t with phase := .relaying }).sessions.length := by
    simpa [onSession] using (List.getElem?_eq_some_iff.mp known).1
  unfold Sampling.listed
  by_cases running : s.current = some n
  · cases reply with
    | ok cs =>
      refine (h.addAll opened _).congr (fun id => ?_) fun was => was.imp_right fun other => ?_
      · simp [tidings, running, onSession, Tiding.Begins, Except.toOption]
      · exact absurd running other
    | error fault =>
      refine noted.congr (fun id => ?_) Or.inl
      simp [tidings, running, Tiding.Begins, Except.toOption]
  · cases reply with
    | ok cs =>
      refine (h.addAll opened _).congr (fun id => ?_) fun _ => Or.inr (by simp [tidings, running])
      simp [tidings, running, onSession, Tiding.Begins]
    | error fault =>
      refine noted.congr (fun id => ?_) Or.inl
      simp [tidings, running, Tiding.Begins]

end Tended

theorem tended_ofSettings (settings : SamplingSettings) (filter : LabelFilter) :
    Tended (Tiding.Sampled · []) (.late ∈ ([] : List Tiding)) (ofSettings settings filter) where
  orderly := orderly_ofSettings settings filter
  owned := by simp [Owned, ofSettings]
  nodup := by simp [ids, ofSettings, Entries.keys]
  live := by simp [ofSettings]
  served := by simp [ofSettings]
  own := by simp [Registry, ofSettings]
  prompt := by simp [Registry, ofSettings]

theorem loss_cases (s : Sampling) (k : Nat) : s.loss k = [] ∨ ∃ id, s.loss k = [.ended id] := by
  unfold loss
  split
  · next t _ =>
    split
    · exact Or.inr ⟨t.id, rfl⟩
    · exact Or.inl rfl
  · exact Or.inl rfl

theorem mem_loss_iff {x : Tiding} : x ∈ s.loss k ↔
    ∃ t, s.samplers[k]? = some t ∧ s.registered.get? t.id = some k ∧ x = .ended t.id := by
  unfold loss
  cases s.samplers[k]? with
  | none => simp
  | some t => by_cases own : s.registered.get? t.id = some k <;> simp [own]

theorem Move.tended {past : List Tiding} (moved : s.Move news s')
    (h : Tended (Tiding.Sampled · past) (.late ∈ past) s) :
    Tended (Tiding.Sampled · (past ++ news)) (.late ∈ past ++ news) s' := by
  have untold {s' : Sampling} (h : Tended (Tiding.Sampled · past) (.late ∈ past) s') :
      Tended (Tiding.Sampled · (past ++ [])) (.late ∈ past ++ []) s' := by rwa [List.append_nil]
  cases moved with
  | start =>
    refine h.start.congr (fun id => ?_) fun was => List.mem_append_left _ was
    cases s.isRunning with
    | true => simp
    | false => simp [Tiding.sampled_append_singleton, Tiding.Begins, Tiding.Ends]
  | stop now =>
    unfold Sampling.stop
    split <;> exact untold (h.aside (.aside rfl rfl rfl rfl rfl) rfl rfl rfl)
  | expire waiting => exact untold h.expire
  | forceStop => exact untold h.close
  | cancel => exact untold (h.aside (.cancel s) rfl rfl rfl)
  | started id =>
    refine (h.containerStarted id).congr (fun other => ?_) fun was => List.mem_append_left _ was
    simp [Tiding.sampled_append_singleton, Tiding.Begins, Tiding.Ends, or_comm]
  | died id =>
    refine (h.containerDied id).congr (fun other => ?_) fun was => List.mem_append_left _ was
    simp [Tiding.sampled_append_singleton, Tiding.Begins, Tiding.Ends]
  | listed reply known asks =>
    refine (h.listed known reply).congr (fun id => ?_) fun was => ?_
    · rw [Tiding.sampled_append_singleton]
      unfold tidings
      split <;> simp [Tiding.Ends, or_comm]
    · exact was.elim (List.mem_append_left _) fun late => by simp [late]
  | session n stopped ended => exact untold (h.aside (.session n stopped ended) rfl rfl rfl)
  | sampler k phase goesOn going => exact untold (h.onSampler goesOn going)
  | finish k =>
    refine (h.endSampler k).congr (fun id => ?_) fun was => List.mem_append_left _ was
    rcases loss_cases s k with none_ | ⟨other, lost⟩
    · simp [none_]
    · simp [lost, Tiding.sampled_append_singleton, Tiding.Begins]
  | aside subscribers notices => exact untold (h.aside (.aside rfl rfl rfl rfl rfl) rfl rfl rfl)

theorem Upkeep.tended {past : List Tiding} (run : s.Upkeep news s')
    (h : Tended (Tiding.Sampled · past) (.late ∈ past) s) :
    Tended (Tiding.Sampled · (past ++ news)) (.late ∈ past ++ news) s' := by
  induction run with
  | nil => rwa [List.append_nil]
  | move run moved ih =>
    rw [← List.append_assoc]
    exact moved.tended ih

/-! ### The tasks of sampling -/

theorem Upkeep.trans (h : s.Upkeep news t) (h' : t.Upkeep more u) : s.Upkeep (news ++ more) u := by
  induction h' with
  | nil => rwa [List.append_nil]
  | move _ moved ih =>
    rw [← List.append_assoc]
    exact ih.move moved

theorem Upkeep.of_move (moved : s.Move news s') : s.Upkeep news s' := Upkeep.nil.move moved

theorem upkeep_relay? (relayed : s.relay? m = some s') : ∃ news, s.Upkeep news s' := by
  unfold relay? at relayed
  split at relayed
  · next stopped queue known =>
    split at relayed
    · next finished =>
      exact Option.some.inj relayed ▸
        ⟨_, .of_move (.session m (fun _ => rfl) fun _ _ => Or.inr finished)⟩
    · split at relayed
      · simp at relayed
      · next x rest =>
        have taken : s.Move [] (s.onSession m fun t => { t with queue := rest }) :=
          .session m (fun _ => rfl) fun _ finished => Or.inl finished
        exact Option.some.inj relayed ▸ ⟨_, (Upkeep.of_move taken).move (.aside _ _)⟩
  · simp at relayed

theorem upkeep_send? (sent : s.send? k = some s') : ∃ news, s.Upkeep news s' := by
  unfold send? at sent
  split at sent
  · next known =>
    exact Option.some.inj sent ▸ ⟨_, .of_move (.sampler k .waiting (by simp) (by simp [known]))⟩
  · next id session cancelled x rest known =>
    split at sent
    · exact Option.some.inj sent ▸ ⟨_, .of_move (.finish k)⟩
    · simp only at sent
      split at sent
      · have queued : s.Move [] (s.onSession session fun t => { t with queue := t.queue ++ [x] }) :=
          .session session (fun _ => rfl) fun _ finished => Or.inl finished
        refine Option.some.inj sent ▸
          ⟨_, (Upkeep.of_move queued).move (.sampler k (.sending rest) (by simp) ?_)⟩
        simp [onSession, known]
      · simp at sent
  · simp at sent

end Sampling

/-- The tasks of sampling move it in no other way. -/
theorem SampledHost.upkeep {w v : SampledHost} {now : Nat} {t : SamplingTask}
    (moved : w.step? now t = some v) : ∃ news, w.sampling.Upkeep news v.sampling := by
  cases t with
  | idleTimer =>
    obtain ⟨⟨d, waiting, -⟩, rfl⟩ := step?_idleTimer.mp moved
    exact ⟨_, .of_move (.expire (by simp [waiting]))⟩
  | session n =>
    simp only [step?, stepSession?] at moved
    split at moved
    · next known =>
      exact Option.some.inj moved ▸ ⟨_, .of_move (.listed _ known rfl)⟩
    · obtain ⟨s, relayed, rfl⟩ := Option.map_eq_some_iff.mp moved
      exact Sampling.upkeep_relay? relayed
  | sampler k =>
    simp only [step?, stepSampler?] at moved
    split at moved
    · next known =>
      obtain rfl := Option.some.inj moved
      simp only [Sampling.opened]
      split
      · exact ⟨_, .of_move (.sampler k _ (by simp) (by simp [known]))⟩
      · have noted : w.sampling.Move [] (w.sampling.note .samplerFailed) := .aside _ _
        exact ⟨_, (Sampling.Upkeep.of_move noted).move (.finish k)⟩
    · obtain ⟨s, concluded, rfl⟩ := Option.map_eq_some_iff.mp moved
      unfold Sampling.conclude? at concluded
      split at concluded
      · split at concluded
        · split at concluded
          · exact Option.some.inj concluded ▸ ⟨_, .of_move (.finish k)⟩
          · simp at concluded
        · simp at concluded
      · simp at concluded
    · obtain ⟨s, sent, rfl⟩ := Option.map_eq_some_iff.mp moved
      exact Sampling.upkeep_send? sent
  | watchers =>
    simp only [step?, stepWatchers?] at moved
    split at moved
    · exact Option.some.inj moved ▸ ⟨_, .of_move (.aside _ _)⟩
    · simp at moved

namespace Sampling

variable {s : Sampling} {news : List Tiding}

theorem Upkeep.settle {w : SampledHost} (run : s.Upkeep news w.sampling) (now : Nat) :
    ∃ more, s.Upkeep more (w.settle now).sampling := by
  have keep (v : SampledHost) (t : SamplingTask) (v' : SampledHost)
      (reached : ∃ more, s.Upkeep more v.sampling) (moved : v.step? now t = some v') :
      ∃ more, s.Upkeep more v'.sampling := by
    obtain ⟨more, run⟩ := reached
    obtain ⟨rest, goesOn⟩ := SampledHost.upkeep moved
    exact ⟨_, run.trans goesOn⟩
  rw [Moment.settle_eq]
  exact Rounds.settle_induction keep ⟨news, run⟩

theorem isSettled_of_rest {w : SampledHost} {now : Nat} (owned : w.sampling.Owned)
    (rest : ∀ t, w.step? now t = none) : w.sampling.IsSettled := by
  intro t member told
  obtain ⟨k, known⟩ := List.getElem?_of_mem member
  by_cases ended : t.phase = .ended
  · exact ended
  · have waits := waits_of_rest rest known ended
      (owned t.session (List.mem_map.mpr ⟨t, member, rfl⟩))
    simp [told] at waits

/-! ### One live sampler for each container -/

theorem get?_endSampler {P : Sampler → Prop} (registry : s.Registry P) (k : Nat) (id : String)
    (j : Nat) : (s.endSampler k).registered.get? id = some j ↔
      s.registered.get? id = some j ∧ j ≠ k := by
  cases known : s.samplers[k]? with
  | none =>
    simp only [endSampler, known, iff_self_and]
    rintro registered rfl
    obtain ⟨t, found, -⟩ := registry id j registered
    simp [known] at found
  | some t =>
    have named (registered : s.registered.get? id = some k) : t.id = id := by
      obtain ⟨u, found, named, -⟩ := registry id k registered
      rw [known] at found
      obtain rfl := Option.some.inj found
      exact named
    simp only [endSampler, known]
    by_cases own : s.registered.get? t.id = some k
    · rw [if_pos own]
      by_cases same : id = t.id
      · subst same
        rw [Entries.get?_remove_self, own]
        simp [eq_comm]
      · rw [Entries.get?_remove_of_ne same, iff_self_and]
        rintro registered rfl
        exact same (named registered).symm
    · rw [if_neg own, iff_self_and]
      rintro registered rfl
      exact own ((named registered).symm ▸ registered)

/-- A registered sampler of a session that runs, and that was not told to stop by name, is live. -/
theorem isLive_of_current (orderly : s.Orderly) (alive : s.cancelled = false) {t : Sampler}
    (going : t.phase ≠ .ended) (untold : t.cancelled = false)
    (running : s.current = some t.session) : s.IsLive t := by
  obtain ⟨session, known, stays⟩ := orderly.running t.session running
  exact ⟨going, by simp [isCancelled, isStopped, alive, untold, known, stays]⟩

/-- Whatever happens to sampling, and in whatever order its tasks move: a sampler that goes on and
was not told to stop is the one that the registry names for its container, so there is one at most;
the end of a sampler takes its own registration away and nobody else's; and once those that were
told to stop have ended, as they have when nothing moves, the containers with a sampler are those
that were to be sampled since the session that runs began, and are still. Without a session there
are none. As long as no listing came after its session was stopped, the registry names live samplers
only, and an end is told only of samplers of the session that runs. -/
theorem Upkeep.one_live {settings : SamplingSettings} {filter : LabelFilter}
    (run : (ofSettings settings filter).Upkeep news s) :
    (∀ k t, s.samplers[k]? = some t → s.IsLive t → s.registered.get? t.id = some k) ∧
      (∀ (j k : Nat) (t u : Sampler), s.samplers[j]? = some t → s.samplers[k]? = some u →
        s.IsLive t → s.IsLive u → t.id = u.id → j = k) ∧
      (∀ k id j, (s.endSampler k).registered.get? id = some j ↔
        s.registered.get? id = some j ∧ j ≠ k) ∧
      (∀ host now, (∀ t, SampledHost.step? now ⟨host, s⟩ t = none) → s.IsSettled) ∧
      (s.IsSettled → s.ids.Nodup ∧
        ∀ id, id ∈ s.ids ↔ s.isRunning = true ∧ Tiding.Sampled id news) ∧
      (.late ∉ news → s.cancelled = false → s.Registry s.IsLive) ∧
      (.late ∉ news → ∀ k id, .ended id ∈ s.loss k →
        ∃ t, s.samplers[k]? = some t ∧ t.id = id ∧ s.current = some t.session) := by
  have tended : Tended (Tiding.Sampled · news) (.late ∈ news) s :=
    run.tended (tended_ofSettings settings filter)
  have orderly := tended.orderly
  refine ⟨tended.live, ?one, fun k id j => get?_endSampler orderly.registry k id j, ?rest, ?settled,
    ?named, ?told⟩
  case one =>
    intro j k t u first second live live' same
    have named := tended.live j t first live
    rw [same, tended.live k u second live'] at named
    exact (Option.some.inj named).symm
  case rest => exact fun host now rest => isSettled_of_rest (w := ⟨host, s⟩) tended.owned rest
  case settled =>
    refine fun settled => ⟨tended.nodup, fun id => ⟨fun sampled => ?_, fun told => ?_⟩⟩
    · obtain ⟨k, registered⟩ := mem_ids.mp sampled
      obtain ⟨t, found, rfl, going, opened⟩ := orderly.registry id k registered
      have untold : s.isCancelled t = false := by
        cases told : s.isCancelled t with
        | false => rfl
        | true => exact absurd (settled t (List.mem_of_getElem? found) told) going
      have stays := untold
      simp only [isCancelled, isStopped, Bool.or_eq_false_iff, List.getElem?_eq_getElem opened]
        at stays
      have running : s.current = some t.session :=
        orderly.current t.session _ (List.getElem?_eq_getElem opened) stays.2.2
      obtain ⟨u, found', -, meant⟩ := tended.own t.id k registered
      obtain rfl := Option.some.inj (found.symm.trans found')
      exact ⟨by simp [isRunning, running], meant running⟩
    · exact tended.served (Option.isSome_iff_ne_none.mp told.1) id told.2
  case named =>
    intro intime alive id k registered
    obtain ⟨t, found, named, going, -⟩ := orderly.registry id k registered
    obtain ⟨u, found', -, untold, running⟩ := tended.prompt intime id k registered
    obtain rfl := Option.some.inj (found.symm.trans found')
    exact ⟨t, found, named, isLive_of_current orderly alive going untold running⟩
  case told =>
    intro intime k id told
    obtain ⟨t, found, registered, same⟩ := mem_loss_iff.mp told
    obtain ⟨u, found', -, -, running⟩ := tended.prompt intime t.id k registered
    obtain rfl := Option.some.inj (found.symm.trans found')
    exact ⟨t, found, (Tiding.ended.inj same).symm, running⟩

def openedLone : SampledHost :=
  { host := (ScriptedHost.named "fake").put { id := "aaa", name := "web", state := .running }
    sampling := (ofSettings {} .all).start.1 }

def restarted : SampledHost :=
  let w := openedLone.settle 0
  { w with sampling := (w.sampling.containerDied "aaa").containerStarted "aaa" }

theorem upkeep_restarted : ∃ news, (ofSettings {} .all).Upkeep news restarted.sampling := by
  have opened : (ofSettings {} .all).Upkeep [.began] openedLone.sampling := .of_move .start
  obtain ⟨_, listed⟩ := opened.settle 0
  exact ⟨_, (listed.move (.died "aaa")).move (.started "aaa")⟩

/-- The container has two samplers that go on. The registry names the second, and still does when
the first has ended. -/
theorem Upkeep.one_live_restarted : ∃ news more,
    (ofSettings {} .all).Upkeep news restarted.sampling ∧
      restarted.sampling.samplers.map (·.id) = ["aaa", "aaa"] ∧
      restarted.sampling.registered.get? "aaa" = some 1 ∧
      (restarted.sampling.endSampler 0).registered.get? "aaa" = some 1 ∧
      (ofSettings {} .all).Upkeep more (restarted.settle 0).sampling ∧
      (restarted.settle 0).sampling.IsSettled ∧ Tiding.Sampled "aaa" more := by
  obtain ⟨news, run⟩ := upkeep_restarted
  obtain ⟨more, later⟩ := run.settle 0
  obtain ⟨-, -, left, -⟩ := run.one_live
  obtain ⟨-, -, -, quiet, sampled, -⟩ := later.one_live
  have named : restarted.sampling.registered.get? "aaa" = some 1 := by decide +kernel
  have rest : ((restarted.settle 0).tasks.all fun t => ((restarted.settle 0).step? 0 t).isNone) =
      true := by decide +kernel
  have settled := quiet (restarted.settle 0).host 0 (rest_of_tasks rest)
  have among : "aaa" ∈ (restarted.settle 0).sampling.ids := by decide +kernel
  exact ⟨news, more, run, by decide +kernel, named, (left 0 "aaa" 1).mpr ⟨named, by decide⟩, later,
    settled, (((sampled settled).2 "aaa").mp among).2⟩

end Sampling

end ContainerWatch
