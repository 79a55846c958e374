import ContainerWatch.Proofs.Log.Refinement

/-!
Groups are well formed at every moment. An automaton reads the events that were handed out and
stands inside or outside a group; it goes on only if positions follow each other as they should
and severities are those of the lines, or of the start of the group. What the grouping task
decides keeps it going, with the mark of the current record telling where it stands.
-/

namespace ContainerWatch.Log

/-- The severity that a line shows itself. -/
def Entry.ownSeverity (e : Entry) : Severity := Detect.ofMessage e.message

/-- Where a sequence of events has come: outside of groups, or inside one of some severity. -/
inductive Standing
  | outside
  | inside (l : Severity)
deriving DecidableEq, Repr

namespace Standing

/-- Where an event leads, if it may come at all. -/
def next? (s : Standing) (e : Entry) : Option Standing :=
  match s, e.position with
  | outside, none => if e.severity = e.ownSeverity then some outside else none
  | outside, some .start =>
    if e.severity = e.ownSeverity ∧ e.severity.isKnown then some (inside e.severity) else none
  | inside l, some .middle =>
    if e.ownSeverity = .unknown ∧ e.severity = l then some (inside l) else none
  | inside l, some .finish =>
    if e.ownSeverity = .unknown ∧ e.severity = l then some outside else none
  | _, _ => none

theorem next?_none {e : Entry} (position : e.position = none)
    (own : e.severity = e.ownSeverity) : outside.next? e = some outside := by
  simp [next?, position, own]

theorem next?_start {e : Entry} (position : e.position = some .start)
    (own : e.severity = e.ownSeverity) (known : e.severity.isKnown) :
    outside.next? e = some (inside e.severity) := by
  simp only [next?, position]
  exact if_pos ⟨own, known⟩

theorem next?_middle {e : Entry} (position : e.position = some .middle)
    (own : e.ownSeverity = .unknown) : (inside e.severity).next? e = some (inside e.severity) := by
  simp [next?, position, own]

theorem next?_finish {e : Entry} (position : e.position = some .finish)
    (own : e.ownSeverity = .unknown) : (inside e.severity).next? e = some outside := by
  simp [next?, position, own]

def of? (es : List Entry) : Option Standing := es.foldlM next? outside

theorem of?_append (es fs : List Entry) :
    of? (es ++ fs) = (of? es).bind fun s => fs.foldlM next? s := by
  rw [of?, List.foldlM_append]
  rfl

theorem of?_append_singleton {es : List Entry} {s t : Standing} {e : Entry}
    (h : of? es = some s) (he : s.next? e = some t) : of? (es ++ [e]) = some t := by
  simp [of?_append, h, he]

theorem of?_of_append {es fs : List Entry} {t : Standing} (h : of? (es ++ fs) = some t) :
    ∃ s, of? es = some s := by
  rw [of?_append] at h
  obtain ⟨s, hs, -⟩ := Option.bind_eq_some_iff.mp h
  exact ⟨s, hs⟩

end Standing

theorem Record.IsFresh.position_eq {r : Record} (h : r.IsFresh) : r.entry.position = none := by
  obtain ⟨container, text, stream, rfl⟩ := h
  simp only [Pipeline.record, Record.ofEntry, Line.read, Line.readPlain]
  split <;> rfl

theorem Record.IsFresh.severity_eq {r : Record} (h : r.IsFresh) :
    r.entry.severity = r.entry.ownSeverity := by
  obtain ⟨container, text, stream, rfl⟩ := h
  rfl

theorem Record.IsFresh.detected_eq {r : Record} (h : r.IsFresh) :
    r.detected = r.entry.ownSeverity.isKnown := by
  obtain ⟨container, text, stream, rfl⟩ := h
  rfl

theorem Record.IsFresh.ownSeverity_eq {r : Record} (h : r.IsFresh) (bare : ¬ r.detected) :
    r.entry.ownSeverity = .unknown := by
  simpa [h.detected_eq, Severity.isKnown] using bare

namespace Group

/-- What the mark of the current record says about the events before it. -/
def Fits (s : Standing) (c : Record) : Prop :=
  match s with
  | .outside => c.IsFresh
  | .inside l => position c = some .middle ∧ c.detected = false ∧ c.entry.ownSeverity = .unknown ∧
      c.entry.severity = l

variable {window : Int} {s : Standing} {c next : Record}

theorem fits_grade_place (fresh : next.IsFresh) (bare : ¬ next.detected) (l : Severity) :
    Fits (.inside l) (grade (place next .middle) l) :=
  ⟨rfl, by simpa [grade, place] using bare, fresh.ownSeverity_eq bare, rfl⟩

/-- Deciding about a record and its successor leads the events on, and the successor fits. -/
theorem fits_link (fits : Fits s c) (fresh : next.IsFresh) {decided left : Record}
    (linked : Link window c next (decided, left)) :
    ∃ t, s.next? decided.entry = some t ∧ Fits t left := by
  cases s with
  | outside =>
    have hc : c.IsFresh := fits
    -- A record fresh from its line has no mark, so a group can only begin here.
    cases linked with
    | opens h =>
      have known : c.entry.severity.isKnown := by
        rw [hc.severity_eq, ← hc.detected_eq]
        exact h.2.1
      exact ⟨_, Standing.next?_start rfl hc.severity_eq known, fits_grade_place fresh h.2.2 _⟩
    | goesOn shut inside near bare => simp [hc.position_eq] at inside
    | ends shut inside cut => simp [hc.position_eq] at inside
    | repeated shut first => simp [hc.position_eq] at first
    | single shut out notFirst =>
      exact ⟨_, Standing.next?_none hc.position_eq hc.severity_eq, fresh⟩
  | inside l =>
    obtain ⟨middle, undetected, own, rfl⟩ := fits
    cases linked with
    | opens h =>
      have detected := h.2.1
      simp [undetected] at detected
    | goesOn shut inside near bare =>
      exact ⟨_, Standing.next?_middle middle own, fits_grade_place fresh bare _⟩
    | ends shut inside cut =>
      have hf : (place c .finish).entry.ownSeverity = .unknown := own
      exact ⟨_, Standing.next?_finish rfl hf, fresh⟩
    | repeated shut first => simp [middle] at first
    | single shut out notFirst => exact absurd middle out

/-- Deciding about a record without a successor leads out of its group. -/
theorem fits_close (fits : Fits s c) : s.next? (close c).entry = some .outside := by
  cases s with
  | outside =>
    have hc : c.IsFresh := fits
    have hp : close c = c := if_neg (by simp [hc.position_eq])
    rw [hp]
    exact Standing.next?_none hc.position_eq hc.severity_eq
  | inside l =>
    obtain ⟨middle, undetected, own, rfl⟩ := fits
    have hp : close c = place c .finish := if_pos middle
    have hf : (place c .finish).entry.ownSeverity = .unknown := own
    rw [hp]
    exact Standing.next?_finish rfl hf

theorem Grouped.standing {rs ds : List Record} {seen : List (Record × Bool)} {cur : Option Record}
    (h : Grouped window rs seen ds cur) (fresh : ∀ r ∈ rs, r.IsFresh) :
    ∃ s, Standing.of? (ds.map Record.entry) = some s ∧
      match cur with
      | none => s = .outside
      | some c => Fits s c := by
  induction h with
  | start => exact ⟨.outside, rfl, rfl⟩
  | turn r h ih =>
    obtain ⟨s, hs, rfl⟩ := ih fun r hr => fresh r (List.mem_append_left _ hr)
    exact ⟨.outside, hs, fresh r (by simp)⟩
  | found linked h ih =>
    obtain ⟨s, hs, fits⟩ := ih fun r hr => fresh r (List.mem_append_left _ hr)
    obtain ⟨t, ht, left⟩ := fits_link fits (fresh _ (by simp)) (linked ▸ link_spec _ _)
    exact ⟨t, by simpa using Standing.of?_append_singleton hs ht, left⟩
  | alone h ih =>
    obtain ⟨s, hs, fits⟩ := ih fresh
    exact ⟨.outside, by simpa using Standing.of?_append_singleton hs (fits_close fits), rfl⟩

end Group

namespace Pipeline

variable {tuning : Tuning} {container : String} {tty : Bool} {j : Journal} {p : Pipeline}

/-- At every moment of a run, what was handed out are lines as they came but for positions and
severities, in well-formed groups; and if nobody asked the tasks to stop, no group is open when
grouping is at its end. -/
theorem Run.standing_emitted (run : Run tuning container tty j p) :
    (∀ e ∈ j.emitted p, ∃ r : Record, r.IsFresh ∧ e.plain = r.plain) ∧
    ∃ s, Standing.of? (j.emitted p) = some s ∧
      (p.cancelled = false → p.grouping = .stopped → s = .outside) := by
  obtain ⟨rs, ds, lost, cur, hp, hu⟩ := run.reaches
  have fresh : ∀ r ∈ rs, r.IsFresh := fun r hr => hp.fresh r (by simp [hr])
  obtain ⟨s, hs, hc⟩ := hp.grouped.standing fresh
  refine ⟨fun e he => ?_, ?_⟩
  · have hm : e ∈ ds.map Record.entry := hp.emitted ▸ List.mem_append_left _ he
    obtain ⟨d, hd, rfl⟩ := List.mem_map.mp hm
    have hr : d.plain ∈ rs.map Record.plain :=
      hp.grouped.decided_plain ▸ List.mem_append_left _ (List.mem_map_of_mem hd)
    obtain ⟨r, hr, hrd⟩ := List.mem_map.mp hr
    exact ⟨r, fresh r hr, hrd.symm⟩
  -- What was decided and lost would have come last, so what precedes it is well formed too.
  · rw [← hp.emitted] at hs
    obtain ⟨t, ht⟩ := Standing.of?_of_append hs
    refine ⟨t, ht, fun undisturbed stopped => ?_⟩
    obtain ⟨rfl, rfl, -, -⟩ := (hu undisturbed).exhausted stopped
    rw [List.map_nil, List.append_nil, ht, Option.some.injEq] at hs
    exact hs.trans hc

/-- The run of two lines that come apart ends outside of groups. -/
theorem Run.standing_emitted_apart :
    ∃ j, Run {} "web" true j apart ∧
      (∀ e ∈ j.emitted apart, ∃ r : Record, r.IsFresh ∧ e.plain = r.plain) ∧
      ∃ s, Standing.of? (j.emitted apart) = some s ∧
        (apart.cancelled = false → apart.grouping = .stopped → s = .outside) := by
  obtain ⟨j, run⟩ := run_apart
  exact ⟨j, run, run.standing_emitted⟩

end Pipeline

end ContainerWatch.Log
