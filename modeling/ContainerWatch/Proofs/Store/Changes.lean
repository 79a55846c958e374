import ContainerWatch.Proofs.Store.Replay

/-!
Changes of a host, each told by an event. If the events that wait lead to what the host had before a
change, then with the event of the change they lead to what it has afterwards.
-/

namespace ContainerWatch

/-! ### Hosts -/

namespace ScriptedHost

def find? (h : ScriptedHost) (id : String) : Option Container :=
  h.containers.find? fun c => c.id = id

theorem details_eq (h : ScriptedHost) (id : String) : h.details id = answer (h.find? id) id := by
  unfold details find? answer
  cases h.containers.find? fun c => c.id = id <;> rfl

/-- The containers have identifiers of their own, and know their host. -/
structure Proper (h : ScriptedHost) : Prop where
  distinct : (h.containers.map (·.id)).Nodup
  own : ∀ c ∈ h.containers, c.host = h.host.id

theorem find?_of_mem {h : ScriptedHost} (proper : h.Proper) {c : Container}
    (known : c ∈ h.containers) : h.find? c.id = some c := by
  have hd := proper.distinct
  unfold find?
  revert known hd
  induction h.containers with
  | nil => simp
  | cons d rest ih =>
    intro known hd
    obtain ⟨hn, hr⟩ := List.nodup_cons.mp hd
    rcases List.mem_cons.mp known with rfl | hm
    · simp
    · have hne : d.id ≠ c.id := fun he => hn (List.mem_map.mpr ⟨c, hm, he.symm⟩)
      simpa [hne] using ih hm hr

theorem mem_of_find? {h : ScriptedHost} {id : String} {c : Container}
    (found : h.find? id = some c) : c ∈ h.containers ∧ c.id = id :=
  ⟨List.mem_of_find?_eq_some found, by simpa using List.find?_some found⟩

theorem find?_remove (h : ScriptedHost) (gone id : String) :
    (h.remove gone).find? id = if id = gone then none else h.find? id := by
  unfold find? remove
  induction h.containers with
  | nil => simp
  | cons d rest ih =>
    by_cases hg : d.id = gone
    · by_cases hi : id = gone
      · simp [hg, hi]
      · simpa [hg, hi, Ne.symm hi] using ih
    · by_cases hd : d.id = id
      · have hi : id ≠ gone := hd ▸ hg
        simp [hi, hd]
      · simpa [hg, hd] using ih

theorem find?_put (h : ScriptedHost) (c : Container) (id : String) :
    (h.put c).find? id = if id = c.id then some { c with host := h.host.id } else h.find? id := by
  have hr := h.find?_remove c.id id
  unfold find? remove at hr
  unfold find? put
  simp only [List.find?_append, hr]
  by_cases hi : id = c.id
  · simp [hi]
  · simp [hi, Ne.symm hi]

theorem proper_put {h : ScriptedHost} (proper : h.Proper) (c : Container) : (h.put c).Proper where
  distinct := by
    have ho : ((h.containers.filter fun d => d.id ≠ c.id).map (·.id)).Nodup :=
      proper.distinct.sublist (List.Sublist.map _ List.filter_sublist)
    have hn : c.id ∉ (h.containers.filter fun d => d.id ≠ c.id).map (·.id) := by simp
    simp only [put, List.map_append, List.map_cons, List.map_nil]
    refine List.nodup_append.mpr ⟨ho, by simp, fun k hk l hl => ?_⟩
    rintro rfl
    exact hn (List.mem_singleton.mp hl ▸ hk)
  own d hd := by
    rcases List.mem_append.mp hd with hm | hm
    · exact proper.own d (List.mem_filter.mp hm).1
    · obtain rfl := List.mem_singleton.mp hm
      rfl

theorem proper_remove {h : ScriptedHost} (proper : h.Proper) (id : String) :
    (h.remove id).Proper where
  distinct := proper.distinct.sublist (List.Sublist.map _ List.filter_sublist)
  own d hd := proper.own d (List.mem_filter.mp hd).1

end ScriptedHost

theorem wantedName_of_head? {name : String} (plain : name.toList.head? ≠ some '/') :
    Store.wantedName name = name := by
  have hd : name.toList.dropWhile (· == '/') = name.toList := by
    cases hn : name.toList with
    | nil => rfl
    | cons c cs =>
      have hc : c ≠ '/' := by simpa [hn] using plain
      simp [hc]
  rw [Store.wantedName, Text.trimStart, hd, String.ofList_toList]

theorem wantedName_slash {name : String} (plain : name.toList.head? ≠ some '/') :
    Store.wantedName ("/" ++ name) = name := by
  have hd : Store.wantedName ("/" ++ name) = Store.wantedName name := by
    simp [Store.wantedName, Text.trimStart]
  rw [hd, wantedName_of_head? plain]

/-! ### Changes -/

/-- A change of a host, with the event that tells of it. -/
inductive Change (h : ScriptedHost) (e : ContainerEvent) : ScriptedHost → Prop
  | create (c : Container) (new : h.find? c.id = none) (named : e.name = "create")
    (actor : e.actorId = c.id) : Change h e (h.put c)
  | start {c} (known : c ∈ h.containers) (named : e.name = "start") (actor : e.actorId = c.id) :
    Change h e (h.put { c with state := .running })
  | die {c} (known : c ∈ h.containers) (named : e.name = "die") (actor : e.actorId = c.id) :
    Change h e (h.put { c with state := .exited })
  | destroy (id : String) (named : e.name = "destroy") (actor : e.actorId = id) :
    Change h e (h.remove id)
  | rename {c} (name : String) (known : c ∈ h.containers) (plain : name.toList.head? ≠ some '/')
    (named : e.name = "rename") (actor : e.actorId = c.id)
    (told : ∀ n, e.attributes.get? nameAttribute = some n → n = name ∨ n = "/" ++ name) :
    Change h e (h.put { c with name })
  | health {c} (status : Health) (known : c ∈ h.containers)
    (named : e.name = "health_status: " ++ status.name) (actor : e.actorId = c.id) :
    Change h e (h.put { c with health := some status })
  | update {c} (name image command : String) (state : ContainerState) (health : Option Health)
    (tty : Bool) (known : c ∈ h.containers) (named : e.name = "update") (actor : e.actorId = c.id) :
    Change h e (h.put { c with name, image, command, state, health, tty })

namespace Change

variable {h h' : ScriptedHost} {e : ContainerEvent}

theorem listingFails (change : Change h e h') : h'.listingFails = h.listingFails := by
  cases change <;> rfl

theorem proper (change : Change h e h') (ok : h.Proper) : h'.Proper := by
  cases change with
  | destroy id named actor => exact ScriptedHost.proper_remove ok id
  | _ => exact ScriptedHost.proper_put ok _

theorem find?_of_ne (change : Change h e h') {id : String} (other : id ≠ e.actorId) :
    h'.find? id = h.find? id := by
  have put : ∀ c : Container, e.actorId = c.id → (h.put c).find? id = h.find? id := by
    intro c actor
    rw [h.find?_put, if_neg (actor ▸ other)]
  cases change with
  | create c new named actor => exact put _ actor
  | start known named actor => exact put _ actor
  | die known named actor => exact put _ actor
  | destroy gone named actor => rw [h.find?_remove, if_neg (actor ▸ other)]
  | rename name known plain named actor told => exact put _ actor
  | health status known named actor => exact put _ actor
  | update name image command state health tty known named actor => exact put _ actor

theorem kind_health {status : Health} (named : e.name = "health_status: " ++ status.name) :
    e.kind = .health status := by
  rw [ContainerEvent.kind, named]
  cases status <;> decide

theorem replay_put {settings : StoreSettings} {es : List ContainerEvent} {old : Option Container}
    {c d : Container} (ok : h.Proper) (known : c ∈ h.containers) (actor : e.actorId = c.id)
    (same : d.id = c.id)
    (writes : AlikeEntries [] (replay settings (some c) es old) (shown settings (some c)) →
      AlikeEntries [] (replay settings (some { d with host := h.host.id }) (es ++ [e]) old)
        (shown settings (some { d with host := h.host.id })))
    (led : AlikeEntries [] (replay settings (h.find? e.actorId) es old)
      (shown settings (h.find? e.actorId))) :
    AlikeEntries [] (replay settings ((h.put d).find? e.actorId) (es ++ [e]) old)
      (shown settings ((h.put d).find? e.actorId)) := by
  have before : h.find? e.actorId = some c := actor ▸ ScriptedHost.find?_of_mem ok known
  have after : (h.put d).find? e.actorId = some { d with host := h.host.id } := by
    rw [h.find?_put, if_pos (actor.trans same.symm)]
  rw [before] at led
  rw [after]
  exact writes led

/-- If the events that wait led to what the host had, they and the one of a change lead to what it
has now. -/
theorem replayed {settings : StoreSettings} {es : List ContainerEvent} {old : Option Container}
    (change : Change h e h') (ok : h.Proper)
    (led : AlikeEntries [] (replay settings (h.find? e.actorId) es old)
      (shown settings (h.find? e.actorId))) :
    AlikeEntries [] (replay settings (h'.find? e.actorId) (es ++ [e]) old)
      (shown settings (h'.find? e.actorId)) := by
  cases change with
  | create c new named actor =>
    have now : (h.put c).find? e.actorId = some { c with host := h.host.id } := by
      rw [h.find?_put, if_pos actor]
    rw [actor, new] at led
    rw [now]
    exact replay_create (by rw [ContainerEvent.kind, named]; rfl) led
  | @start c known named actor =>
    refine replay_put ok known actor rfl (replay_start ?_ ?_) led
    · rw [ContainerEvent.kind, named]
      rfl
    · exact { Container.Alike.refl [.state] c with
        host := ok.own c known, state := Or.inl (by simp) }
  | @die c known named actor =>
    refine replay_put ok known actor rfl (replay_die ?_ ?_ rfl) led
    · rw [ContainerEvent.kind, named]
      rfl
    · exact { Container.Alike.refl [.state] c with
        host := ok.own c known, state := Or.inl (by simp) }
  | destroy gone named actor =>
    rw [h.find?_remove, if_pos actor]
    exact replay_destroy (by rw [ContainerEvent.kind, named]; rfl)
  | @rename c name known plain named actor told =>
    refine replay_put ok known actor rfl (replay_rename ?_ ?_ ?_) led
    · rw [ContainerEvent.kind, named]
      rfl
    · exact { Container.Alike.refl [.name] c with
        host := ok.own c known, name := Or.inl (by simp) }
    · intro n hn
      rcases told n hn with rfl | rfl
      · exact wantedName_of_head? plain
      · exact wantedName_slash plain
  | @health c status known named actor =>
    refine replay_put ok known actor rfl (replay_health (kind_health named) ?_ rfl) led
    exact { Container.Alike.refl [.health] c with
      host := ok.own c known, health := Or.inl (by simp) }
  | @update c name image command state health tty known named actor =>
    refine replay_put ok known actor rfl (replay_update ?_ ?_) led
    · rw [ContainerEvent.kind, named]
      rfl
    · exact { Container.Alike.refl [.name, .image, .command, .state, .health, .tty] c with
        host := ok.own c known, name := Or.inl (by simp), image := Or.inl (by simp)
        command := Or.inl (by simp), state := Or.inl (by simp), health := Or.inl (by simp)
        tty := Or.inl (by simp) }

end Change

end ContainerWatch
