import ContainerWatch.Proofs.Store.Failing
import ContainerWatch.Proofs.Store.Resync
import ContainerWatch.Proofs.Text.ByteOrder

/-!
Listings of the table. Whatever a host lists, answers and sends, an entry stands under the identifier
of its container. So a listing has each container of the table once that passes, by the bytes of
name and identifier, and nothing is left for it to choose: it is the same in whatever order the table
is gone through.
-/

namespace ContainerWatch

namespace Container

/-- The name of a container comes first by its bytes or, with one name, its identifier does. -/
def Precedes (a b : Container) : Prop :=
  Utf8.encode a.name < Utf8.encode b.name ∨
    a.name = b.name ∧ Utf8.encode a.id < Utf8.encode b.id

variable {a b c : Container}

theorem before_iff : a.before b = true ↔ a.name < b.name ∨ a.name = b.name ∧ a.id ≤ b.id := by
  simp [before]

theorem precedes_iff : a.Precedes b ↔ a.before b = true ∧ ¬ (a.name = b.name ∧ a.id = b.id) := by
  rw [Precedes, Utf8.encode_lt_iff, Utf8.encode_lt_iff, before_iff]
  constructor
  · rintro (less | ⟨same, less⟩)
    · refine ⟨.inl less, fun h => ?_⟩
      rw [h.1] at less
      exact String.lt_irrefl _ less
    · refine ⟨.inr ⟨same, Std.le_of_lt less⟩, fun h => ?_⟩
      rw [h.2] at less
      exact String.lt_irrefl _ less
  · rintro ⟨less | ⟨same, le⟩, apart⟩
    · exact .inl less
    · exact .inr ⟨same, Std.lt_of_le_of_ne le fun h => apart ⟨same, h⟩⟩

theorem before_trans (h : a.before b = true) (h' : b.before c = true) : a.before c = true := by
  rw [before_iff] at *
  obtain less | ⟨same, le⟩ := h
  · obtain less' | ⟨same', -⟩ := h'
    · exact .inl (String.lt_trans less less')
    · exact .inl (same' ▸ less)
  · obtain less' | ⟨same', le'⟩ := h'
    · exact .inl (same ▸ less')
    · exact .inr ⟨same.trans same', String.le_trans le le'⟩

theorem before_total (a b : Container) : (a.before b || b.before a) = true := by
  rw [Bool.or_eq_true, before_iff, before_iff]
  obtain less | same | more := Std.lt_trichotomy a.name b.name
  · exact .inl (.inl less)
  · exact (String.le_total a.id b.id).imp (fun le => .inr ⟨same, le⟩)
      fun le => .inr ⟨same.symm, le⟩
  · exact .inr (.inl more)

theorem Precedes.asymm (h : a.Precedes b) : ¬ b.Precedes a := by
  rw [Precedes, Utf8.encode_lt_iff, Utf8.encode_lt_iff] at *
  rintro (more | ⟨same, more⟩)
  · obtain less | ⟨same, -⟩ := h
    · exact String.lt_asymm less more
    · exact String.lt_irrefl _ (same ▸ more)
  · obtain less | ⟨-, less⟩ := h
    · exact String.lt_irrefl _ (same ▸ less)
    · exact String.lt_asymm less more

end Container

namespace Store

/-- A table as it may come about, whatever a host lists, answers and sends, and in any order. -/
inductive Held : Entries Container → Prop
  | empty : Held []
  | deed (d : Deed) {s : Store} (h : Held s.tracked) : Held (d.table s)

/-- What a listing of a table is to be: each container that passes, once, in order. -/
structure Lists (table : Entries Container) (filter : LabelFilter) (cs : List Container) : Prop where
  members : ∀ c, c ∈ cs ↔ table.get? c.id = some c ∧ filter.accepts c.labels = true
  once : (cs.map (·.id)).Nodup
  ordered : cs.Pairwise Container.Precedes

variable {s t : Store} {table : Entries Container} {filter : LabelFilter} {cs ds : List Container}

theorem Held.tidy (h : Held table) : Tidy table := by
  induction h with
  | empty => exact ⟨List.nodup_nil, by simp⟩
  | deed d h ih => exact Deed.tidy ih

theorem Tidy.perm {table' : Entries Container} (h : Tidy table) (same : table'.Perm table) :
    Tidy table' where
  nodup := (same.map Prod.fst).nodup_iff.mpr h.nodup
  keyed id c known := h.keyed id c
    (Entries.get?_of_mem h.nodup (same.subset (Entries.mem_of_get? known)))

theorem mem_values_iff (h : Tidy table) {c : Container} :
    c ∈ table.values ↔ table.get? c.id = some c := by
  constructor
  · intro held
    obtain ⟨⟨id, d⟩, entry, rfl⟩ := List.mem_map.mp held
    have known := Entries.get?_of_mem h.nodup entry
    rwa [← h.keyed id d known] at known
  · exact fun known => List.mem_map_of_mem (f := Prod.snd) (Entries.mem_of_get? known)

theorem lists_listed (h : Tidy s.tracked) (filter : LabelFilter) :
    Lists s.tracked filter (s.listed filter) := by
  have passing : (s.listed filter).Perm (s.tracked.values.filter fun c => filter.accepts c.labels) :=
    List.mergeSort_perm _ _
  have ids : (s.tracked.values.map (·.id)).Nodup := h.ids_values ▸ h.nodup
  have once : ((s.listed filter).map (·.id)).Nodup :=
    (passing.map _).nodup_iff.mpr (ids.sublist (List.Sublist.map _ List.filter_sublist))
  refine ⟨fun c => ?_, once, ?_⟩
  · rw [passing.mem_iff, List.mem_filter, mem_values_iff h]
  · have sorted : (s.listed filter).Pairwise fun a b => a.before b = true :=
      @List.pairwise_mergeSort _ Container.before (fun _ _ _ => Container.before_trans)
        Container.before_total _
    refine (sorted.and (List.pairwise_map.mp once)).imp fun {a b} h => ?_
    exact Container.precedes_iff.mpr ⟨h.1, fun same => h.2 same.2⟩

theorem Lists.nodup (h : Lists table filter cs) : cs.Nodup :=
  (List.pairwise_map.mp h.once).imp fun apart same => apart (congrArg (·.id) same)

/-- There is one listing of a table, and it does not depend on the order of the entries. -/
theorem Lists.unique {table' : Entries Container} (h : Lists table filter cs)
    (h' : Lists table' filter ds) (tidy : Tidy table) (same : table'.Perm table) : ds = cs := by
  have tidy' := tidy.perm same
  have members : ∀ c, c ∈ ds ↔ c ∈ cs := fun c => by
    rw [h.members, h'.members, ← mem_values_iff tidy, ← mem_values_iff tidy']
    exact and_congr_left fun _ => (same.map Prod.snd).mem_iff
  have perm : ds.Perm cs := (List.perm_ext_iff_of_nodup h'.nodup h.nodup).mpr members
  exact perm.eq_of_pairwise (fun a b _ _ first second => absurd second first.asymm) h'.ordered
    h.ordered

end Store

namespace World

variable {settings : StoreSettings} {host : ScriptedHost} {w v : World}
  {hs : List (World × Task)} {ds : List Deed} {i : Nat} {filter : LabelFilter}

theorem Path.held (path : Path (initial settings host) ds w) : Store.Held w.store.tracked := by
  induction path with
  | nil => exact .empty
  | outside out h ih => exact out.tracked ▸ ih
  | step t moved h ih => exact (step_of_step? moved).tracked ▸ ih.deed _

/-! ### Steps of a call -/

variable {r : StoreRead}

theorem step_entering (known : w.reads[i]? = some r) (phase : r.phase = .entering)
    (connected : w.store.connected = true) :
    w.step? (.read i) = some (w.continueRead i { r with phase := .connected }) := by
  simp only [step?, stepRead?, known, phase, enter_of_connected r connected]

theorem step_connected (known : w.reads[i]? = some r) (phase : r.phase = .connected) :
    w.step? (.read i) = some (w.pursue i r) := by
  simp only [step?, stepRead?, known, phase]

theorem eq_listed_of_step {phase : ReadPhase} {cs : List Container}
    (known : w.reads[i]? = some { errand := .list filter, phase })
    (moved : w.step? (.read i) = some v)
    (ended : v.phaseOf i = .done (.ok (.containers cs))) : cs = w.store.listed filter := by
  have inside := (List.getElem?_eq_some_iff.mp known).1
  simp only [step?, stepRead?, known] at moved
  cases phase with
  | connected =>
    obtain rfl := Option.some.inj moved
    simpa [pursue, finishRead, continueRead, phaseOf, inside] using ended.symm
  | entering =>
    obtain rfl := Option.some.inj moved
    unfold enter at ended
    split at ended
    · simp [continueRead, phaseOf, inside] at ended
    · simp only at ended
      split at ended
      · simp [finishRead, continueRead, phaseOf, inside] at ended
      · simp [continueRead, phaseOf, inside] at ended
  | syncing sync =>
    simp only at moved
    split at moved
    · obtain rfl := Option.some.inj moved
      simp [continueRead, phaseOf, inside] at ended
    · split at moved
      · obtain rfl := Option.some.inj moved
        simp [continueRead, phaseOf, inside] at ended
      · simp at moved
  | inspecting id due =>
    simp only at moved
    split at moved
    · obtain rfl := Option.some.inj moved
      unfold load at ended
      simp only at ended
      split at ended
      · simp [finishRead, continueRead, phaseOf, inside] at ended
      · simp [miss, finishRead, continueRead, phaseOf, inside] at ended
      · simp [finishRead, continueRead, phaseOf, inside] at ended
    · simp at moved
  | done result => simp at moved

theorem exists_list (known : w.reads[i]? = some { errand := .list filter })
    (connected : w.store.connected = true) :
    ∃ u v, w.step? (.read i) = some u ∧ u.step? (.read i) = some v ∧
      v.phaseOf i = .done (.ok (.containers (w.store.listed filter))) := by
  have begun : (w.continueRead i { errand := .list filter, phase := .connected }).reads[i]? =
      some { errand := .list filter, phase := .connected } := getElem?_continueRead known
  exact ⟨_, _, step_entering known rfl connected, step_connected begun rfl,
    phaseOf_continueRead begun _⟩

/-- On every course, and under any other host, the entries of the table stand under the identifiers
of their containers. A call for a listing of a connected store succeeds; and whenever such a call
succeeds, it brings home the containers of the table that pass, each once and in order, as it would
in whatever order the entries stood. -/
theorem listing_canonical :
    (∀ settings host hs w, Course (initial settings host) hs w → Store.Held w.store.tracked) ∧
    ∀ w : World, Store.Held w.store.tracked →
      (∀ id c, w.store.tracked.get? id = some c → c.id = id) ∧
      ∀ i filter,
        (w.store.connected = true → w.reads[i]? = some { errand := .list filter } →
          ∃ u v cs, w.step? (.read i) = some u ∧ u.step? (.read i) = some v ∧
            v.phaseOf i = .done (.ok (.containers cs)) ∧ Store.Lists w.store.tracked filter cs) ∧
        ∀ phase v cs, w.reads[i]? = some { errand := .list filter, phase } →
          w.step? (.read i) = some v → v.phaseOf i = .done (.ok (.containers cs)) →
          Store.Lists w.store.tracked filter cs ∧
          ∀ t : Store, t.tracked.Perm w.store.tracked → t.listed filter = cs := by
  refine ⟨fun settings host hs w course => course.path.held, fun w held => ?_⟩
  have tidy := held.tidy
  refine ⟨tidy.keyed, fun i filter => ⟨fun connected known => ?_, ?_⟩⟩
  · obtain ⟨u, v, first, second, ended⟩ := exists_list known connected
    exact ⟨u, v, _, first, second, ended, Store.lists_listed tidy filter⟩
  · intro phase v cs known moved ended
    obtain rfl := eq_listed_of_step known moved ended
    have lists := Store.lists_listed tidy filter
    refine ⟨lists, fun t same => ?_⟩
    exact lists.unique (Store.lists_listed (tidy.perm same) filter) tidy same

def twinHost : ScriptedHost :=
  (((ScriptedHost.named "fake").put { id := "ccc", name := "é" }).put
    { id := "bbb", name := "web" }).put { id := "aaa", name := "web", state := .running }

def twinsAsked : World := { World.start {} twinHost with reads := [{ errand := .list .all }] }

theorem listing_canonical_twins :
    (∃ hs, Course (initial {} twinHost) hs twinsAsked) ∧ Store.Held twinsAsked.store.tracked ∧
      twinsAsked.store.connected = true ∧
      ∃ u v cs, twinsAsked.step? (.read 0) = some u ∧ u.step? (.read 0) = some v ∧
        v.phaseOf 0 = .done (.ok (.containers cs)) ∧
        Store.Lists twinsAsked.store.tracked .all cs := by
  obtain ⟨_, started⟩ := Course.start {} twinHost
  have asked : Course (initial {} twinHost) _ twinsAsked :=
    (started.happens (.leave (List.nil_sublist _))).happens (.begin [.list .all])
  have held := listing_canonical.1 _ _ _ _ asked
  have connected : twinsAsked.store.connected = true := by decide +kernel
  have called := ((listing_canonical.2 twinsAsked held).2 0 .all).1 connected rfl
  exact ⟨⟨_, asked⟩, held, connected, called⟩

end World

end ContainerWatch
