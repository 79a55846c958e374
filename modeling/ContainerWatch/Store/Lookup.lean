import ContainerWatch.Store.Basic

/-!
Looking up one container. The first look at an entry that only a listing has filled in takes an
inspect; whoever completes the entry announces it as an update.
-/

namespace ContainerWatch

inductive Lookup
  | missing
  | loaded (c : Container)
  | unloaded
deriving Repr

structure Loaded where
  store : Store
  answer : Except StoreFault Container
  update : Option ContainerEvent := none

namespace Store

/-- Looks an identifier up; the filter of the caller must let the container through. -/
def lookUp (s : Store) (id : String) (filter : LabelFilter) : Lookup :=
  match s.tracked.get? id with
  | some c =>
    if filter.accepts c.labels then if c.fullyLoaded then .loaded c else .unloaded
    else .missing
  | none => .missing

def updateOf (s : Store) (id : String) (c : Container) : ContainerEvent :=
  { name := "update", actorId := id, host := s.host.id, container := some c }

/-- The inspect of a look-up was answered. If the entry was completed meanwhile, that one is the
answer. -/
def load (s : Store) (id : String) : Except HostFault Container → Loaded
  | .ok c =>
    match s.replaceLoaded? c with
    | some (t, c) => { store := t, answer := .ok c, update := some (s.updateOf id c) }
    | none =>
      match s.tracked.get? id with
      | some c => { store := s, answer := .ok c }
      | none => { store := s, answer := .error (.containerNotFound id) }
  | .error (.notFound _) =>
    { store := s.note .containerVanished, answer := .error (.containerNotFound id) }
  | .error fault => { store := s, answer := .error (.ofHost fault) }

def named? (s : Store) (name : String) : Option String :=
  (s.tracked.values.find? fun c => c.name = name).map (·.id)

def wantedName (text : String) : String := Text.trimStart '/' text

end Store

end ContainerWatch
