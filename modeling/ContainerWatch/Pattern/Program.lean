import ContainerWatch.Pattern.Basic

/-!
Programs for patterns. A program is built from its end: each part is given the address that follows
it. A choice lists the branch to be preferred first, so that trying branches in order finds the
match that the pattern prefers.
-/

namespace ContainerWatch.Pattern

inductive Instr
  | accept
  | take (s : CharSet) (next : Nat)
  | check (l : Look) (next : Nat)
  | choose (first second : Nat)

abbrev Code := Array Instr

/-- Adds an instruction; the result is its address. -/
def Code.emit (code : Code) (i : Instr) : Nat × Code := (code.size, code.push i)

def choice (greedy : Bool) (on out : Nat) : Instr :=
  if greedy then .choose on out else .choose out on

def times {σ : Type} (f : σ → σ) : Nat → σ → σ
  | 0, s => s
  | n + 1, s => times f n (f s)

/-- A loop: the body, given by its compiler, leads to a choice between itself and `next`. The result
holds the address of the body and of the choice. -/
def loop (body : Nat × Code → Nat × Code) (greedy : Bool) (next : Nat) (code : Code) :
    Nat × Nat × Code :=
  let (hub, code) := code.emit .accept
  let (start, code) := body (hub, code)
  (start, hub, code.set! hub (choice greedy start next))

def optional (body : Nat × Code → Nat × Code) (greedy : Bool) (next : Nat) (s : Nat × Code) :
    Nat × Code :=
  let (start, code) := body s
  code.emit (choice greedy start next)

/-- Compiles a pattern that leads to the address `next`; the result holds its start address. -/
def compileTo : Pattern → Nat × Code → Nat × Code
  | empty, s => s
  | set cs, (next, code) => code.emit (.take cs next)
  | look l, (next, code) => code.emit (.check l next)
  | seq p q, s => p.compileTo (q.compileTo s)
  | alt p q, (next, code) =>
    let (b, code) := q.compileTo (next, code)
    let (a, code) := p.compileTo (next, code)
    code.emit (.choose a b)
  | rep p least (some most) greedy, (next, code) =>
    times (fun s => p.compileTo s) least
      (times (optional (fun s => p.compileTo s) greedy next) (most - least) (next, code))
  | rep p 0 none greedy, (next, code) =>
    let (start, hub, code) := loop (fun s => p.compileTo s) greedy next code
    if p.nullable then code.emit (choice greedy start next) else (hub, code)
  | rep p (least + 1) none greedy, (next, code) =>
    let (start, _, code) := loop (fun s => p.compileTo s) greedy next code
    times (fun s => p.compileTo s) least (start, code)

structure Program where
  start : Nat
  code : Code
deriving Inhabited

def compile (p : Pattern) : Program :=
  let (start, code) := p.compileTo (0, #[.accept])
  ⟨start, code⟩

def weight : Pattern → Nat
  | empty => 0
  | set s => 24 + 8 * s.ranges.size + (if s.isAscii then 0 else 56 * s.ranges.size)
  | look _ => 24
  | seq p q => p.weight + q.weight
  | alt p q => p.weight + q.weight + 24
  | rep p least most _ =>
    match most with
    | some n => p.weight * max least n + 24 * (n - least)
    | none => p.weight * max 1 least + 24

def weightLimit : Nat := 10 * 1024 * 1024

end ContainerWatch.Pattern
