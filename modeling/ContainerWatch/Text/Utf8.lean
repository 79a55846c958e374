/-!
UTF-8. Bytes that are no UTF-8 decode to U+FFFD, one for each longest beginning of a well-formed
sequence that is cut off, and one for each byte that begins none.
-/

namespace ContainerWatch.Utf8

def encode (s : String) : List UInt8 := s.toList.flatMap String.utf8EncodeChar

/-- A sequence that has begun: how many bytes are missing, the bounds of the next, and the bits so
far. -/
structure Pending where
  missing : Nat
  low : UInt8 := 0x80
  high : UInt8 := 0xBF
  bits : Nat
deriving DecidableEq, Repr

def replacement : Char := '\uFFFD'

def start (b : UInt8) : List Char × Option Pending :=
  let n := b.toNat
  if n < 0x80 then ([Char.ofNat n], none)
  else if n < 0xC2 then ([replacement], none)
  else if n < 0xE0 then ([], some ⟨1, 0x80, 0xBF, n - 0xC0⟩)
  else if n = 0xE0 then ([], some ⟨2, 0xA0, 0xBF, 0⟩)
  else if n = 0xED then ([], some ⟨2, 0x80, 0x9F, 0xD⟩)
  else if n < 0xF0 then ([], some ⟨2, 0x80, 0xBF, n - 0xE0⟩)
  else if n = 0xF0 then ([], some ⟨3, 0x90, 0xBF, 0⟩)
  else if n < 0xF4 then ([], some ⟨3, 0x80, 0xBF, n - 0xF0⟩)
  else if n = 0xF4 then ([], some ⟨3, 0x80, 0x8F, 4⟩)
  else ([replacement], none)

/-- The characters that the next byte completes, and the sequence that is open after it. -/
def step : Option Pending → UInt8 → List Char × Option Pending
  | none, b => start b
  | some p, b =>
    if p.low ≤ b ∧ b ≤ p.high then
      let bits := p.bits * 64 + (b.toNat - 0x80)
      if p.missing ≤ 1 then ([Char.ofNat bits], none)
      else ([], some ⟨p.missing - 1, 0x80, 0xBF, bits⟩)
    else
      let r := start b
      (replacement :: r.1, r.2)

def decodeFrom : Option Pending → List UInt8 → List Char
  | none, [] => []
  | some _, [] => [replacement]
  | s, b :: rest => (step s b).1 ++ decodeFrom (step s b).2 rest

def decode (bytes : List UInt8) : String := String.ofList (decodeFrom none bytes)

end ContainerWatch.Utf8
