/-!
Fingerprints of lines: the 32-bit FNV-1a hash, an exclusive or and a multiplication per byte.
-/

namespace ContainerWatch.Log.Fingerprint

def basis : UInt32 := 0x811C9DC5

def prime : UInt32 := 0x01000193

def round (h : UInt32) (b : UInt8) : UInt32 := (h ^^^ b.toUInt32) * prime

def ofBytes (bytes : List UInt8) : UInt32 := bytes.foldl round basis

@[simp] theorem ofBytes_append (a b : List UInt8) :
    ofBytes (a ++ b) = b.foldl round (ofBytes a) := by
  simp [ofBytes]

example : ofBytes [] = 0x811C9DC5 ∧ ofBytes [0x61] = 0xE40C292C := by decide

end ContainerWatch.Log.Fingerprint
