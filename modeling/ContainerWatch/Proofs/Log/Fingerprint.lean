import ContainerWatch.Log.Fingerprint

/-!
Fingerprints keep apart what differs little. A round loses nothing of the fingerprint before it, as
its factor is odd and so has an inverse among 32-bit numbers, and nothing of its byte. So what
follows two beginnings never brings their fingerprints together, nor ever takes them apart.
-/

namespace ContainerWatch.Log.Fingerprint

variable {g h : UInt32} {x y b : UInt8}

/-- The factor that takes the factor of a round back. -/
def inverse : UInt32 := 0x359C449B

theorem prime_mul_inverse : prime * inverse = 1 := by decide

/-- Takes a round back, given its byte. -/
def unround (h : UInt32) (b : UInt8) : UInt32 := (h * inverse) ^^^ b.toUInt32

theorem mul_prime_mul_inverse (h : UInt32) : h * prime * inverse = h := by
  rw [UInt32.mul_assoc, prime_mul_inverse, UInt32.mul_one]

theorem unround_round (h : UInt32) (b : UInt8) : unround (round h b) b = h := by
  rw [unround, round, mul_prime_mul_inverse, UInt32.xor_assoc, UInt32.xor_self, UInt32.xor_zero]

theorem round_left_inj : round g b = round h b ↔ g = h := by
  constructor
  · intro same
    rw [← unround_round g b, same, unround_round]
  · exact fun same => congrArg (round · b) same

theorem round_right_inj : round h x = round h y ↔ x = y := by
  constructor
  · intro same
    have mixed : h ^^^ x.toUInt32 = h ^^^ y.toUInt32 := by
      rw [← mul_prime_mul_inverse (h ^^^ x.toUInt32), ← mul_prime_mul_inverse (h ^^^ y.toUInt32)]
      exact congrArg (· * inverse) same
    exact UInt8.toUInt32_inj.mp ((UInt32.xor_right_inj h).mp mixed)
  · exact fun same => congrArg (round h) same

theorem foldl_round_inj (bytes : List UInt8) :
    bytes.foldl round g = bytes.foldl round h ↔ g = h := by
  induction bytes generalizing g h with
  | nil => rfl
  | cons b bytes ih => rw [List.foldl_cons, List.foldl_cons, ih, round_left_inj]

theorem ofBytes_append_inj (u v b : List UInt8) :
    ofBytes (u ++ b) = ofBytes (v ++ b) ↔ ofBytes u = ofBytes v := by
  rw [ofBytes_append, ofBytes_append, foldl_round_inj]

/-- Lines with the same end have the same fingerprint exactly if their beginnings have. So lines
that differ in one byte only have different ones. -/
theorem ofBytes_apart :
    (∀ u v b : List UInt8, ofBytes (u ++ b) = ofBytes (v ++ b) ↔ ofBytes u = ofBytes v) ∧
    ∀ (a b : List UInt8) (x y : UInt8),
      ofBytes (a ++ [x] ++ b) = ofBytes (a ++ [y] ++ b) ↔ x = y := by
  refine ⟨ofBytes_append_inj, fun a b x y => ?_⟩
  calc ofBytes (a ++ [x] ++ b) = ofBytes (a ++ [y] ++ b)
      ↔ ofBytes (a ++ [x]) = ofBytes (a ++ [y]) := ofBytes_append_inj _ _ b
    _ ↔ round (ofBytes a) x = round (ofBytes a) y := by
      rw [ofBytes_append, ofBytes_append]
      rfl
    _ ↔ x = y := round_right_inj

end ContainerWatch.Log.Fingerprint
