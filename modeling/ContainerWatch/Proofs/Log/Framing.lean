import ContainerWatch.Proofs.Log.Multiplexed
import ContainerWatch.Proofs.Text.Utf8

/-!
Framed payloads come back. The frames that are written for payloads, one after the other, are read
as those payloads on their streams, in order and with nothing left over, however the bytes are cut
on their way and whatever the payloads look like.
-/

namespace ContainerWatch.Log

namespace Frame

theorem bigEndian_length {n : Nat} (small : n < UInt32.size) :
    bigEndian (n / 0x1000000).toUInt8 (n / 0x10000).toUInt8 (n / 0x100).toUInt8 n.toUInt8 = n := by
  simp only [bigEndian, Nat.toUInt8, UInt8.toNat_ofNat', UInt32.size] at small ⊢
  omega

/-- Bytes that begin with a payload's frame begin with this one as a whole. -/
theorem whole?_encode (stream : Stream) {payload : List UInt8}
    (small : payload.length < UInt32.size) (rest : List UInt8) :
    whole? (encode stream payload ++ rest) = some (ofPayload stream payload, rest) := by
  have size := bigEndian_length small
  simp [encode, lengthBytes, whole?, size]

def encodeAll (payloads : List (Stream × List UInt8)) : List UInt8 :=
  payloads.flatMap fun p => encode p.1 p.2

theorem split_encodeAll {payloads : List (Stream × List UInt8)}
    (small : ∀ p ∈ payloads, p.2.length < UInt32.size) :
    split (encodeAll payloads) = (payloads.map fun p => ofPayload p.1 p.2, []) := by
  induction payloads with
  | nil => exact split_of_none rfl
  | cons p payloads ih =>
    have first : p.2.length < UInt32.size := small p (by simp)
    have others := ih fun q hq => small q (by simp [hq])
    rw [encodeAll, List.flatMap_cons, split_of_some (whole?_encode p.1 first _), ← encodeAll,
      others]
    rfl

end Frame

namespace FrameReader

/-- Reading what was written for payloads gives one frame for each, in order, on its stream and with
its text, which is the text that the payload holds if it holds one; and then the stream is at its
end. -/
theorem readAll_encodeAll (payloads : List (Stream × List UInt8))
    (small : ∀ p ∈ payloads, p.2.length < UInt32.size) (chunks : List (List UInt8))
    (cut : chunks.flatten = Frame.encodeAll payloads) :
    (ofDelivery false { chunks, ending := .closed }).readAll.1 =
        (payloads.map fun p => .frame ⟨Utf8.decode p.2, p.1⟩) ++ [.finished] ∧
      ∀ p ∈ payloads, ∀ s : String, p.2.toByteArray = s.toByteArray → Utf8.decode p.2 = s := by
  refine ⟨?_, fun p _ s holds => by rw [Utf8.eq_encode holds, Utf8.decode_encode]⟩
  have all : (ofDelivery false { chunks, ending := .closed }).readAll.1 =
      (Decoder.header []).readings .closed chunks.flatten := readAll_eq _
  rw [all, Decoder.readings_eq_split, cut, Frame.split_encodeAll small, List.map_map]
  rfl

/-- A payload that looks like a header, an empty one, and one that holds a text. -/
def mixedPayloads : List (Stream × List UInt8) :=
  [(.stderr, [1, 0, 0, 0, 0, 0, 0, 9]), (.unknown, []), (.stdout, [0xE2, 0x82, 0xAC])]

def mixedChunks : List (List UInt8) :=
  [[2, 0, 0], [0, 0, 0, 0, 8, 1, 0, 0, 0, 0, 0, 0, 9, 0, 0, 0, 0, 0, 0], [],
    [0, 0, 1, 0, 0, 0, 0, 0, 0, 3, 0xE2], [0x82, 0xAC]]

theorem readAll_encodeAll_mixed :
    (∀ p ∈ mixedPayloads, p.2.length < UInt32.size) ∧
    mixedChunks.flatten = Frame.encodeAll mixedPayloads ∧
    (ofDelivery false { chunks := mixedChunks, ending := .closed }).readAll.1 =
      (mixedPayloads.map fun p => .frame ⟨Utf8.decode p.2, p.1⟩) ++ [.finished] ∧
    Utf8.decode [0xE2, 0x82, 0xAC] = "€" := by
  have small : ∀ p ∈ mixedPayloads, p.2.length < UInt32.size := by decide
  have cut : mixedChunks.flatten = Frame.encodeAll mixedPayloads := by decide
  obtain ⟨read, held⟩ := readAll_encodeAll mixedPayloads small mixedChunks cut
  exact ⟨small, cut, read, held (.stdout, [0xE2, 0x82, 0xAC]) (by decide) "€" (by decide)⟩

end FrameReader

end ContainerWatch.Log
