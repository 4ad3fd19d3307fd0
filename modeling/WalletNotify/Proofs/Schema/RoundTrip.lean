import WalletNotify.Proofs.Wire.Length
import WalletNotify.Schema.Catalogue

/-!
# Round trips of messages

Every message type of both packages is decoded from its encoding. Main statement: `round_trip`. It
covers every value, and every byte string that is decoded, also one that its value is not encoded
as.
-/

namespace WalletNotify.Schema

open Wire (Bytes DecodeError)

/-- The encoding of the value that bytes tell. -/
def Declaration.reencode (d : Declaration) (bytes : Bytes) : Except DecodeError Bytes :=
  (Wire.decode d.shape d.name bytes).map (Wire.encode d.shape)

/-- The fields of every message type have numbers of their own, and do not nest too deep. -/
lemma catalogue_numbered :
    ∀ d ∈ catalogue, d.shape.WellNumbered ∧ d.shape.height ≤ Wire.maxDepth := by
  decide

/-- What is encoded is decoded again, so that no two values have one encoding. What is decoded from
any bytes is decoded from its own encoding too, and encoding it once more changes nothing. No memory
holds more bytes than the bounds allow. -/
theorem round_trip {d : Declaration} (known : d ∈ catalogue) :
    (∀ v : d.shape.Value, (Wire.encode d.shape v).length < 2 ^ 63 →
      Wire.decode d.shape d.name (Wire.encode d.shape v) = .ok v) ∧
    (∀ v w : d.shape.Value, (Wire.encode d.shape v).length < 2 ^ 63 →
      Wire.encode d.shape v = Wire.encode d.shape w → v = w) ∧
    (∀ (bytes : Bytes) (v : d.shape.Value), bytes.length < 2 ^ 63 →
      Wire.decode d.shape d.name bytes = .ok v →
      Wire.decode d.shape d.name (Wire.encode d.shape v) = .ok v) ∧
    (∀ bytes again : Bytes, bytes.length < 2 ^ 63 → d.reencode bytes = .ok again →
      d.reencode again = .ok again) := by
  obtain ⟨numbered, deep⟩ := catalogue_numbered d known
  have decode_encode {v : d.shape.Value} (fits : (Wire.encode d.shape v).length < 2 ^ 64) :
      Wire.decode d.shape d.name (Wire.encode d.shape v) = .ok v :=
    Wire.decode_encode numbered deep d.name fits
  have decoded {bytes : Bytes} {v : d.shape.Value} (short : bytes.length < 2 ^ 63)
      (found : Wire.decode d.shape d.name bytes = .ok v) :
      Wire.decode d.shape d.name (Wire.encode d.shape v) = .ok v := by
    -- The encoding may be longer than the bytes, but a count still has room for it.
    have double := Wire.length_encode_le found
    exact decode_encode (by omega)
  refine ⟨fun v fits => decode_encode (by omega), fun v w fits same => ?_,
    fun bytes v => decoded, fun bytes again short found => ?_⟩
  · have first := decode_encode (v := v) (by omega)
    have second := decode_encode (v := w) (by rw [← same]; omega)
    rw [← same, first] at second
    exact Except.ok.inj second
  · unfold Declaration.reencode at found ⊢
    cases told : Wire.decode d.shape d.name bytes with
    | error e => rw [told] at found; cases found
    | ok v =>
      rw [told] at found
      cases found
      rw [decoded short told]
      rfl

/-- A negative number that was told in five bytes is written in ten, and decoded from both. -/
theorem round_trip_negative :
    let d := Declaration.of "v1" Stable.ListWebhooksRequest
    let short : Bytes := [8, 255, 255, 255, 255, 15]
    d ∈ catalogue ∧
      d.reencode short = .ok (8 :: List.replicate 9 255 ++ [1]) ∧
      d.reencode (8 :: List.replicate 9 255 ++ [1]) = .ok (8 :: List.replicate 9 255 ++ [1]) := by
  intro d short
  have known : d ∈ catalogue := by simp [d, catalogue, Stable.declarations]
  have found : d.reencode short = .ok (8 :: List.replicate 9 255 ++ [1]) := by decide
  exact ⟨known, found, (round_trip known).2.2.2 short _ (by decide) found⟩

end WalletNotify.Schema
