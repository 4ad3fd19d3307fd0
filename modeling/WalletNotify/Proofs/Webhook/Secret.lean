import WalletNotify.Proofs.Text.Hex
import WalletNotify.Webhook.Registry

/-!
# Secrets

A webhook keeps the secret that it is made with, unless it is empty. A secret is sent in a header
and is checked byte by byte; what is let pass is told here by its characters (`isSecret_eq`), which
are more than the error for a secret asks for.
-/

namespace WalletNotify.Webhook

/-! ## Secrets of webhooks -/

section Hooks

variable {id : Id} {endpoint : Url} {kind : Event.EventClass} {secret : String}

/-- A webhook has the secret it was given, unless that is empty. -/
lemma Hook.secret_new_eq_some {s : String} :
    (Hook.new id endpoint kind secret).secret = some s ↔ secret = s ∧ s ≠ "" := by
  simp only [Hook.new]
  split
  case isTrue empty =>
    refine ⟨nofun, ?_⟩
    rintro ⟨rfl, filled⟩
    exact absurd (String.isEmpty_iff.mp empty) filled
  case isFalse filled =>
    rw [String.isEmpty_iff] at filled
    rw [Option.some.injEq]
    constructor
    · rintro rfl
      exact ⟨rfl, filled⟩
    · exact And.left

/-- No secret stands for the empty one. -/
lemma Hook.getD_secret_new : (Hook.new id endpoint kind secret).secret.getD "" = secret := by
  simp only [Hook.new]
  split
  case isTrue empty => exact (String.isEmpty_iff.mp empty).symm
  case isFalse => rfl

end Hooks

/-! ## Characters of secrets -/

/-- Characters that the error for a secret asks for: the printable ones of ASCII, and the tab. -/
def isPrintable (c : Char) : Bool := c == '\t' || (' ' ≤ c && c ≤ '~')

/-- Characters that a secret is let pass with: all but the controls of ASCII, and the tab. -/
def isSendable (c : Char) : Bool := c == '\t' || (' ' ≤ c && c != '\x7f')

/-- Printable characters can be sent. -/
lemma isSendable_of_isPrintable {c : Char} (printable : isPrintable c = true) :
    isSendable c = true := by
  simp only [isPrintable, isSendable, Bool.or_eq_true, beq_iff_eq, Bool.and_eq_true,
    decide_eq_true_eq, bne_iff_ne] at printable ⊢
  refine printable.imp_right fun ⟨above, below⟩ => ⟨above, ?_⟩
  rintro rfl
  exact absurd below (by decide)

/-- Of the characters that may be sent, those of ASCII are printable. -/
lemma isPrintable_iff {c : Char} :
    isPrintable c = true ↔ isSendable c = true ∧ c.toNat < 128 := by
  constructor
  · intro printable
    refine ⟨isSendable_of_isPrintable printable, ?_⟩
    simp only [isPrintable, Bool.or_eq_true, beq_iff_eq, Bool.and_eq_true, decide_eq_true_eq]
      at printable
    rcases printable with rfl | ⟨-, below⟩
    · decide
    · exact Nat.lt_of_le_of_lt (UInt32.le_iff_toNat_le.mp (Char.le_def.mp below)) (by decide)
  · rintro ⟨sendable, ascii⟩
    have each : ∀ n < 128, isSendable (Char.ofNat n) = true →
        isPrintable (Char.ofNat n) = true := by
      decide
    have printable := each c.toNat ascii
    rw [Char.ofNat_toNat] at printable
    exact printable sendable

/-- An ASCII byte may stand in a header exactly if its character can be sent. -/
lemma isHeaderByte_ofNat :
    ∀ n < 128, isHeaderByte (UInt8.ofNat n) = isSendable (Char.ofNat n) := by
  decide

/-- A character may be sent if all of its bytes may stand in a header. -/
lemma all_isHeaderByte (c : Char) :
    (String.utf8EncodeChar c).all isHeaderByte = isSendable c := by
  by_cases ascii : c.toNat < 128
  · rw [Text.utf8EncodeChar_of_ascii ascii, List.all_cons, List.all_nil, Bool.and_true,
      isHeaderByte_ofNat _ ascii, Char.ofNat_toNat]
  · have beyond : 128 ≤ c.toNat := Nat.le_of_not_lt ascii
    have noBlank : ' ' ≤ c := by
      rw [Char.le_def, UInt32.le_iff_toNat_le]
      exact Nat.le_trans (by decide) beyond
    have noDelete : c ≠ '\x7f' := by
      rintro rfl
      exact absurd beyond (by decide)
    rw [isSendable, decide_eq_true noBlank, bne_iff_ne.mpr noDelete, Bool.and_self, Bool.or_true,
      List.all_eq_true]
    intro b mem
    have large := Text.le_of_mem_utf8EncodeChar beyond b mem
    have noControl : (32 : UInt8) ≤ b := UInt8.le_iff_toNat_le.mpr (Nat.le_trans (by decide) large)
    have other : b ≠ 127 := by
      rintro rfl
      exact absurd large (by decide)
    rw [isHeaderByte, decide_eq_true noControl, bne_iff_ne.mpr other, Bool.and_self, Bool.true_or]

/-- A secret may be sent if its characters may. -/
lemma isSecret_eq (secret : String) : isSecret secret = secret.toList.all isSendable := by
  rw [isSecret, Text.utf8_eq_flatMap, List.all_flatMap]
  simp only [all_isHeaderByte]

end WalletNotify.Webhook
