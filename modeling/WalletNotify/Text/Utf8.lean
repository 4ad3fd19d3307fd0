/-!
# Text as bytes

The UTF-8 bytes of a text, and the text of bytes that are UTF-8. Main statement: the bytes of a text
read back as that text.
-/

namespace WalletNotify.Text

/-- The UTF-8 bytes of a text. -/
def utf8 (s : String) : List UInt8 := s.toByteArray.data.toList

/-- The text of UTF-8 bytes. -/
def ofUtf8? (bytes : List UInt8) : Option String := String.fromUTF8? ⟨bytes.toArray⟩

/-- A text is read back from its bytes. -/
theorem ofUtf8?_utf8 (s : String) : ofUtf8? (utf8 s) = some s := by
  have h : (⟨s.toByteArray.data.toList.toArray⟩ : ByteArray) = s.toByteArray := by simp
  simp only [ofUtf8?, utf8, h, String.fromUTF8?, s.isValidUTF8, dif_pos]
  rfl

/-- Only the bytes of a text are read as that text. -/
theorem utf8_of_ofUtf8? {bytes : List UInt8} {s : String} (h : ofUtf8? bytes = some s) :
    utf8 s = bytes := by
  unfold ofUtf8? String.fromUTF8? at h
  split at h
  case isTrue hv =>
    obtain rfl := Option.some.inj h
    simp [utf8, String.fromUTF8]
  case isFalse => cases h

end WalletNotify.Text
