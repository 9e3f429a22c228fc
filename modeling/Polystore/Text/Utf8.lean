/-!
# Bytes and texts

The text of a sequence of bytes in UTF-8, where there is one.

* `Bytes`, `encodeUtf8`, `decodeUtf8?`;
* `decodeUtf8?_eq_some_iff`: a text is read from exactly the bytes that it is written as.
-/

namespace Polystore.Text

abbrev Bytes := List UInt8

def encodeUtf8 (s : String) : Bytes := s.toUTF8.data.toList

def decodeUtf8? (b : Bytes) : Option String := String.fromUTF8? ⟨b.toArray⟩

theorem decodeUtf8?_eq_some_iff {b : Bytes} {s : String} :
    decodeUtf8? b = some s ↔ b = encodeUtf8 s := by
  unfold decodeUtf8? encodeUtf8 String.fromUTF8?
  constructor
  · intro h
    split at h
    · cases h
      simp [String.fromUTF8, String.toUTF8]
    · cases h
  · rintro rfl
    have hv : (s.toUTF8).validateUTF8 = true := by
      simpa [String.toUTF8] using s.isValidUTF8
    simp_all [String.fromUTF8, String.toUTF8]

end Polystore.Text
