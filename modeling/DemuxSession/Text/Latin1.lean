import DemuxSession.Bytes

/-!
# ISO-8859-1 text

A byte stands for the code point of the same value.  Every byte string
therefore has a text, and a text has a byte string exactly when all its
characters are at most U+00FF.
-/

namespace DemuxSession.Text.Latin1

/-- The text of a byte string, one character a byte. -/
def decode (bytes : Bytes) : String :=
  String.ofList (bytes.map Char.ofUInt8)

/-- The byte of one character, if the character is at most U+00FF. -/
def encodeChar? (character : Char) : Option UInt8 :=
  if character.toNat < 256 then some character.toUInt8 else none

/-- The byte string of a text, if every character of the text has a byte. -/
def encode? (text : String) : Option Bytes :=
  text.toList.mapM encodeChar?

theorem encodeChar?_ofUInt8 (byte : UInt8) : encodeChar? (Char.ofUInt8 byte) = some byte := by
  have hbyte : (Char.ofUInt8 byte).toNat = byte.toNat := rfl
  have hlt := byte.toNat_lt
  rw [encodeChar?, if_pos (by omega)]
  exact congrArg some byte.toUInt8_toUInt32

/-- Every decoded byte string can be encoded again, and gives the bytes back. -/
theorem encode?_decode (bytes : Bytes) : encode? (decode bytes) = some bytes := by
  simp only [encode?, decode, String.toList_ofList]
  induction bytes with
  | nil => rfl
  | cons byte rest ih => simp [encodeChar?_ofUInt8, ih]

end DemuxSession.Text.Latin1
