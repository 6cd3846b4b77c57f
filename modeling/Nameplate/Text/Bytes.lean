/-!
# Texts as bytes

A text is stored as its UTF-8 bytes; not all bytes are the bytes of a text.
-/

namespace Nameplate.Text

/-- The bytes of a text in UTF-8. -/
def bytesOf (text : List Char) : List UInt8 := text.flatMap String.utf8EncodeChar

/-- The text of some bytes, if they are UTF-8. -/
def ofBytes? (bytes : List UInt8) : Option String := String.fromUTF8? ⟨bytes.toArray⟩

end Nameplate.Text
