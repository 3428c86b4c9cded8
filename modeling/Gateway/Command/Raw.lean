import Gateway.Text.Utf8

/-!
# Raw text

Programs work on bytes. Here a byte is written as the character of its number, so that what they do
can be said about characters; a text is turned into raw text before a program sees it, and back when
it is done.
-/

namespace Gateway.Raw

/-- The raw text of bytes. -/
def ofBytes (bytes : List UInt8) : List Char := bytes.map fun b => Char.ofNat b.toNat

/-- The bytes of raw text. -/
def bytes (cs : List Char) : List UInt8 := cs.map fun c => UInt8.ofNat c.toNat

/-- The raw text of a text. -/
def ofText (s : String) : String := String.ofList (ofBytes (Text.encode s.toList))

/-- The text that raw text stands for; what is no text is replaced. -/
def text (cs : List Char) : String := String.ofList (Text.decodeLossy (bytes cs))

end Gateway.Raw
