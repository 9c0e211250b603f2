/-! # Line breaks and bytes

A text that is read from bytes is in UTF-8, and each of its line breaks becomes a line feed.
-/

namespace NixContext.Text

/-- Writes every line break as a line feed. -/
def unifyBreaks : List Char → List Char
  | '\r' :: '\n' :: cs => '\n' :: unifyBreaks cs
  | '\r' :: cs => '\n' :: unifyBreaks cs
  | c :: cs => c :: unifyBreaks cs
  | [] => []

/-- The text of bytes, if they are one. -/
def ofBytes? (bytes : ByteArray) : Option (List Char) :=
  (String.fromUTF8? bytes).map fun s => unifyBreaks s.toList

end NixContext.Text
