/-!
# Blank characters

The characters with the Unicode property `White_Space`, and what is said of texts in terms of them.

* `isBlank` — the property.
* `trim` — a text without the blanks at its two ends.
* `isBlankText` — nothing is left after trimming.
-/

namespace TenantStorage.Text

/-- The Unicode property `White_Space`.  The zero width space U+200B, the vowel separator U+180E
    and the byte order mark U+FEFF do not have it. -/
def isBlank (c : Char) : Bool :=
  let n := c.toNat
  (0x09 ≤ n && n ≤ 0x0d) || n == 0x20 || n == 0x85 || n == 0xa0 || n == 0x1680 ||
    (0x2000 ≤ n && n ≤ 0x200a) || n == 0x2028 || n == 0x2029 || n == 0x202f || n == 0x205f ||
    n == 0x3000

/-- The characters without the blanks at the two ends. -/
def trimChars (cs : List Char) : List Char :=
  ((cs.dropWhile isBlank).reverse.dropWhile isBlank).reverse

/-- The text without the blanks at its two ends. -/
def trim (text : String) : String := String.ofList (trimChars text.toList)

/-- Whether a text has no character but blanks. -/
def isBlankText (text : String) : Bool := text.toList.all isBlank

end TenantStorage.Text
