/-!
# Blank characters

Two sets of blank characters are in use. `isBlank` is the set that patterns and markup go by.
`isSpacing` is the narrower white space property, which leaves out the four separators U+001C to
U+001F; numbers may have such characters around them.
-/

namespace LiteralMarkdown.Text

/-- Whether the character is white space: a control or separator that moves the position. -/
def isSpacing (c : Char) : Bool :=
  let n := c.toNat
  n == 0x20 || (0x9 ≤ n && n ≤ 0xD) || n == 0x85 || n == 0xA0 || n == 0x1680 ||
    (0x2000 ≤ n && n ≤ 0x200A) || n == 0x2028 || n == 0x2029 || n == 0x202F || n == 0x205F ||
    n == 0x3000

/-- Whether the character is blank: white space, or one of the separators U+001C to U+001F. -/
def isBlank (c : Char) : Bool :=
  isSpacing c || (0x1C ≤ c.toNat && c.toNat ≤ 0x1F)

end LiteralMarkdown.Text
