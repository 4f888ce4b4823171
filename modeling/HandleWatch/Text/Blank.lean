/-!
# Blank characters

The characters of the Unicode class of white space, and trimming them off
either end of a text.
-/

namespace HandleWatch

/-- Whether a character is white space: the tab, the line and page breaks, and
    the spaces of every width that may be broken at or not. -/
def isBlank (c : Char) : Bool :=
  let n := c.toNat
  (0x9 ≤ n && n ≤ 0xd) || n == 0x20 || n == 0x85 || n == 0xa0 || n == 0x1680 ||
    (0x2000 ≤ n && n ≤ 0x200a) || n == 0x2028 || n == 0x2029 || n == 0x202f ||
    n == 0x205f || n == 0x3000

/-- A text without the blanks at its ends. -/
def trimBlanks (s : List Char) : List Char :=
  ((s.dropWhile isBlank).reverse.dropWhile isBlank).reverse

end HandleWatch
