/-! A text is blank when nothing but white space is in it. -/

namespace EventBus

/-- The characters that have the white-space property. -/
def isBlankChar (c : Char) : Bool :=
  -- The property is a closed list: ASCII blanks, then the spaces and separators beyond ASCII.
  let code := c.toNat
  (0x9 ≤ code && code ≤ 0xd) || code == 0x20 || code == 0x85 || code == 0xa0 || code == 0x1680
    || (0x2000 ≤ code && code ≤ 0x200a) || code == 0x2028 || code == 0x2029 || code == 0x202f
    || code == 0x205f || code == 0x3000

/-- Nothing is left of a blank text once white space is trimmed from it. -/
def isBlank (text : String) : Bool := text.toList.all isBlankChar

/-- The rest of a text behind its leading white space. -/
def skipBlanks (chars : List Char) : List Char := chars.dropWhile isBlankChar

end EventBus
