import EventBus.Json.Number
import EventBus.Text.Hex

/-! The text of a document is cut into tokens, character by character. -/

namespace EventBus

/-- A mark of a document, or a value that has no parts. -/
inductive Token where
  | openArray
  | closeArray
  | openObject
  | closeObject
  | comma
  | colon
  | scalar (value : Json)
  deriving Repr

/-- Where in a token the next character stands; what was read of it comes latest first. -/
inductive Lexeme where
  | outside
  /-- Inside a word or a number. -/
  | word (letters : List Char)
  /-- Inside a string, whose characters are kept as codes. -/
  | text (codes : List Nat)
  /-- Behind a backslash. -/
  | escape (codes : List Nat)
  /-- Inside an escaped code. -/
  | code (codes : List Nat) (digits : List Char)

namespace Token

/-- Whether a code is the first half of a pair. -/
def isFirstHalf (code : Nat) : Bool := 0xd800 ≤ code && code < 0xdc00

/-- Whether a code is the second half of a pair. -/
def isSecondHalf (code : Nat) : Bool := 0xdc00 ≤ code && code < 0xe000

/-- The characters of codes, two of which may be the halves of one; no half may stand alone. -/
def joinHalves? : List Nat → Option (List Char)
  | [] => some []
  | [code] => if isFirstHalf code || isSecondHalf code then none else some [Char.ofNat code]
  | first :: second :: rest =>
    if isFirstHalf first then
      -- Each half has ten bits of what a character is beyond the first plane.
      if isSecondHalf second then
        let code := 0x10000 + (first - 0xd800) * 0x400 + (second - 0xdc00)
        (joinHalves? rest).map (Char.ofNat code :: ·)
      else none
    else if isSecondHalf first then none
    else (joinHalves? (second :: rest)).map (Char.ofNat first :: ·)

/-- The value of a word. -/
def word? : List Char → Option Json
  | ['n', 'u', 'l', 'l'] => some .null
  | ['t', 'r', 'u', 'e'] => some (.bool true)
  | ['f', 'a', 'l', 's', 'e'] => some (.bool false)
  | chars => Json.number? chars

/-- The code of a character behind a backslash, if it is one of those that stand for one. -/
def escaped? : Char → Option Nat
  | '"' => some 34
  | '\\' => some 92
  | '/' => some 47
  | 'b' => some 8
  | 'f' => some 12
  | 'n' => some 10
  | 'r' => some 13
  | 't' => some 9
  | _ => none

/-- The mark that a character is, if it is one. -/
def mark? : Char → Option Token
  | '[' => some .openArray
  | ']' => some .closeArray
  | '\x7b' => some .openObject
  | '\x7d' => some .closeObject
  | ',' => some .comma
  | ':' => some .colon
  | _ => none

/-- Whether a character may stand between tokens. -/
def isBlank (c : Char) : Bool := c = ' ' || c = '\t' || c = '\n' || c = '\r'

/-- The tokens so far, the latest first, with the token that has been begun. -/
abbrev Scan := List Token × Lexeme

/-- Puts a word, if one has been begun, behind the tokens. -/
def endWord? : Scan → Option (List Token)
  | (tokens, .outside) => some tokens
  | (tokens, .word letters) => (word? letters.reverse).map fun value => .scalar value :: tokens
  | _ => none

/-- Takes in a character outside of strings. -/
def scanOutside? (c : Char) (scan : Scan) : Option Scan :=
  -- A word goes on up to the next blank, mark or quotation mark.
  if isBlank c then (endWord? scan).map (·, .outside)
  else if c = '"' then (endWord? scan).map (·, .text [])
  else
    match mark? c, scan with
    | some mark, scan => (endWord? scan).map fun tokens => (mark :: tokens, .outside)
    | none, (tokens, .word letters) => some (tokens, .word (c :: letters))
    | none, (tokens, _) => some (tokens, .word [c])

/-- Takes in a character. -/
def scan? : Scan → Char → Option Scan
  | (tokens, .text codes), c =>
    if c = '"' then
      (joinHalves? codes.reverse).map fun chars =>
        (.scalar (.string (String.ofList chars)) :: tokens, .outside)
    else if c = '\\' then some (tokens, .escape codes)
    -- Controls have to be escaped.
    else if c.toNat < 32 then none
    else some (tokens, .text (c.toNat :: codes))
  | (tokens, .escape codes), c =>
    if c = 'u' then some (tokens, .code codes [])
    else (escaped? c).map fun code => (tokens, .text (code :: codes))
  | (tokens, .code codes digits), c =>
    -- An escaped code has four digits.
    let digits := c :: digits
    if digits.length < 4 then some (tokens, .code codes digits)
    else (hexNumber? digits.reverse).map fun code => (tokens, .text (code :: codes))
  | outside, c => scanOutside? c outside

/-- The tokens of a text, if it consists of tokens. -/
def tokens? (chars : List Char) : Option (List Token) := do
  let tokens ← endWord? (← chars.foldlM scan? ([], .outside))
  return tokens.reverse

end Token

end EventBus
