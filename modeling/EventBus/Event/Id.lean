import EventBus.Text.Hex

/-! Event ids are numbers of 128 bits with several spellings and one written form. -/

namespace EventBus

/-- An id of 128 bits. -/
structure EventId where
  value : BitVec 128
  deriving DecidableEq, Repr

namespace EventId

/-- The lengths of the groups of digits between hyphens. -/
def groups : List Nat := [8, 4, 4, 4, 12]

/-- Digits cut into the groups of the written form. -/
def hyphenate : List Nat → List Char → List Char
  | [], digits => digits
  | [_], digits => digits
  | width :: widths, digits => digits.take width ++ '-' :: hyphenate widths (digits.drop width)

/-- The characters of the written form: lower-case digits in groups. -/
def chars (id : EventId) : List Char := hyphenate groups (hexFixed 32 id.value.toNat)

/-- The written form of an id. -/
def text (id : EventId) : String := String.ofList id.chars

/-- The id that a run of digits stands for. -/
def ofDigits? (digits : List Char) : Option EventId :=
  -- At most thirty-two digits ever get here, so the bound always holds.
  (hexNumber? digits).bind fun value =>
    if value < Nat.pow 2 128 then some ⟨.ofNat 128 value⟩ else none

/-- The digits of a hyphenated spelling. -/
def ungroup? : List Nat → List Char → Option (List Char)
  | [], rest => if rest.isEmpty then some [] else none
  | [width], rest => if rest.length = width then some rest else none
  | width :: widths, rest =>
    -- Behind each group but the last there has to be a hyphen.
    match rest.drop width with
    | '-' :: behind => (ungroup? widths behind).map (rest.take width ++ ·)
    | _ => none

/-- The id of a hyphenated spelling. -/
def ofHyphenated? (chars : List Char) : Option EventId := (ungroup? groups chars).bind ofDigits?

/--
The id of a spelling: bare digits, hyphenated, in braces, or as a resource name. Letters may be of
either case, in the name of the resource too.
-/
def parse? (chars : List Char) : Option EventId :=
  -- The length decides which spelling it can be.
  if chars.length = 32 then ofDigits? chars
  else if chars.length = 36 then ofHyphenated? chars
  else if chars.length = 38 then
    match chars with
    | '\x7b' :: rest => if rest.getLast? = some '\x7d' then ofHyphenated? rest.dropLast else none
    | _ => none
  else if (chars.take 9).map Char.toLower = "urn:uuid:".toList then ofHyphenated? (chars.drop 9)
  else none

/-- The id of the given number with the marks of a random id, version 4 and variant 1. -/
def random (seed : Nat) : EventId :=
  -- The marks take six bits in fixed places, and the seed fills the others.
  let bits := BitVec.ofNat 122 seed
  let low := bits.extractLsb' 0 62
  let middle := bits.extractLsb' 62 12
  let high := bits.extractLsb' 74 48
  ⟨high ++ 4#4 ++ middle ++ 2#2 ++ low⟩

/-- The version that an id is marked with. -/
def version (id : EventId) : Nat := (id.value.extractLsb' 76 4).toNat

end EventId

end EventBus
