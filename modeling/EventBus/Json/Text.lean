import EventBus.Json.Basic
import EventBus.Text.Hex

/-! The compact text of a JSON value has no blanks and escapes only what it has to. -/

namespace EventBus

namespace Json

/-- The written form of one character of a string. -/
def escapedChar (c : Char) : List Char :=
  match c with
  | '"' => ['\\', '"']
  | '\\' => ['\\', '\\']
  | '\n' => ['\\', 'n']
  | '\r' => ['\\', 'r']
  | '\t' => ['\\', 't']
  | _ =>
    -- Two controls have letters of their own, and the others appear as their codes.
    if c.toNat = 8 then ['\\', 'b']
    else if c.toNat = 12 then ['\\', 'f']
    else if c.toNat < 32 then '\\' :: 'u' :: hexFixed 4 c.toNat
    else [c]

/-- A string in quotation marks. -/
def stringChars (text : String) : List Char :=
  '"' :: text.toList.flatMap escapedChar ++ ['"']

mutual

/-- The characters of the compact text of a value. -/
def chars : Json → List Char
  -- Words and numbers stand alone.
  | .null => ['n', 'u', 'l', 'l']
  | .bool true => ['t', 'r', 'u', 'e']
  | .bool false => ['f', 'a', 'l', 's', 'e']
  | .integer value => (toString value).toList
  | .decimal value => value.chars
  | .string text => stringChars text
  -- Brackets and braces enclose their parts, so that values inside each other stay apart.
  | .array items => '[' :: itemsChars items ++ [']']
  | .object fields => '\x7b' :: fieldsChars fields ++ ['\x7d']

/-- The texts of the items of an array with commas between them. -/
def itemsChars : List Json → List Char
  | [] => []
  -- Commas only stand between items.
  | [item] => chars item
  | item :: rest => chars item ++ ',' :: itemsChars rest

/-- The fields of an object with commas between them. -/
def fieldsChars : List (String × Json) → List Char
  | [] => []
  -- A field is its key, a colon and its value.
  | [(key, value)] => stringChars key ++ ':' :: chars value
  | (key, value) :: rest => stringChars key ++ ':' :: chars value ++ ',' :: fieldsChars rest

end

/-- The compact text of a value. -/
def text (json : Json) : String := String.ofList json.chars

/-- Values in the order of their compact texts. -/
def sortByText (values : List Json) : List Json :=
  -- Texts are compared by their code points.
  (values.map (fun value => (value.text, value))).mergeSort (fun a b => decide (a.1 ≤ b.1))
    |>.map Prod.snd

end Json

end EventBus
