import EventBus.Text.Hex
import EventBus.Text.Unprintable

/-! Quoted texts show every character unambiguously on one line. -/

namespace EventBus

/-- The written form of one character between quotes. -/
def quotedChar (c : Char) : List Char :=
  match c with
  | '"' => ['\\', '"']
  | '\\' => ['\\', '\\']
  | '\n' => ['\\', 'n']
  | '\r' => ['\\', 'r']
  | '\t' => ['\\', 't']
  | _ =>
    if c.toNat = 0 then ['\\', '0']
    -- A character that would not show, or would change its neighbour, appears as its code.
    else if isUnprintable c then
      ['\\', 'u', '\x7b'] ++ (hexText c.toNat).toList ++ ['\x7d']
    else [c]

/-- A text between double quotes, with the characters that would be unclear escaped. -/
def quoted (text : String) : String :=
  String.ofList ('"' :: text.toList.flatMap quotedChar ++ ['"'])

end EventBus
