import EventBus.Json.Token

/-!
A document is read token by token. The values that are still open around the next token form a stack
of frames, so reading ends with the tokens however deep the values lie inside each other.
-/

namespace EventBus

/-- A value that is open around another: the parts before that one, the latest first. -/
inductive Frame where
  | array (items : List Json)
  | object (fields : List (String × Json)) (key : String)
  deriving Repr

/-- What has been read of a document, by what may come next. -/
inductive Reading where
  /-- A value has to come. -/
  | beforeValue (around : List Frame)
  /-- The first item of an array, or its end. -/
  | beforeFirstItem (around : List Frame)
  /-- The first key of an object, or its end. -/
  | beforeFirstKey (around : List Frame)
  /-- The key of another field. -/
  | beforeKey (fields : List (String × Json)) (around : List Frame)
  /-- The colon behind a key. -/
  | beforeColon (fields : List (String × Json)) (key : String) (around : List Frame)
  /-- What comes behind a value. -/
  | behindValue (value : Json) (around : List Frame)
  deriving Repr

namespace Reading

/-- How many arrays and objects may lie inside each other. -/
def depthLimit : Nat := 127

/-- The token begins a value. -/
def begin? (around : List Frame) : Token → Option Reading
  | .scalar value => some (.behindValue value around)
  | .openArray => if around.length < depthLimit then some (.beforeFirstItem around) else none
  | .openObject => if around.length < depthLimit then some (.beforeFirstKey around) else none
  | _ => none

/-- Takes in a token. -/
def next? : Reading → Token → Option Reading
  | .beforeValue around, token => begin? around token
  | .beforeFirstItem around, .closeArray => some (.behindValue (.array []) around)
  | .beforeFirstItem around, token => begin? (.array [] :: around) token
  | .beforeFirstKey around, .closeObject => some (.behindValue (.object []) around)
  | .beforeFirstKey around, .scalar (.string key) => some (.beforeColon [] key around)
  | .beforeKey fields around, .scalar (.string key) => some (.beforeColon fields key around)
  | .beforeColon fields key around, .colon => some (.beforeValue (.object fields key :: around))
  -- A value that is done becomes a part of the value around it.
  | .behindValue value (.array items :: around), .comma =>
    some (.beforeValue (.array (value :: items) :: around))
  | .behindValue value (.array items :: around), .closeArray =>
    some (.behindValue (.array (value :: items).reverse) around)
  | .behindValue value (.object fields key :: around), .comma =>
    some (.beforeKey ((key, value) :: fields) around)
  | .behindValue value (.object fields key :: around), .closeObject =>
    some (.behindValue (Json.record ((key, value) :: fields).reverse) around)
  | _, _ => none

end Reading

namespace Json

/-- The value of a text, if it is a document. -/
def parse? (text : String) : Option Json := do
  let tokens ← Token.tokens? text.toList
  -- Nothing may come behind the value of the whole document.
  match ← tokens.foldlM Reading.next? (.beforeValue []) with
  | .behindValue value [] => some value
  | _ => none

end Json

end EventBus
