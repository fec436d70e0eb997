import EventBus.Json.Decimal

/-! JSON values form a tree whose objects hold their fields in the order of the keys. -/

namespace EventBus

/-- A JSON value; whole numbers and decimal numbers are told apart. -/
inductive Json where
  | null
  | bool (value : Bool)
  | integer (value : Int)
  | decimal (value : Decimal)
  | string (value : String)
  | array (items : List Json)
  | object (fields : List (String × Json))
  deriving Inhabited, Repr

namespace Json

mutual

/-- Two values are equal when they have the same form and equal parts. -/
def decEq : (a b : Json) → Decidable (a = b)
  -- Values of one form are equal when what they hold is.
  | .null, .null => isTrue rfl
  | .bool a, .bool b =>
    if same : a = b then isTrue (congrArg Json.bool same)
    else isFalse (fun equal => same (Json.bool.inj equal))
  | .integer a, .integer b =>
    if same : a = b then isTrue (congrArg Json.integer same)
    else isFalse (fun equal => same (Json.integer.inj equal))
  | .decimal a, .decimal b =>
    if same : a = b then isTrue (congrArg Json.decimal same)
    else isFalse (fun equal => same (Json.decimal.inj equal))
  | .string a, .string b =>
    if same : a = b then isTrue (congrArg Json.string same)
    else isFalse (fun equal => same (Json.string.inj equal))
  | .array a, .array b =>
    match decEqItems a b with
    | isTrue same => isTrue (congrArg Json.array same)
    | isFalse differ => isFalse (fun equal => differ (Json.array.inj equal))
  | .object a, .object b =>
    match decEqFields a b with
    | isTrue same => isTrue (congrArg Json.object same)
    | isFalse differ => isFalse (fun equal => differ (Json.object.inj equal))
  -- Values of different forms are never equal; a whole number is no decimal number.
  | .null, .bool _ | .null, .integer _ | .null, .decimal _ | .null, .string _ | .null, .array _
  | .null, .object _ => isFalse nofun
  | .bool _, .null | .bool _, .integer _ | .bool _, .decimal _ | .bool _, .string _
  | .bool _, .array _ | .bool _, .object _ => isFalse nofun
  | .integer _, .null | .integer _, .bool _ | .integer _, .decimal _ | .integer _, .string _
  | .integer _, .array _ | .integer _, .object _ => isFalse nofun
  | .decimal _, .null | .decimal _, .bool _ | .decimal _, .integer _ | .decimal _, .string _
  | .decimal _, .array _ | .decimal _, .object _ => isFalse nofun
  | .string _, .null | .string _, .bool _ | .string _, .integer _ | .string _, .decimal _
  | .string _, .array _ | .string _, .object _ => isFalse nofun
  | .array _, .null | .array _, .bool _ | .array _, .integer _ | .array _, .decimal _
  | .array _, .string _ | .array _, .object _ => isFalse nofun
  | .object _, .null | .object _, .bool _ | .object _, .integer _ | .object _, .decimal _
  | .object _, .string _ | .object _, .array _ => isFalse nofun

/-- Two lists of values are equal when they agree item by item. -/
def decEqItems : (a b : List Json) → Decidable (a = b)
  | [], [] => isTrue rfl
  | [], _ :: _ => isFalse nofun
  | _ :: _, [] => isFalse nofun
  | a :: as, b :: bs =>
    match decEq a b with
    | isFalse differ => isFalse (fun equal => differ (List.cons.inj equal).1)
    | isTrue same =>
      match decEqItems as bs with
      | isFalse differ => isFalse (fun equal => differ (List.cons.inj equal).2)
      | isTrue rest => isTrue (by rw [same, rest])

/-- Two lists of fields are equal when they agree in keys and values. -/
def decEqFields : (a b : List (String × Json)) → Decidable (a = b)
  | [], [] => isTrue rfl
  | [], _ :: _ => isFalse nofun
  | _ :: _, [] => isFalse nofun
  | (k, a) :: as, (l, b) :: bs =>
    if key : k = l then
      match decEq a b with
      | isFalse differ => isFalse (fun equal => differ (Prod.mk.inj (List.cons.inj equal).1).2)
      | isTrue same =>
        match decEqFields as bs with
        | isFalse differ => isFalse (fun equal => differ (List.cons.inj equal).2)
        | isTrue rest => isTrue (by rw [key, same, rest])
    else isFalse (fun equal => key (Prod.mk.inj (List.cons.inj equal).1).1)

end

instance : DecidableEq Json := decEq

/-- A field put in its place among sorted fields; a field of the same key is replaced. -/
def insertField (key : String) (value : Json) : List (String × Json) → List (String × Json)
  | [] => [(key, value)]
  | (k, v) :: rest =>
    -- The place is in front of the first key that is not smaller.
    if key < k then (key, value) :: (k, v) :: rest
    else if key = k then (key, value) :: rest
    else (k, v) :: insertField key value rest

/-- The fields in the order of their keys; of two fields with one key the later counts. -/
def sortFields (fields : List (String × Json)) : List (String × Json) :=
  -- Each field is inserted in turn, so that a later one replaces an earlier one.
  fields.foldl (fun sorted (key, value) => insertField key value sorted) []

/-- An object of the given fields. -/
def record (fields : List (String × Json)) : Json := .object (sortFields fields)

/-- An object with one field set; any other value is left alone. -/
def set (json : Json) (key : String) (value : Json) : Json :=
  match json with
  | .object fields => .object (insertField key value fields)
  | other => other

/-- The value of a field, if this is an object that has it. -/
def get? (json : Json) (key : String) : Option Json :=
  match json with
  | .object fields => fields.lookup key
  | _ => none

/-- The value of a field, or null. -/
def getD (json : Json) (key : String) : Json := (json.get? key).getD .null

/-- The text in a string. -/
def text? : Json → Option String
  | .string text => some text
  | _ => none

/-- The number in a whole number that is not negative. -/
def nat? : Json → Option Nat
  | .integer (.ofNat n) => some n
  | _ => none

/-- The items of an array, and no items of any other value. -/
def items : Json → List Json
  | .array items => items
  | _ => []

/-- The text of a string field, if there is one. -/
def textField? (json : Json) (key : String) : Option String := (json.get? key).bind text?

/-- The text of a string field; a missing one is empty. -/
def textField (json : Json) (key : String) : String := (json.textField? key).getD ""

/-- The number of a field, if it is there and not negative. -/
def natField? (json : Json) (key : String) : Option Nat := (json.get? key).bind nat?

/-- A value found under a key is smaller than the fields that it was found in. -/
theorem sizeOf_lt_of_lookup {fields : List (String × Json)} {key : String} {value : Json}
    (found : fields.lookup key = some value) : sizeOf value < sizeOf fields := by
  induction fields with
  | nil => simp at found
  | cons field rest ih =>
    rcases field with ⟨k, v⟩
    rw [List.lookup_cons] at found
    split at found
    · -- The first field has the key, and its value is one of its parts.
      cases found
      simp only [List.cons.sizeOf_spec, Prod.mk.sizeOf_spec]
      omega
    · -- A later field has the key, and the fields behind the first are fewer.
      have smaller := ih found
      simp only [List.cons.sizeOf_spec]
      omega

/-- The value of a field is smaller than the object. -/
theorem sizeOf_lt_of_get? {json value : Json} {key : String} (found : json.get? key = some value) :
    sizeOf value < sizeOf json := by
  -- Only an object has fields.
  cases json with
  | object fields =>
    have smaller := sizeOf_lt_of_lookup found
    simp only [Json.object.sizeOf_spec]
    omega
  | _ => simp [get?] at found

/-- An item is smaller than its array. -/
theorem sizeOf_lt_of_mem_items {json item : Json} (member : item ∈ json.items) :
    sizeOf item < sizeOf json := by
  -- Only an array has items.
  cases json with
  | array all =>
    have smaller : sizeOf item < sizeOf all := List.sizeOf_lt_of_mem member
    simp only [Json.array.sizeOf_spec]
    omega
  | _ => simp [items] at member

mutual

/-- The value with no sign on any zero, by which it is compared. -/
def unsignedZeros : Json → Json
  | .decimal value => .decimal value.unsignedZero
  | .array items => .array (unsignedItems items)
  | .object fields => .object (unsignedFields fields)
  | other => other

/-- The items with no sign on any zero. -/
def unsignedItems : List Json → List Json
  | [] => []
  | item :: rest => unsignedZeros item :: unsignedItems rest

/-- The fields with no sign on any zero. -/
def unsignedFields : List (String × Json) → List (String × Json)
  | [] => []
  | (key, value) :: rest => (key, unsignedZeros value) :: unsignedFields rest

end

/-- A natural number as a value. -/
def ofNat (n : Nat) : Json := .integer n

/-- A list of texts as a value. -/
def ofTexts (texts : List String) : Json := .array (texts.map Json.string)

/-- A text or null. -/
def ofText? : Option String → Json
  | none => .null
  | some text => .string text

end Json

end EventBus
