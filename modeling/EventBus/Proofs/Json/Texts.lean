import EventBus.Json.Text
import EventBus.Json.Token
import EventBus.Proofs.Json.Numbers
import EventBus.Proofs.Text.Hex

/-!
Values are told apart by their compact texts. What follows a text can be told from it as well, since
no value goes on behind its last bracket or quotation mark, and a number ends with its last digit.
-/

namespace EventBus

namespace Json

/-- What holds of a value if it holds of its parts holds of all values. -/
@[elab_as_elim]
theorem induction {motive : Json → Prop} (null : motive .null)
    (bool : ∀ value, motive (.bool value)) (integer : ∀ value, motive (.integer value))
    (decimal : ∀ value, motive (.decimal value)) (string : ∀ text, motive (.string text))
    (array : ∀ items, (∀ item ∈ items, motive item) → motive (.array items))
    (object : ∀ fields, (∀ field ∈ fields, motive field.2) → motive (.object fields)) :
    ∀ json, motive json
  -- The parts of a value are smaller than the value.
  | .null => null
  | .bool value => bool value
  | .integer value => integer value
  | .decimal value => decimal value
  | .string text => string text
  | .array items => array items fun item there =>
    have _smaller : sizeOf item < sizeOf (Json.array items) := sizeOf_lt_of_mem_items there
    induction null bool integer decimal string array object item
  | .object fields => object fields fun (key, value) there =>
    have _smaller := List.sizeOf_lt_of_mem there
    induction null bool integer decimal string array object value
termination_by json => sizeOf json
decreasing_by
  · assumption
  · simp only [Prod.mk.sizeOf_spec, Json.object.sizeOf_spec] at _smaller ⊢
    omega

/-- The first character of what is written between quotation marks, and the text behind it. -/
def firstChar? : List Char → Option (Char × List Char)
  | '\\' :: 'u' :: a :: b :: c :: d :: rest =>
    (hexNumber? [a, b, c, d]).map fun code => (Char.ofNat code, rest)
  | '\\' :: letter :: rest => (Token.escaped? letter).map fun code => (Char.ofNat code, rest)
  | c :: rest => some (c, rest)
  | [] => none

/-- The digits of an escaped code are read back. -/
theorem hexNumber?_hexFixed {code : Nat} (small : code < 32) :
    hexNumber? (hexFixed 4 code) = some code := by
  -- Four digits suffice for codes of control characters, and are in lower case.
  rw [hexNumber?_eq_some_iff, length_hexFixed]
  exact ⟨by omega, map_toLower_hexFixed 4 code⟩

/-- A character is read back from its written form. -/
theorem firstChar?_escapedChar (c : Char) (rest : List Char) :
    firstChar? (escapedChar c ++ rest) = some (c, rest) := by
  unfold escapedChar
  split
  -- Five characters have escapes of their own.
  all_goals try rfl
  rename_i backslash _ _ _
  split_ifs with backspace feed control
  · exact congrArg some (congrArg (·, rest) (backspace ▸ c.ofNat_toNat))
  · exact congrArg some (congrArg (·, rest) (feed ▸ c.ofNat_toNat))
  · have read := hexNumber?_hexFixed control
    show (hexNumber? (hexFixed 4 c.toNat)).map _ = _
    rw [read, Option.map_some, c.ofNat_toNat]
    rfl
  · rw [List.singleton_append, firstChar?]
    · exact fun _ _ _ _ _ same _ => backslash same
    · exact fun _ _ same _ => backslash same

/-- No written form of a character begins with a quotation mark. -/
theorem escapedChar_ne_quote (c : Char) (rest other : List Char) :
    escapedChar c ++ rest ≠ '"' :: other := by
  intro equal
  have read := firstChar?_escapedChar c rest
  -- The mark would be read as the character, but its own written form is longer.
  have mark : firstChar? ('"' :: other) = some ('"', other) := rfl
  rw [equal, mark, Option.some.injEq, Prod.mk.injEq] at read
  obtain ⟨rfl, rfl⟩ := read
  exact absurd (congrArg List.length equal) (by simp [escapedChar])

/-- A string is told from its written form and what follows that. -/
theorem stringChars_append_inj {first second : String} {rest other : List Char}
    (same : stringChars first ++ rest = stringChars second ++ other) :
    first = second ∧ rest = other := by
  -- Inside of the quotation marks, the strings are told apart character by character.
  have inside (chars others : List Char) (same : chars.flatMap escapedChar ++ '"' :: rest =
      others.flatMap escapedChar ++ '"' :: other) : chars = others ∧ rest = other := by
    induction chars generalizing others with
    | nil =>
      cases others with
      | nil => exact ⟨rfl, (List.cons.inj same).2⟩
      | cons d others =>
        rw [List.flatMap_cons, List.append_assoc] at same
        exact absurd same.symm (escapedChar_ne_quote d _ _)
    | cons c chars ih =>
      rw [List.flatMap_cons, List.append_assoc] at same
      cases others with
      | nil => exact absurd same (escapedChar_ne_quote c _ _)
      | cons d others =>
        -- Both texts begin with the same character.
        rw [List.flatMap_cons, List.append_assoc] at same
        have read := congrArg firstChar? same
        rw [firstChar?_escapedChar, firstChar?_escapedChar, Option.some.injEq,
          Prod.mk.injEq] at read
        obtain ⟨rfl, behind⟩ := read
        obtain ⟨rfl, equal⟩ := ih others behind
        exact ⟨rfl, equal⟩
  simp only [stringChars, List.cons_append, List.append_assoc, List.cons.injEq, true_and,
    List.nil_append] at same
  obtain ⟨chars, equal⟩ := inside _ _ same
  exact ⟨String.toList_inj.mp chars, equal⟩

/-- The text of a whole number is that of its magnitude, behind a minus sign if it is negative. -/
theorem chars_integer (value : Int) :
    chars (.integer value) =
      if value < 0 then '-' :: (toString value.natAbs).toList
      else (toString value.natAbs).toList := by
  -- The numbers below zero are those with a sign.
  cases value with
  | ofNat n => rw [if_neg (by simp)]; rfl
  | negSucc n => rw [if_pos (Int.negSucc_lt_zero n)]; exact String.toList_append

/-- Whether a value is a number. -/
def isNumber : Json → Bool
  | integer _ | decimal _ => true
  | _ => false

/-- The text of a number consists of characters of numbers, and of one at least. -/
theorem numeric_chars {json : Json} (number : json.isNumber = true) :
    json.chars ≠ [] ∧ ∀ c ∈ json.chars, isNumberChar c = true := by
  -- Both kinds of numbers consist of digits, a sign, a point and a power.
  cases json with
  | integer value =>
    have digits := numeral_toString value.natAbs
    have numeric : ∀ c ∈ (toString value.natAbs).toList, isNumberChar c = true := fun c there =>
      isNumberChar_of_isDigit (digits.digit c there)
    rw [chars_integer]
    split_ifs
    · exact ⟨List.cons_ne_nil _ _, List.forall_mem_cons.mpr ⟨rfl, numeric⟩⟩
    · exact ⟨digits.filled, numeric⟩
  | decimal value =>
    rw [chars]
    refine ⟨?_, fun c there => Decimal.numeric_of_mem_chars there⟩
    exact value.marked_chars.elim List.ne_nil_of_mem List.ne_nil_of_mem
  | _ => cases number

/-- Numbers are told apart by their texts, decimal numbers from whole ones too. -/
theorem eq_of_number_chars {first second : Json} (number : first.isNumber = true)
    (other : second.isNumber = true) (same : first.chars = second.chars) : first = second := by
  -- In the text of a whole number there is neither a point nor a letter.
  have whole (value : Int) : ¬('.' ∈ chars (.integer value) ∨ 'e' ∈ chars (.integer value)) := by
    have digits := (numeral_toString value.natAbs).digit
    have absent {c : Char} (sign : c ≠ '-') (digit : c.isDigit = false) :
        c ∉ chars (.integer value) := by
      rw [chars_integer]
      intro there
      split_ifs at there
      · rw [digits c ((List.mem_cons.mp there).resolve_left sign)] at digit
        cases digit
      · rw [digits c there] at digit
        cases digit
    exact not_or.mpr ⟨absent (by decide) rfl, absent (by decide) rfl⟩
  have fractional (value : Decimal) :
      '.' ∈ chars (.decimal value) ∨ 'e' ∈ chars (.decimal value) := by
    rw [chars]
    exact value.marked_chars
  -- Whole numbers are told from whole ones and decimal ones from decimal ones.
  cases first with
  | integer a =>
    cases second with
    | integer b => exact congrArg integer (whole_eq_of_text same)
    | decimal b => exact absurd (fractional b) (same ▸ whole a)
    | _ => cases other
  | decimal a =>
    cases second with
    | integer b => exact absurd (fractional a) (same ▸ whole b)
    | decimal b =>
      rw [chars, chars] at same
      exact congrArg decimal (Decimal.chars_injective same)
    | _ => cases other
  | _ => cases number

/-- A mark of the form of a value, which its text shows with the first character. -/
def mark : Json → Char
  | .null => 'n'
  | .bool true => 't'
  | .bool false => 'f'
  | .integer _ | .decimal _ => '0'
  | .string _ => '"'
  | .array _ => '['
  | .object _ => '\x7b'

/-- The mark of a form whose texts begin with a character. -/
def markOf (c : Char) : Char := if isNumberChar c then '0' else c

/-- A text begins as its form says. -/
theorem chars_starts (json : Json) :
    ∃ c rest, json.chars = c :: rest ∧ markOf c = json.mark := by
  -- A number starts with a character of numbers, and everything else with a mark of its own.
  have number (json : Json) (number : json.isNumber = true) :
      ∃ c rest, json.chars = c :: rest ∧ markOf c = '0' := by
    obtain ⟨filled, numeric⟩ := numeric_chars number
    obtain ⟨c, rest, written⟩ := List.exists_cons_of_ne_nil filled
    exact ⟨c, rest, written, if_pos (numeric c (written ▸ List.mem_cons_self))⟩
  match json with
  | .integer value => exact number (.integer value) rfl
  | .decimal value => exact number (.decimal value) rfl
  | .null | .bool true | .bool false | .string _ | .array _ | .object _ =>
    rw [chars]
    exact ⟨_, _, rfl, rfl⟩

/-- Texts with the same beginning are those of values of one form. -/
theorem mark_eq {first second : Json} {rest other : List Char}
    (same : first.chars ++ rest = second.chars ++ other) : first.mark = second.mark := by
  -- Both texts start with the same character, which tells the form.
  obtain ⟨c, tail, written, mark⟩ := chars_starts first
  obtain ⟨d, others, spelt, form⟩ := chars_starts second
  rw [written, spelt] at same
  rw [← mark, ← form, (List.cons.inj same).1]

/-- A kind of texts each of which can be told from what follows it, unless that goes on a number. -/
def Told {α : Type} (text : α → List Char) (item : α) : Prop :=
  ∀ {other : α} {rest more : List Char}, text item ++ rest = text other ++ more →
    Breaks isNumberChar rest → Breaks isNumberChar more → item = other ∧ rest = more

section Enclosed

variable {α : Type} {text : α → List Char} {close : Char} {rest more : List Char}

/-- What stands behind an item of an enclosed list: a comma and the others, or the end. -/
def behindItem (text : α → List Char) (close : Char) (rest : List Char) : List α → List Char
  | [] => close :: rest
  | item :: items => ',' :: ([','].intercalate ((item :: items).map text) ++ close :: rest)

/-- The first item of an enclosed list stands in front. -/
theorem intercalate_cons_append (item : α) (items : List α) :
    [','].intercalate ((item :: items).map text) ++ close :: rest =
      text item ++ behindItem text close rest items := by
  -- What stands behind the first item begins with a comma, or closes the list.
  cases items with
  | nil => rw [List.map_singleton, List.intercalate_singleton, behindItem]
  | cons next items =>
    rw [List.map_cons, List.map_cons, List.intercalate_cons_cons, behindItem, List.map_cons,
      List.append_assoc, List.append_assoc, List.singleton_append]

/-- A number does not go on behind an item. -/
theorem breaks_behindItem (closing : isNumberChar close = false) (items : List α) :
    Breaks isNumberChar (behindItem text close rest items) := by
  -- Neither a comma nor the closing mark is part of a number.
  cases items with
  | nil => exact breaks_cons closing
  | cons item items => exact breaks_cons rfl

/-- An enclosed list is told from its text and what follows that, if its items are. -/
theorem enclosed_inj (closing : isNumberChar close = false) (noComma : close ≠ ',')
    (starts : ∀ item tail other, text item ++ tail ≠ close :: other) {items others : List α}
    (told : ∀ item ∈ items, Told text item)
    (same : [','].intercalate (items.map text) ++ close :: rest =
      [','].intercalate (others.map text) ++ close :: more) : items = others ∧ rest = more := by
  -- The induction is on the items, with the list and the rest behind the first one.
  induction items generalizing others with
  | nil =>
    cases others with
    | nil => exact ⟨rfl, (List.cons.inj same).2⟩
    | cons other others =>
      rw [intercalate_cons_append other] at same
      exact absurd same.symm (starts other _ _)
  | cons item items ih =>
    rw [intercalate_cons_append item] at same
    cases others with
    | nil => exact absurd same (starts item _ _)
    | cons other others =>
      rw [intercalate_cons_append other] at same
      obtain ⟨rfl, behind⟩ := told item List.mem_cons_self same
        (breaks_behindItem closing items) (breaks_behindItem closing others)
      -- Behind the first items, both lists end or both go on.
      cases items with
      | nil =>
        cases others with
        | nil => exact ⟨rfl, (List.cons.inj behind).2⟩
        | cons => exact absurd (List.cons.inj behind).1 noComma
      | cons =>
        cases others with
        | nil => exact absurd (List.cons.inj behind).1.symm noComma
        | cons =>
          obtain ⟨equal, ends⟩ := ih (fun item there => told item (List.mem_cons_of_mem _ there))
            (List.cons.inj behind).2
          exact ⟨congrArg _ equal, ends⟩

end Enclosed

/-- The text of a field. -/
def fieldChars (field : String × Json) : List Char := stringChars field.1 ++ ':' :: chars field.2

/-- The items of an array are separated by commas. -/
theorem itemsChars_eq (items : List Json) :
    itemsChars items = [','].intercalate (items.map chars) := by
  -- The induction is on the items, of which the last has no comma behind it.
  induction items with
  | nil => rfl
  | cons item items ih =>
    cases items with
    | nil => rw [itemsChars, List.map_singleton, List.intercalate_singleton]
    | cons next items =>
      rw [itemsChars, ih]
      · simp only [List.map_cons, List.intercalate_cons_cons, List.append_assoc,
          List.singleton_append]
      · exact List.cons_ne_nil _ _

/-- The fields of an object are separated by commas. -/
theorem fieldsChars_eq (fields : List (String × Json)) :
    fieldsChars fields = [','].intercalate (fields.map fieldChars) := by
  -- The induction is on the fields, of which the last has no comma behind it.
  induction fields with
  | nil => rfl
  | cons field fields ih =>
    obtain ⟨key, value⟩ := field
    cases fields with
    | nil => rw [fieldsChars, List.map_singleton, List.intercalate_singleton, fieldChars]
    | cons next fields =>
      rw [fieldsChars, ih]
      · simp only [List.map_cons, List.intercalate_cons_cons, List.append_assoc,
          List.cons_append, List.nil_append, fieldChars]
      · exact List.cons_ne_nil _ _

/-- No value begins with a character that ends one. -/
theorem chars_ne_close {close : Char} (closes : close = ']' ∨ close = '\x7d') (json : Json)
    (tail other : List Char) : json.chars ++ tail ≠ close :: other := by
  intro equal
  obtain ⟨c, rest, written, form⟩ := chars_starts json
  rw [written] at equal
  obtain rfl := (List.cons.inj equal).1
  -- Neither closing character is the mark of a form.
  rcases closes with rfl | rfl
  all_goals
    rw [markOf, if_neg (by decide)] at form
    unfold mark at form
    split at form <;> cases form

/-- Numbers are the values with the mark of numbers. -/
theorem isNumber_iff {json : Json} : json.isNumber = true ↔ json.mark = '0' := by
  -- The mark is looked up form by form.
  cases json with
  | bool value => cases value <;> decide
  | _ => simp [isNumber, mark]

/-- The words are the only values of their forms. -/
theorem eq_of_word {json other : Json} (word : json = .null ∨ ∃ value, json = .bool value)
    (form : json.mark = other.mark) : json = other := by
  -- There are three words, and each of them has a mark of its own.
  rcases word with rfl | ⟨_ | _, rfl⟩
  all_goals
    rcases other with _ | ⟨_ | _⟩ | _ | _ | _ | _ | _
    all_goals first | rfl | cases form

/-- A number is told from its text. -/
theorem told_of_isNumber {json : Json} (number : json.isNumber = true) : Told chars json := by
  intro other rest more same behind after
  have second : other.isNumber = true :=
    isNumber_iff.mpr ((mark_eq same).symm.trans (isNumber_iff.mp number))
  have numeric := (numeric_chars number).2
  have others := (numeric_chars second).2
  -- The longest run of characters of numbers is the text of either of them.
  have texts := congrArg (List.takeWhile isNumberChar) same
  rw [takeWhile_append_breaks numeric behind, takeWhile_append_breaks others after] at texts
  have ends := congrArg (List.dropWhile isNumberChar) same
  rw [dropWhile_append_breaks numeric behind, dropWhile_append_breaks others after] at ends
  exact ⟨eq_of_number_chars number second texts, ends⟩

/-- A field is told from its text if its value is. -/
theorem told_field {field : String × Json} (told : Told chars field.2) : Told fieldChars field := by
  -- The key ends where its string ends, and behind the colon there is the value.
  intro other rest more same behind after
  simp only [fieldChars, List.append_assoc, List.cons_append] at same
  obtain ⟨key, behindKey⟩ := stringChars_append_inj same
  obtain ⟨value, equal⟩ := told (List.cons.inj behindKey).2 behind after
  exact ⟨Prod.ext key value, equal⟩

/-- A word is told from its text. -/
theorem told_of_word {json : Json} (word : json = .null ∨ ∃ value, json = .bool value) :
    Told chars json := by
  -- The other text starts with the same mark, so it is the same word.
  intro other rest more same _ _
  obtain rfl := eq_of_word word (mark_eq same)
  exact ⟨rfl, List.append_cancel_left same⟩

/-- A string is told from its text. -/
theorem told_string (text : String) : Told chars (.string text) := by
  -- The other value has to be a string as well, and strings are told apart.
  intro other rest more same _ _
  have form := mark_eq same
  cases other with
  | string second =>
    obtain ⟨rfl, equal⟩ := stringChars_append_inj same
    exact ⟨rfl, equal⟩
  | bool value => cases value <;> cases form
  | _ => cases form

/-- An array is told from its text if its items are. -/
theorem told_array {items : List Json} (told : ∀ item ∈ items, Told chars item) :
    Told chars (.array items) := by
  -- The other value has to be an array as well, and its items are told one by one.
  intro other rest more same _ _
  have form := mark_eq same
  cases other with
  | array others =>
    simp only [chars, itemsChars_eq, List.cons_append, List.append_assoc, List.cons.injEq,
      true_and, List.nil_append] at same
    obtain ⟨rfl, equal⟩ := enclosed_inj rfl (by decide) (chars_ne_close (.inl rfl)) told same
    exact ⟨rfl, equal⟩
  | bool value => cases value <;> cases form
  | _ => cases form

/-- An object is told from its text if the values of its fields are. -/
theorem told_object {fields : List (String × Json)}
    (told : ∀ field ∈ fields, Told chars field.2) : Told chars (.object fields) := by
  intro other rest more same _ _
  have form := mark_eq same
  cases other with
  | object others =>
    simp only [chars, fieldsChars_eq, List.cons_append, List.append_assoc, List.cons.injEq,
      true_and, List.nil_append] at same
    -- A field begins with a quotation mark.
    have starts : ∀ field tail other, fieldChars field ++ tail ≠ '\x7d' :: other :=
      fun field tail other equal => absurd (List.cons.inj equal).1 (by decide)
    obtain ⟨rfl, equal⟩ := enclosed_inj rfl (by decide) starts
      (fun field there => told_field (told field there)) same
    exact ⟨rfl, equal⟩
  | bool value => cases value <;> cases form
  | _ => cases form

/-- Every value is told from its text. -/
theorem told_chars (json : Json) : Told chars json := by
  -- The induction is on the value, whose parts are told first.
  induction json using Json.induction with
  | null => exact told_of_word (.inl rfl)
  | bool value => exact told_of_word (.inr ⟨value, rfl⟩)
  | integer value => exact told_of_isNumber rfl
  | decimal value => exact told_of_isNumber rfl
  | string text => exact told_string text
  | array items ih => exact told_array ih
  | object fields ih => exact told_object ih

/-- Values are told apart by their texts. -/
theorem chars_injective {first second : Json} (same : first.chars = second.chars) :
    first = second := by
  -- With nothing behind either text, the values are told by them.
  have told : first.chars ++ [] = second.chars ++ [] := by rw [same]
  exact (first.told_chars told breaks_nil breaks_nil).1

end Json

end EventBus
