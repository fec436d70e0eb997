import EventBus.Proofs.Json.Texts

/-!
Which characters of a compact text stand in strings. The blanks do, all of them, so nothing that
begins behind a blank is itself the text of a value.
-/

namespace EventBus

/-- Where the next character of a text stands. -/
inductive Spot where
  | outside
  /-- In a string. -/
  | inside
  /-- In a string, behind a backslash. -/
  | escaped
  deriving DecidableEq, Repr

namespace Spot

/-- The spot behind a character; blanks and backslashes stand only in strings. -/
def next? : Spot → Char → Option Spot
  | outside, c => if c = '"' then some inside else if c = ' ' ∨ c = '\\' then none else some outside
  | inside, c => if c = '"' then some outside else if c = '\\' then some escaped else some inside
  | escaped, _ => some inside

/-- The spot behind a text. -/
def after? (spot : Spot) (chars : List Char) : Option Spot := chars.foldlM next? spot

/-- The spot behind a longer text. -/
theorem after?_append (spot : Spot) (front back : List Char) :
    spot.after? (front ++ back) = (spot.after? front).bind (·.after? back) :=
  List.foldlM_append

/-- The spot behind a text is reached character by character. -/
theorem after?_cons (spot : Spot) (c : Char) (chars : List Char) :
    spot.after? (c :: chars) = (spot.next? c).bind (·.after? chars) :=
  List.foldlM_cons

/--
No text leads out of strings both from inside and from outside of one.

Character by character the two stay opposite: only a quotation mark changes them, and it changes
both, since a backslash can only stand inside.
-/
theorem not_outside_twice (chars : List Char) :
    ¬(outside.after? chars = some outside ∧ inside.after? chars = some outside) := by
  -- The induction is on the characters, which both spots read alike unless a string begins or ends.
  induction chars with
  | nil => exact fun ⟨_, closed⟩ => absurd (Option.some.inj closed) (by decide)
  | cons c chars ih =>
    rintro ⟨fromOutside, fromInside⟩
    rw [after?_cons] at fromOutside fromInside
    by_cases quote : c = '"'
    · simp only [next?, if_pos quote] at fromOutside fromInside
      exact ih ⟨fromInside, fromOutside⟩
    simp only [next?, if_neg quote] at fromOutside fromInside
    split_ifs at fromOutside fromInside with string backslash
    · cases fromOutside
    · cases fromOutside
    · exact absurd (.inr ‹_›) string
    · exact ih ⟨fromOutside, fromInside⟩

/-- What stands behind a blank is in a string, if it leads out of strings in the end. -/
theorem inside_of_blank {spot : Spot} {chars : List Char}
    (closed : spot.after? (' ' :: chars) = some outside) : inside.after? chars = some outside := by
  -- Outside of strings a blank leads nowhere.
  rw [after?_cons] at closed
  cases spot with
  | outside => cases closed
  | inside | escaped => exact closed

end Spot

namespace Json

/-- A text in which every string ends, and outside of which there are no blanks. -/
def Balanced (chars : List Char) : Prop := Spot.outside.after? chars = some .outside

namespace Balanced

variable {front back : List Char}

theorem append (first : Balanced front) (second : Balanced back) : Balanced (front ++ back) := by
  -- Behind the first text the spot is outside again.
  rw [Balanced, Spot.after?_append, first]
  exact second

/-- Characters that have no meaning to strings. -/
theorem of_plain {chars : List Char} (plain : ∀ c ∈ chars, c ≠ '"' ∧ c ≠ ' ' ∧ c ≠ '\\') :
    Balanced chars := by
  -- The induction is on the characters, none of which leads into a string.
  induction chars with
  | nil => rfl
  | cons c chars ih =>
    obtain ⟨quote, blank, backslash⟩ := plain c List.mem_cons_self
    have next : Spot.outside.next? c = some .outside := by
      simp only [Spot.next?, if_neg quote, if_neg (not_or.mpr ⟨blank, backslash⟩)]
    rw [Balanced, Spot.after?_cons, next]
    exact ih fun d there => plain d (List.mem_cons_of_mem c there)

/-- Texts with commas between them. -/
theorem intercalate {texts : List (List Char)} (balanced : ∀ text ∈ texts, Balanced text) :
    Balanced ([','].intercalate texts) := by
  -- The induction is on the texts, with a comma behind each but the last.
  induction texts with
  | nil => rfl
  | cons text texts ih =>
    have first := balanced text List.mem_cons_self
    have others := ih fun other there => balanced other (List.mem_cons_of_mem text there)
    cases texts with
    | nil => rwa [List.intercalate_singleton]
    | cons next texts =>
      rw [List.intercalate_cons_cons]
      have comma : Balanced [','] := rfl
      exact (first.append comma).append others

end Balanced

/-- The digits of an escaped code have no meaning to strings. -/
theorem plain_hexFixed {width value : Nat} {c : Char} (there : c ∈ hexFixed width value) :
    c ≠ '"' ∧ c ≠ ' ' ∧ c ≠ '\\' := by
  -- The induction is on the digits, the last of which is one of sixteen.
  induction width generalizing value with
  | zero => cases there
  | succ width ih =>
    rw [hexFixed] at there
    rcases List.mem_append.mp there with front | last
    · exact ih front
    · -- The codes of the digits are other numbers.
      have code := toNat_hexDigit (Nat.mod_lt value (by decide : 0 < 16))
      rw [← List.mem_singleton.mp last] at code
      refine ⟨?_, ?_, ?_⟩
      all_goals
        rintro rfl
        split_ifs at code <;> simp only [Char.reduceToNat] at code <;> omega

/-- Characters of numbers have no meaning to strings. -/
theorem plain_of_isNumberChar {c : Char} (numeric : isNumberChar c = true) :
    c ≠ '"' ∧ c ≠ ' ' ∧ c ≠ '\\' := by
  -- None of the three characters is one of numbers.
  refine ⟨?_, ?_, ?_⟩
  all_goals
    rintro rfl
    exact absurd numeric (by decide)

/-- Nothing but a quotation mark leads out of a string. -/
theorem inside_of_plain {chars : List Char} (plain : ∀ c ∈ chars, c ≠ '"' ∧ c ≠ '\\') :
    Spot.inside.after? chars = some .inside := by
  -- The induction is on the characters, each of which leaves the spot inside.
  induction chars with
  | nil => rfl
  | cons c chars ih =>
    obtain ⟨quote, backslash⟩ := plain c List.mem_cons_self
    have next : Spot.inside.next? c = some .inside := by
      simp only [Spot.next?, if_neg quote, if_neg backslash]
    rw [Spot.after?_cons, next]
    exact ih fun d there => plain d (List.mem_cons_of_mem c there)

/-- The written form of a character stays in the string. -/
theorem inside_escapedChar (c : Char) : Spot.inside.after? (escapedChar c) = some .inside := by
  unfold escapedChar
  split
  -- A backslash takes the meaning of the character behind it.
  all_goals try rfl
  rename_i quote backslash _ _ _
  split_ifs
  · rfl
  · rfl
  · show Spot.inside.after? (hexFixed 4 c.toNat) = some .inside
    refine inside_of_plain fun d there => ?_
    exact ⟨(plain_hexFixed there).1, (plain_hexFixed there).2.2⟩
  · refine inside_of_plain fun d there => ?_
    rw [List.mem_singleton.mp there]
    exact ⟨quote, backslash⟩

/-- A string ends where it is written to end. -/
theorem balanced_stringChars (text : String) : Balanced (stringChars text) := by
  -- Escaped characters stay inside of the string, whichever they are.
  have stays (chars : List Char) :
      Spot.inside.after? (chars.flatMap escapedChar) = some .inside := by
    induction chars with
    | nil => rfl
    | cons c chars ih =>
      rw [List.flatMap_cons, Spot.after?_append, inside_escapedChar]
      exact ih
  have opens : Spot.outside.next? '"' = some .inside := rfl
  rw [Balanced, stringChars, List.cons_append, Spot.after?_cons, opens, Option.bind_some,
    Spot.after?_append, stays]
  rfl

/-- Every compact text is balanced. -/
theorem balanced_chars (json : Json) : Balanced json.chars := by
  -- The parts of a value are balanced, and so are the brackets and commas around them.
  have number {json : Json} (number : json.isNumber = true) : Balanced json.chars :=
    .of_plain fun c there => plain_of_isNumberChar ((numeric_chars number).2 c there)
  have enclosed {opening closing : Char} {texts : List (List Char)}
      (opens : Balanced [opening]) (closes : Balanced [closing])
      (balanced : ∀ text ∈ texts, Balanced text) :
      Balanced (opening :: [','].intercalate texts ++ [closing]) :=
    (opens.append (Balanced.intercalate balanced)).append closes
  induction json using Json.induction with
  | null => rfl
  | bool value => cases value <;> rfl
  | integer value => exact number rfl
  | decimal value => exact number rfl
  | string text => exact balanced_stringChars text
  | array items ih =>
    rw [chars, itemsChars_eq]
    exact enclosed rfl rfl (List.forall_mem_map.mpr ih)
  | object fields ih =>
    rw [chars, fieldsChars_eq]
    refine enclosed rfl rfl (List.forall_mem_map.mpr fun field there => ?_)
    have colon : Balanced [':'] := rfl
    exact (balanced_stringChars field.1).append (colon.append (ih field there))

/-- What stands behind a blank of a compact text is no compact text. -/
theorem chars_ne_append_blank (json other : Json) (front : List Char) :
    json.chars ≠ front ++ ' ' :: other.chars := by
  intro equal
  -- Behind a blank the spot is inside of a string, which the other text would leave open.
  have closed := balanced_chars json
  rw [Balanced, equal, Spot.after?_append] at closed
  obtain ⟨spot, _, closed⟩ := Option.bind_eq_some_iff.mp closed
  exact Spot.not_outside_twice _ ⟨balanced_chars other, Spot.inside_of_blank closed⟩

end Json

end EventBus
