import EventBus.Text.Blank
import EventBus.Text.Digits
import Mathlib.Algebra.Ring.Nat
import Mathlib.Data.List.TakeWhile

/-! Runs of characters of one kind, above all the digits of a number, and where they end. -/

namespace EventBus

/-- A run of characters of a kind cannot go on into the text. -/
def Breaks (kind : Char → Bool) (chars : List Char) : Prop := ∀ c ∈ chars.head?, kind c = false

section

variable {kind : Char → Bool} {run rest : List Char}

theorem breaks_nil : Breaks kind [] := by
  -- There is no first character.
  intro c first
  cases first

theorem breaks_cons {c : Char} (other : kind c = false) : Breaks kind (c :: rest) := by
  -- The first character is of another kind.
  intro d first
  cases first
  exact other

/-- What follows a text of other characters does not matter to its front. -/
theorem Breaks.append {chars : List Char} (breaks : Breaks kind chars) (behind : Breaks kind rest) :
    Breaks kind (chars ++ rest) := by
  -- Either the text in between starts the rest, or nothing stands in between.
  cases chars with
  | nil => exact behind
  | cons c chars => exact breaks_cons (breaks c rfl)

/-- A text that starts with a character which is not of the kind. -/
def Starts (kind : Char → Bool) (chars : List Char) : Prop :=
  ∃ c tail, chars = c :: tail ∧ kind c = false

/-- No run goes on into a text that starts with another character. -/
theorem Starts.breaks {chars : List Char} (starts : Starts kind chars) (rest : List Char) :
    Breaks kind (chars ++ rest) := by
  -- A text that starts with another character ends the run, whatever is behind.
  obtain ⟨c, tail, rfl, other⟩ := starts
  exact breaks_cons other

theorem Breaks.take (breaks : Breaks kind rest) (count : Nat) : Breaks kind (rest.take count) := by
  -- A cut leaves the first character, or nothing at all.
  cases rest with
  | nil => simpa using breaks_nil
  | cons c rest =>
    cases count with
    | zero => exact breaks_nil
    | succ count => exact breaks_cons (breaks c rfl)

/-- The longest run at the front is the given one if it cannot go on. -/
theorem takeWhile_append_breaks (same : ∀ c ∈ run, kind c = true) (breaks : Breaks kind rest) :
    (run ++ rest).takeWhile kind = run := by
  -- Behind the run nothing is taken.
  have none : rest.takeWhile kind = [] := by
    cases rest with
    | nil => rfl
    | cons c rest => rw [List.takeWhile_cons, if_neg (by simp [breaks c rfl])]
  rw [List.takeWhile_append_of_pos same, none, List.append_nil]

theorem dropWhile_append_breaks (same : ∀ c ∈ run, kind c = true) (breaks : Breaks kind rest) :
    (run ++ rest).dropWhile kind = rest := by
  -- Behind the run nothing is dropped.
  rw [List.dropWhile_append_of_pos same]
  cases rest with
  | nil => rfl
  | cons c rest => rw [List.dropWhile_cons, if_neg (by simp [breaks c rfl])]

end

/-- The digits stand for the value. -/
structure Numeral (value : Nat) (digits : List Char) : Prop where
  /-- Nothing but digits stands in a numeral. -/
  digit : ∀ c ∈ digits, c.isDigit = true
  /-- There is at least one digit. -/
  filled : digits ≠ []
  /-- The value is that of the digits, with any number of leading zeros. -/
  reads : digitsValue digits = value

/-- The value is the one that the library gives to decimal digits. -/
theorem digitsValue_eq_ofDigitChars (digits : List Char) :
    digitsValue digits = Nat.ofDigitChars 10 digits 0 := by
  -- Both read the digits from the left.
  simp only [digitsValue, Nat.ofDigitChars_eq_foldl, Nat.mul_comm 10]
  rfl

/-- The digits in front count for as many tens as there are digits behind them. -/
theorem digitsValue_append (front back : List Char) :
    digitsValue (front ++ back) = digitsValue front * 10 ^ back.length + digitsValue back := by
  -- The library knows this of its own value.
  simp only [digitsValue_eq_ofDigitChars]
  rw [Nat.ofDigitChars_append, Nat.ofDigitChars_eq_ofDigitChars_zero, Nat.mul_comm]

/-- The code of a digit is that of zero and what the digit stands for. -/
theorem isDigit_iff {c : Char} : c.isDigit = true ↔ 48 ≤ c.toNat ∧ c.toNat ≤ 57 := by
  -- The library defines digits by their codes.
  rw [Char.isDigit, Bool.and_eq_true, decide_eq_true_eq, decide_eq_true_eq]
  exact Iff.rfl

/-- Digits are no blanks. -/
theorem isBlankChar_of_isDigit {c : Char} (digit : c.isDigit = true) : isBlankChar c = false := by
  have code := isDigit_iff.mp digit
  -- The figures lie in none of the ranges of blanks.
  rw [Bool.eq_false_iff]
  intro blank
  simp only [isBlankChar, Bool.or_eq_true, Bool.and_eq_true, decide_eq_true_eq, beq_iff_eq] at blank
  omega

/-- Blanks are no digits. -/
theorem isDigit_of_isBlankChar {c : Char} (blank : isBlankChar c = true) : c.isDigit = false := by
  -- A blank that is a digit would be no blank.
  rw [Bool.eq_false_iff]
  intro digit
  rw [isBlankChar_of_isDigit digit] at blank
  cases blank

/-- A run of digits stands for less than the next power of ten. -/
theorem digitsValue_lt {digits : List Char} (digit : ∀ c ∈ digits, c.isDigit = true) :
    digitsValue digits < 10 ^ digits.length := by
  -- The induction is on the digits, the first of which is at most nine.
  induction digits with
  | nil => decide
  | cons c digits ih =>
    have smaller := ih fun d member => digit d (List.mem_cons_of_mem c member)
    have single : digitsValue [c] = c.toNat - 48 := by
      rw [digitsValue, List.foldl_cons, List.foldl_nil, Nat.zero_mul, Nat.zero_add]
    have code := isDigit_iff.mp (digit c List.mem_cons_self)
    have leading : (c.toNat - 48) * 10 ^ digits.length ≤ 9 * 10 ^ digits.length :=
      Nat.mul_le_mul_right _ (by omega)
    rw [← List.singleton_append, digitsValue_append, single, List.length_append,
      List.length_singleton, Nat.add_comm 1, pow_succ]
    omega

/-- A numeral starts with a digit and so with no blank. -/
theorem Numeral.starts {value : Nat} {digits : List Char} (numeral : Numeral value digits) :
    Starts isBlankChar digits := by
  -- There is a first character, which is a digit.
  obtain ⟨c, tail, rfl⟩ := List.exists_cons_of_ne_nil numeral.filled
  exact ⟨c, tail, rfl, isBlankChar_of_isDigit (numeral.digit c List.mem_cons_self)⟩

/-- The written digits of a number are a numeral for it. -/
theorem numeral_toString (value : Nat) : Numeral value (toString value).toList where
  -- The library writes at least one digit, only digits, and reads them back.
  digit := by
    intro c member
    rw [Nat.toString_eq_repr, Nat.toList_repr] at member
    exact Nat.isDigit_of_mem_toDigits (by decide) (by decide) member
  filled := by
    rw [Nat.toString_eq_repr, Nat.toList_repr]
    exact Nat.toDigits_ne_nil
  reads := by
    rw [Nat.toString_eq_repr, Nat.toList_repr, digitsValue_eq_ofDigitChars,
      Nat.ofDigitChars_ten_toDigits]

/-- Leading zeros leave a numeral with its value. -/
theorem Numeral.zeros {value : Nat} {digits : List Char} (numeral : Numeral value digits)
    (count : Nat) : Numeral value (List.replicate count '0' ++ digits) where
  -- What is put in front is a run of zeros, and they are digits of no value.
  digit := by
    intro c member
    rcases List.mem_append.mp member with zero | digit
    · rw [List.eq_of_mem_replicate zero]
      rfl
    · exact numeral.digit c digit
  filled := List.append_ne_nil_of_right_ne_nil _ numeral.filled
  reads := by
    have none : digitsValue (List.replicate count '0') = 0 := by
      rw [digitsValue_eq_ofDigitChars, Nat.ofDigitChars_replicate_zero, Nat.mul_zero]
    rw [digitsValue_append, none, Nat.zero_mul, Nat.zero_add, numeral.reads]

end EventBus
