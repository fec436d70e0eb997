import EventBus.Calendar.Moment
import EventBus.Proofs.Text.Numerals

/-!
The written forms of moments, part by part. Every part but the fraction starts with a character that
is no blank, and none can be taken for more digits of the number in front of it.
-/

namespace EventBus

namespace Moment

/-- A text of some form with any number of blanks in front of it. -/
inductive Spaced (form : List Char → Prop) : List Char → Prop
  | mk {blanks body : List Char} (blank : ∀ c ∈ blanks, isBlankChar c = true) (shaped : form body) :
    Spaced form (blanks ++ body)

/-- A year has up to four digits, or a sign and any number of digits. -/
inductive YearForm : Int → List Char → Prop
  | bare {value : Nat} {digits : List Char} (numeral : Numeral value digits)
    (short : digits.length ≤ 4) : YearForm value digits
  | after {value : Nat} {digits : List Char} (numeral : Numeral value digits) :
    YearForm value ('+' :: digits)
  | before {value : Nat} {digits : List Char} (numeral : Numeral value digits) :
    YearForm (-value) ('-' :: digits)

/-- All other numbers of a date and of a time have up to two digits. -/
def PartForm (value : Nat) (digits : List Char) : Prop :=
  Numeral value digits ∧ digits.length ≤ 2

/-- A mark stands between two numbers. -/
def MarkForm (mark : Char) (chars : List Char) : Prop := chars = [mark]

/-- A fraction has any number of digits, and what is finer than a nanosecond is cut off. -/
inductive FractionForm : Nat → List Char → Prop
  | absent : FractionForm 0 []
  | present {value : Nat} {digits : List Char} (numeral : Numeral value digits) :
    FractionForm (value * 1000000000 / 10 ^ digits.length) ('.' :: digits)

/-- An offset in minutes has two digits for the hours and two for the minutes. -/
inductive OffsetForm : Nat → List Char → Prop
  | mk {hours minutes : Nat} {front gap back : List Char} (hour : Numeral hours front)
    (two : front.length = 2) (parted : ∀ c ∈ gap, (c == ':' || isBlankChar c) = true)
    (minute : Numeral minutes back) (pair : back.length = 2) (sexagesimal : minutes < 60)
    (short : hours * 60 + minutes < 1440) :
    OffsetForm (hours * 60 + minutes) (front ++ (gap ++ back))

/-- A zone is a name of universal time in either case or a signed offset from it. -/
inductive ZoneForm : Int → List Char → Prop
  | name {letters : List Char} (named : letters.map Char.toUpper = ['U', 'T', 'C']) :
    ZoneForm 0 letters
  | letter {c : Char} (zulu : c = 'Z' ∨ c = 'z') : ZoneForm 0 [c]
  | ahead {minutes : Nat} {chars : List Char} (offset : OffsetForm minutes chars) :
    ZoneForm minutes ('+' :: chars)
  | behind {minutes : Nat} {sign : Char} {chars : List Char} (minus : sign = '-' ∨ sign = '\u2212')
    (offset : OffsetForm minutes chars) : ZoneForm (-minutes) (sign :: chars)

/-- A year, a month and a day with hyphens between them. -/
inductive DayForm (year : Int) (month day : Nat) : List Char → Prop
  | mk {front hyphen middle dash back : List Char} (years : Spaced (YearForm year) front)
    (first : Spaced (MarkForm '-') hyphen) (months : Spaced (PartForm month) middle)
    (second : Spaced (MarkForm '-') dash) (days : Spaced (PartForm day) back) :
    DayForm year month day (front ++ (hyphen ++ (middle ++ (dash ++ back))))

/-- Hours, minutes and seconds with colons between them, and a fraction. -/
inductive ClockForm (hour minute second nano : Nat) : List Char → Prop
  | mk {front colon middle mark back fraction : List Char} (hours : Spaced (PartForm hour) front)
    (first : Spaced (MarkForm ':') colon) (minutes : Spaced (PartForm minute) middle)
    (last : Spaced (MarkForm ':') mark) (seconds : Spaced (PartForm second) back)
    (nanos : FractionForm nano fraction) :
    ClockForm hour minute second nano (front ++ (colon ++ (middle ++ (mark ++ (back ++ fraction)))))

/-- A day and a time of day in a zone with the given offset; blanks may stand at both ends. -/
inductive LocalForm (here : Moment) (offset : Int) : List Char → Prop
  | mk {date clock zone blanks : List Char} {between : Char}
    (day : DayForm here.date.year here.date.month here.date.day date)
    (parted : between = 'T' ∨ between = 't' ∨ between = ' ')
    (time : ClockForm here.time.hour here.time.minute here.time.second here.time.nano clock)
    (zoned : Spaced (ZoneForm offset) zone) (blank : ∀ c ∈ blanks, isBlankChar c = true) :
    LocalForm here offset (date ++ between :: (clock ++ (zone ++ blanks)))

/-- The characters that a number with a fraction consists of. -/
def isFractional (c : Char) : Bool := c.isDigit || c == '.'

variable {chars : List Char}

/-- The letter that starts the name of universal time. -/
theorem eq_of_toUpper_eq {c : Char} (upper : c.toUpper = 'U') : c = 'U' ∨ c = 'u' := by
  by_cases small : 'a'.val ≤ c.val ∧ c.val ≤ 'z'.val
  · right
    have moved : c.toUpper = _ := dif_pos small
    rw [moved] at upper
    -- The distance of the two alphabets is taken off again.
    have code := congrArg (fun letter => letter.val - ('A'.val - 'a'.val)) upper
    simp only [UInt32.add_sub_cancel] at code
    exact Char.ext code
  · left
    have same : c.toUpper = c := dif_neg small
    rwa [same] at upper

/-- A year starts with a digit or a sign. -/
theorem YearForm.starts {year : Int} (shaped : YearForm year chars) : Starts isBlankChar chars := by
  -- A numeral starts with a digit, and the others with their sign.
  cases shaped with
  | bare numeral => exact numeral.starts
  | after => exact ⟨'+', _, rfl, rfl⟩
  | before => exact ⟨'-', _, rfl, rfl⟩

theorem PartForm.starts {value : Nat} (shaped : PartForm value chars) : Starts isBlankChar chars :=
  shaped.1.starts

/-- A zone starts with a letter or a sign. -/
theorem ZoneForm.starts {offset : Int} (shaped : ZoneForm offset chars) :
    Starts isBlankChar chars ∧ Starts isFractional chars := by
  -- The first character is one of seven, and none of them is a blank, a digit or a point.
  have front : ∃ c rest, chars = c :: rest ∧ isBlankChar c = false ∧ isFractional c = false := by
    cases shaped with
    | name named =>
      obtain ⟨c, rest, rfl, first, others⟩ := List.map_eq_cons_iff.mp named
      rcases eq_of_toUpper_eq first with rfl | rfl
      · exact ⟨'U', rest, rfl, rfl, rfl⟩
      · exact ⟨'u', rest, rfl, rfl, rfl⟩
    | letter zulu =>
      rcases zulu with rfl | rfl
      · exact ⟨'Z', [], rfl, rfl, rfl⟩
      · exact ⟨'z', [], rfl, rfl, rfl⟩
    | ahead offset => exact ⟨'+', _, rfl, rfl, rfl⟩
    | behind minus offset =>
      rcases minus with rfl | rfl
      · exact ⟨'-', _, rfl, rfl, rfl⟩
      · exact ⟨'\u2212', _, rfl, rfl, rfl⟩
  obtain ⟨c, rest, rfl, solid, other⟩ := front
  exact ⟨⟨c, rest, rfl, solid⟩, ⟨c, rest, rfl, other⟩⟩

/-- No blanks have to stand in front. -/
theorem Spaced.bare {form : List Char → Prop} (shaped : form chars) : Spaced form chars :=
  @Spaced.mk form [] chars (List.forall_mem_nil _) shaped

/-- Blanks in front do not help a run to go on if it could not go on behind them. -/
theorem Spaced.starts {form : List Char → Prop} {kind : Char → Bool} (spaced : Spaced form chars)
    (starts : ∀ {body}, form body → Starts kind body)
    (other : ∀ c, isBlankChar c = true → kind c = false) : Starts kind chars := by
  -- The first character is a blank, or else that of the form behind the blanks.
  obtain ⟨blank, shaped⟩ := spaced
  rename_i blanks body
  cases blanks with
  | nil => exact starts shaped
  | cons c blanks => exact ⟨c, blanks ++ body, rfl, other c (blank c List.mem_cons_self)⟩

/-- A number ends where a mark stands behind it. -/
theorem Spaced.mark_starts {mark : Char} (spaced : Spaced (MarkForm mark) chars)
    (other : mark.isDigit = false) : Starts Char.isDigit chars :=
  spaced.starts (fun shaped => ⟨mark, [], shaped, other⟩) fun _ => isDigit_of_isBlankChar

/-- A number and its fraction end where a zone stands behind them. -/
theorem Spaced.zone_starts {offset : Int} (spaced : Spaced (ZoneForm offset) chars) :
    Starts isFractional chars := by
  -- A blank is neither a digit nor a point.
  refine spaced.starts (fun shaped => shaped.starts.2) ?_
  intro c blank
  rw [isFractional, isDigit_of_isBlankChar blank, Bool.false_or, beq_eq_false_iff_ne]
  rintro rfl
  cases blank

end Moment

end EventBus
