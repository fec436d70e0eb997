import EventBus.Proofs.Calendar.Reading

/-!
The texts that are read as a moment are its spellings: any local time with the offset that leads to
it. The written form is the one with leading zeros, no offset and no more digits than it needs.
-/

namespace EventBus

namespace Moment

/-- A spelling of a moment has a local time that is ahead of it by the offset. -/
inductive Spelling (moment : Moment) : List Char → Prop
  | mk {here : Moment} {offset : Int} {chars : List Char} (written : LocalForm here offset chars)
    (minutes : moment.minuteCount = here.minuteCount - offset)
    (second : moment.time.second = here.time.second) (nano : moment.time.nano = here.time.nano) :
    Spelling moment chars

/-- No offset reaches a whole day. -/
theorem ZoneForm.short {offset : Int} {chars : List Char} (shaped : ZoneForm offset chars) :
    -1440 < offset ∧ offset < 1440 := by
  -- The minutes of an offset are bounded where it is written, and the sign makes no difference.
  have bound {minutes : Nat} {chars : List Char} (shaped : OffsetForm minutes chars) :
      minutes < 1440 := by
    obtain ⟨-, -, -, -, -, -, short⟩ := shaped
    exact short
  cases shaped with
  | name => decide
  | letter => decide
  | ahead shaped =>
    have := bound shaped
    omega
  | behind _ shaped =>
    have := bound shaped
    omega

/-- A text is read as a moment exactly if it is one of its spellings. -/
theorem parse?_eq_some_iff {chars : List Char} {moment : Moment} :
    parse? chars = some moment ↔ moment.Spelling chars := by
  rw [parse?_eq_some_iff_less?]
  -- An offset that is written is short, so it can be taken off.
  have short {here : Moment} {offset : Int} (written : LocalForm here offset chars) :
      -1440 < offset ∧ offset < 1440 := by
    obtain ⟨-, -, -, ⟨-, zone⟩, -⟩ := written
    exact zone.short
  constructor
  · rintro ⟨here, offset, written, moved⟩
    obtain ⟨minutes, second, nano⟩ := (less?_eq_some_iff (short written)).mp moved
    exact .mk written minutes second nano
  · rintro ⟨written, minutes, second, nano⟩
    exact ⟨_, _, written, (less?_eq_some_iff (short written)).mpr ⟨minutes, second, nano⟩⟩

/-- A padded number keeps its value. -/
theorem numeral_padded (width value : Nat) : Numeral value (padded width value) :=
  (numeral_toString value).zeros _

/-- A padded number has just the digits that it was given room for. -/
theorem length_padded {width value : Nat} (room : 0 < width) (fits : value < 10 ^ width) :
    (padded width value).length = width := by
  -- A number below the power has at most that many digits, and zeros fill the room.
  have digits : (toString value).toList.length ≤ width := by
    rw [String.length_toList, Nat.toString_eq_repr, Nat.length_repr_le_iff room]
    exact fits
  simp only [padded, List.length_append, List.length_replicate]
  omega

/-- All numbers but the year are written with two digits. -/
theorem partForm_padded {value : Nat} (fits : value < 100) :
    PartForm value (padded 2 value) := by
  -- Two digits are neither too few nor too many.
  have two : (padded 2 value).length = 2 := length_padded (by decide) fits
  exact ⟨numeral_padded 2 value, two.le⟩

/-- A year is written with a sign exactly if it has no four digits. -/
theorem yearForm_yearChars (year : Int) : YearForm year (yearChars year) := by
  have digits := numeral_padded 4 year.natAbs
  -- Four digits go without a sign; otherwise the sign is that of the year.
  rw [yearChars]
  split_ifs with bare negative
  · have same : (year.toNat : Int) = year := Int.toNat_of_nonneg bare.1
    have four : (padded 4 year.toNat).length = 4 := length_padded (by decide) (by omega)
    have shaped := YearForm.bare (numeral_padded 4 year.toNat) four.le
    rwa [same] at shaped
  · have same : -(year.natAbs : Int) = year := by omega
    have shaped := YearForm.before digits
    rwa [same] at shaped
  · have same : (year.natAbs : Int) = year := by omega
    have shaped := YearForm.after digits
    rwa [same] at shaped

/-- A fraction is written without loss. -/
theorem fractionForm_fractionChars {nano : Nat} (small : nano < 1000000000) :
    FractionForm nano (fractionChars nano) := by
  -- Three, six or nine digits are written, and the last of them is a whole unit.
  have written (width count : Nat) (room : 0 < width) (fits : count < 10 ^ width)
      (whole : count * 1000000000 / 10 ^ width = nano) :
      FractionForm nano ('.' :: padded width count) := by
    have shaped := FractionForm.present (numeral_padded width count)
    rwa [length_padded room fits, whole] at shaped
  have milli : (10 : Nat) ^ 3 = 1000 := by norm_num
  have micro : (10 : Nat) ^ 6 = 1000000 := by norm_num
  have one : (10 : Nat) ^ 9 = 1000000000 := by norm_num
  rw [fractionChars]
  split_ifs with none large middle
  · rw [none]
    exact .absent
  · refine written 3 _ (by decide) ?_ ?_
    · omega
    · omega
  · refine written 6 _ (by decide) ?_ ?_
    · omega
    · omega
  · refine written 9 _ (by decide) ?_ ?_
    · omega
    · omega

/-- The written form is a spelling of the moment in universal time. -/
theorem text_spelling (moment : Moment) : moment.Spelling moment.text.toList := by
  -- All numbers are in their ranges, so each has room for its digits.
  have month := moment.date.month_range
  have day := moment.date.day_range
  have length : daysIn moment.date.year moment.date.month ≤ 31 := by
    rw [daysIn]
    split_ifs <;> decide
  have hour := moment.time.hour_lt
  have minute := moment.time.minute_lt
  have second := moment.time.second_le
  have hyphen : Spaced (MarkForm '-') ['-'] := .bare rfl
  have colon : Spaced (MarkForm ':') [':'] := .bare rfl
  have date : DayForm moment.date.year moment.date.month moment.date.day _ :=
    .mk (.bare (yearForm_yearChars _)) hyphen (.bare (partForm_padded (by omega))) hyphen
      (.bare (partForm_padded (by omega)))
  have clock :
      ClockForm moment.time.hour moment.time.minute moment.time.second moment.time.nano _ :=
    .mk (.bare (partForm_padded (by omega))) colon (.bare (partForm_padded (by omega))) colon
      (.bare (partForm_padded (by omega))) (fractionForm_fractionChars moment.time.nano_lt)
  have zone : Spaced (ZoneForm 0) ['Z'] := .bare (.letter (.inl rfl))
  -- The parts one behind the other are the written form, in universal time.
  have written : LocalForm moment 0 moment.text.toList := by
    have parts := LocalForm.mk date (.inl rfl) clock zone (List.forall_mem_nil _)
    rw [text, String.toList_ofList, chars]
    simpa only [List.append_assoc, List.cons_append, List.nil_append, List.append_nil] using parts
  exact .mk written (Int.sub_zero _).symm rfl rfl

end Moment

end EventBus
