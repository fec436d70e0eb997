import EventBus.Calendar.Reader
import EventBus.Proofs.Calendar.Forms
import EventBus.Proofs.Calendar.Offsets
import Mathlib.Tactic.NormNum
import Mathlib.Tactic.Positivity

/-!
Each reader takes the texts of one form off the front of a text. It reads nothing else, and it reads
all of them wherever the run of characters at their end cannot go on.
-/

namespace EventBus

namespace Moment

/-- A reader that takes exactly the texts of a form off a text which breaks off a kind of run. -/
structure Reads {α : Type} (reader : List Char → Option (α × List Char))
    (form : α → List Char → Prop) (kind : Char → Bool) : Prop where
  /-- What has been read is a text of the form in front of what is left. -/
  sound {chars rest : List Char} {value : α} (read : reader chars = some (value, rest)) :
    ∃ front, form value front ∧ chars = front ++ rest
  /-- Every text of the form is read. -/
  complete {front rest : List Char} {value : α} (shaped : form value front)
    (breaks : Breaks kind rest) : reader (front ++ rest) = some (value, rest)

/-- Blanks are skipped in front of a text that starts with none. -/
theorem skipBlanks_append {blanks chars : List Char} (blank : ∀ c ∈ blanks, isBlankChar c = true)
    (breaks : Breaks isBlankChar chars) : skipBlanks (blanks ++ chars) = chars :=
  dropWhile_append_breaks blank breaks

/-- A text is made of the blanks at its front and the rest. -/
theorem exists_blanks (chars : List Char) :
    ∃ blanks, (∀ c ∈ blanks, isBlankChar c = true) ∧ chars = blanks ++ skipBlanks chars :=
  -- The blanks in front are those that are taken while there are any.
  ⟨chars.takeWhile isBlankChar, fun _ => List.mem_takeWhile_imp,
    List.takeWhile_append_dropWhile.symm⟩

/-- A reader that skips blanks first reads spaced texts. -/
theorem Reads.spaced {α : Type} {reader : List Char → Option (α × List Char)}
    {form : α → List Char → Prop} {kind : Char → Bool} (reads : Reads reader form kind)
    (starts : ∀ {value chars}, form value chars → Starts isBlankChar chars) :
    Reads (fun chars => reader (skipBlanks chars)) (fun value => Spaced (form value)) kind where
  sound := by
    -- What the reader has taken stands behind the blanks that have been skipped.
    intro chars rest value read
    obtain ⟨blanks, blank, split⟩ := exists_blanks chars
    obtain ⟨front, shaped, cut⟩ := reads.sound read
    refine ⟨blanks ++ front, .mk blank shaped, ?_⟩
    rw [List.append_assoc, ← cut, ← split]
  complete := by
    rintro _ rest value ⟨blank, shaped⟩ breaks
    show reader (skipBlanks _) = _
    -- The form starts with no blank, so just the blanks in front are skipped.
    rw [List.append_assoc, skipBlanks_append blank ((starts shaped).breaks rest)]
    exact reads.complete shaped breaks

/-- A number of up to a given width is read. -/
theorem readNumber?_reads (width : Nat) :
    Reads (readNumber? width) (fun value digits => Numeral value digits ∧ digits.length ≤ width)
      Char.isDigit where
  sound := by
    intro chars rest value read
    simp only [readNumber?, List.isEmpty_iff, Option.ite_none_left_eq_some, Option.some.injEq,
      -- The digits are those in front, up to the width.
      Prod.mk.injEq] at read
    obtain ⟨filled, reads, cut⟩ := read
    have front : (chars.take width).takeWhile Char.isDigit <+: chars :=
      (List.takeWhile_prefix _).trans (List.take_prefix width chars)
    refine ⟨(chars.take width).takeWhile Char.isDigit,
      ⟨⟨fun _ => List.mem_takeWhile_imp, filled, reads⟩, ?_⟩, ?_⟩
    · exact (List.takeWhile_prefix _).length_le.trans (List.length_take_le width chars)
    · rw [← cut]
      exact (List.prefix_iff_eq_append.mp front).symm
  complete := by
    rintro front rest value ⟨numeral, short⟩ breaks
    -- A numeral that is short enough is taken as a whole, and ends where no digit follows.
    have digits : ((front ++ rest).take width).takeWhile Char.isDigit = front := by
      rw [List.take_append, List.take_of_length_le short]
      exact takeWhile_append_breaks numeral.digit (breaks.take _)
    simp only [readNumber?, digits, List.isEmpty_iff, numeral.filled, if_false, numeral.reads,
      List.drop_left]

/-- A number of up to two digits is read behind blanks. -/
theorem readPart?_reads :
    Reads readPart? (fun value => Spaced (PartForm value)) Char.isDigit :=
  (readNumber?_reads 2).spaced PartForm.starts

/-- A year is read behind blanks. -/
theorem readYear?_reads : Reads readYear? (fun year => Spaced (YearForm year)) Char.isDigit where
  sound := by
    intro chars rest year read
    obtain ⟨blanks, blank, cut⟩ := exists_blanks chars
    simp only [readYear?] at read
    -- The first character behind the blanks tells how the digits are read.
    split at read
    · next tail signed =>
      obtain ⟨⟨value, behind⟩, number, found⟩ := Option.map_eq_some_iff.mp read
      obtain ⟨digits, ⟨numeral, -⟩, rfl⟩ := (readNumber?_reads _).sound number
      cases found
      exact ⟨blanks ++ '-' :: digits, .mk blank (.before numeral), by simpa [signed] using cut⟩
    · next tail signed =>
      obtain ⟨⟨value, behind⟩, number, found⟩ := Option.map_eq_some_iff.mp read
      obtain ⟨digits, ⟨numeral, -⟩, rfl⟩ := (readNumber?_reads _).sound number
      cases found
      exact ⟨blanks ++ '+' :: digits, .mk blank (.after numeral), by simpa [signed] using cut⟩
    · obtain ⟨⟨value, behind⟩, number, found⟩ := Option.map_eq_some_iff.mp read
      obtain ⟨digits, ⟨numeral, short⟩, bare⟩ := (readNumber?_reads 4).sound number
      cases found
      exact ⟨blanks ++ digits, .mk blank (.bare numeral short), by simpa [bare] using cut⟩
  complete := by
    rintro _ rest year @⟨blanks, body, blank, shaped⟩ breaks
    rw [readYear?.eq_def, List.append_assoc, skipBlanks_append blank (shaped.starts.breaks rest)]
    -- Behind a sign the digits may fill the whole rest of the text.
    have long (digits : List Char) : digits.length ≤ (digits ++ rest).length := by
      rw [List.length_append]
      exact Nat.le_add_right _ _
    cases shaped with
    | bare numeral short =>
      have number := (readNumber?_reads 4).complete ⟨numeral, short⟩ breaks
      have front {c : Char} {tail : List Char} (first : body ++ rest = c :: tail) :
          c.isDigit = true := by
        obtain ⟨d, digits, rfl⟩ := List.exists_cons_of_ne_nil numeral.filled
        cases first
        exact numeral.digit c List.mem_cons_self
      split
      · next signed => exact absurd (front signed) (by decide)
      · next signed => exact absurd (front signed) (by decide)
      · rw [number]
        rfl
    | @after value digits numeral =>
      have number := (readNumber?_reads _).complete ⟨numeral, long digits⟩ breaks
      show (readNumber? (digits ++ rest).length (digits ++ rest)).map _ = _
      rw [number]
      rfl
    | @before value digits numeral =>
      have number := (readNumber?_reads _).complete ⟨numeral, long digits⟩ breaks
      show (readNumber? (digits ++ rest).length (digits ++ rest)).map _ = _
      rw [number]
      rfl

/-- A mark that is no blank is read behind blanks. -/
theorem readMark?_sound {mark : Char} {chars rest : List Char}
    (read : readMark? mark chars = some rest) :
    ∃ front, Spaced (MarkForm mark) front ∧ chars = front ++ rest := by
  -- The mark is the first character that is no blank.
  obtain ⟨blanks, blank, cut⟩ := exists_blanks chars
  rw [readMark?] at read
  split at read
  · next c tail first =>
    split_ifs at read with same
    cases read
    subst same
    exact ⟨blanks ++ [c], .mk blank rfl, by simpa [first] using cut⟩
  · cases read

theorem readMark?_complete {mark : Char} {front : List Char} (solid : isBlankChar mark = false)
    (spaced : Spaced (MarkForm mark) front) (rest : List Char) :
    readMark? mark (front ++ rest) = some rest := by
  obtain ⟨blank, rfl⟩ := spaced
  -- The mark is no blank, so the skipping ends in front of it.
  have breaks : Breaks isBlankChar ([mark] ++ rest) := breaks_cons solid
  rw [readMark?, List.append_assoc, skipBlanks_append blank breaks]
  show (if mark = mark then some rest else none) = some rest
  rw [if_pos rfl]

/-- The first nine digits of a fraction tell how many whole nanoseconds it has. -/
theorem fraction_eq {digits : List Char} (digit : ∀ c ∈ digits, c.isDigit = true) :
    digitsValue (digits.take 9) * Nat.pow 10 (9 - (digits.take 9).length)
      = digitsValue digits * 1000000000 / 10 ^ digits.length := by
  have billion : 1000000000 = 10 ^ 9 := by norm_num
  by_cases short : digits.length ≤ 9
  · -- A short fraction is a whole number of nanoseconds.
    have split : 10 ^ 9 = 10 ^ (9 - digits.length) * 10 ^ digits.length := by
      rw [← pow_add, Nat.sub_add_cancel short]
    rw [List.take_of_length_le short, billion, split, ← Nat.mul_assoc,
      Nat.mul_div_cancel _ (by positivity)]
    rfl
  · -- The digits behind the ninth are less than one nanosecond.
    have rest : digitsValue (digits.drop 9) < 10 ^ (digits.drop 9).length :=
      digitsValue_lt fun c member => digit c (List.mem_of_mem_drop member)
    have nine : (digits.take 9).length = 9 := by
      rw [List.length_take]
      omega
    have value := digitsValue_append (digits.take 9) (digits.drop 9)
    have length := @List.length_append _ (digits.take 9) (digits.drop 9)
    rw [List.take_append_drop] at value length
    rw [value, length, nine, billion, pow_add, Nat.mul_comm (10 ^ 9) (10 ^ _),
      Nat.mul_div_mul_right _ _ (by positivity), Nat.add_comm (_ * _),
      Nat.add_mul_div_right _ _ (by positivity), Nat.div_eq_of_lt rest, Nat.zero_add]
    exact Nat.mul_one _

/-- A fraction is read together with all of its digits. -/
theorem readFraction?_reads : Reads readFraction? FractionForm isFractional where
  sound := by
    intro chars rest nano read
    -- There is a fraction exactly if there is a point.
    rw [readFraction?.eq_def] at read
    split at read
    · next tail =>
      simp only [List.isEmpty_iff, Option.ite_none_left_eq_some, Option.some.injEq,
        Prod.mk.injEq] at read
      obtain ⟨filled, rfl, rfl⟩ := read
      rw [← List.take_takeWhile] at filled ⊢
      have digit : ∀ c ∈ tail.takeWhile Char.isDigit, c.isDigit = true :=
        fun c member => List.mem_takeWhile_imp member
      have some : tail.takeWhile Char.isDigit ≠ [] := by
        intro none
        rw [none] at filled
        exact filled rfl
      rw [fraction_eq digit]
      refine ⟨'.' :: tail.takeWhile Char.isDigit, .present ⟨digit, some, rfl⟩, ?_⟩
      rw [List.cons_append, List.takeWhile_append_dropWhile]
    · cases read
      exact ⟨[], .absent, rfl⟩
  complete := by
    intro front rest nano shaped breaks
    -- Without a point nothing is taken; with one, all digits behind it are.
    cases shaped with
    | absent =>
      rw [List.nil_append, readFraction?.eq_def]
      split
      · exact absurd (breaks '.' rfl) (by decide)
      · rfl
    | @present value digits numeral =>
      have stop : Breaks Char.isDigit rest := by
        intro c first
        exact (Bool.or_eq_false_iff.mp (breaks c first)).1
      have run := takeWhile_append_breaks numeral.digit stop
      have nine : digits.take 9 ≠ [] := by
        rw [Ne, List.take_eq_nil_iff]
        exact not_or.mpr ⟨by decide, numeral.filled⟩
      rw [List.cons_append]
      simp only [readFraction?]
      rw [← List.take_takeWhile, run, if_neg (by simpa using nine), fraction_eq numeral.digit,
        numeral.reads, dropWhile_append_breaks numeral.digit stop]

/-- Two digits are read whose value stays below the bound for the first of them. -/
theorem readPair?_reads (bound : Nat) :
    Reads (readPair? bound)
      (fun value digits => Numeral value digits ∧ digits.length = 2 ∧ value < (bound + 1) * 10)
      (fun _ => false) where
  sound := by
    intro chars rest value read
    rw [readPair?.eq_def] at read
    split at read
    · -- Both characters are digits, and the first one is at most the bound.
      next a b tail =>
      split_ifs at read with fits
      cases read
      simp only [Bool.and_eq_true, decide_eq_true_eq] at fits
      obtain ⟨⟨first, second⟩, low⟩ := fits
      have code := isDigit_iff.mp second
      refine ⟨[a, b], ⟨⟨?_, List.cons_ne_nil _ _, ?_⟩, rfl, by omega⟩, rfl⟩
      · simp [first, second]
      · simp [digitsValue]
    · cases read
  complete := by
    rintro front rest value ⟨numeral, two, low⟩ breaks
    -- The two digits of the numeral are the two characters that are taken.
    obtain ⟨a, b, rfl⟩ := List.length_eq_two.mp two
    have first : a.isDigit = true := numeral.digit a (by simp)
    have second : b.isDigit = true := numeral.digit b (by simp)
    have reads : (a.toNat - 48) * 10 + (b.toNat - 48) = value := by
      simpa [digitsValue] using numeral.reads
    have fits : a.toNat - 48 ≤ bound := by omega
    simp [readPair?, first, second, fits, reads]

/-- An offset is read as minutes ahead of universal time or behind it. -/
theorem readSigned?_reads (negative : Bool) :
    Reads (readSigned? negative)
      (fun offset chars => ∃ minutes : Nat, OffsetForm minutes chars ∧
        offset = if negative then -(minutes : Int) else minutes)
      (fun _ => false) where
  sound := by
    intro chars rest offset read
    simp only [readSigned?, Option.bind_eq_bind, Option.bind_eq_some_iff, Prod.exists,
      -- Two pairs of digits are read, with colons and blanks between them passed over.
      Option.ite_none_right_eq_some, Option.some.injEq, Prod.mk.injEq] at read
    obtain ⟨hours, middle, first, minutes, last, second, short, rfl, rfl⟩ := read
    obtain ⟨front, ⟨hour, two, -⟩, rfl⟩ := (readPair?_reads 9).sound first
    obtain ⟨back, ⟨minute, pair, sexagesimal⟩, cut⟩ := (readPair?_reads 5).sound second
    let parts : Char → Bool := fun c => c == ':' || isBlankChar c
    have gap : ∀ c ∈ middle.takeWhile parts, parts c = true :=
      fun c member => List.mem_takeWhile_imp member
    refine ⟨front ++ (middle.takeWhile parts ++ back), ⟨hours * 60 + minutes,
      .mk hour two gap minute pair sexagesimal (by omega), ?_⟩, ?_⟩
    · push_cast
      rfl
    · rw [List.append_assoc, List.append_assoc, ← cut, List.takeWhile_append_dropWhile]
  complete := by
    rintro _ rest offset ⟨_, @⟨hours, minutes, front, gap, back, hour, two, parted, minute, pair,
      sexagesimal, short⟩, rfl⟩ breaks
    have bound : hours < 100 := by
      have small := digitsValue_lt hour.digit
      rwa [hour.reads, two] at small
    -- The second number starts with a digit, which is neither a colon nor a blank.
    have stop : Breaks (fun c => c == ':' || isBlankChar c) (back ++ rest) := by
      obtain ⟨c, tail, rfl⟩ := List.exists_cons_of_ne_nil minute.filled
      have digit := minute.digit c List.mem_cons_self
      refine breaks_cons ?_
      rw [isBlankChar_of_isDigit digit, Bool.or_false, beq_eq_false_iff_ne]
      rintro rfl
      cases digit
    have first : readPair? 9 (front ++ (gap ++ (back ++ rest)))
        = some (hours, gap ++ (back ++ rest)) :=
      (readPair?_reads 9).complete ⟨hour, two, bound⟩ fun _ _ => rfl
    have second : readPair? 5 (back ++ rest) = some (minutes, rest) :=
      (readPair?_reads 5).complete ⟨minute, pair, sexagesimal⟩ breaks
    have total : (hours : Int) * 60 + minutes < 1440 := by omega
    simp only [readSigned?, Option.bind_eq_bind, List.append_assoc, first, Option.bind_some,
      dropWhile_append_breaks parted stop, second, if_pos total]
    push_cast
    rfl

/-- A zone is read whatever follows it. -/
theorem readZone?_reads : Reads readZone? ZoneForm (fun _ => false) where
  sound := by
    intro chars rest offset read
    rw [readZone?.eq_def] at read
    -- The name is tried first, and then the first character tells the kind of the zone.
    simp only at read
    split_ifs at read with named
    · cases read
      exact ⟨chars.take 3, .name named, (List.take_append_drop 3 chars).symm⟩
    · split at read
      · cases read
        exact ⟨['Z'], .letter (.inl rfl), rfl⟩
      · cases read
        exact ⟨['z'], .letter (.inr rfl), rfl⟩
      · obtain ⟨front, ⟨minutes, shaped, rfl⟩, rfl⟩ := (readSigned?_reads false).sound read
        exact ⟨'+' :: front, .ahead shaped, rfl⟩
      · obtain ⟨front, ⟨minutes, shaped, rfl⟩, rfl⟩ := (readSigned?_reads true).sound read
        exact ⟨'-' :: front, .behind (.inl rfl) shaped, rfl⟩
      · obtain ⟨front, ⟨minutes, shaped, rfl⟩, rfl⟩ := (readSigned?_reads true).sound read
        exact ⟨'\u2212' :: front, .behind (.inr rfl) shaped, rfl⟩
      · cases read
  complete := by
    intro front rest offset shaped breaks
    -- No zone but the name starts as the name does.
    have unnamed {c : Char} {tail : List Char} (other : c.toUpper ≠ 'U') :
        ((c :: tail).take 3).map Char.toUpper ≠ ['U', 'T', 'C'] := by
      intro same
      exact other (List.cons.inj same).1
    rw [readZone?.eq_def]
    simp only
    cases shaped with
    | name named =>
      have three : front.length = 3 := by
        have same := congrArg List.length named
        rwa [List.length_map] at same
      rw [List.take_left' three, if_pos named, List.drop_left' three]
    | letter zulu =>
      rcases zulu with rfl | rfl
      · exact if_neg (unnamed (by decide))
      · exact if_neg (unnamed (by decide))
    | ahead shaped =>
      rw [List.cons_append, if_neg (unnamed (by decide))]
      exact (readSigned?_reads false).complete ⟨_, shaped, rfl⟩ breaks
    | behind minus shaped =>
      have read := (readSigned?_reads true).complete ⟨_, shaped, rfl⟩ breaks
      rcases minus with rfl | rfl
      · rw [List.cons_append, if_neg (unnamed (by decide))]
        exact read
      · rw [List.cons_append, if_neg (unnamed (by decide))]
        exact read

/-- The three numbers of a day. -/
def readDay? (chars : List Char) : Option ((Int × Nat × Nat) × List Char) :=
  (readYear? chars).bind fun year =>
    (readMark? '-' year.2).bind fun rest =>
      (readPart? rest).bind fun month =>
        (readMark? '-' month.2).bind fun rest =>
          (readPart? rest).map fun day => ((year.1, month.1, day.1), day.2)

/-- What parts the day from the time. -/
def readBetween? : List Char → Option (List Char)
  | 'T' :: rest | 't' :: rest | ' ' :: rest => some rest
  | _ => none

/-- The numbers of a time of day -/
def readClock? (chars : List Char) : Option ((Nat × Nat × Nat × Nat) × List Char) :=
  (readPart? chars).bind fun hour =>
    (readMark? ':' hour.2).bind fun rest =>
      (readPart? rest).bind fun minute =>
        (readMark? ':' minute.2).bind fun rest =>
          (readPart? rest).bind fun second =>
            (readFraction? second.2).map fun nano =>
              ((hour.1, minute.1, second.1, nano.1), nano.2)

theorem parse?_eq (chars : List Char) :
    parse? chars = (readDay? chars).bind fun day =>
      (readBetween? day.2).bind fun rest =>
        (readClock? rest).bind fun clock =>
          (readZone? (skipBlanks clock.2)).bind fun zone =>
            (Date.of? day.1.1 day.1.2.1 day.1.2.2).bind fun date =>
              (TimeOfDay.of? clock.1.1 clock.1.2.1 clock.1.2.2.1 clock.1.2.2.2).bind fun time =>
                if zone.2.all isBlankChar then less? ⟨date, time⟩ zone.1 else none := by
  -- Reading the day and the time of day takes several steps, which are brought together here.
  rw [readDay?]
  simp only [Option.bind_assoc, Option.bind_map]
  refine Option.bind_congr fun year _ => ?_
  refine Option.bind_congr fun rest _ => ?_
  refine Option.bind_congr fun month _ => ?_
  refine Option.bind_congr fun rest _ => ?_
  refine Option.bind_congr fun day _ => ?_
  obtain ⟨day, behind⟩ := day
  dsimp only [Function.comp]
  simp only [readClock?, Option.bind_assoc, Option.bind_map]
  -- Between them there is one of three characters, or the reading ends.
  split
  · rfl
  · rfl
  · rfl
  · next other third second first =>
    rw [readBetween?.eq_4 behind third second first]
    rfl

/-- A day is read before anything that is no digit. -/
theorem readDay?_reads :
    Reads readDay? (fun day => DayForm day.1 day.2.1 day.2.2) Char.isDigit where
  sound := by
    -- Each of the five parts is taken behind the one before it.
    rintro chars rest ⟨y, m, d⟩ read
    simp only [readDay?, Option.bind_eq_some_iff, Option.map_eq_some_iff, Prod.exists,
      Prod.mk.injEq] at read
    obtain ⟨year, _, front, _, hyphen, month, _, middle, _, dash, day, _, back, numbers, rfl⟩ :=
      read
    obtain ⟨rfl, rfl, rfl⟩ := numbers
    obtain ⟨_, years, rfl⟩ := readYear?_reads.sound front
    obtain ⟨_, first, rfl⟩ := readMark?_sound hyphen
    obtain ⟨_, months, rfl⟩ := readPart?_reads.sound middle
    obtain ⟨_, second, rfl⟩ := readMark?_sound dash
    obtain ⟨_, days, rfl⟩ := readPart?_reads.sound back
    exact ⟨_, .mk years first months second days, by simp only [List.append_assoc]⟩
  complete := by
    rintro _ rest ⟨y, m, d⟩ ⟨years, first, months, second, days⟩ breaks
    -- Each number ends where the mark behind it starts.
    have one := first.mark_starts (by decide)
    have two := second.mark_starts (by decide)
    simp only [readDay?, List.append_assoc]
    rw [readYear?_reads.complete years (one.breaks _), Option.bind_some,
      readMark?_complete (by decide) first, Option.bind_some,
      readPart?_reads.complete months (two.breaks _), Option.bind_some,
      readMark?_complete (by decide) second, Option.bind_some,
      readPart?_reads.complete days breaks, Option.map_some]

/-- A time of day is read before anything that can be no part of its last number. -/
theorem readClock?_reads :
    Reads readClock? (fun clock => ClockForm clock.1 clock.2.1 clock.2.2.1 clock.2.2.2)
      isFractional where
  sound := by
    rintro chars rest ⟨h, m, s, n⟩ read
    -- Each of the six parts is taken behind the one before it.
    simp only [readClock?, Option.bind_eq_some_iff, Option.map_eq_some_iff, Prod.exists,
      Prod.mk.injEq] at read
    obtain ⟨hour, _, front, _, colon, minute, _, middle, _, mark, second, _, back, nano, _,
      fraction, numbers, rfl⟩ := read
    obtain ⟨rfl, rfl, rfl, rfl⟩ := numbers
    obtain ⟨_, hours, rfl⟩ := readPart?_reads.sound front
    obtain ⟨_, first, rfl⟩ := readMark?_sound colon
    obtain ⟨_, minutes, rfl⟩ := readPart?_reads.sound middle
    obtain ⟨_, last, rfl⟩ := readMark?_sound mark
    obtain ⟨_, seconds, rfl⟩ := readPart?_reads.sound back
    obtain ⟨_, nanos, rfl⟩ := readFraction?_reads.sound fraction
    exact ⟨_, .mk hours first minutes last seconds nanos, by simp only [List.append_assoc]⟩
  complete := by
    rintro _ rest ⟨h, m, s, n⟩ @⟨_, _, _, _, _, fraction, hours, first, minutes, last, seconds,
      nanos⟩ breaks
    -- Each number ends where the mark behind it starts, blanks included.
    have one := first.mark_starts (by decide)
    have two := last.mark_starts (by decide)
    -- The seconds end at the point of their fraction, or else at what follows it.
    have three : Breaks Char.isDigit (fraction ++ rest) := by
      cases nanos with
      | absent =>
        intro c first
        exact (Bool.or_eq_false_iff.mp (breaks c first)).1
      | present => exact breaks_cons rfl
    simp only [readClock?, List.append_assoc]
    rw [readPart?_reads.complete hours (one.breaks _), Option.bind_some,
      readMark?_complete (by decide) first, Option.bind_some,
      readPart?_reads.complete minutes (two.breaks _), Option.bind_some,
      readMark?_complete (by decide) last, Option.bind_some,
      readPart?_reads.complete seconds three, Option.bind_some,
      readFraction?_reads.complete nanos breaks, Option.map_some]

/-- What parts a day from a time is one of three characters. -/
theorem readBetween?_eq_some_iff {chars rest : List Char} :
    readBetween? chars = some rest ↔
      ∃ between, (between = 'T' ∨ between = 't' ∨ between = ' ') ∧ chars = between :: rest := by
  constructor
  · -- One case for each of the three characters, and one for all others.
    intro read
    rw [readBetween?.eq_def] at read
    split at read
    · cases read
      exact ⟨'T', .inl rfl, rfl⟩
    · cases read
      exact ⟨'t', .inr (.inl rfl), rfl⟩
    · cases read
      exact ⟨' ', .inr (.inr rfl), rfl⟩
    · cases read
  · rintro ⟨between, rfl | rfl | rfl, rfl⟩ <;> rfl

/-- A text is read by taking its offset off its local time. -/
theorem parse?_eq_some_iff_less? {chars : List Char} {moment : Moment} :
    parse? chars = some moment ↔
      ∃ here offset, LocalForm here offset chars ∧ here.less? offset = some moment := by
  rw [parse?_eq]
  constructor
  · -- What each reader has taken is a form of its own, and together they are the local time.
    intro read
    simp only [Option.bind_eq_some_iff, Prod.exists, Option.ite_none_right_eq_some,
      readBetween?_eq_some_iff] at read
    obtain ⟨year, month, day, _, front, _, ⟨between, parted, rfl⟩, hour, minute, second, nano, _,
      middle, offset, blanks, back, date, days, time, clock, blank, moved⟩ := read
    obtain ⟨rfl, rfl, rfl⟩ := Date.of?_eq_some_iff.mp days
    obtain ⟨rfl, rfl, rfl, rfl⟩ := TimeOfDay.of?_eq_some_iff.mp clock
    obtain ⟨_, shaped, rfl⟩ := readDay?_reads.sound front
    obtain ⟨_, timed, rfl⟩ := readClock?_reads.sound middle
    obtain ⟨_, zoned, rfl⟩ := (readZone?_reads.spaced fun zone => zone.starts.1).sound back
    exact ⟨⟨date, time⟩, offset, .mk shaped parted timed zoned (List.all_eq_true.mp blank), moved⟩
  · rintro ⟨⟨date, time⟩, offset, @⟨front, middle, zone, blanks, between, day, parted, clock,
      zoned, blank⟩, moved⟩
    -- None of the characters that part a day from a time could be one more digit.
    have stop (rest : List Char) : Breaks Char.isDigit (between :: rest) := by
      rcases parted with rfl | rfl | rfl <;> exact breaks_cons rfl
    have dayRead : readDay? (front ++ between :: (middle ++ (zone ++ blanks)))
        = some ((date.year, date.month, date.day), between :: (middle ++ (zone ++ blanks))) :=
      readDay?_reads.complete day (stop _)
    have clockRead : readClock? (middle ++ (zone ++ blanks))
        = some ((time.hour, time.minute, time.second, time.nano), zone ++ blanks) :=
      readClock?_reads.complete clock (zoned.zone_starts.breaks _)
    have zoneRead : readZone? (skipBlanks (zone ++ blanks)) = some (offset, blanks) :=
      (readZone?_reads.spaced fun zone => zone.starts.1).complete zoned fun _ _ => rfl
    rw [dayRead, Option.bind_some, readBetween?_eq_some_iff.mpr ⟨between, parted, rfl⟩,
      Option.bind_some, clockRead, Option.bind_some, zoneRead, Option.bind_some,
      Date.of?_eq_some_iff.mpr ⟨rfl, rfl, rfl⟩, Option.bind_some,
      TimeOfDay.of?_eq_some_iff.mpr ⟨rfl, rfl, rfl, rfl⟩, Option.bind_some,
      if_pos (List.all_eq_true.mpr blank)]
    exact moved

end Moment

end EventBus
