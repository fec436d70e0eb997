import EventBus.Json.Number
import EventBus.Proofs.Text.Numerals

/-!
Numbers are told apart by their texts. The text of a decimal number is read back as that number, and
shows by a point or a power of ten that it is no whole number.
-/

namespace EventBus

/-- Whether a character may stand in the text of a number. -/
def isNumberChar (c : Char) : Bool := c.isDigit || c == '-' || c == '+' || c == '.' || c == 'e'

/-- Digits stand in the texts of numbers. -/
theorem isNumberChar_of_isDigit {c : Char} (digit : c.isDigit = true) : isNumberChar c = true := by
  -- A digit is one of the characters that are named for numbers.
  simp only [isNumberChar, digit, Bool.true_or]

/-- A run of digits is split from what cannot continue it. -/
theorem splitDigits_append {run rest : List Char} (digit : ∀ c ∈ run, c.isDigit = true)
    (breaks : Breaks Char.isDigit rest) : splitDigits (run ++ rest) = (run, rest) :=
  congrArg₂ Prod.mk (takeWhile_append_breaks digit breaks) (dropWhile_append_breaks digit breaks)

/-- Whole numbers are told apart by their texts. -/
theorem whole_eq_of_text {first second : Int}
    (same : (toString first).toList = (toString second).toList) : first = second := by
  -- A whole number is written as its digits, behind a sign if it is negative.
  have text (n : Nat) : (toString (Int.ofNat n)).toList = (toString n).toList := rfl
  have signed (n : Nat) : (toString (Int.negSucc n)).toList = '-' :: (toString (n + 1)).toList :=
    String.toList_append
  -- No digit is taken for a sign.
  have unsigned (n : Nat) (rest : List Char) : (toString n).toList ≠ '-' :: rest := fun equal =>
    absurd ((numeral_toString n).digit '-' (equal ▸ List.mem_cons_self)) (by decide)
  have value {m n : Nat} (same : (toString m).toList = (toString n).toList) : m = n :=
    (numeral_toString m).reads.symm.trans (same ▸ (numeral_toString n).reads)
  cases first with
  | ofNat m =>
    rw [text] at same
    cases second with
    | ofNat n => exact congrArg Int.ofNat (value same)
    | negSucc n => exact absurd (same.trans (signed n)) (unsigned m _)
  | negSucc m =>
    rw [signed] at same
    cases second with
    | ofNat n => exact absurd same.symm (unsigned n _)
    | negSucc n =>
      rw [signed] at same
      exact congrArg Int.negSucc (Nat.succ.inj (value (List.cons.inj same).2))

namespace Decimal

/-- The number of a spelling without its sign. -/
def ofUnsigned? (negative : Bool) (chars : List Char) : Option Decimal :=
  let (front, rest) := splitDigits chars
  match rest with
  | '.' :: behind =>
    let (fraction, power) := splitDigits behind
    (Json.exponent? power).map fun exponent =>
      ofDigits negative (digitsValue (front ++ fraction)) (exponent - fraction.length)
  | power => (Json.exponent? power).map (ofDigits negative (digitsValue front))

/-- The number of a spelling. -/
def ofChars? : List Char → Option Decimal
  | '-' :: chars => ofUnsigned? true chars
  | chars => ofUnsigned? false chars

variable {negative : Bool} {front fraction power : List Char} {exponent : Int}

/-- A spelling with a point is read digit by digit on both sides of it. -/
theorem ofUnsigned?_point (before : ∀ c ∈ front, c.isDigit = true)
    (behind : ∀ c ∈ fraction, c.isDigit = true) (breaks : Breaks Char.isDigit power)
    (raised : Json.exponent? power = some exponent) :
    ofUnsigned? negative (front ++ '.' :: (fraction ++ power)) =
      some (ofDigits negative (digitsValue (front ++ fraction)) (exponent - fraction.length)) := by
  -- The digits end at the point and at the power, and what is read is put together.
  have point : Breaks Char.isDigit ('.' :: (fraction ++ power)) := breaks_cons rfl
  simp only [ofUnsigned?, splitDigits_append before point, splitDigits_append behind breaks, raised,
    Option.map_some]

/-- A spelling without a point is its digits and the power of ten. -/
theorem ofUnsigned?_bare (before : ∀ c ∈ front, c.isDigit = true)
    (breaks : Breaks Char.isDigit power) (bare : ∀ rest, power ≠ '.' :: rest)
    (raised : Json.exponent? power = some exponent) :
    ofUnsigned? negative (front ++ power) =
      some (ofDigits negative (digitsValue front) exponent) := by
  -- The digits end at the power, and there is no fraction.
  simp only [ofUnsigned?, splitDigits_append before breaks, raised, Option.map_some]

/-- Zeros behind the digits of a number pass into its power of ten. -/
theorem ofDigits_zeros (d : Decimal) (count : Nat) :
    ofDigits d.negative (d.digits * 10 ^ count) (d.exponent - count) = d := by
  obtain ⟨negative, digits, exponent, reduced⟩ := d
  by_cases zero : digits = 0
  · -- Zero has a single form.
    subst zero
    obtain ⟨-, rfl⟩ := reduced.resolve_left (by decide)
    rw [ofDigits, dif_pos (Nat.zero_mul _)]
  · -- Each zero is divided away again, and counts as one place.
    have last : digits % 10 ≠ 0 := reduced.resolve_right fun other => zero other.1
    induction count with
    | zero =>
      rw [ofDigits, dif_neg (by simpa using zero), dif_neg (by simpa using last)]
      simp
    | succ count ih =>
      have shifted : digits * 10 ^ (count + 1) = digits * 10 ^ count * 10 := by
        rw [pow_succ, Nat.mul_assoc]
      have filled : digits * 10 ^ count ≠ 0 :=
        Nat.mul_ne_zero zero (Nat.pow_pos (by decide)).ne'
      simp only at ih ⊢
      rw [ofDigits, dif_neg (by omega), dif_pos (by omega), shifted,
        Nat.mul_div_cancel _ (by decide), ← ih]
      congr 1
      omega

/-- The digits of a number stand for them. -/
theorem numeral_figures (d : Decimal) : Numeral d.digits d.figures := numeral_toString d.digits

/-- A written power of ten is read back. -/
theorem exponent?_power (power : Int) :
    Json.exponent?
        ('e' :: (if power < 0 then '-' else '+') :: (toString power.natAbs).toList) =
      some power := by
  -- What stands behind the sign are digits, and there is one at least.
  have digits := numeral_toString power.natAbs
  have filled : (toString power.natAbs).toList.isEmpty = false := by
    simp
  have all : (toString power.natAbs).toList.all Char.isDigit = true :=
    List.all_eq_true.mpr digits.digit
  split_ifs with below
  · have signed : -(power.natAbs : Int) = power := by omega
    simp only [Json.exponent?, filled, all, digits.reads]
    rw [if_pos ⟨.inl trivial, rfl, trivial⟩, if_pos trivial, signed]
  · have unsigned : (power.natAbs : Int) = power := by omega
    simp only [Json.exponent?, filled, all, digits.reads]
    rw [if_pos ⟨.inl trivial, rfl, trivial⟩, if_neg Bool.false_ne_true, unsigned]

/-- A written form of a number without its sign. -/
structure Spells (d : Decimal) (chars : List Char) : Prop where
  /-- It starts with a digit. -/
  starts : Starts (fun c => !c.isDigit) chars
  numeric : ∀ c ∈ chars, isNumberChar c = true
  /-- It cannot be taken for a whole number. -/
  marked : '.' ∈ chars ∨ 'e' ∈ chars
  reads : ofUnsigned? d.negative chars = some d

/-- Digits on both sides of a point spell a number, with or without a power of ten. -/
theorem spells_point {d : Decimal} (count : Nat) (before : ∀ c ∈ front, c.isDigit = true)
    (filled : front ≠ []) (behind : ∀ c ∈ fraction, c.isDigit = true)
    (breaks : Breaks Char.isDigit power) (numeric : ∀ c ∈ power, isNumberChar c = true)
    (raised : Json.exponent? power = some exponent)
    (digits : digitsValue (front ++ fraction) = d.digits * 10 ^ count)
    (places : exponent - fraction.length = d.exponent - count) :
    d.Spells (front ++ '.' :: (fraction ++ power)) where
  starts := by
    -- The spelling starts with the first digit in front of the point.
    obtain ⟨c, tail, rfl⟩ := List.exists_cons_of_ne_nil filled
    exact ⟨c, _, rfl, by simp [before c List.mem_cons_self]⟩
  numeric c there := by
    simp only [List.mem_append, List.mem_cons] at there
    rcases there with there | rfl | there | there
    · exact isNumberChar_of_isDigit (before c there)
    · rfl
    · exact isNumberChar_of_isDigit (behind c there)
    · exact numeric c there
  marked := .inl (List.mem_append_right _ List.mem_cons_self)
  -- What is read has the digits of the number and some zeros, which are places.
  reads := by rw [ofUnsigned?_point before behind breaks raised, digits, places, ofDigits_zeros]

/-- A run of zeros stands for zero. -/
theorem digitsValue_zeros (count : Nat) : digitsValue (List.replicate count '0') = 0 := by
  -- Zeros add nothing, however many there are.
  rw [digitsValue_eq_ofDigitChars, Nat.ofDigitChars_replicate_zero, Nat.mul_zero]

/-- The positional form spells the number, wherever its point stands. -/
theorem spells_positional (d : Decimal) : d.Spells (positional d.figures d.point) := by
  -- The point stands in front of the digits, behind them or among them.
  have figures := d.numeral_figures
  have zero (count : Nat) : ∀ c ∈ List.replicate count '0', c.isDigit = true := fun c there => by
    rw [List.eq_of_mem_replicate there]
    rfl
  have place : d.point = d.figures.length + d.exponent := rfl
  have spelled (front fraction : List Char) (count : Nat) (before : ∀ c ∈ front, c.isDigit = true)
      (filled : front ≠ []) (behind : ∀ c ∈ fraction, c.isDigit = true)
      (digits : digitsValue (front ++ fraction) = d.digits * 10 ^ count)
      (places : (0 : Int) - fraction.length = d.exponent - count) :
      d.Spells (front ++ '.' :: fraction) := by
    have spells := spells_point count before filled behind breaks_nil (List.forall_mem_nil _) rfl
      digits places
    rwa [List.append_nil] at spells
  rw [positional]
  split_ifs with left
  · -- The zeros in front are no digits of the number.
    have spells := spelled ['0'] (List.replicate d.point.natAbs '0' ++ d.figures) 0 (zero 1)
      (List.cons_ne_nil _ _) (figures.zeros d.point.natAbs).digit
    refine spells ?_ ?_
    · rw [pow_zero, Nat.mul_one]
      exact (figures.zeros (d.point.natAbs + 1)).reads
    · rw [List.length_append, List.length_replicate]
      omega
  · simp only
    split_ifs with whole
    · -- Every zero behind the digits, and the one behind the point, is a factor of ten.
      let count := d.point.toNat - d.figures.length
      have spells := spelled (d.figures ++ List.replicate count '0') ['0'] (count + 1) ?_
        (List.append_ne_nil_of_left_ne_nil figures.filled _) (zero 1)
      · refine spells ?_ ?_
        · have zeros : List.replicate count '0' ++ ['0'] = List.replicate (count + 1) '0' :=
            List.replicate_succ'.symm
          rw [List.append_assoc, zeros, digitsValue_append, digitsValue_zeros, figures.reads,
            List.length_replicate, Nat.add_zero]
        · simp only [List.length_singleton, count]
          omega
      · intro c there
        exact (List.mem_append.mp there).elim (figures.digit c) (zero count c)
    · -- The point stands among the digits, so there is one in front of it.
      have spells := spelled (d.figures.take d.point.toNat) (d.figures.drop d.point.toNat) 0
        (fun c there => figures.digit c (List.mem_of_mem_take there)) ?_
        (fun c there => figures.digit c (List.mem_of_mem_drop there))
      · refine spells ?_ ?_
        · rw [List.take_append_drop, pow_zero, Nat.mul_one]
          exact figures.reads
        · rw [List.length_drop]
          omega
      · rw [ne_eq, List.take_eq_nil_iff]
        have filled := figures.filled
        rintro (none | none)
        · omega
        · exact filled none

/-- The scientific form spells the number, whether it has one digit or many. -/
theorem spells_scientific (d : Decimal) : d.Spells (scientific d.figures d.point) := by
  -- The power moves the point behind the first digit.
  have figures := d.numeral_figures
  have place : d.point = d.figures.length + d.exponent := rfl
  let power := d.point - 1
  have raised := exponent?_power power
  have numeric : ∀ c ∈ 'e' :: (if power < 0 then '-' else '+') :: (toString power.natAbs).toList,
      isNumberChar c = true := by
    intro c there
    rcases List.mem_cons.mp there with rfl | there
    · rfl
    rcases List.mem_cons.mp there with rfl | there
    · split_ifs <;> rfl
    · exact isNumberChar_of_isDigit ((numeral_toString _).digit c there)
  obtain ⟨first, others, written⟩ := List.exists_cons_of_ne_nil figures.filled
  have digit : ∀ c ∈ [first], c.isDigit = true := fun c there =>
    figures.digit c (written ▸ List.mem_cons.mpr (.inl (List.mem_singleton.mp there)))
  have behind : ∀ c ∈ others, c.isDigit = true := fun c there =>
    figures.digit c (written ▸ List.mem_cons_of_mem _ there)
  have reads : digitsValue (first :: others) = d.digits := written ▸ figures.reads
  have length : d.figures.length = others.length + 1 := congrArg List.length written
  have form : scientific d.figures d.point =
      [first] ++ ((if others.isEmpty then [] else '.' :: others) ++
        'e' :: (if power < 0 then '-' else '+') :: (toString power.natAbs).toList) := by
    rw [scientific, written]
    exact List.append_assoc ..
  -- A single digit has no point behind it, and with several the fraction begins there.
  rw [form]
  cases others with
  | nil =>
    exact {
      starts := ⟨first, _, rfl, by simp [digit first (List.mem_singleton_self first)]⟩
      numeric := fun c there => (List.mem_append.mp there).elim
        (fun front => isNumberChar_of_isDigit (digit c front)) (numeric c)
      marked := .inr (List.mem_cons_of_mem _ List.mem_cons_self)
      reads := by
        have spelled : ofUnsigned? d.negative ([first] ++ _) = _ :=
          ofUnsigned?_bare digit (breaks_cons rfl)
            (fun rest equal => absurd (List.cons.inj equal).1 (by decide)) raised
        have same : power = d.exponent - (0 : Nat) := by
          simp only [power]
          simp only [List.length_nil] at length
          omega
        have whole := d.ofDigits_zeros 0
        rw [pow_zero, Nat.mul_one, ← same, ← reads] at whole
        exact spelled.trans (congrArg some whole) }
  | cons second others =>
    refine spells_point 0 digit (List.cons_ne_nil _ _) behind (breaks_cons rfl) numeric raised
      ?_ ?_
    · rw [pow_zero, Nat.mul_one]
      exact reads
    · simp only [power]
      omega

/-- The text of a number is a spelling of it, behind a minus sign if it is negative. -/
theorem spells_chars (d : Decimal) :
    ∃ written, d.Spells written ∧ d.chars = if d.negative then '-' :: written else written := by
  -- The place of the point decides which of the two forms is written.
  rw [chars]
  by_cases middle : -5 < d.point ∧ d.point ≤ 16
  · exact ⟨_, d.spells_positional, by rw [if_pos middle]⟩
  · exact ⟨_, d.spells_scientific, by rw [if_neg middle]⟩

/-- The text of a number is read back as the number. -/
theorem ofChars?_chars (d : Decimal) : ofChars? d.chars = some d := by
  obtain ⟨written, spells, text⟩ := d.spells_chars
  rw [text]
  -- With a sign the spelling stands behind it, and is read there.
  have reads := spells.reads
  split_ifs with sign
  · rwa [sign] at reads
  · -- A sign would not be a digit.
    obtain ⟨c, tail, rfl, digit⟩ := spells.starts
    rw [Bool.not_eq_true] at sign
    rw [sign] at reads
    rw [ofChars?]
    · exact reads
    · rintro rest equal
      rw [(List.cons.inj equal).1] at digit
      cases digit

/-- Decimal numbers are told apart by their texts. -/
theorem chars_injective {first second : Decimal} (same : first.chars = second.chars) :
    first = second :=
  Option.some.inj ((first.ofChars?_chars).symm.trans (same ▸ second.ofChars?_chars))

/-- Nothing but characters of numbers stands in the text of a number. -/
theorem numeric_of_mem_chars {d : Decimal} {c : Char} (there : c ∈ d.chars) :
    isNumberChar c = true := by
  -- The sign is such a character, and all others are in the spelling.
  obtain ⟨written, spells, text⟩ := d.spells_chars
  rw [text] at there
  split_ifs at there
  · rcases List.mem_cons.mp there with rfl | there
    · rfl
    · exact spells.numeric c there
  · exact spells.numeric c there

/-- A decimal number has a point or a power of ten in its text. -/
theorem marked_chars (d : Decimal) : '.' ∈ d.chars ∨ 'e' ∈ d.chars := by
  -- The mark is in the spelling, with or without a sign in front.
  obtain ⟨written, spells, text⟩ := d.spells_chars
  rw [text]
  split_ifs
  · exact spells.marked.imp (List.mem_cons_of_mem _) (List.mem_cons_of_mem _)
  · exact spells.marked

end Decimal

end EventBus
