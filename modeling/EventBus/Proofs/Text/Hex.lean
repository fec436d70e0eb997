import EventBus.Text.Hex
import Mathlib.Algebra.Ring.Nat
import Mathlib.Data.List.Induction

/-! Digits in either case stand for the number whose written digits they are in lower case. -/

namespace EventBus

/-- The code of a letter in lower case, told by ranges of codes. -/
theorem toNat_toLower (c : Char) :
    c.toLower.toNat = if 65 ≤ c.toNat ∧ c.toNat ≤ 90 then c.toNat + 32 else c.toNat := by
  have bounds : (c.val ≥ 'A'.val ∧ c.val ≤ 'Z'.val) ↔ 65 ≤ c.toNat ∧ c.toNat ≤ 90 := Iff.rfl
  by_cases capital : 65 ≤ c.toNat ∧ c.toNat ≤ 90
  · have lower : c.toLower = _ := dif_pos (bounds.mpr capital)
    rw [if_pos capital, lower]
    -- The sum of codes is far below the size of a word, so it does not wrap around.
    show (c.val + ('a'.val - 'A'.val)).toNat = c.toNat + 32
    have code : c.val.toNat = c.toNat := rfl
    have distance : ('a'.val - 'A'.val).toNat = 32 := rfl
    rw [UInt32.toNat_add, distance, code]
    omega
  · have lower : c.toLower = c := dif_neg (mt bounds.mp capital)
    rw [if_neg capital, lower]

/-- The code of a digit: figures stand for values below ten and small letters for the others. -/
theorem toNat_hexDigit {value : Nat} (small : value < 16) :
    (hexDigit value).toNat = if value < 10 then 48 + value else 87 + value := by
  -- Sixteen digits, each of which has a code of its own.
  rcases value with _ | _ | _ | _ | _ | _ | _ | _ | _ | _ | _ | _ | _ | _ | _ | _ | value
  all_goals first | rfl | omega

/-- A digit has a value exactly if it is the written digit of that value in either case. -/
theorem hexValue?_eq_some_iff {c : Char} {value : Nat} :
    hexValue? c = some value ↔ value < 16 ∧ c.toLower = hexDigit value := by
  -- Characters are compared by their codes.
  have same : value < 16 → (c.toLower = hexDigit value ↔
      (if 65 ≤ c.toNat ∧ c.toNat ≤ 90 then c.toNat + 32 else c.toNat)
        = if value < 10 then 48 + value else 87 + value) := by
    intro small
    rw [← Char.toNat_inj, toNat_toLower, toNat_hexDigit small]
  constructor
  · -- The three ranges of codes have values that follow one another.
    intro read
    have small : value < 16 := by
      simp only [hexValue?] at read
      split_ifs at read <;> simp only [Option.some.injEq] at read <;> omega
    refine ⟨small, (same small).mpr ?_⟩
    simp only [hexValue?] at read
    split_ifs at read ⊢ <;> simp only [Option.some.injEq] at read <;> omega
  · rintro ⟨small, written⟩
    have codes := (same small).mp written
    simp only [hexValue?]
    split_ifs at codes ⊢ <;> first | (rw [Option.some.injEq]; omega) | omega

/-- The written form has as many digits as it is given places. -/
@[simp] theorem length_hexFixed (width value : Nat) : (hexFixed width value).length = width := by
  -- The induction is on the width, with one digit for each place.
  induction width generalizing value with
  | zero => rfl
  | succ width ih => rw [hexFixed, List.length_append, ih, List.length_singleton]

/-- Written digits are in lower case already. -/
theorem map_toLower_hexFixed (width value : Nat) :
    (hexFixed width value).map Char.toLower = hexFixed width value := by
  -- The induction is on the width, and a single digit is either a number or a small letter.
  induction width generalizing value with
  | zero => rfl
  | succ width ih =>
    have last : (hexDigit (value % 16)).toLower = hexDigit (value % 16) := by
      rw [← Char.toNat_inj, toNat_toLower, toNat_hexDigit (Nat.mod_lt _ (by decide))]
      split_ifs <;> omega
    rw [hexFixed, List.map_append, ih, List.map_singleton, last]

/-- The last digit is read behind the number that the digits before it stand for. -/
theorem hexNumber?_append (digits : List Char) (c : Char) :
    hexNumber? (digits ++ [c]) =
      (hexNumber? digits).bind fun leading => (hexValue? c).map (leading * 16 + ·) := by
  -- The digits are read from the left, so the last one is added at the end.
  rw [hexNumber?, List.foldlM_append]
  simp only [List.foldlM_cons, List.foldlM_nil, bind_pure]
  rfl

/-- Digits stand for the number that is written by them in lower case. -/
theorem hexNumber?_eq_some_iff {digits : List Char} {value : Nat} :
    hexNumber? digits = some value ↔
      value < 16 ^ digits.length ∧ digits.map Char.toLower = hexFixed digits.length value := by
  -- Digits are written from the last one, and so is the induction.
  induction digits using List.reverseRecOn generalizing value with
  | nil =>
    have bare : hexNumber? [] = some 0 := rfl
    rw [bare]
    simp [hexFixed, eq_comm]
  | append_singleton digits c ih =>
    simp only [hexNumber?_append, Option.bind_eq_some_iff, Option.map_eq_some_iff, ih,
      hexValue?_eq_some_iff, List.length_append, List.length_singleton, List.map_append,
      List.map_cons, List.map_nil, hexFixed, pow_succ]
    constructor
    · rintro ⟨leading, ⟨bounded, written⟩, last, ⟨small, digit⟩, rfl⟩
      have quotient : (leading * 16 + last) / 16 = leading := by omega
      have remainder : (leading * 16 + last) % 16 = last := by omega
      rw [quotient, remainder]
      exact ⟨by omega, by rw [written, digit]⟩
    · rintro ⟨bounded, written⟩
      -- The digits in front and the last digit are told apart by the length of the last one.
      obtain ⟨leading, last⟩ := List.append_inj' written rfl
      refine ⟨value / 16, ⟨by omega, leading⟩, value % 16, ⟨Nat.mod_lt _ (by decide), ?_⟩, ?_⟩
      · exact List.singleton_inj.mp last
      · omega

end EventBus
