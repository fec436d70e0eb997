import EventBus.Event.Id
import EventBus.Proofs.Text.Hex
import Mathlib.Data.List.Basic
import Mathlib.Tactic.NormNum

/-! The texts that are read as an id are its spellings, and the written form is one of them. -/

namespace EventBus

namespace EventId

/-- The digits stand for the id, most significant first and with letters of either case. -/
def HasDigits (id : EventId) (digits : List Char) : Prop :=
  digits.map Char.toLower = hexFixed 32 id.value.toNat

/-- The spellings of an id. -/
inductive Spelling (id : EventId) : List Char → Prop
  /-- Bare digits. -/
  | simple {digits : List Char} (spelt : id.HasDigits digits) : Spelling id digits
  /-- Digits in groups with hyphens between them. -/
  | hyphenated {digits : List Char} (spelt : id.HasDigits digits) :
    Spelling id (hyphenate groups digits)
  /-- Hyphenated digits in braces. -/
  | braced {digits : List Char} (spelt : id.HasDigits digits) :
    Spelling id ('\x7b' :: (hyphenate groups digits ++ ['\x7d']))
  /-- Hyphenated digits behind the name of the resource. -/
  | resource {name digits : List Char} (named : name.map Char.toLower = "urn:uuid:".toList)
    (spelt : id.HasDigits digits) : Spelling id (name ++ hyphenate groups digits)

variable {id : EventId} {digits chars : List Char}

/-- An id has thirty-two digits. -/
theorem HasDigits.length (spelt : id.HasDigits digits) : digits.length = 32 := by
  -- Reading digits without their case does not change how many there are.
  have same := congrArg List.length spelt
  rwa [List.length_map, length_hexFixed] at same

/-- Thirty-two digits stand for one id. -/
theorem ofDigits?_eq_some_iff (full : digits.length = 32) :
    ofDigits? digits = some id ↔ id.HasDigits digits := by
  have size : (16 : Nat) ^ 32 = 340282366920938463463374607431768211456 := by norm_num
  have range : Nat.pow 2 128 = 340282366920938463463374607431768211456 := by rfl
  simp only [ofDigits?, Option.bind_eq_some_iff, hexNumber?_eq_some_iff, HasDigits, full, range]
  rw [size]
  constructor
  · rintro ⟨value, ⟨bounded, written⟩, made⟩
    rw [if_pos bounded] at made
    -- The value is below the bound, so the id holds it as it is.
    cases made
    rwa [BitVec.toNat_ofNat, Nat.mod_eq_of_lt bounded]
  · intro written
    have bounded : id.value.toNat < 340282366920938463463374607431768211456 := id.value.isLt
    refine ⟨id.value.toNat, ⟨bounded, written⟩, ?_⟩
    rw [if_pos bounded, BitVec.ofNat_toNat, BitVec.setWidth_eq]

/-- A hyphen is added between any two groups. -/
theorem length_hyphenate (widths : List Nat) (digits : List Char) :
    (hyphenate widths digits).length = digits.length + (widths.length - 1) := by
  -- The induction is on the groups, with one hyphen behind each but the last.
  induction widths, digits using hyphenate.induct with
  | case1 digits => rfl
  | case2 width digits => rfl
  | case3 width widths digits more ih =>
    have several : 0 < widths.length := List.length_pos_iff.mpr more
    rw [hyphenate, List.length_append, List.length_cons, ih]
    · simp only [List.length_take, List.length_drop, List.length_cons]
      omega
    · exact more

/-- Groups are read exactly from their hyphenated digits. -/
theorem ungroup?_eq_some_iff {widths : List Nat} :
    ungroup? widths chars = some digits ↔
      digits.length = widths.sum ∧ chars = hyphenate widths digits := by
  -- The induction is on the groups, of which the last one has no hyphen behind it.
  induction widths generalizing chars digits with
  | nil =>
    cases chars with
    | nil => simp [ungroup?, hyphenate, eq_comm]
    | cons c rest =>
      have refused : ungroup? [] (c :: rest) = none := rfl
      rw [refused, List.sum_nil, List.length_eq_zero_iff, hyphenate]
      constructor
      · intro read
        cases read
      · rintro ⟨rfl, filled⟩
        cases filled
  | cons width widths ih =>
    by_cases last : widths = []
    · subst last
      simp only [ungroup?, hyphenate, Option.ite_none_right_eq_some, Option.some.injEq,
        List.sum_cons, List.sum_nil, Nat.add_zero]
      constructor
      · rintro ⟨full, rfl⟩
        exact ⟨full, rfl⟩
      · rintro ⟨full, rfl⟩
        exact ⟨full, rfl⟩
    · rw [ungroup?, hyphenate, List.sum_cons]
      constructor
      · intro read
        split at read
        · next behind cut =>
          obtain ⟨others, rest, rfl⟩ := Option.map_eq_some_iff.mp read
          obtain ⟨full, rfl⟩ := ih.mp rest
          -- Something is left behind the first group, so the group has its whole width.
          have reached : width < chars.length := by
            by_contra short
            rw [List.drop_eq_nil_of_le (by omega)] at cut
            cases cut
          have whole : (chars.take width).length = width := by
            rw [List.length_take]
            omega
          rw [List.take_left' whole, List.drop_left' whole, ← cut, List.take_append_drop,
            List.length_append, whole, full]
          exact ⟨rfl, rfl⟩
        · cases read
      · -- Conversely the first group is as wide as it should be, and the others are read behind it.
        rintro ⟨full, rfl⟩
        have whole : (digits.take width).length = width := by
          rw [List.length_take]
          omega
        rw [List.drop_left' whole, List.take_left' whole]
        have others : (digits.drop width).length = widths.sum := by
          rw [List.length_drop]
          omega
        show (ungroup? widths (hyphenate widths (digits.drop width))).map _ = some digits
        rw [ih.mpr ⟨others, rfl⟩, Option.map_some, List.take_append_drop]
      all_goals exact last

/-- Hyphenated digits are read as the id that they stand for. -/
theorem ofHyphenated?_eq_some_iff :
    ofHyphenated? chars = some id ↔
      ∃ digits, id.HasDigits digits ∧ chars = hyphenate groups digits := by
  have total : groups.sum = 32 := rfl
  simp only [ofHyphenated?, Option.bind_eq_some_iff, ungroup?_eq_some_iff, total]
  -- The groups have 32 digits together, and those are an id's.
  constructor
  · rintro ⟨digits, ⟨full, cut⟩, made⟩
    exact ⟨digits, (ofDigits?_eq_some_iff full).mp made, cut⟩
  · rintro ⟨digits, spelt, cut⟩
    exact ⟨digits, ⟨spelt.length, cut⟩, (ofDigits?_eq_some_iff spelt.length).mpr spelt⟩

/-- A text is read as an id exactly if it is one of the spellings of that id. -/
theorem parse?_eq_some_iff : parse? chars = some id ↔ id.Spelling chars := by
  constructor
  · -- The length tells which of the four readers is asked.
    intro read
    rw [parse?.eq_def] at read
    split_ifs at read with bare hyphens braces named
    · exact .simple ((ofDigits?_eq_some_iff bare).mp read)
    · obtain ⟨digits, spelt, rfl⟩ := ofHyphenated?_eq_some_iff.mp read
      exact .hyphenated spelt
    · split at read
      · next rest =>
        split_ifs at read with closed
        obtain ⟨digits, spelt, inner⟩ := ofHyphenated?_eq_some_iff.mp read
        rw [← List.dropLast_append_getLast? _ closed, inner]
        exact .braced spelt
      · cases read
    · obtain ⟨digits, spelt, behind⟩ := ofHyphenated?_eq_some_iff.mp read
      rw [← List.take_append_drop 9 chars, behind]
      exact .resource named spelt
  · intro spelling
    -- The four spellings differ in length, so each of them reaches its own reader.
    have grouped {digits : List Char} (spelt : id.HasDigits digits) :
        (hyphenate groups digits).length = 36 := by
      rw [length_hyphenate, spelt.length]
      rfl
    rw [parse?.eq_def]
    cases spelling with
    | simple spelt =>
      rw [if_pos spelt.length]
      exact (ofDigits?_eq_some_iff spelt.length).mpr spelt
    | hyphenated spelt =>
      rw [grouped spelt, if_neg (by decide), if_pos rfl]
      exact ofHyphenated?_eq_some_iff.mpr ⟨_, spelt, rfl⟩
    | braced spelt =>
      rw [List.length_cons, List.length_append, List.length_singleton, grouped spelt,
        if_neg (by decide), if_neg (by decide), if_pos rfl]
      simp only [List.getLast?_concat, if_true, List.dropLast_concat]
      exact ofHyphenated?_eq_some_iff.mpr ⟨_, spelt, rfl⟩
    | @resource name digits named spelt =>
      have nine : name.length = 9 := by
        have same := congrArg List.length named
        rwa [List.length_map] at same
      rw [List.length_append, nine, grouped spelt, if_neg (by decide), if_neg (by decide),
        if_neg (by decide), List.take_left' nine, List.drop_left' nine, if_pos named]
      exact ofHyphenated?_eq_some_iff.mpr ⟨_, spelt, rfl⟩

/-- The written form is the hyphenated spelling in lower case. -/
theorem text_spelling (id : EventId) : id.Spelling id.text.toList := by
  -- Digits that are written in lower case are read whatever their case.
  rw [text, String.toList_ofList, chars]
  exact .hyphenated (map_toLower_hexFixed 32 id.value.toNat)

end EventId

end EventBus
