import EventBus.Json.Basic
import Mathlib.Data.List.Induction

/-!
An object that is put together of fields has them in the order of their keys, and has of all fields
with one key the last.
-/

namespace EventBus.Json

variable {fields : List (String × Json)} {key other : String} {value : Json}

/-- What is found under a key in front of which a field stands. -/
theorem lookup_cons_eq (key other : String) (value : Json) (fields : List (String × Json)) :
    ((key, value) :: fields).lookup other =
      if other = key then some value else fields.lookup other := by
  rw [List.lookup_cons]
  -- The field in front is looked at first.
  by_cases same : other = key
  · rw [if_pos same, beq_iff_eq.mpr same]
  · rw [if_neg same, beq_eq_false_iff_ne.mpr same]

/-- Something is found under the keys of the fields, and under no other. -/
theorem lookup_isSome_iff (fields : List (String × Json)) (key : String) :
    (fields.lookup key).isSome = true ↔ key ∈ fields.map Prod.fst := by
  -- The induction is on the fields, with the key in front or behind.
  induction fields with
  | nil => simp
  | cons field rest ih =>
    obtain ⟨first, value⟩ := field
    rw [lookup_cons_eq, List.map_cons, List.mem_cons]
    by_cases same : key = first
    · simp [same]
    · rw [if_neg same, ih, or_iff_right same]

/-- A field that is put in its place is found under its key, and all others as before. -/
theorem lookup_insertField (key other : String) (value : Json) (fields : List (String × Json)) :
    (insertField key value fields).lookup other =
      if other = key then some value else fields.lookup other := by
  -- The induction is on the fields, up to the place where the field is put.
  induction fields with
  | nil => exact lookup_cons_eq key other value []
  | cons field rest ih =>
    obtain ⟨first, held⟩ := field
    rw [insertField]
    split
    · rw [lookup_cons_eq]
    · split
      · -- The field takes the place of the one that had its key.
        rename_i replaced
        subst replaced
        simp only [lookup_cons_eq]
        split <;> rfl
      · -- The field is put somewhere behind one that has another key.
        rename_i differs
        simp only [lookup_cons_eq, ih]
        by_cases same : other = first
        · rw [if_pos same, if_pos same, if_neg (same ▸ Ne.symm differs)]
        · rw [if_neg same, if_neg same]

/-- Under each key, the last field of that key is found. -/
theorem lookup_sortFields (fields : List (String × Json)) (key : String) :
    (sortFields fields).lookup key = fields.reverse.lookup key := by
  -- The induction is from the end of the fields, since the last one to be put in its place counts.
  induction fields using List.reverseRecOn with
  | nil => rfl
  | append_singleton fields field ih =>
    obtain ⟨last, value⟩ := field
    rw [List.reverse_append, List.reverse_singleton, List.singleton_append, lookup_cons_eq,
      sortFields, List.foldl_append]
    exact (lookup_insertField last key value _).trans (by rw [← ih]; rfl)

/-- Where no key is used twice, the last field of a key is the first. -/
theorem lookup_reverse (distinct : (fields.map Prod.fst).Nodup) (key : String) :
    fields.reverse.lookup key = fields.lookup key := by
  -- The induction is on the fields; behind the first one its key is not found again.
  induction fields with
  | nil => rfl
  | cons field rest ih =>
    obtain ⟨first, value⟩ := field
    obtain ⟨once, distinct⟩ := List.nodup_cons.mp distinct
    rw [List.reverse_cons, List.lookup_append, ih distinct, lookup_cons_eq, lookup_cons_eq]
    by_cases same : key = first
    · subst same
      have absent : rest.lookup key = none := by
        rwa [← Option.not_isSome_iff_eq_none, lookup_isSome_iff]
      rw [absent, Option.none_or, if_pos rfl, if_pos rfl]
    · rw [if_neg same, if_neg same, List.lookup_nil, Option.or_none]

/-- Fields in the order of their keys, with no key twice. -/
def Ordered (fields : List (String × Json)) : Prop :=
  fields.Pairwise fun field next => field.1 < next.1

/-- The keys after a field has been put in its place are that of the field and those before. -/
theorem key_of_mem_insertField {field : String × Json}
    (there : field ∈ insertField key value fields) : field.1 = key ∨ field ∈ fields := by
  -- The induction is on the fields, up to the place where the field is put.
  induction fields with
  | nil => exact .inl (congrArg Prod.fst (List.mem_singleton.mp there))
  | cons first rest ih =>
    rw [insertField] at there
    split at there
    · rcases List.mem_cons.mp there with rfl | there
      · exact .inl rfl
      · exact .inr there
    · split at there
      · rcases List.mem_cons.mp there with rfl | there
        · exact .inl rfl
        · exact .inr (List.mem_cons_of_mem _ there)
      · rcases List.mem_cons.mp there with rfl | there
        · exact .inr List.mem_cons_self
        · exact (ih there).imp_right (List.mem_cons_of_mem _)

/-- A field is put in its place among ordered fields. -/
theorem ordered_insertField (ordered : Ordered fields) (key : String) (value : Json) :
    Ordered (insertField key value fields) := by
  -- The induction is on the fields, up to the first key that is not smaller.
  induction fields with
  | nil => exact List.pairwise_singleton _ _
  | cons first rest ih =>
    obtain ⟨least, others⟩ := List.pairwise_cons.mp ordered
    rw [insertField]
    split
    · -- The field comes first, and so its key is smaller than all others.
      rename_i smaller
      refine List.pairwise_cons.mpr ⟨fun field there => ?_, ordered⟩
      rcases List.mem_cons.mp there with rfl | there
      · exact smaller
      · exact String.lt_trans smaller (least field there)
    · -- All keys behind are greater than the first one, and so is the key of the field.
      rename_i notSmaller
      split
      · rename_i same
        exact List.pairwise_cons.mpr ⟨fun field there => same ▸ least field there, others⟩
      · rename_i differs
        refine List.pairwise_cons.mpr ⟨fun field there => ?_, ih others⟩
        rcases key_of_mem_insertField there with same | there
        · rw [same]
          exact Std.lt_of_le_of_ne (String.not_lt.mp notSmaller) (Ne.symm differs)
        · exact least field there

/-- The fields of an object that is put together are ordered. -/
theorem ordered_sortFields (fields : List (String × Json)) : Ordered (sortFields fields) := by
  -- The induction is from the end of the fields, which are put in their places one by one.
  induction fields using List.reverseRecOn with
  | nil => exact .nil
  | append_singleton fields field ih =>
    rw [sortFields, List.foldl_append]
    exact ordered_insertField ih field.1 field.2

end EventBus.Json
