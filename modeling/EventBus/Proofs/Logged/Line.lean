import EventBus.Proofs.Json.Quotation
import EventBus.Subscribers.Logged

/-!
The line of an event says which type and which payload it has, although the type stands in it as it
is, with any blanks, quotation marks and brackets of its own.
-/

namespace EventBus

/-- A type in front of a blank and a payload is no shorter than any other in the same text. -/
theorem eq_of_longer_type {type other behind : List Char} {payload json : Json}
    (longer : other = type ++ behind)
    (same : ' ' :: payload.chars = behind ++ ' ' :: json.chars) :
    type = other ∧ payload = json := by
  cases behind with
  | nil =>
    rw [List.nil_append] at same
    exact ⟨by rw [longer, List.append_nil], Json.chars_injective (List.cons.inj same).2⟩
  | cons c front =>
    -- The payload would have another one in it behind a blank.
    exact absurd (List.cons.inj same).2 (Json.chars_ne_append_blank payload json front)

/-- A text is a type, a blank and a payload in one way at most. -/
theorem type_and_payload_unique {type other : List Char} {payload json : Json}
    (same : type ++ ' ' :: payload.chars = other ++ ' ' :: json.chars) :
    type = other ∧ payload = json := by
  -- One of the two types is at least as long as the other, and so has to be equal to it.
  rcases List.append_eq_append_iff.mp same with ⟨behind, longer, ends⟩ | ⟨behind, longer, ends⟩
  · exact eq_of_longer_type longer ends
  · obtain ⟨rfl, rfl⟩ := eq_of_longer_type longer ends
    exact ⟨rfl, rfl⟩

namespace LineStyle

/-- A line without what every line of the style begins with. -/
theorem toList_line (style : LineStyle) (event : Event) :
    (style.line event).toList =
      ("[" ++ style.label ++ "] ").toList ++
        (event.type.name.toList ++ ' ' :: event.payload.chars) := by
  -- The label is fixed for a style, so what remains is the type, a blank and the payload.
  simp only [line, String.toList_append, Json.text, String.toList_ofList, List.append_assoc]
  rfl

/--
The line of an event identifies its type and its payload.

The type may be any text and the payload any value: the line can be split in no other way, since the
text of a payload has blanks only inside of strings, and no value begins there.
-/
theorem line_eq_iff (style : LineStyle) (first second : Event) :
    style.line first = style.line second ↔
      first.type = second.type ∧ first.payload = second.payload := by
  constructor
  · -- What both lines begin with is cancelled, and the rest is split in one way only.
    intro same
    have texts := congrArg String.toList same
    rw [toList_line, toList_line] at texts
    obtain ⟨names, payloads⟩ := type_and_payload_unique (List.append_cancel_left texts)
    exact ⟨congrArg EventType.mk (String.toList_inj.mp names), payloads⟩
  · rintro ⟨type, payload⟩
    simp only [line, type, payload]

end LineStyle

end EventBus
