import EventBus.Contract.Kinds

/-! A scripted handler carries out a list of acts whenever it is called. -/

namespace EventBus

/-- One act of a scripted handler. -/
inductive Act where
  /-- Ends the call with an error. -/
  | fail (message : String)
  /-- Ends the call with a panic. -/
  | panic (message : String)
  /-- Reads the payload, and fails if it does not fit. -/
  | decode (kind : Option PayloadKind)
  /-- Waits until a gate is open. -/
  | gate (name : String)
  /-- Acts only on one payload or in one call. -/
  | when (payload : Option Json) (call : Option Nat) (acts : List Act)
  /-- Publishes the number below the payload. -/
  | countdown
  /-- Carries out steps of the script. -/
  | steps (steps : List Json)
  /-- Does nothing. -/
  | idle

namespace Act

/-- Reads an act. -/
def read (json : Json) : Act :=
  match json.textField "do" with
  -- Of a chain of errors only the outermost is ever shown.
  | "fail" | "fail_chain" => .fail (json.textField "message")
  | "panic" => .panic (json.textField "message")
  | "panic_static" => .panic "static panic"
  | "panic_other" => .panic "unknown panic"
  | "decode" => .decode (PayloadKind.ofName? (json.textField "kind"))
  | "gate" => .gate (json.textField "gate")
  | "when" =>
    let acts := match _ : json.get? "then" with
      | some body => body.items.attach.map fun ⟨item, _⟩ => read item
      | none => []
    .when (json.get? "payload") (json.natField? "call") acts
  | "countdown" => .countdown
  | "ops" => .steps (json.getD "ops").items
  | _ => .idle
termination_by sizeOf json
decreasing_by
  -- An act inside is an item of a field, and both are smaller than what they are parts of.
  rename_i found member
  have inner := Json.sizeOf_lt_of_mem_items member
  have outer := Json.sizeOf_lt_of_get? found
  omega

end Act

end EventBus
