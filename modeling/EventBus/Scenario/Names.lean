/-! The named things of a scenario are kept in tables, where a new thing replaces an old one. -/

namespace EventBus

/-- Things by their names. -/
abbrev Names (α : Type) := List (String × α)

namespace Names

variable {α : Type}

/-- The thing of a name. -/
def get? (names : Names α) (name : String) : Option α := names.lookup name

/-- The table without a name. -/
def remove (names : Names α) (name : String) : Names α := names.filter fun entry => entry.1 ≠ name

/-- The table with a thing under a name. -/
def put (names : Names α) (name : String) (thing : α) : Names α :=
  (name, thing) :: names.remove name

end Names

end EventBus
