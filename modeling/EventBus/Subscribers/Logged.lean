import EventBus.Dispatch.Handling
import EventBus.Json.Text

/-! Any handler can be made to write a line to the log before it handles an event. -/

namespace EventBus

/-- How a logged handler writes its lines. -/
structure LineStyle where
  label : String := "Event"
  level : Level := .info
  deriving DecidableEq, Repr

namespace LineStyle

/-- The line for an event: the label in brackets, the type and the payload. -/
def line (style : LineStyle) (event : Event) : String :=
  -- The type is written as it is, and the payload without blanks outside of its strings.
  "[" ++ style.label ++ "] " ++ event.type.name ++ " " ++ event.payload.text

/-- The record of that line; it names the inner handler. -/
def record (style : LineStyle) (inner : String) (event : Event) : LogRecord :=
  .line style.level inner (style.line event)

end LineStyle

/-- A handler that writes a line first and is otherwise the handler inside it. -/
def EventHandler.logged {m : Type → Type} [Monad m] (style : LineStyle)
    (log : LogRecord → m Unit) (inner : EventHandler m) : EventHandler m where
  name := inner.name
  handle event := do
    -- The line is there even if the inner handler fails.
    log (style.record inner.name event)
    inner.handle event

end EventBus
