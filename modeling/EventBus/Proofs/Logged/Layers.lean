import EventBus.Subscribers.Logged

/-! Any number of layers around a handler write their lines in order, and then it is called. -/

namespace EventBus

variable {m : Type → Type} [Monad m] (layers : List LineStyle) (log : LogRecord → m Unit)
  (inner : EventHandler m)

/-- What layers around a handler of some name write of an event, the outermost layer first. -/
def LineStyle.records (layers : List LineStyle) (name : String) (event : Event) : List LogRecord :=
  layers.map fun style => style.record name event

/-- A handler inside layers, each of which writes a line; the first is the outermost. -/
def EventHandler.layered : EventHandler m :=
  layers.foldr (fun style handler => handler.logged style log) inner

namespace EventHandler

/-- A handler keeps its name inside any number of layers. -/
@[simp] theorem layered_name : (inner.layered layers log).name = inner.name := by
  -- The induction is on the layers, each of which passes the name on.
  induction layers with
  | nil => rfl
  | cons style rest ih => exact ih

/-- The layers write their lines one after the other, and everything else is left to the handler. -/
theorem layered_handle [LawfulMonad m] (event : Event) :
    (inner.layered layers log).handle event = (do
      (LineStyle.records layers inner.name event).forM log
      inner.handle event) := by
  induction layers with
  | nil => exact (pure_bind () fun _ => inner.handle event).symm
  | cons style rest ih =>
    -- The outermost layer names the handler inside the others, which is the innermost one.
    show (do
      log (style.record (inner.layered rest log).name event)
      (inner.layered rest log).handle event) = do
        (do
          log (style.record inner.name event)
          (LineStyle.records rest inner.name event).forM log)
        inner.handle event
    rw [layered_name, ih, bind_assoc]

end EventHandler

end EventBus
