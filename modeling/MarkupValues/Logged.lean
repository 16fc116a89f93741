import MarkupValues.Event

/-!
# Results with their log

A conversion may report events on the way to its result. `Logged` keeps both together, the events in
the order in which they were reported, so that one definition says what comes of a conversion and
what is seen of it; whoever asks for the result or the log alone takes it from there.
-/

namespace MarkupValues

/-- A result, and the events that were reported on the way to it. -/
structure Logged (α : Type) where
  result : α
  events : List Event

/-- What comes first is reported first. -/
instance : Monad Logged where
  pure result := ⟨result, []⟩
  map f x := ⟨f x.result, x.events⟩
  bind x f := ⟨(f x.result).result, x.events ++ (f x.result).events⟩

namespace Logged

variable {α β : Type}

@[simp] theorem result_pure (a : α) : (pure a : Logged α).result = a := rfl

@[simp] theorem events_pure (a : α) : (pure a : Logged α).events = [] := rfl

@[simp] theorem result_map (f : α → β) (x : Logged α) : (f <$> x).result = f x.result := rfl

@[simp] theorem events_map (f : α → β) (x : Logged α) : (f <$> x).events = x.events := rfl

@[simp] theorem result_bind (x : Logged α) (f : α → Logged β) :
    (x >>= f).result = (f x.result).result := rfl

@[simp] theorem events_bind (x : Logged α) (f : α → Logged β) :
    (x >>= f).events = x.events ++ (f x.result).events := rfl

/-- Reports an event. -/
def report (event : Event) : Logged Unit :=
  ⟨(), [event]⟩

/-- Reports the failure of an outcome, if it is one. -/
def reportFailure : Except Failure α → Logged Unit
  | .ok _ => pure ()
  | .error failure => report (.failed failure)

@[simp] theorem events_report (event : Event) : (report event).events = [event] := rfl

end Logged

end MarkupValues
