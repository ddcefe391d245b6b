/-
  PolicyBench — results with events.

  A computation that reports events gives its result together with the events,
  in the order in which they were reported.

  * `Logged α` is such a result, `Logged.report` reports one event;
  * the laws of a monad hold, so steps can be regrouped without changing the
    order of events;
  * `events_bind`: the events of two steps in turn are those of the first, then
    those of the second.
-/
import PolicyBench.Event

namespace PolicyBench

/-- A result, and the events reported on the way to it. -/
structure Logged (α : Type) where
  value : α
  events : List Event

namespace Logged

variable {α β : Type}

instance : Monad Logged where
  pure a := ⟨a, []⟩
  bind x f := ⟨(f x.value).value, x.events ++ (f x.value).events⟩

/-- Reports an event. -/
def report (e : Event) : Logged Unit := ⟨(), [e]⟩

@[simp] theorem value_pure (a : α) : (pure a : Logged α).value = a := rfl

@[simp] theorem events_pure (a : α) : (pure a : Logged α).events = [] := rfl

@[simp] theorem value_bind (x : Logged α) (f : α → Logged β) :
    (x >>= f).value = (f x.value).value := rfl

@[simp] theorem events_bind (x : Logged α) (f : α → Logged β) :
    (x >>= f).events = x.events ++ (f x.value).events := rfl

@[simp] theorem events_report (e : Event) : (report e).events = [e] := rfl

instance : LawfulMonad Logged :=
  LawfulMonad.mk' Logged (fun x => by cases x; simp [Functor.map])
    (fun _ _ => by simp [pure, bind]) (fun _ _ _ => by simp [bind])

end Logged

end PolicyBench
