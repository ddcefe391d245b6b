/-
  PolicyBench — computations that report no loss of data.

  A computation is quiet if none of its events is a warning.  Steps in turn are
  quiet exactly if each of them is, on the way that is taken.

  * `Logged.Quiet`: no event is a warning;
  * `quiet_pure`, `quiet_report_iff`, `quiet_bind_iff`: what is quiet.
-/
import PolicyBench.Logged

namespace PolicyBench.Logged

variable {α β : Type}

/-- No event is a warning. -/
def Quiet (x : Logged α) : Prop := ∀ e ∈ x.events, e.isWarning = false

instance (x : Logged α) : Decidable x.Quiet :=
  inferInstanceAs (Decidable (∀ e ∈ x.events, e.isWarning = false))

@[simp] theorem quiet_pure (a : α) : (pure a : Logged α).Quiet := by
  intro e he
  cases he

@[simp] theorem quiet_report_iff {e : Event} : (report e).Quiet ↔ e.isWarning = false := by
  rw [Quiet, events_report, List.forall_mem_singleton]

@[simp] theorem quiet_bind_iff {x : Logged α} {f : α → Logged β} :
    (x >>= f).Quiet ↔ x.Quiet ∧ (f x.value).Quiet := by
  rw [Quiet, events_bind, List.forall_mem_append]
  rfl

/-- A warning cannot be made up for. -/
theorem not_quiet_report_bind {e : Event} (h : e.isWarning = true) {f : Unit → Logged α} :
    ¬ (report e >>= f).Quiet := by
  rw [quiet_bind_iff, quiet_report_iff, h]
  exact fun hquiet => absurd hquiet.1 (by decide)

theorem quiet_report_pure {e : Event} (h : e.isWarning = false) (a : α) :
    (report e >>= fun _ => pure a).Quiet :=
  quiet_bind_iff.2 ⟨quiet_report_iff.2 h, quiet_pure a⟩

end PolicyBench.Logged
