/-
  PolicyBench — texts made on demand.

  Some texts are not worth making unless they are shown.  Such a text is kept as
  a way to make it, with a state that the making may change: shown twice, it is
  made twice, the second time from the state that the first one left.

  * `OnDemand σ` is such a text, `OnDemand.display` shows it once;
  * `OnDemand.displays` shows it several times in turn.
-/

namespace PolicyBench.Text

/-- A text that is made when it is shown. -/
structure OnDemand (σ : Type) where
  state : σ
  make : σ → String × σ

namespace OnDemand

variable {σ : Type}

/-- The text as shown now, and what will be shown after that. -/
def display (t : OnDemand σ) : String × OnDemand σ :=
  let (text, state) := t.make t.state
  (text, { t with state })

/-- The texts of showing `n` times in turn. -/
def displays (t : OnDemand σ) : Nat → List String
  | 0 => []
  | n + 1 => t.display.1 :: t.display.2.displays n

end OnDemand

end PolicyBench.Text
