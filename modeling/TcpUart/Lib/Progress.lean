import Mathlib.Logic.Relation
import TcpUart.Lib.Machine

/-! # What a machine can still get to
Safety says what no run does. This module is about the opposite question: from where a run has got
to, is there a way on to a goal? The environment may choose every input, so a state from which there
is none is stuck for good.

* `Machine.Leads s s'` — some inputs take `s` to `s'`.
* `Machine.CanReach goal s` — the goal can be reached from `s`.
* `Machine.canReach_of_rank` — the progress rule: if every state short of the goal has a step to one
  of lower rank, the goal can be reached.
* `Leads.invariant` — the stuck rule: what every step keeps is never left. -/

namespace Reactive

namespace Machine

variable {σ ι ο : Type*} {M : Machine σ ι ο} {s s' s'' : σ}

/-- Some input takes `s` to `s'`. -/
def Moves (M : Machine σ ι ο) (s s' : σ) : Prop := ∃ i out, M.step s i = some (s', out)

/-- Some inputs take `s` to `s'`. -/
def Leads (M : Machine σ ι ο) : σ → σ → Prop := Relation.ReflTransGen M.Moves

/-- The goal can be reached from `s`. -/
def CanReach (M : Machine σ ι ο) (goal : σ → Prop) (s : σ) : Prop := ∃ s', M.Leads s s' ∧ goal s'

/-- A state leads to itself. -/
theorem Leads.refl (s : σ) : M.Leads s s := Relation.ReflTransGen.refl

/-- One step, and then some inputs. -/
theorem Leads.head (h : M.Moves s s') (h' : M.Leads s' s'') : M.Leads s s'' :=
  Relation.ReflTransGen.head h h'

/-- What a reachable state leads to is reachable. -/
theorem Leads.reaches {log : List ο} (h : M.Leads s s') (hr : M.Reaches log s) :
    ∃ log', M.Reaches log' s' := by
  induction h with
  | refl => exact ⟨log, hr⟩
  | tail _ hmove ih =>
      obtain ⟨log', hr'⟩ := ih
      obtain ⟨i, out, hs⟩ := hmove
      exact ⟨log' ++ out, hr'.step hs⟩

/-- **The stuck rule.** A property of reachable states that every step keeps is never left. -/
theorem Leads.invariant {P : σ → Prop} {log : List ο} (h : M.Leads s s') (hr : M.Reaches log s)
    (hP : P s)
    (hstep : ∀ log s i s' out, M.Reaches log s → P s → M.step s i = some (s', out) → P s') :
    P s' := by
  induction h with
  | refl => exact hP
  | @tail s₁ s₂ hlead hmove ih =>
      obtain ⟨log₁, hr₁⟩ := Leads.reaches hlead hr
      obtain ⟨i, out, hs⟩ := hmove
      exact hstep log₁ s₁ i s₂ out hr₁ ih hs

/-- **The progress rule.** If every state with property `P` that is short of the goal has a step to
a state with property `P` of lower rank, the goal can be reached from every state with property
`P`. -/
theorem canReach_of_rank {P goal : σ → Prop} (rank : σ → Nat)
    (hstep : ∀ s, P s → ¬ goal s → ∃ s', M.Moves s s' ∧ P s' ∧ rank s' < rank s) {s : σ}
    (hP : P s) : M.CanReach goal s := by
  induction hn : rank s using Nat.strongRecOn generalizing s with
  | ind n ih =>
      by_cases hgoal : goal s
      · exact ⟨s, Leads.refl s, hgoal⟩
      · obtain ⟨s₁, hmove, hP₁, hlt⟩ := hstep s hP hgoal
        obtain ⟨s₂, hlead, hgoal₂⟩ := ih (rank s₁) (hn ▸ hlt) hP₁ rfl
        exact ⟨s₂, hlead.head hmove, hgoal₂⟩

end Machine

end Reactive
