import TcpUart.Lib.Machine

/-! # Stages that convey what they take, in order
A queue, a task that handles one item at a time, a stream that is written byte by byte: each takes
items at one end and gives them at the other, in order. `Conveys inp outp held` says that a stage
took `inp`, gave `outp` and holds the rest. A stage can be switched off (a session that ended); then
`held` is `none`, and what it held is lost.

* `Conveys.start`, `Conveys.work`, `Conveys.stop`, `Conveys.idle` — one lemma for each thing that
  can happen.
* `Machine.Reaches.conveys` — a stage that is never off, along every run. -/

namespace Reactive

variable {α : Type*}

/-- A stage took `inp` and gave `outp`; the rest is what it holds, unless it is off. -/
def Conveys (inp outp : List α) (held : Option (List α)) : Prop :=
  ∃ rest, inp = outp ++ rest ∧ ∀ h, held = some h → rest = h

namespace Conveys

variable {inp outp i o h h' : List α} {held : Option (List α)}

/-- A stage that took nothing holds nothing. -/
theorem start : Conveys ([] : List α) [] (some []) := by
  refine ⟨[], rfl, ?_⟩
  intro h heq
  cases heq
  rfl

/-- A stage gives what it took, in order. -/
theorem outp_isPrefix (hc : Conveys inp outp held) : outp <+: inp := by
  obtain ⟨rest, rfl, -⟩ := hc
  exact List.prefix_append _ _

/-- What a stage that is on took and has not given is what it holds. -/
theorem eq_append (hc : Conveys inp outp (some h)) : inp = outp ++ h := by
  obtain ⟨rest, heq, hrest⟩ := hc
  rw [heq, hrest h rfl]

/-- A stage that is on takes, gives, and goes on. -/
theorem work (hc : Conveys inp outp (some h)) (heq : h ++ i = o ++ h') :
    Conveys (inp ++ i) (outp ++ o) (some h') := by
  refine ⟨h', ?_, ?_⟩
  · rw [hc.eq_append, List.append_assoc, heq, List.append_assoc]
  · intro h₀ h₁
    cases h₁
    rfl

/-- Switching a stage off loses what it holds. -/
theorem off (hc : Conveys inp outp held) : Conveys inp outp none := by
  obtain ⟨rest, heq, -⟩ := hc
  exact ⟨rest, heq, nofun⟩

/-- A stage that is on takes, gives, and is switched off. -/
theorem stop (hc : Conveys inp outp (some h)) (heq : h ++ i = o ++ h') :
    Conveys (inp ++ i) (outp ++ o) none :=
  (hc.work heq).off

/-- A stage that is on takes and gives, and goes on or is switched off. -/
theorem advance {held' : Option (List α)} (hc : Conveys inp outp (some h))
    (heq : h ++ i = o ++ h') (hheld : held' = some h' ∨ held' = none) :
    Conveys (inp ++ i) (outp ++ o) held' := by
  rcases hheld with rfl | rfl
  · exact hc.work heq
  · exact hc.stop heq

/-- Nothing happens, except that the stage may be switched off. -/
theorem idle {held' : Option (List α)} (hc : Conveys inp outp held)
    (hheld : held' = held ∨ held' = none) : Conveys (inp ++ []) (outp ++ []) held' := by
  rw [List.append_nil, List.append_nil]
  rcases hheld with rfl | rfl
  · exact hc
  · exact hc.off

/-- The balance of a step that does not concern the stage. -/
theorem balance_silent (hh : h' = h) (hi : i = []) (ho : o = []) : h ++ i = o ++ h' := by
  rw [hh, hi, ho, List.append_nil, List.nil_append]

end Conveys

/-- **A stage along a run.** `inp` and `outp` read off a history what the stage took and gave. If at
every step what is held and taken is what is given and held then, the whole run gives what it takes,
in order, but for what is held at its end. -/
theorem Machine.Reaches.conveys {σ ι ο : Type*} {M : Machine σ ι ο} {log : List ο} {s : σ}
    (h : M.Reaches log s) (inp outp : List ο → List α) (held : σ → List α)
    (hinp : ∀ l l', inp (l ++ l') = inp l ++ inp l')
    (houtp : ∀ l l', outp (l ++ l') = outp l ++ outp l') (hinit : held M.init = [])
    (hstep : ∀ s i s' out, M.step s i = some (s', out) →
      held s ++ inp out = outp out ++ held s') :
    Conveys (inp log) (outp log) (some (held s)) := by
  have hnil : inp [] = [] := List.self_eq_append_right.mp (hinp [] [])
  have hnil' : outp [] = [] := List.self_eq_append_right.mp (houtp [] [])
  refine h.invariant (P := fun log s => Conveys (inp log) (outp log) (some (held s))) ?_ ?_
  · rw [hnil, hnil', hinit]
    exact Conveys.start
  · intro log s i s' out _ hc _ hs
    rw [hinp, houtp]
    exact hc.work (hstep s i s' out hs)

end Reactive
