import Mathlib.Data.List.Basic

/-! # Reactive machines
A `Machine` is a state, an executable step function and the observations a step emits. The input of
a step carries every choice the environment makes (which task moves, what a system call returned),
so one step function covers every interleaving and every outcome. A run accumulates the
observations in a *log*; properties of whole runs are relations between the log and the state.

* `Machine.Run ok log s` — `s` is reached with history `log` by steps that all meet `ok`.
* `Machine.Reaches` — the unrestricted runs.
* `Run.invariant` — the induction rule every invariant of a run goes through.
* `Run.project` — a run of a composed machine is, seen by one component, a run of that component.
* `Machine.exec` — runs a list of inputs, so a concrete run can be evaluated.
* `Machine.restrict` — the runs that pass a check at every step, as a machine.
* `Justified P log` — every event of a history has the property `P` given the events before it. -/

namespace Reactive

/-- A machine with states `σ`, inputs `ι` and observations `ο`. A step that is not possible in a
state returns `none`. -/
structure Machine (σ ι ο : Type*) where
  /-- The state in which every run starts. -/
  init : σ
  /-- One step: the next state and what the step lets an observer see. -/
  step : σ → ι → Option (σ × List ο)

namespace Machine

variable {σ ι ο σ' ι' ο' : Type*} {M : Machine σ ι ο} {ok : σ → ι → Prop}

/-- `M.Run ok log s`: some run whose steps all meet `ok` ends in `s` with history `log`. -/
inductive Run (M : Machine σ ι ο) (ok : σ → ι → Prop) : List ο → σ → Prop
  /-- The empty run. -/
  | init : Run M ok [] M.init
  /-- A run extended by one step. -/
  | step {log : List ο} {s : σ} {i : ι} {s' : σ} {out : List ο} (hr : Run M ok log s)
      (hok : ok s i) (hs : M.step s i = some (s', out)) : Run M ok (log ++ out) s'

/-- `M.Reaches log s`: `s` is reachable, with history `log`, by any steps at all. -/
def Reaches (M : Machine σ ι ο) (log : List ο) (s : σ) : Prop := M.Run (fun _ _ => True) log s

/-- The empty run reaches the initial state. -/
theorem Reaches.init : M.Reaches [] M.init := Run.init

/-- A reachable state and one step give a reachable state. -/
theorem Reaches.step {log out : List ο} {s s' : σ} {i : ι} (hr : M.Reaches log s)
    (hs : M.step s i = some (s', out)) : M.Reaches (log ++ out) s' :=
  Run.step hr trivial hs

/-- **The invariant rule.** A relation between history and state that holds at the start and is
kept by every admitted step holds along every run. The step may use that its source is reached. -/
theorem Run.invariant {P : List ο → σ → Prop} (h0 : P [] M.init)
    (hstep : ∀ log s i s' out, M.Run ok log s → P log s → ok s i →
      M.step s i = some (s', out) → P (log ++ out) s')
    {log : List ο} {s : σ} (h : M.Run ok log s) : P log s := by
  induction h with
  | init => exact h0
  | step hr hok hs ih => exact hstep _ _ _ _ _ hr ih hok hs

/-- A run under a condition is a run under every weaker condition. -/
theorem Run.mono {ok' : σ → ι → Prop} (hle : ∀ s i, ok s i → ok' s i) {log : List ο} {s : σ}
    (h : M.Run ok log s) : M.Run ok' log s := by
  induction h with
  | init => exact Run.init
  | step _ hok hs ih => exact Run.step ih (hle _ _ hok) hs

/-- A run under a condition is, in particular, a run. -/
theorem Run.reaches {log : List ο} {s : σ} (h : M.Run ok log s) : M.Reaches log s :=
  h.mono fun _ _ _ => trivial

/-- **Projection to a component.** If every step of `M`, seen through `π` and `obs`, is a step of
`M'` or leaves the component alone and shows nothing of it, then every run of `M` is a run of
`M'`. -/
theorem Run.project {M' : Machine σ' ι' ο'} {ok' : σ' → ι' → Prop} (π : σ → σ')
    (obs : ο → Option ο') (hinit : π M.init = M'.init)
    (hstep : ∀ s i s' out, ok s i → M.step s i = some (s', out) →
      (∃ i', ok' (π s) i' ∧ M'.step (π s) i' = some (π s', out.filterMap obs)) ∨
        (π s' = π s ∧ out.filterMap obs = []))
    {log : List ο} {s : σ} (h : M.Run ok log s) : M'.Run ok' (log.filterMap obs) (π s) := by
  induction h with
  | init => rw [hinit]; exact Run.init
  | step _ hok hs ih =>
      rw [List.filterMap_append]
      rcases hstep _ _ _ _ hok hs with ⟨i', hok', hs'⟩ | ⟨hsame, hnone⟩
      · exact Run.step ih hok' hs'
      · rw [hsame, hnone, List.append_nil]; exact ih

/-- Run a list of inputs from `s`, collecting the observations. -/
def exec (M : Machine σ ι ο) (s : σ) : List ι → Option (σ × List ο)
  | [] => some (s, [])
  | i :: rest =>
      match M.step s i with
      | none => none
      | some (s', out) =>
          match M.exec s' rest with
          | none => none
          | some (s'', out') => some (s'', out ++ out')

/-- Executing inputs that are always admitted extends a run. -/
theorem Run.exec {log out : List ο} {s s' : σ} (hr : M.Run ok log s) (is : List ι)
    (hok : ∀ i ∈ is, ∀ s, ok s i) (h : M.exec s is = some (s', out)) :
    M.Run ok (log ++ out) s' := by
  induction is generalizing s log out with
  | nil =>
      simp only [Machine.exec, Option.some.injEq, Prod.mk.injEq] at h
      obtain ⟨rfl, rfl⟩ := h
      rw [List.append_nil]; exact hr
  | cons i rest ih =>
      obtain ⟨hi, hrest⟩ := List.forall_mem_cons.mp hok
      rw [Machine.exec] at h
      cases hs : M.step s i with
      | none => rw [hs] at h; cases h
      | some r =>
          obtain ⟨s₁, out₁⟩ := r
          rw [hs] at h
          cases he : M.exec s₁ rest with
          | none => simp only [he] at h; cases h
          | some r' =>
              obtain ⟨s₂, out₂⟩ := r'
              simp only [he, Option.some.injEq, Prod.mk.injEq] at h
              obtain ⟨rfl, rfl⟩ := h
              rw [← List.append_assoc]
              exact ih (hr.step (hi s) hs) hrest he

/-- Executing inputs from a reachable state ends in a reachable state. -/
theorem Reaches.exec {log out : List ο} {s s' : σ} (hr : M.Reaches log s) (is : List ι)
    (h : M.exec s is = some (s', out)) : M.Reaches (log ++ out) s' :=
  Run.exec hr is (fun _ _ _ => trivial) h

/-- A list of inputs that executes to a state with property `p` witnesses a reachable state with
that property. -/
theorem exists_reaches_of_exec (is : List ι) {p : List ο → σ → Bool}
    (h : (M.exec M.init is).any (fun r => p r.2 r.1) = true) :
    ∃ log s, M.Reaches log s ∧ p log s = true := by
  cases he : M.exec M.init is with
  | none => rw [he] at h; cases h
  | some r =>
      obtain ⟨s, log⟩ := r
      rw [he] at h
      exact ⟨log, s, by simpa using Reaches.init.exec is he, h⟩

/-- The machine that refuses inputs that fail a check. -/
def restrict (M : Machine σ ι ο) (check : σ → ι → Bool) : Machine σ ι ο where
  init := M.init
  step := fun s i => if check s i then M.step s i else none

/-- A run of the restricted machine is a run of the machine whose steps all meet the condition that
is checked. -/
theorem Reaches.of_restrict {check : σ → ι → Bool} {log : List ο} {s : σ}
    (h : (M.restrict check).Reaches log s) (ok : σ → ι → Prop)
    (hcheck : ∀ s i, check s i = true → ok s i) : M.Run ok log s := by
  induction h with
  | init => exact Run.init
  | @step log s i s' out _ _ hs ih =>
      by_cases hc : check s i = true
      · have hs' : M.step s i = some (s', out) := by
          rw [← hs]
          exact (if_pos hc).symm
        exact Run.step ih (hcheck s i hc) hs'
      · have hnone : (M.restrict check).step s i = none := if_neg hc
        rw [hnone] at hs
        cases hs

end Machine

/-! ## Histories -/

variable {ο : Type*} {P : List ο → ο → Prop}

/-- `Justified P log`: each event of `log` has property `P`, given the events before it. -/
def Justified (P : List ο → ο → Prop) (log : List ο) : Prop :=
  ∀ pre o post, log = pre ++ o :: post → P pre o

/-- The empty history is justified. -/
theorem Justified.nil : Justified P [] := by
  intro pre o post h
  exact absurd h.symm (List.append_ne_nil_of_right_ne_nil _ (List.cons_ne_nil _ _))

/-- A weaker property is justified too. -/
theorem Justified.mono {Q : List ο → ο → Prop} {log : List ο} (h : Justified P log)
    (hPQ : ∀ pre o, P pre o → Q pre o) : Justified Q log := by
  intro pre o post heq
  exact hPQ pre o (h pre o post heq)

/-- A justified history stays justified when one justified event follows. -/
theorem Justified.concat {log : List ο} {o : ο} (h : Justified P log) (ho : P log o) :
    Justified P (log ++ [o]) := by
  intro pre o' post heq
  rcases List.append_eq_append_iff.mp heq with ⟨l, rfl, hl⟩ | ⟨l, rfl, hl⟩
  · cases l with
    | nil =>
        rw [List.append_nil]
        cases hl
        exact ho
    | cons a l =>
        have := congrArg List.length hl
        simp at this
  · cases l with
    | nil =>
        rw [List.append_nil] at ho
        cases hl
        exact ho
    | cons a l =>
        cases hl
        exact h pre o' l rfl

/-- A justified history stays justified when events follow that are justified by any past. -/
theorem Justified.append {log out : List ο} (h : Justified P log)
    (hout : ∀ o ∈ out, ∀ pre, P pre o) : Justified P (log ++ out) := by
  induction out generalizing log with
  | nil => rwa [List.append_nil]
  | cons o out ih =>
      rw [List.append_cons]
      exact ih (h.concat (hout o List.mem_cons_self log)) fun o' ho' =>
        hout o' (List.mem_cons_of_mem o ho')

end Reactive
