import Mathlib.Data.List.Induction
import TcpUart.Lib.Machine

/-! # Histories of a server that is called
Clients call a server, the server takes one call after the other and returns to each client, and now
and then it acts on its own. What an observer sees of that is a list of marks. Pairing every return
with the call before it makes a list of operations, and the server is as good as an object that does
each of them in one step if the list is *legal* for that object.

* `Mark`, `Op` — what is seen, and what it amounts to.
* `pairing` — the operations of a list of marks, and the call in progress.
* `Legal step s₀ ops s` — the object can do `ops` one after the other, from `s₀` to `s`.
* `Atomic` — what a step of the server may be on the object.
* `Machine.Run.legal` — **the rule**: a server whose every step is one of these is legal along every
  run. -/

namespace Reactive

variable {κ α ρ ω σ ς ι ο : Type*}

/-- What an observer sees of a server. -/
inductive Mark (κ α ρ ω : Type*)
  /-- The server takes the call `a` of client `k`. -/
  | call (k : κ) (a : α)
  /-- The server returns `r` to client `k`. -/
  | ret (k : κ) (r : ρ)
  /-- The server acts on its own. -/
  | act (o : ω)

/-- An operation on the object: a call with what it returned, or an act of the server. -/
inductive Op (κ α ρ ω : Type*)
  /-- Client `k` calls `a` and is returned `r`. -/
  | call (k : κ) (a : α) (r : ρ)
  /-- The server acts on its own. -/
  | act (o : ω)

/-- The operations that are complete, and the call in progress. -/
structure Pairing (κ α ρ ω : Type*) where
  /-- The call that was taken and has not returned. -/
  pending : Option (κ × α)
  /-- The operations, in the order in which they were complete. -/
  ops : List (Op κ α ρ ω)

/-- One more mark. A return is paired with the call in progress. -/
def Pairing.mark (p : Pairing κ α ρ ω) : Mark κ α ρ ω → Pairing κ α ρ ω
  | .call k a => ⟨some (k, a), p.ops⟩
  | .ret _ r => ⟨none, p.ops ++ p.pending.toList.map fun c => .call c.1 c.2 r⟩
  | .act o => ⟨p.pending, p.ops ++ [.act o]⟩

/-- The operations of a list of marks. -/
def pairing (ms : List (Mark κ α ρ ω)) : Pairing κ α ρ ω := ms.foldl Pairing.mark ⟨none, []⟩

/-- Marks are paired one after the other. -/
@[simp] theorem pairing_append (ms ms' : List (Mark κ α ρ ω)) :
    pairing (ms ++ ms') = ms'.foldl Pairing.mark (pairing ms) :=
  List.foldl_append

/-- The operations that were complete before stay. -/
theorem foldl_mark (ms : List (Mark κ α ρ ω)) (p : Option (κ × α)) (ops : List (Op κ α ρ ω)) :
    ms.foldl Pairing.mark ⟨p, ops⟩ = ⟨(ms.foldl Pairing.mark ⟨p, []⟩).pending,
      ops ++ (ms.foldl Pairing.mark ⟨p, []⟩).ops⟩ := by
  induction ms generalizing p ops with
  | nil => simp
  | cons m ms ih =>
      simp only [List.foldl_cons]
      cases m with
      | call k a => exact ih _ _
      | ret k r =>
          simp only [Pairing.mark, List.nil_append]
          rw [ih none (ops ++ _), ih none (p.toList.map _), List.append_assoc]
      | act o =>
          simp only [Pairing.mark, List.nil_append]
          rw [ih p (ops ++ _), ih p [.act o], List.append_assoc]

/-- The calls of client `k` with what they returned. -/
def callsOf [DecidableEq κ] (k : κ) (ops : List (Op κ α ρ ω)) : List (α × ρ) :=
  ops.filterMap fun
    | .call k' a r => if k' = k then some (a, r) else none
    | .act _ => none

/-- The calls of a client, part by part. -/
@[simp] theorem callsOf_append [DecidableEq κ] (k : κ) (ops ops' : List (Op κ α ρ ω)) :
    callsOf k (ops ++ ops') = callsOf k ops ++ callsOf k ops' :=
  List.filterMap_append

/-! ## Legal histories -/

/-- The object with transitions `step` can do `ops` one after the other, from `s₀` to `s`. -/
inductive Legal (step : σ → ω → σ → Prop) (s₀ : σ) : List ω → σ → Prop
  /-- Nothing is done. -/
  | nil : Legal step s₀ [] s₀
  /-- One more operation. -/
  | snoc {ops : List ω} {s s' : σ} {o : ω} (h : Legal step s₀ ops s) (ho : step s o s') :
      Legal step s₀ (ops ++ [o]) s'

namespace Legal

variable {step : σ → ω → σ → Prop} {s₀ s s' : σ} {ops ops' : List ω} {o : ω}

/-- A legal history followed by one that is legal from where it ends. -/
theorem append (h : Legal step s₀ ops s) (h' : Legal step s ops' s') :
    Legal step s₀ (ops ++ ops') s' := by
  induction h' with
  | nil => simpa using h
  | snoc _ ho ih =>
      rw [← List.append_assoc]
      exact ih.snoc ho

/-- The last operation of a legal history. -/
theorem of_concat (h : Legal step s₀ (ops ++ [o]) s') : ∃ s, Legal step s₀ ops s ∧ step s o s' := by
  generalize hl : ops ++ [o] = l at h
  cases h with
  | nil => simp at hl
  | snoc h ho =>
      obtain ⟨rfl, hlast⟩ := List.append_inj' hl rfl
      cases hlast
      exact ⟨_, h, ho⟩

/-- The state between two parts of a legal history. -/
theorem of_append (h : Legal step s₀ (ops ++ ops') s') :
    ∃ s, Legal step s₀ ops s ∧ Legal step s ops' s' := by
  induction ops' using List.reverseRecOn generalizing s' with
  | nil => exact ⟨s', by simpa using h, .nil⟩
  | append_singleton ops' o ih =>
      rw [← List.append_assoc] at h
      obtain ⟨s₁, h₁, ho⟩ := of_concat h
      obtain ⟨s, hs, hs'⟩ := ih h₁
      exact ⟨s, hs, hs'.snoc ho⟩

/-- The states around an operation of a legal history. -/
theorem around (h : Legal step s₀ (ops ++ o :: ops') s') :
    ∃ s s₁, Legal step s₀ ops s ∧ step s o s₁ ∧ Legal step s₁ ops' s' := by
  rw [List.append_cons] at h
  obtain ⟨s₁, h₁, hrest⟩ := of_append h
  obtain ⟨s, hs, ho⟩ := of_concat h₁
  exact ⟨s, s₁, hs, ho, hrest⟩

/-- What no operation of a legal history changes is as it was. -/
theorem invariant {P : σ → Prop} (h : Legal step s ops s') (hP : P s)
    (hstep : ∀ o ∈ ops, ∀ s s', P s → step s o s' → P s') : P s' := by
  induction h with
  | nil => exact hP
  | snoc _ ho ih =>
      have hpre := ih fun o' ho' => hstep o' (List.mem_append_left _ ho')
      exact hstep _ (by simp) _ _ hpre ho

end Legal

/-! ## One call at a time -/

/-- **What a step of a server may be** on the object, when calls are done as they return: the state
of the object and the call in progress before the step, the marks, and both after it. -/
inductive Atomic (step : ς → Op κ α ρ ω → ς → Prop) (s : ς) :
    Option (κ × α) → List (Mark κ α ρ ω) → ς → Option (κ × α) → Prop
  /-- Nothing is seen. -/
  | silent {p : Option (κ × α)} : Atomic step s p [] s p
  /-- A call is taken. -/
  | call (k : κ) (a : α) : Atomic step s none [.call k a] s (some (k, a))
  /-- The call in progress returns. -/
  | ret {k : κ} {a : α} {r : ρ} {s' : ς} (h : step s (.call k a r) s') :
      Atomic step s (some (k, a)) [.ret k r] s' none
  /-- A call is taken and returns at once. -/
  | both {k : κ} {a : α} {r : ρ} {s' : ς} (h : step s (.call k a r) s') :
      Atomic step s none [.call k a, .ret k r] s' none
  /-- The server acts on its own. -/
  | act {p : Option (κ × α)} {o : ω} {s' : ς} (h : step s (.act o) s') :
      Atomic step s p [.act o] s' p

/-- What is done in a step of the server is legal. -/
theorem Atomic.legal {step : ς → Op κ α ρ ω → ς → Prop} {s₀ s s' : ς} {p p' : Option (κ × α)}
    {ms ms' : List (Mark κ α ρ ω)} (h : Atomic step s p ms' s' p')
    (hp : (pairing ms).pending = p) (hl : Legal step s₀ (pairing ms).ops s) :
    (pairing (ms ++ ms')).pending = p' ∧ Legal step s₀ (pairing (ms ++ ms')).ops s' := by
  rw [pairing_append]
  cases h with
  | silent => exact ⟨hp, hl⟩
  | call k a => exact ⟨rfl, hl⟩
  | ret h =>
      refine ⟨rfl, ?_⟩
      simp only [List.foldl, Pairing.mark, hp, Option.toList_some, List.map_cons, List.map_nil]
      exact hl.snoc h
  | both h =>
      refine ⟨rfl, ?_⟩
      simp only [List.foldl, Pairing.mark, Option.toList_some, List.map_cons, List.map_nil]
      exact hl.snoc h
  | act h => exact ⟨hp, hl.snoc h⟩

/-- **The rule.** If every step of a server is atomic on an object, as the server's own state
represents it, then what an observer sees of a run is legal for the object: it can do the operations
one after the other, in the order in which they were complete. -/
theorem Machine.Run.legal {M : Machine σ ι ο} {ok : σ → ι → Prop} (mark : ο → Option (Mark κ α ρ ω))
    {step : ς → Op κ α ρ ω → ς → Prop} (object : σ → ς) (busy : σ → Option (κ × α))
    (hinit : busy M.init = none)
    (hstep : ∀ log s i s' out, M.Run ok log s → ok s i → M.step s i = some (s', out) →
      Atomic step (object s) (busy s) (out.filterMap mark) (object s') (busy s'))
    {log : List ο} {s : σ} (h : M.Run ok log s) :
    (pairing (log.filterMap mark)).pending = busy s ∧
      Legal step (object M.init) (pairing (log.filterMap mark)).ops (object s) := by
  refine h.invariant (P := fun log s => (pairing (log.filterMap mark)).pending = busy s ∧
    Legal step (object M.init) (pairing (log.filterMap mark)).ops (object s)) ?_ ?_
  · exact ⟨hinit.symm, .nil⟩
  · rintro log s i s' out hr ⟨hp, hl⟩ hok hs
    rw [List.filterMap_append]
    exact (hstep log s i s' out hr hok hs).legal hp hl

end Reactive
