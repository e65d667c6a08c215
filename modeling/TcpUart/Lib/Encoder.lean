import TcpUart.Lib.Framing

/-! # Encoders that write to a growing buffer
An encoder writes to the end of a buffer and may fail on the way, in which case what it wrote
before stays in the buffer: this is a function that takes a growing buffer by mutable reference and
leaves it early with an error.

* `Appends m bs a` — `m` succeeds with `a` and appends exactly `bs`, whatever the buffer held. It
  is kept by sequencing and by a loop (`Appends.each`).
* `Fails m` — `m` fails, whatever the buffer held.
* `Grows m bs` — `m` leaves at least `bs` behind what the buffer held, whether it fails or not.
* `attempts` — encoding one item after the other, going on after a failure. -/

namespace Framing

universe u v w

/-- An encoder of a value `α` to a buffer of `β`, failing with `ε`. -/
def Encoder (β : Type u) (ε : Type v) (α : Type w) : Type _ := List β → Except ε α × List β

namespace Encoder

variable {β : Type u} {ε : Type v} {α α' : Type w} {μ : Type*}

instance : Monad (Encoder β ε) where
  pure a := fun dst => (.ok a, dst)
  bind m f := fun dst =>
    match m dst with
    | (.ok a, dst') => f a dst'
    | (.error e, dst') => (.error e, dst')

/-- Write some bytes. -/
def put (bs : List β) : Encoder β ε PUnit := fun dst => (.ok ⟨⟩, dst ++ bs)

/-- Leave with an error. -/
def fail (e : ε) : Encoder β ε α := fun dst => (.error e, dst)

/-- Encode the items of a list one after the other. -/
def each (f : μ → Encoder β ε PUnit) : List μ → Encoder β ε PUnit
  | [] => pure ⟨⟩
  | m :: ms => do
      f m
      each f ms

/-- `m` succeeds with `a` and appends exactly `bs` to any buffer. -/
def Appends (m : Encoder β ε α) (bs : List β) (a : α) : Prop :=
  ∀ dst, m dst = (.ok a, dst ++ bs)

namespace Appends

/-- Returning a value writes nothing. -/
theorem pure (a : α) : Appends (Pure.pure a : Encoder β ε α) [] a := by
  intro dst
  rw [List.append_nil]
  rfl

/-- Writing bytes appends them. -/
theorem put (bs : List β) : Appends (Encoder.put bs : Encoder β ε PUnit) bs ⟨⟩ := by
  intro dst
  rfl

/-- **Sequencing** appends what the first and then what the second appends. -/
theorem bind {m : Encoder β ε α} {f : α → Encoder β ε α'} {bs bs' : List β} {a : α} {a' : α'}
    (hm : Appends m bs a) (hf : Appends (f a) bs' a') : Appends (m >>= f) (bs ++ bs') a' := by
  intro dst
  show (match m dst with
    | (.ok a, dst') => f a dst'
    | (.error e, dst') => (.error e, dst')) = _
  rw [hm dst, ← List.append_assoc]
  exact hf (dst ++ bs)

/-- **A loop** appends the codes of the items, one after the other. -/
theorem each {f : μ → Encoder β ε PUnit} {enc : μ → List β} {ms : List μ}
    (h : ∀ m ∈ ms, Appends (f m) (enc m) ⟨⟩) : Appends (Encoder.each f ms) (stream enc ms) ⟨⟩ := by
  induction ms with
  | nil => exact pure _
  | cons m ms ih =>
      rw [stream_cons]
      exact (h m List.mem_cons_self).bind (ih fun m' hm' => h m' (List.mem_cons_of_mem m hm'))

end Appends

/-! ## Failures -/

/-- `m` fails on every buffer. -/
def Fails (m : Encoder β ε α) : Prop := ∀ dst, ∃ e dst', m dst = (.error e, dst')

namespace Fails

/-- Leaving with an error fails. -/
theorem fail (e : ε) : Fails (Encoder.fail e : Encoder β ε α) := fun dst => ⟨e, dst, rfl⟩

/-- Nothing happens after a failure. -/
theorem bind_left {m : Encoder β ε α} (hm : Fails m) (f : α → Encoder β ε α') :
    Fails (m >>= f) := by
  intro dst
  obtain ⟨e, dst', h⟩ := hm dst
  refine ⟨e, dst', ?_⟩
  show (match m dst with
    | (.ok a, dst') => f a dst'
    | (.error e, dst') => (.error e, dst')) = _
  rw [h]

/-- A failure in the second part fails the whole. -/
theorem bind_right {m : Encoder β ε α} {f : α → Encoder β ε α'} {bs : List β} {a : α}
    (hm : Appends m bs a) (hf : Fails (f a)) : Fails (m >>= f) := by
  intro dst
  obtain ⟨e, dst', h⟩ := hf (dst ++ bs)
  refine ⟨e, dst', ?_⟩
  show (match m dst with
    | (.ok a, dst') => f a dst'
    | (.error e, dst') => (.error e, dst')) = _
  rw [hm dst]
  exact h

/-- **A loop** fails as soon as one of its items does. -/
theorem each {f : μ → Encoder β ε PUnit} {enc : μ → List β} {p : μ → Prop} {ms : List μ}
    (happ : ∀ m, p m → Appends (f m) (enc m) ⟨⟩) (hfail : ∀ m, ¬ p m → Fails (f m))
    (h : ∃ m ∈ ms, ¬ p m) : Fails (Encoder.each f ms) := by
  induction ms with
  | nil =>
      obtain ⟨m, hm, -⟩ := h
      cases hm
  | cons m ms ih =>
      by_cases hp : p m
      · obtain ⟨m', hm', hnp⟩ := h
        rcases List.mem_cons.mp hm' with rfl | hmem
        · exact absurd hp hnp
        · exact bind_right (happ m hp) (ih ⟨m', hmem, hnp⟩)
      · exact bind_left (hfail m hp) _

end Fails

/-! ## What stays in the buffer -/

/-- `m` leaves what the buffer held, then `bs`, then perhaps more. -/
def Grows (m : Encoder β ε α) (bs : List β) : Prop := ∀ dst, dst ++ bs <+: (m dst).2

namespace Grows

/-- Writing bytes leaves them. -/
theorem put (bs : List β) : Grows (Encoder.put bs : Encoder β ε PUnit) bs :=
  fun _ => List.prefix_refl _

/-- An error leaves the buffer alone. -/
theorem fail (e : ε) : Grows (Encoder.fail e : Encoder β ε α) [] := by
  intro dst
  rw [List.append_nil]
  exact List.prefix_refl dst

/-- What appends bytes leaves them, and in particular what it found. -/
theorem of_appends {m : Encoder β ε α} {bs : List β} {a : α} (hm : Appends m bs a) :
    Grows m [] := by
  intro dst
  rw [hm dst, List.append_nil]
  exact List.prefix_append dst bs

/-- **Sequencing**: what the first part leaves stays, whatever the second does. -/
theorem bind {m : Encoder β ε α} {f : α → Encoder β ε α'} {bs : List β} (hm : Grows m bs)
    (hf : ∀ a, Grows (f a) []) : Grows (m >>= f) bs := by
  intro dst
  show _ <+: (match m dst with
    | (.ok a, dst') => f a dst'
    | (.error e, dst') => (.error e, dst')).2
  have hfirst := hm dst
  split
  · rename_i a dst' heq
    have hsecond := hf a dst'
    rw [List.append_nil] at hsecond
    rw [heq] at hfirst
    exact hfirst.trans hsecond
  · rename_i e dst' heq
    rwa [heq] at hfirst

/-- **A loop** leaves what it found. -/
theorem each {f : μ → Encoder β ε PUnit} (hf : ∀ m, Grows (f m) []) (ms : List μ) :
    Grows (Encoder.each f ms) [] := by
  induction ms with
  | nil => exact of_appends (Appends.pure _)
  | cons m ms ih => exact (hf m).bind fun _ => ih

end Grows

/-! ## Going on after a failure -/

/-- Encode the items one after the other into one buffer, going on when one fails: the items that
were encoded without an error, and the buffer. -/
def attempts (f : μ → Encoder β ε PUnit) : List μ → List β → List μ × List β
  | [], dst => ([], dst)
  | m :: ms, dst =>
      match f m dst with
      | (.ok _, dst') => (m :: (attempts f ms dst').1, (attempts f ms dst').2)
      | (.error _, dst') => attempts f ms dst'

/-- Without a failure, every item is kept and its code appended. -/
theorem attempts_of_appends {f : μ → Encoder β ε PUnit} {enc : μ → List β} {ms : List μ}
    (h : ∀ m ∈ ms, Appends (f m) (enc m) ⟨⟩) (dst : List β) :
    attempts f ms dst = (ms, dst ++ stream enc ms) := by
  induction ms generalizing dst with
  | nil => rw [attempts, stream_nil, List.append_nil]
  | cons m ms ih =>
      rw [attempts, h m List.mem_cons_self dst]
      simp only [ih (fun m' hm' => h m' (List.mem_cons_of_mem m hm'))]
      rw [stream_cons, List.append_assoc]

/-- **A failure shows in the length.** If every item leaves something behind, also when it fails,
and the items that were kept appended their codes, then either nothing failed or the buffer holds
more than the codes. -/
theorem length_attempts {f : μ → Encoder β ε PUnit} {enc : μ → List β} {tag : μ → β}
    (hgrow : ∀ m, Grows (f m) [tag m]) {ms : List μ} {dst : List β}
    (hkept : ∀ m ∈ (attempts f ms dst).1, Appends (f m) (enc m) ⟨⟩) :
    (attempts f ms dst).1 = ms ∨
      dst.length + (stream enc (attempts f ms dst).1).length < (attempts f ms dst).2.length := by
  suffices h : dst.length + (stream enc (attempts f ms dst).1).length
        ≤ (attempts f ms dst).2.length ∧
      ((attempts f ms dst).1 = ms ∨
        dst.length + (stream enc (attempts f ms dst).1).length
          < (attempts f ms dst).2.length) from h.2
  induction ms generalizing dst with
  | nil => simp [attempts]
  | cons m ms ih =>
      have hlen := (hgrow m dst).length_le
      rw [attempts] at hkept ⊢
      cases hm : f m dst with
      | mk res dst' =>
          rw [hm] at hkept hlen
          cases res with
          | ok u =>
              obtain ⟨hthis, hrest⟩ := List.forall_mem_cons.mp hkept
              obtain ⟨hle, hcase⟩ := ih hrest
              have hdst' : dst' = dst ++ enc m := by
                rw [hthis dst] at hm
                exact (Prod.mk.inj hm).2.symm
              simp only [stream_cons, List.length_append, hdst'] at hle hcase ⊢
              refine ⟨by omega, ?_⟩
              rcases hcase with hsame | hlt
              · exact .inl (by rw [hsame])
              · exact .inr (by omega)
          | error e =>
              -- what the failure left is not part of any code
              obtain ⟨hle, -⟩ := ih hkept
              simp only [List.length_append, List.length_singleton] at hlen
              simp only
              exact ⟨by omega, .inr (by omega)⟩

end Encoder

end Framing
