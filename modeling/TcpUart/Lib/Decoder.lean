import Mathlib.Data.List.Basic

/-! # Incremental decoders
A decoder looks at the bytes received so far and either wants more of them, rejects them, or
returns an item and the bytes after it. This is the shape of a streaming codec whose `decode`
returns `Ok(None)`, `Err(e)` or `Ok(Some(item))`: the buffer changes only in the last case.

Decoders compose with `do` notation; a read that runs out of bytes makes the whole decoder ask for
more, an error makes it fail. -/

namespace Framing

universe u v w

/-- What a decoder makes of a buffer. -/
inductive Decoded (β ε α : Type*)
  /-- The buffer holds no whole item yet; nothing is consumed. -/
  | incomplete
  /-- The buffer is rejected; nothing is consumed. -/
  | error (e : ε)
  /-- An item was read and `rest` is what is left of the buffer. -/
  | item (a : α) (rest : List β)
  deriving DecidableEq

/-- A decoder of items `α` from a buffer of `β`, failing with `ε`. -/
def Decoder (β ε α : Type*) : Type _ := List β → Decoded β ε α

namespace Decoder

variable {β : Type u} {ε : Type v} {α α' : Type w}

instance : Monad (Decoder β ε) where
  pure a := fun buf => .item a buf
  bind d f := fun buf =>
    match d buf with
    | .incomplete => .incomplete
    | .error e => .error e
    | .item a rest => f a rest

/-- Sequencing reads the first item and goes on with what is left. -/
theorem bind_apply (d : Decoder β ε α) (f : α → Decoder β ε α') (buf : List β) :
    (d >>= f) buf = match d buf with
      | .incomplete => .incomplete
      | .error e => .error e
      | .item a rest => f a rest := rfl

/-- Sequencing after a read that succeeds. -/
theorem bind_of_item {d : Decoder β ε α} {buf rest : List β} {a : α} (h : d buf = .item a rest)
    (f : α → Decoder β ε α') : (d >>= f) buf = f a rest := by
  rw [bind_apply, h]

/-- Sequencing after a read that wants more. -/
theorem bind_of_incomplete {d : Decoder β ε α} {buf : List β} (h : d buf = .incomplete)
    (f : α → Decoder β ε α') : (d >>= f) buf = .incomplete := by
  rw [bind_apply, h]

/-- Reject the buffer. -/
def fail (e : ε) : Decoder β ε α := fun _ => .error e

/-- Take the next `n` bytes, if there are that many. -/
def take (n : Nat) : Decoder β ε (List β) := fun buf =>
  if buf.length < n then .incomplete else .item (buf.take n) (buf.drop n)

/-- Ask for more unless `n` bytes are there; read nothing. -/
def ensure (n : Nat) : Decoder β ε Unit := fun buf =>
  if buf.length < n then .incomplete else .item () buf

/-- Take the next byte, if there is one. -/
def next : Decoder β ε β
  | [] => .incomplete
  | b :: rest => .item b rest

/-- Read `n` items with `d`, after those already in `acc`. -/
def collect (d : Decoder β ε α) : Nat → List α → Decoder β ε (List α)
  | 0, acc => pure acc
  | n + 1, acc => do
      let a ← d
      collect d n (acc ++ [a])

/-- Taking exactly the bytes in front leaves what follows. -/
theorem take_append {n : Nat} {front : List β} (h : front.length = n) (rest : List β) :
    (take n : Decoder β ε (List β)) (front ++ rest) = .item front rest := by
  subst h
  simp [take]

/-- A short buffer is asked to grow. -/
theorem ensure_of_lt {n : Nat} {buf : List β} (h : buf.length < n) :
    (ensure n : Decoder β ε Unit) buf = .incomplete := if_pos h

/-- A buffer that is long enough passes. -/
theorem ensure_of_le {n : Nat} {buf : List β} (h : n ≤ buf.length) :
    (ensure n : Decoder β ε Unit) buf = .item () buf := if_neg (by omega)

end Decoder

end Framing
