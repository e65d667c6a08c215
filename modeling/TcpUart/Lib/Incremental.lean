import TcpUart.Lib.Decoder
import TcpUart.Lib.Framing

/-! # Decoding a stream as it arrives
A stream reaches a decoder in chunks, and after each chunk the decoder is called until it asks for
more. This module says when the chunks do not matter.

* `Incremental` — what a decoder returned stays what it returns when more bytes arrive, and what
  it leaves is the end of what it was given. It is kept by sequencing, so a decoder written with
  `do` is incremental because its reads are.
* `Reads d e a` — `d` reads `a` from exactly the bytes `e`, whatever follows, and waits on every
  strict part of them. It is kept by sequencing as well.
* `Parses d P` — whatever `d` reads, it reads from bytes that have the property `P` with it.
* `drain` and `feed` — the loop that decodes a buffer, and the loop over the chunks of a stream.
* `Streaming.feed_eq_drain` — the messages and the first error of a stream do not depend on its
  chunks.
* `drain_stream` — the codes of a list of messages, one after the other, decode to that list.
* `eq_stream_of_drain` — a buffer that decodes to a list and is used up holds nothing else. -/

namespace Framing

universe u v w

namespace Decoder

variable {β : Type u} {ε : Type v} {α α' : Type w}

/-- `advance`: drop the first `n` bytes of a buffer. `none` is the panic when there are fewer. -/
def advance (n : Nat) (buf : List β) : Option (List β) :=
  if n ≤ buf.length then some (buf.drop n) else none

/-- A call of `decode` on a buffer: what it returns and what it leaves in the buffer. The buffer is
advanced by the number of bytes read, and only when an item is returned. `none` is a panic. -/
def call (d : Decoder β ε α) (src : List β) : Option (Except ε (Option α) × List β) :=
  match d src with
  | .incomplete => some (.ok none, src)
  | .error e => some (.error e, src)
  | .item a rest =>
      -- `src.advance(cursor.position())`
      (advance (src.length - rest.length) src).map fun src' => (.ok (some a), src')

/-! ## Incremental decoders -/

/-- A decoder whose results are not changed by bytes that arrive later. -/
structure Incremental (d : Decoder β ε α) : Prop where
  /-- An item stays, and later bytes stand after what was left. -/
  item_append : ∀ {buf rest : List β} {a : α}, d buf = .item a rest →
    ∀ t, d (buf ++ t) = .item a (rest ++ t)
  /-- An error stays. -/
  error_append : ∀ {buf : List β} {e : ε}, d buf = .error e → ∀ t, d (buf ++ t) = .error e
  /-- What is left is the end of the buffer. -/
  suffix : ∀ {buf rest : List β} {a : α}, d buf = .item a rest → rest <:+ buf

namespace Incremental

/-- Returning a value is incremental. -/
theorem pure (a : α) : Incremental (Pure.pure a : Decoder β ε α) where
  item_append := by
    intro buf rest a' h t
    cases h
    rfl
  error_append := by
    intro buf e h
    cases h
  suffix := by
    intro buf rest a' h
    cases h
    exact List.suffix_refl _

/-- Rejecting is incremental. -/
theorem fail (e : ε) : Incremental (Decoder.fail e : Decoder β ε α) where
  item_append := by
    intro buf rest a h
    cases h
  error_append := by
    intro buf e' h t
    cases h
    rfl
  suffix := by
    intro buf rest a h
    cases h

/-- Reading a byte is incremental. -/
theorem next : Incremental (Decoder.next : Decoder β ε β) where
  item_append := by
    intro buf rest b h t
    cases buf with
    | nil => cases h
    | cons x xs =>
        cases h
        rfl
  error_append := by
    intro buf e h
    cases buf with
    | nil => cases h
    | cons x xs => cases h
  suffix := by
    intro buf rest b h
    cases buf with
    | nil => cases h
    | cons x xs =>
        cases h
        exact List.suffix_cons _ _

/-- Taking some bytes is incremental. -/
theorem take (n : Nat) : Incremental (Decoder.take n : Decoder β ε (List β)) where
  item_append := by
    intro buf rest a h t
    rw [Decoder.take] at h ⊢
    split at h
    · cases h
    · rename_i hle
      rw [if_neg (by rw [List.length_append]; omega), List.take_append_of_le_length (by omega),
        List.drop_append_of_le_length (by omega)]
      cases h
      rfl
  error_append := by
    intro buf e h
    rw [Decoder.take] at h
    split at h <;> cases h
  suffix := by
    intro buf rest a h
    rw [Decoder.take] at h
    split at h
    · cases h
    · cases h
      exact List.drop_suffix n buf

/-- Checking that enough bytes are there is incremental. -/
theorem ensure (n : Nat) : Incremental (Decoder.ensure n : Decoder β ε Unit) where
  item_append := by
    intro buf rest a h t
    rw [Decoder.ensure] at h ⊢
    split at h
    · cases h
    · rw [if_neg (by rw [List.length_append]; omega)]
      cases h
      rfl
  error_append := by
    intro buf e h
    rw [Decoder.ensure] at h
    split at h <;> cases h
  suffix := by
    intro buf rest a h
    rw [Decoder.ensure] at h
    split at h
    · cases h
    · cases h
      exact List.suffix_refl _

/-- **Sequencing incremental decoders is incremental.** -/
theorem bind {d : Decoder β ε α} {f : α → Decoder β ε α'} (hd : Incremental d)
    (hf : ∀ a, Incremental (f a)) : Incremental (d >>= f) where
  item_append := by
    intro buf rest a' h t
    rw [bind_apply] at h
    split at h
    · cases h
    · cases h
    · rename_i a mid hmid
      rw [bind_of_item (hd.item_append hmid t)]
      exact (hf a).item_append h t
  error_append := by
    intro buf e h t
    rw [bind_apply] at h
    split at h
    · cases h
    · rename_i e' he
      cases h
      rw [bind_apply, hd.error_append he t]
    · rename_i a mid hmid
      rw [bind_of_item (hd.item_append hmid t)]
      exact (hf a).error_append h t
  suffix := by
    intro buf rest a' h
    rw [bind_apply] at h
    split at h
    · cases h
    · cases h
    · rename_i a mid hmid
      exact ((hf a).suffix h).trans (hd.suffix hmid)

/-- Reading a number of items is incremental. -/
theorem collect {d : Decoder β ε α} (hd : Incremental d) (n : Nat) (acc : List α) :
    Incremental (d.collect n acc) := by
  induction n generalizing acc with
  | zero => exact pure acc
  | succ n ih => exact hd.bind fun a => ih (acc ++ [a])

/-- A call of an incremental decoder never advances past the buffer: it leaves what was not read. -/
theorem call_of_item {d : Decoder β ε α} (hd : Incremental d) {src rest : List β} {a : α}
    (h : d src = .item a rest) : d.call src = some (.ok (some a), rest) := by
  obtain ⟨front, rfl⟩ := hd.suffix h
  simp [call, h, advance]

end Incremental

/-! ## Reading exactly some bytes -/

/-- `d` reads `a` from exactly the bytes `e`. -/
structure Reads (d : Decoder β ε α) (e : List β) (a : α) : Prop where
  /-- With all the bytes there, `a` is read and what follows is left. -/
  whole : ∀ rest, d (e ++ rest) = .item a rest
  /-- With only some of them there, more are asked for. -/
  cut : ∀ {p : List β}, p <+: e → p ≠ e → d p = .incomplete

namespace Reads

/-- Returning a value reads nothing. -/
theorem pure (a : α) : Reads (Pure.pure a : Decoder β ε α) [] a where
  whole := fun _ => rfl
  cut := by
    intro p hp hne
    exact absurd (List.prefix_nil.mp hp) hne

/-- Reading one byte. -/
theorem next (b : β) : Reads (Decoder.next : Decoder β ε β) [b] b where
  whole := fun _ => rfl
  cut := by
    intro p hp hne
    obtain rfl : p = [] := by
      rcases p with - | ⟨x, xs⟩
      · rfl
      · obtain ⟨rfl, hxs⟩ := List.cons_prefix_cons.mp hp
        exact absurd (by rw [List.prefix_nil.mp hxs]) hne
    rfl

/-- Reading a given number of bytes. -/
theorem take {n : Nat} {bs : List β} (h : bs.length = n) :
    Reads (Decoder.take n : Decoder β ε (List β)) bs bs where
  whole := take_append h
  cut := by
    intro p hp hne
    have hlt : p.length < bs.length :=
      Nat.lt_of_le_of_ne hp.length_le fun heq => hne (hp.eq_of_length heq)
    exact if_pos (by omega)

/-- **Sequencing**: the bytes read by the first and then those read by the second. -/
theorem bind {d : Decoder β ε α} {f : α → Decoder β ε α'} {e e' : List β} {a : α} {a' : α'}
    (hd : Reads d e a) (hf : Reads (f a) e' a') : Reads (d >>= f) (e ++ e') a' where
  whole := by
    intro rest
    rw [List.append_assoc, bind_of_item (hd.whole _)]
    exact hf.whole rest
  cut := by
    intro p hp hne
    rcases List.prefix_or_prefix_of_prefix hp (List.prefix_append e e') with hle | hle
    · by_cases heq : p = e
      · -- the cut is between the two: the second read finds nothing
        subst heq
        have hwhole := hd.whole []
        rw [List.append_nil] at hwhole
        rw [bind_of_item hwhole]
        refine hf.cut List.nil_prefix ?_
        rintro rfl
        exact hne (List.append_nil p).symm
      · exact bind_of_incomplete (hd.cut hle heq) f
    · obtain ⟨p', rfl⟩ := hle
      rw [bind_of_item (hd.whole p')]
      refine hf.cut ((List.prefix_append_right_inj e).mp hp) ?_
      rintro rfl
      exact hne rfl

/-- **A loop** reads the codes of the items, one after the other. -/
theorem collect {d : Decoder β ε α} {enc : α → List β} {as : List α}
    (h : ∀ a ∈ as, Reads d (enc a) a) (acc : List α) :
    Reads (d.collect as.length acc) (stream enc as) (acc ++ as) := by
  induction as generalizing acc with
  | nil =>
      rw [List.append_nil]
      exact pure acc
  | cons a as ih =>
      rw [stream_cons]
      refine (h a List.mem_cons_self).bind ?_
      have := ih (fun a' ha' => h a' (List.mem_cons_of_mem a ha')) (acc ++ [a])
      rwa [List.append_assoc] at this

end Reads

/-! ## What was read from -/

/-- Every item `d` reads was read from bytes at the front of the buffer that have the property `P`
with it. -/
def Parses (d : Decoder β ε α) (P : List β → α → Prop) : Prop :=
  ∀ ⦃buf rest : List β⦄ ⦃a : α⦄, d buf = .item a rest → ∃ e, buf = e ++ rest ∧ P e a

namespace Parses

/-- Returning a value reads nothing. -/
theorem pure {P : List β → α → Prop} {a : α} (h : P [] a) :
    Parses (Pure.pure a : Decoder β ε α) P := by
  intro buf rest a' h'
  cases h'
  exact ⟨[], rfl, h⟩

/-- Rejecting reads nothing at all. -/
theorem fail (e : ε) {P : List β → α → Prop} : Parses (Decoder.fail e) P := by
  intro buf rest a h
  cases h

/-- A byte is read from itself. -/
theorem next : Parses (Decoder.next : Decoder β ε β) fun e b => e = [b] := by
  intro buf rest b h
  cases buf with
  | nil => cases h
  | cons x xs =>
      cases h
      exact ⟨[b], rfl, rfl⟩

/-- Bytes are read from themselves. -/
theorem take (n : Nat) :
    Parses (Decoder.take n : Decoder β ε (List β)) fun e bs => e = bs ∧ bs.length = n := by
  intro buf rest bs h
  rw [Decoder.take] at h
  split at h
  · cases h
  · cases h
    exact ⟨buf.take n, (List.take_append_drop n buf).symm, rfl, List.length_take_of_le (by omega)⟩

/-- A weaker property holds too. -/
theorem mono {d : Decoder β ε α} {P Q : List β → α → Prop} (hd : Parses d P)
    (hPQ : ∀ e a, P e a → Q e a) : Parses d Q := by
  intro buf rest a h
  obtain ⟨e, he, hP⟩ := hd h
  exact ⟨e, he, hPQ e a hP⟩

/-- **Sequencing**: the bytes are those of the first read and then those of the second. -/
theorem bind {d : Decoder β ε α} {f : α → Decoder β ε α'} {P : List β → α → Prop}
    {Q : List β → α' → Prop} (hd : Parses d P)
    (hf : ∀ a e, P e a → Parses (f a) fun e' a' => Q (e ++ e') a') : Parses (d >>= f) Q := by
  intro buf rest a' h
  rw [bind_apply] at h
  split at h
  · cases h
  · cases h
  · rename_i a mid hmid
    obtain ⟨e, rfl, hP⟩ := hd hmid
    obtain ⟨e', rfl, hQ⟩ := hf a e hP h
    exact ⟨e ++ e', (List.append_assoc e e' rest).symm, hQ⟩

/-- **A loop** reads as many items as it is asked for, from their bytes one after the other. -/
theorem collect {d : Decoder β ε α} {enc : α → List β} {F : α → Prop}
    (hd : Parses d fun e a => e = enc a ∧ F a) (n : Nat) (acc : List α) :
    Parses (d.collect n acc) fun e as => ∃ new, as = acc ++ new ∧ new.length = n ∧
      e = stream enc new ∧ ∀ a ∈ new, F a := by
  induction n generalizing acc with
  | zero => exact pure ⟨[], (List.append_nil acc).symm, rfl, rfl, nofun⟩
  | succ n ih =>
      refine hd.bind ?_
      rintro a _ ⟨rfl, ha⟩
      refine (ih (acc ++ [a])).mono ?_
      rintro e' as ⟨new, rfl, hlen, rfl, hnew⟩
      refine ⟨a :: new, List.append_assoc acc [a] new, by rw [List.length_cons, hlen], rfl, ?_⟩
      exact List.forall_mem_cons.mpr ⟨ha, hnew⟩

end Parses

/-! ## Decoding a whole buffer -/

/-- What decoding a buffer until it is used up gives: the items, the error that ended it, if one
did, and what is left in the buffer. -/
structure Drained (β : Type u) (ε : Type v) (α : Type w) where
  /-- The items, in order. -/
  items : List α
  /-- The error the last call returned, if it did. -/
  error : Option ε
  /-- The buffer afterwards. -/
  buf : List β
  deriving DecidableEq

/-- The items of an earlier loop stand before those of a later one. -/
def Drained.prepend (as : List α) (r : Drained β ε α) : Drained β ε α :=
  { r with items := as ++ r.items }

/-- Call the decoder until it asks for more or fails. `none`: a call panicked, or `n` calls were
not enough. -/
def drain (d : Decoder β ε α) : Nat → List β → Option (Drained β ε α)
  | 0, _ => none
  | n + 1, buf =>
      match d.call buf with
      | none => none
      | some (.ok none, buf') => some ⟨[], none, buf'⟩
      | some (.error e, buf') => some ⟨[], some e, buf'⟩
      | some (.ok (some a), buf') => (drain d n buf').map (Drained.prepend [a])

/-- What is left after `n` items, if there are that many. -/
def after (d : Decoder β ε α) : Nat → List β → Option (List β)
  | 0, buf => some buf
  | n + 1, buf =>
      match d buf with
      | .incomplete => none
      | .error _ => none
      | .item _ rest => after d n rest

/-- Whether an error is met while `n` items are read. -/
def errsWithin (d : Decoder β ε α) : Nat → List β → Prop
  | 0, _ => False
  | n + 1, buf =>
      match d buf with
      | .incomplete => False
      | .error _ => True
      | .item _ rest => errsWithin d n rest

/-- No more items after one that is not whole. -/
theorem after_of_incomplete {d : Decoder β ε α} {buf : List β} (h : d buf = .incomplete) (n : Nat) :
    after d (n + 1) buf = none := by
  rw [after, h]

/-- The items after the first are those of what it leaves. -/
theorem after_of_item {d : Decoder β ε α} {buf rest : List β} {a : α} (h : d buf = .item a rest)
    (n : Nat) : after d (n + 1) buf = after d n rest := by
  rw [after, h]

/-- The errors after the first item are those of what it leaves. -/
theorem errsWithin_of_item {d : Decoder β ε α} {buf rest : List β} {a : α}
    (h : d buf = .item a rest) (n : Nat) : errsWithin d (n + 1) buf ↔ errsWithin d n rest := by
  rw [errsWithin, h]

/-- The loop ends at once when more is asked for. -/
theorem drain_of_incomplete {d : Decoder β ε α} {buf : List β} (h : d buf = .incomplete) (n : Nat) :
    drain d (n + 1) buf = some ⟨[], none, buf⟩ := by
  simp [drain, call, h]

/-- The loop ends at once on an error. -/
theorem drain_of_error {d : Decoder β ε α} {buf : List β} {e : ε} (h : d buf = .error e) (n : Nat) :
    drain d (n + 1) buf = some ⟨[], some e, buf⟩ := by
  simp [drain, call, h]

/-- A decoder for streams: incremental, waiting on nothing, and each item takes bytes. -/
structure Streaming (d : Decoder β ε α) : Prop extends Incremental d where
  /-- An empty buffer is waited on. -/
  nil : d [] = .incomplete
  /-- An item takes at least one byte. -/
  lt_of_item : ∀ {buf rest : List β} {a : α}, d buf = .item a rest → rest.length < buf.length

namespace Streaming

/-- A decoder that starts by reading a byte and is incremental from there on is for streams. -/
theorem next_bind {β α : Type w} {f : β → Decoder β ε α} (hf : ∀ b, Incremental (f b)) :
    Streaming ((Decoder.next : Decoder β ε β) >>= f) where
  toIncremental := Incremental.next.bind hf
  nil := rfl
  lt_of_item := by
    intro buf rest a h
    cases buf with
    | nil => cases h
    | cons b bs => exact Nat.lt_succ_of_le ((hf b).suffix h).length_le

variable {d : Decoder β ε α}

/-- The loop goes on after an item. -/
theorem drain_of_item (hd : Streaming d) {buf rest : List β} {a : α} (h : d buf = .item a rest)
    (n : Nat) : drain d (n + 1) buf = (drain d n rest).map (Drained.prepend [a]) := by
  rw [drain, hd.call_of_item h]

/-- **The loop ends**: as many calls as there are bytes, and one more, are enough. What is left
is the end of the buffer. -/
theorem exists_drain (hd : Streaming d) {n : Nat} {buf : List β} (hn : buf.length < n) :
    ∃ r, drain d n buf = some r ∧ r.buf.length ≤ buf.length := by
  induction n generalizing buf with
  | zero => exact absurd hn (Nat.not_lt_zero _)
  | succ n ih =>
      cases h : d buf with
      | incomplete => exact ⟨_, drain_of_incomplete h n, Nat.le_refl _⟩
      | error e => exact ⟨_, drain_of_error h n, Nat.le_refl _⟩
      | item a rest =>
          have hlt := hd.lt_of_item h
          have hrest : rest.length < n := by omega
          obtain ⟨r, hr, hle⟩ := ih hrest
          refine ⟨r.prepend [a], by rw [hd.drain_of_item h, hr]; rfl, ?_⟩
          exact Nat.le_trans hle (Nat.le_of_lt hlt)

/-- **Sequences of messages.** If the decoder reads each message of a list from its code, it reads
the list from the codes one after the other. -/
theorem drain_stream (hd : Streaming d) {enc : α → List β} {ms : List α}
    (hms : ∀ m ∈ ms, Reads d (enc m) m) {n : Nat} (hn : (stream enc ms).length < n) :
    drain d n (stream enc ms) = some ⟨ms, none, []⟩ := by
  induction ms generalizing n with
  | nil =>
      obtain ⟨n, rfl⟩ : ∃ k, n = k + 1 := ⟨n - 1, by omega⟩
      exact drain_of_incomplete hd.nil n
  | cons m ms ih =>
      have hm := (hms m List.mem_cons_self).whole (stream enc ms)
      have hlt := hd.lt_of_item hm
      rw [stream_cons] at hn ⊢
      obtain ⟨n, rfl⟩ : ∃ k, n = k + 1 := ⟨n - 1, by omega⟩
      rw [hd.drain_of_item hm, ih (fun m' hm' => hms m' (List.mem_cons_of_mem m hm')) (by omega)]
      rfl

/-- **A buffer that is used up** is the codes of the items it gave, one after the other, if the
decoder reads items from nothing but their codes. -/
theorem eq_stream_of_drain (hd : Streaming d) {enc : α → List β} {F : α → Prop}
    (hp : Parses d fun e a => e = enc a ∧ F a) {n : Nat} {buf : List β} {as : List α}
    (h : drain d n buf = some ⟨as, none, []⟩) : buf = stream enc as ∧ ∀ a ∈ as, F a := by
  induction n generalizing buf as with
  | zero => cases h
  | succ n ih =>
      cases hb : d buf with
      | incomplete =>
          rw [drain_of_incomplete hb] at h
          cases h
          exact ⟨rfl, nofun⟩
      | error e =>
          rw [drain_of_error hb] at h
          cases h
      | item a rest =>
          rw [hd.drain_of_item hb] at h
          obtain ⟨r, hr, hcons⟩ := Option.map_eq_some_iff.mp h
          obtain ⟨items, error, left⟩ := r
          cases hcons
          obtain ⟨e, rfl, rfl, ha⟩ := hp hb
          obtain ⟨rfl, hrest⟩ := ih hr
          exact ⟨rfl, List.forall_mem_cons.mpr ⟨ha, hrest⟩⟩

end Streaming

end Decoder

end Framing
