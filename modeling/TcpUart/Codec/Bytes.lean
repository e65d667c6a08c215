import TcpUart.Lib.Incremental

/-! # Bytes, blocks and big-endian integers
The byte-level vocabulary shared by the Rust codecs and the C firmware: growing buffers, the
fixed 255-byte arrays both sides use for message bodies, the I/O errors the decoders return and
the big-endian integers of `BufMut::put_u32` and `Buf::try_get_u32`. -/

namespace TcpUart

open Framing

/-- A byte buffer (`BytesMut`, `Vec<u8>`, a stretch of a TCP stream). -/
abbrev Bytes := List UInt8

/-- The kinds of `std::io::Error` the modelled code builds. -/
inductive ErrorKind
  | invalidData
  | invalidInput
  | notConnected
  | connectionAborted
  | unexpectedEof
  /-- An error of the operating system, passed through unchanged. -/
  | os
  deriving DecidableEq

/-- `std::io::Error` as the modelled code builds it: a kind and a text. -/
structure IoError where
  /-- The error kind. -/
  kind : ErrorKind
  /-- The message of the error. -/
  text : String
  deriving DecidableEq

/-- `MAX_MESSAGE_LEN` of `msg.rs` and `MAX_MESSAGE_BODY_SIZE` of `message.h`. -/
def maxMessageLen : Nat := 255

/-- A fixed array of `maxMessageLen` bytes: `[u8; MAX_MESSAGE_LEN]`, `uint8_t body[255]`. -/
def Block : Type := {l : Bytes // l.length = maxMessageLen}

namespace Block

instance : DecidableEq Block :=
  inferInstanceAs (DecidableEq {l : Bytes // l.length = maxMessageLen})

/-- `[0; MAX_MESSAGE_LEN]`. -/
def zero : Block := ⟨List.replicate maxMessageLen 0, List.length_replicate⟩

/-- Overwrite the first bytes of the array; the rest keeps its old contents. -/
def write (dst : Block) (bs : Bytes) : Block :=
  ⟨(bs ++ dst.1.drop bs.length).take maxMessageLen, by
    have := dst.2
    simp only [List.length_take, List.length_append, List.length_drop]
    omega⟩

/-- The first `n` bytes of the array. -/
def slice (b : Block) (n : Nat) : Bytes := b.1.take n

/-- A slice of the array has the length asked for. -/
@[simp] theorem length_slice (b : Block) (n : Nat) : (b.slice n).length = min n maxMessageLen := by
  rw [slice, List.length_take, b.2]

/-- Bytes written to the array are read back from it. -/
theorem slice_write (b : Block) {bs : Bytes} {n : Nat} (hn : bs.length = n)
    (h : n ≤ maxMessageLen) : (b.write bs).slice n = bs := by
  subst hn
  rw [slice, write, List.take_take, Nat.min_eq_left h, List.take_left]

end Block

/-- `put_u32`: four bytes, the most significant first. -/
def putU32 (v : UInt32) : Bytes :=
  [UInt8.ofNat (v.toNat / 16777216), UInt8.ofNat (v.toNat / 65536), UInt8.ofNat (v.toNat / 256),
    UInt8.ofNat v.toNat]

/-- The `u32` four bytes spell, most significant first. -/
def u32OfBytes (a b c d : UInt8) : UInt32 :=
  UInt32.ofNat (a.toNat * 16777216 + b.toNat * 65536 + c.toNat * 256 + d.toNat)

/-- The four bytes of a `u32` spell it. -/
theorem u32OfBytes_putU32 (v : UInt32) :
    u32OfBytes (UInt8.ofNat (v.toNat / 16777216)) (UInt8.ofNat (v.toNat / 65536))
      (UInt8.ofNat (v.toNat / 256)) (UInt8.ofNat v.toNat) = v := by
  have hv := v.toNat_lt
  apply UInt32.toNat.inj
  simp only [u32OfBytes, UInt32.toNat_ofNat', UInt8.toNat_ofNat']
  omega

/-- `put_u16`: two bytes, the most significant first. -/
def putU16 (v : UInt16) : Bytes := [UInt8.ofNat (v.toNat / 256), UInt8.ofNat v.toNat]

/-- The `u16` two bytes spell, most significant first. -/
def u16OfBytes (a b : UInt8) : UInt16 := UInt16.ofNat (a.toNat * 256 + b.toNat)

/-- The two bytes of a `u16` spell it. -/
theorem u16OfBytes_putU16 (v : UInt16) :
    u16OfBytes (UInt8.ofNat (v.toNat / 256)) (UInt8.ofNat v.toNat) = v := by
  have hv := v.toNat_lt
  apply UInt16.toNat.inj
  simp only [u16OfBytes, UInt16.toNat_ofNat', UInt8.toNat_ofNat']
  omega

/-- `cursor.try_get_u8()`, asking for more bytes when it fails. -/
def getU8 : Decoder UInt8 IoError UInt8 := Decoder.next

/-- `cursor.try_get_u32()`, asking for more bytes when it fails. -/
def getU32 : Decoder UInt8 IoError UInt32
  | a :: b :: c :: d :: rest => .item (u32OfBytes a b c d) rest
  | _ => .incomplete

/-- Reading a `u32` that was written. -/
@[simp] theorem getU32_putU32 (v : UInt32) (rest : Bytes) :
    getU32 (putU32 v ++ rest) = .item v rest := by
  simp only [putU32, getU32, List.cons_append, List.nil_append, u32OfBytes_putU32]

/-- Reading a byte that is there. -/
@[simp] theorem getU8_cons (b : UInt8) (rest : Bytes) : getU8 (b :: rest) = .item b rest := rfl

/-- `cursor.try_get_u16()`, asking for more bytes when it fails. -/
def getU16 : Decoder UInt8 IoError UInt16
  | a :: b :: rest => .item (u16OfBytes a b) rest
  | _ => .incomplete

/-! ## The reads as sequences of bytes -/

/-- Reading a `u32` reads four bytes. -/
theorem getU32_eq : getU32 = (do
    let a ← getU8
    let b ← getU8
    let c ← getU8
    let d ← getU8
    pure (u32OfBytes a b c d)) := by
  funext buf
  match buf with
  | [] => rfl
  | [_] => rfl
  | [_, _] => rfl
  | [_, _, _] => rfl
  | _ :: _ :: _ :: _ :: _ => rfl

/-- Reading a `u16` reads two bytes. -/
theorem getU16_eq : getU16 = (do
    let a ← getU8
    let b ← getU8
    pure (u16OfBytes a b)) := by
  funext buf
  match buf with
  | [] => rfl
  | [_] => rfl
  | _ :: _ :: _ => rfl

/-- Reading a byte is incremental. -/
theorem incremental_getU8 : getU8.Incremental := .next

/-- Reading a `u32` is incremental. -/
theorem incremental_getU32 : getU32.Incremental := by
  rw [getU32_eq]
  exact .bind .next fun _ => .bind .next fun _ => .bind .next fun _ => .bind .next fun _ => .pure _

/-- Reading a `u16` is incremental. -/
theorem incremental_getU16 : getU16.Incremental := by
  rw [getU16_eq]
  exact .bind .next fun _ => .bind .next fun _ => .pure _

/-- A byte that was written is read. -/
theorem reads_getU8 (b : UInt8) : getU8.Reads [b] b := .next b

/-- Four bytes are read as the `u32` they spell. -/
theorem reads_getU32_bytes (a b c d : UInt8) : getU32.Reads [a, b, c, d] (u32OfBytes a b c d) := by
  rw [getU32_eq]
  have hd := (reads_getU8 d).bind (f := fun d => pure (u32OfBytes a b c d)) (.pure _)
  have hc := (reads_getU8 c).bind (f := fun c => getU8 >>= fun d => pure (u32OfBytes a b c d)) hd
  have hb := (reads_getU8 b).bind
    (f := fun b => getU8 >>= fun c => getU8 >>= fun d => pure (u32OfBytes a b c d)) hc
  exact (reads_getU8 a).bind hb

/-- A `u32` that was written is read. -/
theorem reads_getU32 (v : UInt32) : getU32.Reads (putU32 v) v := by
  have h := reads_getU32_bytes (UInt8.ofNat (v.toNat / 16777216)) (UInt8.ofNat (v.toNat / 65536))
    (UInt8.ofNat (v.toNat / 256)) (UInt8.ofNat v.toNat)
  rwa [u32OfBytes_putU32] at h

/-- A `u16` that was written is read. -/
theorem reads_getU16 (v : UInt16) : getU16.Reads (putU16 v) v := by
  have h := (reads_getU8 (UInt8.ofNat v.toNat)).bind
    (f := fun b => pure (u16OfBytes (UInt8.ofNat (v.toNat / 256)) b)) (.pure _)
  rw [u16OfBytes_putU16] at h
  rw [getU16_eq]
  exact (reads_getU8 (UInt8.ofNat (v.toNat / 256))).bind h

/-- Four bytes are those of the `u32` they spell. -/
theorem putU32_u32OfBytes (a b c d : UInt8) : putU32 (u32OfBytes a b c d) = [a, b, c, d] := by
  have ha := a.toNat_lt
  have hb := b.toNat_lt
  have hc := c.toNat_lt
  have hd := d.toNat_lt
  have hv : (u32OfBytes a b c d).toNat
      = a.toNat * 16777216 + b.toNat * 65536 + c.toNat * 256 + d.toNat := by
    rw [u32OfBytes, UInt32.toNat_ofNat', Nat.mod_eq_of_lt (by omega)]
  rw [putU32, hv]
  simp only [List.cons.injEq, and_true, ← UInt8.toNat_inj, UInt8.toNat_ofNat']
  omega

/-- Two bytes are those of the `u16` they spell. -/
theorem putU16_u16OfBytes (a b : UInt8) : putU16 (u16OfBytes a b) = [a, b] := by
  have ha := a.toNat_lt
  have hb := b.toNat_lt
  have hv : (u16OfBytes a b).toNat = a.toNat * 256 + b.toNat := by
    rw [u16OfBytes, UInt16.toNat_ofNat', Nat.mod_eq_of_lt (by omega)]
  rw [putU16, hv]
  simp only [List.cons.injEq, and_true, ← UInt8.toNat_inj, UInt8.toNat_ofNat']
  omega

/-- A `u32` is read from its bytes. -/
theorem parses_getU32 : getU32.Parses fun e v => e = putU32 v := by
  intro buf rest v h
  match buf, h with
  | a :: b :: c :: d :: _, h =>
      cases h
      exact ⟨[a, b, c, d], rfl, (putU32_u32OfBytes a b c d).symm⟩

/-- A `u16` is read from its bytes. -/
theorem parses_getU16 : getU16.Parses fun e v => e = putU16 v := by
  intro buf rest v h
  match buf, h with
  | a :: b :: _, h =>
      cases h
      exact ⟨[a, b], rfl, (putU16_u16OfBytes a b).symm⟩

end TcpUart
