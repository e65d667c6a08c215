import TcpUart.Firmware.Streams

/-! # Where the two ends cut a stream into messages
The firmware's `read_msg` reads a header and then as many bytes as the header announces. The
daemon's `DeviceCodec::decode` waits for as many bytes, but then reads a number of bytes that
depends on the kind alone. This module compares the two on arbitrary bytes.

* `readMsg` — `read_msg` on a stream, and `drain_readMsg`: this is how the device reads every
  session.
* `bodySize` and `decodeBody_eq` — what `decode` reads after the header.
* `WellSized` — the length bytes of a stream match the kinds, up to the first message `decode`
  rejects for its contents.
* `frames_cut_alike` — both ends cut a stream at the same places if and only if it is well sized. -/

namespace TcpUart

open Framing

/-! ## `read_msg` on a stream -/

/-- `read_msg` on the bytes of a stream: the header, then `hdr.len` bytes into the body. It returns
`-1` where the stream ends first. `junk` is what the stack variable held before. -/
def readMsg (junk : Block) : Decoder UInt8 IoError Message := do
  let kind ← getU8
  let len ← getU8
  let body ← Decoder.take len.toNat
  pure (Device.readMessage kind len body junk)

/-- With the announced bytes there, `read_msg` takes them. -/
theorem readMsg_of_le (junk : Block) (kind : UInt8) {len : UInt8} {rest : Bytes}
    (h : len.toNat ≤ rest.length) : readMsg junk (kind :: len :: rest)
      = .item (Device.readMessage kind len (rest.take len.toNat) junk) (rest.drop len.toNat) := by
  have htake : (Decoder.take len.toNat : Decoder UInt8 IoError Bytes) rest
      = .item (rest.take len.toNat) (rest.drop len.toNat) := if_neg (Nat.not_lt.mpr h)
  rw [readMsg, Decoder.bind_of_item (getU8_cons _ _), Decoder.bind_of_item (getU8_cons _ _),
    Decoder.bind_of_item htake]
  rfl

/-- Without them it waits. -/
theorem readMsg_of_lt (junk : Block) {kind len : UInt8} {rest : Bytes}
    (h : rest.length < len.toNat) : readMsg junk (kind :: len :: rest) = .incomplete := by
  have htake : (Decoder.take len.toNat : Decoder UInt8 IoError Bytes) rest = .incomplete :=
    if_pos h
  rw [readMsg, Decoder.bind_of_item (getU8_cons _ _), Decoder.bind_of_item (getU8_cons _ _),
    Decoder.bind_of_incomplete htake]

/-- `read_msg` reads every frame whole, whatever its kind. -/
theorem readMsg_frame (junk : Block) (f : Frame) (rest : Bytes) :
    ∃ m : Message, m.frame = f ∧ readMsg junk (f.bytes ++ rest) = .item m rest := by
  have hlen := f.toNat_length
  refine ⟨Device.readMessage f.kind (UInt8.ofNat f.payload.length) f.payload junk, ?_, ?_⟩
  · have hbytes : (Device.readMessage f.kind (UInt8.ofNat f.payload.length) f.payload
        junk).frame.bytes ++ [] = f.bytes ++ [] := by
      rw [Device.bytes_readMessage hlen.symm]
      rfl
    exact Frame.selfDelimiting_bytes.head_eq hbytes
  · rw [Frame.bytes, List.cons_append, List.cons_append, readMsg_of_le junk _
      (by rw [hlen, List.length_append]; omega), hlen, List.take_left, List.drop_left]

/-- `read_msg` decodes a stream. -/
theorem streaming_readMsg (junk : Block) : (readMsg junk).Streaming :=
  Decoder.Streaming.next_bind fun _ => incremental_getU8.bind fun _ =>
    (Decoder.Incremental.take _).bind fun _ => Decoder.Incremental.pure _

/-- Reading a stream yields the frames at its start. -/
theorem drain_readMsg_stream (junk : Block) (fs : List Frame) (rest : Bytes) {n : Nat}
    (hn : (stream Frame.bytes fs ++ rest).length < n) :
    ∃ r, (readMsg junk).drain n (stream Frame.bytes fs ++ rest) = some r ∧
      fs <+: r.items.map Message.frame := by
  induction fs generalizing n with
  | nil =>
      obtain ⟨r, hr, -⟩ := (streaming_readMsg junk).exists_drain hn
      exact ⟨r, hr, List.nil_prefix⟩
  | cons f fs ih =>
      obtain ⟨m, hm, hread⟩ := readMsg_frame junk f (stream Frame.bytes fs ++ rest)
      rw [stream_cons, List.append_assoc] at hn ⊢
      cases n with
      | zero => omega
      | succ n =>
          have hlt : (stream Frame.bytes fs ++ rest).length < n := by
            have hpos := List.length_pos_of_ne_nil (Frame.selfDelimiting_bytes.ne_nil f)
            rw [List.length_append] at hn
            omega
          obtain ⟨r, hr, hpre⟩ := ih hlt
          refine ⟨r.prepend [m], ?_, ?_⟩
          · rw [(streaming_readMsg junk).drain_of_item hread, hr]
            rfl
          · show f :: fs <+: m.frame :: r.items.map Message.frame
            rw [hm]
            exact List.cons_prefix_cons.mpr ⟨rfl, hpre⟩

/-- After the frames of a stream, `read_msg` stands at what follows them. -/
theorem after_readMsg_stream (junk : Block) (fs : List Frame) (rest : Bytes) :
    (readMsg junk).after fs.length (stream Frame.bytes fs ++ rest) = some rest := by
  induction fs with
  | nil => rfl
  | cons f fs ih =>
      obtain ⟨m, -, hm⟩ := readMsg_frame junk f (stream Frame.bytes fs ++ rest)
      rw [stream_cons, List.append_assoc, List.length_cons, Decoder.after_of_item hm]
      exact ih

/-- **The device cuts every session as `readMsg` does**: in every run, after the messages it has
read in a session it stands where that many calls of `readMsg` stand in the bytes received. -/
theorem device_reads_readMsg {cfg : DeviceConfig} {log : List DevObs} {d : Device}
    (h : (Device.machine cfg).Reaches log d) (junk : Block) (s : Nat) :
    ∃ rest, devRecvBytes s log
        = stream Frame.bytes ((readAt s log).map Entry.frame) ++ rest ∧
      (readMsg junk).after (readAt s log).length (devRecvBytes s log) = some rest := by
  obtain ⟨rest, hbytes, -⟩ := (Device.received_of_reaches h).bytes s
  refine ⟨rest, hbytes, ?_⟩
  have hafter := after_readMsg_stream junk ((readAt s log).map Entry.frame) rest
  rwa [List.length_map, ← hbytes] at hafter

/-! ## What `decode` reads after the header -/

/-- The number of bytes `decode` reads after the header. -/
def bodySize (kind dataLen : UInt8) : Nat :=
  if kind = 1 then dataLen.toNat else if kind = 2 then 8 else 1

/-- The contents after a header that `decode` rejects: a kind it does not know, or a value out of
range in the last byte it reads. -/
def Rejected (kind : UInt8) (rest : Bytes) : Prop :=
  (kind = 2 ∧ ∃ v, rest[7]? = some v ∧ v > 1) ∨
    (kind = 3 ∧ ∃ v, rest[0]? = some v ∧ v ≠ 1) ∨
    (kind = 4 ∧ ∃ v, rest[0]? = some v ∧ v ≠ 1 ∧ v ≠ 2) ∨
    (kind ≠ 1 ∧ kind ≠ 2 ∧ kind ≠ 3 ∧ kind ≠ 4)

/-- What `decode` does with a body whose announced bytes are there. -/
inductive BodyOutcome (kind dataLen : UInt8) (rest : Bytes) : Prop
  /-- The contents are rejected. -/
  | rejected {e : IoError} (hr : Rejected kind rest)
      (h : DeviceCodec.decodeBody kind dataLen rest = .error e)
  /-- More bytes are asked for, although the announced ones are there. -/
  | waits (hr : ¬ Rejected kind rest) (hlt : rest.length < bodySize kind dataLen)
      (h : DeviceCodec.decodeBody kind dataLen rest = .incomplete)
  /-- A message is read; the length byte counts for data only. -/
  | reads {m : DeviceMessage} (hr : ¬ Rejected kind rest)
      (hle : bodySize kind dataLen ≤ rest.length)
      (h : DeviceCodec.decodeBody kind dataLen rest = .item m (rest.drop (bodySize kind dataLen)))

/-- Data is read as announced. -/
theorem bodyOutcome_data {dataLen : UInt8} {rest : Bytes} (h : dataLen.toNat ≤ rest.length) :
    BodyOutcome 1 dataLen rest := by
  have htake : (Decoder.take dataLen.toNat : Decoder UInt8 IoError Bytes) rest
      = .item (rest.take dataLen.toNat) (rest.drop dataLen.toNat) := if_neg (Nat.not_lt.mpr h)
  have hbody : DeviceCodec.decodeBody 1 dataLen rest
      = .item (.data dataLen (Block.zero.write (rest.take dataLen.toNat)))
          (rest.drop dataLen.toNat) := by
    rw [DeviceCodec.decodeBody, if_pos rfl, Decoder.bind_of_item htake]
    rfl
  exact .reads (by simp [Rejected]) h hbody

/-- A configuration takes eight bytes. -/
theorem bodyOutcome_config (dataLen : UInt8) (rest : Bytes) : BodyOutcome 2 dataLen rest := by
  match rest with
  | [] => exact .waits (by simp [Rejected]) (by simp [bodySize]) rfl
  | [_] => exact .waits (by simp [Rejected]) (by simp [bodySize]) rfl
  | [_, _] => exact .waits (by simp [Rejected]) (by simp [bodySize]) rfl
  | [_, _, _] => exact .waits (by simp [Rejected]) (by simp [bodySize]) rfl
  | [_, _, _, _] => exact .waits (by simp [Rejected]) (by simp [bodySize]) rfl
  | [_, _, _, _, _] => exact .waits (by simp [Rejected]) (by simp [bodySize]) rfl
  | [_, _, _, _, _, _] => exact .waits (by simp [Rejected]) (by simp [bodySize]) rfl
  | [_, _, _, _, _, _, _] => exact .waits (by simp [Rejected]) (by simp [bodySize]) rfl
  | a :: b :: c :: d :: dataBits :: stopBits :: parity :: v :: t =>
      have hbody : DeviceCodec.decodeBody 2 dataLen
          (a :: b :: c :: d :: dataBits :: stopBits :: parity :: v :: t)
          = (if v > 1 then Decoder.fail ⟨.invalidData, "Hardware flow control is not a bool"⟩
            else pure (.config (u32OfBytes a b c d) dataBits stopBits parity (v != 0)) :
              Decoder UInt8 IoError DeviceMessage) t := rfl
      by_cases hv : v > 1
      · rw [if_pos hv] at hbody
        exact .rejected (.inl ⟨rfl, v, rfl, hv⟩) hbody
      · rw [if_neg hv] at hbody
        exact .reads (by simpa [Rejected] using hv) (by simp [bodySize]) hbody

/-- A control request takes one byte. -/
theorem bodyOutcome_controlReq (dataLen : UInt8) (rest : Bytes) : BodyOutcome 3 dataLen rest := by
  cases rest with
  | nil => exact .waits (by simp [Rejected]) (by simp [bodySize]) rfl
  | cons v t =>
      by_cases hv : v = 1
      · subst hv
        exact .reads (by simp [Rejected]) (by simp [bodySize]) rfl
      · have hreq : DeviceControlRequest.tryFrom v = .error _ := if_neg hv
        have hbody : DeviceCodec.decodeBody 3 dataLen (v :: t)
            = .error ⟨.invalidData, "Unknown control request"⟩ := by
          rw [DeviceCodec.decodeBody, if_neg (by decide), if_neg (by decide), if_pos rfl,
            Decoder.bind_of_item (getU8_cons v t), hreq]
          rfl
        exact .rejected (.inr (.inl ⟨rfl, v, rfl, hv⟩)) hbody

/-- A control response takes one byte. -/
theorem bodyOutcome_controlRes (dataLen : UInt8) (rest : Bytes) : BodyOutcome 4 dataLen rest := by
  cases rest with
  | nil => exact .waits (by simp [Rejected]) (by simp [bodySize]) rfl
  | cons v t =>
      by_cases hok : v = 1
      · subst hok
        exact .reads (by simp [Rejected]) (by simp [bodySize]) rfl
      by_cases hnot : v = 2
      · subst hnot
        exact .reads (by simp [Rejected]) (by simp [bodySize]) rfl
      · have hres : DeviceControlResponse.tryFrom v = .error _ :=
          (if_neg hok).trans (if_neg hnot)
        have hbody : DeviceCodec.decodeBody 4 dataLen (v :: t)
            = .error ⟨.invalidData, "Unknown control response"⟩ := by
          rw [DeviceCodec.decodeBody, if_neg (by decide), if_neg (by decide), if_neg (by decide),
            if_pos rfl, Decoder.bind_of_item (getU8_cons v t), hres]
          rfl
        exact .rejected (.inr (.inr (.inl ⟨rfl, v, rfl, hok, hnot⟩))) hbody

/-- **What `decode` does with a body** whose announced bytes are there. -/
theorem bodyOutcome (kind : UInt8) {dataLen : UInt8} {rest : Bytes}
    (h : dataLen.toNat ≤ rest.length) : BodyOutcome kind dataLen rest := by
  by_cases h1 : kind = 1
  · subst h1
    exact bodyOutcome_data h
  by_cases h2 : kind = 2
  · subst h2
    exact bodyOutcome_config dataLen rest
  by_cases h3 : kind = 3
  · subst h3
    exact bodyOutcome_controlReq dataLen rest
  by_cases h4 : kind = 4
  · subst h4
    exact bodyOutcome_controlRes dataLen rest
  · have hbody : DeviceCodec.decodeBody kind dataLen rest
        = .error ⟨.invalidData, "Unknown message kind"⟩ := by
      rw [DeviceCodec.decodeBody, if_neg h1, if_neg h2, if_neg h3, if_neg h4]
      rfl
    exact .rejected (.inr (.inr (.inr ⟨h1, h2, h3, h4⟩))) hbody

/-! ## Cutting alike -/

/-- **The two ends cut a stream into the same messages**: for every `n`, the `n`-th message ends at
the same place for both, or for neither, unless `decode` meets an error first. Two places of one
stream are the same when the same bytes are left. -/
def SameCuts (junk : Block) (b : Bytes) : Prop :=
  ∀ n, DeviceCodec.decode.errsWithin n b ∨
    DeviceCodec.decode.after n b = (readMsg junk).after n b

/-- `decode` keeps to the length byte of a buffer that holds a header: a message takes exactly the
header and the announced bytes, and with those there more are never asked for. -/
def KeepsToLength (dataLen : UInt8) (b : Bytes) : Prop :=
  (∀ m rest', DeviceCodec.decode b = .item m rest' →
      rest'.length + (2 + dataLen.toNat) = b.length) ∧
    (2 + dataLen.toNat ≤ b.length → DeviceCodec.decode b ≠ .incomplete)

/-- A **well-sized** stream: the length byte of each message is the number of bytes `decode` reads
for its kind (any for data, eight for a configuration, one for a control request or response), up
to the end of the stream or the first message with contents that `decode` rejects. -/
inductive WellSized : Bytes → Prop
  /-- The stream ends before a header. -/
  | noHeader {b : Bytes} (h : b.length < 2) : WellSized b
  /-- The stream ends before the announced bytes. -/
  | torn {kind dataLen : UInt8} {rest : Bytes} (h : rest.length < dataLen.toNat) :
      WellSized (kind :: dataLen :: rest)
  /-- The contents are rejected. -/
  | rejected {kind dataLen : UInt8} {rest : Bytes} (hr : Rejected kind rest) :
      WellSized (kind :: dataLen :: rest)
  /-- The length matches the kind, and the rest is well sized. -/
  | sized {kind dataLen : UInt8} {rest : Bytes} (hle : dataLen.toNat ≤ rest.length)
      (hsize : dataLen.toNat = bodySize kind dataLen) (h : WellSized (rest.drop dataLen.toNat)) :
      WellSized (kind :: dataLen :: rest)

/-- A well-sized stream is cut alike. -/
theorem sameCuts_of_wellSized (junk : Block) {b : Bytes} (h : WellSized b) : SameCuts junk b := by
  induction h with
  | @noHeader b hlt =>
      -- neither side returns anything for less than a header
      intro n
      right
      match b, hlt, n with
      | _, _, 0 => rfl
      | [], _, n + 1 => rfl
      | [_], _, n + 1 => rfl
  | torn hlt =>
      intro n
      right
      cases n with
      | zero => rfl
      | succ n =>
          rw [Decoder.after_of_incomplete (DeviceCodec.decode_of_lt hlt),
            Decoder.after_of_incomplete (readMsg_of_lt junk hlt)]
  | @rejected kind dataLen rest hr =>
      intro n
      cases n with
      | zero => exact .inr rfl
      | succ n =>
          by_cases hlt : rest.length < dataLen.toNat
          · right
            rw [Decoder.after_of_incomplete (DeviceCodec.decode_of_lt hlt),
              Decoder.after_of_incomplete (readMsg_of_lt junk hlt)]
          · left
            have hle := Nat.le_of_not_lt hlt
            cases bodyOutcome kind hle with
            | rejected _ hbody =>
                rw [Decoder.errsWithin, DeviceCodec.decode_of_le hle, hbody]
                trivial
            | waits hr' => exact absurd hr hr'
            | reads hr' => exact absurd hr hr'
  | @sized kind dataLen rest hle hsize _ ih =>
      -- both sides take the announced bytes and go on with the same rest
      intro n
      cases n with
      | zero => exact .inr rfl
      | succ n =>
          have hdec : DeviceCodec.decode (kind :: dataLen :: rest) = _ :=
            DeviceCodec.decode_of_le hle
          cases bodyOutcome kind hle with
          | rejected _ hbody =>
              left
              rw [Decoder.errsWithin, hdec, hbody]
              trivial
          | waits _ hlt => omega
          | reads _ _ hbody =>
              rw [hbody, ← hsize] at hdec
              rw [Decoder.errsWithin_of_item hdec, Decoder.after_of_item hdec,
                Decoder.after_of_item (readMsg_of_le junk kind hle)]
              exact ih n

/-- A buffer with its announced bytes, contents that are not rejected and a length byte that does
not match its kind is not cut alike: the first message already ends elsewhere, or nowhere. -/
theorem not_sameCuts_of_size_ne (junk : Block) {kind dataLen : UInt8} {rest : Bytes}
    (hle : dataLen.toNat ≤ rest.length) (hr : ¬ Rejected kind rest)
    (hne : dataLen.toNat ≠ bodySize kind dataLen) :
    ¬ SameCuts junk (kind :: dataLen :: rest) := by
  intro hsame
  have hdec : DeviceCodec.decode (kind :: dataLen :: rest) = _ := DeviceCodec.decode_of_le hle
  have hread := Decoder.after_of_item (readMsg_of_le junk kind hle) 0
  have hone := hsame 1
  cases bodyOutcome kind hle with
  | rejected hr' => exact hr hr'
  | waits _ _ hbody =>
      -- `decode` waits for more where `read_msg` returns a message
      rw [hbody] at hdec
      rw [Decoder.after_of_incomplete hdec, hread, Decoder.errsWithin, hdec] at hone
      rcases hone with hone | hone <;> cases hone
  | reads _ hsize hbody =>
      rw [hbody] at hdec
      rw [Decoder.errsWithin_of_item hdec, Decoder.after_of_item hdec, hread] at hone
      rcases hone with hone | hone
      · exact hone
      · -- both return a message, and the rests differ in length
        have hlen := congrArg List.length (Option.some.inj hone)
        rw [List.length_drop, List.length_drop] at hlen
        omega

/-- Cutting alike carries over to what follows the first message. -/
theorem SameCuts.tail {junk : Block} {kind dataLen : UInt8} {rest : Bytes}
    (h : SameCuts junk (kind :: dataLen :: rest)) (hle : dataLen.toNat ≤ rest.length)
    (hr : ¬ Rejected kind rest) (hsize : dataLen.toNat = bodySize kind dataLen) :
    SameCuts junk (rest.drop dataLen.toNat) := by
  intro n
  have hdec : DeviceCodec.decode (kind :: dataLen :: rest) = _ := DeviceCodec.decode_of_le hle
  cases bodyOutcome kind hle with
  | rejected hr' => exact absurd hr' hr
  | waits _ hlt => omega
  | reads _ _ hbody =>
      rw [hbody, ← hsize] at hdec
      have hsucc := h (n + 1)
      rwa [Decoder.errsWithin_of_item hdec, Decoder.after_of_item hdec,
        Decoder.after_of_item (readMsg_of_le junk kind hle)] at hsucc

/-- A stream that is cut alike is well sized. -/
theorem wellSized_of_sameCuts (junk : Block) (b : Bytes) (h : SameCuts junk b) : WellSized b := by
  match b with
  | [] => exact .noHeader (by decide)
  | [_] => exact .noHeader (by simp)
  | kind :: dataLen :: rest =>
      by_cases hlt : rest.length < dataLen.toNat
      · exact .torn hlt
      have hle := Nat.le_of_not_lt hlt
      by_cases hr : Rejected kind rest
      · exact .rejected hr
      by_cases hsize : dataLen.toNat = bodySize kind dataLen
      · exact .sized hle hsize (wellSized_of_sameCuts junk _ (h.tail hle hr hsize))
      · exact absurd h (not_sameCuts_of_size_ne junk hle hr hsize)
termination_by b.length
decreasing_by
  simp only [List.length_drop, List.length_cons]
  omega

/-- `decode` keeps to the length byte of one buffer exactly when the announced bytes are not there,
the contents are rejected or the length matches the kind. -/
theorem keepsToLength_iff (kind dataLen : UInt8) (rest : Bytes) :
    KeepsToLength dataLen (kind :: dataLen :: rest) ↔
      rest.length < dataLen.toNat ∨ Rejected kind rest ∨
        dataLen.toNat = bodySize kind dataLen := by
  by_cases hlt : rest.length < dataLen.toNat
  · have hdec : DeviceCodec.decode (kind :: dataLen :: rest) = _ := DeviceCodec.decode_of_lt hlt
    simp only [KeepsToLength, hdec, hlt, true_or, iff_true]
    refine ⟨nofun, fun hle => ?_⟩
    simp only [List.length_cons] at hle
    omega
  have hle := Nat.le_of_not_lt hlt
  have hdec : DeviceCodec.decode (kind :: dataLen :: rest) = _ := DeviceCodec.decode_of_le hle
  simp only [hlt, false_or]
  cases bodyOutcome kind hle with
  | rejected hr hbody =>
      rw [hbody] at hdec
      simp only [KeepsToLength, hdec, hr, true_or, iff_true]
      exact ⟨nofun, fun _ => nofun⟩
  | waits hr hshort hbody =>
      -- the announced bytes are there, and `decode` asks for more
      rw [hbody] at hdec
      simp only [KeepsToLength, hdec, hr, false_or]
      constructor
      · rintro ⟨-, hnot⟩
        exact absurd rfl (hnot (by simp only [List.length_cons]; omega))
      · intro hsize
        omega
  | reads hr hlong hbody =>
      rw [hbody] at hdec
      simp only [KeepsToLength, hdec, hr, false_or]
      constructor
      · rintro ⟨htakes, -⟩
        have hlen := htakes _ _ rfl
        simp only [List.length_drop, List.length_cons] at hlen
        omega
      · intro hsize
        refine ⟨?_, fun _ => nofun⟩
        rintro m rest' hitem
        cases hitem
        simp only [List.length_drop, List.length_cons]
        omega

/-- **When the two ends cut a stream alike.** The `n`-th message of `decode` and the `n`-th message
of `read_msg` start and end at the same places, up to the first error, if and only if the stream is
well sized. For a single buffer: `decode` keeps to the length byte if and only if the announced
bytes are not all there, the contents are rejected, or the length byte matches the kind. -/
theorem frames_cut_alike (junk : Block) (b : Bytes) (kind dataLen : UInt8) (rest : Bytes) :
    (SameCuts junk b ↔ WellSized b) ∧
      (KeepsToLength dataLen (kind :: dataLen :: rest) ↔
        rest.length < dataLen.toNat ∨ Rejected kind rest ∨
          dataLen.toNat = bodySize kind dataLen) :=
  ⟨⟨wellSized_of_sameCuts junk b, sameCuts_of_wellSized junk⟩,
    keepsToLength_iff kind dataLen rest⟩

/-- A control response with length byte 0 and its status byte after it: `decode` takes three bytes
for the message, `read_msg` two. -/
theorem length_byte_ignored :
    ¬ SameCuts Block.zero [4, 0, 1, 0] ∧ ¬ KeepsToLength 0 [4, 0, 1, 0] ∧
      DeviceCodec.decode.after 1 [4, 0, 1, 0] = some [0] ∧
      (readMsg Block.zero).after 1 [4, 0, 1, 0] = some [1, 0] := by
  have hdec : DeviceCodec.decode.after 1 [4, 0, 1, 0] = some [0] := rfl
  have hread : (readMsg Block.zero).after 1 [4, 0, 1, 0] = some [1, 0] := rfl
  refine ⟨?_, ?_, hdec, hread⟩
  · intro h
    rcases h 1 with herr | heq
    · exact herr
    · rw [hdec, hread] at heq
      cases heq
  · rintro ⟨htakes, -⟩
    exact absurd (htakes (.controlRes .ok) [0] rfl) (by decide)

end TcpUart
