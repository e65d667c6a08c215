import TcpUart.Lib.Framing
import TcpUart.Codec.Bytes

/-! # The device protocol codec (`common/src/msg.rs`)
`DeviceMessage` is what the daemon and the firmware exchange over TCP; `DeviceCodec.encode` and
`DeviceCodec.decode` are its tokio codec. A `Frame` is what both ends see on the wire, a kind byte,
a length byte and the payload, whatever they make of it; frames are self-delimiting
(`selfDelimiting_bytes`), which is what lets the C reader and the Rust decoder cut a stream into
the same messages.

* `encode_eq` — encoding appends exactly the frame of the message.
* `decode_frame_append` — decoding a frame and whatever follows gives the message back and leaves
  what follows.
* `decode_of_strictPrefix` — a part of a frame is never taken for a message or an error.
* `decode_of_stream` — on the start of a stream of frames, `decode` waits or returns the first
  message. -/

namespace TcpUart

open Framing

/-- `DeviceControlRequest`, with the values of its `repr(u8)`. -/
inductive DeviceControlRequest
  | reset
  deriving DecidableEq

/-- `DeviceControlResponse`, with the values of its `repr(u8)`. -/
inductive DeviceControlResponse
  | ok
  | notSupported
  deriving DecidableEq

/-- `req as u8`. -/
def DeviceControlRequest.toU8 : DeviceControlRequest → UInt8
  | .reset => 1

/-- `res as u8`. -/
def DeviceControlResponse.toU8 : DeviceControlResponse → UInt8
  | .ok => 1
  | .notSupported => 2

/-- `DeviceControlRequest::try_from`. -/
def DeviceControlRequest.tryFrom (value : UInt8) : Except IoError DeviceControlRequest :=
  if value = 1 then .ok .reset
  else .error ⟨.invalidData, "Unknown control request"⟩

/-- `DeviceControlResponse::try_from`. -/
def DeviceControlResponse.tryFrom (value : UInt8) : Except IoError DeviceControlResponse :=
  if value = 1 then .ok .ok
  else if value = 2 then .ok .notSupported
  else .error ⟨.invalidData, "Unknown control response"⟩

/-- `DeviceMessage`: the messages exchanged between the daemon and the device. -/
inductive DeviceMessage
  /-- UART payload: the number of valid bytes and the array that holds them. -/
  | data (len : UInt8) (data : Block)
  /-- UART settings. -/
  | config (baudrate : UInt32) (dataBits stopBits parity : UInt8) (hwFlowCtl : Bool)
  /-- A control request of the daemon. -/
  | controlReq (req : DeviceControlRequest)
  /-- The device's answer to a control request. -/
  | controlRes (res : DeviceControlResponse)
  deriving DecidableEq

namespace DeviceMessage

/-- `DeviceMessage::kind`. -/
def kind : DeviceMessage → UInt8
  | data _ _ => 1
  | config .. => 2
  | controlReq _ => 3
  | controlRes _ => 4

/-- `DeviceMessage::data_size`. -/
def dataSize : DeviceMessage → Nat
  | data len _ => len.toNat
  | config .. => 8
  | controlReq _ => 1
  | controlRes _ => 1

/-- `From<&[u8]> for DeviceMessage`: a data message of at most `maxMessageLen` bytes. -/
def ofSlice (buf : Bytes) : DeviceMessage :=
  let len := min buf.length maxMessageLen
  .data (UInt8.ofNat len) (Block.zero.write (buf.take len))

/-- `hw_flow_ctl as u8`. -/
def boolToU8 (b : Bool) : UInt8 := if b then 1 else 0

/-- The bytes `encode` puts after the two header bytes. -/
def payload : DeviceMessage → Bytes
  | data len block => block.slice len.toNat
  | config baudrate dataBits stopBits parity hwFlowCtl =>
      putU32 baudrate ++ [dataBits, stopBits, parity, boolToU8 hwFlowCtl]
  | controlReq req => [req.toU8]
  | controlRes res => [res.toU8]

/-- The payload has the size announced by `dataSize`. -/
theorem length_payload (m : DeviceMessage) : m.payload.length = m.dataSize := by
  cases m with
  | data len block =>
      rw [payload, Block.length_slice, dataSize]
      have := len.toNat_lt
      simp only [maxMessageLen]
      omega
  | config => rfl
  | controlReq => rfl
  | controlRes => rfl

/-- The size of a payload fits the length byte. -/
theorem dataSize_le (m : DeviceMessage) : m.dataSize ≤ maxMessageLen := by
  cases m with
  | data len block =>
      have := len.toNat_lt
      simp only [dataSize, maxMessageLen]
      omega
  | config => simp [dataSize, maxMessageLen]
  | controlReq => simp [dataSize, maxMessageLen]
  | controlRes => simp [dataSize, maxMessageLen]

/-- A message made from a slice that fits carries the whole slice. -/
theorem payload_ofSlice {buf : Bytes} (h : buf.length ≤ maxMessageLen) :
    (ofSlice buf).payload = buf := by
  have hlen : (UInt8.ofNat buf.length).toNat = buf.length := by
    rw [UInt8.toNat_ofNat']
    simp only [maxMessageLen] at h
    omega
  simp only [ofSlice, payload, Nat.min_eq_left h, hlen, List.take_length]
  exact Block.slice_write Block.zero rfl h

end DeviceMessage

/-! ## Frames -/

/-- A frame on the wire: a kind byte and at most 255 payload bytes. -/
structure Frame where
  /-- The kind byte. -/
  kind : UInt8
  /-- The payload. -/
  payload : Bytes
  /-- The payload fits the length byte. -/
  size_le : payload.length ≤ maxMessageLen
  deriving DecidableEq

namespace Frame

/-- The bytes of a frame: kind, length, payload. -/
def bytes (f : Frame) : Bytes := f.kind :: UInt8.ofNat f.payload.length :: f.payload

@[simp] theorem length_bytes (f : Frame) : f.bytes.length = f.payload.length + 2 := rfl

/-- The length byte is the number of payload bytes. -/
theorem toNat_length (f : Frame) : (UInt8.ofNat f.payload.length).toNat = f.payload.length := by
  have := f.size_le
  rw [UInt8.toNat_ofNat']
  simp only [maxMessageLen] at this
  omega

/-- **Frames are self-delimiting**: the length byte says where a frame ends. -/
theorem selfDelimiting_bytes : SelfDelimiting bytes where
  ne_nil := fun f => List.cons_ne_nil _ _
  head_eq := by
    intro a b r r' h
    simp only [bytes, List.cons_append, List.cons.injEq] at h
    obtain ⟨hkind, hlen, hrest⟩ := h
    have hlen' : a.payload.length = b.payload.length := by
      rw [← a.toNat_length, ← b.toNat_length, hlen]
    have hpay := (List.append_inj hrest hlen').1
    cases a; cases b
    simp only [Frame.mk.injEq]
    exact ⟨hkind, hpay⟩

end Frame

/-- The frame a message is sent as. -/
def DeviceMessage.frame (m : DeviceMessage) : Frame :=
  ⟨m.kind, m.payload, by rw [m.length_payload]; exact m.dataSize_le⟩

namespace DeviceCodec

/-- `DeviceCodec::encode`: the header, then the payload, appended to `dst`. -/
def encode (item : DeviceMessage) (dst : Bytes) : Except IoError Bytes :=
  let dst := dst ++ [item.kind]
  let dst := dst ++ [UInt8.ofNat item.dataSize]
  match item with
  | .data size data => .ok (dst ++ data.slice size.toNat)
  | .config baudrate dataBits stopBits parity hwFlowCtl =>
      let dst := dst ++ putU32 baudrate
      let dst := dst ++ [dataBits]
      let dst := dst ++ [stopBits]
      let dst := dst ++ [parity]
      .ok (dst ++ [DeviceMessage.boolToU8 hwFlowCtl])
  | .controlReq req => .ok (dst ++ [req.toU8])
  | .controlRes res => .ok (dst ++ [res.toU8])

/-- **Encoding appends the frame of the message** and never fails. -/
theorem encode_eq (item : DeviceMessage) (dst : Bytes) :
    encode item dst = .ok (dst ++ item.frame.bytes) := by
  have hsize : (item.frame.payload).length = item.dataSize := item.length_payload
  rw [Frame.bytes, hsize]
  cases item <;> simp [encode, DeviceMessage.frame, DeviceMessage.payload, DeviceMessage.dataSize]

/-- The part of `decode` after the header and the length check, by message kind. -/
def decodeBody (kind dataLen : UInt8) : Decoder UInt8 IoError DeviceMessage :=
  -- only a `Data` message looks at the length byte again
  if kind = 1 then do
    let data ← Decoder.take dataLen.toNat
    pure (.data dataLen (Block.zero.write data))
  else if kind = 2 then do
    let baudrate ← getU32
    let dataBits ← getU8
    let stopBits ← getU8
    let parity ← getU8
    let hwFlowCtl ← getU8
    -- the only field of `Config` that is checked
    if hwFlowCtl > 1 then
      Decoder.fail ⟨.invalidData, "Hardware flow control is not a bool"⟩
    else
      pure (.config baudrate dataBits stopBits parity (hwFlowCtl != 0))
  else if kind = 3 then do
    let req ← getU8
    match DeviceControlRequest.tryFrom req with
    | .ok req => pure (.controlReq req)
    | .error e => Decoder.fail e
  else if kind = 4 then do
    let res ← getU8
    match DeviceControlResponse.tryFrom res with
    | .ok res => pure (.controlRes res)
    | .error e => Decoder.fail e
  else Decoder.fail ⟨.invalidData, "Unknown message kind"⟩

/-- `DeviceCodec::decode`. The returned rest is the buffer after `src.advance(bytes_read)`. -/
def decode : Decoder UInt8 IoError DeviceMessage := do
  let kind ← getU8
  let dataLen ← getU8
  -- `cursor.remaining() < data_len`
  Decoder.ensure dataLen.toNat
  decodeBody kind dataLen

/-- Decoding a buffer that holds the header and enough bytes goes on with the body. -/
theorem decode_of_le {kind dataLen : UInt8} {rest : Bytes} (h : dataLen.toNat ≤ rest.length) :
    decode (kind :: dataLen :: rest) = decodeBody kind dataLen rest := by
  rw [decode, Decoder.bind_of_item (getU8_cons _ _), Decoder.bind_of_item (getU8_cons _ _),
    Decoder.bind_of_item (Decoder.ensure_of_le h)]

/-- Decoding a buffer that does not hold the announced number of bytes asks for more. -/
theorem decode_of_lt {kind dataLen : UInt8} {rest : Bytes} (h : rest.length < dataLen.toNat) :
    decode (kind :: dataLen :: rest) = .incomplete := by
  rw [decode, Decoder.bind_of_item (getU8_cons _ _), Decoder.bind_of_item (getU8_cons _ _),
    Decoder.bind_of_incomplete (Decoder.ensure_of_lt h)]

/-- What `decode` returns for a message: the same message, with a data array padded by zeros. -/
def canonical : DeviceMessage → DeviceMessage
  | .data len block => .data len (Block.zero.write (block.slice len.toNat))
  | m => m

/-- The canonical form of a message is sent as the same frame. -/
theorem frame_canonical (m : DeviceMessage) : (canonical m).frame = m.frame := by
  cases m with
  | data len block =>
      have hlen := len.toNat_lt
      have hslice : (block.slice len.toNat).length = len.toNat := by
        rw [Block.length_slice]
        simp only [maxMessageLen]
        omega
      have hpay : (canonical (.data len block)).payload = (DeviceMessage.data len block).payload :=
        Block.slice_write Block.zero hslice (by simp only [maxMessageLen]; omega)
      simp only [DeviceMessage.frame, hpay]
      rfl
  | config => rfl
  | controlReq => rfl
  | controlRes => rfl

/-- Decoding the body of a message gives the message and leaves what follows. -/
theorem decodeBody_payload (m : DeviceMessage) (rest : Bytes) :
    decodeBody m.kind (UInt8.ofNat m.payload.length) (m.payload ++ rest)
      = .item (canonical m) rest := by
  cases m with
  | data len block =>
      have hlen : (DeviceMessage.data len block).payload.length = len.toNat :=
        (DeviceMessage.data len block).length_payload
      rw [hlen, UInt8.ofNat_toNat]
      show decodeBody 1 len _ = _
      rw [decodeBody, if_pos rfl, Decoder.bind_of_item (Decoder.take_append hlen rest)]
      rfl
  | config baudrate dataBits stopBits parity hwFlowCtl =>
      show decodeBody 2 8 _ = _
      rw [decodeBody, if_neg (by decide), if_pos rfl, DeviceMessage.payload, List.append_assoc,
        Decoder.bind_of_item (getU32_putU32 _ _)]
      cases hwFlowCtl <;> rfl
  | controlReq req => cases req; rfl
  | controlRes res => cases res <;> rfl

/-- **Round trip.** Decoding the frame of a message and any bytes after it gives the message (with
a zero-padded array) and leaves exactly those bytes. -/
theorem decode_frame_append (m : DeviceMessage) (rest : Bytes) :
    decode (m.frame.bytes ++ rest) = .item (canonical m) rest := by
  rw [Frame.bytes, List.cons_append, List.cons_append, decode_of_le]
  · exact decodeBody_payload m rest
  · rw [m.frame.toNat_length, List.length_append]
    omega

/-- **A part of a frame decodes to nothing**: `decode` waits for the rest of it. -/
theorem decode_of_strictPrefix {f : Frame} {p : Bytes} (hp : p <+: f.bytes) (hne : p ≠ f.bytes) :
    decode p = .incomplete := by
  have hlt : p.length < f.bytes.length :=
    Nat.lt_of_le_of_ne hp.length_le fun heq => hne (hp.eq_of_length heq)
  rw [Frame.length_bytes] at hlt
  obtain ⟨t, ht⟩ := hp
  match p, ht with
  | [], _ => rfl
  | [k], _ => rfl
  | k :: l :: p', ht =>
      simp only [Frame.bytes, List.cons_append, List.cons.injEq] at ht
      obtain ⟨-, rfl, -⟩ := ht
      apply decode_of_lt
      rw [f.toNat_length]
      simp only [List.length_cons] at hlt
      omega

/-- **Decoding reads exactly a frame**: the message and what follows when it is whole, nothing when
it is not. -/
theorem reads_frame (m : DeviceMessage) : decode.Reads m.frame.bytes (canonical m) where
  whole := decode_frame_append m
  cut := decode_of_strictPrefix

/-- Decoding a body is incremental, whatever the length byte says. -/
theorem incremental_decodeBody (kind dataLen : UInt8) : (decodeBody kind dataLen).Incremental := by
  rw [decodeBody]
  split_ifs
  · exact (Decoder.Incremental.take _).bind fun _ => .pure _
  · refine incremental_getU32.bind fun _ => incremental_getU8.bind fun _ =>
      incremental_getU8.bind fun _ => incremental_getU8.bind fun _ =>
        incremental_getU8.bind fun _ => ?_
    split_ifs
    · exact .fail _
    · exact .pure _
  · refine incremental_getU8.bind fun _ => ?_
    split
    · exact .pure _
    · exact .fail _
  · refine incremental_getU8.bind fun _ => ?_
    split
    · exact .pure _
    · exact .fail _
  · exact .fail _

/-- **Decoding messages from a stream** does not depend on how it is cut. -/
theorem streaming_decode : decode.Streaming :=
  .next_bind fun kind => incremental_getU8.bind fun dataLen =>
    (Decoder.Incremental.ensure _).bind fun _ => incremental_decodeBody kind dataLen

/-- **Decoding a stream.** On the start of a stream of frames of messages, `decode` asks for more or
returns the first message and leaves the rest; it never fails. -/
theorem decode_of_stream {ms : List DeviceMessage} {b : Bytes}
    (h : b <+: stream Frame.bytes (ms.map DeviceMessage.frame)) :
    decode b = .incomplete ∨
      ∃ m ms' rest, ms = m :: ms' ∧ b = m.frame.bytes ++ rest ∧
        decode b = .item (canonical m) rest := by
  cases ms with
  | nil =>
      obtain rfl := List.prefix_nil.mp h
      exact .inl rfl
  | cons m ms' =>
      rw [List.map_cons, stream_cons] at h
      rcases List.prefix_or_prefix_of_prefix h (List.prefix_append m.frame.bytes _) with hle | hle
      · by_cases heq : b = m.frame.bytes
        · refine .inr ⟨m, ms', [], rfl, by rw [heq, List.append_nil], ?_⟩
          have := decode_frame_append m []
          rwa [List.append_nil, ← heq] at this
        · exact .inl (decode_of_strictPrefix hle heq)
      · obtain ⟨rest, rfl⟩ := hle
        exact .inr ⟨m, ms', rest, rfl, rfl, decode_frame_append m rest⟩

end DeviceCodec

end TcpUart
