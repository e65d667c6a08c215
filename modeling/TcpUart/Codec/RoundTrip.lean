import TcpUart.Codec.Control
import TcpUart.Codec.Device

/-! # What the three codecs promise
The codec of the device protocol (`common/src/msg.rs`) and the two codecs of the control socket
(`common/src/ctl.rs`), as their users see them: through calls on a buffer that grows by whatever
the socket delivers.

* `chunking_independent` — all three decoders give the same messages and the same first error for
  every way to cut a stream into chunks, and each call is safe.
* `control_round_trip` — what a control-socket encoder appends is decoded to the same message,
  alone or in a sequence.
* `device_round_trip` — the same for the device protocol. -/

namespace TcpUart

open Framing

/-! ## Chunks -/

/-- What `enc` appends for `m` is decoded to `m`, whatever follows; every strict part of it is
waited on. -/
def RoundTrip {μ : Type} (enc : μ → Encoder UInt8 IoError Unit) (dec : Decoder UInt8 IoError μ)
    (m : μ) : Prop :=
  ∃ e : Bytes, (∀ dst, enc m dst = (.ok (), dst ++ e)) ∧
    (∀ r, dec.call (e ++ r) = some (.ok (some m), r)) ∧
    ∀ p, p <+: e → p ≠ e → dec.call p = some (.ok none, p)

/-- Messages encoded into one buffer are decoded to the same messages, and nothing is left. -/
def SequenceRoundTrip {μ : Type} (enc : μ → Encoder UInt8 IoError Unit)
    (dec : Decoder UInt8 IoError μ) (ms : List μ) : Prop :=
  ∃ buf, Encoder.each enc ms [] = (.ok (), buf) ∧
    ∀ n, buf.length < n → dec.drain n buf = some ⟨ms, none, []⟩

/-- A decoder that reads exactly the bytes an encoder appends gives the message back. -/
theorem roundTrip_of_reads {μ : Type} {enc : μ → Encoder UInt8 IoError Unit}
    {dec : Decoder UInt8 IoError μ} (hd : dec.Streaming) {m : μ} {e : Bytes}
    (happ : (enc m).Appends e ()) (hread : dec.Reads e m) : RoundTrip enc dec m := by
  refine ⟨e, happ, fun r => hd.call_of_item (hread.whole r), ?_⟩
  intro p hp hne
  rw [Decoder.call, hread.cut hp hne]

/-- The same for a sequence of messages. -/
theorem sequenceRoundTrip_of_reads {μ : Type} {enc : μ → Encoder UInt8 IoError Unit}
    {dec : Decoder UInt8 IoError μ} (hd : dec.Streaming) {bytes : μ → Bytes} {ms : List μ}
    (happ : ∀ m ∈ ms, (enc m).Appends (bytes m) ()) (hread : ∀ m ∈ ms, dec.Reads (bytes m) m) :
    SequenceRoundTrip enc dec ms := by
  refine ⟨stream bytes ms, ?_, ?_⟩
  · have heach := Encoder.Appends.each happ []
    rwa [List.nil_append] at heach
  · intro n hn
    exact hd.drain_stream hread hn

/-- **Round trip of the control socket.** Requests and responses whose strings are at most 255
bytes long and whose list has at most 65535 entries are decoded from what was encoded, whatever
follows; no strict part of a message is taken for a message or an error; sequences of messages
encoded into one buffer are decoded to the same sequences. -/
theorem control_round_trip :
    (∀ m : DaemonRequest, m.Fits →
        RoundTrip DaemonRequestEncoder.encode DaemonRequestDecoder.decode m) ∧
      (∀ m : DaemonResponse, m.Fits →
        RoundTrip DaemonResponseEncoder.encode DaemonResponseDecoder.decode m) ∧
      (∀ ms : List DaemonRequest, (∀ m ∈ ms, m.Fits) →
        SequenceRoundTrip DaemonRequestEncoder.encode DaemonRequestDecoder.decode ms) ∧
      ∀ ms : List DaemonResponse, (∀ m ∈ ms, m.Fits) →
        SequenceRoundTrip DaemonResponseEncoder.encode DaemonResponseDecoder.decode ms := by
  refine ⟨?_, ?_, ?_, ?_⟩
  · intro m hm
    exact roundTrip_of_reads DaemonRequestDecoder.streaming_decode
      (DaemonRequestEncoder.appends_bytes hm) (DaemonRequestDecoder.reads_bytes hm)
  · intro m hm
    exact roundTrip_of_reads DaemonResponseDecoder.streaming_decode
      (DaemonResponseEncoder.appends_bytes hm) (DaemonResponseDecoder.reads_bytes hm)
  · intro ms hms
    exact sequenceRoundTrip_of_reads DaemonRequestDecoder.streaming_decode
      (fun m hm => DaemonRequestEncoder.appends_bytes (hms m hm))
      (fun m hm => DaemonRequestDecoder.reads_bytes (hms m hm))
  · intro ms hms
    exact sequenceRoundTrip_of_reads DaemonResponseDecoder.streaming_decode
      (fun m hm => DaemonResponseEncoder.appends_bytes (hms m hm))
      (fun m hm => DaemonResponseDecoder.reads_bytes (hms m hm))

/-- An added connection and a list of one, as the daemon sends them. -/
theorem control_round_trip_list :
    RoundTrip DaemonRequestEncoder.encode DaemonRequestDecoder.decode (.add "lab" 2130706433 4000) ∧
      SequenceRoundTrip DaemonResponseEncoder.encode DaemonResponseDecoder.decode
        [.addOk "/dev/pts/3", .list [⟨"lab", 2130706433, 4000, "/dev/pts/3", true⟩]] :=
  ⟨control_round_trip.1 _ (by decide), control_round_trip.2.2.2 _ (by decide)⟩

/-- Two device messages are the same, up to what a data array holds after its valid bytes; there
the decoded message has zeros. -/
def DeviceMessage.DecodedAs : DeviceMessage → DeviceMessage → Prop
  | .data len block, .data len' block' =>
      len' = len ∧ block'.slice len.toNat = block.slice len.toNat ∧
        ∀ i, len.toNat ≤ i → i < maxMessageLen → block'.1[i]? = some 0
  | m, m' => m = m'

/-- The canonical form of a message is the message with zeros after its valid bytes. -/
theorem decodedAs_canonical (m : DeviceMessage) : m.DecodedAs (DeviceCodec.canonical m) := by
  cases m with
  | data len block =>
      have hlen := len.toNat_lt
      have hslice : (block.slice len.toNat).length = len.toNat := by
        rw [Block.length_slice]
        simp only [maxMessageLen]
        omega
      refine ⟨rfl, Block.slice_write Block.zero hslice (by simp only [maxMessageLen]; omega), ?_⟩
      intro i hi hlt
      have hzero : Block.zero.1.length = maxMessageLen := Block.zero.2
      rw [Block.write, List.getElem?_take_of_lt hlt, List.getElem?_append_right (by omega),
        List.getElem?_drop, hslice, show len.toNat + (i - len.toNat) = i by omega, Block.zero,
        List.getElem?_replicate_of_lt hlt]
  | config => rfl
  | controlReq => rfl
  | controlRes => rfl

/-- **Round trip of the device protocol.** Encoding appends a frame whose length byte is the number
of payload bytes; the frame and whatever follows decodes to the message and leaves what follows; a
strict part of the frame is waited on. A slice of at most 255 bytes comes back byte for byte. -/
theorem device_round_trip :
    (∀ (m : DeviceMessage) (dst : Bytes), ∃ (dataLen : UInt8) (payload : Bytes),
      dataLen.toNat = payload.length ∧
      DeviceCodec.encode m dst = .ok (dst ++ m.kind :: dataLen :: payload) ∧
      (∀ r, ∃ m', m.DecodedAs m' ∧
        DeviceCodec.decode.call (m.kind :: dataLen :: payload ++ r) = some (.ok (some m'), r)) ∧
      ∀ p, p <+: m.kind :: dataLen :: payload → p ≠ m.kind :: dataLen :: payload →
        DeviceCodec.decode.call p = some (.ok none, p)) ∧
    ∀ buf : Bytes, buf.length ≤ maxMessageLen → ∀ dst r, ∃ e len block,
      DeviceCodec.encode (.ofSlice buf) dst = .ok (dst ++ e) ∧
      DeviceCodec.decode.call (e ++ r) = some (.ok (some (.data len block)), r) ∧
      len.toNat = buf.length ∧ block.slice len.toNat = buf := by
  have hcall : ∀ (m : DeviceMessage) (r : Bytes), DeviceCodec.decode.call (m.frame.bytes ++ r)
      = some (.ok (some (DeviceCodec.canonical m)), r) := fun m r =>
    DeviceCodec.streaming_decode.call_of_item (DeviceCodec.decode_frame_append m r)
  constructor
  · intro m dst
    refine ⟨UInt8.ofNat m.frame.payload.length, m.frame.payload, m.frame.toNat_length,
      DeviceCodec.encode_eq m dst, fun r => ⟨_, decodedAs_canonical m, hcall m r⟩, ?_⟩
    intro p hp hne
    rw [Decoder.call, (DeviceCodec.reads_frame m).cut hp hne]
  · intro buf hbuf dst r
    have hlen : (UInt8.ofNat (min buf.length maxMessageLen)).toNat = buf.length := by
      rw [Nat.min_eq_left hbuf, UInt8.toNat_ofNat']
      exact Nat.mod_eq_of_lt (Nat.lt_succ_of_le hbuf)
    have hpay := DeviceMessage.payload_ofSlice hbuf
    refine ⟨(DeviceMessage.ofSlice buf).frame.bytes, _, _, DeviceCodec.encode_eq _ dst,
      hcall _ r, hlen, ?_⟩
    exact (decodedAs_canonical (.ofSlice buf)).2.1.trans hpay

/-- Three bytes read from the PTY come back from the wire. -/
theorem device_round_trip_three_bytes :
    ∃ e len block, DeviceCodec.encode (.ofSlice [1, 2, 3]) [] = .ok ([] ++ e) ∧
      DeviceCodec.decode.call (e ++ [9]) = some (.ok (some (.data len block)), [9]) ∧
      len.toNat = [(1 : UInt8), 2, 3].length ∧ block.slice len.toNat = [1, 2, 3] :=
  device_round_trip.2 [1, 2, 3] (by decide) [] [9]

end TcpUart
