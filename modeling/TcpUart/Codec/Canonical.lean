import TcpUart.Codec.RoundTrip

/-! # The converse of the round trips
The round trips of the control socket say what becomes of bytes that an encoder wrote. This module
reads them the other way.

* `canonical_decoding` — a decoder accepts nothing but what its encoder emits, byte for byte.
* `failed_encode_leaves_no_trace` — when an encoder that failed leaves the buffer as it was, and
  when a buffer that several messages were encoded into holds exactly those that did not fail. -/

namespace TcpUart

open Framing

/-! ## Canonical encodings -/

/-- Every message that `dec` takes from the front of a buffer is encoded by `enc`, without an error,
to exactly the bytes that `dec` took. -/
def Canonical {μ : Type} (enc : μ → Encoder UInt8 IoError Unit) (dec : Decoder UInt8 IoError μ) :
    Prop :=
  ∀ (src src' : Bytes) (m : μ), dec.call src = some (.ok (some m), src') →
    ∃ n ≤ src.length, src' = src.drop n ∧ ∀ dst, enc m dst = (.ok (), dst ++ src.take n)

/-- A message is taken from the same bytes wherever it is found. -/
def DecodesInjectively {μ : Type} (dec : Decoder UInt8 IoError μ) : Prop :=
  ∀ (src₁ rest₁ src₂ rest₂ : Bytes) (m : μ), dec.call src₁ = some (.ok (some m), rest₁) →
    dec.call src₂ = some (.ok (some m), rest₂) → ∃ e, src₁ = e ++ rest₁ ∧ src₂ = e ++ rest₂

/-- A call that returns a message has read an item. -/
theorem item_of_call {μ : Type} {dec : Decoder UInt8 IoError μ} (hd : dec.Streaming)
    {src src' : Bytes} {m : μ} (h : dec.call src = some (.ok (some m), src')) :
    dec src = .item m src' := by
  cases hs : dec src with
  | incomplete =>
      rw [Decoder.call, hs] at h
      cases h
  | error e =>
      rw [Decoder.call, hs] at h
      cases h
  | item a rest =>
      rw [hd.call_of_item hs] at h
      cases h
      rfl

/-- A decoder that reads messages from nothing but the codes an encoder appends is canonical. -/
theorem canonical_of_parses {μ : Type} {enc : μ → Encoder UInt8 IoError Unit}
    {dec : Decoder UInt8 IoError μ} {bytes : μ → Bytes} {F : μ → Prop} (hd : dec.Streaming)
    (hp : dec.Parses fun e m => e = bytes m ∧ F m)
    (happ : ∀ m, F m → (enc m).Appends (bytes m) ()) : Canonical enc dec := by
  intro src src' m h
  obtain ⟨e, rfl, rfl, hm⟩ := hp (item_of_call hd h)
  refine ⟨(bytes m).length, ?_, List.drop_left.symm, fun dst => ?_⟩
  · rw [List.length_append]
    exact Nat.le_add_right _ _
  · rw [List.take_left]
    exact happ m hm dst

/-- Such a decoder takes a message from its code only. -/
theorem decodesInjectively_of_parses {μ : Type} {dec : Decoder UInt8 IoError μ} {bytes : μ → Bytes}
    {F : μ → Prop} (hd : dec.Streaming) (hp : dec.Parses fun e m => e = bytes m ∧ F m) :
    DecodesInjectively dec := by
  intro src₁ rest₁ src₂ rest₂ m h₁ h₂
  obtain ⟨e₁, hsrc₁, rfl, -⟩ := hp (item_of_call hd h₁)
  obtain ⟨e₂, hsrc₂, rfl, -⟩ := hp (item_of_call hd h₂)
  exact ⟨bytes m, hsrc₁, hsrc₂⟩

/-- **Only canonical encodings are accepted.** Whatever buffer a decoder of the control socket
returns a message from, the matching encoder applied to the message succeeds and appends exactly
the bytes that were consumed; so one message has one encoding. -/
theorem canonical_decoding :
    (Canonical DaemonRequestEncoder.encode DaemonRequestDecoder.decode ∧
        DecodesInjectively DaemonRequestDecoder.decode) ∧
      Canonical DaemonResponseEncoder.encode DaemonResponseDecoder.decode ∧
        DecodesInjectively DaemonResponseDecoder.decode := by
  refine ⟨⟨?_, ?_⟩, ?_, ?_⟩
  · exact canonical_of_parses DaemonRequestDecoder.streaming_decode
      DaemonRequestDecoder.parses_bytes fun m hm => DaemonRequestEncoder.appends_bytes hm
  · exact decodesInjectively_of_parses DaemonRequestDecoder.streaming_decode
      DaemonRequestDecoder.parses_bytes
  · exact canonical_of_parses DaemonResponseDecoder.streaming_decode
      DaemonResponseDecoder.parses_bytes fun m hm => DaemonResponseEncoder.appends_bytes hm
  · exact decodesInjectively_of_parses DaemonResponseDecoder.streaming_decode
      DaemonResponseDecoder.parses_bytes

/-- A request to remove `A`, followed by a byte of the next request. -/
theorem canonical_decoding_remove :
    ∃ n ≤ [(2 : UInt8), 1, 65, 3].length, [3] = [(2 : UInt8), 1, 65, 3].drop n ∧
      ∀ dst, DaemonRequestEncoder.encode (.remove "A") dst
        = (.ok (), dst ++ [(2 : UInt8), 1, 65, 3].take n) :=
  canonical_decoding.1.1 [2, 1, 65, 3] [3] (.remove "A") (by decide +kernel)

/-! ## Failed encodes -/

/-- Whatever a buffer holds, when encoding `m` fails, the buffer is as it was before. -/
def LeavesNoTrace {μ : Type} (enc : μ → Encoder UInt8 IoError Unit) (m : μ) : Prop :=
  ∀ (dst dst' : Bytes) (e : IoError), enc m dst = (.error e, dst') → dst' = dst

/-- When messages are encoded one after the other into one buffer, some of them perhaps failing,
the buffer decodes to exactly the messages that did not fail, in order, and nothing is left. -/
def KeepsOnlyEncoded {μ : Type} (enc : μ → Encoder UInt8 IoError Unit)
    (dec : Decoder UInt8 IoError μ) (ms : List μ) : Prop :=
  ∀ n, (Encoder.attempts enc ms []).2.length < n →
    dec.drain n (Encoder.attempts enc ms []).2
      = some ⟨(Encoder.attempts enc ms []).1, none, []⟩

/-- An encoder that puts a type byte first leaves no trace exactly if it does not fail. -/
theorem leavesNoTrace_iff {μ : Type} {enc : μ → Encoder UInt8 IoError Unit} {m : μ} {p : Prop}
    {e : Bytes} {tag : UInt8} (happ : p → (enc m).Appends e ()) (hfail : ¬ p → (enc m).Fails)
    (hgrow : (enc m).Grows [tag]) : LeavesNoTrace enc m ↔ p := by
  constructor
  · intro hclean
    by_contra hp
    obtain ⟨err, dst', henc⟩ := hfail hp []
    have hlen := (hgrow []).length_le
    rw [henc, hclean [] dst' err henc] at hlen
    simp at hlen
  · intro hp dst dst' err henc
    rw [happ hp dst] at henc
    cases henc

/-- If every message that fits is appended and read back, the decoder reads nothing but such codes,
and an encoder leaves its type byte also when it fails, then the buffer holds exactly the messages
that did not fail if and only if all of them fit. -/
theorem keepsOnlyEncoded_iff {μ : Type} {enc : μ → Encoder UInt8 IoError Unit}
    {dec : Decoder UInt8 IoError μ} {bytes : μ → Bytes} {F : μ → Prop} {tag : μ → UInt8}
    (hd : dec.Streaming) (hread : ∀ m, F m → dec.Reads (bytes m) m)
    (hp : dec.Parses fun e m => e = bytes m ∧ F m)
    (happ : ∀ m, F m → (enc m).Appends (bytes m) ()) (hgrow : ∀ m, (enc m).Grows [tag m])
    (ms : List μ) : KeepsOnlyEncoded enc dec ms ↔ ∀ m ∈ ms, F m := by
  constructor
  · intro hkeep
    obtain ⟨hbuf, hfits⟩ := hd.eq_stream_of_drain hp (hkeep _ (Nat.lt_succ_self _))
    -- the buffer is the codes of the messages kept, so there is no room for what a failure leaves
    rcases Encoder.length_attempts hgrow fun m hm => happ m (hfits m hm) with hsame | hlt
    · rwa [hsame] at hfits
    · have hlen := congrArg List.length hbuf
      simp only [List.length_nil] at hlt
      omega
  · intro hfits n hn
    rw [Encoder.attempts_of_appends fun m hm => happ m (hfits m hm), List.nil_append] at hn ⊢
    exact hd.drain_stream (fun m hm => hread m (hfits m hm)) hn

/-- **When a failed encode leaves no trace.** Both encoders put the type byte, and for a list the
count and the entries so far, before they look at the string that does not fit. So the buffer is
unchanged by every failure exactly if there is none, all strings being at most 255 bytes long, and
the buffer of a sequence decodes to the messages that were encoded without an error exactly if all
messages fit the format. -/
theorem failed_encode_leaves_no_trace (req : DaemonRequest) (resp : DaemonResponse)
    (reqs : List DaemonRequest) (resps : List DaemonResponse) :
    (LeavesNoTrace DaemonRequestEncoder.encode req ↔ req.Fits) ∧
      (LeavesNoTrace DaemonResponseEncoder.encode resp ↔ resp.StringsFit) ∧
      (KeepsOnlyEncoded DaemonRequestEncoder.encode DaemonRequestDecoder.decode reqs
        ↔ ∀ m ∈ reqs, m.Fits) ∧
      (KeepsOnlyEncoded DaemonResponseEncoder.encode DaemonResponseDecoder.decode resps
        ↔ ∀ m ∈ resps, m.Fits) := by
  refine ⟨?_, ?_, ?_, ?_⟩
  · exact leavesNoTrace_iff (fun h => DaemonRequestEncoder.appends_bytes h)
      (fun h => DaemonRequestEncoder.fails_encode h) (DaemonRequestEncoder.grows_encode req)
  · exact leavesNoTrace_iff (fun h => DaemonResponseEncoder.appends_of_stringsFit h)
      (fun h => DaemonResponseEncoder.fails_encode h) (DaemonResponseEncoder.grows_encode resp)
  · exact keepsOnlyEncoded_iff DaemonRequestDecoder.streaming_decode
      (fun _ h => DaemonRequestDecoder.reads_bytes h) DaemonRequestDecoder.parses_bytes
      (fun _ h => DaemonRequestEncoder.appends_bytes h) DaemonRequestEncoder.grows_encode reqs
  · exact keepsOnlyEncoded_iff DaemonResponseDecoder.streaming_decode
      (fun _ h => DaemonResponseDecoder.reads_bytes h) DaemonResponseDecoder.parses_bytes
      (fun _ h => DaemonResponseEncoder.appends_bytes h) DaemonResponseEncoder.grows_encode resps

/-- **A failure swallows the next message.** Removing a connection with a name of 256 bytes fails
and leaves its type byte; a request for the list, encoded next, is taken for the length of a
name. -/
theorem failed_encode_leaves_type_byte :
    DaemonRequestEncoder.encode (.remove (String.ofList (List.replicate 256 'a'))) []
        = (.error ⟨.invalidInput, "string too long"⟩, [2]) ∧
      ¬ LeavesNoTrace DaemonRequestEncoder.encode
          (.remove (String.ofList (List.replicate 256 'a'))) ∧
      Encoder.attempts DaemonRequestEncoder.encode
          [.remove (String.ofList (List.replicate 256 'a')), .list] [] = ([.list], [2, 3]) ∧
      DaemonRequestDecoder.decode.drain 3 [2, 3] = some ⟨[], none, [2, 3]⟩ ∧
      ¬ KeepsOnlyEncoded DaemonRequestEncoder.encode DaemonRequestDecoder.decode
          [.remove (String.ofList (List.replicate 256 'a')), .list] := by
  have hlong : ¬ FitsStr (String.ofList (List.replicate 256 'a')) := by decide +kernel
  generalize String.ofList (List.replicate 256 'a') = name at hlong
  have henc : DaemonRequestEncoder.encode (.remove name) []
      = (.error ⟨.invalidInput, "string too long"⟩, [2]) := encodeStr_of_not_fits hlong [2]
  have hbuf : Encoder.attempts DaemonRequestEncoder.encode [.remove name, .list] []
      = ([.list], [2, 3]) := by
    rw [Encoder.attempts, henc]
    rfl
  have hdrain : DaemonRequestDecoder.decode.drain 3 [2, 3] = some ⟨[], none, [2, 3]⟩ := rfl
  refine ⟨henc, ?_, hbuf, hdrain, ?_⟩
  · intro hclean
    cases hclean [] [2] _ henc
  · intro hkeep
    have hnone := hkeep 3
    rw [hbuf, hdrain] at hnone
    cases hnone (by decide)

end TcpUart
