import TcpUart.Lib.Encoder
import TcpUart.Codec.Bytes

/-! # Messages between the CLI and the daemon (`common/src/ctl.rs`)
`DaemonRequest` and `DaemonResponse` travel over the Unix domain socket, each with a codec of its
own: a type byte, strings with a length byte in front, big-endian integers and, for the list of
connections, a count.

* `DaemonRequest.bytes`, `DaemonResponse.bytes` — the code of a message that fits the format.
* `appends_bytes` (of either encoder) — encoding appends the code.
* `fails_encode`, `grows_encode` (of either encoder) — when encoding fails, and what stays in the
  buffer when it does.
* `reads_bytes` (of either decoder) — decoding reads exactly the code.
* `parses_bytes` (of either decoder) — what is decoded fits the format and was read from its code.
* `streaming_decode` (of either decoder) — the decoder does not depend on how the stream is cut. -/

namespace TcpUart

open Framing

/-- `DaemonRequest`: commands sent from the CLI to the daemon. -/
inductive DaemonRequest
  /-- Add a connection to the device at an address. -/
  | add (name : String) (addr : UInt32) (port : UInt16)
  /-- Remove a connection. -/
  | remove (name : String)
  /-- List the connections. -/
  | list
  /-- Reset the device of a connection. -/
  | reset (name : String)
  deriving DecidableEq

/-- `ConnectionInfo`. -/
structure ConnectionInfo where
  /-- Name of the connection. -/
  name : String
  /-- Address of the device. -/
  addr : UInt32
  /-- Port of the device. -/
  port : UInt16
  /-- Path of the PTY slave. -/
  ptsPath : String
  /-- Whether the device is connected. -/
  connected : Bool
  deriving DecidableEq

/-- `DaemonResponse`: responses sent from the daemon back to the CLI. -/
inductive DaemonResponse
  /-- The connection was added; its PTY slave has this path. -/
  | addOk (path : String)
  /-- The connection was removed. -/
  | removeOk
  /-- The connections. -/
  | list (conns : List ConnectionInfo)
  /-- The device was reset. -/
  | resetOk
  /-- The request failed. -/
  | error (text : String)
  deriving DecidableEq

/-- `DaemonRequest::msg_type`. -/
def DaemonRequest.msgType : DaemonRequest → UInt8
  | add .. => 1
  | remove _ => 2
  | list => 3
  | reset _ => 4

/-- `DaemonResponse::msg_type`. -/
def DaemonResponse.msgType : DaemonResponse → UInt8
  | addOk _ => 1
  | removeOk => 2
  | list _ => 3
  | resetOk => 4
  | error _ => 255

/-! ## Strings -/

/-- `s.as_bytes()`: the UTF-8 code of a string. -/
def asBytes (s : String) : Bytes := s.toByteArray.data.toList

/-- `String::from_utf8`, without the error it returns: `decode_str` drops it. -/
def fromUtf8 (bs : Bytes) : Option String := String.fromUTF8? ⟨bs.toArray⟩

/-- `s.len()` counts the bytes of the code. -/
theorem length_asBytes (s : String) : (asBytes s).length = s.utf8ByteSize := rfl

/-- The code of a string is read back as the string. -/
theorem fromUtf8_asBytes (s : String) : fromUtf8 (asBytes s) = some s := by
  have harr : (⟨(asBytes s).toArray⟩ : ByteArray) = s.toByteArray := by
    rw [asBytes, Array.toArray_toList]
  rw [fromUtf8, harr, String.fromUTF8?, dif_pos s.isValidUTF8]
  rfl

/-- `encode_str`. -/
def encodeStr (s : String) : Encoder UInt8 IoError Unit :=
  let size := s.utf8ByteSize
  if size > 255 then Encoder.fail ⟨.invalidInput, "string too long"⟩
  else do
    Encoder.put [UInt8.ofNat size]
    Encoder.put (asBytes s)

/-- `decode_str`. -/
def decodeStr : Decoder UInt8 IoError String := do
  let size ← getU8
  let buf ← Decoder.take size.toNat
  match fromUtf8 buf with
  | some s => pure s
  | none => Decoder.fail ⟨.invalidData, "invalid string"⟩

/-- A string that fits its length byte. -/
def FitsStr (s : String) : Prop := s.utf8ByteSize ≤ 255

instance (s : String) : Decidable (FitsStr s) := inferInstanceAs (Decidable (_ ≤ _))

/-- The code of a string that fits: its length and its bytes. -/
def strBytes (s : String) : Bytes := [UInt8.ofNat s.utf8ByteSize] ++ asBytes s

/-- Encoding a string that fits appends its code. -/
theorem appends_encodeStr {s : String} (h : FitsStr s) : (encodeStr s).Appends (strBytes s) () := by
  rw [encodeStr, if_neg (Nat.not_lt.mpr h)]
  exact (Encoder.Appends.put _).bind (.put _)

/-- A string that does not fit is refused, and nothing is written. -/
theorem encodeStr_of_not_fits {s : String} (h : ¬ FitsStr s) (dst : Bytes) :
    encodeStr s dst = (.error ⟨.invalidInput, "string too long"⟩, dst) := by
  rw [encodeStr, if_pos (Nat.lt_of_not_le h)]
  rfl

/-- A string that does not fit fails. -/
theorem fails_encodeStr {s : String} (h : ¬ FitsStr s) : (encodeStr s).Fails := fun dst =>
  ⟨_, dst, encodeStr_of_not_fits h dst⟩

/-- Encoding a string, whether it fits or not, keeps what the buffer held. -/
theorem grows_encodeStr (s : String) : (encodeStr s).Grows [] := by
  by_cases h : FitsStr s
  · exact .of_appends (appends_encodeStr h)
  · rw [encodeStr, if_pos (Nat.lt_of_not_le h)]
    exact .fail _

/-- Decoding a string reads its code. -/
theorem reads_decodeStr {s : String} (h : FitsStr s) : decodeStr.Reads (strBytes s) s := by
  have hlen : (asBytes s).length = (UInt8.ofNat s.utf8ByteSize).toNat := by
    rw [length_asBytes, UInt8.toNat_ofNat']
    exact (Nat.mod_eq_of_lt (Nat.lt_succ_of_le h)).symm
  have hstr : (match fromUtf8 (asBytes s) with
      | some s => (pure s : Decoder UInt8 IoError String)
      | none => Decoder.fail ⟨.invalidData, "invalid string"⟩).Reads [] s := by
    rw [fromUtf8_asBytes]
    exact .pure s
  have htake := (Decoder.Reads.take (ε := IoError) hlen).bind (f := fun buf =>
    match fromUtf8 buf with
    | some s => (pure s : Decoder UInt8 IoError String)
    | none => Decoder.fail ⟨.invalidData, "invalid string"⟩) hstr
  rw [List.append_nil] at htake
  exact (reads_getU8 _).bind htake

/-- The bytes of a string are the code it was read from. -/
theorem asBytes_of_fromUtf8 {bs : Bytes} {s : String} (h : fromUtf8 bs = some s) :
    asBytes s = bs := by
  rw [fromUtf8, String.fromUTF8?] at h
  split at h
  · cases h
    exact List.toList_toArray
  · cases h

/-- A string is read from its code, and fits. -/
theorem parses_decodeStr : decodeStr.Parses fun e s => e = strBytes s ∧ FitsStr s := by
  refine Decoder.Parses.next.bind ?_
  rintro size _ rfl
  refine (Decoder.Parses.take _).bind ?_
  rintro bs e ⟨he, hlen⟩
  subst he
  cases hs : fromUtf8 e with
  | none => exact .fail _
  | some s =>
      obtain rfl := asBytes_of_fromUtf8 hs
      rw [length_asBytes] at hlen
      refine .pure ⟨?_, ?_⟩
      · rw [strBytes, hlen, UInt8.ofNat_toNat, List.append_nil]
      · rw [FitsStr, hlen]
        exact Nat.le_of_lt_succ size.toNat_lt

/-- Decoding a string is incremental, for valid and invalid strings alike. -/
theorem incremental_decodeStr : decodeStr.Incremental := by
  refine incremental_getU8.bind fun size => (Decoder.Incremental.take _).bind fun buf => ?_
  split
  · exact .pure _
  · exact .fail _

/-! ## Requests -/

namespace DaemonRequest

/-- The strings of a request fit the format. -/
def Fits : DaemonRequest → Prop
  | add name _ _ => FitsStr name
  | remove name => FitsStr name
  | list => True
  | reset name => FitsStr name

instance : DecidablePred Fits
  | add name _ _ => inferInstanceAs (Decidable (FitsStr name))
  | remove name => inferInstanceAs (Decidable (FitsStr name))
  | list => inferInstanceAs (Decidable True)
  | reset name => inferInstanceAs (Decidable (FitsStr name))

/-- The code of a request that fits, after the type byte. -/
def body : DaemonRequest → Bytes
  | add name addr port => strBytes name ++ (putU32 addr ++ putU16 port)
  | remove name => strBytes name
  | list => []
  | reset name => strBytes name

/-- The code of a request that fits. -/
def bytes (m : DaemonRequest) : Bytes := [m.msgType] ++ m.body

end DaemonRequest

/-- `DaemonRequestEncoder::encode`. -/
def DaemonRequestEncoder.encode (item : DaemonRequest) : Encoder UInt8 IoError Unit := do
  Encoder.put [item.msgType]
  match item with
  | .add name addr port => do
      encodeStr name
      Encoder.put (putU32 addr)
      Encoder.put (putU16 port)
  | .remove name => encodeStr name
  | .list => pure ()
  | .reset name => encodeStr name

/-- `DaemonRequestDecoder::decode`. -/
def DaemonRequestDecoder.decode : Decoder UInt8 IoError DaemonRequest := do
  let messageKind ← getU8
  if messageKind = 1 then do
    let name ← decodeStr
    let addr ← getU32
    let port ← getU16
    pure (.add name addr port)
  else if messageKind = 2 then do
    let name ← decodeStr
    pure (.remove name)
  else if messageKind = 3 then pure .list
  else if messageKind = 4 then do
    let name ← decodeStr
    pure (.reset name)
  else Decoder.fail ⟨.invalidData, "unknown message type"⟩

/-- **Encoding a request** that fits appends its code. -/
theorem DaemonRequestEncoder.appends_bytes {m : DaemonRequest} (h : m.Fits) :
    (encode m).Appends m.bytes () := by
  refine (Encoder.Appends.put _).bind ?_
  cases m with
  | add name addr port => exact (appends_encodeStr h).bind ((Encoder.Appends.put _).bind (.put _))
  | remove name => exact appends_encodeStr h
  | list => exact .pure ()
  | reset name => exact appends_encodeStr h

/-- Encoding a request that does not fit fails. -/
theorem DaemonRequestEncoder.fails_encode {m : DaemonRequest} (h : ¬ m.Fits) :
    (encode m).Fails := by
  refine .bind_right (.put _) ?_
  cases m with
  | add name addr port => exact (fails_encodeStr h).bind_left _
  | remove name => exact fails_encodeStr h
  | list => exact absurd trivial h
  | reset name => exact fails_encodeStr h

/-- Whether it fails or not, encoding a request leaves its type byte in the buffer. -/
theorem DaemonRequestEncoder.grows_encode (m : DaemonRequest) :
    (encode m).Grows [m.msgType] := by
  refine (Encoder.Grows.put _).bind fun _ => ?_
  cases m with
  | add name addr port =>
      exact (grows_encodeStr name).bind fun _ => .of_appends ((Encoder.Appends.put _).bind (.put _))
  | remove name => exact grows_encodeStr name
  | list => exact .of_appends (.pure ())
  | reset name => exact grows_encodeStr name

/-- **Decoding a request** reads its code. -/
theorem DaemonRequestDecoder.reads_bytes {m : DaemonRequest} (h : m.Fits) :
    decode.Reads m.bytes m := by
  refine (reads_getU8 m.msgType).bind ?_
  cases m with
  | add name addr port =>
      have hport := (reads_getU16 port).bind (f := fun port =>
        (pure (.add name addr port) : Decoder UInt8 IoError DaemonRequest)) (.pure _)
      rw [List.append_nil] at hport
      exact (reads_decodeStr h).bind ((reads_getU32 addr).bind hport)
  | remove name =>
      have hname := (reads_decodeStr h).bind (f := fun name =>
        (pure (.remove name) : Decoder UInt8 IoError DaemonRequest)) (.pure _)
      rwa [List.append_nil] at hname
  | list => exact .pure _
  | reset name =>
      have hname := (reads_decodeStr h).bind (f := fun name =>
        (pure (.reset name) : Decoder UInt8 IoError DaemonRequest)) (.pure _)
      rwa [List.append_nil] at hname

/-- **Decoding requests from a stream** does not depend on how it is cut. -/
theorem DaemonRequestDecoder.streaming_decode : decode.Streaming := by
  refine .next_bind fun messageKind => ?_
  split_ifs
  · exact incremental_decodeStr.bind fun _ => incremental_getU32.bind fun _ =>
      incremental_getU16.bind fun _ => .pure _
  · exact incremental_decodeStr.bind fun _ => .pure _
  · exact .pure _
  · exact incremental_decodeStr.bind fun _ => .pure _
  · exact .fail _

/-- **A request is read from its code**, and fits. -/
theorem DaemonRequestDecoder.parses_bytes : decode.Parses fun e m => e = m.bytes ∧ m.Fits := by
  refine Decoder.Parses.next.bind ?_
  rintro messageKind _ rfl
  split_ifs with h1 h2 h3 h4
  · subst h1
    refine parses_decodeStr.bind ?_
    rintro name _ ⟨rfl, hname⟩
    refine parses_getU32.bind ?_
    rintro addr _ rfl
    refine parses_getU16.bind ?_
    rintro port _ rfl
    exact .pure ⟨by simp [DaemonRequest.bytes, DaemonRequest.body, DaemonRequest.msgType], hname⟩
  · subst h2
    refine parses_decodeStr.bind ?_
    rintro name _ ⟨rfl, hname⟩
    exact .pure ⟨by simp [DaemonRequest.bytes, DaemonRequest.body, DaemonRequest.msgType], hname⟩
  · subst h3
    exact .pure ⟨rfl, trivial⟩
  · subst h4
    refine parses_decodeStr.bind ?_
    rintro name _ ⟨rfl, hname⟩
    exact .pure ⟨by simp [DaemonRequest.bytes, DaemonRequest.body, DaemonRequest.msgType], hname⟩
  · exact .fail _

/-! ## Responses -/

namespace ConnectionInfo

/-- The strings of a list entry fit the format. -/
def Fits (conn : ConnectionInfo) : Prop := FitsStr conn.name ∧ FitsStr conn.ptsPath

instance : DecidablePred Fits := fun _ => inferInstanceAs (Decidable (_ ∧ _))

/-- The code of a list entry that fits. -/
def bytes (conn : ConnectionInfo) : Bytes :=
  strBytes conn.name ++ (putU32 conn.addr ++ (putU16 conn.port ++
    (strBytes conn.ptsPath ++ [conn.connected.toUInt8])))

end ConnectionInfo

namespace DaemonResponse

/-- The strings of a response fit the format. -/
def StringsFit : DaemonResponse → Prop
  | addOk path => FitsStr path
  | removeOk => True
  | list conns => ∀ conn ∈ conns, conn.Fits
  | resetOk => True
  | error text => FitsStr text

/-- The strings and the list of a response fit the format. -/
def Fits : DaemonResponse → Prop
  | addOk path => FitsStr path
  | removeOk => True
  | list conns => conns.length ≤ 65535 ∧ ∀ conn ∈ conns, conn.Fits
  | resetOk => True
  | error text => FitsStr text

instance : DecidablePred Fits
  | addOk path => inferInstanceAs (Decidable (FitsStr path))
  | removeOk => inferInstanceAs (Decidable True)
  | list conns => inferInstanceAs (Decidable (conns.length ≤ 65535 ∧ ∀ conn ∈ conns, conn.Fits))
  | resetOk => inferInstanceAs (Decidable True)
  | error text => inferInstanceAs (Decidable (FitsStr text))

/-- The strings of a response that fits do. -/
theorem Fits.stringsFit {m : DaemonResponse} (h : m.Fits) : m.StringsFit := by
  cases m with
  | addOk path => exact h
  | removeOk => trivial
  | list conns => exact h.2
  | resetOk => trivial
  | error text => exact h

/-- The code of a response that fits, after the type byte. -/
def body : DaemonResponse → Bytes
  | addOk path => strBytes path
  | removeOk => []
  | list conns => putU16 (UInt16.ofNat conns.length) ++ stream ConnectionInfo.bytes conns
  | resetOk => []
  | error text => strBytes text

/-- The code of a response that fits. -/
def bytes (m : DaemonResponse) : Bytes := [m.msgType] ++ m.body

end DaemonResponse

namespace DaemonResponseEncoder

/-- The body of the loop of `DaemonResponseEncoder::encode` over the connections. -/
def encodeConn (conn : ConnectionInfo) : Encoder UInt8 IoError Unit := do
  encodeStr conn.name
  Encoder.put (putU32 conn.addr)
  Encoder.put (putU16 conn.port)
  encodeStr conn.ptsPath
  Encoder.put [conn.connected.toUInt8]

/-- `DaemonResponseEncoder::encode`. -/
def encode (item : DaemonResponse) : Encoder UInt8 IoError Unit := do
  Encoder.put [item.msgType]
  match item with
  | .addOk ptsPath => encodeStr ptsPath
  | .removeOk => pure ()
  | .list connections => do
      -- `connections.len() as u16`
      Encoder.put (putU16 (UInt16.ofNat connections.length))
      Encoder.each encodeConn connections
  | .resetOk => pure ()
  | .error msg => encodeStr msg

end DaemonResponseEncoder

namespace DaemonResponseDecoder

/-- The body of the loop of `DaemonResponseDecoder::decode` over the connections. -/
def decodeConn : Decoder UInt8 IoError ConnectionInfo := do
  let name ← decodeStr
  let addr ← getU32
  let port ← getU16
  let ptsPath ← decodeStr
  let c ← getU8
  if c < 2 then pure ⟨name, addr, port, ptsPath, c != 0⟩
  else Decoder.fail ⟨.invalidData, s!"invalid connected value: {c}"⟩

/-- `DaemonResponseDecoder::decode`. -/
def decode : Decoder UInt8 IoError DaemonResponse := do
  let messageKind ← getU8
  if messageKind = 1 then do
    let ptsPath ← decodeStr
    pure (.addOk ptsPath)
  else if messageKind = 2 then pure .removeOk
  else if messageKind = 3 then do
    let count ← getU16
    let connections ← decodeConn.collect count.toNat []
    pure (.list connections)
  else if messageKind = 4 then pure .resetOk
  else if messageKind = 255 then do
    let msg ← decodeStr
    pure (.error msg)
  else Decoder.fail ⟨.invalidData, "unknown response type"⟩

end DaemonResponseDecoder

/-- Encoding a list entry that fits appends its code. -/
theorem DaemonResponseEncoder.appends_encodeConn {conn : ConnectionInfo} (h : conn.Fits) :
    (encodeConn conn).Appends conn.bytes () :=
  (appends_encodeStr h.1).bind <| (Encoder.Appends.put _).bind <| (Encoder.Appends.put _).bind <|
    (appends_encodeStr h.2).bind (.put _)

/-- Encoding a list entry that does not fit fails. -/
theorem DaemonResponseEncoder.fails_encodeConn {conn : ConnectionInfo} (h : ¬ conn.Fits) :
    (encodeConn conn).Fails := by
  by_cases hname : FitsStr conn.name
  · have hpath : ¬ FitsStr conn.ptsPath := fun hpath => h ⟨hname, hpath⟩
    exact .bind_right (appends_encodeStr hname) <| .bind_right (.put _) <| .bind_right (.put _) <|
      (fails_encodeStr hpath).bind_left _
  · exact (fails_encodeStr hname).bind_left _

/-- Encoding a list entry keeps what the buffer held. -/
theorem DaemonResponseEncoder.grows_encodeConn (conn : ConnectionInfo) :
    (encodeConn conn).Grows [] :=
  (grows_encodeStr conn.name).bind fun _ =>
    (Encoder.Grows.of_appends (.put _)).bind fun _ =>
      (Encoder.Grows.of_appends (.put _)).bind fun _ =>
        (grows_encodeStr conn.ptsPath).bind fun _ => .of_appends (.put _)

/-- **Encoding a response** whose strings fit appends its code; the number of list entries is cut
to its low 16 bits. -/
theorem DaemonResponseEncoder.appends_of_stringsFit {m : DaemonResponse} (h : m.StringsFit) :
    (encode m).Appends m.bytes () := by
  refine (Encoder.Appends.put _).bind ?_
  cases m with
  | addOk path => exact appends_encodeStr h
  | removeOk => exact .pure ()
  | list conns =>
      exact (Encoder.Appends.put _).bind (.each fun conn hc => appends_encodeConn (h conn hc))
  | resetOk => exact .pure ()
  | error text => exact appends_encodeStr h

/-- **Encoding a response** that fits appends its code. -/
theorem DaemonResponseEncoder.appends_bytes {m : DaemonResponse} (h : m.Fits) :
    (encode m).Appends m.bytes () :=
  appends_of_stringsFit h.stringsFit

/-- Encoding a response with a string that does not fit fails. -/
theorem DaemonResponseEncoder.fails_encode {m : DaemonResponse} (h : ¬ m.StringsFit) :
    (encode m).Fails := by
  refine .bind_right (.put _) ?_
  cases m with
  | addOk path => exact fails_encodeStr h
  | removeOk => exact absurd trivial h
  | list conns =>
      have hconn : ∃ conn ∈ conns, ¬ conn.Fits := by
        by_contra hall
        exact h fun conn hc => by_contra fun hnot => hall ⟨conn, hc, hnot⟩
      exact .bind_right (.put _)
        (.each (fun _ hc => appends_encodeConn hc) (fun _ hc => fails_encodeConn hc) hconn)
  | resetOk => exact absurd trivial h
  | error text => exact fails_encodeStr h

/-- Whether it fails or not, encoding a response leaves its type byte in the buffer. -/
theorem DaemonResponseEncoder.grows_encode (m : DaemonResponse) :
    (encode m).Grows [m.msgType] := by
  refine (Encoder.Grows.put _).bind fun _ => ?_
  cases m with
  | addOk path => exact grows_encodeStr path
  | removeOk => exact .of_appends (.pure ())
  | list conns =>
      exact (Encoder.Grows.of_appends (.put _)).bind fun _ => .each grows_encodeConn conns
  | resetOk => exact .of_appends (.pure ())
  | error text => exact grows_encodeStr text

/-- Decoding a list entry reads its code. -/
theorem DaemonResponseDecoder.reads_decodeConn {conn : ConnectionInfo} (h : conn.Fits) :
    decodeConn.Reads conn.bytes conn := by
  obtain ⟨name, addr, port, ptsPath, connected⟩ := conn
  have hconn : (getU8 >>= fun c =>
      if c < 2 then (pure ⟨name, addr, port, ptsPath, c != 0⟩ : Decoder UInt8 IoError ConnectionInfo)
      else Decoder.fail ⟨.invalidData, s!"invalid connected value: {c}"⟩).Reads
        ([connected.toUInt8] ++ []) ⟨name, addr, port, ptsPath, connected⟩ := by
    refine (reads_getU8 _).bind ?_
    cases connected <;> exact .pure _
  exact (reads_decodeStr h.1).bind <| (reads_getU32 addr).bind <| (reads_getU16 port).bind <|
    (reads_decodeStr h.2).bind hconn

/-- **Decoding a response** reads its code. -/
theorem DaemonResponseDecoder.reads_bytes {m : DaemonResponse} (h : m.Fits) :
    decode.Reads m.bytes m := by
  refine (reads_getU8 m.msgType).bind ?_
  cases m with
  | addOk path =>
      have hpath := (reads_decodeStr h).bind (f := fun path =>
        (pure (.addOk path) : Decoder UInt8 IoError DaemonResponse)) (.pure _)
      rwa [List.append_nil] at hpath
  | removeOk => exact .pure _
  | list conns =>
      have hcount : (UInt16.ofNat conns.length).toNat = conns.length := by
        rw [UInt16.toNat_ofNat']
        exact Nat.mod_eq_of_lt (Nat.lt_succ_of_le h.1)
      have hloop : (decodeConn.collect (UInt16.ofNat conns.length).toNat []).Reads
          (stream ConnectionInfo.bytes conns) conns := by
        rw [hcount]
        exact .collect (fun conn hc => reads_decodeConn (h.2 conn hc)) []
      have hlist := hloop.bind (f := fun conns =>
        (pure (.list conns) : Decoder UInt8 IoError DaemonResponse)) (.pure _)
      rw [List.append_nil] at hlist
      exact (reads_getU16 _).bind hlist
  | resetOk => exact .pure _
  | error text =>
      have htext := (reads_decodeStr h).bind (f := fun text =>
        (pure (.error text) : Decoder UInt8 IoError DaemonResponse)) (.pure _)
      rwa [List.append_nil] at htext

/-- Decoding a list entry is incremental. -/
theorem DaemonResponseDecoder.incremental_decodeConn : decodeConn.Incremental := by
  refine incremental_decodeStr.bind fun _ => incremental_getU32.bind fun _ =>
    incremental_getU16.bind fun _ => incremental_decodeStr.bind fun _ =>
      incremental_getU8.bind fun c => ?_
  split_ifs
  · exact .pure _
  · exact .fail _

/-- **Decoding responses from a stream** does not depend on how it is cut. -/
theorem DaemonResponseDecoder.streaming_decode : decode.Streaming := by
  refine .next_bind fun messageKind => ?_
  split_ifs
  · exact incremental_decodeStr.bind fun _ => .pure _
  · exact .pure _
  · exact incremental_getU16.bind fun count =>
      (incremental_decodeConn.collect _ []).bind fun _ => .pure _
  · exact .pure _
  · exact incremental_decodeStr.bind fun _ => .pure _
  · exact .fail _

/-- A list entry is read from its code, and fits. -/
theorem DaemonResponseDecoder.parses_decodeConn :
    decodeConn.Parses fun e conn => e = conn.bytes ∧ conn.Fits := by
  refine parses_decodeStr.bind ?_
  rintro name _ ⟨rfl, hname⟩
  refine parses_getU32.bind ?_
  rintro addr _ rfl
  refine parses_getU16.bind ?_
  rintro port _ rfl
  refine parses_decodeStr.bind ?_
  rintro ptsPath _ ⟨rfl, hpath⟩
  refine Decoder.Parses.next.bind ?_
  rintro c _ rfl
  split_ifs with hc
  · have hbool : (c != 0).toUInt8 = c := by
      have hlt : c.toNat < 2 := hc
      obtain rfl | rfl : c = 0 ∨ c = 1 := by
        rw [← UInt8.toNat_inj, ← UInt8.toNat_inj]
        show c.toNat = 0 ∨ c.toNat = 1
        omega
      · rfl
      · rfl
    exact .pure ⟨by simp [ConnectionInfo.bytes, hbool], hname, hpath⟩
  · exact .fail _

/-- **A response is read from its code**, and fits. -/
theorem DaemonResponseDecoder.parses_bytes : decode.Parses fun e m => e = m.bytes ∧ m.Fits := by
  refine Decoder.Parses.next.bind ?_
  rintro messageKind _ rfl
  split_ifs with h1 h2 h3 h4 h255
  · subst h1
    refine parses_decodeStr.bind ?_
    rintro path _ ⟨rfl, hpath⟩
    exact .pure ⟨by simp [DaemonResponse.bytes, DaemonResponse.body, DaemonResponse.msgType], hpath⟩
  · subst h2
    exact .pure ⟨rfl, trivial⟩
  · subst h3
    refine parses_getU16.bind ?_
    rintro count _ rfl
    refine (parses_decodeConn.collect count.toNat []).bind ?_
    rintro conns _ ⟨_, rfl, hlen, rfl, hfits⟩
    refine .pure ⟨?_, ?_, hfits⟩
    · simp [DaemonResponse.bytes, DaemonResponse.body, DaemonResponse.msgType, hlen]
    · rw [hlen]
      exact Nat.le_of_lt_succ count.toNat_lt
  · subst h4
    exact .pure ⟨rfl, trivial⟩
  · subst h255
    refine parses_decodeStr.bind ?_
    rintro text _ ⟨rfl, htext⟩
    exact .pure ⟨by simp [DaemonResponse.bytes, DaemonResponse.body, DaemonResponse.msgType], htext⟩
  · exact .fail _

end TcpUart
