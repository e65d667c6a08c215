import TcpUart.Firmware.Device

/-! # What one step of the firmware can do
`Device.Step` lists the transitions of the three tasks with their guards; `step_cases` is the
inversion of the executable step function. Reading a message is seen as bytes that accumulate until
they are a frame, whatever way `recv` cuts them. -/

namespace TcpUart

open Reactive Framing

/-- Inside `read_msg`: whether the eventfd was ready too, and the bytes of the message read so
far. -/
def TcpPc.reading : TcpPc → Option (Bool × Bytes)
  | .readHdr efd got _ => some (efd, got)
  | .readBody efd kind len got _ => some (efd, kind :: len :: got)
  | _ => none

/-- The part of the entry in hand that `handle_client` sends next. -/
def TcpPc.sending : TcpPc → Option (Entry × Bytes)
  | .sendHdr e => some (e, e.msg.header)
  | .sendBody e => some (e, e.msg.payload)
  | _ => none

namespace Device

/-- The transitions of the device. -/
inductive Step (cfg : DeviceConfig) (d : Device) : DevInput → Device → List DevObs → Prop
  /-- The server socket is set up, or not. -/
  | setup (ok : Bool) (hpc : d.tcp = .setup) :
      Step cfg d (.setup ok) { d with tcp := if ok then .accept else .deleted } []
  /-- `accept` fails. -/
  | acceptFail (hpc : d.tcp = .accept) : Step cfg d (.accept none) d []
  /-- A client is accepted. -/
  | accept {s : Nat} (hpc : d.tcp = .accept) (hs : d.nextSock ≤ s) :
      Step cfg d (.accept (some s))
        { d with tcp := .select, sock := s, nextSock := s + 1, readCount := 0 } [.accepted s]
  /-- `select` fails. -/
  | selectFail (hpc : d.tcp = .select) :
      Step cfg d .selectFail { d with tcp := .accept } [.ended d.sock .selectFailed]
  /-- The client socket is readable. -/
  | selectClient {efd : Bool} {junk : Block} (hpc : d.tcp = .select)
      (hefd : efd = true → 0 < d.efd) :
      Step cfg d (.select true efd junk) { d with tcp := .readHdr efd [] junk } []
  /-- Only the eventfd is readable. -/
  | selectEfd {junk : Block} (hpc : d.tcp = .select) (hefd : 0 < d.efd) :
      Step cfg d (.select false true junk) { d with tcp := .readEfd } []
  /-- Part of a message is read. -/
  | recvMore {efd : Bool} {got bs : Bytes} {pc : TcpPc} (hr : d.tcp.reading = some (efd, got))
      (hbs : bs ≠ []) (hr' : pc.reading = some (efd, got ++ bs)) :
      Step cfg d (.recv bs) { d with tcp := pc } [.recv d.sock bs]
  /-- The rest of a message is read. -/
  | recvDone {efd : Bool} {got bs : Bytes} {m : Message} (hr : d.tcp.reading = some (efd, got))
      (hm : m.frame.bytes = got ++ bs) :
      Step cfg d (.recv bs)
        { d with
          tcp := .enqueue efd ⟨m, some (d.sock, d.readCount)⟩, readCount := d.readCount + 1 }
        [.recv d.sock bs, .msgRead d.sock d.readCount m]
  /-- The client is gone. -/
  | recvFail (hr : d.tcp.reading ≠ none) :
      Step cfg d .recvFail { d with tcp := .accept } [.ended d.sock .recvFailed]
  /-- The message is put on `tcp_to_uart_queue`. -/
  | enqueue {efd : Bool} {e : Entry} {q : BoundedQueue Entry tcpToUartDepth}
      (hpc : d.tcp = .enqueue efd e) (hq : d.tcpToUart.push e = some q) :
      Step cfg d .tcpEnqueue { d with tcpToUart := q, tcp := afterClient efd }
        [.enqueued d.sock e]
  /-- The eventfd is read. -/
  | readEfd (hpc : d.tcp = .readEfd) : Step cfg d .readEfd { d with efd := 0, tcp := .drain } []
  /-- `uart_to_tcp_queue` is found empty. -/
  | drainEmpty (hpc : d.tcp = .drain) (hq : d.uartToTcp.pop = none) :
      Step cfg d .drain { d with tcp := .select } []
  /-- An entry of `uart_to_tcp_queue` is taken. -/
  | drainTake {e : Entry} {q : BoundedQueue Entry uartToTcpDepth} (hpc : d.tcp = .drain)
      (hq : d.uartToTcp.pop = some (e, q)) :
      Step cfg d .drain { d with uartToTcp := q, tcp := .sendHdr e } [.dequeued d.sock e]
  /-- The header is sent. -/
  | sendHdr {e : Entry} (hpc : d.tcp = .sendHdr e) :
      Step cfg d .sendOk { d with tcp := .sendBody e } [.sent d.sock e.msg.header]
  /-- The body is sent. -/
  | sendBody {e : Entry} (hpc : d.tcp = .sendBody e) :
      Step cfg d .sendOk { d with tcp := .drain } [.sent d.sock e.msg.payload]
  /-- Sending fails, possibly after some bytes. -/
  | sendFail {n : Nat} {e : Entry} {bs : Bytes} (hpc : d.tcp.sending = some (e, bs)) :
      Step cfg d (.sendFail n) { d with tcp := .accept }
        [.sent d.sock (bs.take n), .closed d.sock, .ended d.sock .sendFailed]
  /-- Bytes arrive at the UART. -/
  | uartIn {bs : Bytes} (hfit : d.ring.length + bs.length ≤ uartRxBufferSize) :
      Step cfg d (.uartIn bs) { d with ring := d.ring ++ bs } []
  /-- A UART event is received. -/
  | rxEvent {data : Bool} (hpc : d.rx = .waitEvent) :
      Step cfg d (.rxEvent data) { d with rx := if data then d.rxLoop else .waitEvent } []
  /-- UART bytes are read. -/
  | rxRead {n len : Nat} {junk : Block} (hpc : d.rx = .read n) (hpos : 0 < len)
      (hle : len ≤ maxMessageLen) (hring : len ≤ d.ring.length) :
      Step cfg d (.rxRead len junk)
        { d with
          ring := d.ring.drop len
          rx := .sendQ ⟨MESSAGE_KIND_DATA, UInt8.ofNat len, junk.write (d.ring.take len)⟩ }
        [.uartRead (d.ring.take len)]
  /-- No UART bytes are read. -/
  | rxReadNone {n : Nat} {junk : Block} (hpc : d.rx = .read n) :
      Step cfg d (.rxRead 0 junk) { d with rx := d.rxLoop } []
  /-- UART bytes are put on `uart_to_tcp_queue`. -/
  | rxSend {m : Message} {q : BoundedQueue Entry uartToTcpDepth} (hpc : d.rx = .sendQ m)
      (hq : d.uartToTcp.push ⟨m, none⟩ = some q) :
      Step cfg d .rxSend { d with uartToTcp := q, rx := .writeEfd } [.rxEnqueued m]
  /-- `uart_rx_task` writes the eventfd. -/
  | rxWriteEfd (hpc : d.rx = .writeEfd) :
      Step cfg d .rxWriteEfd { d with efd := d.efd + 1, rx := d.rxLoop } []
  /-- `uart_tx_task` takes a message. -/
  | txRecv {e : Entry} {q : BoundedQueue Entry tcpToUartDepth} (hpc : d.tx = .recvQ)
      (hq : d.tcpToUart.pop = some (e, q)) :
      Step cfg d .txRecv { d with tcpToUart := q, tx := .handle e } [.txTaken e]
  /-- Data is written to the UART. -/
  | txData {e : Entry} {junk : Block} {fault : Bool} (hpc : d.tx = .handle e)
      (hk : e.msg.kind = MESSAGE_KIND_DATA) :
      Step cfg d (.txHandle junk fault) { d with tx := .recvQ } [.uartWrote e.msg.payload]
  /-- Settings are applied. -/
  | txConfig {e : Entry} {junk : Block} {settings : UartSettings} {aborted : Bool} {tx : TxPc}
      {fault : Bool} (hpc : d.tx = .handle e) (hk : e.msg.kind = MESSAGE_KIND_CONFIG)
      (hlen : e.msg.len.toNat = sizeofConfigMessage)
      (hres : (fault = true ∧ aborted = true ∧ tx = d.tx ∧ settings = d.settings) ∨
        (fault = false ∧ aborted = d.aborted ∧ tx = .recvQ ∧
          settings = applyConfig cfg (ConfigMessage.ofBody e.msg.body) d.settings)) :
      Step cfg d (.txHandle junk fault)
        { d with tx := tx, settings := settings, aborted := aborted }
        [.configApplied (ConfigMessage.ofBody e.msg.body)]
  /-- A message is skipped: of an unknown kind, or of a wrong length. -/
  | txSkip {e : Entry} {junk : Block} {fault : Bool} (hpc : d.tx = .handle e)
      (hk : e.msg.kind ≠ MESSAGE_KIND_DATA)
      (hcfg : e.msg.kind = MESSAGE_KIND_CONFIG → e.msg.len.toNat ≠ sizeofConfigMessage)
      (hctl : e.msg.kind = MESSAGE_KIND_CONTROL → e.msg.len.toNat ≠ sizeofControlMessage) :
      Step cfg d (.txHandle junk fault) { d with tx := .recvQ } []
  /-- `handle_control` begins the reset pulse. -/
  | txPulse {e : Entry} {junk : Block} {fault : Bool} (hpc : d.tx = .handle e)
      (hk : e.msg.kind = MESSAGE_KIND_CONTROL) (hlen : e.msg.len.toNat = sizeofControlMessage)
      (hreset : e.msg.body.1.getD 0 0 = CONTROL_CMD_RESET) (hcfg : cfg.resetEnabled = true) :
      Step cfg d (.txHandle junk fault) { d with tx := .pulse junk e.origin } []
  /-- `handle_control` declines. -/
  | txDecline {e : Entry} {junk : Block} {fault : Bool} (hpc : d.tx = .handle e)
      (hk : e.msg.kind = MESSAGE_KIND_CONTROL) (hlen : e.msg.len.toNat = sizeofControlMessage) :
      Step cfg d (.txHandle junk fault)
        { d with tx := .sendResp (response RESPONSE_STATUS_NOT_SUPPORTED junk e.origin) } []
  /-- The reset pulse is over. -/
  | txPulseEnd {junk : Block} {o : Option Origin} (hpc : d.tx = .pulse junk o) :
      Step cfg d .txPulseEnd { d with tx := .sendResp (response RESPONSE_STATUS_OK junk o) }
        [.pulsed o]
  /-- The response is put on `uart_to_tcp_queue`. -/
  | txSend {e : Entry} {q : BoundedQueue Entry uartToTcpDepth} (hpc : d.tx = .sendResp e)
      (hq : d.uartToTcp.push e = some q) :
      Step cfg d .txSend { d with uartToTcp := q, tx := .writeEfd } [.responded e]
  /-- `handle_control` writes the eventfd. -/
  | txWriteEfd (hpc : d.tx = .writeEfd) :
      Step cfg d .txWriteEfd { d with efd := d.efd + 1, tx := .recvQ } []

/-! ## Inversion of the step function -/

/-- A message whose body was read completely is on the wire what was read. -/
theorem bytes_readMessage {kind len : UInt8} {body : Bytes} {junk : Block}
    (h : body.length = len.toNat) :
    (readMessage kind len body junk).frame.bytes = kind :: len :: body := by
  have hlt := len.toNat_lt
  rw [Message.bytes_frame]
  show kind :: len :: (junk.write body).slice len.toNat = _
  rw [Block.slice_write junk h (by simp only [maxMessageLen]; omega)]

/-- Inversion of a `recv` inside `read_msg`. -/
theorem recv_cases {cfg : DeviceConfig} {d d' : Device} {bs : Bytes} {out : List DevObs}
    (h : d.stepTcp (.recv bs) = some (d', out)) : Step cfg d (.recv bs) d' out := by
  simp only [stepTcp] at h
  split at h
  · rename_i efd got junk hpc
    have hr : d.tcp.reading = some (efd, got) := by rw [hpc]; rfl
    split at h
    · rename_i hbs
      split at h
      · rename_i kind len hgot
        split at h
        · rename_i hlen
          cases h
          refine Step.recvDone hr ?_
          rw [hgot, hlen]
          exact bytes_readMessage rfl
        · cases h
          exact Step.recvMore hr hbs.1 (by rw [hgot]; rfl)
      · cases h
        exact Step.recvMore hr hbs.1 rfl
    · cases h
  · rename_i efd kind len got junk hpc
    have hr : d.tcp.reading = some (efd, kind :: len :: got) := by rw [hpc]; rfl
    split at h
    · rename_i hbs
      split at h
      · rename_i hlen
        cases h
        exact Step.recvDone hr (bytes_readMessage hlen)
      · cases h
        exact Step.recvMore hr hbs.1 rfl
    · cases h
  · cases h

/-- Inversion of the steps of `tcp_task`. -/
theorem stepTcp_cases {cfg : DeviceConfig} {d d' : Device} {i : DevInput} {out : List DevObs}
    (h : d.stepTcp i = some (d', out)) : Step cfg d i d' out := by
  cases i with
  | setup ok =>
      simp only [stepTcp] at h
      split at h
      · rename_i hpc
        cases h
        exact Step.setup ok hpc
      · cases h
  | accept r =>
      simp only [stepTcp] at h
      split at h
      · rename_i hpc
        cases h
        exact Step.acceptFail hpc
      · rename_i s hpc
        split at h
        · rename_i hs
          cases h
          exact Step.accept hpc hs
        · cases h
      · cases h
  | selectFail =>
      simp only [stepTcp] at h
      split at h
      · rename_i hpc
        cases h
        exact Step.selectFail hpc
      · cases h
  | select client efd junk =>
      simp only [stepTcp] at h
      split at h
      · rename_i hpc
        split at h
        · cases h
        · rename_i hefd
          -- an eventfd is readable when its counter is positive
          have hpos : efd = true → 0 < d.efd := by
            intro he
            by_contra hz
            exact hefd ⟨he, by omega⟩
          cases client with
          | true =>
              cases h
              exact Step.selectClient hpc hpos
          | false =>
              cases efd with
              | true =>
                  cases h
                  exact Step.selectEfd hpc (hpos rfl)
              | false => cases h
      · cases h
  | recv bs => exact recv_cases h
  | recvFail =>
      simp only [stepTcp] at h
      split at h
      · rename_i hpc
        cases h
        exact Step.recvFail (by rw [hpc]; exact Option.some_ne_none _)
      · rename_i hpc
        cases h
        exact Step.recvFail (by rw [hpc]; exact Option.some_ne_none _)
      · cases h
  | tcpEnqueue =>
      simp only [stepTcp] at h
      split at h
      · rename_i efd e hpc
        obtain ⟨q, hq, heq⟩ := Option.map_eq_some_iff.mp h
        cases heq
        exact Step.enqueue hpc hq
      · cases h
  | readEfd =>
      simp only [stepTcp] at h
      split at h
      · rename_i hpc
        cases h
        exact Step.readEfd hpc
      · cases h
  | drain =>
      simp only [stepTcp] at h
      split at h
      · rename_i hpc
        split at h
        · rename_i hq
          cases h
          exact Step.drainEmpty hpc hq
        · rename_i e q hq
          cases h
          exact Step.drainTake hpc hq
      · cases h
  | sendOk =>
      simp only [stepTcp] at h
      split at h
      · rename_i e hpc
        cases h
        exact Step.sendHdr hpc
      · rename_i e hpc
        cases h
        exact Step.sendBody hpc
      · cases h
  | sendFail n =>
      simp only [stepTcp] at h
      split at h
      · rename_i e hpc
        cases h
        exact @Step.sendFail _ _ _ e e.msg.header (by rw [hpc]; rfl)
      · rename_i e hpc
        cases h
        exact @Step.sendFail _ _ _ e e.msg.payload (by rw [hpc]; rfl)
      · cases h
  | _ => cases h

/-- Inversion of the steps of `uart_rx_task`. -/
theorem stepRx_cases {cfg : DeviceConfig} {d d' : Device} {i : DevInput} {out : List DevObs}
    (h : d.stepRx i = some (d', out)) : Step cfg d i d' out := by
  cases i with
  | uartIn bs =>
      simp only [stepRx] at h
      split at h
      · rename_i hfit
        cases h
        exact Step.uartIn hfit
      · cases h
  | rxEvent data =>
      simp only [stepRx] at h
      split at h
      · rename_i hpc
        cases h
        exact Step.rxEvent hpc
      · cases h
  | rxRead len junk =>
      simp only [stepRx] at h
      split at h
      · rename_i n hpc
        split at h
        · rename_i hle
          split at h
          · rename_i hpos
            cases h
            exact Step.rxRead hpc hpos (Nat.le_trans hle.1 (toRead_le n)) hle.2
          · rename_i hzero
            obtain rfl : len = 0 := by omega
            cases h
            exact Step.rxReadNone hpc
        · cases h
      · cases h
  | rxSend =>
      simp only [stepRx] at h
      split at h
      · rename_i m hpc
        obtain ⟨q, hq, heq⟩ := Option.map_eq_some_iff.mp h
        cases heq
        exact Step.rxSend hpc hq
      · cases h
  | rxWriteEfd =>
      simp only [stepRx] at h
      split at h
      · rename_i hpc
        cases h
        exact Step.rxWriteEfd hpc
      · cases h
  | _ => cases h

/-- Inversion of the body of the loop of `uart_tx_task`. -/
theorem handleMessage_cases {cfg : DeviceConfig} {d : Device} {e : Entry} (hpc : d.tx = .handle e)
    (junk : Block) (fault : Bool) :
    Step cfg d (.txHandle junk fault) (d.handleMessage cfg e junk fault).1
      (d.handleMessage cfg e junk fault).2 := by
  unfold handleMessage
  split
  · rename_i hk
    exact Step.txData hpc hk
  · rename_i hdata
    split
    · rename_i hk
      have hctl : e.msg.kind = MESSAGE_KIND_CONTROL → e.msg.len.toNat ≠ sizeofControlMessage := by
        intro hc
        rw [hk] at hc
        exact absurd hc (by decide)
      split
      · rename_i hlen
        exact Step.txSkip hpc hdata (fun _ => hlen) hctl
      · rename_i hlen
        have hlen' : e.msg.len.toNat = sizeofConfigMessage := not_not.mp hlen
        cases fault with
        | true => exact Step.txConfig hpc hk hlen' (.inl ⟨rfl, rfl, rfl, rfl⟩)
        | false => exact Step.txConfig hpc hk hlen' (.inr ⟨rfl, rfl, rfl, rfl⟩)
    · rename_i hcfg
      split
      · rename_i hk
        split
        · rename_i hlen
          exact Step.txSkip hpc hdata (fun hc => absurd hc hcfg) fun _ => hlen
        · rename_i hlen
          have hlen' : e.msg.len.toNat = sizeofControlMessage := not_not.mp hlen
          unfold handleControl
          split
          · rename_i hreset
            split
            · rename_i hen
              exact Step.txPulse hpc hk hlen' hreset hen
            · exact Step.txDecline hpc hk hlen'
          · exact Step.txDecline hpc hk hlen'
      · rename_i hctl
        exact Step.txSkip hpc hdata (fun hc => absurd hc hcfg) fun hc => absurd hc hctl

/-- Inversion of the steps of `uart_tx_task`. -/
theorem stepTx_cases {cfg : DeviceConfig} {d d' : Device} {i : DevInput} {out : List DevObs}
    (h : d.stepTx cfg i = some (d', out)) : Step cfg d i d' out := by
  cases i with
  | txRecv =>
      simp only [stepTx] at h
      split at h
      · rename_i hpc
        obtain ⟨⟨e, q⟩, hq, heq⟩ := Option.map_eq_some_iff.mp h
        cases heq
        exact Step.txRecv hpc hq
      · cases h
  | txHandle junk fault =>
      simp only [stepTx] at h
      split at h
      · rename_i e hpc
        have := @handleMessage_cases cfg _ _ hpc junk fault
        rw [Option.some.injEq] at h
        rwa [h] at this
      · cases h
  | txPulseEnd =>
      simp only [stepTx] at h
      split at h
      · rename_i junk o hpc
        cases h
        exact Step.txPulseEnd hpc
      · cases h
  | txSend =>
      simp only [stepTx] at h
      split at h
      · rename_i e hpc
        obtain ⟨q, hq, heq⟩ := Option.map_eq_some_iff.mp h
        cases heq
        exact Step.txSend hpc hq
      · cases h
  | txWriteEfd =>
      simp only [stepTx] at h
      split at h
      · rename_i hpc
        cases h
        exact Step.txWriteEfd hpc
      · cases h
  | _ => cases h

/-- **Inversion of the step function.** Every step of the device is one of the listed
transitions. -/
theorem step_cases {cfg : DeviceConfig} {d d' : Device} {i : DevInput} {out : List DevObs}
    (h : d.step cfg i = some (d', out)) : Step cfg d i d' out := by
  unfold step at h
  split at h
  · cases h
  · rw [Option.or_eq_some_iff, Option.or_eq_some_iff] at h
    rcases h with h | ⟨-, h | ⟨-, h⟩⟩
    · exact stepTcp_cases h
    · exact stepRx_cases h
    · exact stepTx_cases h

end Device

end TcpUart
