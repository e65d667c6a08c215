import TcpUart.Lib.Machine
import TcpUart.Lib.Queue
import TcpUart.Codec.Device

/-! # The firmware (`server/main/tcp.c`, `server/main/uart.c`)
Three tasks share two bounded queues and an eventfd: `tcp_task` serves one client after the other,
`uart_rx_task` reads the UART, `uart_tx_task` writes it and carries out control requests. Each task
is a program counter; a step moves one task past one blocking call or one system call, whose outcome
is in the input, so that every interleaving and every outcome is a run.

A client socket is named by the number of its TCP session. What is only there for the proofs is
marked *ghost*: the message a queue entry stems from, and the count of messages read. -/

namespace TcpUart

open Reactive Framing

/-! ## Messages (`message.h`) -/

/-- `MESSAGE_KIND_DATA`. -/
def MESSAGE_KIND_DATA : UInt8 := 1
/-- `MESSAGE_KIND_CONFIG`. -/
def MESSAGE_KIND_CONFIG : UInt8 := 2
/-- `MESSAGE_KIND_CONTROL`. -/
def MESSAGE_KIND_CONTROL : UInt8 := 3
/-- `MESSAGE_KIND_RESPONSE`. -/
def MESSAGE_KIND_RESPONSE : UInt8 := 4
/-- `CONTROL_CMD_RESET`. -/
def CONTROL_CMD_RESET : UInt8 := 1
/-- `RESPONSE_STATUS_OK`. -/
def RESPONSE_STATUS_OK : UInt8 := 1
/-- `RESPONSE_STATUS_NOT_SUPPORTED`. -/
def RESPONSE_STATUS_NOT_SUPPORTED : UInt8 := 2

/-- `Message`: the two header bytes and the whole body array. -/
structure Message where
  /-- `hdr.kind`. -/
  kind : UInt8
  /-- `hdr.len`. -/
  len : UInt8
  /-- `body`; bytes past `len` are whatever was in memory. -/
  body : Block
  deriving DecidableEq

namespace Message

/-- The bytes of `hdr`. -/
def header (m : Message) : Bytes := [m.kind, m.len]

/-- The part of `body` that is sent, received and written to the UART. -/
def payload (m : Message) : Bytes := m.body.slice m.len.toNat

/-- The payload has the length of the header. -/
@[simp] theorem length_payload (m : Message) : m.payload.length = m.len.toNat := by
  have := m.len.toNat_lt
  rw [payload, Block.length_slice]
  simp only [maxMessageLen]
  omega

/-- The payload fits a frame. -/
theorem length_payload_le (m : Message) : m.payload.length ≤ maxMessageLen := by
  have := m.len.toNat_lt
  rw [length_payload]
  simp only [maxMessageLen]
  omega

/-- The message as it is on the wire. -/
def frame (m : Message) : Frame := ⟨m.kind, m.payload, m.length_payload_le⟩

/-- Header and body are the frame. -/
theorem bytes_frame (m : Message) : m.frame.bytes = m.header ++ m.payload := by
  show m.kind :: UInt8.ofNat m.payload.length :: m.payload = _
  rw [length_payload, UInt8.ofNat_toNat]
  rfl

end Message

/-- `ConfigMessage`: the body of a config message, as the C struct reads it. -/
structure ConfigMessage where
  /-- `baud_rate`, a native (little-endian) load of network-order bytes. -/
  baudRate : UInt32
  /-- `data_bits`. -/
  dataBits : UInt8
  /-- `stop_bits`. -/
  stopBits : UInt8
  /-- `parity`. -/
  parity : UInt8
  /-- `hw_flow_ctl`. -/
  hwFlowCtl : UInt8
  deriving DecidableEq

/-- `sizeof(ConfigMessage)`. -/
def sizeofConfigMessage : Nat := 8

/-- `sizeof(ControlMessage)`. -/
def sizeofControlMessage : Nat := 1

/-- A native 32-bit load on the (little-endian) device. -/
def loadU32 (a b c d : UInt8) : UInt32 := u32OfBytes d c b a

/-- `ntohl` on a little-endian machine: the four bytes are swapped. -/
def ntohl (v : UInt32) : UInt32 :=
  u32OfBytes (UInt8.ofNat v.toNat) (UInt8.ofNat (v.toNat / 256)) (UInt8.ofNat (v.toNat / 65536))
    (UInt8.ofNat (v.toNat / 16777216))

/-- `ntohl` of a native load reads the bytes most significant first. -/
theorem ntohl_loadU32 (a b c d : UInt8) : ntohl (loadU32 a b c d) = u32OfBytes a b c d := by
  have ha := a.toNat_lt
  have hb := b.toNat_lt
  have hc := c.toNat_lt
  have hd := d.toNat_lt
  have hload : (loadU32 a b c d).toNat
      = d.toNat * 16777216 + c.toNat * 65536 + b.toNat * 256 + a.toNat := by
    rw [loadU32, u32OfBytes, UInt32.toNat_ofNat', Nat.mod_eq_of_lt (by omega)]
  have h0 : UInt8.ofNat (loadU32 a b c d).toNat = a := by
    apply UInt8.toNat.inj
    rw [UInt8.toNat_ofNat', hload]
    omega
  have h1 : UInt8.ofNat ((loadU32 a b c d).toNat / 256) = b := by
    apply UInt8.toNat.inj
    rw [UInt8.toNat_ofNat', hload]
    omega
  have h2 : UInt8.ofNat ((loadU32 a b c d).toNat / 65536) = c := by
    apply UInt8.toNat.inj
    rw [UInt8.toNat_ofNat', hload]
    omega
  have h3 : UInt8.ofNat ((loadU32 a b c d).toNat / 16777216) = d := by
    apply UInt8.toNat.inj
    rw [UInt8.toNat_ofNat', hload]
    omega
  rw [ntohl, h0, h1, h2, h3]

/-- `(ConfigMessage*) msg.body`. -/
def ConfigMessage.ofBody (body : Block) : ConfigMessage :=
  let b := fun i => body.1.getD i 0
  ⟨loadU32 (b 0) (b 1) (b 2) (b 3), b 4, b 5, b 6, b 7⟩

/-- The settings of the UART driver. -/
structure UartSettings where
  /-- Baud rate. -/
  baudRate : UInt32
  /-- Word length in bits. -/
  wordLength : UInt8
  /-- Stop bits. -/
  stopBits : UInt8
  /-- Parity: 0 none, 1 odd, 2 even. -/
  parity : UInt8
  /-- CTS/RTS flow control. -/
  hwFlowCtrl : Bool
  deriving DecidableEq

/-- Build options (`Kconfig`). -/
structure DeviceConfig where
  /-- `CONFIG_ESP_UART_RESET_ENABLED`. -/
  resetEnabled : Bool
  /-- `CONFIG_ESP_UART_ALLOW_HW_FLOW_CTRL`. -/
  allowHwFlowCtrl : Bool
  deriving DecidableEq

/-- `apply_config`: a field with a value it does not know is left as it was. -/
def applyConfig (cfg : DeviceConfig) (config : ConfigMessage) (s : UartSettings) : UartSettings :=
  let s := { s with baudRate := ntohl config.baudRate }
  let s := if config.dataBits = 5 ∨ config.dataBits = 6 ∨ config.dataBits = 7 ∨ config.dataBits = 8
    then { s with wordLength := config.dataBits } else s
  let s := if config.stopBits = 1 ∨ config.stopBits = 2
    then { s with stopBits := config.stopBits } else s
  let s := if config.parity = 0 ∨ config.parity = 1 ∨ config.parity = 2
    then { s with parity := config.parity } else s
  if cfg.allowHwFlowCtrl then { s with hwFlowCtrl := config.hwFlowCtl ≠ 0 } else s

/-- The `cfg` of `uart_rx_task`: 115200 8N1 without flow control. -/
def UartSettings.initial : UartSettings := ⟨115200, 8, 1, 0, false⟩

/-! ## The state of the device -/

/-- Ghost: which message of which session an entry stems from, `(session, number)`. -/
abbrev Origin := Nat × Nat

/-- A queue entry: the message, and (ghost) the client message it is or answers, if any. -/
structure Entry where
  /-- What is in the queue. -/
  msg : Message
  /-- Ghost: where it stems from. -/
  origin : Option Origin
  deriving DecidableEq

/-- Where `tcp_task` is. -/
inductive TcpPc
  /-- Creating and binding the server socket. -/
  | setup
  /-- `vTaskDelete(NULL)` was called. -/
  | deleted
  /-- `accept`. -/
  | accept
  /-- The head of the loop of `handle_client`: `select`. -/
  | select
  /-- `read_all` of the header; `efd` is whether the eventfd was ready too. -/
  | readHdr (efd : Bool) (got : Bytes) (junk : Block)
  /-- `read_all` of the body. -/
  | readBody (efd : Bool) (kind len : UInt8) (got : Bytes) (junk : Block)
  /-- `xQueueSend` on `tcp_to_uart_queue`. -/
  | enqueue (efd : Bool) (e : Entry)
  /-- `read` of the eventfd. -/
  | readEfd
  /-- `xQueueReceive` on `uart_to_tcp_queue`. -/
  | drain
  /-- `send` of the header. -/
  | sendHdr (e : Entry)
  /-- `send` of the body. -/
  | sendBody (e : Entry)
  deriving DecidableEq

/-- Where `uart_rx_task` is. -/
inductive RxPc
  /-- `xQueueReceive` on the UART event queue. -/
  | waitEvent
  /-- `uart_read_bytes`, with the `buffered_len` it was told. -/
  | read (bufferedLen : Nat)
  /-- `xQueueSend` on `uart_to_tcp_queue`. -/
  | sendQ (m : Message)
  /-- `write` of the eventfd. -/
  | writeEfd
  deriving DecidableEq

/-- Where `uart_tx_task` is. -/
inductive TxPc
  /-- `xQueueReceive` on `tcp_to_uart_queue`. -/
  | recvQ
  /-- A message was received and is to be handled. -/
  | handle (e : Entry)
  /-- `handle_control`: the reset pin is active, `vTaskDelay` runs. -/
  | pulse (junk : Block) (o : Option Origin)
  /-- `handle_control`: `xQueueSend` on `uart_to_tcp_queue`. -/
  | sendResp (e : Entry)
  /-- `handle_control`: `write` of the eventfd. -/
  | writeEfd
  deriving DecidableEq

/-- Depth of `tcp_to_uart_queue`. -/
def tcpToUartDepth : Nat := 16

/-- Depth of `uart_to_tcp_queue`. -/
def uartToTcpDepth : Nat := 128

/-- Size of the receive buffer of the UART driver. -/
def uartRxBufferSize : Nat := 1024

/-- The device. -/
structure Device where
  /-- `tcp_to_uart_queue`. -/
  tcpToUart : BoundedQueue Entry tcpToUartDepth
  /-- `uart_to_tcp_queue`. -/
  uartToTcp : BoundedQueue Entry uartToTcpDepth
  /-- The counter of `uart_to_tcp_efd`. -/
  efd : Nat
  /-- The receive buffer of the UART driver. -/
  ring : Bytes
  /-- The settings of the UART driver. -/
  settings : UartSettings
  /-- Where `tcp_task` is. -/
  tcp : TcpPc
  /-- `client_sock`: the session accepted last. -/
  sock : Nat
  /-- Sessions are accepted in the order they were opened: the next one is at least this. -/
  nextSock : Nat
  /-- Ghost: messages read in this session. -/
  readCount : Nat
  /-- Where `uart_rx_task` is. -/
  rx : RxPc
  /-- Where `uart_tx_task` is. -/
  tx : TxPc
  /-- An `ESP_ERROR_CHECK` failed; the chip restarts, and the run is over. -/
  aborted : Bool

/-- `state_init`: the device as it boots. -/
def Device.init : Device where
  tcpToUart := .empty
  uartToTcp := .empty
  efd := 0
  ring := []
  settings := UartSettings.initial
  tcp := .setup
  sock := 0
  nextSock := 0
  readCount := 0
  rx := .waitEvent
  tx := .recvQ
  aborted := false

/-- Which task moves, and how its blocking call or system call ends. -/
inductive DevInput
  /-- `socket` and `bind` succeed or fail. -/
  | setup (ok : Bool)
  /-- `accept` returns the socket of a session, or fails. -/
  | accept (s : Option Nat)
  /-- `select` fails. -/
  | selectFail
  /-- `select` returns; `client` and `efd` are the two `FD_ISSET`s. `junk` is what the stack holds
  where `msg` will be. -/
  | select (client efd : Bool) (junk : Block)
  /-- `recv` returns bytes. -/
  | recv (bs : Bytes)
  /-- `recv` returns 0 or fails. -/
  | recvFail
  /-- `xQueueSend` on `tcp_to_uart_queue` returns. -/
  | tcpEnqueue
  /-- `read` of the eventfd returns. -/
  | readEfd
  /-- `xQueueReceive` on `uart_to_tcp_queue` with timeout 0 returns. -/
  | drain
  /-- `send` returns a count. -/
  | sendOk
  /-- `send` fails after `n` bytes went out. -/
  | sendFail (n : Nat)
  /-- Bytes arrive at the UART. -/
  | uartIn (bs : Bytes)
  /-- A UART event is received. -/
  | rxEvent (data : Bool)
  /-- `uart_read_bytes` returns `len` (0 also stands for an error). -/
  | rxRead (len : Nat) (junk : Block)
  /-- `xQueueSend` of `uart_rx_task` returns. -/
  | rxSend
  /-- The eventfd write of `uart_rx_task` returns. -/
  | rxWriteEfd
  /-- `xQueueReceive` on `tcp_to_uart_queue` returns. -/
  | txRecv
  /-- The message is handled; `fault` is whether an `ESP_ERROR_CHECK` of `apply_config` fails. -/
  | txHandle (junk : Block) (fault : Bool)
  /-- `vTaskDelay` of the reset pulse is over. -/
  | txPulseEnd
  /-- `xQueueSend` of `handle_control` returns. -/
  | txSend
  /-- The eventfd write of `handle_control` returns. -/
  | txWriteEfd
  deriving DecidableEq

/-- How a session ended. -/
inductive EndReason
  /-- `select` failed. -/
  | selectFailed
  /-- The client closed the connection, or `recv` failed. -/
  | recvFailed
  /-- `send` failed. -/
  | sendFailed
  deriving DecidableEq

/-- What a step of the device lets an observer see. -/
inductive DevObs
  /-- `accept` returned the socket of this session. -/
  | accepted (s : Nat)
  /-- `close(client_sock)`. -/
  | closed (s : Nat)
  /-- `handle_client` returned. -/
  | ended (s : Nat) (why : EndReason)
  /-- `recv` returned these bytes. -/
  | recv (s : Nat) (bs : Bytes)
  /-- `read_msg` returned this message, the `n`-th of the session. -/
  | msgRead (s n : Nat) (m : Message)
  /-- The message was put on `tcp_to_uart_queue`. -/
  | enqueued (s : Nat) (e : Entry)
  /-- The entry was taken from `uart_to_tcp_queue`. -/
  | dequeued (s : Nat) (e : Entry)
  /-- These bytes were sent. -/
  | sent (s : Nat) (bs : Bytes)
  /-- `uart_read_bytes` returned these bytes. -/
  | uartRead (bs : Bytes)
  /-- `uart_rx_task` put this message on `uart_to_tcp_queue`. -/
  | rxEnqueued (m : Message)
  /-- `uart_tx_task` took the entry from `tcp_to_uart_queue`. -/
  | txTaken (e : Entry)
  /-- `uart_write_bytes` was called with these bytes. -/
  | uartWrote (bs : Bytes)
  /-- `apply_config` was called with this. -/
  | configApplied (config : ConfigMessage)
  /-- The reset pulse for a request was carried out. -/
  | pulsed (o : Option Origin)
  /-- `handle_control` put its response on `uart_to_tcp_queue`. -/
  | responded (e : Entry)
  deriving DecidableEq

namespace Device

/-- The device with the observations of a step. -/
abbrev Out := Device × List DevObs

/-! ## `tcp_task` -/

/-- The message a complete `read_msg` leaves in `msg`. -/
def readMessage (kind len : UInt8) (body : Bytes) (junk : Block) : Message :=
  ⟨kind, len, junk.write body⟩

/-- `read_msg` returned 0: go on to `xQueueSend`. -/
def msgRead (d : Device) (efd : Bool) (m : Message) (obs : List DevObs) : Out :=
  ({ d with tcp := .enqueue efd ⟨m, some (d.sock, d.readCount)⟩, readCount := d.readCount + 1 },
    obs ++ [.msgRead d.sock d.readCount m])

/-- `break` in `handle_client`: it returns without closing the socket. -/
def leave (d : Device) (why : EndReason) : Out := ({ d with tcp := .accept }, [.ended d.sock why])

/-- `close(client_sock); return;` in `handle_client`. -/
def closeAndReturn (d : Device) (obs : List DevObs) : Out :=
  ({ d with tcp := .accept }, obs ++ [.closed d.sock, .ended d.sock .sendFailed])

/-- After the client part of the loop body: the eventfd part, or the loop head. -/
def afterClient (efd : Bool) : TcpPc := if efd then .readEfd else .select

/-- One step of `tcp_task`. -/
def stepTcp (d : Device) : DevInput → Option Out
  | .setup ok =>
      match d.tcp with
      | .setup => some ({ d with tcp := if ok then .accept else .deleted }, [])
      | _ => none
  | .accept r =>
      match d.tcp, r with
      -- a failed `accept` is logged, and the loop goes on
      | .accept, none => some (d, [])
      | .accept, some s =>
          -- connections are handed over in the order they were made; some are lost before
          if d.nextSock ≤ s then
            some ({ d with tcp := .select, sock := s, nextSock := s + 1, readCount := 0 },
              [.accepted s])
          else none
      | _, _ => none
  | .selectFail =>
      match d.tcp with
      | .select => some (d.leave .selectFailed)
      | _ => none
  | .select client efd junk =>
      match d.tcp with
      | .select =>
          -- an eventfd is readable when its counter is positive
          if efd = true ∧ d.efd = 0 then none
          else if client then some ({ d with tcp := .readHdr efd [] junk }, [])
          else if efd then some ({ d with tcp := .readEfd }, [])
          else none
      | _ => none
  | .recv bs =>
      match d.tcp with
      | .readHdr efd got junk =>
          if bs ≠ [] ∧ got.length + bs.length ≤ 2 then
            match got ++ bs with
            | [kind, len] =>
                -- `read_all` of no bytes returns at once
                if len = 0 then
                  some (d.msgRead efd (readMessage kind len [] junk) [.recv d.sock bs])
                else some ({ d with tcp := .readBody efd kind len [] junk }, [.recv d.sock bs])
            | got => some ({ d with tcp := .readHdr efd got junk }, [.recv d.sock bs])
          else none
      | .readBody efd kind len got junk =>
          if bs ≠ [] ∧ got.length + bs.length ≤ len.toNat then
            if (got ++ bs).length = len.toNat then
              some (d.msgRead efd (readMessage kind len (got ++ bs) junk) [.recv d.sock bs])
            else
              some ({ d with tcp := .readBody efd kind len (got ++ bs) junk }, [.recv d.sock bs])
          else none
      | _ => none
  | .recvFail =>
      match d.tcp with
      | .readHdr _ _ _ => some (d.leave .recvFailed)
      | .readBody _ _ _ _ _ => some (d.leave .recvFailed)
      | _ => none
  | .tcpEnqueue =>
      match d.tcp with
      | .enqueue efd e =>
          (d.tcpToUart.push e).map fun q =>
            ({ d with tcpToUart := q, tcp := afterClient efd }, [.enqueued d.sock e])
      | _ => none
  | .readEfd =>
      match d.tcp with
      -- reading an eventfd resets its counter
      | .readEfd => some ({ d with efd := 0, tcp := .drain }, [])
      | _ => none
  | .drain =>
      match d.tcp with
      | .drain =>
          match d.uartToTcp.pop with
          | none => some ({ d with tcp := .select }, [])
          | some (e, q) => some ({ d with uartToTcp := q, tcp := .sendHdr e }, [.dequeued d.sock e])
      | _ => none
  | .sendOk =>
      match d.tcp with
      | .sendHdr e => some ({ d with tcp := .sendBody e }, [.sent d.sock e.msg.header])
      | .sendBody e => some ({ d with tcp := .drain }, [.sent d.sock e.msg.payload])
      | _ => none
  | .sendFail n =>
      -- part of it may have gone out before the failure
      match d.tcp with
      | .sendHdr e => some (d.closeAndReturn [.sent d.sock (e.msg.header.take n)])
      | .sendBody e => some (d.closeAndReturn [.sent d.sock (e.msg.payload.take n)])
      | _ => none
  | _ => none

/-! ## `uart_rx_task` -/

/-- `uart_get_buffered_data_len` and the condition of the read loop. -/
def rxLoop (d : Device) : RxPc := if 0 < d.ring.length then .read d.ring.length else .waitEvent

/-- `to_read`: at most a message body. -/
def toRead (bufferedLen : Nat) : Nat :=
  if bufferedLen > maxMessageLen then maxMessageLen else bufferedLen

/-- What is read at once fits a message body. -/
theorem toRead_le (bufferedLen : Nat) : toRead bufferedLen ≤ maxMessageLen := by
  unfold toRead
  split <;> omega

/-- One step of `uart_rx_task`, or bytes arriving for it. -/
def stepRx (d : Device) : DevInput → Option Out
  | .uartIn bs =>
      -- what does not fit the buffer of the driver is lost before it is received
      if d.ring.length + bs.length ≤ uartRxBufferSize then
        some ({ d with ring := d.ring ++ bs }, [])
      else none
  | .rxEvent data =>
      match d.rx with
      | .waitEvent => some ({ d with rx := if data then d.rxLoop else .waitEvent }, [])
      | _ => none
  | .rxRead len junk =>
      match d.rx with
      | .read bufferedLen =>
          -- `uart_read_bytes` may return fewer bytes than asked for
          if len ≤ toRead bufferedLen ∧ len ≤ d.ring.length then
            if 0 < len then
              some ({ d with
                ring := d.ring.drop len
                rx := .sendQ ⟨MESSAGE_KIND_DATA, UInt8.ofNat len, junk.write (d.ring.take len)⟩ },
                [.uartRead (d.ring.take len)])
            else some ({ d with rx := d.rxLoop }, [])
          else none
      | _ => none
  | .rxSend =>
      match d.rx with
      | .sendQ m =>
          (d.uartToTcp.push ⟨m, none⟩).map fun q =>
            ({ d with uartToTcp := q, rx := .writeEfd }, [.rxEnqueued m])
      | _ => none
  | .rxWriteEfd =>
      match d.rx with
      | .writeEfd => some ({ d with efd := d.efd + 1, rx := d.rxLoop }, [])
      | _ => none
  | _ => none

/-! ## `uart_tx_task` -/

/-- The response `handle_control` builds. -/
def response (status : UInt8) (junk : Block) (o : Option Origin) : Entry :=
  ⟨⟨MESSAGE_KIND_RESPONSE, 1, junk.write [status]⟩, o⟩

/-- `handle_control`, up to its first blocking call. -/
def handleControl (cfg : DeviceConfig) (d : Device) (command : UInt8) (junk : Block)
    (o : Option Origin) : Device :=
  if command = CONTROL_CMD_RESET then
    if cfg.resetEnabled then { d with tx := .pulse junk o }
    else { d with tx := .sendResp (response RESPONSE_STATUS_NOT_SUPPORTED junk o) }
  else { d with tx := .sendResp (response RESPONSE_STATUS_NOT_SUPPORTED junk o) }

/-- The body of the loop of `uart_tx_task`, after `xQueueReceive`. -/
def handleMessage (cfg : DeviceConfig) (d : Device) (e : Entry) (junk : Block) (fault : Bool) :
    Out :=
  if e.msg.kind = MESSAGE_KIND_DATA then ({ d with tx := .recvQ }, [.uartWrote e.msg.payload])
  else if e.msg.kind = MESSAGE_KIND_CONFIG then
    if e.msg.len.toNat ≠ sizeofConfigMessage then ({ d with tx := .recvQ }, [])
    else
      let config := ConfigMessage.ofBody e.msg.body
      -- a failed `ESP_ERROR_CHECK` in `apply_config` aborts, and the chip restarts
      if fault then ({ d with aborted := true }, [.configApplied config])
      else
        ({ d with tx := .recvQ, settings := applyConfig cfg config d.settings },
          [.configApplied config])
  else if e.msg.kind = MESSAGE_KIND_CONTROL then
    if e.msg.len.toNat ≠ sizeofControlMessage then ({ d with tx := .recvQ }, [])
    else (d.handleControl cfg (e.msg.body.1.getD 0 0) junk e.origin, [])
  else ({ d with tx := .recvQ }, [])

/-- One step of `uart_tx_task`. -/
def stepTx (cfg : DeviceConfig) (d : Device) : DevInput → Option Out
  | .txRecv =>
      match d.tx with
      | .recvQ =>
          d.tcpToUart.pop.map fun r =>
            ({ d with tcpToUart := r.2, tx := .handle r.1 }, [.txTaken r.1])
      | _ => none
  | .txHandle junk fault =>
      match d.tx with
      | .handle e => some (d.handleMessage cfg e junk fault)
      | _ => none
  | .txPulseEnd =>
      match d.tx with
      | .pulse junk o =>
          some ({ d with tx := .sendResp (response RESPONSE_STATUS_OK junk o) }, [.pulsed o])
      | _ => none
  | .txSend =>
      match d.tx with
      | .sendResp e =>
          (d.uartToTcp.push e).map fun q =>
            ({ d with uartToTcp := q, tx := .writeEfd }, [.responded e])
      | _ => none
  | .txWriteEfd =>
      match d.tx with
      | .writeEfd => some ({ d with efd := d.efd + 1, tx := .recvQ }, [])
      | _ => none
  | _ => none

/-- One step of the device. -/
def step (cfg : DeviceConfig) (d : Device) (i : DevInput) : Option Out :=
  if d.aborted then none else (d.stepTcp i).or ((d.stepRx i).or (d.stepTx cfg i))

/-- The machine of the device. -/
def machine (cfg : DeviceConfig) : Machine Device DevInput DevObs := ⟨init, step cfg⟩

end Device

end TcpUart
