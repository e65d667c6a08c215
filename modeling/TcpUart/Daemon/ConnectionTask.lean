import TcpUart.Lib.Machine
import TcpUart.Codec.Device
import TcpUart.Daemon.AsyncPty

/-! # The connection task (`daemon/src/connection.rs`, `daemon/src/tcp_bridge.rs`)
One `ConnectionTask` bridges a PTY and a device. The source is an async state machine: `conn_task`
calls `step` until the state is `ShuttingDown`, each step awaits one `select!` or one operation,
and everything the task waits for is decided outside of it. The model keeps that shape: `Pc` is the
await the task is suspended in, `TaskInput` is what resolves it (which branch of a `select!` won and
with what result), and `ConnectionTask.step` runs the task up to its next await.

What the task does to the world is its list of observations `TaskObs`: bytes written to and read
from TCP sessions, replies to requests, bytes written to the PTY. A TCP session is named by its
number: the bridge counts the streams it has opened. -/

namespace TcpUart

open Reactive Framing

/-! ## The TCP bridge -/

/-- `Framed<TcpStream, DeviceCodec>`: the stream with its write and read buffers. -/
structure Framed where
  /-- Which session this is: the streams opened by the bridge, in order. -/
  session : Nat
  /-- Encoded bytes not yet written to the stream. -/
  writeBuf : Bytes
  /-- Bytes read from the stream and not yet decoded. -/
  readBuf : Bytes
  deriving DecidableEq

/-- `TcpBridge`. -/
structure TcpBridge where
  /-- Address of the device. -/
  addr : UInt32
  /-- Port of the device. -/
  port : UInt16
  /-- The open connection, if any. -/
  framed : Option Framed
  /-- Number of streams opened so far; the next one gets this number. -/
  opened : Nat
  deriving DecidableEq

/-- `TcpBridge::new`. -/
def TcpBridge.new (addr : UInt32) (port : UInt16) : TcpBridge := ⟨addr, port, none, 0⟩

/-! ## Requests, states, await points -/

/-- A `oneshot` channel on which a requester waits. -/
abbrev ReplyId := Nat

/-- `DeviceControlError`. -/
inductive DeviceControlError
  /-- The device is currently unavailable (disconnected or busy). -/
  | unavailable
  deriving DecidableEq

/-- `ConnectionTaskRequest`. -/
inductive ConnectionTaskRequest
  /-- Ask the device to do something; the answer goes to `tx`. -/
  | hardwareControl (ctl : DeviceControlRequest) (tx : ReplyId)
  /-- Ask whether the device is connected; the answer goes to `tx`. -/
  | status (tx : ReplyId)
  deriving DecidableEq

/-- What a hardware-control request is answered with. -/
abbrev CtlReply := Except DeviceControlError DeviceControlResponse

/-- `std::time::Duration`, in nanoseconds. -/
abbrev Duration := Nat

/-- `Duration::MAX`. -/
def Duration.maxValue : Duration := 18446744073709551615 * 1000000000 + 999999999

/-- `Duration::from_millis`. -/
def Duration.fromMillis (ms : Nat) : Duration := ms * 1000000

/-- `backoff * n`, which panics when the product does not fit a `Duration`. -/
def Duration.checkedMul (d : Duration) (n : Nat) : Option Duration :=
  if d * n ≤ Duration.maxValue then some (d * n) else none

/-- `INITIAL_RECONNECT_BACKOFF`. -/
def initialReconnectBackoff : Duration := Duration.fromMillis 100

/-- `MAX_RECONNECT_BACKOFF`. -/
def maxReconnectBackoff : Duration := Duration.fromMillis 5000

/-- `ConnectionTask::next_backoff`; `none` is the overflow panic. -/
def nextBackoff (backoff : Duration) : Option Duration :=
  (backoff.checkedMul 2).map (min · maxReconnectBackoff)

/-- `ConnState`. -/
inductive ConnState
  /-- The device is connected. -/
  | connected
  /-- Waiting to connect again; `pending` could not be sent. -/
  | reconnecting (backoff : Duration) (pending : Option DeviceMessage)
  /-- Connected again, sending the message that could not be sent. -/
  | resyncing (pending : DeviceMessage)
  /-- The task is about to end. -/
  | shuttingDown
  deriving DecidableEq

/-- The await in which `conn_task` is suspended, with the locals that live across it. -/
inductive Pc
  /-- The head of the loop of `conn_task`: a step boundary. -/
  | top
  /-- The `select!` of `step_connected`. -/
  | connectedSelect
  /-- `self.tcp.send(msg)` for a message read from the PTY. -/
  | connectedSend (msg : DeviceMessage)
  /-- `self.tcp.send(ControlReq(ctl))` for the request to be answered on `tx`. -/
  | connectedCtlSend (ctl : DeviceControlRequest) (tx : ReplyId)
  /-- `self.master.write_all`, with the bytes still to be written. -/
  | connectedWrite (rest : Bytes)
  /-- The `select!` of `step_reconnecting`. -/
  | reconnectSelect (backoff : Duration) (pending : Option DeviceMessage)
  /-- `self.tcp.try_connect()`. -/
  | reconnectConnect (backoff : Duration) (pending : Option DeviceMessage)
  /-- The `select!` of `step_resyncing`, with `self.tcp.send(pending)` under way. -/
  | resyncSelect (pending : DeviceMessage)
  /-- `self.event_tx.send(ConnectionClosed(..))` in `shutdown`. -/
  | shutdownSend
  /-- `conn_task` has returned. -/
  | exited
  /-- An `unreachable!()` arm or an arithmetic overflow was hit. -/
  | panicked
  deriving DecidableEq

/-- `ConnectionTask`, with the await it is suspended in. The receivers `shutdown_rx` and
`ctl_req_rx` and the sender `event_tx` belong to the environment. -/
structure ConnectionTask where
  /-- Name of the connection. -/
  connName : String
  /-- The PTY master. -/
  master : AsyncPty
  /-- The TCP side. -/
  tcp : TcpBridge
  /-- The state of the state machine. -/
  state : ConnState
  /-- The buffer PTY reads go to. -/
  ptyBuf : Block
  /-- Who waits for the answer to the control request in progress. -/
  pendingHwCtl : Option ReplyId
  /-- Where the task is suspended. -/
  pc : Pc
  deriving DecidableEq

/-- How `TcpStream::connect` and `set_nodelay` in `try_connect` ended. -/
inductive ConnectResult
  /-- Both succeeded. -/
  | ok
  /-- `connect` failed. -/
  | err
  /-- `connect` succeeded, `set_nodelay` failed: the stream is dropped. -/
  | nodelayErr
  deriving DecidableEq

/-- What resolves an await of the task. -/
inductive TaskInput
  /-- Go on from the head of the loop of `conn_task`. -/
  | resume
  /-- `shutdown_rx` resolves. -/
  | shutdown
  /-- The `readv` in `master.read` returns; `fault` is the error of a termios call, if any. -/
  | ptyReadv (r : Readv) (fault : Option IoError)
  /-- Inside `tcp.next()`: the stream yields bytes. -/
  | tcpRecv (bs : Bytes)
  /-- `tcp.next()` resolves from what is in the read buffer. -/
  | tcpNext
  /-- `tcp.next()` resolves because the stream ended or failed. -/
  | tcpEnd
  /-- `ctl_req_rx.recv()` yields a request. -/
  | ctlReq (req : ConnectionTaskRequest)
  /-- `ctl_req_rx.recv()` yields `None`. -/
  | ctlClosed
  /-- The reconnect sleep is over. -/
  | sleepElapsed
  /-- `try_connect` gets this far. -/
  | connect (r : ConnectResult)
  /-- Inside `tcp.send`: the stream takes `n` bytes of the write buffer. -/
  | tcpWrite (n : Nat)
  /-- `tcp.send` resolves: everything is written. -/
  | tcpSent
  /-- `tcp.send` resolves with an error. -/
  | tcpSendErr
  /-- Inside `master.write_all`: the PTY takes `n` bytes. -/
  | ptyWrite (n : Nat)
  /-- `master.write_all` fails. -/
  | ptyWriteErr
  /-- `event_tx.send` resolves. -/
  | notified
  /-- The application on the slave side sets its termios. -/
  | slaveSet (tio : Termios)
  deriving DecidableEq

/-- What a step of the task lets an observer see. -/
inductive TaskObs
  /-- `master.read` returned data or a settings change. -/
  | ptyRead (r : PtyRead)
  /-- `tcp.send(msg)` was called and `msg` encoded for the session; `tx` is the requester if `msg`
  is a control request. -/
  | sendStart (session : Nat) (msg : DeviceMessage) (tx : Option ReplyId)
  /-- The session took these bytes. -/
  | wrote (session : Nat) (bs : Bytes)
  /-- `tcp.send(msg)` returned `Ok`. -/
  | sendOk (session : Nat) (msg : DeviceMessage)
  /-- `tcp.send` or `tcp.next` reported "not connected". -/
  | notConnected
  /-- `try_connect` returned early because a connection was there. -/
  | alreadyConnected
  /-- A stream was opened. -/
  | opened (session : Nat)
  /-- The stream was dropped. -/
  | closed (session : Nat)
  /-- `try_connect` returned `Disconnected`. -/
  | connectFailed
  /-- The session yielded these bytes. -/
  | recv (session : Nat) (bs : Bytes)
  /-- `tcp.next()` returned this message. -/
  | received (session : Nat) (msg : DeviceMessage)
  /-- `decode` rejected the bytes of the session. -/
  | decodeError (session : Nat) (e : IoError)
  /-- A `ControlRes` was received; `answered` is the request it was given to, if any. -/
  | controlRes (session : Nat) (res : DeviceControlResponse) (answered : Option ReplyId)
  /-- The PTY took these bytes. -/
  | ptyWrote (bs : Bytes)
  /-- Writing to the PTY failed. -/
  | ptyWriteError
  /-- A hardware-control request was taken from `ctl_req_rx`. -/
  | ctlReceived (tx : ReplyId)
  /-- A hardware-control request was answered. -/
  | ctlReply (tx : ReplyId) (r : CtlReply)
  /-- A status request was answered. -/
  | statusReply (tx : ReplyId) (connected : Bool)
  /-- `self.state` was set. -/
  | enter (st : ConnState)
  /-- `ConnectionClosed(name)` was sent to the main loop. -/
  | connectionClosed (name : String)
  deriving DecidableEq

/-- `DeviceMessage` built from what `master.read` returned. -/
def PtyRead.message : PtyRead → DeviceMessage
  | .data bs => DeviceMessage.ofSlice bs
  | .termios c => .config c.baudrate c.dataBits c.stopBits c.parity c.hwFlowCtl

/-! ## Bridge operations -/

/-- How a call of `TcpBridge::send` starts. -/
inductive SendCall
  /-- The message is encoded into the write buffer of the session; the call goes on to flush it. -/
  | started (tcp : TcpBridge) (session : Nat)
  /-- The call returns `Disconnected` at once. -/
  | disconnected (tcp : TcpBridge) (obs : List TaskObs)

/-- The start of `TcpBridge::send`, up to its first await. -/
def TcpBridge.send (b : TcpBridge) (msg : DeviceMessage) : SendCall :=
  match b.framed with
  | none => .disconnected b [.notConnected]
  | some f =>
      match DeviceCodec.encode msg f.writeBuf with
      | .ok buf => .started { b with framed := some { f with writeBuf := buf } } f.session
      | .error _ => .disconnected { b with framed := none } [.closed f.session]

/-- Sending without a connection reports "not connected". -/
theorem TcpBridge.send_none {b : TcpBridge} (h : b.framed = none) (msg : DeviceMessage) :
    b.send msg = .disconnected b [.notConnected] := by
  rw [TcpBridge.send, h]

/-- Sending on a connection puts the frame of the message into the write buffer. -/
theorem TcpBridge.send_some {b : TcpBridge} {f : Framed} (h : b.framed = some f)
    (msg : DeviceMessage) :
    b.send msg = .started
      { b with framed := some { f with writeBuf := f.writeBuf ++ msg.frame.bytes } } f.session := by
  simp only [TcpBridge.send, h, DeviceCodec.encode_eq]

/-- The flush inside `Framed::send` writes `n` bytes. -/
def TcpBridge.flush (b : TcpBridge) (n : Nat) : Option (TcpBridge × List TaskObs) :=
  match b.framed with
  | none => none
  | some f =>
      if 0 < n ∧ n ≤ f.writeBuf.length then
        some ({ b with framed := some { f with writeBuf := f.writeBuf.drop n } },
          [.wrote f.session (f.writeBuf.take n)])
      else none

/-- `self.framed = None`, which drops the stream. -/
def TcpBridge.drop (b : TcpBridge) : TcpBridge := { b with framed := none }

namespace ConnectionTask

/-- The task with the observations of a step. -/
abbrev Out := ConnectionTask × List TaskObs

/-- `ConnectionTask::fail_pending_ctl`. -/
def failPendingCtl (t : ConnectionTask) : Out :=
  match t.pendingHwCtl with
  | some tx => ({ t with pendingHwCtl := none }, [.ctlReply tx (.error .unavailable)])
  | none => (t, [])

/-- The end of `ConnectionTask::step`: the state is set if the step returned one. -/
def finish (t : ConnectionTask) (next : Option ConnState) (obs : List TaskObs) : Out :=
  match next with
  | none => ({ t with pc := .top }, obs)
  | some st => ({ t with pc := .top, state := st }, obs ++ [.enter st])

/-- The `Disconnected(e)` arms of `step_connected`: fail the request in progress and reconnect. -/
def lose (t : ConnectionTask) (tcp : TcpBridge) (pending : Option DeviceMessage)
    (obs : List TaskObs) : Out :=
  let (t, failed) := failPendingCtl { t with tcp := tcp }
  t.finish (some (.reconnecting initialReconnectBackoff pending)) (obs ++ failed)

/-- `step_connected` on `Ok(TermiosChange(c))` and `Ok(Data(n))`: send the message. -/
def forward (t : ConnectionTask) (r : PtyRead) : Out :=
  match t.tcp.send r.message with
  | .started tcp s =>
      ({ t with tcp := tcp, pc := .connectedSend r.message },
        [.ptyRead r, .sendStart s r.message none])
  | .disconnected tcp obs => t.lose tcp (some r.message) (.ptyRead r :: obs)

/-- The PTY and the buffer after one turn of the loop in `master.read`. -/
def afterReadv (t : ConnectionTask) (r : Readv) (fault : Option IoError) : ConnectionTask :=
  { t with
    master := (t.master.handle t.ptyBuf fault r).pty
    ptyBuf := (t.master.handle t.ptyBuf fault r).buf }

/-- The `master.read` branch of `step_connected`. `readv` never returns more than the buffer
holds. -/
def onPtyReadv (t : ConnectionTask) (r : Readv) (fault : Option IoError) : Option Out :=
  if r.size ≤ maxMessageLen then
    let t' := t.afterReadv r fault
    match (t.master.handle t.ptyBuf fault r).result with
    -- nothing to report: the loop in `master.read` goes round
    | none => some (t', [])
    | some (.ok (.termiosChange c)) => some (t'.forward (.termios c))
    | some (.ok (.data n)) => some (t'.forward (.data (t'.ptyBuf.slice n)))
    | some (.ok (.controlMessage _)) => some (t'.finish none [])
    | some (.error _) => some (t'.finish (some .shuttingDown) [])
  else none

/-- `step_connected` on a message from the device. `write_all` of no bytes returns at once. -/
def onMessage (t : ConnectionTask) (s : Nat) (msg : DeviceMessage) : Out :=
  match msg with
  | .data size data =>
      let rest := data.slice size.toNat
      if rest = [] then t.finish none [.received s msg]
      else ({ t with pc := .connectedWrite rest }, [.received s msg])
  | .controlRes res =>
      -- `pending_hw_ctl.take()`: whatever response comes next is the answer
      match t.pendingHwCtl with
      | some tx =>
          finish { t with pendingHwCtl := none } none
            [.received s msg, .controlRes s res (some tx), .ctlReply tx (.ok res)]
      | none => t.finish none [.received s msg, .controlRes s res none]
  | _ => t.finish none [.received s msg]

/-- The `tcp.next` branch of `step_connected`, when the read buffer decides. -/
def onTcpNext (t : ConnectionTask) : Option Out :=
  match t.tcp.framed with
  | none => some (t.lose t.tcp none [.notConnected])
  | some f =>
      match DeviceCodec.decode f.readBuf with
      | .incomplete => none
      | .error e => some (t.lose t.tcp.drop none [.decodeError f.session e, .closed f.session])
      | .item msg rest =>
          let t := { t with tcp := { t.tcp with framed := some { f with readBuf := rest } } }
          some (t.onMessage f.session msg)

/-- The `ctl_req_rx.recv` branch of `step_connected` on a hardware-control request. -/
def onHardwareControl (t : ConnectionTask) (ctl : DeviceControlRequest) (tx : ReplyId) : Out :=
  -- one request at a time: a second one is refused
  if t.pendingHwCtl.isSome then
    t.finish none [.ctlReceived tx, .ctlReply tx (.error .unavailable)]
  else
    match t.tcp.send (.controlReq ctl) with
    | .started tcp s =>
        ({ t with tcp := tcp, pc := .connectedCtlSend ctl tx },
          [.ctlReceived tx, .sendStart s (.controlReq ctl) (some tx)])
    | .disconnected tcp obs =>
        finish { t with tcp := tcp } (some (.reconnecting initialReconnectBackoff none))
          (.ctlReceived tx :: (obs ++ [.ctlReply tx (.error .unavailable)]))

/-- The `select!` of `step_connected`. -/
def stepConnected (t : ConnectionTask) : TaskInput → Option Out
  | .shutdown => some (t.finish (some .shuttingDown) [])
  | .ptyReadv r fault => t.onPtyReadv r fault
  | .tcpRecv bs =>
      match t.tcp.framed with
      | none => none
      | some f =>
          -- `Framed` reads on only when its buffer holds no whole frame
          if bs ≠ [] ∧ DeviceCodec.decode f.readBuf = .incomplete then
            some ({ t with tcp := { t.tcp with
              framed := some { f with readBuf := f.readBuf ++ bs } } }, [.recv f.session bs])
          else none
  | .tcpNext => t.onTcpNext
  | .tcpEnd =>
      match t.tcp.framed with
      | none => none
      | some f =>
          if DeviceCodec.decode f.readBuf = .incomplete then
            some (t.lose t.tcp.drop none [.closed f.session])
          else none
  | .ctlReq (.hardwareControl ctl tx) => some (t.onHardwareControl ctl tx)
  | .ctlReq (.status tx) => some (t.finish none [.statusReply tx true])
  | .ctlClosed => some (t.finish (some .shuttingDown) [])
  | _ => none

/-- `self.tcp.send(msg)` of `step_connected` for a message read from the PTY. -/
def awaitSend (t : ConnectionTask) (msg : DeviceMessage) : TaskInput → Option Out
  | .tcpWrite n => (t.tcp.flush n).map fun r => ({ t with tcp := r.1 }, r.2)
  | .tcpSent =>
      match t.tcp.framed with
      | none => none
      | some f => if f.writeBuf = [] then some (t.finish none [.sendOk f.session msg]) else none
  | .tcpSendErr =>
      match t.tcp.framed with
      | none => none
      | some f => some (t.lose t.tcp.drop (some msg) [.closed f.session])
  | _ => none

/-- `self.tcp.send(ControlReq(ctl))` of `step_connected`. Unlike the other ways to lose the
connection, the failure arm does not call `fail_pending_ctl`. -/
def awaitCtlSend (t : ConnectionTask) (ctl : DeviceControlRequest) (tx : ReplyId) :
    TaskInput → Option Out
  | .tcpWrite n => (t.tcp.flush n).map fun r => ({ t with tcp := r.1 }, r.2)
  | .tcpSent =>
      match t.tcp.framed with
      | none => none
      | some f =>
          -- the request is pending from when it was sent, not from when it began
          if f.writeBuf = [] then
            some (finish { t with pendingHwCtl := some tx } none
              [.sendOk f.session (.controlReq ctl)])
          else none
  | .tcpSendErr =>
      match t.tcp.framed with
      | none => none
      | some f =>
          some (finish { t with tcp := t.tcp.drop }
            (some (.reconnecting initialReconnectBackoff none))
            [.closed f.session, .ctlReply tx (.error .unavailable)])
  | _ => none

/-- `self.master.write_all(..)` of `step_connected`. -/
def awaitWrite (t : ConnectionTask) (rest : Bytes) : TaskInput → Option Out
  | .ptyWrite n =>
      if 0 < n ∧ n ≤ rest.length then
        if rest.drop n = [] then some (t.finish none [.ptyWrote (rest.take n)])
        else some ({ t with pc := .connectedWrite (rest.drop n) }, [.ptyWrote (rest.take n)])
      else none
  | .ptyWriteErr => some (t.finish (some .shuttingDown) [.ptyWriteError])
  | _ => none

/-- The branches that the `select!`s of `step_reconnecting` and `step_resyncing` share: shut down,
or serve a request and stay in the loop. -/
def serveOffline (t : ConnectionTask) : TaskInput → Option Out
  | .shutdown => some (t.finish (some .shuttingDown) [])
  | .ctlReq (.hardwareControl _ tx) =>
      some (t, [.ctlReceived tx, .ctlReply tx (.error .unavailable)])
  | .ctlReq (.status tx) => some (t, [.statusReply tx false])
  | .ctlClosed => some (t.finish (some .shuttingDown) [])
  | _ => none

/-- `step_reconnecting` after `try_connect` returned `Ok`. -/
def reconnected (pending : Option DeviceMessage) : ConnState :=
  match pending with
  | some pending => .resyncing pending
  | none => .connected

/-- The `select!` of `step_reconnecting` and the start of `try_connect` after it. -/
def awaitReconnect (t : ConnectionTask) (backoff : Duration) (pending : Option DeviceMessage) :
    TaskInput → Option Out
  | .sleepElapsed =>
      if t.tcp.framed.isSome then
        some (t.finish (some (reconnected pending)) [.alreadyConnected])
      else some ({ t with pc := .reconnectConnect backoff pending }, [])
  | i => t.serveOffline i

/-- `step_reconnecting` after `try_connect` returned `Disconnected`. -/
def reconnectFailed (t : ConnectionTask) (backoff : Duration) (pending : Option DeviceMessage)
    (obs : List TaskObs) : Out :=
  match nextBackoff backoff with
  | some next => t.finish (some (.reconnecting next pending)) (obs ++ [.connectFailed])
  -- `backoff * 2` panics on overflow
  | none => ({ t with pc := .panicked }, obs ++ [.connectFailed])

/-- `self.tcp.try_connect()` of `step_reconnecting`. -/
def awaitConnect (t : ConnectionTask) (backoff : Duration) (pending : Option DeviceMessage) :
    TaskInput → Option Out
  | .connect .ok =>
      let s := t.tcp.opened
      some (finish { t with tcp := { t.tcp with framed := some ⟨s, [], []⟩, opened := s + 1 } }
        (some (reconnected pending)) [.opened s])
  | .connect .err => some (t.reconnectFailed backoff pending [])
  | .connect .nodelayErr =>
      -- a failed `set_nodelay` drops the stream that was just opened
      let s := t.tcp.opened
      some ({ t with tcp := { t.tcp with opened := s + 1 } }.reconnectFailed backoff pending
        [.opened s, .closed s])
  | _ => none

/-- The `select!` of `step_resyncing`. -/
def awaitResync (t : ConnectionTask) (pending : DeviceMessage) : TaskInput → Option Out
  | .tcpWrite n => (t.tcp.flush n).map fun r => ({ t with tcp := r.1 }, r.2)
  | .tcpSent =>
      match t.tcp.framed with
      | none => none
      | some f =>
          if f.writeBuf = [] then some (t.finish (some .connected) [.sendOk f.session pending])
          else none
  | .tcpSendErr =>
      match t.tcp.framed with
      | none => none
      | some f =>
          some (finish { t with tcp := t.tcp.drop }
            (some (.reconnecting initialReconnectBackoff (some pending))) [.closed f.session])
  | i => t.serveOffline i

/-- The start of `step_reconnecting`: the locals are copied out of `self.state`. -/
def enterReconnecting (t : ConnectionTask) : Out :=
  match t.state with
  | .reconnecting backoff pending => ({ t with pc := .reconnectSelect backoff pending }, [])
  | _ => ({ t with pc := .panicked }, [])

/-- The start of `step_resyncing`: the message is copied out of `self.state` and its sending
begins. -/
def enterResyncing (t : ConnectionTask) : Out :=
  match t.state with
  | .resyncing pending =>
      match t.tcp.send pending with
      | .started tcp s =>
          ({ t with tcp := tcp, pc := .resyncSelect pending }, [.sendStart s pending none])
      | .disconnected tcp obs =>
          finish { t with tcp := tcp }
            (some (.reconnecting initialReconnectBackoff (some pending))) obs
  | _ => ({ t with pc := .panicked }, [])

/-- `ConnectionTask::should_close`. -/
def shouldClose (t : ConnectionTask) : Bool := t.state = .shuttingDown

/-- The loop head of `conn_task`: leave the loop for `shutdown`, or start the next step. -/
def resume (t : ConnectionTask) : Out :=
  if t.shouldClose then
    let (t, failed) := t.failPendingCtl
    ({ t with pc := .shutdownSend }, failed)
  else
    match t.state with
    | .connected => ({ t with pc := .connectedSelect }, [])
    | .reconnecting _ _ => t.enterReconnecting
    | .resyncing _ => t.enterResyncing
    -- not reached: `should_close` holds
    | .shuttingDown => (t, [])

/-- One step of the task: the await it is suspended in is resolved by `i`, and it runs to the next
one. The slave application may set its termios at any time. -/
def step (t : ConnectionTask) (i : TaskInput) : Option Out :=
  match i with
  | .slaveSet tio => some ({ t with master := { t.master with slaveTio := tio } }, [])
  | i =>
      match t.pc with
      | .top => if i = .resume then some t.resume else none
      | .connectedSelect => t.stepConnected i
      | .connectedSend msg => t.awaitSend msg i
      | .connectedCtlSend ctl tx => t.awaitCtlSend ctl tx i
      | .connectedWrite rest => t.awaitWrite rest i
      | .reconnectSelect backoff pending => t.awaitReconnect backoff pending i
      | .reconnectConnect backoff pending => t.awaitConnect backoff pending i
      | .resyncSelect pending => t.awaitResync pending i
      | .shutdownSend =>
          if i = .notified then
            some ({ t with pc := .exited }, [.connectionClosed t.connName])
          else none
      | .exited => none
      | .panicked => none

/-- `Connection::build_and_spawn`: the task as it is spawned. -/
def spawn (name : String) (addr : UInt32) (port : UInt16) (master : AsyncPty) : ConnectionTask where
  connName := name
  master := master
  tcp := TcpBridge.new addr port
  state := .reconnecting initialReconnectBackoff none
  ptyBuf := Block.zero
  pendingHwCtl := none
  pc := .top

/-- The machine of one connection task. -/
def machine (t₀ : ConnectionTask) : Machine ConnectionTask TaskInput TaskObs := ⟨t₀, step⟩

end ConnectionTask

end TcpUart
