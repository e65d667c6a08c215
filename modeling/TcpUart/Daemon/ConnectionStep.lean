import TcpUart.Daemon.ConnectionTask

/-! # What one step of the connection task can do
`ConnectionTask.Step` lists every transition of the task with the guard it is taken under, the state
it leads to and what it lets an observer see. `step_cases` is the inversion of the executable step
function: every invariant of the task is a case analysis over `Step` and never unfolds the step
function itself. -/

namespace TcpUart

open Reactive Framing

/-- A read result that is forwarded: data of 1 to 255 bytes, or settings. -/
def PtyRead.Fits : PtyRead → Prop
  | .data bs => bs ≠ [] ∧ bs.length ≤ maxMessageLen
  | .termios _ => True

/-- The bridge after the frame of `msg` went into the write buffer of `f`. -/
def TcpBridge.queue (b : TcpBridge) (f : Framed) (msg : DeviceMessage) : TcpBridge :=
  { b with framed := some { f with writeBuf := f.writeBuf ++ msg.frame.bytes } }

/-- The message an await of `tcp.send` is sending. -/
def Pc.sending : Pc → Option DeviceMessage
  | .connectedSend msg => some msg
  | .connectedCtlSend ctl _ => some (.controlReq ctl)
  | .resyncSelect pending => some pending
  | _ => none

/-- The two `select!`s that answer requests while the device is not connected. -/
def Pc.Offline : Pc → Prop
  | .reconnectSelect _ _ => True
  | .resyncSelect _ => True
  | _ => False

namespace ConnectionTask

/-- The reply `fail_pending_ctl` gives, if a request is in progress. -/
def failReplies (t : ConnectionTask) : List TaskObs :=
  match t.pendingHwCtl with
  | some tx => [.ctlReply tx (.error .unavailable)]
  | none => []

/-- `fail_pending_ctl` clears the slot and answers who waits. -/
theorem failPendingCtl_eq (t : ConnectionTask) :
    t.failPendingCtl = ({ t with pendingHwCtl := none }, t.failReplies) := by
  unfold failPendingCtl failReplies
  cases t with
  | mk _ _ _ _ _ pending _ => cases pending <;> rfl

/-- The task back at the loop head in state `st`. -/
def enter (t : ConnectionTask) (st : ConnState) : ConnectionTask :=
  { t with pc := .top, state := st }

/-- The task back at the loop head in the state it was in. -/
def again (t : ConnectionTask) : ConnectionTask := { t with pc := .top }

/-- The state entered when a connection is lost. -/
def lostState (pending : Option DeviceMessage) : ConnState :=
  .reconnecting initialReconnectBackoff pending

/-- The transitions of the connection task. -/
inductive Step (t : ConnectionTask) : TaskInput → ConnectionTask → List TaskObs → Prop
  /-- The slave application sets its termios. -/
  | slaveSet (tio : Termios) :
      Step t (.slaveSet tio) { t with master := { t.master with slaveTio := tio } } []
  /-- The loop of `conn_task` is left and `shutdown` begins. -/
  | close (hpc : t.pc = .top) (hst : t.state = .shuttingDown) :
      Step t .resume { t with pendingHwCtl := none, pc := .shutdownSend } t.failReplies
  /-- `step_connected` begins. -/
  | beginConnected (hpc : t.pc = .top) (hst : t.state = .connected) :
      Step t .resume { t with pc := .connectedSelect } []
  /-- `step_reconnecting` begins. -/
  | beginReconnecting {b : Duration} {p : Option DeviceMessage} (hpc : t.pc = .top)
      (hst : t.state = .reconnecting b p) :
      Step t .resume { t with pc := .reconnectSelect b p } []
  /-- `step_resyncing` begins to send the pending message. -/
  | beginResyncing {p : DeviceMessage} {f : Framed} (hpc : t.pc = .top)
      (hst : t.state = .resyncing p) (hf : t.tcp.framed = some f) :
      Step t .resume { t with tcp := t.tcp.queue f p, pc := .resyncSelect p }
        [.sendStart f.session p none]
  /-- `step_resyncing` finds no connection. -/
  | beginResyncingOff {p : DeviceMessage} (hpc : t.pc = .top) (hst : t.state = .resyncing p)
      (hf : t.tcp.framed = none) :
      Step t .resume (t.enter (lostState (some p))) [.notConnected, .enter (lostState (some p))]
  /-- The shutdown signal, or the end of the request channel, wins a `select!`. -/
  | stop {i : TaskInput} (hpc : t.pc = .connectedSelect ∨ t.pc.Offline)
      (hi : i = .shutdown ∨ i = .ctlClosed) :
      Step t i (t.enter .shuttingDown) [.enter .shuttingDown]
  /-- `master.read` goes round its loop. -/
  | ptyAgain {r : Readv} {fault : Option IoError} (hpc : t.pc = .connectedSelect) :
      Step t (.ptyReadv r fault) (t.afterReadv r fault) []
  /-- `master.read` returns something to forward, data being all of what `readv` returned, and its
  sending begins. -/
  | ptyForward {r : Readv} {fault : Option IoError} {rd : PtyRead} {f : Framed}
      (hpc : t.pc = .connectedSelect) (hfit : rd.Fits) (hf : t.tcp.framed = some f)
      (hrd : ∀ bs, rd = .data bs → r = .packet 0 bs) :
      Step t (.ptyReadv r fault)
        { t.afterReadv r fault with
          tcp := t.tcp.queue f rd.message, pc := .connectedSend rd.message }
        [.ptyRead rd, .sendStart f.session rd.message none]
  /-- `master.read` returns something to forward, and there is no connection. -/
  | ptyForwardOff {r : Readv} {fault : Option IoError} {rd : PtyRead}
      (hpc : t.pc = .connectedSelect) (hfit : rd.Fits) (hf : t.tcp.framed = none)
      (hrd : ∀ bs, rd = .data bs → r = .packet 0 bs) :
      Step t (.ptyReadv r fault)
        ({ t.afterReadv r fault with pendingHwCtl := none }.enter (lostState (some rd.message)))
        (.ptyRead rd :: .notConnected :: (t.failReplies ++ [.enter (lostState (some rd.message))]))
  /-- `master.read` returns another control byte. -/
  | ptyControl {r : Readv} {fault : Option IoError} (hpc : t.pc = .connectedSelect) :
      Step t (.ptyReadv r fault) (t.afterReadv r fault).again []
  /-- `master.read` fails. -/
  | ptyErr {r : Readv} {fault : Option IoError} (hpc : t.pc = .connectedSelect) :
      Step t (.ptyReadv r fault) ((t.afterReadv r fault).enter .shuttingDown)
        [.enter .shuttingDown]
  /-- Bytes of the session arrive in the read buffer. -/
  | tcpRecv {bs : Bytes} {f : Framed} (hpc : t.pc = .connectedSelect)
      (hf : t.tcp.framed = some f) (hbs : bs ≠ [])
      (hdec : DeviceCodec.decode f.readBuf = .incomplete) :
      Step t (.tcpRecv bs)
        { t with tcp := { t.tcp with framed := some { f with readBuf := f.readBuf ++ bs } } }
        [.recv f.session bs]
  /-- `tcp.next` finds no connection. -/
  | nextOff (hpc : t.pc = .connectedSelect) (hf : t.tcp.framed = none) :
      Step t .tcpNext ({ t with pendingHwCtl := none }.enter (lostState none))
        (.notConnected :: (t.failReplies ++ [.enter (lostState none)]))
  /-- `tcp.next` rejects what it read. -/
  | nextError {f : Framed} {e : IoError} (hpc : t.pc = .connectedSelect)
      (hf : t.tcp.framed = some f) (hdec : DeviceCodec.decode f.readBuf = .error e) :
      Step t .tcpNext ({ t with tcp := t.tcp.drop, pendingHwCtl := none }.enter (lostState none))
        (.decodeError f.session e :: .closed f.session ::
          (t.failReplies ++ [.enter (lostState none)]))
  /-- `tcp.next` returns data, which is to be written to the PTY. -/
  | nextData {f : Framed} {size : UInt8} {data : Block} {rest : Bytes}
      (hpc : t.pc = .connectedSelect) (hf : t.tcp.framed = some f)
      (hdec : DeviceCodec.decode f.readBuf = .item (.data size data) rest)
      (hne : data.slice size.toNat ≠ []) :
      Step t .tcpNext
        { t with
          tcp := { t.tcp with framed := some { f with readBuf := rest } }
          pc := .connectedWrite (data.slice size.toNat) }
        [.received f.session (.data size data)]
  /-- `tcp.next` returns an answer to the request in progress. -/
  | nextAnswer {f : Framed} {res : DeviceControlResponse} {rest : Bytes} {tx : ReplyId}
      (hpc : t.pc = .connectedSelect) (hf : t.tcp.framed = some f)
      (hdec : DeviceCodec.decode f.readBuf = .item (.controlRes res) rest)
      (hp : t.pendingHwCtl = some tx) :
      Step t .tcpNext
        { t with
          tcp := { t.tcp with framed := some { f with readBuf := rest } }
          pendingHwCtl := none, pc := .top }
        [.received f.session (.controlRes res), .controlRes f.session res (some tx),
          .ctlReply tx (.ok res)]
  /-- `tcp.next` returns an answer nobody waits for. -/
  | nextUnsolicited {f : Framed} {res : DeviceControlResponse} {rest : Bytes}
      (hpc : t.pc = .connectedSelect) (hf : t.tcp.framed = some f)
      (hdec : DeviceCodec.decode f.readBuf = .item (.controlRes res) rest)
      (hp : t.pendingHwCtl = none) :
      Step t .tcpNext
        { t with tcp := { t.tcp with framed := some { f with readBuf := rest } }, pc := .top }
        [.received f.session (.controlRes res), .controlRes f.session res none]
  /-- `tcp.next` returns a message with nothing to do: empty data, or one the daemon does not
  expect. -/
  | nextIgnored {f : Framed} {msg : DeviceMessage} {rest : Bytes}
      (hpc : t.pc = .connectedSelect) (hf : t.tcp.framed = some f)
      (hdec : DeviceCodec.decode f.readBuf = .item msg rest)
      (hres : ∀ res, msg ≠ .controlRes res) (hdata : msg.kind = 1 → msg.payload = []) :
      Step t .tcpNext
        { t with tcp := { t.tcp with framed := some { f with readBuf := rest } }, pc := .top }
        [.received f.session msg]
  /-- The session ends or fails while being read. -/
  | tcpEnd {f : Framed} (hpc : t.pc = .connectedSelect) (hf : t.tcp.framed = some f)
      (hdec : DeviceCodec.decode f.readBuf = .incomplete) :
      Step t .tcpEnd ({ t with tcp := t.tcp.drop, pendingHwCtl := none }.enter (lostState none))
        (.closed f.session :: (t.failReplies ++ [.enter (lostState none)]))
  /-- A control request arrives while another one is in progress. -/
  | ctlBusy {ctl : DeviceControlRequest} {tx tx' : ReplyId} (hpc : t.pc = .connectedSelect)
      (hp : t.pendingHwCtl = some tx') :
      Step t (.ctlReq (.hardwareControl ctl tx)) t.again
        [.ctlReceived tx, .ctlReply tx (.error .unavailable)]
  /-- A control request arrives and its sending begins. -/
  | ctlSend {ctl : DeviceControlRequest} {tx : ReplyId} {f : Framed}
      (hpc : t.pc = .connectedSelect) (hp : t.pendingHwCtl = none) (hf : t.tcp.framed = some f) :
      Step t (.ctlReq (.hardwareControl ctl tx))
        { t with tcp := t.tcp.queue f (.controlReq ctl), pc := .connectedCtlSend ctl tx }
        [.ctlReceived tx, .sendStart f.session (.controlReq ctl) (some tx)]
  /-- A control request arrives and there is no connection. -/
  | ctlSendOff {ctl : DeviceControlRequest} {tx : ReplyId} (hpc : t.pc = .connectedSelect)
      (hp : t.pendingHwCtl = none) (hf : t.tcp.framed = none) :
      Step t (.ctlReq (.hardwareControl ctl tx)) (t.enter (lostState none))
        [.ctlReceived tx, .notConnected, .ctlReply tx (.error .unavailable),
          .enter (lostState none)]
  /-- A status request is answered while connected. -/
  | ctlStatus {tx : ReplyId} (hpc : t.pc = .connectedSelect) :
      Step t (.ctlReq (.status tx)) t.again [.statusReply tx true]
  /-- The session takes bytes of the message being sent. -/
  | write {n : Nat} {msg : DeviceMessage} {f : Framed} (hsend : t.pc.sending = some msg)
      (hf : t.tcp.framed = some f) (hpos : 0 < n) (hle : n ≤ f.writeBuf.length) :
      Step t (.tcpWrite n)
        { t with tcp := { t.tcp with framed := some { f with writeBuf := f.writeBuf.drop n } } }
        [.wrote f.session (f.writeBuf.take n)]
  /-- A message read from the PTY has been sent. -/
  | sent {msg : DeviceMessage} {f : Framed} (hpc : t.pc = .connectedSend msg)
      (hf : t.tcp.framed = some f) (hbuf : f.writeBuf = []) :
      Step t .tcpSent t.again [.sendOk f.session msg]
  /-- Sending a message read from the PTY failed. -/
  | sendErr {msg : DeviceMessage} {f : Framed} (hpc : t.pc = .connectedSend msg)
      (hf : t.tcp.framed = some f) :
      Step t .tcpSendErr
        ({ t with tcp := t.tcp.drop, pendingHwCtl := none }.enter (lostState (some msg)))
        (.closed f.session :: (t.failReplies ++ [.enter (lostState (some msg))]))
  /-- A control request has been sent; its answer is awaited. -/
  | ctlSent {ctl : DeviceControlRequest} {tx : ReplyId} {f : Framed}
      (hpc : t.pc = .connectedCtlSend ctl tx) (hf : t.tcp.framed = some f)
      (hbuf : f.writeBuf = []) :
      Step t .tcpSent { t with pendingHwCtl := some tx, pc := .top }
        [.sendOk f.session (.controlReq ctl)]
  /-- Sending a control request failed. -/
  | ctlSendErr {ctl : DeviceControlRequest} {tx : ReplyId} {f : Framed}
      (hpc : t.pc = .connectedCtlSend ctl tx) (hf : t.tcp.framed = some f) :
      Step t .tcpSendErr ({ t with tcp := t.tcp.drop }.enter (lostState none))
        [.closed f.session, .ctlReply tx (.error .unavailable), .enter (lostState none)]
  /-- The PTY takes the last bytes of a message. -/
  | ptyWriteLast {rest : Bytes} (hpc : t.pc = .connectedWrite rest) (hne : rest ≠ []) {n : Nat}
      (hn : rest.length ≤ n) : Step t (.ptyWrite n) t.again [.ptyWrote rest]
  /-- The PTY takes some bytes of a message. -/
  | ptyWrite {rest : Bytes} {n : Nat} (hpc : t.pc = .connectedWrite rest) (hpos : 0 < n)
      (hlt : n < rest.length) :
      Step t (.ptyWrite n) { t with pc := .connectedWrite (rest.drop n) } [.ptyWrote (rest.take n)]
  /-- Writing to the PTY fails. -/
  | ptyWriteErr {rest : Bytes} (hpc : t.pc = .connectedWrite rest) :
      Step t .ptyWriteErr (t.enter .shuttingDown) [.ptyWriteError, .enter .shuttingDown]
  /-- A control request is refused while not connected. -/
  | offlineCtl {ctl : DeviceControlRequest} {tx : ReplyId} (hpc : t.pc.Offline) :
      Step t (.ctlReq (.hardwareControl ctl tx)) t
        [.ctlReceived tx, .ctlReply tx (.error .unavailable)]
  /-- A status request is answered while not connected. -/
  | offlineStatus {tx : ReplyId} (hpc : t.pc.Offline) :
      Step t (.ctlReq (.status tx)) t [.statusReply tx false]
  /-- The reconnect sleep is over and `try_connect` begins. -/
  | elapsed {b : Duration} {p : Option DeviceMessage} (hpc : t.pc = .reconnectSelect b p)
      (hf : t.tcp.framed = none) :
      Step t .sleepElapsed { t with pc := .reconnectConnect b p } []
  /-- `try_connect` finds a connection. -/
  | elapsedConnected {b : Duration} {p : Option DeviceMessage} {f : Framed}
      (hpc : t.pc = .reconnectSelect b p) (hf : t.tcp.framed = some f) :
      Step t .sleepElapsed (t.enter (reconnected p)) [.alreadyConnected, .enter (reconnected p)]
  /-- `try_connect` succeeds. -/
  | connectOk {b : Duration} {p : Option DeviceMessage} (hpc : t.pc = .reconnectConnect b p) :
      Step t (.connect .ok)
        ({ t with
          tcp := { t.tcp with framed := some ⟨t.tcp.opened, [], []⟩, opened := t.tcp.opened + 1 }
          }.enter (reconnected p))
        [.opened t.tcp.opened, .enter (reconnected p)]
  /-- `try_connect` fails, before or after a stream was opened. -/
  | connectFail {r : ConnectResult} {b next : Duration} {p : Option DeviceMessage}
      {obs : List TaskObs} {opened : Nat}
      (hpc : t.pc = .reconnectConnect b p) (hnext : nextBackoff b = some next)
      (hobs : (r = .err ∧ obs = [] ∧ opened = t.tcp.opened) ∨
        (r = .nodelayErr ∧ obs = [.opened t.tcp.opened, .closed t.tcp.opened] ∧
          opened = t.tcp.opened + 1)) :
      Step t (.connect r)
        ({ t with tcp := { t.tcp with opened := opened } }.enter (.reconnecting next p))
        (obs ++ [.connectFailed, .enter (.reconnecting next p)])
  /-- The doubling of the backoff overflows. -/
  | overflow {r : ConnectResult} {b : Duration} {p : Option DeviceMessage} {t' : ConnectionTask}
      {obs : List TaskObs} (hpc : t.pc = .reconnectConnect b p) (hnext : nextBackoff b = none) :
      Step t (.connect r) t' obs
  /-- The pending message has been sent. -/
  | resynced {p : DeviceMessage} {f : Framed} (hpc : t.pc = .resyncSelect p)
      (hf : t.tcp.framed = some f) (hbuf : f.writeBuf = []) :
      Step t .tcpSent (t.enter .connected) [.sendOk f.session p, .enter .connected]
  /-- Sending the pending message failed. -/
  | resyncErr {p : DeviceMessage} {f : Framed} (hpc : t.pc = .resyncSelect p)
      (hf : t.tcp.framed = some f) :
      Step t .tcpSendErr ({ t with tcp := t.tcp.drop }.enter (lostState (some p)))
        [.closed f.session, .enter (lostState (some p))]
  /-- The main loop is told that the connection is closed. -/
  | notified (hpc : t.pc = .shutdownSend) :
      Step t .notified { t with pc := .exited } [.connectionClosed t.connName]

/-! ## Inversion of the step function -/

/-- `lose` clears the slot, answers who waits and reconnects. -/
theorem lose_eq (t : ConnectionTask) (tcp : TcpBridge) (pending : Option DeviceMessage)
    (obs : List TaskObs) :
    t.lose tcp pending obs
      = ({ t with tcp := tcp, pendingHwCtl := none }.enter (lostState pending),
          obs ++ (t.failReplies ++ [.enter (lostState pending)])) := by
  unfold lose
  rw [failPendingCtl_eq]
  simp [finish, enter, lostState, failReplies]

/-- `forward` on a connection begins to send. -/
theorem forward_some {t : ConnectionTask} {f : Framed} (hf : t.tcp.framed = some f) (rd : PtyRead) :
    t.forward rd = ({ t with tcp := t.tcp.queue f rd.message, pc := .connectedSend rd.message },
      [.ptyRead rd, .sendStart f.session rd.message none]) := by
  rw [forward, TcpBridge.send_some hf]
  rfl

/-- `forward` without a connection keeps the message and reconnects. -/
theorem forward_none {t : ConnectionTask} (hf : t.tcp.framed = none) (rd : PtyRead) :
    t.forward rd = ({ t with pendingHwCtl := none }.enter (lostState (some rd.message)),
      .ptyRead rd :: .notConnected ::
        (t.failReplies ++ [.enter (lostState (some rd.message))])) := by
  rw [forward, TcpBridge.send_none hf]
  simp only [lose_eq]
  rfl

/-- Inversion of the PTY branch of `step_connected`. -/
theorem onPtyReadv_cases {t t' : ConnectionTask} {r : Readv} {fault : Option IoError}
    {out : List TaskObs} (hpc : t.pc = .connectedSelect)
    (h : t.onPtyReadv r fault = some (t', out)) : Step t (.ptyReadv r fault) t' out := by
  have hforward : ∀ rd : PtyRead, rd.Fits → (∀ bs, rd = .data bs → r = .packet 0 bs) →
      some ((t.afterReadv r fault).forward rd) = some (t', out) →
        Step t (.ptyReadv r fault) t' out := by
    intro rd hfit hraw hrd
    cases hf : t.tcp.framed with
    | some f =>
        have hf' : (t.afterReadv r fault).tcp.framed = some f := hf
        rw [forward_some hf', Option.some.injEq, Prod.mk.injEq] at hrd
        obtain ⟨rfl, rfl⟩ := hrd
        exact Step.ptyForward hpc hfit hf hraw
    | none =>
        have hf' : (t.afterReadv r fault).tcp.framed = none := hf
        rw [forward_none hf', Option.some.injEq, Prod.mk.injEq] at hrd
        obtain ⟨rfl, rfl⟩ := hrd
        exact Step.ptyForwardOff hpc hfit hf hraw
  unfold onPtyReadv at h
  split at h
  · rename_i hsize
    dsimp only at h
    split at h
    · cases h; exact Step.ptyAgain hpc
    · exact hforward (.termios _) trivial nofun h
    · -- the data result: the slice of the buffer is the data of the packet
      rename_i n hres
      obtain ⟨data, rfl, hne, hlen, hbuf⟩ := AsyncPty.handle_data hres
      have hslice : (t.afterReadv (.packet 0 data) fault).ptyBuf.slice n = data := by
        simp only [afterReadv, hbuf]
        exact Block.slice_write _ hlen (hlen ▸ hsize)
      rw [hslice] at h
      exact hforward (.data data) ⟨hne, hsize⟩ (fun bs heq => by cases heq; rfl) h
    · cases h; exact Step.ptyControl hpc
    · cases h; exact Step.ptyErr hpc
  · cases h

/-- Inversion of the handling of a message from the device. -/
theorem onTcpNext_cases {t t' : ConnectionTask} {out : List TaskObs}
    (hpc : t.pc = .connectedSelect) (h : t.onTcpNext = some (t', out)) :
    Step t .tcpNext t' out := by
  unfold onTcpNext at h
  split at h
  · rename_i hf
    rw [lose_eq] at h; cases h
    exact Step.nextOff hpc hf
  · rename_i f hf
    split at h
    · cases h
    · rename_i e hdec
      rw [lose_eq] at h; cases h
      exact Step.nextError hpc hf hdec
    · rename_i msg rest hdec
      cases msg with
      | data size data =>
          simp only [onMessage] at h
          split at h
          · rename_i hnil
            cases h
            exact Step.nextIgnored hpc hf hdec (fun _ => nofun) fun _ => hnil
          · rename_i hne
            cases h
            exact Step.nextData hpc hf hdec hne
      | controlRes res =>
          simp only [onMessage] at h
          split at h
          · rename_i tx hp
            cases h
            exact Step.nextAnswer hpc hf hdec hp
          · rename_i hp
            cases h
            exact Step.nextUnsolicited hpc hf hdec hp
      | config baudrate dataBits stopBits parity hwFlowCtl =>
          cases h
          exact Step.nextIgnored hpc hf hdec (fun _ => nofun) fun hk =>
            absurd hk (by simp [DeviceMessage.kind])
      | controlReq req =>
          cases h
          exact Step.nextIgnored hpc hf hdec (fun _ => nofun) fun hk =>
            absurd hk (by simp [DeviceMessage.kind])

/-- Inversion of the request branch of `step_connected`. -/
theorem onHardwareControl_cases {t : ConnectionTask} (hpc : t.pc = .connectedSelect)
    (ctl : DeviceControlRequest) (tx : ReplyId) :
    Step t (.ctlReq (.hardwareControl ctl tx)) (t.onHardwareControl ctl tx).1
      (t.onHardwareControl ctl tx).2 := by
  unfold onHardwareControl
  rcases Option.eq_none_or_eq_some t.pendingHwCtl with hp | ⟨tx', hp⟩
  · rw [if_neg (by simp [hp])]
    cases hf : t.tcp.framed with
    | some f =>
        rw [TcpBridge.send_some hf]
        exact Step.ctlSend hpc hp hf
    | none =>
        rw [TcpBridge.send_none hf]
        exact Step.ctlSendOff hpc hp hf
  · rw [if_pos (by simp [hp])]
    exact Step.ctlBusy hpc hp

/-- Inversion of the `select!` of `step_connected`. -/
theorem stepConnected_cases {t t' : ConnectionTask} {i : TaskInput} {out : List TaskObs}
    (hpc : t.pc = .connectedSelect) (h : t.stepConnected i = some (t', out)) :
    Step t i t' out := by
  cases i with
  | shutdown => cases h; exact Step.stop (.inl hpc) (.inl rfl)
  | ctlClosed => cases h; exact Step.stop (.inl hpc) (.inr rfl)
  | ptyReadv r fault => exact onPtyReadv_cases hpc h
  | tcpRecv bs =>
      simp only [stepConnected] at h
      split at h
      · cases h
      · rename_i f hf
        split at h
        · rename_i hcond
          cases h
          exact Step.tcpRecv hpc hf hcond.1 hcond.2
        · cases h
  | tcpNext => exact onTcpNext_cases hpc h
  | tcpEnd =>
      simp only [stepConnected] at h
      split at h
      · cases h
      · rename_i f hf
        split at h
        · rename_i hdec
          rw [lose_eq] at h; cases h
          exact Step.tcpEnd hpc hf hdec
        · cases h
  | ctlReq req =>
      cases req with
      | hardwareControl ctl tx =>
          have := onHardwareControl_cases hpc ctl tx
          simp only [stepConnected, Option.some.injEq] at h
          rwa [h] at this
      | status tx => cases h; exact Step.ctlStatus hpc
  | _ => cases h

/-- Inversion of the flush inside `tcp.send`. -/
theorem flush_cases {t t' : ConnectionTask} {n : Nat} {out : List TaskObs} {msg : DeviceMessage}
    (hsend : t.pc.sending = some msg)
    (h : (t.tcp.flush n).map (fun r => ({ t with tcp := r.1 }, r.2)) = some (t', out)) :
    Step t (.tcpWrite n) t' out := by
  unfold TcpBridge.flush at h
  split at h
  · cases h
  · rename_i f hf
    split at h
    · rename_i hn
      cases h
      exact Step.write hsend hf hn.1 hn.2
    · cases h

/-- Inversion of the branches shared by the two offline `select!`s. -/
theorem serveOffline_cases {t t' : ConnectionTask} {i : TaskInput} {out : List TaskObs}
    (hpc : t.pc.Offline) (h : t.serveOffline i = some (t', out)) : Step t i t' out := by
  cases i with
  | shutdown => cases h; exact Step.stop (.inr hpc) (.inl rfl)
  | ctlClosed => cases h; exact Step.stop (.inr hpc) (.inr rfl)
  | ctlReq req =>
      cases req with
      | hardwareControl ctl tx => cases h; exact Step.offlineCtl hpc
      | status tx => cases h; exact Step.offlineStatus hpc
  | _ => cases h

/-- Inversion of the await of `tcp.send` for a PTY message. -/
theorem awaitSend_cases {t t' : ConnectionTask} {i : TaskInput} {out : List TaskObs}
    {msg : DeviceMessage} (hpc : t.pc = .connectedSend msg)
    (h : t.awaitSend msg i = some (t', out)) : Step t i t' out := by
  cases i with
  | tcpWrite n => exact flush_cases (by rw [hpc]; rfl) h
  | tcpSent =>
      simp only [awaitSend] at h
      split at h
      · cases h
      · rename_i f hf
        split at h
        · rename_i hbuf
          cases h
          exact Step.sent hpc hf hbuf
        · cases h
  | tcpSendErr =>
      simp only [awaitSend] at h
      split at h
      · cases h
      · rename_i f hf
        rw [lose_eq] at h; cases h
        exact Step.sendErr hpc hf
  | _ => cases h

/-- Inversion of the await of `tcp.send` for a control request. -/
theorem awaitCtlSend_cases {t t' : ConnectionTask} {i : TaskInput} {out : List TaskObs}
    {ctl : DeviceControlRequest} {tx : ReplyId} (hpc : t.pc = .connectedCtlSend ctl tx)
    (h : t.awaitCtlSend ctl tx i = some (t', out)) : Step t i t' out := by
  cases i with
  | tcpWrite n => exact flush_cases (by rw [hpc]; rfl) h
  | tcpSent =>
      simp only [awaitCtlSend] at h
      split at h
      · cases h
      · rename_i f hf
        split at h
        · rename_i hbuf
          cases h
          exact Step.ctlSent hpc hf hbuf
        · cases h
  | tcpSendErr =>
      simp only [awaitCtlSend] at h
      split at h
      · cases h
      · rename_i f hf
        cases h
        exact Step.ctlSendErr hpc hf
  | _ => cases h

/-- Inversion of the await of `master.write_all`. -/
theorem awaitWrite_cases {t t' : ConnectionTask} {i : TaskInput} {out : List TaskObs}
    {rest : Bytes} (hpc : t.pc = .connectedWrite rest)
    (h : t.awaitWrite rest i = some (t', out)) : Step t i t' out := by
  cases i with
  | ptyWrite n =>
      simp only [awaitWrite] at h
      split at h
      · rename_i hn
        split at h
        · rename_i hdrop
          have hlen : rest.length ≤ n := List.drop_eq_nil_iff.mp hdrop
          rw [List.take_of_length_le hlen] at h
          cases h
          exact Step.ptyWriteLast hpc (fun hnil => by subst hnil; simp at hn; omega) hlen
        · rename_i hdrop
          cases h
          rw [List.drop_eq_nil_iff] at hdrop
          exact Step.ptyWrite hpc hn.1 (by omega)
      · cases h
  | ptyWriteErr => cases h; exact Step.ptyWriteErr hpc
  | _ => cases h

/-- Inversion of the `select!` of `step_reconnecting`. -/
theorem awaitReconnect_cases {t t' : ConnectionTask} {i : TaskInput} {out : List TaskObs}
    {b : Duration} {p : Option DeviceMessage} (hpc : t.pc = .reconnectSelect b p)
    (h : t.awaitReconnect b p i = some (t', out)) : Step t i t' out := by
  by_cases hi : i = .sleepElapsed
  · subst hi
    simp only [awaitReconnect] at h
    cases hf : t.tcp.framed with
    | some f =>
        rw [hf] at h; cases h
        exact Step.elapsedConnected hpc hf
    | none =>
        rw [hf] at h; cases h
        exact Step.elapsed hpc hf
  · have hoff : t.pc.Offline := by rw [hpc]; trivial
    apply serveOffline_cases hoff
    cases i <;> first | exact h | exact absurd rfl hi

/-- Inversion of the await of `try_connect`. -/
theorem awaitConnect_cases {t t' : ConnectionTask} {i : TaskInput} {out : List TaskObs}
    {b : Duration} {p : Option DeviceMessage} (hpc : t.pc = .reconnectConnect b p)
    (h : t.awaitConnect b p i = some (t', out)) : Step t i t' out := by
  cases i with
  | connect r =>
      cases hnext : nextBackoff b with
      | none =>
          cases r with
          | ok => cases h; exact Step.connectOk hpc
          | err => exact Step.overflow hpc hnext
          | nodelayErr => exact Step.overflow hpc hnext
      | some next =>
          cases r with
          | ok => cases h; exact Step.connectOk hpc
          | err =>
              simp only [awaitConnect, reconnectFailed, hnext] at h
              cases h
              exact Step.connectFail hpc hnext (.inl ⟨rfl, rfl, rfl⟩)
          | nodelayErr =>
              simp only [awaitConnect, reconnectFailed, hnext] at h
              cases h
              exact Step.connectFail hpc hnext (.inr ⟨rfl, rfl, rfl⟩)
  | _ => cases h

/-- Inversion of the `select!` of `step_resyncing`. -/
theorem awaitResync_cases {t t' : ConnectionTask} {i : TaskInput} {out : List TaskObs}
    {p : DeviceMessage} (hpc : t.pc = .resyncSelect p)
    (h : t.awaitResync p i = some (t', out)) : Step t i t' out := by
  have hoff : t.pc.Offline := by rw [hpc]; trivial
  cases i with
  | tcpWrite n => exact flush_cases (by rw [hpc]; rfl) h
  | tcpSent =>
      simp only [awaitResync] at h
      split at h
      · cases h
      · rename_i f hf
        split at h
        · rename_i hbuf
          cases h
          exact Step.resynced hpc hf hbuf
        · cases h
  | tcpSendErr =>
      simp only [awaitResync] at h
      split at h
      · cases h
      · rename_i f hf
        cases h
        exact Step.resyncErr hpc hf
  | _ => exact serveOffline_cases hoff h

/-- Inversion of the loop head of `conn_task`. -/
theorem resume_cases {t : ConnectionTask} (hpc : t.pc = .top) :
    Step t .resume t.resume.1 t.resume.2 := by
  -- the state is a field of the record that is also updated: take the record apart first
  obtain ⟨name, master, tcp, st, buf, pend, pc⟩ := t
  cases st with
  | shuttingDown =>
      simp only [resume, shouldClose, decide_true, if_true, failPendingCtl_eq]
      exact Step.close hpc rfl
  | connected => exact Step.beginConnected hpc rfl
  | reconnecting b p => exact Step.beginReconnecting hpc rfl
  | resyncing p =>
      simp only [resume, shouldClose, enterResyncing, reduceCtorEq, decide_false,
        Bool.false_eq_true, if_false]
      cases hf : tcp.framed with
      | some f =>
          rw [TcpBridge.send_some hf]
          exact Step.beginResyncing hpc rfl hf
      | none =>
          rw [TcpBridge.send_none hf]
          exact Step.beginResyncingOff hpc rfl hf

/-- **Inversion of the step function.** Every step of the task is one of the listed transitions. -/
theorem step_cases {t t' : ConnectionTask} {i : TaskInput} {out : List TaskObs}
    (h : t.step i = some (t', out)) : Step t i t' out := by
  unfold step at h
  split at h
  · rename_i tio
    cases h
    exact Step.slaveSet tio
  · -- the await the task is suspended in decides
    split at h
    · rename_i hpc
      split at h
      · rename_i hi
        subst hi
        have hresume := resume_cases hpc
        rw [Option.some.injEq] at h
        rwa [h] at hresume
      · cases h
    · rename_i hpc
      exact stepConnected_cases hpc h
    · rename_i hpc
      exact awaitSend_cases hpc h
    · rename_i hpc
      exact awaitCtlSend_cases hpc h
    · rename_i hpc
      exact awaitWrite_cases hpc h
    · rename_i hpc
      exact awaitReconnect_cases hpc h
    · rename_i hpc
      exact awaitConnect_cases hpc h
    · rename_i hpc
      exact awaitResync_cases hpc h
    · rename_i hpc
      split at h
      · rename_i hi
        subst hi
        cases h
        exact Step.notified hpc
      · cases h
    · cases h
    · cases h

end ConnectionTask

end TcpUart
