import Mathlib.Data.Nat.Basic
import TcpUart.Daemon.ConnectionHistory

/-! # What becomes of the bytes the device sends
`tcp.next` is cancelled whenever another branch of the `select!` wins, and its read buffer is
dropped with the session. `ReadEffect` says what a step can do to bytes on their way to the PTY.

* `received_prefix` — if a session yields the start of a stream of frames of messages, `decode`
  never rejects it and the messages returned are the first of those messages.
* `PtyWrites` — the PTY is given the data of the messages received, in order and whole, but for the
  last one while it is being written or after a write failed. -/

namespace TcpUart

open Reactive Framing

/-- The bytes session `s` yielded. -/
def recvBytes (s : Nat) (log : List TaskObs) : Bytes :=
  (valuesAt s (log.filterMap TaskObs.recv?)).flatten

/-- The messages `tcp.next` returned in session `s`. -/
def receivedAt (s : Nat) (log : List TaskObs) : List DeviceMessage :=
  valuesAt s (log.filterMap TaskObs.received?)

/-- The bytes the PTY took. -/
def ptyBytes (log : List TaskObs) : Bytes := (log.filterMap TaskObs.ptyWrote?).flatten

/-- The data a message brings for the PTY. -/
def DeviceMessage.uartData : DeviceMessage → Bytes
  | .data len block => block.slice len.toNat
  | _ => []

/-- The data of all messages received, in order. -/
def receivedData (log : List TaskObs) : List Bytes :=
  (log.filterMap TaskObs.received?).map fun x => x.2.uartData

@[simp] theorem recvBytes_append (s : Nat) (log out : List TaskObs) :
    recvBytes s (log ++ out) = recvBytes s log ++ recvBytes s out := by
  simp [recvBytes]

@[simp] theorem receivedAt_append (s : Nat) (log out : List TaskObs) :
    receivedAt s (log ++ out) = receivedAt s log ++ receivedAt s out := by
  simp [receivedAt]

@[simp] theorem ptyBytes_append (log out : List TaskObs) :
    ptyBytes (log ++ out) = ptyBytes log ++ ptyBytes out := by
  simp [ptyBytes]

@[simp] theorem receivedData_append (log out : List TaskObs) :
    receivedData (log ++ out) = receivedData log ++ receivedData out := by
  simp [receivedData]

/-- Observations that say nothing about bytes on their way to the PTY. -/
def TaskObs.recvSilent : TaskObs → Bool
  | .recv _ _ | .received _ _ | .decodeError _ _ | .ptyWrote _ | .ptyWriteError => false
  | _ => true

/-- Silent observations add nothing. -/
theorem of_recvSilent {out : List TaskObs} (h : out.all TaskObs.recvSilent) :
    ptyBytes out = [] ∧ receivedData out = [] ∧
      ∀ s, recvBytes s out = [] ∧ receivedAt s out = [] := by
  have hnone : ∀ {β : Type} (g : TaskObs → Option β), (∀ o, o.recvSilent → g o = none) →
      out.filterMap g = [] := by
    intro β g hg
    rw [List.filterMap_eq_nil_iff]
    exact fun o ho => hg o (List.all_eq_true.mp h o ho)
  have hrecv := hnone TaskObs.recv? fun o ho => by cases o <;> first | rfl | cases ho
  have hreceived := hnone TaskObs.received? fun o ho => by cases o <;> first | rfl | cases ho
  have hwrote := hnone TaskObs.ptyWrote? fun o ho => by cases o <;> first | rfl | cases ho
  simp [ptyBytes, receivedData, recvBytes, receivedAt, hrecv, hreceived, hwrote]

namespace ConnectionTask

/-- The open session and what is in its read buffer. -/
def incoming (t : ConnectionTask) : Option (Nat × Bytes) :=
  t.tcp.framed.map fun f => (f.session, f.readBuf)

/-- The data being written to the PTY, as far as the PTY has not taken it. -/
def unwritten (t : ConnectionTask) : Bytes :=
  match t.pc with
  | .connectedWrite rest => rest
  | _ => []

/-- What a step does to bytes on their way to the PTY. -/
inductive ReadEffect (t t' : ConnectionTask) (out : List TaskObs) : Prop
  /-- Nothing, except that a session is dropped or opened. -/
  | quiet (hq : out.all TaskObs.recvSilent) (hu : t'.unwritten = t.unwritten)
      (hst : t.state = .shuttingDown → t'.state = .shuttingDown)
      (hi : t'.incoming = t.incoming ∨ t'.incoming = none ∨
        t'.incoming = some (t.tcp.opened, []))
  /-- Bytes arrive. -/
  | recv {s : Nat} {b bs : Bytes} (hout : out = [.recv s bs]) (hu : t'.unwritten = t.unwritten)
      (hst : t'.state = t.state) (hi : t.incoming = some (s, b))
      (hi' : t'.incoming = some (s, b ++ bs))
  /-- A message is taken out of the read buffer; data in it is to be written. -/
  | item {s : Nat} {b rest : Bytes} {msg : DeviceMessage} {post : List TaskObs}
      (hout : out = .received s msg :: post) (hq : post.all TaskObs.recvSilent)
      (hdec : DeviceCodec.decode b = .item msg rest) (hu : t.unwritten = [])
      (hu' : t'.unwritten = msg.uartData) (hst : t.state ≠ .shuttingDown)
      (hi : t.incoming = some (s, b)) (hi' : t'.incoming = some (s, rest))
  /-- The read buffer is rejected. -/
  | error {s : Nat} {b : Bytes} {e : IoError} {post : List TaskObs}
      (hout : out = .decodeError s e :: post) (hq : post.all TaskObs.recvSilent)
      (hdec : DeviceCodec.decode b = .error e) (hu : t.unwritten = []) (hu' : t'.unwritten = [])
      (hst : t.state ≠ .shuttingDown) (hi : t.incoming = some (s, b))
  /-- The PTY takes data. -/
  | take {bs : Bytes} (hout : out = [.ptyWrote bs]) (hu : t.unwritten = bs ++ t'.unwritten)
      (hst : t.state ≠ .shuttingDown) (hi : t'.incoming = t.incoming)
  /-- Writing to the PTY fails. -/
  | fail (hout : out = [.ptyWriteError, .enter .shuttingDown]) (hst : t'.state = .shuttingDown)
      (hi : t'.incoming = t.incoming)

/-- The open session and its read buffer. -/
theorem incoming_eq {t : ConnectionTask} {f : Framed} (hf : t.tcp.framed = some f) :
    t.incoming = some (f.session, f.readBuf) := by
  rw [incoming, hf]
  rfl

/-- Away from `write_all`, nothing is being written. -/
theorem unwritten_eq {t : ConnectionTask} {pc : Pc} (hpc : t.pc = pc)
    (h : ∀ rest, pc ≠ .connectedWrite rest) : t.unwritten = [] := by
  unfold unwritten
  split
  · exact absurd (hpc.symm.trans ‹_›) (h _)
  · rfl

/-- The replies of `fail_pending_ctl` are silent about received bytes. -/
theorem recvSilent_lost (t : ConnectionTask) (st : ConnState) :
    (t.failReplies ++ [TaskObs.enter st]).all TaskObs.recvSilent := by
  unfold failReplies
  cases t.pendingHwCtl <;> rfl

/-- Every step of a sound task has one of these effects. -/
theorem Step.readEffect {t t' : ConnectionTask} {i : TaskInput} {out : List TaskObs}
    (hs : Sound t) (h : Step t i t' out) : ReadEffect t t' out := by
  -- the awaits of the connected state
  have hne : ∀ {pc : Pc}, t.pc = pc → (pc.Agrees .shuttingDown → False) →
      t.state ≠ .shuttingDown := by
    intro pc hpc hag hst
    have := hs.state_eq hpc
    rw [hst] at this
    exact hag this
  cases h with
  | slaveSet => exact .quiet rfl rfl id (.inl rfl)
  | close hpc =>
      refine .quiet ?_ (unwritten_eq hpc nofun).symm id (.inl rfl)
      unfold failReplies
      cases t.pendingHwCtl <;> rfl
  | beginConnected hpc => exact .quiet rfl (unwritten_eq hpc nofun).symm id (.inl rfl)
  | beginReconnecting hpc => exact .quiet rfl (unwritten_eq hpc nofun).symm id (.inl rfl)
  | beginResyncing hpc _ hf =>
      exact .quiet rfl (unwritten_eq hpc nofun).symm id (.inl (incoming_eq hf).symm)
  | beginResyncingOff _ hst hf => exact absurd hf (hs.framed_of_resyncing hst)
  | stop hpc =>
      refine .quiet rfl ?_ (fun _ => rfl) (.inl rfl)
      show [] = t.unwritten
      symm
      refine unwritten_eq rfl fun rest heq => ?_
      rw [heq] at hpc
      rcases hpc with hpc | hpc
      · cases hpc
      · exact hpc
  | ptyAgain => exact .quiet rfl rfl id (.inl rfl)
  | ptyForward hpc _ hf =>
      exact .quiet rfl (unwritten_eq hpc nofun).symm id (.inl (incoming_eq hf).symm)
  | ptyForwardOff hpc _ hf => exact absurd hf (hs.framed_of_connected (hs.state_eq hpc))
  | ptyControl hpc => exact .quiet rfl (unwritten_eq hpc nofun).symm id (.inl rfl)
  | ptyErr hpc => exact .quiet rfl (unwritten_eq hpc nofun).symm (fun _ => rfl) (.inl rfl)
  | tcpRecv hpc hf => exact .recv rfl rfl rfl (incoming_eq hf) rfl
  | nextOff hpc hf => exact absurd hf (hs.framed_of_connected (hs.state_eq hpc))
  | nextError hpc hf hdec =>
      exact .error rfl (t.recvSilent_lost _) hdec (unwritten_eq hpc nofun) rfl (hne hpc nofun)
        (incoming_eq hf)
  | nextData hpc hf hdec =>
      exact .item rfl rfl hdec (unwritten_eq hpc nofun) rfl (hne hpc nofun) (incoming_eq hf) rfl
  | nextAnswer hpc hf hdec =>
      exact .item rfl rfl hdec (unwritten_eq hpc nofun) rfl (hne hpc nofun) (incoming_eq hf) rfl
  | nextUnsolicited hpc hf hdec =>
      exact .item rfl rfl hdec (unwritten_eq hpc nofun) rfl (hne hpc nofun) (incoming_eq hf) rfl
  | @nextIgnored f msg rest hpc hf hdec _ hdata =>
      refine .item rfl rfl hdec (unwritten_eq hpc nofun) ?_ (hne hpc nofun) (incoming_eq hf) rfl
      cases msg with
      | data len block => exact (hdata rfl).symm
      | _ => rfl
  | tcpEnd hpc hf =>
      exact .quiet (t.recvSilent_lost _) (unwritten_eq hpc nofun).symm
        (fun hst => absurd hst (hne hpc nofun)) (.inr (.inl rfl))
  | ctlBusy hpc => exact .quiet rfl (unwritten_eq hpc nofun).symm id (.inl rfl)
  | ctlSend hpc _ hf =>
      exact .quiet rfl (unwritten_eq hpc nofun).symm id (.inl (incoming_eq hf).symm)
  | ctlSendOff hpc _ hf => exact absurd hf (hs.framed_of_connected (hs.state_eq hpc))
  | ctlStatus hpc => exact .quiet rfl (unwritten_eq hpc nofun).symm id (.inl rfl)
  | write _ hf => exact .quiet rfl rfl id (.inl (incoming_eq hf).symm)
  | sent hpc => exact .quiet rfl (unwritten_eq hpc nofun).symm id (.inl rfl)
  | sendErr hpc hf =>
      exact .quiet (t.recvSilent_lost _) (unwritten_eq hpc nofun).symm
        (fun hst => absurd hst (hne hpc nofun)) (.inr (.inl rfl))
  | ctlSent hpc => exact .quiet rfl (unwritten_eq hpc nofun).symm id (.inl rfl)
  | ctlSendErr hpc hf =>
      exact .quiet rfl (unwritten_eq hpc nofun).symm (fun hst => absurd hst (hne hpc nofun))
        (.inr (.inl rfl))
  | ptyWriteLast hpc =>
      refine .take rfl ?_ (hne hpc nofun) rfl
      rw [unwritten, hpc]
      exact (List.append_nil _).symm
  | ptyWrite hpc =>
      refine .take rfl ?_ (hne hpc nofun) rfl
      rw [unwritten, hpc]
      exact (List.take_append_drop _ _).symm
  | ptyWriteErr => exact .fail rfl rfl rfl
  | offlineCtl => exact .quiet rfl rfl id (.inl rfl)
  | offlineStatus => exact .quiet rfl rfl id (.inl rfl)
  | elapsed hpc => exact .quiet rfl (unwritten_eq hpc nofun).symm id (.inl rfl)
  | elapsedConnected hpc hf =>
      rw [hs.framed_of_reconnecting (hs.state_eq hpc)] at hf
      cases hf
  | connectOk hpc =>
      exact .quiet rfl (unwritten_eq hpc nofun).symm (fun hst => absurd hst (hne hpc nofun))
        (.inr (.inr rfl))
  | connectFail hpc _ hobs =>
      refine .quiet ?_ (unwritten_eq hpc nofun).symm (fun hst => absurd hst (hne hpc nofun))
        (.inl rfl)
      rcases hobs with ⟨-, rfl, -⟩ | ⟨-, rfl, -⟩ <;> rfl
  | overflow hpc hnext => exact absurd hnext (hs.nextBackoff_ne_none hpc)
  | resynced hpc =>
      exact .quiet rfl (unwritten_eq hpc nofun).symm (fun hst => absurd hst (hne hpc nofun))
        (.inl rfl)
  | resyncErr hpc =>
      exact .quiet rfl (unwritten_eq hpc nofun).symm (fun hst => absurd hst (hne hpc nofun))
        (.inr (.inl rfl))
  | notified hpc => exact .quiet rfl (unwritten_eq hpc nofun).symm id (.inl rfl)

/-! ## From the sessions to the messages -/

/-- Every session yields the start of the stream of the messages `sent s`. -/
def Yields (log : List TaskObs) (sent : Nat → List DeviceMessage) : Prop :=
  ∀ s, recvBytes s log <+: stream Frame.bytes ((sent s).map DeviceMessage.frame)

/-- What was yielded was yielded before more was. -/
theorem Yields.of_append {log out : List TaskObs} {sent : Nat → List DeviceMessage}
    (h : Yields (log ++ out) sent) : Yields log sent := by
  intro s
  have := h s
  rw [recvBytes_append] at this
  exact (List.prefix_append _ _).trans this

/-- What the daemon made of the bytes of each session: whole messages, and a rest in the buffer. -/
structure Reads (log : List TaskObs) (t : ConnectionTask) : Prop where
  /-- `decode` never failed. -/
  no_error : ∀ s e, TaskObs.decodeError s e ∉ log
  /-- Each session yielded the frames of the messages returned and a rest, which is in the read
  buffer as long as the session is open. -/
  frames : ∀ s, ∃ rest,
    recvBytes s log = stream Frame.bytes ((receivedAt s log).map DeviceMessage.frame) ++ rest ∧
      ∀ b, t.incoming = some (s, b) → rest = b

/-- Observations after the first one that are silent about received bytes. -/
theorem not_mem_of_recvSilent {out : List TaskObs} (h : out.all TaskObs.recvSilent) (s : Nat)
    (e : IoError) : TaskObs.decodeError s e ∉ out := fun hmem =>
  absurd (List.all_eq_true.mp h _ hmem) Bool.false_ne_true

/-- What the read buffer holds continues the messages returned so far. -/
theorem Reads.buffer_prefix {log : List TaskObs} {t : ConnectionTask}
    {sent : Nat → List DeviceMessage} (hr : Reads log t) (hy : Yields log sent) {s : Nat}
    {b : Bytes} (hi : t.incoming = some (s, b)) :
    ∃ ms : List DeviceMessage, (sent s).map DeviceMessage.frame
        = (receivedAt s log).map DeviceMessage.frame ++ ms.map DeviceMessage.frame ∧
      b <+: stream Frame.bytes (ms.map DeviceMessage.frame) := by
  obtain ⟨rest, heq, hrest⟩ := hr.frames s
  obtain rfl := hrest b hi
  have hyield := hy s
  rw [heq] at hyield
  obtain ⟨fs, hfs⟩ := Frame.selfDelimiting_bytes.of_flatten ((List.prefix_append _ _).trans hyield)
  obtain ⟨ms₁, ms, hms, -, rfl⟩ := List.map_eq_append_iff.mp hfs.symm
  refine ⟨ms, hfs.symm, ?_⟩
  rw [← hfs, stream_append] at hyield
  exact (List.prefix_append_right_inj _).mp hyield

/-- What was made of a session that a step says nothing about stays as it is. -/
theorem Reads.kept {log out : List TaskObs} {t t' : ConnectionTask} (hr : Reads log t) {s : Nat}
    (hs : recvBytes s out = [] ∧ receivedAt s out = [])
    (hi : ∀ b, t'.incoming = some (s, b) → t.incoming = some (s, b)) :
    ∃ rest, recvBytes s (log ++ out)
        = stream Frame.bytes ((receivedAt s (log ++ out)).map DeviceMessage.frame) ++ rest ∧
      ∀ b, t'.incoming = some (s, b) → rest = b := by
  rw [recvBytes_append, receivedAt_append, hs.1, hs.2, List.append_nil, List.append_nil]
  obtain ⟨rest, heq, hrest⟩ := hr.frames s
  exact ⟨rest, heq, fun b hb => hrest b (hi b hb)⟩

/-- Nothing was made of a session before it was opened. -/
theorem Sessions.frames_opened {log : List TaskObs} {t t' : ConnectionTask} (h : Sessions log t)
    (hi : t'.incoming = some (t.tcp.opened, [])) :
    ∃ rest, recvBytes t.tcp.opened log
        = stream Frame.bytes ((receivedAt t.tcp.opened log).map DeviceMessage.frame) ++ rest ∧
      ∀ b, t'.incoming = some (t.tcp.opened, b) → rest = b := by
  have hrecv : recvBytes t.tcp.opened log = [] := by
    rw [recvBytes, h.valuesAt_opened fun _ _ _ => TaskObs.session?_of_recv?]
    rfl
  have hreceived : receivedAt t.tcp.opened log = [] := by
    rw [receivedAt, h.valuesAt_opened fun _ _ _ => TaskObs.session?_of_received?]
  rw [hrecv, hreceived]
  refine ⟨[], rfl, ?_⟩
  intro b hb
  rw [hi] at hb
  cases hb
  rfl

/-- Every effect keeps what the daemon made of the bytes, if they are the start of messages. -/
theorem Reads.step {log out : List TaskObs} {t t' : ConnectionTask}
    {sent : Nat → List DeviceMessage} (hr : Reads log t) (hses : Sessions log t)
    (hy : Yields (log ++ out) sent) (h : ReadEffect t t' out) : Reads (log ++ out) t' := by
  cases h with
  | quiet hq hu hst hi =>
      obtain ⟨-, -, hs⟩ := of_recvSilent hq
      refine ⟨fun s e => ?_, fun s => ?_⟩
      · simp [hr.no_error s e, not_mem_of_recvSilent hq s e]
      · rcases hi with hi | hi | hi
        · exact hr.kept (hs s) fun b hb => hi ▸ hb
        · exact hr.kept (hs s) (by rw [hi]; nofun)
        · by_cases hso : s = t.tcp.opened
          · subst hso
            rw [recvBytes_append, receivedAt_append, (hs _).1, (hs _).2, List.append_nil,
              List.append_nil]
            exact hses.frames_opened hi
          · refine hr.kept (hs s) ?_
            intro b hb
            rw [hi] at hb
            cases hb
            exact absurd rfl hso
  | @recv s b bs hout hu hst hi hi' =>
      subst hout
      refine ⟨fun s e => by simp [hr.no_error s e], fun s' => ?_⟩
      by_cases hss : s = s'
      · -- the bytes join what the buffer holds
        subst hss
        obtain ⟨rest, heq, hrest⟩ := hr.frames s
        have hnone : receivedAt s [.recv s bs] = [] := rfl
        have hbs : recvBytes s [.recv s bs] = bs := by
          show (valuesAt s [(s, bs)]).flatten = bs
          simp
        rw [recvBytes_append, receivedAt_append, hnone, hbs, heq, List.append_nil,
          List.append_assoc]
        refine ⟨rest ++ bs, rfl, ?_⟩
        intro b' hb'
        rw [hi'] at hb'
        cases hb'
        rw [hrest b hi]
      · have hbs : recvBytes s' [.recv s bs] = [] := by
          show (valuesAt s' [(s, bs)]).flatten = []
          rw [valuesAt_cons_of_ne hss]
          rfl
        refine hr.kept ⟨hbs, rfl⟩ ?_
        intro b' hb'
        rw [hi'] at hb'
        cases hb'
        exact absurd rfl hss
  | @item s b rest msg post hout hq hdec hu hu' hst hi hi' =>
      subst hout
      obtain ⟨-, -, hs⟩ := of_recvSilent hq
      obtain ⟨ms, -, hb⟩ := hr.buffer_prefix hy.of_append hi
      have hcons : TaskObs.received s msg :: post = [.received s msg] ++ post := rfl
      refine ⟨fun s e => ?_, fun s' => ?_⟩
      · simp [hr.no_error s e, not_mem_of_recvSilent hq s e]
      by_cases hss : s = s'
      · subst hss
        obtain ⟨rest', heq, hrest'⟩ := hr.frames s
        obtain rfl := hrest' b hi
        have hrecv : recvBytes s [.received s msg] = [] := rfl
        have hone : receivedAt s [.received s msg] = [msg] := by
          show valuesAt s [(s, msg)] = [msg]
          simp
        rw [recvBytes_append, receivedAt_append, hcons, recvBytes_append, receivedAt_append,
          (hs s).1, (hs s).2, hrecv, hone, List.append_nil, List.append_nil, List.append_nil]
        -- the buffer starts with a whole frame of the stream: that is the message returned
        rcases DeviceCodec.decode_of_stream hb with hinc | ⟨m, ms', r, -, hbr, hm⟩
        · rw [hinc] at hdec
          cases hdec
        · rw [hm] at hdec
          cases hdec
          refine ⟨rest, ?_, ?_⟩
          · rw [heq, hbr, List.map_append, stream_append, List.append_assoc]
            simp [DeviceCodec.frame_canonical]
          · intro b' hb'
            rw [hi'] at hb'
            cases hb'
            rfl
      · have hnone : receivedAt s' (.received s msg :: post) = [] := by
          rw [hcons, receivedAt_append, (hs s').2, List.append_nil]
          show valuesAt s' [(s, msg)] = []
          rw [valuesAt_cons_of_ne hss]
          rfl
        have hrecv : recvBytes s' (.received s msg :: post) = [] := by
          rw [hcons, recvBytes_append, (hs s').1]
          rfl
        refine hr.kept ⟨hrecv, hnone⟩ ?_
        intro b' hb'
        rw [hi'] at hb'
        cases hb'
        exact absurd rfl hss
  | @error s b e post hout hq hdec hu hu' hst hi =>
      obtain ⟨ms, -, hb⟩ := hr.buffer_prefix hy.of_append hi
      rcases DeviceCodec.decode_of_stream hb with hinc | ⟨m, ms', r, -, -, hm⟩
      · rw [hinc] at hdec
        cases hdec
      · rw [hm] at hdec
        cases hdec
  | @take bs hout hu hst hi =>
      subst hout
      refine ⟨fun s e => by simp [hr.no_error s e], fun s => ?_⟩
      exact hr.kept ⟨rfl, rfl⟩ fun b hb => hi ▸ hb
  | fail hout hst hi =>
      subst hout
      refine ⟨fun s e => by simp [hr.no_error s e], fun s => ?_⟩
      exact hr.kept ⟨rfl, rfl⟩ fun b hb => hi ▸ hb

/-- The daemon makes messages of the bytes of every session, if these are the start of messages. -/
theorem reads_of_reaches {name : String} {addr : UInt32} {port : UInt16} {master : AsyncPty}
    {log : List TaskObs} {t : ConnectionTask} {sent : Nat → List DeviceMessage}
    (h : (machine (spawn name addr port master)).Reaches log t) :
    Yields log sent → Reads log t := by
  refine h.invariant (P := fun log t => Yields log sent → Reads log t) ?_ ?_
  · exact fun _ => ⟨nofun, fun s => ⟨[], rfl, nofun⟩⟩
  · intro log t i t' out hr ih _ hstep hy
    exact (ih hy.of_append).step (sessions_of_reaches hr.reaches) hy
      ((step_cases hstep).readEffect (sound_of_reaches hr.reaches))

/-- **Messages received are messages sent.** If each session yields the start of a stream of frames
of messages, `decode` never rejects it, and the messages returned are the first of those. -/
theorem received_prefix {name : String} {addr : UInt32} {port : UInt16} {master : AsyncPty}
    {log : List TaskObs} {t : ConnectionTask} {sent : Nat → List DeviceMessage}
    (h : (machine (spawn name addr port master)).Reaches log t) (hy : Yields log sent) :
    (∀ s e, TaskObs.decodeError s e ∉ log) ∧
      ∀ s, (receivedAt s log).map DeviceMessage.frame <+: (sent s).map DeviceMessage.frame := by
  have hr := reads_of_reaches h hy
  refine ⟨hr.no_error, fun s => ?_⟩
  obtain ⟨rest, heq, -⟩ := hr.frames s
  have hyield := hy s
  rw [heq] at hyield
  exact Frame.selfDelimiting_bytes.of_flatten ((List.prefix_append _ _).trans hyield)

/-! ## From the messages to the PTY -/

/-- What the PTY was given: the data of the messages received, up to a rest. -/
structure PtyWrites (log : List TaskObs) (t : ConnectionTask) (rest : Bytes) : Prop where
  /-- The PTY took the data received, except for the rest. -/
  bytes_eq : ptyBytes log ++ rest = (receivedData log).flatten
  /-- The rest is being written, or was given up when a write failed. -/
  rest_eq : rest = t.unwritten ∨ TaskObs.ptyWriteError ∈ log ∧ t.state = .shuttingDown
  /-- The rest belongs to the last message received. -/
  rest_last : rest = [] ∨ ∃ ds d, receivedData log = ds ++ [d] ∧ rest <:+ d

/-- A step in which nothing reaches the PTY and no message is received. -/
theorem PtyWrites.kept {log out : List TaskObs} {t t' : ConnectionTask} {rest : Bytes}
    (hw : PtyWrites log t rest) (hp : ptyBytes out = []) (hd : receivedData out = [])
    (hrest : rest = t'.unwritten ∨
      TaskObs.ptyWriteError ∈ log ++ out ∧ t'.state = .shuttingDown) :
    PtyWrites (log ++ out) t' rest where
  bytes_eq := by
    rw [ptyBytes_append, receivedData_append, hp, hd, List.append_nil, List.append_nil,
      hw.bytes_eq]
  rest_eq := hrest
  rest_last := by
    rw [receivedData_append, hd, List.append_nil]
    exact hw.rest_last

/-- Every effect keeps what the PTY was given. -/
theorem PtyWrites.step {log out : List TaskObs} {t t' : ConnectionTask} {rest : Bytes}
    (hw : PtyWrites log t rest) (h : ReadEffect t t' out) :
    ∃ rest', PtyWrites (log ++ out) t' rest' := by
  have hmono : TaskObs.ptyWriteError ∈ log → TaskObs.ptyWriteError ∈ log ++ out :=
    List.mem_append_left out
  have hrest : t.state ≠ .shuttingDown → rest = t.unwritten := fun hst =>
    hw.rest_eq.resolve_right fun h => hst h.2
  cases h with
  | quiet hq hu hst hi =>
      obtain ⟨hp, hd, -⟩ := of_recvSilent hq
      refine ⟨rest, hw.kept hp hd ?_⟩
      rcases hw.rest_eq with heq | ⟨hmem, hdown⟩
      · exact .inl (heq.trans hu.symm)
      · exact .inr ⟨hmono hmem, hst hdown⟩
  | @recv s b bs hout hu hst hi hi' =>
      refine ⟨rest, hw.kept (by rw [hout]; rfl) (by rw [hout]; rfl) ?_⟩
      rcases hw.rest_eq with heq | ⟨hmem, hdown⟩
      · exact .inl (heq.trans hu.symm)
      · exact .inr ⟨hmono hmem, hst.trans hdown⟩
  | @item s b rest₀ msg post hout hq hdec hu hu' hst hi hi' =>
      have hnil : rest = [] := (hrest hst).trans hu
      obtain ⟨hp, hd, -⟩ := of_recvSilent hq
      have hcons : out = [.received s msg] ++ post := hout
      have hp' : ptyBytes out = [] := by
        rw [hcons, ptyBytes_append, hp]
        rfl
      have hd' : receivedData out = [msg.uartData] := by
        rw [hcons, receivedData_append, hd]
        rfl
      -- the data of the message is what `write_all` is to write
      refine ⟨t'.unwritten, ⟨?_, .inl rfl, .inr ⟨receivedData log, msg.uartData, ?_, ?_⟩⟩⟩
      · have heq := hw.bytes_eq
        rw [hnil, List.append_nil] at heq
        rw [ptyBytes_append, receivedData_append, hp', hd', hu', List.append_nil, heq]
        simp
      · rw [receivedData_append, hd']
      · simp only [hu', List.suffix_refl]
  | @error s b e post hout hq hdec hu hu' hst hi =>
      have hnil : rest = [] := (hrest hst).trans hu
      obtain ⟨hp, hd, -⟩ := of_recvSilent hq
      have hcons : out = [.decodeError s e] ++ post := hout
      have hp' : ptyBytes out = [] := by
        rw [hcons, ptyBytes_append, hp]
        rfl
      have hd' : receivedData out = [] := by
        rw [hcons, receivedData_append, hd]
        rfl
      refine ⟨[], ⟨?_, .inl hu'.symm, .inl rfl⟩⟩
      have heq := hw.bytes_eq
      rw [hnil] at heq
      rw [ptyBytes_append, receivedData_append, hp', hd', List.append_nil (receivedData log), ← heq]
      simp
  | @take bs hout hu hst hi =>
      have hp : ptyBytes out = bs := by
        rw [hout]
        exact List.append_nil bs
      have hd : receivedData out = [] := by rw [hout]; rfl
      refine ⟨t'.unwritten, ⟨?_, .inl rfl, ?_⟩⟩
      · rw [ptyBytes_append, receivedData_append, hp, hd, List.append_nil, ← hw.bytes_eq,
          hrest hst, hu, List.append_assoc]
      · rcases hw.rest_last with hnil | ⟨ds, d, hds, hsuf⟩
        · rw [hrest hst, hu, List.append_eq_nil_iff] at hnil
          exact .inl hnil.2
        · refine .inr ⟨ds, d, by rw [receivedData_append, hd, List.append_nil, hds], ?_⟩
          rw [hrest hst, hu] at hsuf
          exact (List.suffix_append _ _).trans hsuf
  | fail hout hst hi =>
      refine ⟨rest, hw.kept (by rw [hout]; rfl) (by rw [hout]; rfl) (.inr ⟨?_, hst⟩)⟩
      rw [hout]
      simp

/-- What the PTY was given, along every run. -/
theorem ptyWrites_of_reaches {name : String} {addr : UInt32} {port : UInt16} {master : AsyncPty}
    {log : List TaskObs} {t : ConnectionTask}
    (h : (machine (spawn name addr port master)).Reaches log t) :
    ∃ rest, PtyWrites log t rest := by
  refine h.invariant (P := fun log t => ∃ rest, PtyWrites log t rest) ?_ ?_
  · exact ⟨[], ⟨rfl, .inl rfl, .inl rfl⟩⟩
  · rintro log t i t' out hr ⟨rest, hw⟩ _ hstep
    exact hw.step ((step_cases hstep).readEffect (sound_of_reaches hr.reaches))

end ConnectionTask

end TcpUart
