import TcpUart.Firmware.Settings
import TcpUart.Link.FrameCuts
import TcpUart.Link.PtyToDevice

/-! # Agreement on the settings of the UART
The daemon forwards every settings change it reads from the PTY as a `Config` message, and keeps the
message if `tcp.send` fails. It keeps nothing of a message whose `tcp.send` returned `Ok`: if the
session ends before the device has read the message, the change is lost, and the two sides disagree
until the next one.

* `World.AtRest` — the daemon is connected and nothing is on its way to the UART.
* `keepsConfigs` — no step drops a `Config` that a session took.
* `Settled` — then every `Config` written to a session that is over was read.
* `config_agreement` — then, at rest, the settings applied last are those read last. -/

namespace TcpUart

open Reactive Framing

/-- A settings change, as opposed to data. -/
def PtyRead.termios? : PtyRead → Option TermiosChange
  | .termios c => some c
  | .data _ => none

/-- The settings changes `AsyncPty::read` reported, in order. -/
def termiosChanges (log : List TaskObs) : List TermiosChange :=
  (ptyReads log).filterMap PtyRead.termios?

/-- `DeviceMessage::Config`. -/
def DeviceMessage.isConfig : DeviceMessage → Bool
  | .config .. => true
  | _ => false

/-- Frames of `Config` messages. -/
def Frame.isConfig (f : Frame) : Bool := f.kind = MESSAGE_KIND_CONFIG

/-- A frame tells whether its message is a `Config`. -/
theorem DeviceMessage.isConfig_frame (m : DeviceMessage) : m.frame.isConfig = m.isConfig := by
  cases m <;> rfl

/-- The settings of the driver are those of a change, as far as the build lets `apply_config` set
them. -/
structure UartSettings.Shows (cfg : DeviceConfig) (s : UartSettings) (c : TermiosChange) :
    Prop where
  /-- The baud rate. -/
  baudRate : s.baudRate = c.baudrate
  /-- The data bits. -/
  wordLength : s.wordLength = c.dataBits
  /-- The stop bits. -/
  stopBits : s.stopBits = c.stopBits
  /-- The parity. -/
  parity : s.parity = c.parity
  /-- Hardware flow control, if the firmware is built with it. -/
  hwFlowCtrl : cfg.allowHwFlowCtrl = true → s.hwFlowCtrl = c.hwFlowCtl

/-- `apply_config` with a message that asks for what was read sets what was read. -/
theorem shows_applyConfig {cfg : DeviceConfig} {config : ConfigMessage} {c : TermiosChange}
    (hreq : config.request = (PtyRead.termios c).request) (hc : c.Valid) (s : UartSettings) :
    (applyConfig cfg config s).Shows cfg c := by
  simp only [ConfigMessage.request, PtyRead.request, UartRequest.configure.injEq] at hreq
  obtain ⟨hbaud, hdata, hstop, hparity, hflow⟩ := hreq
  -- the values are known to `apply_config`: no field is left as it was
  have hdata' := hc.dataBits
  have hstop' := hc.stopBits
  have hparity' := hc.parity
  rw [← hdata] at hdata'
  rw [← hstop] at hstop'
  rw [← hparity] at hparity'
  have hflow' : decide (config.hwFlowCtl ≠ 0) = c.hwFlowCtl := by
    rw [hflow]
    cases c.hwFlowCtl <;> rfl
  simp only [applyConfig, if_pos hdata', if_pos hstop', if_pos hparity']
  cases hallow : cfg.allowHwFlowCtrl with
  | true => exact ⟨hbaud, hdata, hstop, hparity, fun _ => hflow'⟩
  | false => exact ⟨hbaud, hdata, hstop, hparity, fun h => by rw [hallow] at h; cases h⟩

/-! ## Losing a configuration -/

/-- Whether the device has left a session or passed it over: what is in flight there is lost. -/
def Device.gone (d : Device) (s : Nat) : Bool :=
  s < d.nextSock && !(d.tcp.inSession && d.sock == s)

/-- Whether `read_msg` would find a `Config` among these bytes. -/
def holdsConfig (bs : Bytes) : Bool :=
  ((readMsg Block.zero).drain (bs.length + 1) bs).any fun r => r.items.any (·.frame.isConfig)

/-- A `Config` frame among whole frames is found. -/
theorem holdsConfig_stream {fs : List Frame} {f : Frame} (hf : f ∈ fs) (hk : f.isConfig = true)
    (rest : Bytes) : holdsConfig (stream Frame.bytes fs ++ rest) = true := by
  obtain ⟨r, hr, hpre⟩ := drain_readMsg_stream Block.zero fs rest (Nat.lt_succ_self _)
  obtain ⟨m, hm, rfl⟩ := List.mem_map.mp (hpre.subset hf)
  rw [holdsConfig, hr]
  exact List.any_eq_true.mpr ⟨m, hm, hk⟩

/-- Where no `Config` is found, no whole frame is one. -/
theorem not_isConfig_of_holdsConfig {bs rest : Bytes} {fs : List Frame}
    (h : holdsConfig bs = false) (heq : bs = stream Frame.bytes fs ++ rest) :
    ∀ f ∈ fs, f.isConfig = false := by
  intro f hf
  by_contra hk
  rw [heq, holdsConfig_stream hf (Bool.of_not_eq_false hk)] at h
  cases h

namespace World

/-- What a session took and the device has not read as a message: part of a message, and what is in
flight. -/
def unread (w : World) (s : Nat) : Bytes :=
  (w.device.holding s w.device.tcp.got).getD [] ++ w.up s

/-- No `Config` that a session took, or takes now, is lost by this step: the device leaves a
session, or passes over sessions in `accept`, only if no `Config` in them is unread, and the last
byte of a `Config` does not go to a session the device has left. -/
def keepsConfigs (w : World) : WorldInput → Bool
  | .device .selectFail | .device .recvFail | .device (.sendFail _) =>
      !holdsConfig (w.unread w.device.sock)
  | .device (.accept (some s)) =>
      (List.range s).all fun s' => s' < w.device.nextSock || !holdsConfig (w.up s')
  | .task (.tcpWrite n) =>
      w.task.tcp.framed.all fun f => !w.device.gone f.session || n < f.writeBuf.length ||
        !w.task.pc.sending.any DeviceMessage.isConfig
  | _ => true

/-- The daemon is connected, no bytes are in flight, and `tcp_to_uart_queue` has been drained. -/
structure AtRest (w : World) : Prop where
  /-- The task is connected. -/
  connected : w.task.state = .connected
  /-- `tcp.send` has no bytes left to write. -/
  flushed : ∀ f, w.task.tcp.framed = some f → f.writeBuf = []
  /-- Nothing is in flight in a session that the device serves or has still to accept. -/
  delivered : ∀ s < w.task.tcp.opened, w.device.gone s = false → w.up s = []
  /-- What was read is on the queue. -/
  enqueued : w.device.tcp.toEnqueue = []
  /-- The queue is empty. -/
  drained : w.device.tcpToUart.items = []
  /-- What was taken from it has been handled. -/
  handled : w.device.tx.toHandle = []
  /-- The chip is not restarting. -/
  running : w.device.aborted = false

/-- Every `Config` written to session `s` was read: whole frames written after those read are
something else. -/
def Settled (log : List WorldObs) (s : Nat) : Prop :=
  ∀ fs rest, wroteBytes s (taskLog log)
      = stream Frame.bytes ((readAt s (deviceLog log)).map Entry.frame ++ fs) ++ rest →
    ∀ f ∈ fs, f.isConfig = false

end World

/-- Only `tcp.send` writes to the session. -/
theorem ConnectionTask.Step.wrote_cases {t t' : ConnectionTask} {i : TaskInput}
    {out : List TaskObs} (hsound : Sound t) (h : Step t i t' out) :
    (∃ n f m, i = .tcpWrite n ∧ t.pc.sending = some m ∧ t.tcp.framed = some f ∧
        n ≤ f.writeBuf.length ∧ out = [.wrote f.session (f.writeBuf.take n)]) ∨
      ∀ s, wroteBytes s out = [] := by
  rcases h.socket_cases hsound with ⟨_, _, -, -, rfl⟩ | hwrote | ⟨-, hnone⟩
  · exact .inr fun _ => rfl
  · exact .inl hwrote
  · right
    intro s
    rw [wroteBytes, hnone]
    rfl

/-- How the device can leave the session it serves. -/
theorem Device.Step.leave_cases {cfg : DeviceConfig} {d d' : Device} {i : DevInput}
    {out : List DevObs} (h : Step cfg d i d' out) (hin : d.tcp.inSession = true)
    (hin' : d'.tcp.inSession = false) :
    (i = .selectFail ∨ i = .recvFail ∨ ∃ n, i = .sendFail n) ∧ out.filterMap DevObs.read? = [] := by
  cases h with
  | setup ok hpc =>
      rw [hpc] at hin
      cases hin
  | accept => cases hin'
  | selectFail => exact ⟨.inl rfl, rfl⟩
  | selectClient => cases hin'
  | selectEfd => cases hin'
  | recvMore hr hbs hr' =>
      have hstay := TcpPc.inSession_of_reading (by rw [hr']; exact Option.some_ne_none _)
      rw [hin'] at hstay
      cases hstay
  | recvDone => cases hin'
  | recvFail => exact ⟨.inr (.inl rfl), rfl⟩
  | @enqueue efd e q hpc hq => cases efd <;> cases hin'
  | readEfd => cases hin'
  | drainEmpty => cases hin'
  | drainTake => cases hin'
  | sendHdr => cases hin'
  | sendBody => cases hin'
  | sendFail => exact ⟨.inr (.inr ⟨_, rfl⟩), rfl⟩
  | _ =>
      have hstay : d.tcp.inSession = false := hin'
      rw [hin] at hstay
      cases hstay

/-- Sessions that are not gone: the one being served, and those to come. -/
theorem Device.gone_eq_false {d : Device} {s : Nat} :
    d.gone s = false ↔ d.nextSock ≤ s ∨ d.tcp.inSession = true ∧ d.sock = s := by
  rw [Device.gone]
  cases d.tcp.inSession with
  | true =>
      simp
      omega
  | false => simp

/-- A session that is gone without another being accepted was served and left. -/
theorem Device.left_of_gone {d d' : Device} {s : Nat} (hc : SameClient d d')
    (hn : d'.nextSock = d.nextSock) (hgone : d.gone s = false) (hgone' : d'.gone s = true) :
    (d.tcp.inSession = true ∧ d.sock = s) ∧ d'.tcp.inSession = false := by
  have hgone'' : ¬ (d'.nextSock ≤ s ∨ d'.tcp.inSession = true ∧ d'.sock = s) := by
    intro h
    rw [Device.gone_eq_false.mpr h] at hgone'
    cases hgone'
  rcases Device.gone_eq_false.mp hgone with hle | ⟨hin, rfl⟩
  · exact absurd (.inl (hn ▸ hle)) hgone''
  · refine ⟨⟨hin, rfl⟩, ?_⟩
    by_contra hin'
    have hin'' := Bool.of_not_eq_false hin'
    exact hgone'' (.inr ⟨hin'', (hc hin'').2⟩)

/-- A session that is gone once another was accepted was passed over. -/
theorem Device.passed_of_gone {d d' : Device} {s s' : Nat} (hin : d.tcp.inSession = false)
    (hin' : d'.tcp.inSession = true) (hsock : d'.sock = s') (hn : d'.nextSock = s' + 1)
    (hgone : d.gone s = false) (hgone' : d'.gone s = true) : d.nextSock ≤ s ∧ s < s' := by
  have hgone'' : ¬ (d'.nextSock ≤ s ∨ d'.tcp.inSession = true ∧ d'.sock = s) := by
    intro h
    rw [Device.gone_eq_false.mpr h] at hgone'
    cases hgone'
  have hne : s' ≠ s := fun h => hgone'' (.inr ⟨hin', hsock.trans h⟩)
  have hle : ¬ d'.nextSock ≤ s := fun h => hgone'' (.inl h)
  rcases Device.gone_eq_false.mp hgone with hge | ⟨hin₀, -⟩
  · exact ⟨hge, by omega⟩
  · rw [hin] at hin₀
    cases hin₀

/-- Only the session being served is read. -/
theorem Device.readAt_of_session {out : List DevObs} {s : Nat}
    (h : ∀ s' ∈ out.filterMap DevObs.session?, s' ≠ s) : readAt s out = [] := by
  apply valuesAt_eq_nil
  intro x hx
  obtain ⟨o, ho, hox⟩ := List.mem_filterMap.mp hx
  exact h x.1 (List.mem_filterMap.mpr ⟨o, ho, DevObs.session?_of_read? hox⟩)

namespace World

variable {cfg : DeviceConfig} {name : String} {addr : UInt32} {port : UInt16} {master : AsyncPty}
  {ok : World → WorldInput → Prop} {log : List WorldObs} {w : World}

/-- Outside of the session being served, everything unread is in flight. -/
theorem unread_eq_up {s : Nat} (h : ¬ (w.device.tcp.inSession = true ∧ w.device.sock = s)) :
    w.unread s = w.up s := by
  rw [unread, Device.holding, if_neg h]
  rfl

/-- **What a session took** was read as whole messages, or is unread, unless the session is gone. -/
theorem wrote_eq_of_not_gone
    (h : (machine cfg (ConnectionTask.spawn name addr port master)).Run ok log w) {s : Nat}
    (hs : w.device.gone s = false) :
    wroteBytes s (taskLog log)
      = stream Frame.bytes ((readAt s (deviceLog log)).map Entry.frame) ++ w.unread s := by
  have hdev := device_of_run h
  have hclients := Device.clients_of_reaches hdev
  have hup := ((carried_of_run h).up s).eq_append
  by_cases hserved : w.device.tcp.inSession = true ∧ w.device.sock = s
  · obtain ⟨hin, rfl⟩ := hserved
    have hread := (Device.received_of_reaches hdev).bytes w.device.sock
    rw [Device.holding_self hin] at hread
    rw [hup, hread.eq_append, unread, Device.holding_self hin, List.append_assoc]
    rfl
  · -- the session is still to be accepted: nothing was received in it
    have hle : w.device.nextSock ≤ s := by
      rcases Device.gone_eq_false.mp hs with hle | hserved'
      · exact hle
      · exact absurd hserved' hserved
    have hrecv : devRecvBytes s (deviceLog log) = [] := by
      rw [devRecvBytes, hclients.ordered.valuesAt_eq_nil
        (fun _ _ _ => DevObs.session?_of_recv?) hle]
      rfl
    have hread : readAt s (deviceLog log) = [] :=
      hclients.ordered.valuesAt_eq_nil (fun _ _ _ => DevObs.session?_of_read?) hle
    rw [hup, hrecv, hread, unread_eq_up hserved]
    rfl

/-- A session that goes away with no `Config` unread is settled. -/
theorem settled_of_unread
    (h : (machine cfg (ConnectionTask.spawn name addr port master)).Run ok log w) {s : Nat}
    (hs : w.device.gone s = false) (hunread : holdsConfig (w.unread s) = false) :
    Settled log s := by
  intro fs rest heq
  rw [wrote_eq_of_not_gone h hs, stream_append, List.append_assoc] at heq
  exact not_isConfig_of_holdsConfig hunread (List.append_cancel_left heq)

/-- Writing to a session that is gone keeps it settled, as long as no `Config` becomes whole. -/
theorem Settled.write {t : ConnectionTask} {s n : Nat} {m : DeviceMessage} {f : Framed}
    {infl : Option DeviceMessage} {held : List DeviceMessage}
    (hset : Settled log s) (hw : ConnectionTask.Writes (taskLog log) t infl held)
    (hinfl : infl = some m) (hf : t.tcp.framed = some f) (hses : f.session = s)
    (hguard : n < f.writeBuf.length ∨ m.isConfig = false)
    {fs : List Frame} {rest : Bytes}
    (heq : wroteBytes s (taskLog log) ++ f.writeBuf.take n
      = stream Frame.bytes ((readAt s (deviceLog log)).map Entry.frame ++ fs) ++ rest) :
    ∀ g ∈ fs, g.isConfig = false := by
  subst hses
  obtain ⟨p, hp, hpb⟩ := hw.current f.session f.writeBuf (ConnectionTask.outgoing_eq hf)
  rw [hinfl] at hpb
  have hframe : p ++ f.writeBuf = m.frame.bytes := by simpa using hpb
  -- frames that were whole before the write are settled
  have hold : ∀ es, (readAt f.session (deviceLog log)).map Entry.frame ++ es
      <+: sentFrames f.session (taskLog log) → ∀ g ∈ es, g.isConfig = false := by
    rintro es ⟨es', hes⟩
    apply hset es (stream Frame.bytes es' ++ p)
    rw [hp, ← hes, stream_append, List.append_assoc]
  have hpre : stream Frame.bytes ((readAt f.session (deviceLog log)).map Entry.frame ++ fs)
      <+: stream Frame.bytes (sentFrames f.session (taskLog log))
        ++ (p ++ f.writeBuf.take n) := by
    rw [← List.append_assoc, ← hp, heq]
    exact List.prefix_append _ _
  have hpart : p ++ f.writeBuf.take n <+: m.frame.bytes := by
    rw [← hframe]
    exact (List.prefix_append_right_inj p).mpr (List.take_prefix n _)
  rcases hguard with hlt | hm
  · -- the frame is still not whole
    have hne : p ++ f.writeBuf.take n ≠ m.frame.bytes := by
      intro h
      have hlen := congrArg List.length (h.trans hframe.symm)
      simp only [List.length_append, List.length_take] at hlen
      omega
    exact hold fs (Frame.selfDelimiting_bytes.of_flatten_cut hpart hne hpre)
  · have hall : (readAt f.session (deviceLog log)).map Entry.frame ++ fs
        <+: sentFrames f.session (taskLog log) ++ [m.frame] := by
      apply Frame.selfDelimiting_bytes.of_flatten
      refine hpre.trans ?_
      rw [stream_append]
      exact (List.prefix_append_right_inj _).mpr (by simpa using hpart)
    rcases List.prefix_concat_iff.mp hall with hall | hall
    · rcases List.eq_nil_or_concat fs with rfl | ⟨es, g, rfl⟩
      · exact nofun
      · rw [List.concat_eq_append, ← List.append_assoc] at hall
        obtain ⟨hes, hg⟩ := List.append_inj' hall rfl
        intro g' hg'
        rw [List.concat_eq_append, List.mem_append] at hg'
        rcases hg' with hg' | hg'
        · exact hold es (hes ▸ List.prefix_rfl) g' hg'
        · rw [List.mem_singleton.mp hg', List.cons.inj hg |>.1, DeviceMessage.isConfig_frame]
          exact hm
    · exact hold fs hall

/-- A step of the connection task keeps the sessions settled that are gone. -/
theorem Settled.task_step {i : TaskInput} {t' : ConnectionTask} {out : List TaskObs} {s : Nat}
    (h : (machine cfg (ConnectionTask.spawn name addr port master)).Run ok log w)
    (hset : Settled log s) (hgone : w.device.gone s = true)
    (hkeep : w.keepsConfigs (.task i) = true) (hs : w.task.step i = some (t', out)) :
    Settled (log ++ out.map .task) s := by
  have htask := task_of_run h
  have hsound := ConnectionTask.sound_of_reaches htask.reaches
  intro fs rest heq
  rw [taskLog_append, deviceLog_append, taskLog_task, deviceLog_task, wroteBytes_append,
    List.append_nil] at heq
  rcases (ConnectionTask.step_cases hs).wrote_cases hsound with
    ⟨n, f, m, rfl, hsend, hf, hle, rfl⟩ | hnone
  · -- only a write to this session can make another frame whole
    by_cases hses : f.session = s
    · obtain ⟨infl, held, hw⟩ := ConnectionTask.writes_of_run htask
      have hinfl := (hw.infl_eq (hsound.state_of_sending hsend)).trans hsend
      have hguard : n < f.writeBuf.length ∨ m.isConfig = false := by
        simpa [keepsConfigs, hf, hses, hgone, hsend] using hkeep
      have hwrote : wroteBytes s [.wrote f.session (f.writeBuf.take n)] = f.writeBuf.take n := by
        show (valuesAt s [(f.session, f.writeBuf.take n)]).flatten = _
        rw [valuesAt_singleton, if_pos hses]
        exact List.append_nil _
      rw [hwrote] at heq
      exact hset.write hw hinfl hf hses hguard heq
    · have hwrote : wroteBytes s [.wrote f.session (f.writeBuf.take n)] = [] := by
        show (valuesAt s [(f.session, f.writeBuf.take n)]).flatten = _
        rw [valuesAt_singleton, if_neg hses]
        rfl
      rw [hwrote, List.append_nil] at heq
      exact hset fs rest heq
  · rw [hnone s, List.append_nil] at heq
    exact hset fs rest heq

/-- A step of the device that reads nothing in a session keeps it settled. -/
theorem Settled.device_quiet {out : List DevObs} {s : Nat} (hset : Settled log s)
    (hread : readAt s out = []) : Settled (log ++ out.map .device) s := by
  intro fs rest heq
  rw [taskLog_append, deviceLog_append, taskLog_device, deviceLog_device, readAt_append, hread,
    List.append_nil, List.append_nil] at heq
  exact hset fs rest heq

/-- The device leaves a session with no `Config` unread in it. -/
theorem Settled.of_left {i : DevInput} {d' : Device} {out : List DevObs}
    (h : (machine cfg (ConnectionTask.spawn name addr port master)).Run ok log w)
    (hkeep : w.keepsConfigs (.device i) = true) (hstep : Device.Step cfg w.device i d' out)
    (hin : w.device.tcp.inSession = true) (hin' : d'.tcp.inSession = false) :
    Settled (log ++ out.map .device) w.device.sock := by
  obtain ⟨hi, hread⟩ := hstep.leave_cases hin hin'
  have hgone : w.device.gone w.device.sock = false := Device.gone_eq_false.mpr (.inr ⟨hin, rfl⟩)
  have hunread : holdsConfig (w.unread w.device.sock) = false := by
    rcases hi with rfl | rfl | ⟨n, rfl⟩ <;> simpa [keepsConfigs] using hkeep
  refine (settled_of_unread h hgone hunread).device_quiet ?_
  rw [readAt, hread]
  rfl

/-- The device passes over a session with no `Config` in flight in it. -/
theorem Settled.of_passed {i : DevInput} {d' : Device} {out : List DevObs} {s s' : Nat}
    (h : (machine cfg (ConnectionTask.spawn name addr port master)).Run ok log w)
    (hkeep : w.keepsConfigs (.device i) = true) (hstep : Device.Step cfg w.device i d' out)
    (hout : out = [.accepted s']) (hin : w.device.tcp.inSession = false)
    (hn : d'.nextSock = s' + 1) (hge : w.device.nextSock ≤ s) (hlt : s < s') :
    Settled (log ++ out.map .device) s := by
  subst hout
  have hup : holdsConfig (w.up s) = false := by
    rcases hstep.nextSock_eq with ⟨s'', rfl, hn'⟩ | hn'
    · obtain rfl : s'' = s' := by omega
      simp only [keepsConfigs, List.all_eq_true, List.mem_range] at hkeep
      simpa [Nat.not_lt.mpr hge] using hkeep s hlt
    · omega
  have hserved : ¬ (w.device.tcp.inSession = true ∧ w.device.sock = s) := by
    rintro ⟨hin₀, -⟩
    rw [hin] at hin₀
    cases hin₀
  rw [← unread_eq_up hserved] at hup
  exact (settled_of_unread h (Device.gone_eq_false.mpr (.inl hge)) hup).device_quiet rfl

/-- A step of the device settles the sessions that are gone after it. -/
theorem Settled.device_step {i : DevInput} {d' : Device} {out : List DevObs} {s : Nat}
    (h : (machine cfg (ConnectionTask.spawn name addr port master)).Run ok log w)
    (hset : w.device.gone s = true → Settled log s) (hgone' : d'.gone s = true)
    (hkeep : w.keepsConfigs (.device i) = true) (hs : w.device.step cfg i = some (d', out)) :
    Settled (log ++ out.map .device) s := by
  have hstep := Device.step_cases hs
  cases hstep.clientStep with
  | same hc hn hout =>
      cases hgone : w.device.gone s with
      | true =>
          -- the session was gone before: nothing more is read in it
          refine (hset hgone).device_quiet (Device.readAt_of_session ?_)
          rintro s' hs' rfl
          obtain ⟨hin, rfl⟩ := hout s' hs'
          rw [Device.gone_eq_false.mpr (.inr ⟨hin, rfl⟩)] at hgone
          cases hgone
      | false =>
          obtain ⟨⟨hin, rfl⟩, hin'⟩ := Device.left_of_gone hc hn hgone hgone'
          exact Settled.of_left h hkeep hstep hin hin'
  | accept hout hle hin hin' hsock hn =>
      cases hgone : w.device.gone s with
      | true =>
          refine (hset hgone).device_quiet ?_
          rw [hout]
          rfl
      | false =>
          obtain ⟨hge, hlt⟩ := Device.passed_of_gone hin hin' hsock hn hgone hgone'
          exact Settled.of_passed h hkeep hstep hout hin hn hge hlt

/-- **Every `Config` written to a session that is over was read**, in every run that loses none. -/
theorem settled_of_run
    (h : (machine cfg (ConnectionTask.spawn name addr port master)).Run
      (fun w i => w.keepsConfigs i = true) log w) :
    ∀ s, w.device.gone s = true → Settled log s := by
  refine h.invariant (P := fun log w => ∀ s, w.device.gone s = true → Settled log s) ?_ ?_
  · intro s hgone
    have hnot : (init (ConnectionTask.spawn name addr port master)).device.gone s = false :=
      Device.gone_eq_false.mpr (.inl (Nat.zero_le s))
    rw [show (machine cfg (ConnectionTask.spawn name addr port master)).init
      = init (ConnectionTask.spawn name addr port master) from rfl, hnot] at hgone
    cases hgone
  · intro log w i w' out hr hset hkeep hs s hgone'
    cases step_cases hs with
    | task hadm hs' => exact (hset s hgone').task_step hr hgone' hkeep hs'
    | device hadm hs' => exact Settled.device_step hr (hset s) hgone' hkeep hs'

end World

/-! ## At rest -/

/-- What a frame says to `apply_config`. -/
def Frame.configure? (f : Frame) : Option UartRequest := if f.isConfig then f.request? else none

/-- What an entry says to `apply_config` is what its frame says. -/
theorem Entry.request_config? (e : Entry) :
    e.config?.map ConfigMessage.request = e.frame.configure? := by
  have hreq : e.frame.request? = e.msg.request? := e.msg.request?_eq.symm
  by_cases hk : e.msg.kind = MESSAGE_KIND_CONFIG
  · have hcfg : e.frame.isConfig = true := decide_eq_true hk
    have hdata : e.msg.kind ≠ MESSAGE_KIND_DATA := by
      rw [hk]
      decide
    rw [Frame.configure?, if_pos hcfg, hreq, Message.request?, if_neg hdata, if_pos hk]
    by_cases hlen : e.msg.len.toNat = sizeofConfigMessage
    · have hsome : e.config? = some (ConfigMessage.ofBody e.msg.body) := if_pos ⟨hk, hlen⟩
      rw [hsome, if_neg (not_not.mpr hlen)]
      rfl
    · have hnone : e.config? = none := if_neg fun h => hlen h.2
      rw [hnone, if_pos hlen]
      rfl
  · have hcfg : ¬ e.frame.isConfig = true := fun h => hk (of_decide_eq_true h)
    rw [Frame.configure?, if_neg hcfg, Entry.config?_of_kind hk]
    rfl

/-- What was read from the PTY says to `apply_config` what it says. -/
theorem PtyRead.configure?_frame (r : PtyRead) :
    r.message.frame.configure? = r.termios?.map fun c => (PtyRead.termios c).request := by
  cases r with
  | data bs => rfl
  | termios c =>
      have hfit : (PtyRead.termios c).Fits := trivial
      have hcfg : (PtyRead.termios c).message.frame.isConfig = true := rfl
      rw [Frame.configure?, if_pos hcfg, PtyRead.request?_frame hfit]
      rfl

/-- Whatever is no `Config` says nothing to `apply_config`. -/
theorem filterMap_configure?_eq_nil {fs : List Frame} (h : ∀ f ∈ fs, f.isConfig = false) :
    fs.filterMap Frame.configure? = [] := by
  rw [List.filterMap_eq_nil_iff]
  intro f hf
  rw [Frame.configure?, h f hf]
  rfl

/-- Control messages say nothing to `apply_config`. -/
theorem filterMap_configure?_uartMessages (ms : List DeviceMessage) :
    ((uartMessages ms).map DeviceMessage.frame).filterMap Frame.configure?
      = (ms.map DeviceMessage.frame).filterMap Frame.configure? := by
  rw [← filter_isUart_map_frame, List.filterMap_filter]
  apply List.filterMap_congr
  intro f _
  by_cases hu : f.isUart = true
  · rw [if_pos hu]
  · rw [if_neg hu, Frame.configure?, if_neg]
    intro hc
    have hkind : f.kind = 2 := of_decide_eq_true hc
    apply hu
    simp [Frame.isUart, hkind]

namespace ConnectionTask

variable {log : List TaskObs} {t : ConnectionTask} {infl : Option DeviceMessage}
  {held : List DeviceMessage}

/-- With nothing left in the write buffer, every session took the whole frames it was given, and
then at most part of one more. -/
theorem Writes.wrote_of_flushed (hw : Writes log t infl held)
    (hflush : ∀ f, t.tcp.framed = some f → f.writeBuf = []) (s : Nat) :
    ∃ p, wroteBytes s log
      = stream Frame.bytes ((valuesAt s (given log t infl)).map DeviceMessage.frame) ++ p := by
  rw [given, valuesAt_append, List.map_append]
  show ∃ p, _ = stream Frame.bytes (sentFrames s log ++ _) ++ p
  by_cases hcur : t.session = some s
  · -- the open session took the frame being sent to its end
    obtain ⟨f, hf, hses⟩ := Option.map_eq_some_iff.mp hcur
    subst hses
    obtain ⟨p, hp, hpb⟩ := hw.current f.session f.writeBuf (outgoing_eq hf)
    have hinfl : valuesAt f.session (infl.toList.map (f.session, ·)) = infl.toList := by
      cases infl <;> simp
    rw [hflush f hf, List.append_nil] at hpb
    refine ⟨[], ?_⟩
    rw [hcur, Option.elim_some, hinfl, stream_append, hp, hpb, List.append_nil]
  · have hnone : valuesAt s (t.session.elim [] fun s' => infl.toList.map (s', ·)) = [] := by
      apply valuesAt_eq_nil
      intro x hx hxs
      cases hses : t.session with
      | none =>
          rw [hses] at hx
          cases hx
      | some s' =>
          rw [hses] at hx
          obtain ⟨m, -, rfl⟩ := List.mem_map.mp hx
          exact hcur (hses.trans (congrArg some hxs))
    have hout : ∀ b, t.outgoing ≠ some (s, b) := by
      intro b hb
      obtain ⟨f, hf, heq⟩ := Option.map_eq_some_iff.mp hb
      cases heq
      apply hcur
      rw [session, hf]
      rfl
    obtain ⟨p, f, hp, -⟩ := hw.past s hout
    refine ⟨p, ?_⟩
    rw [hnone, List.map_nil, List.append_nil, hp]

/-- While connected, what was given, control messages aside, is what was read. -/
theorem Writes.given_eq (hw : Writes log t infl held) (hs : Sound t)
    (hst : t.state = .connected) :
    uartMessages ((given log t infl).map Prod.snd) = readMessages log := by
  have hne : t.state ≠ .shuttingDown := by
    rw [hst]
    nofun
  obtain ⟨f, hf⟩ := Option.ne_none_iff_exists'.mp (hs.framed_of_connected hst)
  have hses : t.session = some f.session := by
    rw [session, hf]
    rfl
  have hid : (infl.toList.map fun m => (f.session, m)).map Prod.snd = infl.toList := by
    rw [List.map_map]
    exact List.map_id _
  have hinfl : uartMessages infl.toList = held := by
    rw [hw.infl_eq hne, hw.held_eq hne]
    by_cases hsend : ∃ m, t.pc = .connectedSend m
    · obtain ⟨m, hpc⟩ := hsend
      rw [ConnectionTask.held, hpc]
      exact uartMessages_singleton (hs.sending m hpc)
    · have hheld := Sound.held_of_connected hst fun m hpc => hsend ⟨m, hpc⟩
      have hpre := hw.infl_held
      rw [hw.infl_eq hne, hw.held_eq hne, hheld, List.prefix_nil] at hpre
      rw [hheld, hpre]
  rw [given, List.map_append, uartMessages_append, hw.reads_eq, hses, Option.elim_some, hid, hinfl]
  rfl

end ConnectionTask

namespace World

variable {cfg : DeviceConfig} {name : String} {addr : UInt32} {port : UInt16} {master : AsyncPty}
  {ok : World → WorldInput → Prop} {log : List WorldObs} {w : World}

/-- Nothing is in flight in a session that is not opened. -/
theorem up_eq_nil_of_opened_le
    (h : (machine cfg (ConnectionTask.spawn name addr port master)).Run ok log w) {s : Nat}
    (hs : w.task.tcp.opened ≤ s) : w.up s = [] := by
  have hses := ConnectionTask.sessions_of_reaches (task_of_run h).reaches
  have hwrote : wroteBytes s (taskLog log) = [] := by
    rw [wroteBytes, valuesAt_eq_nil]
    · rfl
    · rintro ⟨s', bs⟩ hx rfl
      obtain ⟨o, ho, hos⟩ := List.mem_filterMap.mp hx
      have := hses.below s' (List.mem_filterMap.mpr ⟨o, ho, TaskObs.session?_of_wrote? hos⟩)
      omega
  have hup := ((carried_of_run h).up s).eq_append
  rw [hwrote] at hup
  exact (List.append_eq_nil_iff.mp hup.symm).2

/-- **At rest every `Config` given to a session was read**, in every run that loses none. -/
theorem AtRest.given_read (hrest : w.AtRest)
    (h : (machine cfg (ConnectionTask.spawn name addr port master)).Run
      (fun w i => w.keepsConfigs i = true) log w)
    {infl : Option DeviceMessage} {held : List DeviceMessage}
    (hw : ConnectionTask.Writes (taskLog log) w.task infl held) (s : Nat) :
    ((valuesAt s (ConnectionTask.given (taskLog log) w.task infl)).map
        DeviceMessage.frame).filterMap Frame.configure?
      = ((readAt s (deviceLog log)).map Entry.frame).filterMap Frame.configure? := by
  have hdev := device_of_run h
  have hread : stream Frame.bytes ((readAt s (deviceLog log)).map Entry.frame)
      <+: wroteBytes s (taskLog log) :=
    ((Device.received_of_reaches hdev).bytes s).outp_isPrefix.trans
      ((carried_of_run h).up s).outp_isPrefix
  obtain ⟨fs, hfs⟩ := hw.valuesAt_given hread
  obtain ⟨p, hp⟩ := hw.wrote_of_flushed hrest.flushed s
  rw [← hfs] at hp ⊢
  rw [List.filterMap_append]
  apply List.append_right_eq_self.mpr
  apply filterMap_configure?_eq_nil
  cases hgone : w.device.gone s with
  | true => exact settled_of_run h s hgone fs p hp
  | false =>
      -- all that is unread is part of a message
      have hup : w.up s = [] := by
        rcases Nat.lt_or_ge s w.task.tcp.opened with hlt | hge
        · exact hrest.delivered s hlt hgone
        · exact up_eq_nil_of_opened_le h hge
      rw [wrote_eq_of_not_gone h hgone, unread, hup, List.append_nil, stream_append,
        List.append_assoc] at hp
      have hpart := List.append_cancel_left hp
      cases fs with
      | nil => exact nofun
      | cons f fs =>
          exfalso
          rw [stream_cons, List.append_assoc] at hpart
          have hpre : f.bytes <+: (w.device.holding s w.device.tcp.got).getD [] :=
            ⟨_, hpart.symm⟩
          rw [Device.holding] at hpre
          split at hpre
          · exact Device.partial_of_reaches hdev f hpre
          · exact Frame.selfDelimiting_bytes.ne_nil f (List.prefix_nil.mp hpre)

/-- The configurations applied at rest are those of the messages read. -/
theorem AtRest.applied_eq (hrest : w.AtRest)
    (h : (machine cfg (ConnectionTask.spawn name addr port master)).Run ok log w) :
    (appliedConfigs (deviceLog log)).map ConfigMessage.request
      = ((readEntries (deviceLog log)).map Prod.snd).filterMap fun e => e.frame.configure? := by
  have hdev := device_of_run h
  have happlied := (Device.configs_conveyed hdev).eq_append
  have htaken := (Device.tcpToUart_conveyed hdev).eq_append
  have henq := (Device.enqueued_conveyed hdev).eq_append
  rw [Device.toHandle_eq hrest.running, hrest.handled, List.filterMap_nil, List.append_nil]
    at happlied
  rw [hrest.drained, List.append_nil] at htaken
  rw [Device.toEnqueue, hrest.enqueued, List.map_nil, List.append_nil] at henq
  rw [← happlied, ← htaken, ← henq, List.map_filterMap]
  apply List.filterMap_congr
  intro e _
  exact e.request_config?

/-- **At rest the configurations applied are the changes read**, in every run that loses none. -/
theorem AtRest.requests_eq (hrest : w.AtRest)
    (h : (machine cfg (ConnectionTask.spawn name addr port master)).Run
      (fun w i => w.keepsConfigs i = true) log w) :
    (appliedConfigs (deviceLog log)).map ConfigMessage.request
      = (termiosChanges (taskLog log)).map fun c => (PtyRead.termios c).request := by
  have htask := task_of_run h
  have hsound := ConnectionTask.sound_of_reaches htask.reaches
  obtain ⟨infl, held, hw⟩ := ConnectionTask.writes_of_run htask
  have hgiven := (ConnectionTask.sessions_of_reaches htask.reaches).pairwise_given infl
  have hread : (readEntries (deviceLog log)).Pairwise fun a b => a.1 ≤ b.1 :=
    pairwise_filterMap_of_sorted (fun _ _ _ => DevObs.session?_of_read?)
      (Device.clients_of_reaches (device_of_run h)).ordered.sorted
  -- session by session, and so as a whole: what was read is what was given
  have hagree := filterMap_eq_of_sorted (f := fun e : Entry => e.frame.configure?)
    (g := fun m : DeviceMessage => m.frame.configure?) hread hgiven fun s => by
      have hs := hrest.given_read h hw s
      rw [List.filterMap_map, List.filterMap_map] at hs
      exact hs.symm
  have hfold : ∀ ms : List DeviceMessage, ms.filterMap (fun m => m.frame.configure?)
      = (ms.map DeviceMessage.frame).filterMap Frame.configure? := fun ms => by
    rw [List.filterMap_map]
    rfl
  rw [hrest.applied_eq h, hagree, hfold, ← filterMap_configure?_uartMessages,
    hw.given_eq hsound hrest.connected, ← hfold, readMessages, List.filterMap_map, termiosChanges,
    List.map_filterMap]
  apply List.filterMap_congr
  intro r _
  exact r.configure?_frame

/-- A change that was reported was read from the PTY. -/
theorem valid_of_termiosChanges
    (h : (machine cfg (ConnectionTask.spawn name addr port master)).Run ok log w)
    {c : TermiosChange} (hc : c ∈ termiosChanges (taskLog log)) : c.Valid := by
  obtain ⟨r, hr, hrc⟩ := List.mem_filterMap.mp hc
  obtain ⟨o, ho, hor⟩ := List.mem_filterMap.mp hr
  have hmem : TaskObs.ptyRead (.termios c) ∈ taskLog log := by
    cases r <;> cases hrc
    cases o <;> cases hor
    exact ho
  exact ConnectionTask.valid_of_reaches (task_of_run h).reaches c hmem

/-- **Agreement on the settings.** In every run in which no step drops a `Config` that a session
took, whenever the task is connected, no bytes are in flight and `tcp_to_uart_queue` has been
drained, `apply_config` was last called with the settings that `AsyncPty::read` reported last, and
they are the settings of the driver. -/
theorem config_agreement
    (h : (machine cfg (ConnectionTask.spawn name addr port master)).Run
      (fun w i => w.keepsConfigs i = true) log w) (hrest : w.AtRest) {c : TermiosChange}
    (hc : (termiosChanges (taskLog log)).getLast? = some c) :
    (∃ config, (appliedConfigs (deviceLog log)).getLast? = some config ∧
        config.request = (PtyRead.termios c).request) ∧
      w.device.settings.Shows cfg c := by
  have hlast := congrArg List.getLast? (hrest.requests_eq h)
  rw [List.getLast?_map, List.getLast?_map, hc] at hlast
  obtain ⟨config, hconfig, hreq⟩ := Option.map_eq_some_iff.mp hlast
  refine ⟨⟨config, hconfig, hreq⟩, ?_⟩
  have hvalid := valid_of_termiosChanges h (List.mem_of_getLast? hc)
  obtain ⟨before, hbefore⟩ := List.getLast?_eq_some_iff.mp hconfig
  rw [Device.settings_of_reaches (device_of_run h) hrest.running, hbefore, Device.settingsAfter,
    List.foldl_append]
  exact shows_applyConfig hreq hvalid _

/-- At rest in the second session, the first one being over. -/
theorem AtRest.of_second {f : Framed} (hst : w.task.state = .connected)
    (hf : w.task.tcp.framed = some f ∧ f.writeBuf = [])
    (hup : w.task.tcp.opened = 2 ∧ w.device.gone 0 = true ∧ w.up 1 = [])
    (hdev : w.device.tcp.toEnqueue = [] ∧ w.device.tcpToUart.items = [] ∧
      w.device.tx.toHandle = [] ∧ w.device.aborted = false) : w.AtRest where
  connected := hst
  flushed := by
    intro f' hf'
    cases hf.1.symm.trans hf'
    exact hf.2
  delivered := by
    obtain ⟨hopened, hgone, hup⟩ := hup
    intro s hs hgone'
    rw [hopened] at hs
    match s, hs with
    | 0, _ =>
        rw [hgone] at hgone'
        cases hgone'
    | 1, _ => exact hup
  enqueued := hdev.1
  drained := hdev.2.1
  handled := hdev.2.2.1
  running := hdev.2.2.2

/-- A change whose first sending fails after three bytes: the device leaves the session with part of
the message unread, and the message is sent again in the next session. -/
theorem config_agreement_sent_again :
    ∃ log w c, (machine ⟨true, false⟩
        (ConnectionTask.spawn "a" 0 0 (AsyncPty.new ⟨0, 0, .B9600⟩))).Run
          (fun w i => w.keepsConfigs i = true) log w ∧ w.AtRest ∧
      closedCount (taskLog log) = 1 ∧ (termiosChanges (taskLog log)).getLast? = some c ∧
      (∃ config, (appliedConfigs (deviceLog log)).getLast? = some config ∧
        config.request = (PtyRead.termios c).request) ∧
      w.device.settings.Shows ⟨true, false⟩ c := by
  have hrun : ((machine ⟨true, false⟩
      (ConnectionTask.spawn "a" 0 0 (AsyncPty.new ⟨0, 0, .B9600⟩))).restrict
        keepsConfigs).Reaches _ _ :=
    Machine.Reaches.init.exec [.task .resume, .task .sleepElapsed, .task (.connect .ok),
      .task .resume, .task (.slaveSet ⟨0, 0, .B115200⟩), .task (.ptyReadv (.packet 64 []) none),
      .task (.tcpWrite 3), .device (.setup true), .device (.accept (some 0)),
      .device (.select true false Block.zero), .device (.recv [2, 8]), .device (.recv [0]),
      .device .recvFail, .task .tcpSendErr,
      .task .resume, .task .sleepElapsed, .task (.connect .ok), .task .resume,
      .task (.tcpWrite 10), .task .tcpSent,
      .device (.accept (some 1)), .device (.select true false Block.zero), .device (.recv [2, 8]),
      .device (.recv [0, 1, 194, 0, 5, 1, 0, 0]), .device .tcpEnqueue, .device .txRecv,
      .device (.txHandle Block.zero false)] rfl
  obtain ⟨log, w, hkeeps, hrest, hclosed, hlast⟩ : ∃ log w, (machine ⟨true, false⟩
      (ConnectionTask.spawn "a" 0 0 (AsyncPty.new ⟨0, 0, .B9600⟩))).Run
        (fun w i => w.keepsConfigs i = true) log w ∧ w.AtRest ∧ closedCount (taskLog log) = 1 ∧
      (termiosChanges (taskLog log)).getLast? = some (getTermiosChange ⟨0, 0, .B115200⟩) :=
    ⟨_, _, hrun.of_restrict (fun w i => w.keepsConfigs i = true) fun _ _ h => h,
      .of_second rfl ⟨rfl, rfl⟩ ⟨rfl, rfl, rfl⟩ ⟨rfl, rfl, rfl, rfl⟩, rfl, rfl⟩
  exact ⟨log, w, _, hkeeps, hrest, hclosed, hlast, config_agreement hkeeps hrest hlast⟩

/-- The configuration is lost: all of it was written and `tcp.send` returned `Ok`, and the device
leaves the session before it has read it. The daemon notices on the reading side, keeps nothing, and
is connected again; the settings on the device are still the initial ones. -/
theorem config_lost :
    ∃ log w c, (machine ⟨true, false⟩
        (ConnectionTask.spawn "a" 0 0 (AsyncPty.new ⟨CS8, 0, .B9600⟩))).Reaches log w ∧
      w.AtRest ∧ (termiosChanges (taskLog log)).getLast? = some c ∧ c.baudrate = 4800 ∧
      appliedConfigs (deviceLog log) = [] ∧ w.device.settings.baudRate = 115200 ∧
      ¬ w.device.settings.Shows ⟨true, false⟩ c := by
  have hrun : (machine ⟨true, false⟩
      (ConnectionTask.spawn "a" 0 0 (AsyncPty.new ⟨CS8, 0, .B9600⟩))).Reaches _ _ :=
    Machine.Reaches.init.exec [.task .resume, .task .sleepElapsed, .task (.connect .ok),
      .task .resume, .device (.setup true), .device (.accept (some 0)),
      .task (.slaveSet ⟨CS8, 0, .B4800⟩), .task (.ptyReadv (.packet 64 []) none),
      .task (.tcpWrite 10), .task .tcpSent,
      .device (.select true false Block.zero), .device .recvFail, .task .resume, .task .tcpEnd,
      .task .resume, .task .sleepElapsed, .task (.connect .ok), .task .resume,
      .device (.accept (some 1))] rfl
  refine ⟨_, _, getTermiosChange ⟨CS8, 0, .B4800⟩, hrun,
    .of_second rfl ⟨rfl, rfl⟩ ⟨rfl, rfl, rfl⟩ ⟨rfl, rfl, rfl, rfl⟩, rfl, rfl, rfl, rfl, ?_⟩
  intro h
  have hbaud : (115200 : UInt32) = 4800 := h.baudRate
  exact absurd hbaud (by decide)

end World

end TcpUart
