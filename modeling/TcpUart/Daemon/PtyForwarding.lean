import Mathlib.Data.Nat.Basic
import TcpUart.Daemon.ConnectionHistory

/-! # What becomes of a message read from the PTY
A message read from the PTY is sent, or kept and sent again after a reconnect. `WriteEffect` says
what a step can do to the messages on their way: nothing, begin to send one, write bytes of it,
finish it, lose the session, or open one.

* `nothing_lost` — until shutdown, what was read is what was sent, followed by the message held.
* `Writes` — what each session was given: the frames of the messages sent in it, and then at most a
  part of one more frame. -/

namespace TcpUart

open Reactive Framing

/-- Control messages, as opposed to `Data` and `Config`. -/
def DeviceMessage.isControl : DeviceMessage → Bool
  | .controlReq _ | .controlRes _ => true
  | _ => false

/-- A forwardable message is no control message. -/
theorem DeviceMessage.Forwardable.isControl_eq {m : DeviceMessage} (h : m.Forwardable) :
    m.isControl = false := by
  cases m with
  | data => rfl
  | config => rfl
  | controlReq => exact h.elim
  | controlRes => exact h.elim

/-- The messages of a list that are not control messages. -/
def uartMessages (ms : List DeviceMessage) : List DeviceMessage := ms.filter (!·.isControl)

@[simp] theorem uartMessages_nil : uartMessages [] = [] := rfl

@[simp] theorem uartMessages_append (ms ms' : List DeviceMessage) :
    uartMessages (ms ++ ms') = uartMessages ms ++ uartMessages ms' := List.filter_append ms ms'

/-- A forwardable message stays. -/
theorem uartMessages_singleton {m : DeviceMessage} (h : m.Forwardable) :
    uartMessages [m] = [m] := by
  rw [uartMessages, List.filter_cons_of_pos (by rw [h.isControl_eq]; rfl), List.filter_nil]

/-- The messages built from the results of `master.read`, in order. -/
def readMessages (log : List TaskObs) : List DeviceMessage :=
  (log.filterMap TaskObs.ptyRead?).map PtyRead.message

/-- The `Data` and `Config` messages for which `tcp.send` returned `Ok`, in order. -/
def sentMessages (log : List TaskObs) : List DeviceMessage :=
  uartMessages ((log.filterMap TaskObs.sentOk?).map Prod.snd)

/-- The frames of the messages for which `tcp.send` returned `Ok` in session `s`. -/
def sentFrames (s : Nat) (log : List TaskObs) : List Frame :=
  (valuesAt s (log.filterMap TaskObs.sentOk?)).map DeviceMessage.frame

/-- The bytes session `s` took. -/
def wroteBytes (s : Nat) (log : List TaskObs) : Bytes :=
  (valuesAt s (log.filterMap TaskObs.wrote?)).flatten

@[simp] theorem readMessages_append (log out : List TaskObs) :
    readMessages (log ++ out) = readMessages log ++ readMessages out := by
  simp [readMessages]

@[simp] theorem sentMessages_append (log out : List TaskObs) :
    sentMessages (log ++ out) = sentMessages log ++ sentMessages out := by
  simp [sentMessages]

@[simp] theorem sentFrames_append (s : Nat) (log out : List TaskObs) :
    sentFrames s (log ++ out) = sentFrames s log ++ sentFrames s out := by
  simp [sentFrames]

@[simp] theorem wroteBytes_append (s : Nat) (log out : List TaskObs) :
    wroteBytes s (log ++ out) = wroteBytes s log ++ wroteBytes s out := by
  simp [wroteBytes]

/-- Observations that say nothing about messages on their way from the PTY. -/
def TaskObs.sendSilent : TaskObs → Bool
  | .ptyRead _ | .wrote _ _ | .sendOk _ _ => false
  | _ => true

/-- Silent observations add nothing. -/
theorem of_sendSilent {out : List TaskObs} (h : out.all TaskObs.sendSilent) :
    readMessages out = [] ∧ sentMessages out = [] ∧
      ∀ s, sentFrames s out = [] ∧ wroteBytes s out = [] := by
  have hnone : ∀ {β : Type} (g : TaskObs → Option β), (∀ o, o.sendSilent → g o = none) →
      out.filterMap g = [] := by
    intro β g hg
    rw [List.filterMap_eq_nil_iff]
    exact fun o ho => hg o (List.all_eq_true.mp h o ho)
  have hread := hnone TaskObs.ptyRead? fun o ho => by cases o <;> first | rfl | cases ho
  have hsent := hnone TaskObs.sentOk? fun o ho => by cases o <;> first | rfl | cases ho
  have hwrote := hnone TaskObs.wrote? fun o ho => by cases o <;> first | rfl | cases ho
  simp [readMessages, sentMessages, sentFrames, wroteBytes, hread, hsent, hwrote]

/-- A message sent, and nothing else. -/
theorem of_sendOk (s : Nat) (m : DeviceMessage) {out : List TaskObs}
    (h : out.all TaskObs.sendSilent) (s' : Nat) :
    sentFrames s' (.sendOk s m :: out) = (if s' = s then [m.frame] else []) ∧
      wroteBytes s' (.sendOk s m :: out) = [] := by
  obtain ⟨-, -, hs⟩ := of_sendSilent h
  have happend : TaskObs.sendOk s m :: out = [.sendOk s m] ++ out := rfl
  rw [happend, sentFrames_append, wroteBytes_append, (hs s').1, (hs s').2]
  refine ⟨?_, rfl⟩
  rw [List.append_nil]
  show (valuesAt s' [(s, m)]).map DeviceMessage.frame = _
  by_cases hs' : s' = s
  · subst hs'
    simp
  · simp [hs', valuesAt_cons_of_ne (Ne.symm hs')]

namespace ConnectionTask

/-- The message read from the PTY that is not sent yet: being sent, or kept in the state. -/
def held (t : ConnectionTask) : List DeviceMessage :=
  match t.pc with
  | .connectedSend m => [m]
  | _ => t.state.pending.toList

/-- Away from the await of its `tcp.send`, the message held is the one kept in the state. -/
theorem held_eq {t : ConnectionTask} (h : ∀ m, t.pc ≠ .connectedSend m) :
    t.held = t.state.pending.toList := by
  unfold held
  split
  · exact absurd ‹_› (h _)
  · rfl

/-- The open session and what is left in its write buffer. -/
def outgoing (t : ConnectionTask) : Option (Nat × Bytes) :=
  t.tcp.framed.map fun f => (f.session, f.writeBuf)

/-- A `Framed::send` that fails has not written the whole frame. -/
def SendFailsEarly (t : ConnectionTask) (i : TaskInput) : Prop :=
  i = .tcpSendErr → ∀ f, t.tcp.framed = some f → f.writeBuf ≠ []

/-- What a step does to the messages on their way from the PTY. -/
inductive WriteEffect (t : ConnectionTask) (i : TaskInput) (t' : ConnectionTask)
    (out : List TaskObs) : Prop
  /-- Nothing, except that a shutdown gives up what is held. -/
  | keep (hq : out.all TaskObs.sendSilent) (ho : t'.outgoing = t.outgoing)
      (hst : t'.state = .shuttingDown ∨ t.state ≠ .shuttingDown ∧
        t'.pc.sending = t.pc.sending ∧ t'.held = t.held)
  /-- A message is encoded into the write buffer; it may just have been read. -/
  | begin {s : Nat} {b : Bytes} {m : DeviceMessage} (hst : t.state ≠ .shuttingDown)
      (hr : t'.held = t.held ++ readMessages out) (hm : uartMessages [m] <+: t'.held)
      (hok : sentMessages out = []) (hs : ∀ s, sentFrames s out = [] ∧ wroteBytes s out = [])
      (hidle : t.pc.sending = none) (hsend : t'.pc.sending = some m)
      (ho : t.outgoing = some (s, b)) (ho' : t'.outgoing = some (s, b ++ m.frame.bytes))
  /-- Bytes are written. -/
  | write {s n : Nat} {b : Bytes} (hout : out = [.wrote s (b.take n)])
      (hst : t.state ≠ .shuttingDown) (hsend : t'.pc.sending = t.pc.sending)
      (hheld : t'.held = t.held) (ho : t.outgoing = some (s, b))
      (ho' : t'.outgoing = some (s, b.drop n))
  /-- A message has been sent. -/
  | done {s : Nat} {m : DeviceMessage} (hok : sentMessages out = uartMessages [m])
      (hr : readMessages out = [])
      (hs : ∀ s', sentFrames s' out = (if s' = s then [m.frame] else []) ∧ wroteBytes s' out = [])
      (hst : t.state ≠ .shuttingDown) (hsend : t.pc.sending = some m)
      (hidle : t'.pc.sending = none) (hheld : t.held = uartMessages [m] ++ t'.held)
      (ho : t.outgoing = some (s, [])) (ho' : t'.outgoing = some (s, []))
  /-- The session is lost. -/
  | lost {s : Nat} {b : Bytes} (hq : out.all TaskObs.sendSilent) (hst : t.state ≠ .shuttingDown)
      (hb : SendFailsEarly t i → t.pc.sending ≠ none → b ≠ []) (hidle : t'.pc.sending = none)
      (hheld : t'.held = t.held) (ho : t.outgoing = some (s, b)) (ho' : t'.outgoing = none)
  /-- A session is opened. -/
  | opened (hq : out.all TaskObs.sendSilent) (hst : t.state ≠ .shuttingDown)
      (hidle : t.pc.sending = none) (hidle' : t'.pc.sending = none) (hheld : t'.held = t.held)
      (ho : t.outgoing = none)
      (ho' : t'.outgoing = some (t.tcp.opened, []))

/-- The replies of `fail_pending_ctl` are silent about messages. -/
theorem sendSilent_failReplies (t : ConnectionTask) : t.failReplies.all TaskObs.sendSilent := by
  unfold failReplies
  cases t.pendingHwCtl <;> rfl

/-- So is a session lost, as far as it is observed. -/
theorem sendSilent_lost (t : ConnectionTask) (st : ConnState) :
    (t.failReplies ++ [TaskObs.enter st]).all TaskObs.sendSilent := by
  rw [List.all_append, t.sendSilent_failReplies]
  rfl

/-- At an await of `step_connected` nothing but the message being sent is held. -/
theorem Sound.held_of_connected {t : ConnectionTask} (hst : t.state = .connected)
    (hpc : ∀ m, t.pc ≠ .connectedSend m) : t.held = [] := by
  rw [held_eq hpc, hst]
  rfl

/-- In `Resyncing` the message of the state is held. -/
theorem Sound.held_of_resyncing {t : ConnectionTask} {p : DeviceMessage}
    (hst : t.state = .resyncing p) (hpc : ∀ m, t.pc ≠ .connectedSend m) : t.held = [p] := by
  rw [held_eq hpc, hst]
  rfl

/-- Nothing is sent while shutting down. -/
theorem Sound.state_of_sending {t : ConnectionTask} (hs : Sound t) {m : DeviceMessage}
    (hsend : t.pc.sending = some m) : t.state ≠ .shuttingDown := by
  intro hst
  have hag := hs.pc_agrees
  rw [hst] at hag
  cases hpc : t.pc <;> simp [hpc, Pc.sending, Pc.Agrees] at hag hsend

/-- The open session and its buffer. -/
theorem outgoing_eq {t : ConnectionTask} {f : Framed} (hf : t.tcp.framed = some f) :
    t.outgoing = some (f.session, f.writeBuf) := by
  rw [outgoing, hf]
  rfl

/-- A step of `step_connected` that is silent about messages and ends in the same state. -/
theorem WriteEffect.of_connected {t t' : ConnectionTask} {i : TaskInput} {out : List TaskObs}
    {pc : Pc} (hst : t.state = .connected) (hst' : t'.state = .connected) (hpc : t.pc = pc)
    (hidle : pc.sending = none) (hidle' : t'.pc.sending = none)
    (hq : out.all TaskObs.sendSilent) (ho : t'.outgoing = t.outgoing) :
    WriteEffect t i t' out := by
  have hne : ∀ {u : ConnectionTask}, u.pc.sending = none → ∀ m, u.pc ≠ .connectedSend m := by
    intro u hu m h
    rw [h] at hu
    cases hu
  refine .keep hq ho (.inr ⟨by rw [hst]; nofun, by rw [hpc, hidle, hidle'], ?_⟩)
  rw [Sound.held_of_connected hst (hne (by rw [hpc, hidle])),
    Sound.held_of_connected hst' (hne hidle')]

/-- A session lost at an await of `step_connected` other than a send. -/
theorem WriteEffect.of_lost {t : ConnectionTask} {i : TaskInput} {f : Framed}
    {out : List TaskObs} (hst : t.state = .connected) (hpc : t.pc = .connectedSelect)
    (hf : t.tcp.framed = some f) (hq : out.all TaskObs.sendSilent) :
    WriteEffect t i ({ t with tcp := t.tcp.drop, pendingHwCtl := none }.enter (lostState none))
      out := by
  refine .lost hq (by rw [hst]; nofun) (fun _ h => absurd (by rw [hpc]; rfl) h) rfl ?_
    (outgoing_eq hf) rfl
  rw [Sound.held_of_connected hst (by rw [hpc]; nofun)]
  rfl

/-- Every step of a sound task has one of these effects. -/
theorem Step.writeEffect {t t' : ConnectionTask} {i : TaskInput} {out : List TaskObs}
    (hs : Sound t) (h : Step t i t' out) : WriteEffect t i t' out := by
  have hquiet := t.sendSilent_failReplies
  cases h with
  | slaveSet =>
      by_cases hst : t.state = .shuttingDown
      · exact .keep rfl rfl (.inl hst)
      · exact .keep rfl rfl (.inr ⟨hst, rfl, rfl⟩)
  | close _ hst => exact .keep hquiet rfl (.inl hst)
  | beginConnected hpc hst => exact .of_connected hst hst hpc rfl rfl rfl rfl
  | beginReconnecting hpc hst =>
      refine .keep rfl rfl (.inr ⟨by rw [hst]; nofun, by rw [hpc]; rfl, ?_⟩)
      rw [held_eq (t := t) (by rw [hpc]; nofun)]
      rfl
  | @beginResyncing p f hpc hst hf =>
      have hheld := Sound.held_of_resyncing hst (by rw [hpc]; nofun)
      have hheld' : held { t with tcp := t.tcp.queue f p, pc := .resyncSelect p } = [p] :=
        Sound.held_of_resyncing hst nofun
      refine .begin (m := p) (by rw [hst]; nofun) ?_ ?_ rfl (fun _ => ⟨rfl, rfl⟩)
        (by rw [hpc]; rfl) rfl (outgoing_eq hf) rfl
      · rw [hheld, hheld']
        rfl
      · simp only [hheld', uartMessages_singleton (hs.kept p (by rw [hst]; rfl)), List.prefix_refl]
  | beginResyncingOff _ hst hf => exact absurd hf (hs.framed_of_resyncing hst)
  | stop => exact .keep rfl rfl (.inl rfl)
  | ptyAgain hpc =>
      have hst := hs.state_eq hpc
      exact .of_connected hst hst hpc rfl (by show t.pc.sending = none; rw [hpc]; rfl) rfl rfl
  | @ptyForward r fault rd f hpc hfit hf =>
      -- read and encoded in one step; from here on it is held
      have hst := hs.state_eq hpc
      refine .begin (m := rd.message) (by rw [hst]; nofun) ?_ ?_ rfl (fun _ => ⟨rfl, rfl⟩)
        (by rw [hpc]; rfl) rfl (outgoing_eq hf) rfl
      · rw [Sound.held_of_connected hst (by rw [hpc]; nofun)]
        rfl
      · rw [uartMessages_singleton hfit.forwardable]
        exact List.prefix_refl _
  | ptyForwardOff hpc _ hf => exact absurd hf (hs.framed_of_connected (hs.state_eq hpc))
  | ptyControl hpc =>
      have hst := hs.state_eq hpc
      exact .of_connected hst hst hpc rfl rfl rfl rfl
  | ptyErr => exact .keep rfl rfl (.inl rfl)
  | tcpRecv hpc hf =>
      have hst := hs.state_eq hpc
      exact .of_connected hst hst hpc rfl (by show t.pc.sending = none; rw [hpc]; rfl) rfl
        (outgoing_eq hf).symm
  | nextOff hpc hf => exact absurd hf (hs.framed_of_connected (hs.state_eq hpc))
  | nextError hpc hf => exact .of_lost (hs.state_eq hpc) hpc hf (t.sendSilent_lost _)
  | nextData hpc hf =>
      have hst := hs.state_eq hpc
      exact .of_connected hst hst hpc rfl rfl rfl (outgoing_eq hf).symm
  | nextAnswer hpc hf =>
      have hst := hs.state_eq hpc
      exact .of_connected hst hst hpc rfl rfl rfl (outgoing_eq hf).symm
  | nextUnsolicited hpc hf =>
      have hst := hs.state_eq hpc
      exact .of_connected hst hst hpc rfl rfl rfl (outgoing_eq hf).symm
  | nextIgnored hpc hf =>
      have hst := hs.state_eq hpc
      exact .of_connected hst hst hpc rfl rfl rfl (outgoing_eq hf).symm
  | tcpEnd hpc hf => exact .of_lost (hs.state_eq hpc) hpc hf (t.sendSilent_lost _)
  | ctlBusy hpc =>
      have hst := hs.state_eq hpc
      exact .of_connected hst hst hpc rfl rfl rfl rfl
  | @ctlSend ctl tx f hpc hp hf =>
      have hst := hs.state_eq hpc
      refine .begin (m := .controlReq ctl) (by rw [hst]; nofun) ?_ List.nil_prefix rfl
        (fun _ => ⟨rfl, rfl⟩) (by rw [hpc]; rfl) rfl (outgoing_eq hf) rfl
      rw [Sound.held_of_connected hst (by rw [hpc]; nofun)]
      exact Sound.held_of_connected (t := { t with
        tcp := t.tcp.queue f (.controlReq ctl), pc := .connectedCtlSend ctl tx }) hst nofun
  | ctlSendOff hpc _ hf => exact absurd hf (hs.framed_of_connected (hs.state_eq hpc))
  | ctlStatus hpc =>
      have hst := hs.state_eq hpc
      exact .of_connected hst hst hpc rfl rfl rfl rfl
  | write hsend hf =>
      exact .write rfl (hs.state_of_sending hsend) rfl rfl (outgoing_eq hf) rfl
  | @sent msg f hpc hf hbuf =>
      have hst := hs.state_eq hpc
      have hfwd := uartMessages_singleton (hs.sending msg hpc)
      have ho := outgoing_eq hf
      rw [hbuf] at ho
      refine .done (s := f.session) (m := msg) rfl rfl ?_ (by rw [hst]; nofun) (by rw [hpc]; rfl)
        rfl ?_ ho ho
      · exact of_sendOk _ _ rfl
      · rw [hfwd, Sound.held_of_connected (t := t.again) hst nofun, held, hpc]
        rfl
  | @sendErr msg f hpc hf =>
      -- the message that was being sent becomes the pending one
      have hst := hs.state_eq hpc
      refine .lost (t.sendSilent_lost _) (by rw [hst]; nofun)
        (fun hearly _ => hearly rfl f hf) rfl ?_ (outgoing_eq hf) rfl
      rw [held, held, hpc]
      rfl
  | @ctlSent ctl tx f hpc hf hbuf =>
      have hst := hs.state_eq hpc
      have ho := outgoing_eq hf
      rw [hbuf] at ho
      refine .done (s := f.session) (m := .controlReq ctl) rfl rfl ?_ (by rw [hst]; nofun)
        (by rw [hpc]; rfl) rfl ?_ ho ho
      · exact of_sendOk _ _ rfl
      · rw [Sound.held_of_connected hst (by rw [hpc]; nofun),
          Sound.held_of_connected (t := { t with pendingHwCtl := some tx, pc := .top }) hst nofun]
        rfl
  | @ctlSendErr ctl tx f hpc hf =>
      have hst := hs.state_eq hpc
      refine .lost rfl (by rw [hst]; nofun) (fun hearly _ => hearly rfl f hf) rfl ?_
        (outgoing_eq hf) rfl
      rw [Sound.held_of_connected hst (by rw [hpc]; nofun)]
      rfl
  | ptyWriteLast hpc =>
      have hst := hs.state_eq hpc
      exact .of_connected hst hst hpc rfl rfl rfl rfl
  | ptyWrite hpc =>
      have hst := hs.state_eq hpc
      exact .of_connected hst hst hpc rfl rfl rfl rfl
  | ptyWriteErr => exact .keep rfl rfl (.inl rfl)
  | offlineCtl hpc => exact .keep rfl rfl (.inr ⟨hs.state_of_offline hpc, rfl, rfl⟩)
  | offlineStatus hpc => exact .keep rfl rfl (.inr ⟨hs.state_of_offline hpc, rfl, rfl⟩)
  | elapsed hpc hf =>
      have hst := hs.state_eq hpc
      refine .keep rfl rfl (.inr ⟨by rw [hst]; nofun, by rw [hpc]; rfl, ?_⟩)
      rw [held_eq (t := t) (by rw [hpc]; nofun)]
      rfl
  | elapsedConnected hpc hf =>
      rw [hs.framed_of_reconnecting (hs.state_eq hpc)] at hf
      cases hf
  | @connectOk b p hpc =>
      have hst := hs.state_eq hpc
      have hnone := hs.framed_of_reconnecting hst
      refine .opened rfl (by rw [hst]; nofun) (by rw [hpc]; rfl) rfl ?_
        (by rw [outgoing, hnone]; rfl) rfl
      rw [held_eq (t := t) (by rw [hpc]; nofun), hst]
      -- the pending message goes on to `Resyncing`
      cases p <;> rfl
  | @connectFail r b next p obs opened hpc _ hobs =>
      have hst := hs.state_eq hpc
      refine .keep ?_ rfl (.inr ⟨by rw [hst]; nofun, by rw [hpc]; rfl, ?_⟩)
      · rcases hobs with ⟨-, rfl, -⟩ | ⟨-, rfl, -⟩ <;> rfl
      · rw [held_eq (t := t) (by rw [hpc]; nofun), hst]
        rfl
  | overflow hpc hnext => exact absurd hnext (hs.nextBackoff_ne_none hpc)
  | @resynced p f hpc hf hbuf =>
      have hst := hs.state_eq hpc
      have hfwd := uartMessages_singleton (hs.kept p (by rw [hst]; rfl))
      have ho := outgoing_eq hf
      rw [hbuf] at ho
      refine .done (s := f.session) (m := p) rfl rfl ?_ (by rw [hst]; nofun) (by rw [hpc]; rfl)
        rfl ?_ ho ho
      · exact of_sendOk _ _ rfl
      · rw [hfwd, Sound.held_of_resyncing hst (by rw [hpc]; nofun)]
        rfl
  | @resyncErr p f hpc hf =>
      have hst := hs.state_eq hpc
      refine .lost rfl (by rw [hst]; nofun) (fun hearly _ => hearly rfl f hf) rfl ?_
        (outgoing_eq hf) rfl
      rw [Sound.held_of_resyncing hst (by rw [hpc]; nofun)]
      rfl
  | notified hpc => exact .keep rfl rfl (.inl (hs.state_eq hpc))

/-! ## Nothing is lost before shutdown -/

/-- Every effect keeps the balance of messages read, sent and held. -/
theorem WriteEffect.held_step {t t' : ConnectionTask} {i : TaskInput} {log out : List TaskObs}
    (h : WriteEffect t i t' out)
    (hlog : t.state ≠ .shuttingDown → readMessages log = sentMessages log ++ t.held) :
    t'.state ≠ .shuttingDown →
      readMessages (log ++ out) = sentMessages (log ++ out) ++ t'.held := by
  intro hst'
  rw [readMessages_append, sentMessages_append]
  cases h with
  | keep hq _ hst =>
      obtain ⟨hr, hok, -⟩ := of_sendSilent hq
      rcases hst with hst | ⟨hst, -, hheld⟩
      · exact absurd hst hst'
      · rw [hr, hok, hheld, hlog hst, List.append_nil, List.append_nil]
  | begin hst hr _ hok => rw [hok, hr, hlog hst, List.append_nil, List.append_assoc]
  | @write s n b hout hst _ hheld =>
      subst hout
      have hr : readMessages [.wrote s (b.take n)] = [] := rfl
      have hok : sentMessages [.wrote s (b.take n)] = [] := rfl
      rw [hr, hok, hheld, hlog hst, List.append_nil, List.append_nil]
  | done hok hr _ hst _ _ hheld =>
      rw [hok, hr, hlog hst, hheld, List.append_nil, List.append_assoc]
  | lost hq hst _ _ hheld =>
      obtain ⟨hr, hok, -⟩ := of_sendSilent hq
      rw [hr, hok, hheld, hlog hst, List.append_nil, List.append_nil]
  | opened hq hst _ _ hheld =>
      obtain ⟨hr, hok, -⟩ := of_sendSilent hq
      rw [hr, hok, hheld, hlog hst, List.append_nil, List.append_nil]

/-- Only the `master.read` branch of `step_connected` reads from the PTY. What it reads fits a
message, and data is what `readv` returned. -/
theorem Step.of_ptyRead {t t' : ConnectionTask} {i : TaskInput} {out : List TaskObs}
    {rd : PtyRead} (h : Step t i t' out) (hs : Sound t) (hmem : .ptyRead rd ∈ out) :
    t.pc = .connectedSelect ∧ rd.Fits ∧ ∃ r fault, i = .ptyReadv r fault ∧
      ∀ bs, rd = .data bs → r = .packet 0 bs := by
  have hfail : .ptyRead rd ∉ t.failReplies := by
    unfold failReplies
    cases t.pendingHwCtl <;> simp
  cases h with
  | ptyForward hpc hfit hf hrd =>
      obtain rfl : rd = _ := by simpa using hmem
      exact ⟨hpc, hfit, _, _, rfl, hrd⟩
  | ptyForwardOff hpc hfit hf hrd => exact absurd hf (hs.framed_of_connected (hs.state_eq hpc))
  | connectFail _ _ hobs => rcases hobs with ⟨-, rfl, -⟩ | ⟨-, rfl, -⟩ <;> simp at hmem
  | overflow hpc hnext => exact absurd hnext (hs.nextBackoff_ne_none hpc)
  | _ => simp [hfail] at hmem

/-- What a run does with what it reads from the PTY, history and state. -/
structure NothingLost (log : List TaskObs) (t : ConnectionTask) : Prop where
  /-- At a step boundary: what was read is what was sent, then the message kept in the state. -/
  boundary : t.pc = .top → t.state ≠ .shuttingDown →
    readMessages log = sentMessages log ++ t.state.pending.toList
  /-- Inside a step the message whose `tcp.send` is under way counts as held. -/
  anywhere : t.state ≠ .shuttingDown → readMessages log = sentMessages log ++ t.held
  /-- Data read is the whole of what one `readv` returned. -/
  data_read : ∀ i t' out bs, t.step i = some (t', out) → .ptyRead (.data bs) ∈ out →
    ∃ fault, i = .ptyReadv (.packet 0 bs) fault
  /-- The message built from data carries all of it. -/
  data_whole : ∀ bs, TaskObs.ptyRead (.data bs) ∈ log →
    ∃ len block, (PtyRead.data bs).message = .data len block ∧ len.toNat = bs.length ∧
      1 ≤ bs.length ∧ bs.length ≤ 255 ∧ block.slice bs.length = bs

/-- What was read fits a message. -/
theorem fits_of_reaches {name : String} {addr : UInt32} {port : UInt16} {master : AsyncPty}
    {log : List TaskObs} {t : ConnectionTask}
    (h : (machine (spawn name addr port master)).Reaches log t) :
    ∀ rd, TaskObs.ptyRead rd ∈ log → rd.Fits := by
  refine h.invariant (P := fun log _ => ∀ rd, TaskObs.ptyRead rd ∈ log → rd.Fits) nofun ?_
  intro log t i t' out hr hlog _ hstep rd hmem
  rcases List.mem_append.mp hmem with hmem | hmem
  · exact hlog rd hmem
  · exact ((step_cases hstep).of_ptyRead (sound_of_reaches hr.reaches) hmem).2.1

/-- Settings read from the PTY have values that exist. -/
theorem valid_of_onPtyReadv {t t' : ConnectionTask} {r : Readv} {fault : Option IoError}
    {out : List TaskObs} {c : TermiosChange} (h : t.onPtyReadv r fault = some (t', out))
    (hf : t.tcp.framed ≠ none) (hmem : .ptyRead (.termios c) ∈ out) : c.Valid := by
  obtain ⟨f, hf⟩ := Option.ne_none_iff_exists'.mp hf
  have hforward : ∀ rd : PtyRead, some ((t.afterReadv r fault).forward rd) = some (t', out) →
      rd = .termios c := by
    intro rd hrd
    have hf' : (t.afterReadv r fault).tcp.framed = some f := hf
    rw [forward_some hf', Option.some.injEq, Prod.mk.injEq] at hrd
    obtain ⟨-, rfl⟩ := hrd
    have heq : PtyRead.termios c = rd := by simpa using hmem
    exact heq.symm
  unfold onPtyReadv at h
  split at h
  · dsimp only at h
    split at h
    · cases h
      cases hmem
    · rename_i c' hres
      cases hforward _ h
      rw [AsyncPty.handle_termios hres]
      exact valid_getTermiosChange _
    · cases hforward _ h
    · cases h
      cases hmem
    · cases h
      simp at hmem
  · cases h

/-- All settings read from the PTY have values that exist. -/
theorem valid_of_reaches {name : String} {addr : UInt32} {port : UInt16} {master : AsyncPty}
    {log : List TaskObs} {t : ConnectionTask}
    (h : (machine (spawn name addr port master)).Reaches log t) :
    ∀ c, TaskObs.ptyRead (.termios c) ∈ log → c.Valid := by
  refine h.invariant (P := fun log _ => ∀ c, TaskObs.ptyRead (.termios c) ∈ log → c.Valid) nofun ?_
  intro log t i t' out hr hlog _ hstep c hmem
  have hs := sound_of_reaches hr.reaches
  rcases List.mem_append.mp hmem with hmem | hmem
  · exact hlog c hmem
  · obtain ⟨hpc, -, r, fault, rfl, -⟩ := (step_cases hstep).of_ptyRead hs hmem
    have hread : t.onPtyReadv r fault = some (t', out) := by
      rw [← hstep]
      simp only [machine, step, hpc, stepConnected]
    exact valid_of_onPtyReadv hread (hs.framed_of_connected (hs.state_eq hpc)) hmem

/-- **Nothing read from the PTY is lost before shutdown**: what was read is what was sent with
success, in order, followed by the one message held. -/
theorem nothing_lost {name : String} {addr : UInt32} {port : UInt16} {master : AsyncPty}
    {log : List TaskObs} {t : ConnectionTask}
    (h : (machine (spawn name addr port master)).Reaches log t) : NothingLost log t := by
  have hany : t.state ≠ .shuttingDown → readMessages log = sentMessages log ++ t.held := by
    refine h.invariant (P := fun log t => t.state ≠ .shuttingDown →
      readMessages log = sentMessages log ++ t.held) (fun _ => rfl) ?_
    intro log t i t' out hr hlog _ hstep
    exact ((step_cases hstep).writeEffect (sound_of_reaches hr.reaches)).held_step hlog
  refine ⟨?_, hany, ?_, ?_⟩
  · intro hpc hst
    rw [hany hst, held_eq (by rw [hpc]; nofun)]
  · intro i t' out bs hstep hmem
    obtain ⟨-, -, r, fault, rfl, hr⟩ := (step_cases hstep).of_ptyRead (sound_of_reaches h) hmem
    exact ⟨fault, by rw [hr bs rfl]⟩
  · intro bs hmem
    obtain ⟨hne, hle⟩ := fits_of_reaches h _ hmem
    have hlen : (UInt8.ofNat bs.length).toNat = bs.length := by
      rw [UInt8.toNat_ofNat']
      simp only [maxMessageLen] at hle
      omega
    refine ⟨UInt8.ofNat bs.length, Block.zero.write bs, ?_, hlen, ?_, hle, ?_⟩
    · show DeviceMessage.ofSlice bs = _
      rw [DeviceMessage.ofSlice, Nat.min_eq_left hle, List.take_length]
    · exact List.length_pos_of_ne_nil hne
    · exact Block.slice_write Block.zero rfl hle

/-- A message read, lost with its session and kept: it is held while reconnecting. -/
theorem nothing_lost_message_kept :
    ∃ log t, (machine (spawn "a" 0 0 (AsyncPty.new ⟨0, 0, .B9600⟩))).Reaches log t ∧
      t.pc = .top ∧ readMessages log = t.state.pending.toList ∧ readMessages log ≠ [] ∧
      NothingLost log t := by
  have hrun : (machine (spawn "a" 0 0 (AsyncPty.new ⟨0, 0, .B9600⟩))).Reaches _ _ :=
    Machine.Reaches.init.exec [.resume, .sleepElapsed, .connect .ok, .resume,
      .ptyReadv (.packet 0 [104, 105]) none, .tcpWrite 3, .tcpSendErr] rfl
  exact ⟨_, _, hrun, rfl, rfl, List.cons_ne_nil _ _, nothing_lost hrun⟩

/-! ## What the sessions are given -/

/-- What the sessions were given so far. `infl` is the message whose frame is not acknowledged by
`tcp.send` yet, `held` the messages read and not sent; a shutdown may leave both behind. -/
structure Writes (log : List TaskObs) (t : ConnectionTask) (infl : Option DeviceMessage)
    (held : List DeviceMessage) : Prop where
  /-- What was read was sent or is held. -/
  reads_eq : readMessages log = sentMessages log ++ held
  /-- Until shutdown, `held` is what the task holds. -/
  held_eq : t.state ≠ .shuttingDown → held = t.held
  /-- Until shutdown, `infl` is what the task is sending. -/
  infl_eq : t.state ≠ .shuttingDown → infl = t.pc.sending
  /-- What is being sent is held, unless it is a control message. -/
  infl_held : uartMessages infl.toList <+: held
  /-- The open session took the frames sent in it and part of the frame being sent. -/
  current : ∀ s b, t.outgoing = some (s, b) →
    ∃ p, wroteBytes s log = stream Frame.bytes (sentFrames s log) ++ p ∧
      p ++ b = stream Frame.bytes (infl.toList.map DeviceMessage.frame)
  /-- Any other session took the frames sent in it and less than one more frame. -/
  past : ∀ s, (∀ b, t.outgoing ≠ some (s, b)) →
    ∃ (p : Bytes) (f : Frame), wroteBytes s log = stream Frame.bytes (sentFrames s log) ++ p ∧
      p <+: f.bytes ∧ p ≠ f.bytes

/-- Nothing is a strict part of any frame. -/
theorem exists_nil_strict : ∃ f : Frame, [] <+: f.bytes ∧ [] ≠ f.bytes :=
  ⟨⟨0, [], Nat.zero_le _⟩, List.nil_prefix, nofun⟩

/-- A session that a step says nothing about was given what it was given before. -/
theorem given_append {log out : List TaskObs} {s : Nat}
    (h : sentFrames s out = [] ∧ wroteBytes s out = []) :
    wroteBytes s (log ++ out) = wroteBytes s log ∧
      sentFrames s (log ++ out) = sentFrames s log := by
  rw [wroteBytes_append, sentFrames_append, h.1, h.2, List.append_nil, List.append_nil]
  exact ⟨rfl, rfl⟩

namespace Writes

variable {t t' : ConnectionTask} {i : TaskInput} {log out : List TaskObs}
  {infl : Option DeviceMessage} {held : List DeviceMessage}

/-- A step that neither reads nor sends. -/
theorem reads_append (hw : Writes log t infl held) (hr : readMessages out = [])
    (hok : sentMessages out = []) : readMessages (log ++ out) = sentMessages (log ++ out) ++ held := by
  rw [readMessages_append, sentMessages_append, hr, hok, List.append_nil, List.append_nil,
    hw.reads_eq]

/-- Sessions other than the open one are past. -/
theorem past_of_ne (hw : Writes log t infl held) {s s' : Nat} {b : Bytes}
    (ho : t.outgoing = some (s, b)) (hne : s' ≠ s) :
    ∃ (p : Bytes) (f : Frame), wroteBytes s' log = stream Frame.bytes (sentFrames s' log) ++ p ∧
      p <+: f.bytes ∧ p ≠ f.bytes := by
  apply hw.past
  intro b' hb'
  rw [ho] at hb'
  cases hb'
  exact hne rfl

/-- A session that is lost before the frame being sent was all written took part of it. -/
theorem past_of_lost (hw : Writes log t infl held) {s : Nat} {b : Bytes}
    (ho : t.outgoing = some (s, b)) (hb : infl ≠ none → b ≠ []) :
    ∃ (p : Bytes) (f : Frame), wroteBytes s log = stream Frame.bytes (sentFrames s log) ++ p ∧
      p <+: f.bytes ∧ p ≠ f.bytes := by
  obtain ⟨p, hp, hpb⟩ := hw.current s b ho
  cases hinfl : infl with
  | none =>
      rw [hinfl] at hpb
      obtain ⟨rfl, -⟩ := List.append_eq_nil_iff.mp hpb
      obtain ⟨f, hf⟩ := exists_nil_strict
      exact ⟨[], f, hp, hf⟩
  | some m =>
      -- `b` still holds the rest of the frame
      have hne : b ≠ [] := hb (by rw [hinfl]; nofun)
      rw [hinfl] at hpb
      have hpb' : p ++ b = m.frame.bytes := by simpa using hpb
      refine ⟨p, m.frame, hp, ⟨b, hpb'⟩, ?_⟩
      intro heq
      rw [heq] at hpb'
      exact hne (by simpa using hpb')

/-- A session that a step says nothing about stays past. -/
theorem past_append {s : Nat} (hq : sentFrames s out = [] ∧ wroteBytes s out = [])
    (h : ∃ (p : Bytes) (f : Frame), wroteBytes s log = stream Frame.bytes (sentFrames s log) ++ p ∧
      p <+: f.bytes ∧ p ≠ f.bytes) :
    ∃ (p : Bytes) (f : Frame),
      wroteBytes s (log ++ out) = stream Frame.bytes (sentFrames s (log ++ out)) ++ p ∧
        p <+: f.bytes ∧ p ≠ f.bytes := by
  rw [(given_append hq).1, (given_append hq).2]
  exact h

/-- Writing moves bytes from the write buffer to the session. -/
theorem write_step (hw : Writes log t infl held) {s n : Nat} {b : Bytes}
    (hst : t.state ≠ .shuttingDown) (hsend : t'.pc.sending = t.pc.sending)
    (hheld : t'.held = t.held) (ho : t.outgoing = some (s, b))
    (ho' : t'.outgoing = some (s, b.drop n)) :
    Writes (log ++ [.wrote s (b.take n)]) t' infl held where
  reads_eq := hw.reads_append rfl rfl
  held_eq := fun _ => by rw [hheld, hw.held_eq hst]
  infl_eq := fun _ => by rw [hsend, hw.infl_eq hst]
  infl_held := hw.infl_held
  current := by
    intro s' b' hb'
    rw [ho'] at hb'
    cases hb'
    obtain ⟨p, hp, hpb⟩ := hw.current s b ho
    have hwrote : wroteBytes s [.wrote s (b.take n)] = b.take n := by
      show (valuesAt s [(s, b.take n)]).flatten = _
      simp
    have hsent : sentFrames s [.wrote s (b.take n)] = [] := rfl
    refine ⟨p ++ b.take n, ?_, ?_⟩
    · rw [wroteBytes_append, sentFrames_append, hwrote, hsent, hp, List.append_nil,
        List.append_assoc]
    · rw [List.append_assoc, List.take_append_drop, hpb]
  past := by
    intro s' hs'
    have hne : s ≠ s' := fun h => hs' _ (h ▸ ho')
    have hwrote : wroteBytes s' [.wrote s (b.take n)] = [] := by
      show (valuesAt s' [(s, b.take n)]).flatten = _
      rw [valuesAt_cons_of_ne hne]
      rfl
    have hquiet : sentFrames s' [.wrote s (b.take n)] = [] ∧
        wroteBytes s' [.wrote s (b.take n)] = [] := ⟨rfl, hwrote⟩
    exact past_append hquiet (hw.past_of_ne ho (Ne.symm hne))

/-- Until shutdown, what was read is what was sent and what the task holds. -/
theorem reads_held (hw : Writes log t infl held) (hst : t.state ≠ .shuttingDown) :
    readMessages log = sentMessages log ++ t.held :=
  hw.held_eq hst ▸ hw.reads_eq

/-- A silent step that keeps the write buffer, and what is sent and held until shutdown. -/
theorem keep_step (hw : Writes log t infl held) (hq : out.all TaskObs.sendSilent)
    (ho : t'.outgoing = t.outgoing)
    (hst : t'.state = .shuttingDown ∨ t.state ≠ .shuttingDown ∧
      t'.pc.sending = t.pc.sending ∧ t'.held = t.held) :
    Writes (log ++ out) t' infl held := by
  obtain ⟨hr, hok, hs⟩ := of_sendSilent hq
  refine ⟨hw.reads_append hr hok, ?_, ?_, hw.infl_held, ?_, ?_⟩
  · intro hst'
    rcases hst with hst | ⟨hst, -, hheld⟩
    · exact absurd hst hst'
    · rw [hheld, hw.held_eq hst]
  · intro hst'
    rcases hst with hst | ⟨hst, hsend, -⟩
    · exact absurd hst hst'
    · rw [hsend, hw.infl_eq hst]
  · intro s b hout
    rw [(given_append (hs s)).1, (given_append (hs s)).2]
    exact hw.current s b (ho ▸ hout)
  · intro s hout
    exact past_append (hs s) (hw.past s fun b => ho ▸ hout b)

/-- A message joins what is left in the write buffer. -/
theorem begin_step (hw : Writes log t infl held) {s : Nat} {b : Bytes} {m : DeviceMessage}
    (hst : t.state ≠ .shuttingDown) (hr : t'.held = t.held ++ readMessages out)
    (hm : uartMessages [m] <+: t'.held) (hok : sentMessages out = [])
    (hs : ∀ s, sentFrames s out = [] ∧ wroteBytes s out = []) (hidle : t.pc.sending = none)
    (hsend : t'.pc.sending = some m) (ho : t.outgoing = some (s, b))
    (ho' : t'.outgoing = some (s, b ++ m.frame.bytes)) :
    Writes (log ++ out) t' (some m) t'.held where
  reads_eq := by
    rw [readMessages_append, sentMessages_append, hok, hr, hw.reads_held hst, List.append_nil,
      List.append_assoc]
  held_eq := fun _ => rfl
  infl_eq := fun _ => hsend.symm
  infl_held := hm
  current := by
    intro s' b' hout
    rw [ho'] at hout
    cases hout
    rw [(given_append (hs s)).1, (given_append (hs s)).2]
    obtain ⟨p, hp, hpb⟩ := hw.current s b ho
    -- nothing was being sent
    have hnone : infl = none := (hw.infl_eq hst).trans hidle
    refine ⟨p, hp, ?_⟩
    rw [← List.append_assoc, hpb, hnone]
    simp
  past := by
    intro s' hout
    exact past_append (hs s') (hw.past_of_ne ho fun h => hout _ (h ▸ ho'))

/-- A message is sent when the write buffer is empty: the session took the whole frame. -/
theorem done_step (hw : Writes log t infl held) {s : Nat} {m : DeviceMessage}
    (hok : sentMessages out = uartMessages [m]) (hr : readMessages out = [])
    (hs : ∀ s', sentFrames s' out = (if s' = s then [m.frame] else []) ∧ wroteBytes s' out = [])
    (hst : t.state ≠ .shuttingDown) (hsend : t.pc.sending = some m)
    (hidle : t'.pc.sending = none) (hheld : t.held = uartMessages [m] ++ t'.held)
    (ho : t.outgoing = some (s, [])) (ho' : t'.outgoing = some (s, [])) :
    Writes (log ++ out) t' none t'.held where
  reads_eq := by
    rw [readMessages_append, sentMessages_append, hok, hr, hw.reads_held hst, hheld,
      List.append_nil, List.append_assoc]
  held_eq := fun _ => rfl
  infl_eq := fun _ => hidle.symm
  infl_held := List.nil_prefix
  current := by
    intro s' b' hb'
    rw [ho'] at hb'
    cases hb'
    have hinfl : infl = some m := (hw.infl_eq hst).trans hsend
    obtain ⟨p, hp, hpb⟩ := hw.current s [] ho
    rw [List.append_nil, hinfl] at hpb
    refine ⟨[], ?_, rfl⟩
    rw [wroteBytes_append, sentFrames_append, (hs s).1, (hs s).2, if_pos rfl, stream_append, hp,
      hpb]
    simp
  past := by
    intro s' hs'
    have hne : s' ≠ s := fun h => hs' _ (h ▸ ho')
    have hquiet := hs s'
    rw [if_neg hne] at hquiet
    exact past_append hquiet (hw.past_of_ne ho hne)

/-- A session that is lost is past. -/
theorem lost_step (hw : Writes log t infl held) {s : Nat} {b : Bytes}
    (hq : out.all TaskObs.sendSilent) (hst : t.state ≠ .shuttingDown)
    (hb : t.pc.sending ≠ none → b ≠ []) (hidle : t'.pc.sending = none) (hheld : t'.held = t.held)
    (ho : t.outgoing = some (s, b)) (ho' : t'.outgoing = none) :
    Writes (log ++ out) t' none held := by
  obtain ⟨hr, hok, hs⟩ := of_sendSilent hq
  refine ⟨hw.reads_append hr hok, ?_, fun _ => hidle.symm, List.nil_prefix, ?_, ?_⟩
  · exact fun _ => by rw [hheld, hw.held_eq hst]
  · intro s' b' hb'
    rw [ho'] at hb'
    cases hb'
  · intro s' _
    refine past_append (hs s') ?_
    by_cases hss : s' = s
    · subst hss
      apply hw.past_of_lost ho
      rw [hw.infl_eq hst]
      exact hb
    · exact hw.past_of_ne ho hss

/-- Nothing was given to a session before it was opened. -/
theorem opened_step (hw : Writes log t infl held) (hses : Sessions log t)
    (hq : out.all TaskObs.sendSilent) (hst : t.state ≠ .shuttingDown)
    (hidle' : t'.pc.sending = none) (hheld : t'.held = t.held) (ho : t.outgoing = none)
    (ho' : t'.outgoing = some (t.tcp.opened, [])) : Writes (log ++ out) t' none held := by
  obtain ⟨hr, hok, hs⟩ := of_sendSilent hq
  refine ⟨hw.reads_append hr hok, ?_, fun _ => hidle'.symm, List.nil_prefix, ?_, ?_⟩
  · exact fun _ => by rw [hheld, hw.held_eq hst]
  · intro s' b' hb'
    rw [ho'] at hb'
    cases hb'
    have hwrote : wroteBytes t.tcp.opened log = [] := by
      rw [wroteBytes, hses.valuesAt_opened fun _ _ _ => TaskObs.session?_of_wrote?]
      rfl
    have hsent : sentFrames t.tcp.opened log = [] := by
      rw [sentFrames, hses.valuesAt_opened fun _ _ _ => TaskObs.session?_of_sentOk?]
      rfl
    refine ⟨[], ?_, rfl⟩
    rw [wroteBytes_append, sentFrames_append, (hs _).1, (hs _).2, hwrote, hsent]
    rfl
  · intro s _
    refine past_append (hs s) (hw.past s ?_)
    intro b hb
    rw [ho] at hb
    cases hb

/-- **Every step** keeps what the sessions were given, if sends fail early. -/
theorem step (hw : Writes log t infl held) (hses : Sessions log t) (hearly : SendFailsEarly t i)
    (h : WriteEffect t i t' out) : ∃ infl' held', Writes (log ++ out) t' infl' held' := by
  cases h with
  | keep hq ho hst => exact ⟨_, _, hw.keep_step hq ho hst⟩
  | begin hst hr hm hok hs hidle hsend ho ho' =>
      exact ⟨_, _, hw.begin_step hst hr hm hok hs hidle hsend ho ho'⟩
  | write hout hst hsend hheld ho ho' =>
      subst hout
      exact ⟨_, _, hw.write_step hst hsend hheld ho ho'⟩
  | done hok hr hs hst hsend hidle hheld ho ho' =>
      exact ⟨_, _, hw.done_step hok hr hs hst hsend hidle hheld ho ho'⟩
  | lost hq hst hb hidle hheld ho ho' =>
      exact ⟨_, _, hw.lost_step hq hst (hb hearly) hidle hheld ho ho'⟩
  | opened hq hst hidle hidle' hheld ho ho' =>
      exact ⟨_, _, hw.opened_step hses hq hst hidle' hheld ho ho'⟩

end Writes

/-- What the sessions were given, along every run in which sends fail early. -/
theorem writes_of_run {name : String} {addr : UInt32} {port : UInt16} {master : AsyncPty}
    {log : List TaskObs} {t : ConnectionTask}
    (h : (machine (spawn name addr port master)).Run SendFailsEarly log t) :
    ∃ infl held, Writes log t infl held := by
  refine h.invariant (P := fun log t => ∃ infl held, Writes log t infl held) ?_ ?_
  · refine ⟨none, [], ⟨rfl, fun _ => rfl, fun _ => rfl, List.nil_prefix, nofun, ?_⟩⟩
    intro s _
    obtain ⟨f, hf⟩ := exists_nil_strict
    exact ⟨[], f, rfl, hf⟩
  · rintro log t i t' out hr ⟨infl, held, hw⟩ hearly hstep
    have hs := sound_of_reaches hr.reaches
    exact hw.step (sessions_of_reaches hr.reaches) hearly ((step_cases hstep).writeEffect hs)

/-- What the sessions were given, acknowledged or under way, by session. -/
def given (log : List TaskObs) (t : ConnectionTask) (infl : Option DeviceMessage) :
    List (Nat × DeviceMessage) :=
  log.filterMap TaskObs.sentOk? ++ t.session.elim [] fun s => infl.toList.map (s, ·)

/-- **Whole frames at the start of a session** are those it was given, in order. -/
theorem Writes.valuesAt_given {log : List TaskObs} {t : ConnectionTask}
    {infl : Option DeviceMessage} {held : List DeviceMessage} (hw : Writes log t infl held)
    {s : Nat} {es : List Frame} (h : stream Frame.bytes es <+: wroteBytes s log) :
    es <+: (valuesAt s (given log t infl)).map DeviceMessage.frame := by
  rw [given, valuesAt_append, List.map_append]
  show es <+: sentFrames s log ++ _
  cases hf : t.tcp.framed with
  | none =>
      obtain ⟨p, f, hp, hpre, hne⟩ := hw.past s (by rw [outgoing, hf]; nofun)
      rw [hp] at h
      exact (Frame.selfDelimiting_bytes.of_flatten_cut hpre hne h).trans (List.prefix_append _ _)
  | some f =>
      have hses : t.session = some f.session := by rw [session, hf]; rfl
      by_cases hs : f.session = s
      · subst hs
        obtain ⟨p, hp, hpb⟩ := hw.current f.session f.writeBuf (outgoing_eq hf)
        have hinfl : valuesAt f.session (infl.toList.map (f.session, ·)) = infl.toList := by
          cases infl <;> simp
        rw [hses, Option.elim_some, hinfl]
        apply Frame.selfDelimiting_bytes.of_flatten
        rw [stream_append, ← hpb, ← List.append_assoc, ← hp]
        exact h.trans (List.prefix_append _ _)
      · have hout : ∀ b, t.outgoing ≠ some (s, b) := by
          intro b hb
          rw [outgoing_eq hf] at hb
          cases hb
          exact hs rfl
        obtain ⟨p, f', hp, hpre, hne⟩ := hw.past s hout
        rw [hp] at h
        exact (Frame.selfDelimiting_bytes.of_flatten_cut hpre hne h).trans (List.prefix_append _ _)

/-- The messages given, control messages aside, are the first of those read. -/
theorem Writes.given_prefix {log : List TaskObs} {t : ConnectionTask}
    {infl : Option DeviceMessage} {held : List DeviceMessage} (hw : Writes log t infl held) :
    uartMessages ((given log t infl).map Prod.snd) <+: readMessages log := by
  rw [given, List.map_append, uartMessages_append, hw.reads_eq]
  apply (List.prefix_append_right_inj _).mpr
  cases t.session with
  | none => exact List.nil_prefix
  | some s =>
      rw [Option.elim_some, List.map_map]
      have hid : (infl.toList.map (Prod.snd ∘ fun m => (s, m))) = infl.toList := List.map_id _
      rw [hid]
      exact hw.infl_held

/-- What was given is sorted by session. -/
theorem Sessions.pairwise_given {log : List TaskObs} {t : ConnectionTask} (hses : Sessions log t)
    (infl : Option DeviceMessage) : (given log t infl).Pairwise fun a b => a.1 ≤ b.1 := by
  rw [given, List.pairwise_append]
  refine ⟨hses.pairwise fun _ _ _ => TaskObs.session?_of_sentOk?, ?_, ?_⟩
  · cases t.session <;> cases infl <;> simp
  · rintro ⟨s, m⟩ ha ⟨s', m'⟩ hb
    obtain ⟨o, ho, hos⟩ := List.mem_filterMap.mp ha
    have hlt := hses.below s (List.mem_filterMap.mpr ⟨o, ho, TaskObs.session?_of_sentOk? hos⟩)
    cases hf : t.tcp.framed with
    | none =>
        rw [session, hf] at hb
        cases hb
    | some f =>
        rw [session, hf] at hb
        obtain ⟨m'', -, heq⟩ := List.mem_map.mp hb
        cases heq
        have := hses.current f hf
        show s ≤ f.session
        omega

end ConnectionTask

/-- Frames of `Data` and `Config` messages. -/
def Frame.isUart (f : Frame) : Bool := f.kind = 1 || f.kind = 2

/-- A frame tells whether its message is a control message. -/
theorem DeviceMessage.isUart_frame (m : DeviceMessage) : m.frame.isUart = !m.isControl := by
  cases m <;> rfl

/-- The `Data` and `Config` frames among the frames of messages. -/
theorem filter_isUart_map_frame (ms : List DeviceMessage) :
    (ms.map DeviceMessage.frame).filter Frame.isUart
      = (uartMessages ms).map DeviceMessage.frame := by
  rw [List.filter_map, uartMessages]
  congr 1
  apply List.filter_congr
  intro m _
  exact m.isUart_frame

namespace ConnectionTask

/-- **Delivery.** Frames found whole in the sessions, session after session, are `Data` and `Config`
frames of messages read from the PTY, in order and each once. -/
theorem delivered_sublist {name : String} {addr : UInt32} {port : UInt16} {master : AsyncPty}
    {log : List TaskObs} {t : ConnectionTask}
    (h : (machine (spawn name addr port master)).Run SendFailsEarly log t)
    {es : List (Nat × Frame)} (hsorted : es.Pairwise fun a b => a.1 ≤ b.1)
    (hes : ∀ s, stream Frame.bytes (valuesAt s es) <+: wroteBytes s log) :
    ((es.map Prod.snd).filter Frame.isUart).Sublist
      ((readMessages log).map DeviceMessage.frame) := by
  obtain ⟨infl, held, hw⟩ := writes_of_run h
  have hgiven := (sessions_of_reaches h.reaches).pairwise_given infl
  have hkeyed : es.Sublist ((given log t infl).map (Prod.map id DeviceMessage.frame)) := by
    refine sublist_of_sorted hsorted (List.pairwise_map.mpr hgiven) fun s => ?_
    rw [valuesAt_map]
    exact (hw.valuesAt_given (hes s)).sublist
  have hsub := (hkeyed.map Prod.snd).filter Frame.isUart
  rw [List.map_map] at hsub
  have hfst : (given log t infl).map (Prod.snd ∘ Prod.map id DeviceMessage.frame)
      = ((given log t infl).map Prod.snd).map DeviceMessage.frame := by
    rw [List.map_map]
    rfl
  rw [hfst, filter_isUart_map_frame] at hsub
  exact hsub.trans (hw.given_prefix.sublist.map _)

/-- As long as no session was lost, only the first one exists. -/
theorem opened_le_one {name : String} {addr : UInt32} {port : UInt16} {master : AsyncPty}
    {log : List TaskObs} {t : ConnectionTask}
    (h : (machine (spawn name addr port master)).Reaches log t) (hclosed : closedCount log = 0) :
    t.tcp.opened ≤ 1 := by
  rw [opened_eq_of_reaches h, hclosed, isOpen]
  split <;> omega

/-- **Delivery without loss.** If no session was ever lost, frames found whole in the sessions are
the `Data` and `Config` frames of the first messages read from the PTY. -/
theorem delivered_prefix {name : String} {addr : UInt32} {port : UInt16} {master : AsyncPty}
    {log : List TaskObs} {t : ConnectionTask}
    (h : (machine (spawn name addr port master)).Run SendFailsEarly log t)
    (hclosed : closedCount log = 0) {es : List (Nat × Frame)}
    (hes : ∀ s, stream Frame.bytes (valuesAt s es) <+: wroteBytes s log) :
    ((es.map Prod.snd).filter Frame.isUart) <+: (readMessages log).map DeviceMessage.frame := by
  obtain ⟨infl, held, hw⟩ := writes_of_run h
  have hses := sessions_of_reaches h.reaches
  have hone := opened_le_one h.reaches hclosed
  -- both logs speak of session 0 only
  have hes0 : ∀ x ∈ es, x.1 = 0 := by
    rintro ⟨s, f⟩ hx
    by_contra hs
    have hmem : f ∈ valuesAt s es := List.mem_map.mpr ⟨(s, f), by simp [hx], rfl⟩
    have hnil : wroteBytes s log = [] := by
      rw [wroteBytes, valuesAt_eq_nil]
      · rfl
      · rintro ⟨s', bs⟩ hx' rfl
        obtain ⟨o, ho, hos⟩ := List.mem_filterMap.mp hx'
        have := hses.below s' (List.mem_filterMap.mpr ⟨o, ho, TaskObs.session?_of_wrote? hos⟩)
        omega
    have hstream := List.prefix_nil.mp (hnil ▸ hes s)
    have hf : f.bytes = [] := List.flatten_eq_nil_iff.mp hstream _ (List.mem_map.mpr ⟨f, hmem, rfl⟩)
    exact Frame.selfDelimiting_bytes.ne_nil f hf
  have hgiven0 : ∀ x ∈ given log t infl, x.1 = 0 := by
    rintro ⟨s, m⟩ hx
    rcases List.mem_append.mp hx with hx | hx
    · obtain ⟨o, ho, hos⟩ := List.mem_filterMap.mp hx
      have := hses.below s (List.mem_filterMap.mpr ⟨o, ho, TaskObs.session?_of_sentOk? hos⟩)
      show s = 0
      omega
    · cases hf : t.tcp.framed with
      | none =>
          rw [session, hf] at hx
          cases hx
      | some f =>
          rw [session, hf] at hx
          obtain ⟨m', -, heq⟩ := List.mem_map.mp hx
          cases heq
          have := hses.current f hf
          show f.session = 0
          omega
  have hpre := hw.valuesAt_given (hes 0)
  rw [← map_snd_eq_valuesAt hes0, ← map_snd_eq_valuesAt hgiven0] at hpre
  have hfilter := hpre.filter Frame.isUart
  rw [filter_isUart_map_frame] at hfilter
  exact hfilter.trans (hw.given_prefix.map _)

end ConnectionTask

end TcpUart
