import Mathlib.Algebra.Group.Nat.Defs
import TcpUart.Daemon.ConnectionStep

/-! # The invariant of the connection task
Four states, three step functions and some twenty exits have to agree with two pieces of hidden
state: whether the bridge holds a stream, and whether somebody waits for the answer to a control
request. `ConnectionTask.Sound` says how they agree at every await; it is kept by every step
(`Sound.step`), so the exits that need a missing or a surplus stream are never taken.

* `sound_of_reaches` — every reachable state is sound.
* `failStreak` — the failed connection attempts in a row, read off the history of a run.
* `connection_invariant` — what holds at every step boundary of every run. -/

namespace TcpUart

open Reactive Framing

/-- A message that is kept for sending again: data of 1 to 255 bytes, or settings. -/
def DeviceMessage.Forwardable : DeviceMessage → Prop
  | .data len _ => 1 ≤ len.toNat ∧ len.toNat ≤ maxMessageLen
  | .config .. => True
  | .controlReq _ => False
  | .controlRes _ => False

/-- What is read from the PTY is forwardable. -/
theorem PtyRead.Fits.forwardable {r : PtyRead} (h : r.Fits) : r.message.Forwardable := by
  cases r with
  | termios c => trivial
  | data bs =>
      obtain ⟨hne, hle⟩ := h
      have hpos : 0 < bs.length := List.length_pos_of_ne_nil hne
      have hlen : (UInt8.ofNat bs.length).toNat = bs.length := by
        rw [UInt8.toNat_ofNat']
        simp only [maxMessageLen] at hle
        omega
      show 1 ≤ (UInt8.ofNat (min bs.length maxMessageLen)).toNat ∧ _ ≤ maxMessageLen
      rw [Nat.min_eq_left hle, hlen]
      exact ⟨hpos, hle⟩

/-- The await points that belong to a state. -/
def Pc.Agrees (st : ConnState) : Pc → Prop
  | .top => True
  | .connectedSelect | .connectedSend _ | .connectedCtlSend _ _ | .connectedWrite _ =>
      st = .connected
  | .reconnectSelect b p | .reconnectConnect b p => st = .reconnecting b p
  | .resyncSelect p => st = .resyncing p
  | .shutdownSend | .exited => st = .shuttingDown
  | .panicked => False

/-- Whether a stream has to be there, state by state. -/
def ConnState.FramedAgrees (framed : Option Framed) : ConnState → Prop
  | .connected | .resyncing _ => framed ≠ none
  | .reconnecting _ _ => framed = none
  | .shuttingDown => True

/-- A stream that is there fits `Connected`. -/
theorem ConnState.framedAgrees_connected {st : ConnState} (hst : st = .connected) (f : Framed) :
    st.FramedAgrees (some f) := by
  rw [hst]
  exact Option.some_ne_none f

/-- The message a state keeps for sending. -/
def ConnState.pending : ConnState → Option DeviceMessage
  | .reconnecting _ p => p
  | .resyncing p => some p
  | _ => none

/-- The await points at which `pending_hw_ctl` may be set. -/
def Pc.MayWait : Pc → Prop
  | .top | .connectedSelect | .connectedSend _ | .connectedWrite _ => True
  | _ => False

namespace ConnectionTask

/-- **The state invariant.** How the await point, the bridge, the slot for the control request, the
message kept and the backoff agree with the state. -/
structure Sound (t : ConnectionTask) : Prop where
  /-- The task is suspended in the step function of its state. -/
  pc_agrees : t.pc.Agrees t.state
  /-- The stream is there exactly when the state needs it. -/
  framed_agrees : t.state.FramedAgrees t.tcp.framed
  /-- Somebody waits for an answer only in `Connected` or `ShuttingDown`. -/
  slot : t.pendingHwCtl ≠ none → t.state = .connected ∨ t.state = .shuttingDown
  /-- The slot is empty while another request is being sent and once `shutdown` runs. -/
  slot_pc : t.pendingHwCtl ≠ none → t.pc.MayWait
  /-- The message kept is forwardable. -/
  kept : ∀ m, t.state.pending = some m → m.Forwardable
  /-- The message being sent is forwardable, unless it is the control request. -/
  sending : ∀ m, t.pc = .connectedSend m → m.Forwardable
  /-- The backoff never exceeds its maximum. -/
  backoff_le : ∀ b p, t.state = .reconnecting b p → b ≤ maxReconnectBackoff

/-- The initial backoff does not exceed the maximum. -/
theorem initialReconnectBackoff_le : initialReconnectBackoff ≤ maxReconnectBackoff := by decide

/-- A backoff within its maximum can be doubled. -/
theorem nextBackoff_eq {b : Duration} (h : b ≤ maxReconnectBackoff) :
    nextBackoff b = some (min (b * 2) maxReconnectBackoff) := by
  have hmax : maxReconnectBackoff * 2 ≤ Duration.maxValue := by decide
  have hfit : b * 2 ≤ Duration.maxValue := Nat.le_trans (Nat.mul_le_mul_right 2 h) hmax
  simp only [nextBackoff, Duration.checkedMul, if_pos hfit, Option.map_some]

namespace Sound

variable {t t' : ConnectionTask} {i : TaskInput} {out : List TaskObs}

/-- At the awaits of `step_connected` the state is `Connected`. -/
theorem state_eq (h : Sound t) {pc : Pc} (hpc : t.pc = pc) : pc.Agrees t.state :=
  hpc ▸ h.pc_agrees

/-- A stream is there in `Connected`. -/
theorem framed_of_connected (h : Sound t) (hst : t.state = .connected) : t.tcp.framed ≠ none := by
  have := h.framed_agrees
  rwa [hst] at this

/-- A stream is there in `Resyncing`. -/
theorem framed_of_resyncing (h : Sound t) {p : DeviceMessage} (hst : t.state = .resyncing p) :
    t.tcp.framed ≠ none := by
  have := h.framed_agrees
  rwa [hst] at this

/-- No stream is there in `Reconnecting`. -/
theorem framed_of_reconnecting (h : Sound t) {b : Duration} {p : Option DeviceMessage}
    (hst : t.state = .reconnecting b p) : t.tcp.framed = none := by
  have := h.framed_agrees
  rwa [hst] at this

/-- Nobody waits in a state other than `Connected` and `ShuttingDown`. -/
theorem slot_eq_none (h : Sound t) (hc : t.state ≠ .connected) (hs : t.state ≠ .shuttingDown) :
    t.pendingHwCtl = none := by
  by_contra hne
  rcases h.slot hne with hst | hst
  · exact hc hst
  · exact hs hst

/-- Nobody waits at an await at which the slot is empty. -/
theorem slot_eq_none_of_pc (h : Sound t) (hpc : ¬ t.pc.MayWait) : t.pendingHwCtl = none := by
  by_contra hne
  exact hpc (h.slot_pc hne)

/-- The doubling of the backoff never overflows. -/
theorem nextBackoff_ne_none (h : Sound t) {b : Duration} {p : Option DeviceMessage}
    (hpc : t.pc = .reconnectConnect b p) : nextBackoff b ≠ none := by
  rw [nextBackoff_eq (h.backoff_le b p (h.state_eq hpc))]
  exact Option.some_ne_none _

/-- The spawned task is sound. -/
theorem spawn (name : String) (addr : UInt32) (port : UInt16) (master : AsyncPty) :
    Sound (ConnectionTask.spawn name addr port master) where
  pc_agrees := trivial
  framed_agrees := rfl
  slot := fun h => absurd rfl h
  slot_pc := fun h => absurd rfl h
  kept := fun _ h => nomatch h
  sending := fun _ h => nomatch h
  backoff_le := fun b p h => by
    cases h
    exact initialReconnectBackoff_le

/-- Entering a state: the stream, the slot, the message and the backoff have to fit it. -/
theorem enter {st : ConnState} (hf : st.FramedAgrees t.tcp.framed)
    (hslot : t.pendingHwCtl ≠ none → st = .connected ∨ st = .shuttingDown)
    (hkept : ∀ m, st.pending = some m → m.Forwardable)
    (hb : ∀ b p, st = .reconnecting b p → b ≤ maxReconnectBackoff) : Sound (t.enter st) where
  pc_agrees := trivial
  framed_agrees := hf
  slot := hslot
  slot_pc := fun _ => trivial
  kept := hkept
  sending := fun _ h => nomatch h
  backoff_le := hb

/-- Losing the connection with an empty slot. -/
theorem enter_lost {p : Option DeviceMessage} (hf : t.tcp.framed = none)
    (hslot : t.pendingHwCtl = none) (hp : ∀ m, p = some m → m.Forwardable) :
    Sound (t.enter (lostState p)) :=
  enter hf (fun h => absurd hslot h) hp fun b p' h => by
    cases h
    exact initialReconnectBackoff_le

/-- Shutting down is always possible. -/
theorem enter_shuttingDown : Sound (t.enter .shuttingDown) :=
  enter trivial (fun _ => .inr rfl) (fun _ h => nomatch h) (fun _ _ h => nomatch h)

/-- Back to the loop head in the same state. -/
theorem again (h : Sound t) : Sound t.again :=
  { h with
    pc_agrees := trivial
    slot_pc := fun _ => trivial
    sending := fun _ hpc => nomatch hpc }

/-- A stream opened on a task without one. -/
theorem enter_reconnected {p : Option DeviceMessage} (hf : t.tcp.framed ≠ none)
    (hslot : t.pendingHwCtl = none) (hp : ∀ m, p = some m → m.Forwardable) :
    Sound (t.enter (reconnected p)) := by
  cases p with
  | none => exact enter hf (fun _ => .inl rfl) (fun _ h => nomatch h) (fun _ _ h => nomatch h)
  | some m => exact enter hf (fun h => absurd hslot h) hp (fun _ _ h => nomatch h)

/-- **Every step keeps the invariant.** -/
theorem step (hs : Sound t) (h : Step t i t' out) : Sound t' := by
  cases h with
  | slaveSet tio => exact { hs with }
  | close hpc hst =>
      exact { hs with
        pc_agrees := hst
        slot := fun h => absurd rfl h
        slot_pc := fun h => absurd rfl h
        sending := fun _ h => nomatch h }
  | beginConnected hpc hst =>
      exact { hs with
        pc_agrees := hst, slot_pc := fun _ => trivial, sending := fun _ h => nomatch h }
  | beginReconnecting hpc hst =>
      have hslot := hs.slot_eq_none (by rw [hst]; nofun) (by rw [hst]; nofun)
      exact { hs with
        pc_agrees := hst, slot_pc := fun h => absurd hslot h, sending := fun _ h => nomatch h }
  | beginResyncing hpc hst hf =>
      have hslot := hs.slot_eq_none (by rw [hst]; nofun) (by rw [hst]; nofun)
      refine { hs with
        pc_agrees := hst, framed_agrees := ?_, slot_pc := fun h => absurd hslot h
        sending := fun _ h => nomatch h }
      show t.state.FramedAgrees _
      rw [hst]
      exact Option.some_ne_none _
  | beginResyncingOff _ hst hf => exact absurd hf (hs.framed_of_resyncing hst)
  | stop => exact enter_shuttingDown
  | ptyAgain => exact { hs with }
  | ptyForward hpc hfit hf =>
      have hst := hs.state_eq hpc
      refine { hs with
        pc_agrees := hst, framed_agrees := ConnState.framedAgrees_connected hst _
        slot_pc := fun _ => trivial, sending := ?_ }
      intro m hm
      cases hm
      exact hfit.forwardable
  | ptyForwardOff hpc _ hf => exact absurd hf (hs.framed_of_connected (hs.state_eq hpc))
  | ptyControl => exact again { hs with }
  | ptyErr => exact enter_shuttingDown
  | tcpRecv hpc hf =>
      have hst := hs.state_eq hpc
      exact { hs with framed_agrees := ConnState.framedAgrees_connected hst _ }
  | nextOff hpc hf => exact absurd hf (hs.framed_of_connected (hs.state_eq hpc))
  | nextError => exact enter_lost rfl rfl nofun
  | nextData hpc hf =>
      have hst := hs.state_eq hpc
      exact { hs with
        pc_agrees := hst, framed_agrees := ConnState.framedAgrees_connected hst _
        slot_pc := fun _ => trivial, sending := fun _ h => nomatch h }
  | nextAnswer hpc hf =>
      have hst := hs.state_eq hpc
      exact { hs with
        pc_agrees := trivial, framed_agrees := ConnState.framedAgrees_connected hst _
        slot := fun h => absurd rfl h, slot_pc := fun _ => trivial
        sending := fun _ h => nomatch h }
  | nextUnsolicited hpc hf =>
      have hst := hs.state_eq hpc
      exact { hs with
        pc_agrees := trivial, framed_agrees := ConnState.framedAgrees_connected hst _
        slot_pc := fun _ => trivial, sending := fun _ h => nomatch h }
  | nextIgnored hpc hf =>
      have hst := hs.state_eq hpc
      exact { hs with
        pc_agrees := trivial, framed_agrees := ConnState.framedAgrees_connected hst _
        slot_pc := fun _ => trivial, sending := fun _ h => nomatch h }
  | tcpEnd => exact enter_lost rfl rfl nofun
  | ctlBusy => exact hs.again
  | ctlSend hpc hp hf =>
      have hst := hs.state_eq hpc
      exact { hs with
        pc_agrees := hst, framed_agrees := ConnState.framedAgrees_connected hst _
        slot_pc := fun h => absurd hp h, sending := fun _ h => nomatch h }
  | ctlSendOff hpc _ hf => exact absurd hf (hs.framed_of_connected (hs.state_eq hpc))
  | ctlStatus => exact hs.again
  | @write n msg f hsend hf =>
      -- only a task with a stream writes, so it is not `Reconnecting`
      refine { hs with framed_agrees := ?_ }
      have hag := hs.framed_agrees
      show t.state.FramedAgrees _
      cases hst : t.state with
      | reconnecting b p => rw [hs.framed_of_reconnecting hst] at hf; cases hf
      | connected => exact Option.some_ne_none _
      | resyncing p => exact Option.some_ne_none _
      | shuttingDown => trivial
  | sent => exact hs.again
  | sendErr hpc =>
      refine enter_lost rfl rfl fun m hm => ?_
      cases hm
      exact hs.sending _ hpc
  | ctlSent hpc hf =>
      have hst := hs.state_eq hpc
      exact { hs with
        pc_agrees := trivial, slot := fun _ => .inl hst, slot_pc := fun _ => trivial
        sending := fun _ h => nomatch h }
  | ctlSendErr hpc =>
      -- one request at a time: the slot was empty while this one was sent
      have hslot := hs.slot_eq_none_of_pc (by rw [hpc]; exact id)
      exact enter_lost rfl hslot nofun
  | ptyWriteLast => exact hs.again
  | ptyWrite hpc =>
      have hst := hs.state_eq hpc
      exact { hs with
        pc_agrees := hst, slot_pc := fun _ => trivial, sending := fun _ h => nomatch h }
  | ptyWriteErr => exact enter_shuttingDown
  | offlineCtl => exact hs
  | offlineStatus => exact hs
  | elapsed hpc =>
      have hst := hs.state_eq hpc
      have hslot := hs.slot_eq_none_of_pc (by rw [hpc]; exact id)
      exact { hs with
        pc_agrees := hst, slot_pc := fun h => absurd hslot h
        sending := fun _ h => nomatch h }
  | elapsedConnected hpc hf =>
      rw [hs.framed_of_reconnecting (hs.state_eq hpc)] at hf
      cases hf
  | connectOk hpc =>
      have hst := hs.state_eq hpc
      have hslot := hs.slot_eq_none_of_pc (by rw [hpc]; exact id)
      refine enter_reconnected (Option.some_ne_none _) hslot fun m hm => hs.kept m ?_
      rw [hst]
      exact hm
  | @connectFail r b next p obs opened hpc hnext =>
      have hst := hs.state_eq hpc
      have hslot := hs.slot_eq_none_of_pc (by rw [hpc]; exact id)
      refine enter (hs.framed_of_reconnecting hst) (fun h => absurd hslot h)
        (fun m hm => hs.kept m (by rw [hst]; exact hm)) fun b' p' heq => ?_
      cases heq
      -- the doubled backoff is capped again
      rw [nextBackoff_eq (hs.backoff_le b p hst), Option.some.injEq] at hnext
      rw [← hnext]
      exact Nat.min_le_right _ _
  | overflow hpc hnext => exact absurd hnext (hs.nextBackoff_ne_none hpc)
  | resynced hpc hf =>
      refine enter (by rw [hf]; exact Option.some_ne_none _) (fun _ => .inl rfl)
        (fun _ h => nomatch h) (fun _ _ h => nomatch h)
  | resyncErr hpc =>
      have hst := hs.state_eq hpc
      have hslot := hs.slot_eq_none_of_pc (by rw [hpc]; exact id)
      refine enter_lost rfl hslot fun m hm => hs.kept m ?_
      rw [hst]
      exact hm
  | notified hpc =>
      have hst := hs.state_eq hpc
      have hslot := hs.slot_eq_none_of_pc (by rw [hpc]; exact id)
      exact { hs with
        pc_agrees := hst, slot_pc := fun h => absurd hslot h
        sending := fun _ h => nomatch h }

end Sound

/-- Every reachable state is sound. -/
theorem sound_of_reaches {name : String} {addr : UInt32} {port : UInt16} {master : AsyncPty}
    {log : List TaskObs} {t : ConnectionTask}
    (h : (machine (spawn name addr port master)).Reaches log t) : Sound t :=
  h.invariant (P := fun _ t => Sound t) (Sound.spawn name addr port master)
    fun _ _ _ _ _ _ hs _ hstep => hs.step (step_cases hstep)

/-! ## The history of a run -/

end ConnectionTask

/-- Observations that say nothing about states and connection attempts. -/
def TaskObs.quiet : TaskObs → Bool
  | .notConnected | .alreadyConnected | .connectFailed | .enter _ => false
  | _ => true

/-- Failed connection attempts in a row, while reading a history. -/
structure Streak where
  /-- Whether the state is `Reconnecting`. -/
  reconnecting : Bool
  /-- Failed attempts since `Reconnecting` was entered from another state, or from the start. -/
  failures : Nat

/-- One observation of the history. -/
def Streak.next (k : Streak) : TaskObs → Streak
  | .connectFailed => { k with failures := k.failures + 1 }
  | .enter (.reconnecting _ _) => if k.reconnecting then k else ⟨true, 0⟩
  | .enter _ => { k with reconnecting := false }
  | _ => k

/-- The streak after a history. A task starts in `Reconnecting`. -/
def streak (log : List TaskObs) : Streak := log.foldl Streak.next ⟨true, 0⟩

/-- The number of consecutive failed `try_connect` calls since `Reconnecting` was last entered from
another state or from the start. -/
def failStreak (log : List TaskObs) : Nat := (streak log).failures

/-- Whether a state is `Reconnecting`. -/
def ConnState.isReconnecting : ConnState → Bool
  | .reconnecting _ _ => true
  | _ => false

/-- Quiet observations leave the streak alone. -/
theorem foldl_next_of_quiet {out : List TaskObs} (h : out.all TaskObs.quiet) (k : Streak) :
    out.foldl Streak.next k = k := by
  induction out generalizing k with
  | nil => rfl
  | cons o out ih =>
      rw [List.all_cons, Bool.and_eq_true] at h
      have hk : k.next o = k := by
        cases o <;> first | rfl | exact nomatch h.1
      rw [List.foldl_cons, hk]
      exact ih h.2 k

namespace ConnectionTask

/-- The replies of `fail_pending_ctl` are quiet. -/
theorem quiet_failReplies (t : ConnectionTask) : t.failReplies.all TaskObs.quiet := by
  unfold failReplies
  cases t.pendingHwCtl <;> rfl

/-- What a step tells about states: nothing, the state entered, or a failed attempt to connect. -/
inductive Entered (t t' : ConnectionTask) (out : List TaskObs) : Prop
  /-- The state stays. -/
  | stays (hst : t'.state = t.state) (hq : out.all TaskObs.quiet) : Entered t t' out
  /-- Another state is entered. -/
  | moves (pre : List TaskObs) (hq : pre.all TaskObs.quiet) (hout : out = pre ++ [.enter t'.state])
      (hne : t.state ≠ .shuttingDown)
      (hb : ∀ b p, t'.state = .reconnecting b p →
        b = initialReconnectBackoff ∧ t.state.isReconnecting = false) : Entered t t' out
  /-- An attempt to connect failed. -/
  | fails (pre : List TaskObs) {b next : Duration} {p : Option DeviceMessage}
      (hst : t.state = .reconnecting b p) (hnext : nextBackoff b = some next)
      (hst' : t'.state = .reconnecting next p) (hq : pre.all TaskObs.quiet)
      (hout : out = pre ++ [.connectFailed, .enter (.reconnecting next p)]) : Entered t t' out

/-- At an offline `select!` the state is `Reconnecting` or `Resyncing`. -/
theorem Sound.state_of_offline {t : ConnectionTask} (hs : Sound t) (hpc : t.pc.Offline) :
    t.state ≠ .shuttingDown := by
  have hag := hs.pc_agrees
  cases hp : t.pc <;> rw [hp] at hpc hag <;> first | exact hpc.elim | (rw [hag]; nofun)

/-- Every step of a sound task tells the truth about states. -/
theorem Step.entered {t t' : ConnectionTask} {i : TaskInput} {out : List TaskObs} (hs : Sound t)
    (h : Step t i t' out) : Entered t t' out := by
  have hquiet := t.quiet_failReplies
  cases h with
  | close => exact .stays rfl hquiet
  | beginResyncingOff _ hst hf => exact absurd hf (hs.framed_of_resyncing hst)
  | stop hpc =>
      refine .moves [] rfl rfl ?_ fun _ _ h => nomatch h
      rcases hpc with hpc | hpc
      · rw [hs.state_eq hpc]; nofun
      · exact hs.state_of_offline hpc
  | ptyForwardOff hpc _ hf => exact absurd hf (hs.framed_of_connected (hs.state_eq hpc))
  | ptyErr hpc =>
      refine .moves [] rfl rfl ?_ fun _ _ h => nomatch h
      rw [hs.state_eq hpc]; nofun
  | nextOff hpc hf => exact absurd hf (hs.framed_of_connected (hs.state_eq hpc))
  | @nextError f e hpc =>
      refine .moves (.decodeError f.session e :: .closed f.session :: t.failReplies)
        hquiet rfl (by rw [hs.state_eq hpc]; nofun) fun b p h => ?_
      cases h
      exact ⟨rfl, by rw [hs.state_eq hpc]; rfl⟩
  | @tcpEnd f hpc =>
      refine .moves (.closed f.session :: t.failReplies) hquiet rfl
        (by rw [hs.state_eq hpc]; nofun) fun b p h => ?_
      cases h
      exact ⟨rfl, by rw [hs.state_eq hpc]; rfl⟩
  | ctlSendOff hpc _ hf => exact absurd hf (hs.framed_of_connected (hs.state_eq hpc))
  | @sendErr msg f hpc =>
      refine .moves (.closed f.session :: t.failReplies) hquiet rfl
        (by rw [hs.state_eq hpc]; nofun) fun b p h => ?_
      cases h
      exact ⟨rfl, by rw [hs.state_eq hpc]; rfl⟩
  | @ctlSendErr ctl tx f hpc =>
      refine .moves [.closed f.session, .ctlReply tx (.error .unavailable)] rfl rfl
        (by rw [hs.state_eq hpc]; nofun) fun b p h => ?_
      cases h
      exact ⟨rfl, by rw [hs.state_eq hpc]; rfl⟩
  | ptyWriteErr hpc =>
      refine .moves [.ptyWriteError] rfl rfl ?_ fun _ _ h => nomatch h
      rw [hs.state_eq hpc]; nofun
  | elapsedConnected hpc hf =>
      rw [hs.framed_of_reconnecting (hs.state_eq hpc)] at hf
      cases hf
  | @connectOk b p hpc =>
      refine .moves [.opened t.tcp.opened] rfl rfl (by rw [hs.state_eq hpc]; nofun) ?_
      -- with a stream it is `Resyncing` or `Connected`
      intro b' p' h
      cases p <;> cases h
  | @connectFail r b next p obs opened hpc hnext hobs =>
      refine .fails obs (hs.state_eq hpc) hnext rfl ?_ rfl
      rcases hobs with ⟨-, rfl, -⟩ | ⟨-, rfl, -⟩ <;> rfl
  | overflow hpc hnext => exact absurd hnext (hs.nextBackoff_ne_none hpc)
  | @resynced p f hpc =>
      refine .moves [.sendOk f.session p] rfl rfl (by rw [hs.state_eq hpc]; nofun) ?_
      exact fun _ _ h => nomatch h
  | @resyncErr p f hpc =>
      refine .moves [.closed f.session] rfl rfl (by rw [hs.state_eq hpc]; nofun) ?_
      intro b p' h
      cases h
      exact ⟨rfl, by rw [hs.state_eq hpc]; rfl⟩
  | _ => exact .stays rfl rfl

/-- What the history of a run tells about the state it ends in. -/
structure Told (log : List TaskObs) (t : ConnectionTask) : Prop where
  /-- `try_connect` never returned early. -/
  no_alreadyConnected : TaskObs.alreadyConnected ∉ log
  /-- `send` and `next` never reported "not connected". -/
  no_notConnected : TaskObs.notConnected ∉ log
  /-- The history knows whether the task is reconnecting. -/
  reconnecting : (streak log).reconnecting = t.state.isReconnecting
  /-- The backoff is determined by the failures in a row. -/
  backoff : ∀ b p, t.state = .reconnecting b p →
    b = min (initialReconnectBackoff * 2 ^ failStreak log) maxReconnectBackoff
  /-- Once shutting down, always shutting down. -/
  shuttingDown : TaskObs.enter .shuttingDown ∈ log → t.state = .shuttingDown

/-- Quiet observations are none of those the history is asked about. -/
theorem not_mem_of_quiet {out : List TaskObs} (h : out.all TaskObs.quiet) :
    TaskObs.alreadyConnected ∉ out ∧ TaskObs.notConnected ∉ out ∧
      TaskObs.enter .shuttingDown ∉ out := by
  rw [List.all_eq_true] at h
  refine ⟨?_, ?_, ?_⟩ <;> intro hmem <;> exact absurd (h _ hmem) Bool.false_ne_true

/-- Doubling once more: one more failure in the exponent, still capped. -/
theorem double_min (b m k : Nat) : min (min (b * 2 ^ k) m * 2) m = min (b * 2 ^ (k + 1)) m := by
  rw [Nat.pow_succ, ← Nat.mul_assoc]
  omega

/-- Every step of a sound task keeps the history true. -/
theorem Told.step {log out : List TaskObs} {t t' : ConnectionTask} (ht : Told log t)
    (hs : Sound t) (h : Entered t t' out) : Told (log ++ out) t' := by
  cases h with
  | stays hst hq =>
      obtain ⟨hal, hnot, hdown⟩ := not_mem_of_quiet hq
      have hstreak : streak (log ++ out) = streak log := by
        rw [streak, List.foldl_append, foldl_next_of_quiet hq, streak]
      constructor
      · simp [ht.no_alreadyConnected, hal]
      · simp [ht.no_notConnected, hnot]
      · rw [hstreak, hst, ht.reconnecting]
      · intro b p hb
        rw [failStreak, hstreak]
        exact ht.backoff b p (hst ▸ hb)
      · intro hmem
        rw [hst]
        apply ht.shuttingDown
        simpa [hdown] using hmem
  | moves pre hq hout hne hb =>
      obtain ⟨hal, hnot, hdown⟩ := not_mem_of_quiet hq
      have hstreak : streak (log ++ out) = (streak log).next (.enter t'.state) := by
        rw [hout, streak, List.foldl_append, List.foldl_append, foldl_next_of_quiet hq, ← streak]
        rfl
      have hrec := ht.reconnecting
      subst hout
      -- the streak goes on, begins or ends with the state entered
      constructor
      · simp [ht.no_alreadyConnected, hal]
      · simp [ht.no_notConnected, hnot]
      · rw [hstreak]
        cases hst' : t'.state with
        | reconnecting b p =>
            simp only [Streak.next]
            split
            · assumption
            · rfl
        | _ => rfl
      · -- a streak starts with the initial backoff
        intro b p hst'
        obtain ⟨rfl, hother⟩ := hb b p hst'
        rw [failStreak, hstreak, hst', Streak.next, hrec, hother, if_neg (by decide)]
        exact (Nat.min_eq_left (by decide)).symm
      · intro hmem
        simp only [List.mem_append, hdown, List.mem_singleton, false_or,
          TaskObs.enter.injEq] at hmem
        rcases hmem with hmem | hmem
        · exact absurd (ht.shuttingDown hmem) hne
        · exact hmem.symm
  | @fails pre b next p hst hnext hst' hq hout =>
      obtain ⟨hal, hnot, hdown⟩ := not_mem_of_quiet hq
      have hstreak : streak (log ++ out) = ⟨true, failStreak log + 1⟩ := by
        have hrec : (streak log).reconnecting = true := by rw [ht.reconnecting, hst]; rfl
        rw [hout, streak, List.foldl_append, List.foldl_append, foldl_next_of_quiet hq, ← streak]
        simp [Streak.next, hrec, failStreak]
      subst hout
      constructor
      · simp [ht.no_alreadyConnected, hal]
      · simp [ht.no_notConnected, hnot]
      · rw [hstreak, hst']; rfl
      · -- one failure more, and the backoff is doubled once more
        intro b' p' heq
        rw [hst'] at heq
        cases heq
        rw [nextBackoff_eq (hs.backoff_le b p hst), Option.some.injEq] at hnext
        rw [failStreak, hstreak, ← hnext, ht.backoff b p hst]
        exact double_min _ _ _
      · intro hmem
        have hlog : TaskObs.enter .shuttingDown ∈ log := by
          simpa [hdown] using hmem
        rw [ht.shuttingDown hlog] at hst
        cases hst

/-- Every history is true of the state it ends in. -/
theorem told_of_reaches {name : String} {addr : UInt32} {port : UInt16} {master : AsyncPty}
    {log : List TaskObs} {t : ConnectionTask}
    (h : (machine (spawn name addr port master)).Reaches log t) : Told log t := by
  refine h.invariant (P := Told) ?_ ?_
  · refine ⟨nofun, nofun, rfl, ?_, nofun⟩
    intro b p hst
    cases hst
    decide
  · intro log t i t' out hr ht _ hstep
    have hs := sound_of_reaches hr.reaches
    exact ht.step hs ((step_cases hstep).entered hs)

/-- What holds of a run of the connection task, history and state. -/
structure ConnectionInvariant (log : List TaskObs) (t : ConnectionTask) : Prop where
  /-- `Connected` and `Resyncing` have a stream. -/
  framed_isSome : t.pc = .top → (t.state = .connected ∨ ∃ p, t.state = .resyncing p) →
    t.tcp.framed.isSome
  /-- `Reconnecting` has none. -/
  framed_eq_none : t.pc = .top → ∀ b p, t.state = .reconnecting b p → t.tcp.framed = none
  /-- `try_connect` never returned early. -/
  try_connect_connects : TaskObs.alreadyConnected ∉ log
  /-- `send` and `next` never reported "not connected". -/
  never_notConnected : TaskObs.notConnected ∉ log
  /-- A control request waits for its answer only in `Connected` or `ShuttingDown`. -/
  pending_hw_ctl : t.pendingHwCtl.isSome → t.state = .connected ∨ t.state = .shuttingDown
  /-- The message kept is a `Data` of 1 to 255 bytes or a `Config`. -/
  pending : ∀ m, t.state.pending = some m →
    (∃ len data, m = .data len data ∧ 1 ≤ len.toNat ∧ len.toNat ≤ 255) ∨
      ∃ baudrate dataBits stopBits parity hwFlowCtl,
        m = .config baudrate dataBits stopBits parity hwFlowCtl
  /-- The backoff is 100 ms doubled at each failure in a row, up to 5 s. -/
  backoff : ∀ b p, t.state = .reconnecting b p →
    b = min (Duration.fromMillis 100 * 2 ^ failStreak log) (Duration.fromMillis 5000)
  /-- Doubling it does not overflow. -/
  next_backoff : ∀ b p, t.state = .reconnecting b p → (nextBackoff b).isSome
  /-- No `unreachable!()` arm is reached and no arithmetic overflows. -/
  not_panicked : t.pc ≠ .panicked
  /-- `ShuttingDown` is never left. -/
  shutting_down : TaskObs.enter .shuttingDown ∈ log → t.state = .shuttingDown

/-- **The invariant of the connection task** holds at every point of every run, whatever PTY reads
and writes, TCP operations, control requests and shutdown signals do. -/
theorem connection_invariant {name : String} {addr : UInt32} {port : UInt16} {master : AsyncPty}
    {log : List TaskObs} {t : ConnectionTask}
    (h : (machine (spawn name addr port master)).Reaches log t) : ConnectionInvariant log t := by
  have hs := sound_of_reaches h
  have ht := told_of_reaches h
  refine ⟨?_, fun _ b p hst => hs.framed_of_reconnecting hst, ht.no_alreadyConnected,
    ht.no_notConnected, ?_, ?_, ht.backoff, ?_, ?_, ht.shuttingDown⟩
  · rintro - (hst | ⟨p, hst⟩)
    · exact Option.isSome_iff_ne_none.mpr (hs.framed_of_connected hst)
    · exact Option.isSome_iff_ne_none.mpr (hs.framed_of_resyncing hst)
  · intro hsome
    exact hs.slot (Option.isSome_iff_ne_none.mp hsome)
  · intro m hm
    have hfwd := hs.kept m hm
    cases m with
    | data len data => exact .inl ⟨len, data, rfl, hfwd.1, hfwd.2⟩
    | config baudrate dataBits stopBits parity hwFlowCtl => exact .inr ⟨_, _, _, _, _, rfl⟩
    | controlReq req => exact hfwd.elim
    | controlRes res => exact hfwd.elim
  · intro b p hst
    rw [nextBackoff_eq (hs.backoff_le b p hst)]
    rfl
  · intro hpc
    exact hs.state_eq hpc

/-- The invariant after two failed attempts to connect: the backoff is 400 ms. -/
theorem connection_invariant_two_failures :
    ∃ log t, (machine (spawn "a" 0 0 (AsyncPty.new ⟨0, 0, .B9600⟩))).Reaches log t ∧
      failStreak log = 2 ∧ t.state = .reconnecting (Duration.fromMillis 400) none ∧
      ConnectionInvariant log t := by
  have hrun : (machine (spawn "a" 0 0 (AsyncPty.new ⟨0, 0, .B9600⟩))).Reaches _ _ :=
    Machine.Reaches.init.exec [.resume, .sleepElapsed, .connect .err, .resume, .sleepElapsed,
      .connect .nodelayErr] rfl
  exact ⟨_, _, hrun, rfl, rfl, connection_invariant hrun⟩

end ConnectionTask

end TcpUart
