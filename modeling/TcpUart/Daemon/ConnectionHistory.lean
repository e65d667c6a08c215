import TcpUart.Daemon.ConnectionInvariant

/-! # The sessions in the history of a connection task
The bridge opens one stream after the other, so the sessions named in a history come in order, and
the open stream is the last one opened. The keyed logs below say what happened in each session;
each of them is sorted by session (`pairwise_of_reaches`). -/

namespace TcpUart

open Reactive Framing

namespace TaskObs

/-- The session an observation is about. -/
def session? : TaskObs → Option Nat
  | .sendStart s _ _ | .wrote s _ | .sendOk s _ | .opened s | .closed s | .recv s _
  | .received s _ | .decodeError s _ | .controlRes s _ _ => some s
  | _ => none

/-- Messages for which `tcp.send` returned `Ok`. -/
def sentOk? : TaskObs → Option (Nat × DeviceMessage)
  | .sendOk s m => some (s, m)
  | _ => none

/-- Bytes a session took. -/
def wrote? : TaskObs → Option (Nat × Bytes)
  | .wrote s bs => some (s, bs)
  | _ => none

/-- Bytes a session yielded. -/
def recv? : TaskObs → Option (Nat × Bytes)
  | .recv s bs => some (s, bs)
  | _ => none

/-- Messages `tcp.next` returned. -/
def received? : TaskObs → Option (Nat × DeviceMessage)
  | .received s m => some (s, m)
  | _ => none

/-- Messages whose sending began, with who waits for the answer if it is a control request. -/
def started? : TaskObs → Option (Nat × DeviceMessage × Option ReplyId)
  | .sendStart s m tx => some (s, m, tx)
  | _ => none

/-- Control responses, with who was answered. -/
def controlRes? : TaskObs → Option (Nat × DeviceControlResponse × Option ReplyId)
  | .controlRes s res answered => some (s, res, answered)
  | _ => none

/-- What carries its session in a history is about that session. -/
theorem session?_of_sentOk? {o : TaskObs} {s : Nat} {m : DeviceMessage}
    (h : o.sentOk? = some (s, m)) : o.session? = some s := by
  cases o <;> cases h
  rfl

theorem session?_of_wrote? {o : TaskObs} {s : Nat} {bs : Bytes} (h : o.wrote? = some (s, bs)) :
    o.session? = some s := by
  cases o <;> cases h
  rfl

theorem session?_of_recv? {o : TaskObs} {s : Nat} {bs : Bytes} (h : o.recv? = some (s, bs)) :
    o.session? = some s := by
  cases o <;> cases h
  rfl

theorem session?_of_received? {o : TaskObs} {s : Nat} {m : DeviceMessage}
    (h : o.received? = some (s, m)) : o.session? = some s := by
  cases o <;> cases h
  rfl

theorem session?_of_started? {o : TaskObs} {s : Nat} {x : DeviceMessage × Option ReplyId}
    (h : o.started? = some (s, x)) : o.session? = some s := by
  cases o <;> cases h
  rfl

theorem session?_of_controlRes? {o : TaskObs} {s : Nat}
    {x : DeviceControlResponse × Option ReplyId} (h : o.controlRes? = some (s, x)) :
    o.session? = some s := by
  cases o <;> cases h
  rfl

/-- Bytes the PTY took. -/
def ptyWrote? : TaskObs → Option Bytes
  | .ptyWrote bs => some bs
  | _ => none

/-- Results of `master.read` that are forwarded. -/
def ptyRead? : TaskObs → Option PtyRead
  | .ptyRead r => some r
  | _ => none

end TaskObs

/-- Whether an observation is the loss of a session. -/
def TaskObs.isClosed : TaskObs → Bool
  | .closed _ => true
  | _ => false

/-- How many sessions were lost. -/
def closedCount (log : List TaskObs) : Nat := log.countP TaskObs.isClosed

namespace ConnectionTask

/-- The session that is open. -/
def session (t : ConnectionTask) : Option Nat := t.tcp.framed.map Framed.session

/-- The sessions of a history are in order, and the open one is the last one opened. -/
structure Sessions (log : List TaskObs) (t : ConnectionTask) : Prop where
  /-- Sessions come in order. -/
  sorted : (log.filterMap TaskObs.session?).Pairwise (· ≤ ·)
  /-- Only opened sessions occur. -/
  below : ∀ s ∈ log.filterMap TaskObs.session?, s < t.tcp.opened
  /-- The open session is the last one. -/
  current : ∀ f, t.tcp.framed = some f → f.session + 1 = t.tcp.opened

/-- What a step does to the sessions. -/
structure SessionStep (t t' : ConnectionTask) (out : List TaskObs) : Prop where
  /-- A step is about one session only, the open one or the one it opens. -/
  about : ∃ s, (∀ s' ∈ out.filterMap TaskObs.session?, s' = s ∧ s < t'.tcp.opened) ∧
    t.tcp.opened ≤ s + 1
  /-- Streams are only opened. -/
  mono : t.tcp.opened ≤ t'.tcp.opened
  /-- The open stream is kept, dropped, or the one just opened. -/
  framed : ∀ f', t'.tcp.framed = some f' →
    (∃ f, t.tcp.framed = some f ∧ f'.session = f.session ∧ t'.tcp.opened = t.tcp.opened) ∨
      f'.session = t.tcp.opened ∧ t'.tcp.opened = t.tcp.opened + 1

/-- The replies of `fail_pending_ctl` show nothing but themselves. -/
theorem filterMap_failReplies {β : Type*} {g : TaskObs → Option β}
    (hg : ∀ tx r, g (.ctlReply tx r) = none) (t : ConnectionTask) :
    t.failReplies.filterMap g = [] := by
  unfold failReplies
  cases t.pendingHwCtl with
  | none => rfl
  | some tx => exact List.filterMap_cons_none (hg tx _)

/-- The replies of `fail_pending_ctl` name no session. -/
@[simp] theorem filterMap_session_failReplies (t : ConnectionTask) :
    t.failReplies.filterMap TaskObs.session? = [] := filterMap_failReplies (fun _ _ => rfl) t

/-- A step that keeps the number of opened streams and speaks of the open one only. -/
theorem SessionStep.of_current {t t' : ConnectionTask} {out : List TaskObs} {f : Framed}
    (hcur : f.session + 1 = t.tcp.opened) (ho : t'.tcp.opened = t.tcp.opened)
    (hf : t.tcp.framed = some f)
    (hf' : ∀ f', t'.tcp.framed = some f' → f'.session = f.session)
    (hout : ∀ s ∈ out.filterMap TaskObs.session?, s = f.session) : SessionStep t t' out where
  about := ⟨f.session, fun s hs => ⟨hout s hs, by omega⟩, by omega⟩
  mono := by omega
  framed := fun f' h => .inl ⟨f, hf, hf' f' h, ho⟩

/-- A step that names no session and leaves the bridge alone. -/
theorem SessionStep.of_same {t t' : ConnectionTask} {out : List TaskObs} (htcp : t'.tcp = t.tcp)
    (hout : out.filterMap TaskObs.session? = []) : SessionStep t t' out where
  about := ⟨t.tcp.opened, by simp [hout], by omega⟩
  mono := Nat.le_of_eq (by rw [htcp])
  framed := fun f' h => .inl ⟨f', htcp ▸ h, rfl, by rw [htcp]⟩

/-- Every step of a sound task is about one session. -/
theorem Step.sessionStep {t t' : ConnectionTask} {i : TaskInput} {out : List TaskObs}
    (hs : Sound t) (hcur : ∀ f, t.tcp.framed = some f → f.session + 1 = t.tcp.opened)
    (h : Step t i t' out) : SessionStep t t' out := by
  -- the stream stays, maybe with other buffers
  have hkept : ∀ {t' : ConnectionTask} {out : List TaskObs} {f f₁ : Framed},
      t.tcp.framed = some f → t'.tcp.opened = t.tcp.opened → t'.tcp.framed = some f₁ →
        f₁.session = f.session → (∀ s ∈ out.filterMap TaskObs.session?, s = f.session) →
          SessionStep t t' out := by
    intro t' out f f₁ hf hopened hf₁ hsession hout
    refine .of_current (hcur f hf) hopened hf (fun f' hf' => ?_) hout
    cases hf₁.symm.trans hf'
    exact hsession
  -- the stream is dropped
  have hlost : ∀ {t' : ConnectionTask} {out : List TaskObs} {f : Framed},
      t.tcp.framed = some f → t'.tcp.opened = t.tcp.opened → t'.tcp.framed = none →
        (∀ s ∈ out.filterMap TaskObs.session?, s = f.session) → SessionStep t t' out := by
    intro t' out f hf hopened hnone hout
    refine .of_current (hcur f hf) hopened hf (fun f' hf' => ?_) hout
    cases hnone.symm.trans hf'
  cases h with
  | beginResyncing _ _ hf => exact hkept hf rfl rfl rfl (by simp [TaskObs.session?])
  | beginResyncingOff _ hst hf => exact absurd hf (hs.framed_of_resyncing hst)
  | ptyForward _ _ hf => exact hkept hf rfl rfl rfl (by simp [TaskObs.session?])
  | ptyForwardOff hpc _ hf => exact absurd hf (hs.framed_of_connected (hs.state_eq hpc))
  | tcpRecv _ hf => exact hkept hf rfl rfl rfl (by simp [TaskObs.session?])
  | nextOff hpc hf => exact absurd hf (hs.framed_of_connected (hs.state_eq hpc))
  | nextError _ hf => exact hlost hf rfl rfl (by simp [TaskObs.session?])
  | nextData _ hf => exact hkept hf rfl rfl rfl (by simp [TaskObs.session?])
  | nextAnswer _ hf => exact hkept hf rfl rfl rfl (by simp [TaskObs.session?])
  | nextUnsolicited _ hf => exact hkept hf rfl rfl rfl (by simp [TaskObs.session?])
  | nextIgnored _ hf => exact hkept hf rfl rfl rfl (by simp [TaskObs.session?])
  | tcpEnd _ hf => exact hlost hf rfl rfl (by simp [TaskObs.session?])
  | ctlSend _ _ hf => exact hkept hf rfl rfl rfl (by simp [TaskObs.session?])
  | ctlSendOff hpc _ hf => exact absurd hf (hs.framed_of_connected (hs.state_eq hpc))
  | write _ hf => exact hkept hf rfl rfl rfl (by simp [TaskObs.session?])
  | sent _ hf => exact hkept hf rfl hf rfl (by simp [TaskObs.session?])
  | sendErr _ hf => exact hlost hf rfl rfl (by simp [TaskObs.session?])
  | ctlSent _ hf => exact hkept hf rfl hf rfl (by simp [TaskObs.session?])
  | ctlSendErr _ hf => exact hlost hf rfl rfl (by simp [TaskObs.session?])
  | elapsedConnected hpc hf =>
      rw [hs.framed_of_reconnecting (hs.state_eq hpc)] at hf
      cases hf
  -- the only step that opens a session and keeps it
  | connectOk hpc =>
      refine ⟨⟨t.tcp.opened, ?_, by omega⟩, Nat.le_succ _, fun f' h => ?_⟩
      · intro s hs
        obtain rfl : s = t.tcp.opened := by simpa [TaskObs.session?] using hs
        exact ⟨rfl, Nat.lt_succ_self _⟩
      · cases h
        exact .inr ⟨rfl, rfl⟩
  | @connectFail r b next p obs opened hpc _ hobs =>
      have hnone := hs.framed_of_reconnecting (hs.state_eq hpc)
      have hle : t.tcp.opened ≤ opened := by rcases hobs with ⟨-, -, rfl⟩ | ⟨-, -, rfl⟩ <;> omega
      refine ⟨⟨t.tcp.opened, ?_, by omega⟩, hle, fun f' h => absurd (hnone.symm.trans h) nofun⟩
      rcases hobs with ⟨-, rfl, rfl⟩ | ⟨-, rfl, rfl⟩
      · simp [TaskObs.session?]
      · intro s hs
        obtain rfl : s = t.tcp.opened := by simpa [TaskObs.session?] using hs
        exact ⟨rfl, Nat.lt_succ_self _⟩
  | overflow hpc hnext => exact absurd hnext (hs.nextBackoff_ne_none hpc)
  | resynced _ hf => exact hkept hf rfl hf rfl (by simp [TaskObs.session?])
  | resyncErr _ hf => exact hlost hf rfl rfl (by simp [TaskObs.session?])
  | close => exact .of_same rfl t.filterMap_session_failReplies
  | _ => exact .of_same rfl rfl

/-- The sessions of a history are ordered, below the next one. -/
theorem Sessions.ordered {log : List TaskObs} {t : ConnectionTask} (h : Sessions log t) :
    Ordered (log.filterMap TaskObs.session?) t.tcp.opened := ⟨h.sorted, h.below⟩

/-- Every step keeps the sessions in order. -/
theorem Sessions.step {log out : List TaskObs} {t t' : ConnectionTask} (h : Sessions log t)
    (hstep : SessionStep t t' out) : Sessions (log ++ out) t' := by
  obtain ⟨s, habout, hle⟩ := hstep.about
  have hordered := h.ordered.append hstep.mono hle habout
  rw [← List.filterMap_append] at hordered
  refine ⟨hordered.sorted, hordered.below, ?_⟩
  intro f' hf'
  rcases hstep.framed f' hf' with ⟨f, hf, hses, ho⟩ | ⟨hses, ho⟩
  · rw [hses, ho]
    exact h.current f hf
  · rw [hses, ho]

/-- The sessions of every history are in order. -/
theorem sessions_of_reaches {name : String} {addr : UInt32} {port : UInt16} {master : AsyncPty}
    {log : List TaskObs} {t : ConnectionTask}
    (h : (machine (spawn name addr port master)).Reaches log t) : Sessions log t := by
  refine h.invariant (P := Sessions) ⟨List.Pairwise.nil, nofun, fun _ hf => ?_⟩ ?_
  · cases hf
  · intro log t i t' out hr hses _ hstep
    have hs := sound_of_reaches hr.reaches
    exact hses.step ((step_cases hstep).sessionStep hs hses.current)

/-- Entries of a history that carry their session are sorted by it. -/
theorem Sessions.pairwise {α : Type*} {log : List TaskObs} {t : ConnectionTask}
    (h : Sessions log t) {g : TaskObs → Option (Nat × α)}
    (hg : ∀ o s a, g o = some (s, a) → o.session? = some s) :
    (log.filterMap g).Pairwise fun a b => a.1 ≤ b.1 :=
  pairwise_filterMap_of_sorted hg h.sorted

/-- Nothing has happened yet in the session that is opened next. -/
theorem Sessions.valuesAt_opened {α : Type*} {log : List TaskObs} {t : ConnectionTask}
    (h : Sessions log t) {g : TaskObs → Option (Nat × α)}
    (hg : ∀ o s a, g o = some (s, a) → o.session? = some s) :
    valuesAt t.tcp.opened (log.filterMap g) = [] :=
  h.ordered.valuesAt_eq_nil hg (Nat.le_refl _)

/-- How many streams are open: one or none. -/
def isOpen (t : ConnectionTask) : Nat := if t.tcp.framed.isSome then 1 else 0

/-- A task with a stream. -/
theorem isOpen_of_some {t : ConnectionTask} {f : Framed} (h : t.tcp.framed = some f) :
    t.isOpen = 1 := by
  rw [isOpen, h]
  rfl

/-- A task without. -/
theorem isOpen_of_none {t : ConnectionTask} (h : t.tcp.framed = none) : t.isOpen = 0 := by
  rw [isOpen, h]
  rfl

/-- The replies of `fail_pending_ctl` lose no session. -/
@[simp] theorem closedCount_failReplies (t : ConnectionTask) :
    t.failReplies.countP TaskObs.isClosed = 0 := by
  unfold failReplies
  cases t.pendingHwCtl <;> rfl

/-- Streams opened in a step are open after it or lost in it. -/
theorem Step.opened_balance {t t' : ConnectionTask} {i : TaskInput} {out : List TaskObs}
    (hs : Sound t) (h : Step t i t' out) :
    t'.tcp.opened + t.isOpen = t.tcp.opened + closedCount out + t'.isOpen := by
  cases h with
  -- what the states promise of the stream rules these out
  | beginResyncingOff _ hst hf => exact absurd hf (hs.framed_of_resyncing hst)
  | ptyForwardOff hpc _ hf => exact absurd hf (hs.framed_of_connected (hs.state_eq hpc))
  | nextOff hpc hf => exact absurd hf (hs.framed_of_connected (hs.state_eq hpc))
  | ctlSendOff hpc _ hf => exact absurd hf (hs.framed_of_connected (hs.state_eq hpc))
  | elapsedConnected hpc hf =>
      rw [hs.framed_of_reconnecting (hs.state_eq hpc)] at hf
      cases hf
  | connectOk hpc =>
      rw [isOpen_of_none (hs.framed_of_reconnecting (hs.state_eq hpc))]
      rfl
  | connectFail hpc _ hobs =>
      have hnone := hs.framed_of_reconnecting (hs.state_eq hpc)
      rcases hobs with ⟨-, rfl, rfl⟩ | ⟨-, rfl, rfl⟩ <;>
        simp [isOpen, enter, hnone, closedCount, List.countP_cons, TaskObs.isClosed]
  | overflow hpc hnext => exact absurd hnext (hs.nextBackoff_ne_none hpc)
  | close => simp [isOpen, closedCount]
  -- a stream is dropped, and the session is closed
  | nextError _ hf =>
      simp [isOpen, enter, TcpBridge.drop, closedCount, List.countP_cons, TaskObs.isClosed, hf]
  | tcpEnd _ hf =>
      simp [isOpen, enter, TcpBridge.drop, closedCount, List.countP_cons, TaskObs.isClosed, hf]
  | sendErr _ hf =>
      simp [isOpen, enter, TcpBridge.drop, closedCount, List.countP_cons, TaskObs.isClosed, hf]
  | ctlSendErr _ hf =>
      simp [isOpen, enter, TcpBridge.drop, closedCount, List.countP_cons, TaskObs.isClosed, hf]
  | resyncErr _ hf =>
      simp [isOpen, enter, TcpBridge.drop, closedCount, List.countP_cons, TaskObs.isClosed, hf]
  -- only a buffer of the stream changes
  | beginResyncing _ _ hf => rw [isOpen_of_some hf]; rfl
  | ptyForward _ _ hf => rw [isOpen_of_some hf]; rfl
  | tcpRecv _ hf => rw [isOpen_of_some hf]; rfl
  | nextData _ hf => rw [isOpen_of_some hf]; rfl
  | nextAnswer _ hf => rw [isOpen_of_some hf]; rfl
  | nextUnsolicited _ hf => rw [isOpen_of_some hf]; rfl
  | nextIgnored _ hf => rw [isOpen_of_some hf]; rfl
  | ctlSend _ _ hf => rw [isOpen_of_some hf]; rfl
  | write _ hf => rw [isOpen_of_some hf]; rfl
  | _ => rfl

/-- **Sessions are conserved**: every stream opened was lost or is open. -/
theorem opened_eq_of_reaches {name : String} {addr : UInt32} {port : UInt16} {master : AsyncPty}
    {log : List TaskObs} {t : ConnectionTask}
    (h : (machine (spawn name addr port master)).Reaches log t) :
    t.tcp.opened = closedCount log + t.isOpen := by
  refine h.invariant (P := fun log t => t.tcp.opened = closedCount log + t.isOpen) rfl ?_
  intro log t i t' out hr heq _ hstep
  have hbal := (step_cases hstep).opened_balance (sound_of_reaches hr.reaches)
  have happend : closedCount (log ++ out) = closedCount log + closedCount out :=
    List.countP_append
  omega

end ConnectionTask

end TcpUart
