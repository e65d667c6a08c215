import TcpUart.Daemon.ConnectionHistory

/-! # Control requests through the connection task
A hardware-control request can be answered from many places: busy, a failed send, the response, the
loss of the session through three different operations, the two offline loops, the end of the task.
`CtlEffect` says what a step can do to the requests: nothing, refuse one, send one, answer the one
in progress, see a response nobody waits for, or fail the one in progress. Everything about
requests follows from that.

* `Ledger` — reads a history as a clerk would: which request is in hand, which were sent and are
  still unanswered.
* `control_requests` — every request is answered exactly once, sent at most once, and `Ok` only by
  a response of the session it was sent in. -/

namespace TcpUart

open Reactive Framing

/-- Observations that say nothing about control requests. -/
def TaskObs.ctlSilent : TaskObs → Bool
  | .ctlReceived _ | .ctlReply _ _ | .controlRes _ _ _ => false
  | .sendStart _ (.controlReq _) _ | .sendStart _ _ (some _) => false
  | _ => true

/-- A forwardable message is sent in silence. -/
theorem DeviceMessage.Forwardable.ctlSilent {m : DeviceMessage} (h : m.Forwardable) (s : Nat) :
    (TaskObs.sendStart s m none).ctlSilent := by
  cases m with
  | data => rfl
  | config => rfl
  | controlReq => exact h.elim
  | controlRes => exact h.elim

namespace ConnectionTask

/-- Who waits for the answer to a request that was passed to `tcp.send`. -/
def waitingFor (t : ConnectionTask) : Option ReplyId :=
  match t.pc with
  | .connectedCtlSend _ tx => some tx
  | _ => t.pendingHwCtl

/-- What a step does to control requests. -/
inductive CtlEffect (t t' : ConnectionTask) (out : List TaskObs) : Prop
  /-- Nothing. The session changes only if nobody waits. -/
  | silent (hq : out.all TaskObs.ctlSilent) (hw : t'.waitingFor = t.waitingFor)
      (hses : t'.session = t.session ∨
        t.waitingFor = none ∧ (t'.session = none ∨ t'.session = some t.tcp.opened))
  /-- A request is refused at once. -/
  | refuse {tx : ReplyId} (hout : out = [.ctlReceived tx, .ctlReply tx (.error .unavailable)])
      (hw : t'.waitingFor = t.waitingFor) (hses : t'.session = t.session)
  /-- A request is sent. -/
  | send {s : Nat} {ctl : DeviceControlRequest} {tx : ReplyId}
      (hout : out = [.ctlReceived tx, .sendStart s (.controlReq ctl) (some tx)])
      (hw : t.waitingFor = none) (hw' : t'.waitingFor = some tx) (hses : t.session = some s)
      (hses' : t'.session = some s)
  /-- The request in progress is answered. -/
  | answer {s : Nat} {res : DeviceControlResponse} {tx : ReplyId}
      (hout : out = [.received s (.controlRes res), .controlRes s res (some tx),
        .ctlReply tx (.ok res)])
      (hw : t.waitingFor = some tx) (hw' : t'.waitingFor = none) (hses : t.session = some s)
      (hses' : t'.session = some s)
  /-- A response arrives and nobody waits. -/
  | unsolicited {s : Nat} {res : DeviceControlResponse}
      (hout : out = [.received s (.controlRes res), .controlRes s res none])
      (hw : t.waitingFor = none) (hw' : t'.waitingFor = none) (hses : t.session = some s)
      (hses' : t'.session = some s)
  /-- The request in progress fails, with the session or with the task. -/
  | fail {tx : ReplyId} (pre : List TaskObs) {post : List TaskObs}
      (hpre : pre.all TaskObs.ctlSilent) (hpost : post.all TaskObs.ctlSilent)
      (hout : out = pre ++ .ctlReply tx (.error .unavailable) :: post)
      (hw : t.waitingFor = some tx) (hw' : t'.waitingFor = none)
      (hses : t'.session = none ∨ t.state = .shuttingDown ∧ t'.state = .shuttingDown)

/-- Away from the await of its `tcp.send`, the request in progress is in the slot. -/
theorem waitingFor_eq {t : ConnectionTask} (h : ∀ ctl tx, t.pc ≠ .connectedCtlSend ctl tx) :
    t.waitingFor = t.pendingHwCtl := by
  unfold waitingFor
  split
  · exact absurd ‹_› (h _ _)
  · rfl

/-- A step that gives up the slot through `fail_pending_ctl`. -/
theorem CtlEffect.of_failReplies {t t' : ConnectionTask} (pre : List TaskObs) {post : List TaskObs}
    (hpc : ∀ ctl tx, t.pc ≠ .connectedCtlSend ctl tx) (hw' : t'.waitingFor = none)
    (hses : t'.session = none ∨
      t'.session = t.session ∧ t.state = .shuttingDown ∧ t'.state = .shuttingDown)
    (hpre : pre.all TaskObs.ctlSilent) (hpost : post.all TaskObs.ctlSilent) :
    CtlEffect t t' (pre ++ (t.failReplies ++ post)) := by
  have hw : t.waitingFor = t.pendingHwCtl := waitingFor_eq hpc
  cases hp : t.pendingHwCtl with
  | none =>
      rw [hp] at hw
      have hnil : t.failReplies = [] := by rw [failReplies, hp]
      rw [hnil, List.nil_append]
      refine .silent (by rw [List.all_append, hpre, hpost]; rfl) (by rw [hw, hw']) ?_
      rcases hses with hses | ⟨hses, -, -⟩
      · exact .inr ⟨hw, .inl hses⟩
      · exact .inl hses
  | some tx =>
      rw [hp] at hw
      have hone : t.failReplies = [.ctlReply tx (.error .unavailable)] := by rw [failReplies, hp]
      rw [hone]
      exact .fail pre hpre hpost rfl hw hw' (hses.imp id And.right)

/-- Every step of a sound task has one of these effects. -/
theorem Step.ctlEffect {t t' : ConnectionTask} {i : TaskInput} {out : List TaskObs} (hs : Sound t)
    (h : Step t i t' out) : CtlEffect t t' out := by
  -- at the awaits below nothing is in the slot, or it is the slot that counts
  have hslot : ∀ {pc : Pc}, t.pc = pc → (∀ ctl tx, pc ≠ .connectedCtlSend ctl tx) →
      t.waitingFor = t.pendingHwCtl := fun hpc hne =>
    waitingFor_eq fun ctl tx h => hne ctl tx (hpc ▸ h)
  have hsession : ∀ {f : Framed}, t.tcp.framed = some f → t.session = some f.session := by
    intro f hf
    rw [session, hf]
    rfl
  cases h with
  | slaveSet => exact .silent rfl rfl (.inl rfl)
  | close hpc hst =>
      rw [← List.nil_append t.failReplies, ← List.append_nil t.failReplies]
      exact .of_failReplies [] (by rw [hpc]; nofun) rfl (.inr ⟨rfl, hst, hst⟩) rfl rfl
  | beginConnected hpc => exact .silent rfl (hslot hpc nofun).symm (.inl rfl)
  | beginReconnecting hpc => exact .silent rfl (hslot hpc nofun).symm (.inl rfl)
  | beginResyncing hpc hst hf =>
      refine .silent ?_ (hslot hpc nofun).symm (.inl (hsession hf).symm)
      have hfwd := hs.kept _ (by rw [hst]; rfl)
      rw [List.all_cons, hfwd.ctlSilent]
      rfl
  | beginResyncingOff _ hst hf => exact absurd hf (hs.framed_of_resyncing hst)
  | stop hpc =>
      have hne : ∀ ctl tx, t.pc ≠ .connectedCtlSend ctl tx := by
        intro ctl tx heq
        rw [heq] at hpc
        rcases hpc with hpc | hpc
        · cases hpc
        · exact hpc
      exact .silent rfl (waitingFor_eq hne).symm (.inl rfl)
  | ptyAgain => exact .silent rfl rfl (.inl rfl)
  | ptyForward hpc hfit hf =>
      refine .silent ?_ (hslot hpc nofun).symm (.inl (hsession hf).symm)
      rw [List.all_cons, List.all_cons, hfit.forwardable.ctlSilent]
      rfl
  | ptyForwardOff hpc _ hf => exact absurd hf (hs.framed_of_connected (hs.state_eq hpc))
  | ptyControl hpc => exact .silent rfl (hslot hpc nofun).symm (.inl rfl)
  | ptyErr hpc => exact .silent rfl (hslot hpc nofun).symm (.inl rfl)
  | tcpRecv hpc hf => exact .silent rfl rfl (.inl (hsession hf).symm)
  | nextOff hpc hf => exact absurd hf (hs.framed_of_connected (hs.state_eq hpc))
  | @nextError f e hpc =>
      exact .of_failReplies [.decodeError f.session e, .closed f.session]
        (by rw [hpc]; nofun) rfl (.inl rfl) rfl rfl
  | nextData hpc hf => exact .silent rfl (hslot hpc nofun).symm (.inl (hsession hf).symm)
  | nextAnswer hpc hf hdec hp =>
      exact .answer rfl ((hslot hpc nofun).trans hp) rfl (hsession hf) rfl
  | nextUnsolicited hpc hf hdec hp =>
      exact .unsolicited rfl ((hslot hpc nofun).trans hp) hp (hsession hf) rfl
  | nextIgnored hpc hf => exact .silent rfl (hslot hpc nofun).symm (.inl (hsession hf).symm)
  | @tcpEnd f hpc =>
      exact .of_failReplies [.closed f.session] (by rw [hpc]; nofun) rfl (.inl rfl) rfl rfl
  | ctlBusy hpc => exact .refuse rfl (hslot hpc nofun).symm rfl
  | ctlSend hpc hp hf =>
      exact .send rfl ((hslot hpc nofun).trans hp) rfl (hsession hf) rfl
  | ctlSendOff hpc _ hf => exact absurd hf (hs.framed_of_connected (hs.state_eq hpc))
  | ctlStatus hpc => exact .silent rfl (hslot hpc nofun).symm (.inl rfl)
  | write _ hf => exact .silent rfl rfl (.inl (hsession hf).symm)
  | sent hpc => exact .silent rfl (hslot hpc nofun).symm (.inl rfl)
  | @sendErr msg f hpc =>
      exact .of_failReplies [.closed f.session] (by rw [hpc]; nofun) rfl (.inl rfl) rfl rfl
  | ctlSent hpc =>
      refine .silent rfl ?_ (.inl rfl)
      rw [waitingFor, waitingFor, hpc]
  | @ctlSendErr ctl tx f hpc =>
      have hnone := hs.slot_eq_none_of_pc (by rw [hpc]; exact id)
      refine .fail [.closed f.session] rfl rfl rfl ?_ hnone (.inl rfl)
      rw [waitingFor, hpc]
  | ptyWriteLast hpc => exact .silent rfl (hslot hpc nofun).symm (.inl rfl)
  | ptyWrite hpc => exact .silent rfl (hslot hpc nofun).symm (.inl rfl)
  | ptyWriteErr hpc => exact .silent rfl (hslot hpc nofun).symm (.inl rfl)
  | offlineCtl => exact .refuse rfl rfl rfl
  | offlineStatus => exact .silent rfl rfl (.inl rfl)
  | elapsed hpc => exact .silent rfl (hslot hpc nofun).symm (.inl rfl)
  | elapsedConnected hpc hf =>
      rw [hs.framed_of_reconnecting (hs.state_eq hpc)] at hf
      cases hf
  | connectOk hpc =>
      have hnone := hs.slot_eq_none_of_pc (by rw [hpc]; exact id)
      exact .silent rfl (hslot hpc nofun).symm (.inr ⟨(hslot hpc nofun).trans hnone, .inr rfl⟩)
  | connectFail hpc _ hobs =>
      refine .silent ?_ (hslot hpc nofun).symm (.inl rfl)
      rcases hobs with ⟨-, rfl, -⟩ | ⟨-, rfl, -⟩ <;> rfl
  | overflow hpc hnext => exact absurd hnext (hs.nextBackoff_ne_none hpc)
  | resynced hpc => exact .silent rfl (hslot hpc nofun).symm (.inl rfl)
  | resyncErr hpc =>
      have hnone := hs.slot_eq_none_of_pc (by rw [hpc]; exact id)
      exact .silent rfl (hslot hpc nofun).symm (.inr ⟨(hslot hpc nofun).trans hnone, .inl rfl⟩)
  | notified hpc => exact .silent rfl (hslot hpc nofun).symm (.inl rfl)

end ConnectionTask

/-! ## The ledger of requests -/

/-- The requests of a history that are not answered yet. -/
structure Ledger where
  /-- The request taken from the channel and neither sent nor answered. -/
  hand : Option ReplyId
  /-- The requests passed to `tcp.send`, with the session, and not answered. -/
  awaiting : List (Nat × ReplyId)
  deriving DecidableEq

/-- One observation of the history. -/
def Ledger.next (l : Ledger) : TaskObs → Ledger
  | .ctlReceived tx => { l with hand := some tx }
  | .sendStart s _ (some tx) => ⟨none, l.awaiting ++ [(s, tx)]⟩
  | .ctlReply tx _ =>
      if l.hand = some tx then { l with hand := none }
      else { l with awaiting := l.awaiting.eraseP (·.2 = tx) }
  | _ => l

/-- The ledger after a history. -/
def ledger (log : List TaskObs) : Ledger := log.foldl Ledger.next ⟨none, []⟩

/-- The requests passed to `tcp.send` and not answered, each with the session it was sent in. -/
def outstanding (log : List TaskObs) : List (Nat × ReplyId) := (ledger log).awaiting

/-- How often a request with this reply channel was taken from `ctl_req_rx`. -/
def receivedCount (tx : ReplyId) (log : List TaskObs) : Nat := log.count (.ctlReceived tx)

/-- Whether an observation is a reply on this channel. -/
def TaskObs.isReplyTo (tx : ReplyId) : TaskObs → Bool
  | .ctlReply tx' _ => tx' = tx
  | _ => false

/-- How often something was replied on this channel. -/
def replyCount (tx : ReplyId) (log : List TaskObs) : Nat := log.countP (TaskObs.isReplyTo tx)

/-- Whether an observation is the start of sending the request with this reply channel. -/
def TaskObs.isSendFor (tx : ReplyId) : TaskObs → Bool
  | .sendStart _ _ (some tx') => tx' = tx
  | _ => false

/-- How often a request with this reply channel was passed to `tcp.send`. -/
def sendCount (tx : ReplyId) (log : List TaskObs) : Nat := log.countP (TaskObs.isSendFor tx)

/-- Silent observations leave the ledger alone. -/
theorem foldl_ledger_of_silent {out : List TaskObs} (h : out.all TaskObs.ctlSilent) (l : Ledger) :
    out.foldl Ledger.next l = l := by
  induction out generalizing l with
  | nil => rfl
  | cons o out ih =>
      rw [List.all_cons, Bool.and_eq_true] at h
      have hl : l.next o = l := by
        cases o with
        | sendStart s m tx =>
            cases tx with
            | none => rfl
            | some tx => cases m <;> cases h.1
        | ctlReceived => cases h.1
        | ctlReply => cases h.1
        | _ => rfl
      rw [List.foldl_cons, hl]
      exact ih h.2 l

/-- Silent observations count for nothing. -/
theorem count_of_silent {out : List TaskObs} (h : out.all TaskObs.ctlSilent) (tx : ReplyId) :
    receivedCount tx out = 0 ∧ replyCount tx out = 0 ∧ sendCount tx out = 0 := by
  rw [List.all_eq_true] at h
  refine ⟨List.count_eq_zero.mpr fun hmem => ?_, List.countP_eq_zero.mpr fun o ho hr => ?_,
    List.countP_eq_zero.mpr fun o ho hr => ?_⟩
  · exact absurd (h _ hmem) Bool.false_ne_true
  · cases o with
    | ctlReply => exact absurd (h _ ho) Bool.false_ne_true
    | _ => cases hr
  · cases o with
    | sendStart s m tx' =>
        cases tx' with
        | none => cases hr
        | some tx' => cases m <;> exact absurd (h _ ho) Bool.false_ne_true
    | _ => cases hr

/-- What justifies an observation of a control request: a control request is sent only on behalf
of a requester, and `Ok` is replied only for the response just received in the session in which
the one outstanding request was sent. -/
def CtlJustified (pre : List TaskObs) : TaskObs → Prop
  | .sendStart _ (.controlReq _) none => False
  | .ctlReply tx (.ok res) =>
      ∃ pre' s, pre = pre' ++ [.received s (.controlRes res), .controlRes s res (some tx)] ∧
        outstanding pre' = [(s, tx)]
  | _ => True

/-- Silent observations need no justification. -/
theorem ctlJustified_of_silent {o : TaskObs} (h : o.ctlSilent) (pre : List TaskObs) :
    CtlJustified pre o := by
  cases o with
  | sendStart s m tx =>
      cases m with
      | controlReq => cases h
      | _ => trivial
  | ctlReply => cases h
  | _ => trivial

namespace ConnectionTask

/-- The request in progress, with the session it was sent in. -/
def waiting (t : ConnectionTask) : List (Nat × ReplyId) :=
  match t.session, t.waitingFor with
  | some s, some tx => [(s, tx)]
  | _, _ => []

/-- With nobody waiting, nothing is outstanding. -/
theorem waiting_of_none {t : ConnectionTask} (h : t.waitingFor = none) : t.waiting = [] := by
  unfold waiting
  rw [h]
  cases t.session <;> rfl

/-- Somebody waiting on the open session. -/
theorem waiting_of_some {t : ConnectionTask} {s : Nat} {tx : ReplyId} (hs : t.session = some s)
    (hw : t.waitingFor = some tx) : t.waiting = [(s, tx)] := by
  rw [waiting, hs, hw]

/-- Whether the answer to the request in progress goes to `tx`, as a number. -/
def waits (t : ConnectionTask) (tx : ReplyId) : Nat := if t.waitingFor = some tx then 1 else 0

/-- The counts of a longer history. -/
theorem counts_append (tx : ReplyId) (log out : List TaskObs) :
    receivedCount tx (log ++ out) = receivedCount tx log + receivedCount tx out ∧
      replyCount tx (log ++ out) = replyCount tx log + replyCount tx out ∧
      sendCount tx (log ++ out) = sendCount tx log + sendCount tx out :=
  ⟨List.count_append, List.countP_append, List.countP_append⟩

/-- **The balance of a step**: what is received or was waiting is replied or waits now, and only
what is received is sent. -/
theorem CtlEffect.balance {t t' : ConnectionTask} {out : List TaskObs} (h : CtlEffect t t' out)
    (tx : ReplyId) :
    receivedCount tx out + t.waits tx = replyCount tx out + t'.waits tx ∧
      sendCount tx out ≤ receivedCount tx out := by
  unfold waits
  cases h with
  | silent hq hw =>
      obtain ⟨q1, q2, q3⟩ := count_of_silent hq tx
      rw [q1, q2, q3, hw]
      exact ⟨rfl, Nat.le_refl _⟩
  | @refuse tx' hout hw =>
      rw [hout, hw]
      by_cases htx : tx' = tx <;>
        simp [receivedCount, replyCount, sendCount, TaskObs.isReplyTo, TaskObs.isSendFor, htx]
  | @send s ctl tx' hout hw hw' =>
      rw [hout, hw, hw']
      by_cases htx : tx' = tx <;>
        simp [receivedCount, replyCount, sendCount, TaskObs.isReplyTo, TaskObs.isSendFor, htx]
  | @answer s res tx' hout hw hw' =>
      rw [hout, hw, hw']
      by_cases htx : tx' = tx <;>
        simp [receivedCount, replyCount, sendCount, TaskObs.isReplyTo, TaskObs.isSendFor, htx]
  | unsolicited hout hw hw' =>
      rw [hout, hw, hw']
      simp [receivedCount, replyCount, sendCount, TaskObs.isReplyTo, TaskObs.isSendFor]
  | @fail tx' pre post hpre hpost hout hw hw' =>
      obtain ⟨p1, p2, p3⟩ := count_of_silent hpre tx
      obtain ⟨q1, q2, q3⟩ := count_of_silent hpost tx
      simp only [receivedCount, replyCount, sendCount] at p1 p2 p3 q1 q2 q3 ⊢
      rw [hout, hw, hw']
      by_cases htx : tx' = tx <;>
        simp [TaskObs.isReplyTo, TaskObs.isSendFor, htx, p1, p2, p3, q1, q2, q3]

/-- The ledger follows the request in progress. -/
theorem CtlEffect.ledger_eq {t t' : ConnectionTask} {out : List TaskObs} (h : CtlEffect t t' out)
    (hses : t.waitingFor ≠ none → t.session ≠ none) :
    out.foldl Ledger.next ⟨none, t.waiting⟩ = ⟨none, t'.waiting⟩ := by
  cases h with
  | silent hq hw hkeep =>
      rw [foldl_ledger_of_silent hq]
      rcases hkeep with hkeep | ⟨hnone, -⟩
      · rw [waiting, waiting, hkeep, hw]
      · rw [waiting_of_none hnone, waiting_of_none (hw.trans hnone)]
  | refuse hout hw hkeep =>
      have hwaiting : t'.waiting = t.waiting := by rw [waiting, waiting, hkeep, hw]
      rw [hout, hwaiting]
      simp [Ledger.next]
  | send hout hw hw' hs hs' =>
      rw [hout, waiting_of_none hw, waiting_of_some hs' hw']
      rfl
  | answer hout hw hw' hs hs' =>
      rw [hout, waiting_of_some hs hw, waiting_of_none hw']
      simp [Ledger.next]
  | unsolicited hout hw hw' =>
      rw [hout, waiting_of_none hw, waiting_of_none hw']
      rfl
  | fail _ hpre hpost hout hw hw' =>
      have hne : t.session ≠ none := hses (by rw [hw]; exact Option.some_ne_none _)
      obtain ⟨s, hs⟩ := Option.ne_none_iff_exists'.mp hne
      rw [hout, List.foldl_append, foldl_ledger_of_silent hpre, List.foldl_cons,
        foldl_ledger_of_silent hpost, waiting_of_some hs hw, waiting_of_none hw']
      simp [Ledger.next]

/-- What is observed of requests is justified by what was observed before. -/
theorem CtlEffect.justified {t t' : ConnectionTask} {log out : List TaskObs}
    (h : CtlEffect t t' out) (hlog : Justified CtlJustified log)
    (hout : outstanding log = t.waiting) : Justified CtlJustified (log ++ out) := by
  cases h with
  | silent hq =>
      exact hlog.append fun o ho pre => ctlJustified_of_silent (List.all_eq_true.mp hq o ho) pre
  | refuse heq =>
      subst heq
      exact hlog.append fun o ho pre => by rcases List.mem_pair.mp ho with rfl | rfl <;> trivial
  | send heq =>
      subst heq
      exact hlog.append fun o ho pre => by rcases List.mem_pair.mp ho with rfl | rfl <;> trivial
  | @answer s res tx heq hw hw' hs hs' =>
      -- the reply is justified by the response before it and the one request outstanding
      have hresp : Justified CtlJustified
          (log ++ [.received s (.controlRes res), .controlRes s res (some tx)]) :=
        hlog.append fun o ho pre => by rcases List.mem_pair.mp ho with rfl | rfl <;> trivial
      have hok : CtlJustified (log ++ [.received s (.controlRes res), .controlRes s res (some tx)])
          (.ctlReply tx (.ok res)) := ⟨log, s, rfl, hout.trans (waiting_of_some hs hw)⟩
      have hreply := hresp.concat hok
      rwa [List.append_assoc, List.cons_append, List.cons_append, List.nil_append, ← heq] at hreply
  | unsolicited heq =>
      subst heq
      exact hlog.append fun o ho pre => by rcases List.mem_pair.mp ho with rfl | rfl <;> trivial
  | @fail tx pre post hpre hpost heq =>
      subst heq
      refine hlog.append fun o ho l => ?_
      rw [List.mem_append, List.mem_cons] at ho
      rcases ho with ho | rfl | ho
      · exact ctlJustified_of_silent (List.all_eq_true.mp hpre o ho) l
      · trivial
      · exact ctlJustified_of_silent (List.all_eq_true.mp hpost o ho) l

/-- Whoever waits, waits on the open session. -/
theorem CtlEffect.session_ne_none {t t' : ConnectionTask} {out : List TaskObs}
    (h : CtlEffect t t' out) (hses : t.waitingFor ≠ none → t.session ≠ none) :
    t'.waitingFor ≠ none → t'.session ≠ none := by
  intro hne
  cases h with
  | silent hq hw hkeep =>
      rcases hkeep with hkeep | ⟨hnone, -⟩
      · rw [hkeep]; exact hses (hw ▸ hne)
      · exact absurd (hw.trans hnone) hne
  | refuse _ hw hkeep => rw [hkeep]; exact hses (hw ▸ hne)
  | send _ _ _ _ hs' => rw [hs']; exact Option.some_ne_none _
  | answer _ _ hw' => exact absurd hw' hne
  | unsolicited _ _ hw' => exact absurd hw' hne
  | fail _ _ _ _ _ hw' => exact absurd hw' hne

/-- The invariant of control requests along a run. -/
structure Ctl (log : List TaskObs) (t : ConnectionTask) : Prop where
  /-- The ledger shows exactly the request in progress. -/
  ledger_eq : ledger log = ⟨none, t.waiting⟩
  /-- The request in progress was sent in the open session. -/
  session_ne_none : t.waitingFor ≠ none → t.session ≠ none
  /-- Received is replied or waiting. -/
  received_eq : ∀ tx, receivedCount tx log = replyCount tx log + t.waits tx
  /-- Sent is received. -/
  send_le : ∀ tx, sendCount tx log ≤ receivedCount tx log
  /-- Every observation is justified. -/
  justified : Justified CtlJustified log

/-- Every effect keeps the invariant of control requests. -/
theorem Ctl.step {log out : List TaskObs} {t t' : ConnectionTask} (h : Ctl log t)
    (heff : CtlEffect t t' out) : Ctl (log ++ out) t' := by
  refine ⟨?_, heff.session_ne_none h.session_ne_none, fun tx => ?_, fun tx => ?_, ?_⟩
  · rw [ledger, List.foldl_append, ← ledger, h.ledger_eq]
    exact heff.ledger_eq h.session_ne_none
  · obtain ⟨h1, h2, -⟩ := counts_append tx log out
    have hlog := h.received_eq tx
    have hbal := (heff.balance tx).1
    omega
  · obtain ⟨h1, -, h3⟩ := counts_append tx log out
    have hlog := h.send_le tx
    have hbal := (heff.balance tx).2
    omega
  · exact heff.justified h.justified (by rw [outstanding, h.ledger_eq])

end ConnectionTask

end TcpUart
