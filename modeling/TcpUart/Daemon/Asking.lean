import TcpUart.Daemon.ControlRequests
import TcpUart.Daemon.Waiting

/-! # The main loop asks one task at a time
The main loop waits for the answer to a request before it sends another one, to this task or to any
other. So in the whole daemon at most one request is unanswered, and the request channels, which
have room for eight, never hold more than that one.

* `Serving` — what a step of a connection task does to the requests before it.
* `Asking` — the invariant: what a live task has still to answer is what the main loop waits for.
* `one_request_at_a_time` — no live task is ever asked twice, the main loop never waits for room in
  a request channel, and no task finds another request in progress when it takes one. -/

namespace TcpUart

open Reactive

/-- The `oneshot` channel on which a request is answered. -/
def ConnectionTaskRequest.tx : ConnectionTaskRequest → ReplyId
  | .hardwareControl _ tx => tx
  | .status tx => tx

/-- An answer of the kind the request asks for. -/
def TaskReply.Fits : TaskReply → ConnectionTaskRequest → Prop
  | .ctl _, .hardwareControl _ _ => True
  | .status _, .status _ => True
  | _, _ => False

/-- The request that a task takes. -/
def TaskInput.request? : TaskInput → Option ConnectionTaskRequest
  | .ctlReq req => some req
  | _ => none

/-- Whether a control request is being sent. -/
def Pc.sendsCtl : Pc → Bool
  | .connectedCtlSend _ _ => true
  | _ => false

/-- The request whose answer the main loop waits for, and the task it was sent to. -/
def MainPc.awaits : MainPc → Option (TaskId × ConnectionTaskRequest)
  | .listReply tx conn _ _ _ => some (conn.task, .status tx)
  | .ctlReply _ tx conn _ => some (conn.task, .hardwareControl .reset tx)
  | _ => none

/-- What a task has still to answer: the control request in progress, and what is in its channel. -/
def Spawned.unanswered (sp : Spawned) : List ConnectionTaskRequest :=
  sp.task.waitingFor.toList.map (.hardwareControl .reset) ++ sp.requests.items

namespace ConnectionTask

/-! ## What a step does to requests -/

/-- The answers given in a step. -/
def answers (out : List TaskObs) : List (ReplyId × TaskReply) := out.filterMap TaskObs.reply?

/-- What a step of a task does to the requests before it. -/
inductive Serving (t t' : ConnectionTask) (i : TaskInput) (out : List TaskObs) : Prop
  /-- Nothing. -/
  | idle (hi : i.request? = none) (hw : t'.waitingFor = t.waitingFor) (hr : answers out = [])
  /-- A control request is taken and passed on. -/
  | passedOn {ctl : DeviceControlRequest} {tx : ReplyId}
      (hi : i = .ctlReq (.hardwareControl ctl tx)) (hw : t.waitingFor = none) (hw' : t'.waitingFor = some tx) (hr : answers out = [])
  /-- A request is taken and answered at once. -/
  | atOnce {req : ConnectionTaskRequest} {r : TaskReply} (hi : i = .ctlReq req)
      (hw : t'.waitingFor = t.waitingFor) (hr : answers out = [(req.tx, r)]) (hfit : r.Fits req)
  /-- The control request in progress is answered. -/
  | answered {tx : ReplyId} {r : CtlReply} (hi : i.request? = none)
      (hw : t.waitingFor = some tx) (hw' : t'.waitingFor = none)
      (hr : answers out = [(tx, .ctl r)])

/-- What `fail_pending_ctl` answers. -/
theorem answers_failReplies (t : ConnectionTask) :
    answers t.failReplies
      = t.pendingHwCtl.toList.map fun tx => (tx, .ctl (.error .unavailable)) := by
  unfold answers failReplies
  cases t.pendingHwCtl <;> rfl

/-- Unless a control request is being sent, who waits is in the slot. -/
theorem waitingFor_of_not_sendsCtl {t : ConnectionTask} (h : t.pc.sendsCtl = false) :
    t.waitingFor = t.pendingHwCtl := by
  refine waitingFor_eq fun ctl tx hpc => ?_
  rw [hpc] at h
  cases h

/-- A step that gives up the slot through `fail_pending_ctl`. -/
theorem Serving.of_failReplies {t t' : ConnectionTask} {i : TaskInput} {out : List TaskObs}
    (hi : i.request? = none) (hpc : t.pc.sendsCtl = false) (hw' : t'.waitingFor = none)
    (hr : answers out = answers t.failReplies) :
    Serving t t' i out := by
  have hw := waitingFor_of_not_sendsCtl hpc
  rw [answers_failReplies] at hr
  cases hp : t.pendingHwCtl with
  | none =>
      rw [hp] at hw hr
      exact .idle hi (hw'.trans hw.symm) hr
  | some tx =>
      rw [hp] at hw hr
      exact .answered hi hw hw' hr

/-- Every step of a sound task does one of these. -/
theorem Step.serving {t t' : ConnectionTask} {i : TaskInput} {out : List TaskObs} (hs : Sound t)
    (h : Step t i t' out) : Serving t t' i out := by
  -- at the awaits below it is the slot that counts
  have hslot : ∀ {pc : Pc}, t.pc = pc → pc.sendsCtl = false → t.waitingFor = t.pendingHwCtl :=
    fun hpc hsends => waitingFor_of_not_sendsCtl (hpc ▸ hsends)
  have hlost : ∀ (pre : List TaskObs) (st : ConnState), answers pre = [] →
      answers (pre ++ (t.failReplies ++ [.enter st])) = answers t.failReplies := by
    intro pre st hpre
    unfold answers at hpre ⊢
    rw [List.filterMap_append, List.filterMap_append, hpre, List.nil_append]
    exact List.append_nil _
  cases h with
  | slaveSet => exact .idle rfl rfl rfl
  | close hpc => exact .of_failReplies rfl (by rw [hpc]; rfl) rfl rfl
  | beginConnected hpc => exact .idle rfl (hslot hpc rfl).symm rfl
  | beginReconnecting hpc => exact .idle rfl (hslot hpc rfl).symm rfl
  | beginResyncing hpc => exact .idle rfl (hslot hpc rfl).symm rfl
  | beginResyncingOff _ hst hf => exact absurd hf (hs.framed_of_resyncing hst)
  | stop hpc hi =>
      have hsends : t.pc.sendsCtl = false := by
        rcases hpc with hpc | hpc
        · rw [hpc]
          rfl
        · cases heq : t.pc with
          | connectedCtlSend =>
              rw [heq] at hpc
              exact hpc.elim
          | _ => rfl
      refine .idle ?_ (waitingFor_of_not_sendsCtl hsends).symm rfl
      rcases hi with rfl | rfl <;> rfl
  | ptyAgain => exact .idle rfl rfl rfl
  | ptyForward hpc => exact .idle rfl (hslot hpc rfl).symm rfl
  | ptyForwardOff hpc _ hf => exact absurd hf (hs.framed_of_connected (hs.state_eq hpc))
  | ptyControl hpc => exact .idle rfl (hslot hpc rfl).symm rfl
  | ptyErr hpc => exact .idle rfl (hslot hpc rfl).symm rfl
  | tcpRecv hpc => exact .idle rfl rfl rfl
  | nextOff hpc hf => exact absurd hf (hs.framed_of_connected (hs.state_eq hpc))
  | @nextError f e hpc =>
      exact .of_failReplies rfl (by rw [hpc]; rfl) rfl
        (hlost [.decodeError f.session e, .closed f.session] _ rfl)
  | nextData hpc => exact .idle rfl (hslot hpc rfl).symm rfl
  | nextAnswer hpc _ _ hp => exact .answered rfl ((hslot hpc rfl).trans hp) rfl rfl
  | nextUnsolicited hpc => exact .idle rfl (hslot hpc rfl).symm rfl
  | nextIgnored hpc => exact .idle rfl (hslot hpc rfl).symm rfl
  | @tcpEnd f hpc =>
      exact .of_failReplies rfl (by rw [hpc]; rfl) rfl (hlost [.closed f.session] _ rfl)
  | ctlBusy hpc => exact .atOnce rfl (hslot hpc rfl).symm rfl trivial
  | ctlSend hpc hp => exact .passedOn rfl ((hslot hpc rfl).trans hp) rfl rfl
  | ctlSendOff hpc _ hf => exact absurd hf (hs.framed_of_connected (hs.state_eq hpc))
  | ctlStatus hpc => exact .atOnce rfl (hslot hpc rfl).symm rfl trivial
  | write => exact .idle rfl rfl rfl
  | sent hpc => exact .idle rfl (hslot hpc rfl).symm rfl
  | @sendErr msg f hpc =>
      exact .of_failReplies rfl (by rw [hpc]; rfl) rfl (hlost [.closed f.session] _ rfl)
  | ctlSent hpc =>
      refine .idle rfl ?_ rfl
      rw [waitingFor, waitingFor, hpc]
  | ctlSendErr hpc =>
      have hnone := hs.slot_eq_none_of_pc (by rw [hpc]; exact id)
      refine .answered rfl ?_ hnone rfl
      rw [waitingFor, hpc]
  | ptyWriteLast hpc => exact .idle rfl (hslot hpc rfl).symm rfl
  | ptyWrite hpc => exact .idle rfl (hslot hpc rfl).symm rfl
  | ptyWriteErr hpc => exact .idle rfl (hslot hpc rfl).symm rfl
  | offlineCtl => exact .atOnce rfl rfl rfl trivial
  | offlineStatus => exact .atOnce rfl rfl rfl trivial
  | elapsed hpc => exact .idle rfl (hslot hpc rfl).symm rfl
  | elapsedConnected hpc => exact .idle rfl (hslot hpc rfl).symm rfl
  | connectOk hpc => exact .idle rfl (hslot hpc rfl).symm rfl
  | connectFail hpc _ hobs =>
      refine .idle rfl (hslot hpc rfl).symm ?_
      rcases hobs with ⟨-, rfl, -⟩ | ⟨-, rfl, -⟩ <;> rfl
  | overflow hpc hnext => exact absurd hnext (hs.nextBackoff_ne_none hpc)
  | resynced hpc => exact .idle rfl (hslot hpc rfl).symm rfl
  | resyncErr hpc => exact .idle rfl (hslot hpc rfl).symm rfl
  | notified hpc => exact .idle rfl (hslot hpc rfl).symm rfl

/-- A task that is gone takes no request and shows nothing more. -/
theorem gone_of_step {t t' : ConnectionTask} {i : TaskInput} {out : List TaskObs}
    (h : t.step i = some (t', out)) (hpc : t.pc = .exited ∨ t.pc = .panicked) :
    t'.pc = t.pc ∧ out = [] ∧ ∀ req, i ≠ .ctlReq req := by
  unfold step at h
  cases i with
  | slaveSet =>
      cases h
      exact ⟨rfl, rfl, fun _ => TaskInput.noConfusion⟩
  | _ => rcases hpc with hpc | hpc <;> rw [hpc] at h <;> cases h

end ConnectionTask

/-- A task that is not gone after a step was not gone before. -/
theorem Spawned.not_gone_of_step {sp : Spawned} {t' : ConnectionTask} {i : TaskInput}
    {out : List TaskObs} {requests : BoundedQueue ConnectionTaskRequest 8}
    (h : sp.task.step i = some (t', out))
    (hg : ({ sp with task := t', requests := requests } : Spawned).gone = false) :
    sp.gone = false := by
  by_contra hgone
  have hpc : sp.task.pc = .exited ∨ sp.task.pc = .panicked :=
    of_decide_eq_true (Bool.of_not_eq_false hgone)
  have hpc' : t'.pc = .exited ∨ t'.pc = .panicked := by
    rwa [(ConnectionTask.gone_of_step h hpc).1]
  exact of_decide_eq_false hg hpc'

namespace Daemon

variable {d d' : Daemon} {i : DaemonInput} {out log : List DaemonObs}

/-! ## What the main loop waits for -/

/-- What the main loop waits for from task `k`: the request it sent, if it is not answered. -/
def owed (d : Daemon) (k : TaskId) : List ConnectionTaskRequest :=
  match d.main.awaits with
  | some (k', req) => if k' = k ∧ d.replyOn req.tx = none then [req] else []
  | none => []

/-- **The invariant of asking.** -/
structure Asking (d : Daemon) : Prop where
  /-- Answers were given on channels that were opened. -/
  fresh : ∀ r ∈ d.replies, r.1 < d.nextTx
  /-- So was the request that is awaited. -/
  current : ∀ k req, d.main.awaits = some (k, req) → req.tx < d.nextTx
  /-- The answers on its channel are of its kind. -/
  fits : ∀ k req, d.main.awaits = some (k, req) → ∀ r, (req.tx, r) ∈ d.replies → r.Fits req
  /-- What a live task has still to answer is what the main loop waits for. -/
  owed : ∀ k sp, d.tasks[k]? = some sp → sp.gone = false → sp.unanswered = d.owed k

/-- Nothing is owed to a main loop that waits for no answer. -/
theorem owed_of_none (h : d.main.awaits = none) (k : TaskId) : d.owed k = [] := by
  rw [Daemon.owed, h]

/-- Nothing is owed by the other tasks. -/
theorem owed_of_ne {k k' : TaskId} {req : ConnectionTaskRequest}
    (h : d.main.awaits = some (k', req)) (hne : k' ≠ k) : d.owed k = [] := by
  rw [Daemon.owed, h]
  exact if_neg fun hc => hne hc.1

/-- Nothing is owed once there is an answer. -/
theorem owed_of_answered {k k' : TaskId} {req : ConnectionTaskRequest} {r : TaskReply}
    (h : d.main.awaits = some (k', req)) (hr : d.replyOn req.tx = some r) : d.owed k = [] := by
  rw [Daemon.owed, h]
  refine if_neg fun hc => ?_
  rw [hr] at hc
  cases hc.2

/-- The request that was sent is owed until there is an answer. -/
theorem owed_self {k : TaskId} {req : ConnectionTaskRequest}
    (h : d.main.awaits = some (k, req)) (hr : d.replyOn req.tx = none) : d.owed k = [req] := by
  rw [Daemon.owed, h]
  exact if_pos ⟨rfl, hr⟩

/-- At most one request is owed. -/
theorem owed_eq_cons {k : TaskId} {req : ConnectionTaskRequest} {rest : List ConnectionTaskRequest}
    (h : d.owed k = req :: rest) :
    rest = [] ∧ d.main.awaits = some (k, req) ∧ d.replyOn req.tx = none := by
  unfold Daemon.owed at h
  split at h
  · rename_i k' req' ha
    split at h
    · rename_i hc
      cases h
      obtain ⟨rfl, hr⟩ := hc
      exact ⟨rfl, ha, hr⟩
    · cases h
  · cases h

/-- No answer is there on a channel that is not opened yet. -/
theorem Asking.replyOn_eq_none (h : Asking d) {tx : ReplyId} (htx : d.nextTx ≤ tx) :
    d.replyOn tx = none := by
  rw [replyOn, List.find?_eq_none.mpr, Option.map_none]
  intro r hr heq
  have hlt := h.fresh r hr
  rw [of_decide_eq_true heq] at hlt
  exact absurd hlt (Nat.not_lt.mpr htx)

/-- An answer that is given is there. -/
theorem replyOn_append_self {tx : ReplyId} {r : TaskReply} (h : d.replyOn tx = none)
    {d' : Daemon} (hd' : d'.replies = d.replies ++ [(tx, r)]) : d'.replyOn tx = some r := by
  rw [replyOn] at h ⊢
  rw [hd', List.find?_append, Option.map_eq_none_iff.mp h]
  simp

/-- A main loop that waits for no answer. -/
theorem Asking.of_none (hfresh : ∀ r ∈ d.replies, r.1 < d.nextTx) (ha : d.main.awaits = none)
    (howed : ∀ (k : TaskId) (sp : Spawned), d.tasks[k]? = some sp → sp.gone = false →
      sp.unanswered = []) :
    Asking d where
  fresh := hfresh
  current := by
    intro k req h
    rw [ha] at h
    cases h
  fits := by
    intro k req h
    rw [ha] at h
    cases h
  owed := by
    intro k sp hk hg
    rw [howed k sp hk hg, owed_of_none ha]

/-- While the main loop waits for no answer, no live task has a request before it. -/
theorem Asking.unanswered_eq_nil (h : Asking d) (ha : d.main.awaits = none) {k : TaskId}
    {sp : Spawned} (hk : d.tasks[k]? = some sp) (hg : sp.gone = false) : sp.unanswered = [] := by
  rw [h.owed k sp hk hg, owed_of_none ha]

/-- The main loop goes on, and tasks and answers stay: nothing may be owed any more. -/
theorem Asking.moved (h : Asking d) (htasks : d'.tasks = d.tasks)
    (hreplies : d'.replies = d.replies) (hnext : d'.nextTx = d.nextTx)
    (ha : d'.main.awaits = none)
    (hnone : ∀ (k : TaskId) (sp : Spawned), d.tasks[k]? = some sp → sp.gone = false →
      d.owed k = []) : Asking d' := by
  refine .of_none (by rw [hreplies, hnext]; exact h.fresh) ha ?_
  intro k sp hk hg
  rw [htasks] at hk
  rw [h.owed k sp hk hg, hnone k sp hk hg]

/-- `State::list` between two tasks waits for no answer. -/
theorem awaits_listNext (d : Daemon) (rest : List Connection) (list : List ConnectionInfo)
    (client : ClientId) : (d.listNext rest list client).1.main.awaits = none := by
  cases rest <;> rfl

/-- After a reset the main loop waits for no answer. -/
theorem awaits_onCtlResult (d : Daemon) (name : String) (client : ClientId)
    (res : Option CtlReply) : (d.onCtlResult name client res).1.main.awaits = none := by
  rw [main_onCtlResult]
  rfl

/-- `State::list` between two tasks gives and opens nothing. -/
theorem replies_listNext (d : Daemon) (rest : List Connection) (list : List ConnectionInfo)
    (client : ClientId) : (d.listNext rest list client).1.replies = d.replies ∧
      (d.listNext rest list client).1.nextTx = d.nextTx := by
  cases rest <;> exact ⟨rfl, rfl⟩

/-- Neither does the end of a reset. -/
theorem replies_onCtlResult (d : Daemon) (name : String) (client : ClientId)
    (res : Option CtlReply) : (d.onCtlResult name client res).1.replies = d.replies ∧
      (d.onCtlResult name client res).1.nextTx = d.nextTx := by
  unfold onCtlResult
  split <;> exact ⟨rfl, rfl⟩

/-- Nothing that concerns asking changes. -/
theorem Asking.same (h : Asking d) (hmain : d'.main = d.main) (htasks : d'.tasks = d.tasks)
    (hreplies : d'.replies = d.replies) (hnext : d'.nextTx = d.nextTx) : Asking d' where
  fresh := by
    rw [hreplies, hnext]
    exact h.fresh
  current := by
    rw [hmain, hnext]
    exact h.current
  fits := by
    rw [hmain, hreplies]
    exact h.fits
  owed := by
    intro k sp hk hg
    rw [htasks] at hk
    rw [h.owed k sp hk hg]
    unfold Daemon.owed replyOn
    rw [hmain, hreplies]

/-- `State::list` goes on, and nothing is owed any more. -/
theorem Asking.listNext (h : Asking d)
    (hnone : ∀ (k : TaskId) (sp : Spawned), d.tasks[k]? = some sp → sp.gone = false →
      d.owed k = []) (rest : List Connection) (list : List ConnectionInfo) (client : ClientId) :
    Asking (d.listNext rest list client).1 := by
  obtain ⟨hreplies, hnext⟩ := replies_listNext d rest list client
  exact h.moved (sameEntries_listNext d rest list client).tasks_eq hreplies hnext
    (awaits_listNext d rest list client) hnone

/-- A reset is answered, and nothing is owed any more. -/
theorem Asking.onCtlResult (h : Asking d)
    (hnone : ∀ (k : TaskId) (sp : Spawned), d.tasks[k]? = some sp → sp.gone = false →
      d.owed k = []) (name : String) (client : ClientId) (res : Option CtlReply) :
    Asking (d.onCtlResult name client res).1 := by
  obtain ⟨hreplies, hnext⟩ := replies_onCtlResult d name client res
  exact h.moved (sameEntries_onCtlResult d name client res).tasks_eq hreplies hnext
    (awaits_onCtlResult d name client res) hnone

/-- A task that is gone owes nothing, and the others do not either. -/
theorem owed_of_gone {k : TaskId} {req : ConnectionTaskRequest}
    (ha : d.main.awaits = some (k, req)) (hg : d.gone k = true) (k' : TaskId) (sp : Spawned)
    (hk' : d.tasks[k']? = some sp) (hlive : sp.gone = false) : d.owed k' = [] := by
  by_cases hkk : k = k'
  · subst hkk
    rw [gone, hk', Option.all_some, hlive] at hg
    cases hg
  · exact owed_of_ne ha hkk

/-- A task that was told to shut down has the same requests before it. -/
theorem tasks_shutdown {conn : Connection} {k : TaskId} {sp : Spawned}
    (h : (d.shutdown conn).tasks[k]? = some sp) :
    ∃ sp₀, d.tasks[k]? = some sp₀ ∧ sp.task = sp₀.task ∧ sp.requests = sp₀.requests := by
  rw [shutdown, List.getElem?_modify] at h
  obtain ⟨sp₀, hsp₀, heq⟩ := Option.map_eq_some_iff.mp h
  refine ⟨sp₀, hsp₀, ?_⟩
  split at heq <;> cases heq <;> exact ⟨rfl, rfl⟩

/-- Telling a task to shut down. -/
theorem Asking.shutdown (h : Asking d) (ha : d.main.awaits = none) (conn : Connection) :
    Asking (d.shutdown conn) := by
  refine .of_none h.fresh ha ?_
  intro k sp hk hg
  obtain ⟨sp₀, hk₀, htask, hreq⟩ := tasks_shutdown hk
  have hg₀ : sp₀.gone = false := by
    rw [Spawned.gone, ← htask]
    exact hg
  have hnil := h.unanswered_eq_nil ha hk₀ hg₀
  rwa [Spawned.unanswered, ← htask, ← hreq] at hnil

/-- The main loop sends a request to a task that has nothing else to answer. -/
theorem Asking.request (h : Asking d) (ha : d.main.awaits = none) {k : TaskId}
    {req : ConnectionTaskRequest} (htx : req.tx = d.nextTx) {sp : Spawned}
    {q : BoundedQueue ConnectionTaskRequest 8} (hk : d.tasks[k]? = some sp)
    (hpush : sp.requests.push req = some q)
    (htasks : d'.tasks = d.tasks.set k { sp with requests := q })
    (hreplies : d'.replies = d.replies) (hnext : d'.nextTx = d.nextTx + 1)
    (ha' : d'.main.awaits = some (k, req)) : Asking d' := by
  obtain ⟨hitems, -⟩ := BoundedQueue.items_of_push hpush
  have hlt := (List.getElem?_eq_some_iff.mp hk).1
  have hnone : d'.replyOn req.tx = none := by
    rw [replyOn, hreplies]
    exact h.replyOn_eq_none (Nat.le_of_eq htx.symm)
  refine ⟨?_, ?_, ?_, ?_⟩
  · intro r hr
    rw [hreplies] at hr
    rw [hnext]
    exact Nat.lt_succ_of_lt (h.fresh r hr)
  · intro k' req' ha''
    cases ha'.symm.trans ha''
    rw [htx, hnext]
    exact Nat.lt_succ_self _
  · intro k' req' ha'' r hr
    cases ha'.symm.trans ha''
    -- no answer was given on a channel that was just opened
    rw [hreplies] at hr
    have hfresh := h.fresh _ hr
    rw [htx] at hfresh
    exact absurd hfresh (Nat.lt_irrefl _)
  · intro k' sp' hk' hg'
    rw [htasks] at hk'
    by_cases hkk : k = k'
    · subst hkk
      rw [List.getElem?_set_self hlt] at hk'
      obtain rfl := Option.some.inj hk'
      have hnil : sp.unanswered = [] := h.unanswered_eq_nil ha hk hg'
      rw [Spawned.unanswered, List.append_eq_nil_iff] at hnil
      rw [owed_self ha' hnone, Spawned.unanswered, hitems, hnil.1, hnil.2]
      rfl
    · rw [List.getElem?_set_ne hkk] at hk'
      rw [h.unanswered_eq_nil ha hk' hg', owed_of_ne ha' hkk]

/-- What the channel of a task holds after a step of it: a request is taken from the front. -/
theorem channels_requests {k : TaskId} {sp : Spawned} {i : TaskInput}
    {requests : BoundedQueue ConnectionTaskRequest 8} {events : NumberedQueue Event 128}
    (h : d.channels k sp i = some (requests, events)) :
    (∀ req, i = .ctlReq req → sp.requests.items = req :: requests.items) ∧
      (i.request? = none → requests = sp.requests) := by
  cases channels_cases h with
  | ctlReq hpop =>
      constructor
      · rintro req ⟨⟩
        exact BoundedQueue.items_of_pop hpop
      · intro hnone
        cases hnone
  | other hreq => exact ⟨fun req hi => absurd hi (hreq req), fun _ => rfl⟩
  | shutdown => exact ⟨fun _ => TaskInput.noConfusion, fun _ => rfl⟩
  | ctlClosed => exact ⟨fun _ => TaskInput.noConfusion, fun _ => rfl⟩
  | notified => exact ⟨fun _ => TaskInput.noConfusion, fun _ => rfl⟩

/-- A task goes on without an answer: what it has to answer stays. -/
theorem Asking.keep (h : Asking d) {k : TaskId} {sp sp' : Spawned} (hk : d.tasks[k]? = some sp)
    (htasks : d'.tasks = d.tasks.set k sp') (hmain : d'.main = d.main)
    (hreplies : d'.replies = d.replies) (hnext : d'.nextTx = d.nextTx)
    (hgone : sp'.gone = false → sp.gone = false) (hun : sp'.unanswered = sp.unanswered) :
    Asking d' := by
  have hlt := (List.getElem?_eq_some_iff.mp hk).1
  have howed : ∀ k', d'.owed k' = d.owed k' := by
    intro k'
    unfold Daemon.owed replyOn
    rw [hmain, hreplies]
  refine ⟨?_, ?_, ?_, ?_⟩
  · rw [hreplies, hnext]
    exact h.fresh
  · rw [hmain, hnext]
    exact h.current
  · rw [hmain, hreplies]
    exact h.fits
  · intro k' sp₁ hk' hg'
    rw [htasks] at hk'
    by_cases hkk : k = k'
    · subst hkk
      rw [List.getElem?_set_self hlt] at hk'
      obtain rfl := Option.some.inj hk'
      rw [hun, howed, h.owed k sp hk (hgone hg')]
    · rw [List.getElem?_set_ne hkk] at hk'
      rw [howed, h.owed k' sp₁ hk' hg']

/-- A live task gives an answer: it was the one the main loop waits for. -/
theorem Asking.answer (h : Asking d) {k : TaskId} {sp sp' : Spawned}
    (hk : d.tasks[k]? = some sp) (hlive : sp.gone = false) {req : ConnectionTaskRequest}
    {rest : List ConnectionTaskRequest} (hun : sp.unanswered = req :: rest)
    (htasks : d'.tasks = d.tasks.set k sp') (hmain : d'.main = d.main)
    (hnext : d'.nextTx = d.nextTx) {r : TaskReply}
    (hreplies : d'.replies = d.replies ++ [(req.tx, r)]) (hfit : r.Fits req)
    (hun' : sp'.unanswered = rest) : Asking d' := by
  obtain ⟨rfl, ha, hnone⟩ := owed_eq_cons ((h.owed k sp hk hlive).symm.trans hun)
  have hlt := (List.getElem?_eq_some_iff.mp hk).1
  have ha' : d'.main.awaits = some (k, req) := by rw [hmain, ha]
  have hsome : d'.replyOn req.tx = some r := replyOn_append_self hnone hreplies
  refine ⟨?_, ?_, ?_, ?_⟩
  · intro x hx
    rw [hreplies] at hx
    rw [hnext]
    rcases List.mem_append.mp hx with hx | hx
    · exact h.fresh x hx
    · obtain rfl := List.mem_singleton.mp hx
      exact h.current k req ha
  · rw [hmain, hnext]
    exact h.current
  · intro k' req' ha'' r' hr'
    cases ha'.symm.trans ha''
    rw [hreplies] at hr'
    rcases List.mem_append.mp hr' with hr' | hr'
    · exact h.fits k req ha r' hr'
    · cases List.mem_singleton.mp hr'
      exact hfit
  · intro k' sp₁ hk' hg'
    rw [htasks] at hk'
    rw [owed_of_answered ha' hsome]
    by_cases hkk : k = k'
    · subst hkk
      rw [List.getElem?_set_self hlt] at hk'
      obtain rfl := Option.some.inj hk'
      exact hun'
    · rw [List.getElem?_set_ne hkk] at hk'
      rw [h.owed k' sp₁ hk' hg', owed_of_ne ha hkk]

/-- A connection task goes on. -/
theorem Asking.task (h : Asking d) {k : TaskId} {i : TaskInput} {sp : Spawned}
    {requests : BoundedQueue ConnectionTaskRequest 8} {events : NumberedQueue Event 128}
    {t' : ConnectionTask} {out : List TaskObs} (hsound : ConnectionTask.Sound sp.task)
    (hk : d.tasks[k]? = some sp) (hch : d.channels k sp i = some (requests, events))
    (hs : sp.task.step i = some (t', out))
    (htasks : d'.tasks = d.tasks.set k { sp with task := t', requests := requests })
    (hmain : d'.main = d.main) (hnext : d'.nextTx = d.nextTx)
    (hreplies : d'.replies = d.replies ++ ConnectionTask.answers out) : Asking d' := by
  obtain ⟨htook, hleft⟩ := channels_requests hch
  have hgone : ({ sp with task := t', requests := requests } : Spawned).gone = false →
      sp.gone = false := Spawned.not_gone_of_step hs
  -- a task that takes a request or answers one is not gone
  have hlive : (∃ req, i = .ctlReq req) ∨ out ≠ [] → sp.gone = false := by
    intro hacts
    by_contra hg
    have hpc : sp.task.pc = .exited ∨ sp.task.pc = .panicked :=
      of_decide_eq_true (Bool.of_not_eq_false hg)
    obtain ⟨-, hout, hi⟩ := ConnectionTask.gone_of_step hs hpc
    rcases hacts with ⟨req, hreq⟩ | hne
    · exact hi req hreq
    · exact hne hout
  have hne : ∀ {x : ReplyId × TaskReply}, ConnectionTask.answers out = [x] → out ≠ [] := by
    rintro x hr rfl
    cases hr
  cases (ConnectionTask.step_cases hs).serving hsound with
  | idle hi hw hr =>
      rw [hr, List.append_nil] at hreplies
      refine h.keep hk htasks hmain hreplies hnext hgone ?_
      rw [Spawned.unanswered, Spawned.unanswered, hw, hleft hi]
  | @passedOn ctl tx hi hw hw' hr =>
      rw [hr, List.append_nil] at hreplies
      refine h.keep hk htasks hmain hreplies hnext hgone ?_
      rw [Spawned.unanswered, Spawned.unanswered, hw, hw', htook _ hi]
      cases ctl
      rfl
  | @atOnce req r hi hw hr hfit =>
      rw [hr] at hreplies
      -- with a request in progress there would be two of them
      have hwait : sp.task.waitingFor = none := by
        by_contra hsome
        obtain ⟨tx, htx⟩ := Option.ne_none_iff_exists'.mp hsome
        have hun : sp.unanswered = .hardwareControl .reset tx :: req :: requests.items := by
          rw [Spawned.unanswered, htx, htook _ hi]
          rfl
        have howed := (h.owed k sp hk (hlive (.inl ⟨req, hi⟩))).symm.trans hun
        cases (owed_eq_cons howed).1
      have hun : sp.unanswered = req :: requests.items := by
        rw [Spawned.unanswered, hwait, htook _ hi]
        rfl
      refine h.answer hk (hlive (.inl ⟨req, hi⟩)) hun htasks hmain hnext hreplies hfit ?_
      rw [Spawned.unanswered, hw, hwait]
      rfl
  | @answered tx r hi hw hw' hr =>
      have hun : sp.unanswered = .hardwareControl .reset tx :: sp.requests.items := by
        rw [Spawned.unanswered, hw]
        rfl
      rw [hr] at hreplies
      refine h.answer (r := .ctl r) hk (hlive (.inr (hne hr))) hun htasks hmain hnext hreplies
        trivial ?_
      rw [Spawned.unanswered, hw', hleft hi]
      rfl

/-- Every step keeps the invariant of asking. -/
theorem Asking.step (hsound : ∀ sp ∈ d.tasks, ConnectionTask.Sound sp.task) (h : Asking d)
    (hs : Step d i d' out) : Asking d' := by
  -- while the main loop waits for no answer, nothing is owed
  have hnone : ∀ {main : MainPc}, d.main = main → main.awaits = none →
      ∀ (k : TaskId) (sp : Spawned), d.tasks[k]? = some sp → sp.gone = false → d.owed k = [] :=
    fun hm ha k _ _ _ => owed_of_none (by rw [hm, ha]) k
  cases hs with
  | accept => exact h.same rfl rfl rfl rfl
  | acceptFailed => exact h
  | ctrlC hm => exact h.moved rfl rfl rfl rfl (hnone hm rfl)
  | @recvAdd n e events name addr port client slaveName tio hm =>
      refine .of_none h.fresh rfl ?_
      intro k sp hk hg
      have hk' : (d.tasks ++ [⟨ConnectionTask.spawn name addr port (AsyncPty.new tio), false,
        BoundedQueue.empty⟩])[k]? = some sp := hk
      rw [List.getElem?_append] at hk'
      split at hk'
      · exact h.unanswered_eq_nil (by rw [hm]; rfl) hk' hg
      · -- nobody has asked the new task yet
        obtain rfl := List.mem_singleton.mp (List.mem_of_getElem? hk')
        rfl
  | recvAddRefused _ hm => exact h.moved rfl rfl rfl rfl (hnone hm rfl)
  | @recvRemove n e events name client pty conn state hm =>
      have hmid : Asking { d with state := state, events := events } := h.same rfl rfl rfl rfl
      exact (hmid.shutdown (by rw [hm]; rfl) conn).moved rfl rfl rfl rfl
        fun k _ _ _ => owed_of_none (by rw [Daemon.shutdown, hm]; rfl) k
  | recvRemoveNone hm => exact h.moved rfl rfl rfl rfl (hnone hm rfl)
  | @recvList n e events client pty hm =>
      have hmid : Asking (d.took events) := h.same rfl rfl rfl rfl
      exact hmid.listNext (fun k _ _ _ => owed_of_none (by rw [took, hm]; rfl) k) _ _ _
  | recvReset hm => exact h.moved rfl rfl rfl rfl (hnone hm rfl)
  | recvResetNone hm => exact h.moved rfl rfl rfl rfl (hnone hm rfl)
  | @recvClosed n e events name pty conn state hm =>
      have hmid : Asking { d with state := state, events := events } := h.same rfl rfl rfl rfl
      exact hmid.shutdown (by rw [hm]; rfl) conn
  | recvClosedNone => exact h.same rfl rfl rfl rfl
  | listGone hm => exact h.listNext (hnone hm rfl) _ _ _
  | listAsk hm hg hreq =>
      obtain ⟨sp, q, hk, hpush, rfl⟩ := request_some hreq
      exact h.request (by rw [hm]; rfl) rfl hk hpush rfl rfl rfl rfl
  | @listTold tx conn rest list client connected hm hr =>
      have ha : d.main.awaits = some (conn.task, .status tx) := by rw [hm]; rfl
      exact h.listNext (fun k _ _ _ => owed_of_answered ha hr) _ _ _
  | listDropped hm hr hg => exact h.listNext (owed_of_gone (by rw [hm]; rfl) hg) _ _ _
  | ctlGone hm => exact h.onCtlResult (hnone hm rfl) _ _ _
  | @ctlAsk name ctl conn client d₁ hm hg hreq =>
      obtain ⟨sp, q, hk, hpush, rfl⟩ := request_some hreq
      cases ctl
      exact h.request (by rw [hm]; rfl) rfl hk hpush rfl rfl rfl rfl
  | @ctlTold name tx conn client r hm hr =>
      have ha : d.main.awaits = some (conn.task, .hardwareControl .reset tx) := by rw [hm]; rfl
      exact h.onCtlResult (fun k _ _ _ => owed_of_answered ha hr) _ _ _
  | ctlDropped hm hr hg => exact h.onCtlResult (owed_of_gone (by rw [hm]; rfl) hg) _ _ _
  | clientRead => exact h.same rfl rfl rfl rfl
  | clientSend => exact h.same rfl rfl rfl rfl
  | clientWritten => exact h.same rfl rfl rfl rfl
  | task hk hch hs =>
      exact h.task (hsound _ (List.mem_of_getElem? hk)) hk hch hs rfl rfl rfl rfl

/-- The main loop asks along every run. -/
theorem asking_of_run {ok : Daemon → DaemonInput → Prop} (h : machine.Run ok log d) :
    Asking d := by
  refine h.invariant (P := fun _ d => Asking d) ?_ ?_
  · refine Asking.of_none ?_ rfl ?_
    · intro r hr
      cases hr
    · intro k sp hk
      cases hk
  · intro log d i d' out hr hask _ hs
    exact hask.step (sound_tasks hr) (step_cases hs)

/-- With no other request in its channel there is room for one. -/
theorem exists_request (h : Asking d) (ha : d.main.awaits = none) {k : TaskId}
    (hg : d.gone k = false) (req : ConnectionTaskRequest) : ∃ d', d.request k req = some d' := by
  rw [gone] at hg
  cases hk : d.tasks[k]? with
  | none =>
      rw [hk] at hg
      cases hg
  | some sp =>
      rw [hk, Option.all_some] at hg
      have hnil := h.unanswered_eq_nil ha hk hg
      rw [Spawned.unanswered, List.append_eq_nil_iff] at hnil
      have hroom : sp.requests.items.length < 8 := by
        rw [hnil.2]
        decide
      obtain ⟨q, hpush, -⟩ := BoundedQueue.exists_push hroom req
      exact ⟨_, by rw [request, hk]; simp only [hpush]; rfl⟩

/-- `State::list` never waits for room in a request channel. -/
theorem Asking.goOn_listSend (h : Asking d) {conn : Connection} {rest : List Connection}
    {list : List ConnectionInfo} {client : ClientId}
    (hm : d.main = .listSend (conn :: rest) list client) : d.goOn.isSome = true := by
  cases hg : d.gone conn.task with
  | true => simp [goOn, hm, hg]
  | false =>
      obtain ⟨d', hreq⟩ := exists_request h (by rw [hm]; rfl) hg (.status d.nextTx)
      simp [goOn, hm, hg, hreq]

/-- Neither does a reset. -/
theorem Asking.goOn_ctlSend (h : Asking d) {name : String} {ctl : DeviceControlRequest}
    {conn : Connection} {client : ClientId} (hm : d.main = .ctlSend name ctl conn client) :
    d.goOn.isSome = true := by
  cases hg : d.gone conn.task with
  | true => simp [goOn, hm, hg]
  | false =>
      obtain ⟨d', hreq⟩ := exists_request h (by rw [hm]; rfl) hg (.hardwareControl ctl d.nextTx)
      simp [goOn, hm, hg, hreq]

/-- **One request at a time.** In every reachable state of the daemon, what the live connection
tasks together have still to answer, in their channels or in their hands, is at most the one request
whose answer the main loop waits for. So the main loop never waits for room in a request channel,
and a task that takes a control request never has another one in progress: it is never "busy". -/
theorem one_request_at_a_time (h : machine.Reaches log d) :
    (∀ (k : TaskId) (sp : Spawned), d.tasks[k]? = some sp → sp.gone = false →
        sp.unanswered = d.owed k) ∧
      (∀ conn rest list client, d.main = .listSend (conn :: rest) list client →
        d.goOn.isSome = true) ∧
      (∀ name ctl conn client, d.main = .ctlSend name ctl conn client → d.goOn.isSome = true) ∧
      ∀ (k : TaskId) (sp : Spawned) ctl tx rest, d.tasks[k]? = some sp → sp.gone = false →
        sp.requests.items = .hardwareControl ctl tx :: rest → sp.task.pendingHwCtl = none := by
  have hask := asking_of_run h
  refine ⟨hask.owed, ?_, ?_, ?_⟩
  · exact fun _ _ _ _ hm => hask.goOn_listSend hm
  · exact fun _ _ _ _ hm => hask.goOn_ctlSend hm
  · intro k sp ctl tx rest hk hg hitems
    by_contra hslot
    obtain ⟨tx', htx'⟩ := Option.ne_none_iff_exists'.mp hslot
    -- who is in the slot waits too, or the task is at the one await where the slot is empty
    have hsound := sound_tasks h sp (List.mem_of_getElem? hk)
    have hwait : sp.task.waitingFor = some tx' := by
      rw [ConnectionTask.waitingFor_eq, htx']
      intro ctl' tx'' hpc
      have hnone := hsound.slot_eq_none_of_pc (by rw [hpc]; exact id)
      rw [hnone] at htx'
      cases htx'
    have hun : sp.unanswered
        = .hardwareControl .reset tx' :: .hardwareControl ctl tx :: rest := by
      rw [Spawned.unanswered, hwait, hitems]
      rfl
    cases (owed_eq_cons ((hask.owed k sp hk hg).symm.trans hun)).1

/-- A reset is about to be passed to a task that reconnects. -/
theorem one_request_at_a_time_reset : ∃ log d conn, machine.Reaches log d ∧
    d.main = .ctlSend "a" .reset conn 0 ∧ d.goOn.isSome = true ∧
      ∃ sp, d.tasks[conn.task]? = some sp ∧ sp.unanswered = d.owed conn.task := by
  obtain ⟨log, d, conn, sp, hrun, hm, hk, hg⟩ : ∃ log d conn sp, machine.Reaches log d ∧
      d.main = .ctlSend "a" .reset conn 0 ∧ d.tasks[conn.task]? = some sp ∧ sp.gone = false :=
    ⟨_, _, _, _, Machine.Reaches.init.exec [.accept true, .clientRead 0 (.request (.add "a" 0 0)),
      .clientSend 0, .recv (.ok "/dev/pts/0" ⟨0, 0, .B9600⟩), .clientWritten 0 true,
      .task 0 .resume, .clientRead 0 (.request (.reset "a")), .clientSend 0,
      .recv .openFailed] rfl, rfl, rfl, rfl⟩
  obtain ⟨howed, -, hctl, -⟩ := one_request_at_a_time hrun
  exact ⟨log, d, conn, hrun, hm, hctl _ _ _ _ hm, sp, hk, howed _ _ hk hg⟩

end Daemon

end TcpUart
