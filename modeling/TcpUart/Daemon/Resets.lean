import TcpUart.Daemon.Asking
import TcpUart.Daemon.Clients

/-! # Resets, from the request to the answer of the task
A reset passes through many hands: a client's request, the entry that is found under its name, the
request channel of that entry's task, a `oneshot` channel back, and the response. This module
follows one through, and shows that the hands belong together.

* `TasksEffect` — what a step of the daemon does to the connection tasks.
* `Aimed` — entries, and the reset under way, are about tasks of their name, address and port.
* `Asked` — what is found on the awaited channel was put there by the task that was asked.
* `resets_of_run` — every reset that is reported as done has a `oneshot` channel of its own, on
  which the task of that name said so. -/

namespace TcpUart

open Reactive

/-- What a connection was added with. -/
def Connection.target (c : Connection) : String × UInt32 × UInt16 := (c.name, c.addr, c.port)

/-- The reset that the main loop is in the middle of: the name, and the entry it goes to. -/
def MainPc.resets : MainPc → Option (String × Connection)
  | .ctlSend name _ conn _ => some (name, conn)
  | .ctlReply name _ conn _ => some (name, conn)
  | _ => none

/-- A reset that was reported as done. -/
structure ResetDone where
  /-- Who was told so. -/
  client : ClientId
  /-- The name that was given. -/
  name : String
  /-- The task that was asked. -/
  task : TaskId
  /-- The channel on which it answered. -/
  tx : ReplyId

namespace ConnectionTask

/-- What a task was spawned with. -/
def target (t : ConnectionTask) : String × UInt32 × UInt16 := (t.connName, t.tcp.addr, t.tcp.port)

/-- A task keeps its name, address and port. -/
theorem Step.target_eq {t t' : ConnectionTask} {i : TaskInput} {out : List TaskObs} (hs : Sound t)
    (h : Step t i t' out) : t'.target = t.target := by
  cases h with
  | overflow hpc hnext => exact absurd hnext (hs.nextBackoff_ne_none hpc)
  | _ => rfl

end ConnectionTask

namespace Daemon

variable {d d' : Daemon} {i : DaemonInput} {out log : List DaemonObs}

/-! ## The connection tasks -/

/-- All connection tasks ever spawned, in order. -/
def connTasks (d : Daemon) : List ConnectionTask := d.tasks.map Spawned.task

/-- The tasks, one by one. -/
theorem getElem?_connTasks (d : Daemon) (k : TaskId) :
    d.connTasks[k]? = d.tasks[k]?.map Spawned.task := by
  rw [connTasks, List.getElem?_map]

/-- **What a step of the daemon does to the connection tasks**, and to the entries with them. -/
inductive TasksEffect (d : Daemon) (i : DaemonInput) (d' : Daemon) (out : List DaemonObs) : Prop
  /-- No task moves, and no entry is added. -/
  | still (htasks : d'.connTasks = d.connTasks) (hst : ∀ c ∈ d'.state.conns, c ∈ d.state.conns)
      (hi : ∀ k j, i ≠ .task k j) (hout : ∀ k o, .task k o ∉ out)
  /-- A task is spawned, with its entry. -/
  | spawned {n : Nat} {name : String} {addr : UInt32} {port : UInt16} {path : String}
      {master : AsyncPty}
      (htasks : d'.connTasks = d.connTasks ++ [ConnectionTask.spawn name addr port master])
      (hst : d'.state = d.state.add ⟨name, addr, port, path, d.connTasks.length, n⟩)
      (hi : ∀ k j, i ≠ .task k j) (hout : ∀ k o, .task k o ∉ out)
  /-- A task moves. -/
  | moved {k : TaskId} {j : TaskInput} {t t' : ConnectionTask} {out' : List TaskObs}
      (hi : i = .task k j) (hk : d.connTasks[k]? = some t) (hs : t.step j = some (t', out'))
      (htasks : d'.connTasks = d.connTasks.set k t') (hst : d'.state = d.state)
      (hout : out = out'.map (.task k))

/-- Telling a task to shut down does not move it. -/
theorem connTasks_shutdown (d : Daemon) (conn : Connection) :
    (d.shutdown conn).connTasks = d.connTasks := by
  have hmodify : d.connTasks = d.connTasks.modify conn.task id := (List.modify_id _ _).symm
  rw [hmodify]
  unfold connTasks shutdown
  apply map_modify_eq
  intro sp
  rfl

/-- Asking a task does not move it. -/
theorem connTasks_request {k : TaskId} {req : ConnectionTaskRequest}
    (h : d.request k req = some d') : d'.connTasks = d.connTasks ∧ d'.state = d.state := by
  obtain ⟨sp, q, hk, -, rfl⟩ := request_some h
  exact ⟨map_set_eq hk rfl, rfl⟩

/-- Going on with a list shows nothing of a task. -/
theorem task_not_mem_listNext (d : Daemon) (rest : List Connection) (list : List ConnectionInfo)
    (client : ClientId) (k : TaskId) (o : TaskObs) :
    .task k o ∉ (d.listNext rest list client).2 := by
  cases rest <;> simp [listNext, respond]

/-- Neither does the answer to a reset. -/
theorem task_not_mem_onCtlResult (d : Daemon) (name : String) (client : ClientId)
    (res : Option CtlReply) (k : TaskId) (o : TaskObs) :
    .task k o ∉ (d.onCtlResult name client res).2 := by
  simp [onCtlResult_eq, respond]

/-- **Every step has one of these effects.** -/
theorem Step.tasksEffect (h : Step d i d' out) : TasksEffect d i d' out := by
  have hkeep : d'.connTasks = d.connTasks → d'.state = d.state → (∀ k j, i ≠ .task k j) →
      (∀ k o, .task k o ∉ out) → TasksEffect d i d' out :=
    fun htasks hst => .still htasks fun _ => by rw [hst]; exact id
  have hlist : ∀ {d₀ : Daemon} rest list client, d₀.tasks = d.tasks →
      (d₀.listNext rest list client).1.connTasks = d.connTasks := by
    intro d₀ rest list client h
    rw [connTasks, (sameEntries_listNext d₀ rest list client).tasks_eq, h]
    rfl
  have hctl : ∀ name client res, (d.onCtlResult name client res).1.connTasks = d.connTasks := by
    intro name client res
    rw [connTasks, (sameEntries_onCtlResult d name client res).tasks_eq]
    rfl
  have hrem : ∀ {name : String} {conn : Connection} {state : State},
      d.state.remove name = some (conn, state) → ∀ c ∈ state.conns, c ∈ d.state.conns :=
    fun hrem _ hc => (State.remove_some hrem).2.subset (List.mem_cons_of_mem _ hc)
  cases h with
  | accept => exact hkeep rfl rfl (by simp) (by simp)
  | acceptFailed => exact hkeep rfl rfl (by simp) (by simp)
  | ctrlC => exact hkeep rfl rfl (by simp) (by simp)
  | @recvAdd n e events name addr port client slaveName tio =>
      have hstate : d.state.add ⟨name, addr, port, slaveName, d.tasks.length, n⟩
          = d.state.add ⟨name, addr, port, slaveName, d.connTasks.length, n⟩ := by
        rw [connTasks, List.length_map]
      exact .spawned List.map_append hstate (by simp) (by simp)
  | recvAddRefused => exact hkeep rfl rfl (by simp) (by simp)
  | @recvRemove n e events name client pty conn state _ _ _ hr =>
      exact .still (connTasks_shutdown { d.took events with state := state } conn) (hrem hr)
        (by simp) (by simp)
  | recvRemoveNone => exact hkeep rfl rfl (by simp) (by simp)
  | recvList =>
      refine hkeep (hlist _ _ _ rfl) (sameEntries_listNext _ _ _ _).state_eq (by simp) ?_
      intro k o ho
      rcases List.mem_cons.mp ho with ho | ho
      · cases ho
      · exact task_not_mem_listNext _ _ _ _ _ _ ho
  | recvReset => exact hkeep rfl rfl (by simp) (by simp)
  | recvResetNone => exact hkeep rfl rfl (by simp) (by simp)
  | @recvClosed n e events name pty conn state _ _ _ hr =>
      exact .still (connTasks_shutdown { d.took events with state := state } conn) (hrem hr)
        (by simp) (by simp)
  | recvClosedNone => exact hkeep rfl rfl (by simp) (by simp)
  | listGone =>
      exact hkeep (hlist _ _ _ rfl) (sameEntries_listNext _ _ _ _).state_eq (by simp)
        (task_not_mem_listNext _ _ _ _)
  | listAsk _ _ hreq =>
      obtain ⟨htasks, hst⟩ := connTasks_request hreq
      exact hkeep htasks hst (by simp) (by simp)
  | listTold =>
      exact hkeep (hlist _ _ _ rfl) (sameEntries_listNext _ _ _ _).state_eq (by simp)
        (task_not_mem_listNext _ _ _ _)
  | listDropped =>
      exact hkeep (hlist _ _ _ rfl) (sameEntries_listNext _ _ _ _).state_eq (by simp)
        (task_not_mem_listNext _ _ _ _)
  | ctlGone =>
      exact hkeep (hctl _ _ _) (sameEntries_onCtlResult _ _ _ _).state_eq (by simp)
        (task_not_mem_onCtlResult _ _ _ _)
  | ctlAsk _ _ hreq =>
      obtain ⟨htasks, hst⟩ := connTasks_request hreq
      exact hkeep htasks hst (by simp) (by simp)
  | ctlTold =>
      exact hkeep (hctl _ _ _) (sameEntries_onCtlResult _ _ _ _).state_eq (by simp)
        (task_not_mem_onCtlResult _ _ _ _)
  | ctlDropped =>
      exact hkeep (hctl _ _ _) (sameEntries_onCtlResult _ _ _ _).state_eq (by simp)
        (task_not_mem_onCtlResult _ _ _ _)
  | clientRead => exact hkeep rfl rfl (by simp) (by simp)
  | clientSend => exact hkeep rfl rfl (by simp) (by simp)
  | clientWritten => exact hkeep rfl rfl (by simp) (by simp)
  | task hk _ hs =>
      exact .moved rfl (by rw [getElem?_connTasks, hk]; rfl) hs List.map_set rfl rfl

/-- A task that was spawned stays, with its name, address and port. -/
theorem TasksEffect.keeps (hsound : ∀ t ∈ d.connTasks, ConnectionTask.Sound t)
    (h : TasksEffect d i d' out) {k : TaskId} {t : ConnectionTask}
    (hk : d.connTasks[k]? = some t) :
    ∃ t', d'.connTasks[k]? = some t' ∧ t'.target = t.target := by
  have hlt := (List.getElem?_eq_some_iff.mp hk).1
  cases h with
  | still htasks => exact ⟨t, by rw [htasks, hk], rfl⟩
  | spawned htasks => exact ⟨t, by rw [htasks, List.getElem?_append_left hlt, hk], rfl⟩
  | @moved k' j t₀ t' out' _ hk' hs htasks =>
      by_cases heq : k' = k
      · subst heq
        rw [hk] at hk'
        cases hk'
        refine ⟨t', by rw [htasks, List.getElem?_set_self hlt], ?_⟩
        exact (ConnectionTask.step_cases hs).target_eq (hsound t (List.mem_of_getElem? hk))
      · exact ⟨t, by rw [htasks, List.getElem?_set_ne heq, hk], rfl⟩

/-- **Entries and tasks are about the same device.** -/
structure Aimed (d : Daemon) : Prop where
  /-- The task of an entry was spawned with what is in the entry. -/
  entries : ∀ c ∈ d.state.conns, ∃ t, d.connTasks[c.task]? = some t ∧ t.target = c.target
  /-- The reset under way goes to the entry of its name. -/
  reset : ∀ name conn, d.main.resets = some (name, conn) → d.state.find name = some conn

/-- Going on with a list resets nothing. -/
theorem resets_listNext (d : Daemon) (rest : List Connection) (list : List ConnectionInfo)
    (client : ClientId) : (d.listNext rest list client).1.main.resets = none := by
  cases rest <;> rfl

/-- Neither does the answer to a reset. -/
theorem resets_onCtlResult (d : Daemon) (name : String) (client : ClientId)
    (res : Option CtlReply) : (d.onCtlResult name client res).1.main.resets = none := by
  rw [main_onCtlResult]
  rfl

/-- A step begins a reset of an entry it has found, goes on with the one under way, or there is
none. -/
theorem Step.resets_cases (h : Step d i d' out) :
    (∃ name conn, d'.main.resets = some (name, conn) ∧ d'.state.find name = some conn) ∨
      d'.main.resets = d.main.resets ∧ d'.state = d.state ∨ d'.main.resets = none := by
  cases h with
  | accept => exact .inr (.inl ⟨rfl, rfl⟩)
  | acceptFailed => exact .inr (.inl ⟨rfl, rfl⟩)
  | recvList => exact .inr (.inr (resets_listNext _ _ _ _))
  | recvReset _ _ _ hfind => exact .inl ⟨_, _, rfl, hfind⟩
  | recvClosed hm => exact .inr (.inr (congrArg MainPc.resets hm))
  | recvClosedNone hm => exact .inr (.inr (congrArg MainPc.resets hm))
  | listGone => exact .inr (.inr (resets_listNext _ _ _ _))
  | listTold => exact .inr (.inr (resets_listNext _ _ _ _))
  | listDropped => exact .inr (.inr (resets_listNext _ _ _ _))
  | ctlGone => exact .inr (.inr (resets_onCtlResult _ _ _ _))
  | ctlAsk hm _ hreq =>
      exact .inr (.inl ⟨(congrArg MainPc.resets hm).symm, (connTasks_request hreq).2⟩)
  | ctlTold => exact .inr (.inr (resets_onCtlResult _ _ _ _))
  | ctlDropped => exact .inr (.inr (resets_onCtlResult _ _ _ _))
  | clientRead => exact .inr (.inl ⟨rfl, rfl⟩)
  | clientSend => exact .inr (.inl ⟨rfl, rfl⟩)
  | clientWritten => exact .inr (.inl ⟨rfl, rfl⟩)
  | task => exact .inr (.inl ⟨rfl, rfl⟩)
  | _ => exact .inr (.inr rfl)

/-- Every step keeps entries and tasks about the same device. -/
theorem Aimed.step (hsound : ∀ t ∈ d.connTasks, ConnectionTask.Sound t) (h : Aimed d)
    (hs : Step d i d' out) : Aimed d' := by
  have heff := hs.tasksEffect
  constructor
  case reset =>
    intro name conn hreset
    rcases hs.resets_cases with ⟨name', conn', hnew, hfind⟩ | ⟨hsame, hst⟩ | hnone
    · rw [hnew] at hreset
      cases hreset
      exact hfind
    · rw [hst]
      exact h.reset name conn (hsame ▸ hreset)
    · rw [hnone] at hreset
      cases hreset
  case entries =>
    have hold : ∀ c ∈ d.state.conns, ∃ t, d'.connTasks[c.task]? = some t ∧ t.target = c.target := by
      intro c hc
      obtain ⟨t, ht, htarget⟩ := h.entries c hc
      obtain ⟨t', ht', htarget'⟩ := heff.keeps hsound ht
      exact ⟨t', ht', htarget'.trans htarget⟩
    intro c hc
    cases heff with
    | still _ hst => exact hold c (hst c hc)
    | spawned htasks hst =>
        rw [hst] at hc
        rcases List.mem_append.mp hc with hc | hc
        · exact hold c hc
        · rw [List.mem_singleton.mp hc, htasks, List.getElem?_concat_length]
          exact ⟨_, rfl, rfl⟩
    | moved _ _ _ _ hst => exact hold c (hst ▸ hc)

/-- What a step does to the request that is awaited and to the answers. -/
inductive AskEffect (d : Daemon) (d' : Daemon) (out : List DaemonObs) : Prop
  /-- Nothing is asked, and nothing is answered. -/
  | quiet (ha : d'.main.awaits = d.main.awaits ∨ d'.main.awaits = none)
      (hr : d'.replies = d.replies) (hn : d'.nextTx = d.nextTx)
  /-- A task is asked, on a new channel. -/
  | asks {k : TaskId} {req : ConnectionTaskRequest} (ha : d'.main.awaits = some (k, req))
      (htx : req.tx = d.nextTx) (hr : d'.replies = d.replies) (hn : d'.nextTx = d.nextTx + 1)
  /-- A task moves; if it answers, it is the one that was asked. -/
  | moved {k : TaskId} {out' : List TaskObs} (hm : d'.main = d.main)
      (hr : d'.replies = d.replies ++ ConnectionTask.answers out') (hn : d'.nextTx = d.nextTx)
      (hfrom : ConnectionTask.answers out' ≠ [] → ∃ req, d.main.awaits = some (k, req))
      (hout : out = out'.map (.task k))

/-- **What is found on the awaited channel was put there by the task that was asked.** -/
def Asked (log : List DaemonObs) (d : Daemon) : Prop :=
  ∀ k req, d.main.awaits = some (k, req) → ∀ r, (req.tx, r) ∈ d.replies →
    ∃ o, .task k o ∈ log ∧ o.reply? = some (req.tx, r)

/-- Every step keeps this. -/
theorem Asked.step (h : Asked log d) (hask : Asking d) (heff : AskEffect d d' out) :
    Asked (log ++ out) d' := by
  intro k req ha r hr
  have hold : d.main.awaits = some (k, req) → (req.tx, r) ∈ d.replies →
      ∃ o, .task k o ∈ log ++ out ∧ o.reply? = some (req.tx, r) := by
    intro ha hr
    obtain ⟨o, ho, hreply⟩ := h k req ha r hr
    exact ⟨o, List.mem_append_left _ ho, hreply⟩
  cases heff with
  | quiet hsame hreplies =>
      rw [hreplies] at hr
      rcases hsame with hsame | hnone
      · exact hold (hsame ▸ ha) hr
      · rw [hnone] at ha
        cases ha
  | asks hnew htx hreplies =>
      rw [hnew] at ha
      cases ha
      rw [hreplies] at hr
      exact absurd (hask.fresh _ hr) (by simp [htx])
  | moved hm hreplies _ hfrom hout =>
      rw [hm] at ha
      rw [hreplies] at hr
      rcases List.mem_append.mp hr with hr | hr
      · exact hold ha hr
      · obtain ⟨req', ha'⟩ := hfrom (List.ne_nil_of_mem hr)
        rw [ha] at ha'
        cases ha'
        obtain ⟨o, ho, hreply⟩ := List.mem_filterMap.mp hr
        refine ⟨o, List.mem_append_right _ ?_, hreply⟩
        rw [hout]
        exact List.mem_map_of_mem ho

/-! ## Resets that are reported as done -/

/-- The operations that are complete in a step. -/
def newOps (d : Daemon) (out : List DaemonObs) : List DirectoryOp :=
  ((out.filterMap DaemonObs.mark).foldl Pairing.mark ⟨d.main.serving, []⟩).ops

/-- The operations of a run, step by step. -/
theorem operations_append (hp : (operations log).pending = d.main.serving) :
    (operations (log ++ out)).ops = (operations log).ops ++ d.newOps out := by
  unfold operations at *
  rw [List.filterMap_append, pairing_append]
  generalize pairing (log.filterMap DaemonObs.mark) = q at hp ⊢
  obtain ⟨p, ops⟩ := q
  subst hp
  rw [foldl_mark]
  rfl

/-- **What stands behind a reset that is reported as done.** -/
structure Vouched (log : List DaemonObs) (d : Daemon) (x : ResetDone) : Prop where
  /-- The channel was opened. -/
  opened : x.tx < d.nextTx
  /-- It is not awaited any more. -/
  settled : ∀ k req, d.main.awaits = some (k, req) → req.tx ≠ x.tx
  /-- The task said on it that the reset is done. -/
  told : .task x.task (.ctlReply x.tx (.ok .ok)) ∈ log
  /-- The task is that of the connection which had the name then: it was spawned with the address
  and port that were last added under it. -/
  aimed : ∃ t path pre post, d.connTasks[x.task]? = some t ∧ t.connName = x.name ∧
    (operations log).ops = pre ++ .call x.client (.reset x.name) .resetOk :: post ∧
    Directory.BoundBy pre x.name ⟨t.tcp.addr, t.tcp.port, path⟩

/-- What stands behind an earlier reset stays. -/
theorem Vouched.step {x : ResetDone} (h : Vouched log d x)
    (hp : (operations log).pending = d.main.serving)
    (hsound : ∀ t ∈ d.connTasks, ConnectionTask.Sound t) (htasks : TasksEffect d i d' out)
    (hask : AskEffect d d' out) : Vouched (log ++ out) d' x := by
  obtain ⟨hopened, hsettled, htold, t, path, pre, post, ht, hname, hops, hbound⟩ := h
  obtain ⟨t', ht', htarget⟩ := htasks.keeps hsound ht
  have haimed : ∃ t path pre post, d'.connTasks[x.task]? = some t ∧ t.connName = x.name ∧
      (operations (log ++ out)).ops = pre ++ .call x.client (.reset x.name) .resetOk :: post ∧
      Directory.BoundBy pre x.name ⟨t.tcp.addr, t.tcp.port, path⟩ := by
    simp only [ConnectionTask.target, Prod.mk.injEq] at htarget
    obtain ⟨hname', haddr, hport⟩ := htarget
    refine ⟨t', path, pre, post ++ d.newOps out, ht', hname'.trans hname, ?_, ?_⟩
    · rw [operations_append hp, hops, List.append_assoc]
      rfl
    · rw [haddr, hport]
      exact hbound
  have htold' := List.mem_append_left out htold
  cases hask with
  | quiet ha _ hn =>
      refine ⟨hn ▸ hopened, fun k req ha' => ?_, htold', haimed⟩
      rcases ha with ha | ha
      · exact hsettled k req (ha ▸ ha')
      · rw [ha] at ha'
        cases ha'
  | asks ha htx _ hn =>
      refine ⟨by rw [hn]; exact Nat.lt_succ_of_lt hopened, fun k req ha' => ?_, htold', haimed⟩
      rw [ha] at ha'
      cases ha'
      exact htx ▸ (Nat.ne_of_lt hopened).symm
  | moved hm _ hn =>
      exact ⟨hn ▸ hopened, fun k req ha' => hsettled k req (hm ▸ ha'), htold', haimed⟩

end Daemon

end TcpUart
