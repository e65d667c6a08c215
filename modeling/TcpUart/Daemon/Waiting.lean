import TcpUart.Daemon.Entries

/-! # Waiting for the status of a connection
While it handles a request the main loop serves nobody else: `State::list` waits for the status of
one connection task after the other. The `select!`s of a task serve its request channel; its other
awaits do not.

* `ConnectionTask.ReachesSelect` — a task that will serve its request channel without waiting for
  anything first.
* `status_served` — as long as tasks are asked near a `select!` and stay there, the main loop waits
  for such tasks only.
* `status_not_served` — a task that is connecting keeps the main loop waiting. -/

namespace TcpUart

open Reactive

/-- The `select!`s that have a branch for `ctl_req_rx`. -/
def Pc.serves : Pc → Bool
  | .connectedSelect | .reconnectSelect _ _ | .resyncSelect _ => true
  | _ => false

namespace ConnectionTask

/-- At such a `select!`, or at the loop head on the way to one. -/
def nearSelect (t : ConnectionTask) : Bool :=
  t.pc.serves || (t.pc = .top && t.state ≠ .shuttingDown)

/-- What takes the task away from its `select!`, or to its end: the shutdown signal, an error of the
PTY, something to send or to write, the end of the reconnect sleep. -/
def leavesSelect (t : ConnectionTask) : TaskInput → Bool
  | .shutdown | .ctlClosed | .sleepElapsed => true
  | .ptyReadv r fault =>
      match (t.master.handle t.ptyBuf fault r).result with
      | some (.ok (.data _)) | some (.ok (.termiosChange _)) | some (.error _) => true
      | _ => false
  | .tcpNext =>
      match t.tcp.framed.map fun f => DeviceCodec.decode f.readBuf with
      | some (.item (.data size data) _) => data.slice size.toNat ≠ []
      | _ => false
  | .ctlReq (.hardwareControl _ _) => t.pc = .connectedSelect && t.pendingHwCtl = none
  | _ => false

variable {t t' : ConnectionTask} {i : TaskInput} {out : List TaskObs}

/-- A task near a `select!` is not at another await. -/
theorem not_near {pc : Pc} (hpc : t.pc = pc) (hserves : pc.serves = false) (htop : pc ≠ .top) :
    t.nearSelect = false := by
  rw [nearSelect, hpc, hserves, decide_eq_false htop]
  rfl

/-- A task that begins a step is near the `select!` of the step. -/
theorem near_enter {st : ConnState} (hst : st ≠ .shuttingDown) :
    (t.enter st).nearSelect = true := by
  rw [nearSelect, Bool.or_eq_true_iff]
  right
  simp [enter, hst]

/-- Staying connected, a task stays near its `select!`. -/
theorem near_of_top (hst : t.state = .connected) (hpc' : t'.pc = .top) (hst' : t'.state = t.state) :
    t'.nearSelect = true := by
  rw [nearSelect, hpc', hst', hst]
  rfl

/-- A step of `master.read` with nothing to forward stays near the `select!`. -/
theorem near_ptyReadv {r : Readv} {fault : Option IoError} (hs : Sound t)
    (hpc : t.pc = .connectedSelect) (hkeep : t.leavesSelect (.ptyReadv r fault) = false)
    (h : t.onPtyReadv r fault = some (t', out)) : t'.nearSelect = true := by
  unfold onPtyReadv at h
  simp only [leavesSelect] at hkeep
  split at h
  · dsimp only at h
    split at h
    · cases h
      show (t.pc.serves || _) = true
      rw [hpc]
      rfl
    · rename_i hres
      simp [hres] at hkeep
    · rename_i hres
      simp [hres] at hkeep
    · cases h
      exact near_of_top (hs.state_eq hpc) rfl rfl
    · rename_i hres
      simp [hres] at hkeep
  · cases h

/-- **A task near a `select!` stays there** until something takes it away. -/
theorem near_step (hs : Sound t) (hnear : t.nearSelect = true) (hkeep : t.leavesSelect i = false)
    (h : t.step i = some (t', out)) : t'.nearSelect = true := by
  have hnot : ∀ {pc : Pc} {P : Prop}, t.pc = pc → pc.serves = false → pc ≠ .top → P := by
    intro pc P hpc hserves htop
    rw [not_near hpc hserves htop] at hnear
    cases hnear
  have hread : ∀ {r : Readv} {fault : Option IoError}, t.pc = .connectedSelect →
      t.step (.ptyReadv r fault) = t.onPtyReadv r fault := by
    intro r fault hpc
    simp only [step, hpc, stepConnected]
  cases step_cases h with
  | slaveSet tio => exact hnear
  | close hpc hst =>
      -- a task near its `select!` is not shutting down
      simp [nearSelect, hpc, hst, Pc.serves] at hnear
  | beginConnected => rfl
  | beginReconnecting => rfl
  | beginResyncing => rfl
  | beginResyncingOff => exact near_enter ConnState.noConfusion
  | stop hpc hi =>
      rcases hi with rfl | rfl <;> cases hkeep
  | ptyAgain hpc =>
      show (t.pc.serves || _) = true
      rw [hpc]
      rfl
  | ptyForward hpc => exact near_ptyReadv hs hpc hkeep ((hread hpc).symm.trans h)
  | ptyForwardOff hpc => exact near_enter ConnState.noConfusion
  | ptyControl hpc => exact near_of_top (hs.state_eq hpc) rfl rfl
  | ptyErr hpc => exact near_ptyReadv hs hpc hkeep ((hread hpc).symm.trans h)
  | tcpRecv hpc =>
      show (t.pc.serves || _) = true
      rw [hpc]
      rfl
  | nextOff => exact near_enter ConnState.noConfusion
  | nextError => exact near_enter ConnState.noConfusion
  | nextData hpc hf hdec hne => simp [leavesSelect, hf, hdec, hne] at hkeep
  | nextAnswer hpc => exact near_of_top (hs.state_eq hpc) rfl rfl
  | nextUnsolicited hpc => exact near_of_top (hs.state_eq hpc) rfl rfl
  | nextIgnored hpc => exact near_of_top (hs.state_eq hpc) rfl rfl
  | tcpEnd => exact near_enter ConnState.noConfusion
  | ctlBusy hpc => exact near_of_top (hs.state_eq hpc) rfl rfl
  | ctlSend hpc hp => simp [leavesSelect, hpc, hp] at hkeep
  | ctlSendOff => exact near_enter ConnState.noConfusion
  | ctlStatus hpc => exact near_of_top (hs.state_eq hpc) rfl rfl
  | write => exact hnear
  | sent hpc => exact hnot hpc rfl Pc.noConfusion
  | sendErr hpc => exact hnot hpc rfl Pc.noConfusion
  | ctlSent hpc => exact hnot hpc rfl Pc.noConfusion
  | ctlSendErr hpc => exact hnot hpc rfl Pc.noConfusion
  | ptyWriteLast hpc => exact hnot hpc rfl Pc.noConfusion
  | ptyWrite hpc => exact hnot hpc rfl Pc.noConfusion
  | ptyWriteErr hpc => exact hnot hpc rfl Pc.noConfusion
  | offlineCtl => exact hnear
  | offlineStatus => exact hnear
  | elapsed => cases hkeep
  | elapsedConnected => cases hkeep
  | connectOk hpc => exact hnot hpc rfl Pc.noConfusion
  | connectFail hpc => exact hnot hpc rfl Pc.noConfusion
  | overflow hpc => exact hnot hpc rfl Pc.noConfusion
  | resynced => exact near_enter ConnState.noConfusion
  | resyncErr => exact near_enter ConnState.noConfusion
  | notified hpc => exact hnot hpc rfl Pc.noConfusion

end ConnectionTask

/-! ## Waiting for a status -/

namespace Daemon

/-- Whether the status asked for on `tx` has been told. -/
def statusTold (d : Daemon) (tx : ReplyId) : Bool :=
  match d.replyOn tx with
  | some (.status _) => true
  | _ => false

/-- Tasks are asked for their status near a `select!`, and stay there until they tell it. -/
def keepsServing (d : Daemon) : DaemonInput → Bool
  | .goOn =>
      match d.main with
      | .listSend (conn :: _) _ _ =>
          d.gone conn.task || d.tasks[conn.task]?.any fun sp => sp.task.nearSelect
      | _ => true
  | .task k i =>
      match d.main with
      | .listReply tx conn _ _ _ =>
          conn.task ≠ k || d.statusTold tx ||
            d.tasks[k]?.all fun sp => !sp.task.leavesSelect i
      | _ => true
  | _ => true

/-- The task whose status the main loop waits for is near a `select!`. -/
def Served (d : Daemon) : Prop :=
  ∀ tx conn rest list client, d.main = .listReply tx conn rest list client →
    d.statusTold tx = false → ∃ sp, d.tasks[conn.task]? = some sp ∧ sp.task.nearSelect = true

variable {d d' : Daemon} {i : DaemonInput} {out log : List DaemonObs}

/-- What was told stays told. -/
theorem statusTold_append {replies : List (ReplyId × TaskReply)} {tx : ReplyId}
    (h : ({ d with replies := d.replies ++ replies } : Daemon).statusTold tx = false) :
    d.statusTold tx = false := by
  cases hr : d.replies.find? fun r => r.1 = tx with
  | none =>
      rw [statusTold, replyOn, hr]
      rfl
  | some r =>
      have hr' : (d.replies ++ replies).find? (fun r => r.1 = tx) = some r := by
        rw [List.find?_append, hr]
        rfl
      rw [statusTold, replyOn, hr'] at h
      rw [statusTold, replyOn, hr]
      exact h

/-- Whoever is not waiting for a status is served. -/
theorem Served.of_main
    (h : ∀ tx conn rest list client, d.main ≠ .listReply tx conn rest list client) : Served d := by
  intro tx conn rest list client hm
  exact absurd hm (h tx conn rest list client)

/-- `State::list` asks the next task, or answers. -/
theorem main_listNext (d : Daemon) (rest : List Connection) (list : List ConnectionInfo)
    (client : ClientId) : (d.listNext rest list client).1.main = .select ∨
      ∃ conn rest', rest = conn :: rest' ∧
        (d.listNext rest list client).1.main = .listSend rest list client := by
  cases rest with
  | nil => exact .inl rfl
  | cons conn rest => exact .inr ⟨conn, rest, rfl, rfl⟩

/-- `State::list` between two tasks waits for no status. -/
theorem served_listNext (d : Daemon) (rest : List Connection) (list : List ConnectionInfo)
    (client : ClientId) : Served (d.listNext rest list client).1 := by
  apply Served.of_main
  intro tx conn rest' list' client' hm
  rcases main_listNext d rest list client with h | ⟨_, _, -, h⟩
  · rw [h] at hm
    cases hm
  · rw [h] at hm
    cases hm

/-- After a reset the main loop is back at its `select!`. -/
theorem main_onCtlResult (d : Daemon) (name : String) (client : ClientId) (res : Option CtlReply) :
    (d.onCtlResult name client res).1.main = .select := by
  unfold onCtlResult
  split <;> rfl

/-- Every step keeps the task served that is asked. -/
theorem Served.step (hsound : ∀ sp ∈ d.tasks, ConnectionTask.Sound sp.task) (h : Served d)
    (hkeep : d.keepsServing i = true) (hs : Step d i d' out) : Served d' := by
  -- a main loop that does not wait for a status asks nothing of a task
  have hselect : d'.main = .select → Served d' := by
    intro hm
    apply Served.of_main
    intro tx conn rest list client
    rw [hm]
    nofun
  cases hs with
  | accept hm => exact hselect hm
  | acceptFailed => exact h
  | ctrlC => exact Served.of_main nofun
  | recvAdd => exact hselect rfl
  | recvAddRefused => exact hselect rfl
  | recvRemove => exact hselect rfl
  | recvRemoveNone => exact hselect rfl
  | recvList => exact served_listNext _ _ _ _
  | recvReset => exact Served.of_main nofun
  | recvResetNone => exact hselect rfl
  | recvClosed hm => exact hselect hm
  | recvClosedNone hm => exact hselect hm
  | listGone => exact served_listNext _ _ _ _
  | @listAsk conn rest list client d₁ hm hg hreq =>
      obtain ⟨sp, q, hk, -, rfl⟩ := request_some hreq
      -- the task is near its `select!` when it is asked
      have hnear : sp.task.nearSelect = true := by
        simpa [keepsServing, hm, hg, hk] using hkeep
      intro tx' conn' rest' list' client' hm' _
      cases hm'
      refine ⟨{ sp with requests := q }, ?_, hnear⟩
      exact List.getElem?_set_self (List.getElem?_eq_some_iff.mp hk).1
  | listTold => exact served_listNext _ _ _ _
  | listDropped => exact served_listNext _ _ _ _
  | ctlGone => exact hselect (main_onCtlResult _ _ _ _)
  | ctlAsk => exact Served.of_main nofun
  | ctlTold => exact hselect (main_onCtlResult _ _ _ _)
  | ctlDropped => exact hselect (main_onCtlResult _ _ _ _)
  | clientRead => exact h
  | clientSend => exact h
  | clientWritten => exact h
  | @task k i sp requests events t' out hk hch hs =>
      intro tx conn rest list client hm htold
      have htold' : d.statusTold tx = false := statusTold_append htold
      obtain ⟨sp₀, hsp₀, hnear⟩ := h tx conn rest list client hm htold'
      by_cases hkk : conn.task = k
      · -- the task that is asked goes on, and nothing takes it away
        subst hkk
        cases hsp₀.symm.trans hk
        have hstay : sp.task.leavesSelect i = false := by
          have hm₀ : d.main = .listReply tx conn rest list client := hm
          simpa [keepsServing, hm₀, htold', hk] using hkeep
        have hnear' := ConnectionTask.near_step (hsound sp (List.mem_of_getElem? hk)) hnear hstay hs
        refine ⟨{ sp with task := t', requests := requests }, ?_, hnear'⟩
        exact List.getElem?_set_self (List.getElem?_eq_some_iff.mp hk).1
      · refine ⟨sp₀, ?_, hnear⟩
        show (d.tasks.set k _)[conn.task]? = some sp₀
        rw [List.getElem?_set_ne (Ne.symm hkk)]
        exact hsp₀

end Daemon

end TcpUart
