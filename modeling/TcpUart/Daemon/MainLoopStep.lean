import TcpUart.Daemon.MainLoop

/-! # What one step of the daemon can do
`Daemon.Step` lists every transition of the daemon with the guard it is taken under; `step_cases`
is the inversion of the executable step function. -/

namespace TcpUart

open Reactive

namespace Daemon

/-- The daemon after the main loop took an event from the channel. -/
def took (d : Daemon) (events : NumberedQueue Event 128) : Daemon := { d with events := events }

/-- The transitions of the daemon. -/
inductive Step (d : Daemon) : DaemonInput → Daemon → List DaemonObs → Prop
  /-- A client connects. -/
  | accept (hm : d.main = .select) :
      Step d (.accept true) { d with clients := d.clients ++ [.reading] } []
  /-- `accept` fails. -/
  | acceptFailed (hm : d.main = .select) : Step d (.accept false) d []
  /-- The daemon is stopped. -/
  | ctrlC (hm : d.main = .select) : Step d .ctrlC { d with main := .stopped } []
  /-- A connection is added. -/
  | recvAdd {n : Nat} {e : Event} {events : NumberedQueue Event 128} {name : String}
      {addr : UInt32} {port : UInt16} {client : ClientId} {slaveName : String} {tio : Termios}
      (hm : d.main = .select) (hpop : d.events.pop = some ((n, e), events))
      (he : e.event = .cliCommand (.add name addr port) client)
      (hex : d.state.exists_ name = false) :
      Step d (.recv (.ok slaveName tio))
        ((d.took events).buildAndSpawn n name addr port (AsyncPty.new tio) slaveName
          |>.respond client (.addOk slaveName)).1
        [.processed n e, .responded client (.addOk slaveName)]
  /-- A connection is not added: there is one of that name, or a PTY cannot be created. -/
  | recvAddRefused {n : Nat} {e : Event} {events : NumberedQueue Event 128} {name : String}
      {addr : UInt32} {port : UInt16} {client : ClientId} {pty : PtySetup} (text : String)
      (hm : d.main = .select) (hpop : d.events.pop = some ((n, e), events))
      (he : e.event = .cliCommand (.add name addr port) client)
      (hwhy : d.state.exists_ name = true ∨ ∀ slaveName tio, pty ≠ .ok slaveName tio) :
      Step d (.recv pty) ((d.took events).respond client (.error text)).1
        [.processed n e, .responded client (.error text)]
  /-- A connection is removed on request. -/
  | recvRemove {n : Nat} {e : Event} {events : NumberedQueue Event 128} {name : String}
      {client : ClientId} {pty : PtySetup} {conn : Connection} {state : State}
      (hm : d.main = .select) (hpop : d.events.pop = some ((n, e), events))
      (he : e.event = .cliCommand (.remove name) client)
      (hrem : d.state.remove name = some (conn, state)) :
      Step d (.recv pty) ((shutdown { d.took events with state := state } conn).respond client
        .removeOk).1 [.processed n e, .responded client .removeOk]
  /-- There is no connection to remove. -/
  | recvRemoveNone {n : Nat} {e : Event} {events : NumberedQueue Event 128} {name : String}
      {client : ClientId} {pty : PtySetup} (hm : d.main = .select)
      (hpop : d.events.pop = some ((n, e), events))
      (he : e.event = .cliCommand (.remove name) client) (hrem : d.state.remove name = none) :
      Step d (.recv pty) ((d.took events).respond client (notFound name)).1
        [.processed n e, .responded client (notFound name)]
  /-- A list is asked for. -/
  | recvList {n : Nat} {e : Event} {events : NumberedQueue Event 128} {client : ClientId}
      {pty : PtySetup} (hm : d.main = .select) (hpop : d.events.pop = some ((n, e), events))
      (he : e.event = .cliCommand .list client) :
      Step d (.recv pty) ((d.took events).listNext d.state.conns [] client).1
        (.processed n e :: ((d.took events).listNext d.state.conns [] client).2)
  /-- A reset is asked for. -/
  | recvReset {n : Nat} {e : Event} {events : NumberedQueue Event 128} {name : String}
      {client : ClientId} {pty : PtySetup} {conn : Connection} (hm : d.main = .select)
      (hpop : d.events.pop = some ((n, e), events))
      (he : e.event = .cliCommand (.reset name) client) (hfind : d.state.find name = some conn) :
      Step d (.recv pty) { d.took events with main := .ctlSend name .reset conn client }
        [.processed n e]
  /-- A reset is asked for, and there is no connection of that name. -/
  | recvResetNone {n : Nat} {e : Event} {events : NumberedQueue Event 128} {name : String}
      {client : ClientId} {pty : PtySetup} (hm : d.main = .select)
      (hpop : d.events.pop = some ((n, e), events))
      (he : e.event = .cliCommand (.reset name) client) (hfind : d.state.find name = none) :
      Step d (.recv pty) ((d.took events).respond client (notFound name)).1
        [.processed n e, .responded client (notFound name)]
  /-- A connection is removed because a task of that name has ended. -/
  | recvClosed {n : Nat} {e : Event} {events : NumberedQueue Event 128} {name : String}
      {pty : PtySetup} {conn : Connection} {state : State} (hm : d.main = .select)
      (hpop : d.events.pop = some ((n, e), events)) (he : e.event = .connectionClosed name)
      (hrem : d.state.remove name = some (conn, state)) :
      Step d (.recv pty) (shutdown { d.took events with state := state } conn) [.processed n e]
  /-- A task has ended, and there is no connection of that name. -/
  | recvClosedNone {n : Nat} {e : Event} {events : NumberedQueue Event 128} {name : String}
      {pty : PtySetup} (hm : d.main = .select) (hpop : d.events.pop = some ((n, e), events))
      (he : e.event = .connectionClosed name) (hrem : d.state.remove name = none) :
      Step d (.recv pty) (d.took events) [.processed n e]
  /-- `State::list` finds that a task is gone. -/
  | listGone {conn : Connection} {rest : List Connection} {list : List ConnectionInfo}
      {client : ClientId} (hm : d.main = .listSend (conn :: rest) list client)
      (hg : d.gone conn.task = true) :
      Step d .goOn (d.listAdd conn false rest list client).1
        (d.listAdd conn false rest list client).2
  /-- `State::list` asks a task for its status. -/
  | listAsk {conn : Connection} {rest : List Connection} {list : List ConnectionInfo}
      {client : ClientId} {d' : Daemon} (hm : d.main = .listSend (conn :: rest) list client)
      (hg : d.gone conn.task = false)
      (hreq : d.request conn.task (.status d.nextTx) = some d') :
      Step d .goOn { d' with main := .listReply d.nextTx conn rest list client } []
  /-- `State::list` is told the status of a task. -/
  | listTold {tx : ReplyId} {conn : Connection} {rest : List Connection}
      {list : List ConnectionInfo} {client : ClientId} {connected : Bool}
      (hm : d.main = .listReply tx conn rest list client)
      (hr : d.replyOn tx = some (.status connected)) :
      Step d .goOn (d.listAdd conn connected rest list client).1
        (d.listAdd conn connected rest list client).2
  /-- The task ends without telling its status. -/
  | listDropped {tx : ReplyId} {conn : Connection} {rest : List Connection}
      {list : List ConnectionInfo} {client : ClientId}
      (hm : d.main = .listReply tx conn rest list client)
      (hr : ∀ connected, d.replyOn tx ≠ some (.status connected)) (hg : d.gone conn.task = true) :
      Step d .goOn (d.listAdd conn false rest list client).1
        (d.listAdd conn false rest list client).2
  /-- A reset finds that the task is gone. -/
  | ctlGone {name : String} {ctl : DeviceControlRequest} {conn : Connection} {client : ClientId}
      (hm : d.main = .ctlSend name ctl conn client) (hg : d.gone conn.task = true) :
      Step d .goOn (d.onCtlResult name client none).1 (d.onCtlResult name client none).2
  /-- The task is asked to pass on the reset. -/
  | ctlAsk {name : String} {ctl : DeviceControlRequest} {conn : Connection} {client : ClientId}
      {d' : Daemon} (hm : d.main = .ctlSend name ctl conn client)
      (hg : d.gone conn.task = false)
      (hreq : d.request conn.task (.hardwareControl ctl d.nextTx) = some d') :
      Step d .goOn { d' with main := .ctlReply name d.nextTx conn client } []
  /-- The reset is answered. -/
  | ctlTold {name : String} {tx : ReplyId} {conn : Connection} {client : ClientId} {r : CtlReply}
      (hm : d.main = .ctlReply name tx conn client) (hr : d.replyOn tx = some (.ctl r)) :
      Step d .goOn (d.onCtlResult name client (some r)).1 (d.onCtlResult name client (some r)).2
  /-- The task ends without an answer. -/
  | ctlDropped {name : String} {tx : ReplyId} {conn : Connection} {client : ClientId}
      (hm : d.main = .ctlReply name tx conn client) (hr : ∀ r, d.replyOn tx ≠ some (.ctl r))
      (hg : d.gone conn.task = true) :
      Step d .goOn (d.onCtlResult name client none).1 (d.onCtlResult name client none).2
  /-- A client's request arrives, or the client is gone. -/
  | clientRead {c : ClientId} (r : ClientRead) (hc : d.clients[c]? = some .reading) :
      Step d (.clientRead c r) { d with clients := d.clients.set c (afterRead r) } []
  /-- A client's request is put on the event channel. -/
  | clientSend {c : ClientId} {req : DaemonRequest} {events : NumberedQueue Event 128}
      (hc : d.clients[c]? = some (.sending req))
      (hpush : d.events.push ⟨.cliCommand req c, none⟩ = some events) :
      Step d (.clientSend c) { d with events := events, clients := d.clients.set c .awaiting } []
  /-- A client's response is written, or cannot be. -/
  | clientWritten {c : ClientId} {resp : DaemonResponse} (ok : Bool)
      (hc : d.clients[c]? = some (.answering resp)) :
      Step d (.clientWritten c ok)
        { d with clients := d.clients.set c (if ok then .reading else .closed) } []
  /-- A connection task goes on. -/
  | task {k : TaskId} {i : TaskInput} {sp : Spawned}
      {requests : BoundedQueue ConnectionTaskRequest 8} {events : NumberedQueue Event 128}
      {t' : ConnectionTask} {out : List TaskObs} (hk : d.tasks[k]? = some sp)
      (hch : d.channels k sp i = some (requests, events)) (hs : sp.task.step i = some (t', out)) :
      Step d (.task k i)
        { d with
          tasks := d.tasks.set k { sp with task := t', requests := requests }
          events := events
          replies := d.replies ++ out.filterMap TaskObs.reply? } (out.map (.task k))

/-- Asking a task. -/
theorem request_some {d d' : Daemon} {k : TaskId} {req : ConnectionTaskRequest}
    (h : d.request k req = some d') :
    ∃ sp q, d.tasks[k]? = some sp ∧ sp.requests.push req = some q ∧
      d' = { d with tasks := d.tasks.set k { sp with requests := q }, nextTx := d.nextTx + 1 } := by
  unfold request at h
  split at h
  · cases h
  · rename_i sp hk
    obtain ⟨q, hq, heq⟩ := Option.map_eq_some_iff.mp h
    exact ⟨sp, q, hk, hq, heq.symm⟩

/-- How a step of connection task `k` uses its channels. -/
inductive ChannelUse (d : Daemon) (k : TaskId) (sp : Spawned) : TaskInput →
    BoundedQueue ConnectionTaskRequest 8 → NumberedQueue Event 128 → Prop
  /-- The task is told to shut down. -/
  | shutdown (hs : sp.signalled = true) : ChannelUse d k sp .shutdown sp.requests d.events
  /-- The request channel is closed and empty. -/
  | ctlClosed (hs : sp.signalled = true) (hempty : sp.requests.items = []) :
      ChannelUse d k sp .ctlClosed sp.requests d.events
  /-- The task takes a request. -/
  | ctlReq {req : ConnectionTaskRequest} {q : BoundedQueue ConnectionTaskRequest 8}
      (hpop : sp.requests.pop = some (req, q)) : ChannelUse d k sp (.ctlReq req) q d.events
  /-- The task puts its end on the event channel. -/
  | notified {events : NumberedQueue Event 128}
      (hpush : d.events.push ⟨.connectionClosed sp.task.connName, some k⟩ = some events) :
      ChannelUse d k sp .notified sp.requests events
  /-- No channel is used. -/
  | other {i : TaskInput} (hreq : ∀ req, i ≠ .ctlReq req) (hn : i ≠ .notified) :
      ChannelUse d k sp i sp.requests d.events

/-- Inversion of the use of channels. -/
theorem channels_cases {d : Daemon} {k : TaskId} {sp : Spawned} {i : TaskInput}
    {requests : BoundedQueue ConnectionTaskRequest 8} {events : NumberedQueue Event 128}
    (h : d.channels k sp i = some (requests, events)) : ChannelUse d k sp i requests events := by
  cases i with
  | shutdown =>
      simp only [channels] at h
      split at h
      · rename_i hs
        cases h
        exact .shutdown hs
      · cases h
  | ctlClosed =>
      simp only [channels] at h
      split at h
      · rename_i hs
        cases h
        exact .ctlClosed hs.1 hs.2
      · cases h
  | ctlReq req =>
      simp only [channels] at h
      split at h
      · rename_i req' q hpop
        split at h
        · rename_i heq
          cases h
          exact .ctlReq (heq ▸ hpop)
        · cases h
      · cases h
  | notified =>
      obtain ⟨ch, hpush, heq⟩ := Option.map_eq_some_iff.mp h
      cases heq
      exact .notified hpush
  | _ =>
      cases h
      exact .other nofun nofun

/-! ## Inversion of the step function -/

/-- Inversion of `Add`. -/
theorem onAdd_cases {d : Daemon} {n : Nat} {e : Event} {events : NumberedQueue Event 128}
    {name : String} {addr : UInt32} {port : UInt16} {client : ClientId} {pty : PtySetup}
    (hm : d.main = .select) (hpop : d.events.pop = some ((n, e), events))
    (he : e.event = .cliCommand (.add name addr port) client) :
    Step d (.recv pty)
      (respond ((d.took events).onAdd n name addr port pty).1 client
        ((d.took events).onAdd n name addr port pty).2).1
      (.processed n e :: (respond ((d.took events).onAdd n name addr port pty).1 client
        ((d.took events).onAdd n name addr port pty).2).2) := by
  cases hex : d.state.exists_ name with
  | true =>
      have hadd : (d.took events).onAdd n name addr port pty
          = (d.took events, .error s!"Connection with name '{name}' already exists") := if_pos hex
      rw [hadd]
      exact Step.recvAddRefused _ hm hpop he (.inl hex)
  | false =>
      have hnot : ¬ ((d.took events).state.exists_ name = true) := Bool.eq_false_iff.mp hex
      unfold onAdd
      rw [if_neg hnot]
      cases pty with
      | ok slaveName tio => exact Step.recvAdd hm hpop he hex
      | _ => exact Step.recvAddRefused _ hm hpop he (.inr nofun)

/-- Inversion of `Remove`. -/
theorem onRemove_cases {d : Daemon} {n : Nat} {e : Event} {events : NumberedQueue Event 128}
    {name : String} {client : ClientId} (pty : PtySetup)
    (hm : d.main = .select) (hpop : d.events.pop = some ((n, e), events))
    (he : e.event = .cliCommand (.remove name) client) :
    Step d (.recv pty)
      (respond ((d.took events).onRemove name).1 client ((d.took events).onRemove name).2).1
      (.processed n e ::
        (respond ((d.took events).onRemove name).1 client ((d.took events).onRemove name).2).2) := by
  have hstate : (d.took events).state = d.state := rfl
  unfold onRemove remove
  rw [hstate]
  cases hrem : d.state.remove name with
  | none => exact Step.recvRemoveNone hm hpop he hrem
  | some r =>
      obtain ⟨conn, state⟩ := r
      exact Step.recvRemove hm hpop he hrem

/-- Inversion of an event the main loop takes. -/
theorem onEvent_cases {d : Daemon} {n : Nat} {e : Event} {events : NumberedQueue Event 128}
    (pty : PtySetup) (hm : d.main = .select) (hpop : d.events.pop = some ((n, e), events)) :
    Step d (.recv pty) ((d.took events).onEvent n e pty).1
      (.processed n e :: ((d.took events).onEvent n e pty).2) := by
  have hstate : (d.took events).state = d.state := rfl
  unfold onEvent
  cases he : e.event with
  | connectionClosed name =>
      show Step d _ ((d.took events).remove name).1 _
      unfold remove
      rw [hstate]
      cases hrem : d.state.remove name with
      | none => exact Step.recvClosedNone hm hpop he hrem
      | some r =>
          obtain ⟨conn, state⟩ := r
          exact Step.recvClosed hm hpop he hrem
  | cliCommand req client =>
      cases req with
      | add name addr port => exact onAdd_cases hm hpop he
      | remove name => exact onRemove_cases pty hm hpop he
      | list => exact Step.recvList hm hpop he
      | reset name =>
          simp only [handleDaemonRequest, hstate]
          cases hfind : d.state.find name with
          | none => exact Step.recvResetNone hm hpop he hfind
          | some conn => exact Step.recvReset hm hpop he hfind

/-- Inversion of the awaits inside `handle_daemon_request`. -/
theorem goOn_cases {d d' : Daemon} {out : List DaemonObs} (h : d.goOn = some (d', out)) :
    Step d .goOn d' out := by
  unfold goOn at h
  split at h
  · rename_i conn rest list client hm
    split at h
    · rename_i hg
      have hstep := Step.listGone hm hg
      rwa [Option.some.inj h] at hstep
    · rename_i hg
      obtain ⟨d₁, hreq, heq⟩ := Option.map_eq_some_iff.mp h
      cases heq
      exact Step.listAsk hm (Bool.eq_false_iff.mpr hg) hreq
  · rename_i tx conn rest list client hm
    split at h
    · rename_i connected hr
      have hstep := Step.listTold hm hr
      rwa [Option.some.inj h] at hstep
    · rename_i hr
      split at h
      · rename_i hg
        have hstep := Step.listDropped hm hr hg
        rwa [Option.some.inj h] at hstep
      · cases h
  · rename_i name ctl conn client hm
    split at h
    · rename_i hg
      have hstep := Step.ctlGone hm hg
      rwa [Option.some.inj h] at hstep
    · rename_i hg
      obtain ⟨d₁, hreq, heq⟩ := Option.map_eq_some_iff.mp h
      cases heq
      exact Step.ctlAsk hm (Bool.eq_false_iff.mpr hg) hreq
  · rename_i name tx conn client hm
    split at h
    · rename_i r hr
      have hstep := Step.ctlTold hm hr
      rwa [Option.some.inj h] at hstep
    · rename_i hr
      split at h
      · rename_i hg
        have hstep := Step.ctlDropped hm hr hg
        rwa [Option.some.inj h] at hstep
      · cases h
  · cases h

/-- Inversion of a step of a connection task. -/
theorem stepTask_cases {d d' : Daemon} {k : TaskId} {i : TaskInput} {out : List DaemonObs}
    (h : d.stepTask k i = some (d', out)) : Step d (.task k i) d' out := by
  unfold stepTask at h
  split at h
  · cases h
  · rename_i sp hk
    split at h
    · rename_i requests events t' out' hch hs
      cases h
      exact Step.task hk hch hs
    · cases h

/-- Inversion of a step of `handle_stream`. -/
theorem stepClient_cases {d d' : Daemon} {c : ClientId} {i : DaemonInput} {out : List DaemonObs}
    (hi : (∃ r, i = .clientRead c r) ∨ i = .clientSend c ∨ ∃ ok, i = .clientWritten c ok)
    (h : d.stepClient c i = some (d', out)) : Step d i d' out := by
  rcases hi with ⟨r, rfl⟩ | rfl | ⟨ok, rfl⟩
  · simp only [stepClient] at h
    split at h
    · rename_i hc
      cases h
      exact Step.clientRead r hc
    · cases h
  · simp only [stepClient] at h
    split at h
    · rename_i req hc
      obtain ⟨events, hpush, heq⟩ := Option.map_eq_some_iff.mp h
      cases heq
      exact Step.clientSend hc hpush
    · cases h
  · simp only [stepClient] at h
    split at h
    · rename_i resp hc
      cases h
      exact Step.clientWritten ok hc
    · cases h

/-- Inversion of the `select!` of `main`. -/
theorem stepSelect_cases {d d' : Daemon} {i : DaemonInput} {out : List DaemonObs}
    (hm : d.main = .select) (h : d.stepSelect i = some (d', out)) : Step d i d' out := by
  cases i with
  | accept ok =>
      cases ok with
      | true =>
          cases h
          exact Step.accept hm
      | false =>
          cases h
          exact Step.acceptFailed hm
  | recv pty =>
      obtain ⟨⟨⟨n, e⟩, events⟩, hpop, heq⟩ := Option.map_eq_some_iff.mp h
      cases heq
      exact onEvent_cases pty hm hpop
  | ctrlC =>
      cases h
      exact Step.ctrlC hm
  | _ => cases h

/-- Inversion of a step that takes an event from the channel. -/
theorem step_recv {d d' : Daemon} {pty : PtySetup} {out : List DaemonObs}
    (h : d.step (.recv pty) = some (d', out)) :
    ∃ n e events, d.main = .select ∧ d.events.pop = some ((n, e), events) ∧
      d' = ((d.took events).onEvent n e pty).1 ∧
      out = .processed n e :: ((d.took events).onEvent n e pty).2 := by
  unfold step at h
  split at h
  · cases h
  · dsimp only at h
    split at h
    · rename_i hm
      obtain ⟨⟨⟨n, e⟩, events⟩, hpop, heq⟩ := Option.map_eq_some_iff.mp h
      cases heq
      exact ⟨n, e, events, hm, hpop, rfl, rfl⟩
    · cases h

/-- Inversion of the step function. -/
theorem step_cases {d d' : Daemon} {i : DaemonInput} {out : List DaemonObs}
    (h : d.step i = some (d', out)) : Step d i d' out := by
  unfold step at h
  split at h
  · cases h
  · cases i with
    | task k ti => exact stepTask_cases h
    | clientRead c r => exact stepClient_cases (.inl ⟨r, rfl⟩) h
    | clientSend c => exact stepClient_cases (.inr (.inl rfl)) h
    | clientWritten c ok => exact stepClient_cases (.inr (.inr ⟨ok, rfl⟩)) h
    | goOn => exact goOn_cases h
    | _ =>
        dsimp only at h
        split at h
        · rename_i hm
          exact stepSelect_cases hm h
        · cases h

end Daemon

end TcpUart
