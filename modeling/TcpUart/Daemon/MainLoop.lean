import TcpUart.Lib.Queue
import TcpUart.Daemon.State
import TcpUart.Daemon.ConnectionTask

/-! # The daemon (`daemon/src/main.rs`)
The main loop, one `handle_stream` task for each CLI client and one connection task for each
connection run side by side. Clients and connection tasks put events on one bounded channel, the
main loop takes them one at a time; it alone reads and changes `State`. To list connections or to
reset a device it asks the connection tasks over their request channels and waits.

The model keeps every await: `ClientPc` and `MainPc` say where a client and the main loop are
suspended, connection tasks are the `ConnectionTask` of `connection.rs`. A step is one party going
on. A sender that waits for room in a channel goes on when there is some, in any order.

* `Daemon.handleDaemonRequest` — `handle_daemon_request`, up to its first await.
* `Daemon.stepTask` — what the channels of a connection task admit.
* `Daemon.step` — one step of any party. -/

namespace TcpUart

open Reactive

/-- A CLI client, by the order in which they were accepted. -/
abbrev ClientId := Nat

/-- `DaemonEvent`. The `oneshot` sender of a command belongs to the client. -/
inductive DaemonEvent
  /-- A request of a client. -/
  | cliCommand (req : DaemonRequest) (client : ClientId)
  /-- A connection task has ended. -/
  | connectionClosed (name : String)
  deriving DecidableEq

/-- An event on the channel. -/
structure Event where
  /-- What the source puts on the channel. -/
  event : DaemonEvent
  /-- The connection task that sent it, if it was one. The source does not say who sent an event. -/
  origin : Option TaskId
  deriving DecidableEq

/-- Where `handle_stream` is suspended. -/
inductive ClientPc
  /-- `reader.next()`. -/
  | reading
  /-- `event_tx.send(..)`. -/
  | sending (req : DaemonRequest)
  /-- `rx.await`. -/
  | awaiting
  /-- `writer.send(resp)`. -/
  | answering (resp : DaemonResponse)
  /-- The task has ended. -/
  | closed
  deriving DecidableEq

/-- Where the main loop is suspended. -/
inductive MainPc
  /-- The `select!` of `main`. -/
  | select
  /-- `State::list` sends `Status` to the first connection of `rest`; `list` is the list so far. -/
  | listSend (rest : List Connection) (list : List ConnectionInfo) (client : ClientId)
  /-- `State::list` waits for the status of `conn` on `tx`. -/
  | listReply (tx : ReplyId) (conn : Connection) (rest : List Connection)
      (list : List ConnectionInfo) (client : ClientId)
  /-- `send_hardware_ctl` sends the request to the task of the connection. -/
  | ctlSend (name : String) (ctl : DeviceControlRequest) (conn : Connection) (client : ClientId)
  /-- `send_hardware_ctl` waits for the answer on `tx`. -/
  | ctlReply (name : String) (tx : ReplyId) (conn : Connection) (client : ClientId)
  /-- `main` has returned, and with it the runtime. -/
  | stopped
  deriving DecidableEq

/-- A spawned connection task with the channels that lead to it. -/
structure Spawned where
  /-- The task. -/
  task : ConnectionTask
  /-- Whether `Connection::shutdown` was called, which also drops `ctl_req_tx`. -/
  signalled : Bool
  /-- The channel from `ctl_req_tx` to `ctl_req_rx`. -/
  requests : BoundedQueue ConnectionTaskRequest 8

/-- Whether `ctl_req_rx` is gone: `conn_task` has returned or panicked. -/
def Spawned.gone (sp : Spawned) : Bool := sp.task.pc = .exited ∨ sp.task.pc = .panicked

/-- What a `oneshot` channel between a connection task and the main loop carries. -/
inductive TaskReply
  /-- The answer to a hardware-control request. -/
  | ctl (r : CtlReply)
  /-- The answer to a status request. -/
  | status (connected : Bool)

/-- The reply in an observation of a connection task. -/
def TaskObs.reply? : TaskObs → Option (ReplyId × TaskReply)
  | .ctlReply tx r => some (tx, .ctl r)
  | .statusReply tx connected => some (tx, .status connected)
  | _ => none

/-- How the five fallible calls that create a PTY for a connection end. -/
inductive PtySetup
  /-- `posix_openpt` fails. -/
  | openFailed
  /-- `grantpt` fails. -/
  | grantFailed
  /-- `unlockpt` fails. -/
  | unlockFailed
  /-- `ptsname` fails. -/
  | ptsnameFailed
  /-- `AsyncPty::new` fails. -/
  | asyncFailed
  /-- All succeed. -/
  | ok (slaveName : String) (tio : Termios)

/-- The daemon. -/
structure Daemon where
  /-- The connections. -/
  state : State
  /-- All connection tasks ever spawned, in order. -/
  tasks : List Spawned
  /-- The event channel. -/
  events : NumberedQueue Event 128
  /-- All clients ever accepted, in order. -/
  clients : List ClientPc
  /-- The main loop. -/
  main : MainPc
  /-- The next `oneshot` channel. -/
  nextTx : ReplyId
  /-- What was sent on `oneshot` channels by connection tasks. -/
  replies : List (ReplyId × TaskReply)

/-- What `reader.next()` of a client returns. -/
inductive ClientRead
  /-- A request. -/
  | request (req : DaemonRequest)
  /-- The decoder rejects what the client sent. -/
  | invalid
  /-- The client has closed the stream. -/
  | ended

/-- Which party goes on, and what its await resolves with. -/
inductive DaemonInput
  /-- `listener.accept()` resolves. -/
  | accept (ok : Bool)
  /-- `event_rx.recv()` resolves; `pty` is how a PTY would be created. -/
  | recv (pty : PtySetup)
  /-- `signal::ctrl_c()` resolves. -/
  | ctrlC
  /-- An await inside `handle_daemon_request` resolves. -/
  | goOn
  /-- `reader.next()` of a client resolves. -/
  | clientRead (client : ClientId) (r : ClientRead)
  /-- `event_tx.send` of a client resolves. -/
  | clientSend (client : ClientId)
  /-- `writer.send` of a client resolves. -/
  | clientWritten (client : ClientId) (ok : Bool)
  /-- A connection task goes on. -/
  | task (task : TaskId) (i : TaskInput)

/-- What an observer of the daemon sees. -/
inductive DaemonObs
  /-- A step of a connection task. -/
  | task (task : TaskId) (o : TaskObs)
  /-- The main loop takes an event with its number. -/
  | processed (n : Nat) (e : Event)
  /-- The main loop answers a client. -/
  | responded (client : ClientId) (resp : DaemonResponse)

namespace Daemon

/-- The daemon with the observations of a step. -/
abbrev Out := Daemon × List DaemonObs

/-- `sender.send(resp)`, which resolves the client's `rx.await`; the main loop is back at its
`select!`. -/
def respond (d : Daemon) (client : ClientId) (resp : DaemonResponse) : Out :=
  ({ d with clients := d.clients.set client (.answering resp), main := .select },
    [.responded client resp])

/-- `Connection::shutdown`. -/
def shutdown (d : Daemon) (conn : Connection) : Daemon :=
  { d with tasks := d.tasks.modify conn.task fun sp => { sp with signalled := true } }

/-- `State::remove`; the flag says whether an entry was removed. -/
def remove (d : Daemon) (name : String) : Daemon × Bool :=
  match d.state.remove name with
  | none => (d, false)
  | some (conn, state) => (shutdown { d with state := state } conn, true)

/-- `Connection::build_and_spawn` and `state.add(conn)`. -/
def buildAndSpawn (d : Daemon) (n : Nat) (name : String) (addr : UInt32) (port : UInt16)
    (master : AsyncPty) (slavePath : String) : Daemon :=
  let task : Spawned := ⟨ConnectionTask.spawn name addr port master, false, BoundedQueue.empty⟩
  let conn : Connection := ⟨name, addr, port, slavePath, d.tasks.length, n⟩
  { d with tasks := d.tasks ++ [task], state := d.state.add conn }

/-- The error text when a PTY cannot be created. -/
def ptyError (what : String) : String := s!"Failed to {what}. See daemon logs for details"

/-- `handle_daemon_request` on `Add`; `n` is the number of the event. -/
def onAdd (d : Daemon) (n : Nat) (name : String) (addr : UInt32) (port : UInt16) (pty : PtySetup) :
    Daemon × DaemonResponse :=
  if d.state.exists_ name then (d, .error s!"Connection with name '{name}' already exists")
  else
    match pty with
    | .openFailed => (d, .error (ptyError "create pty"))
    | .grantFailed => (d, .error (ptyError "grant pty"))
    | .unlockFailed => (d, .error (ptyError "unlock pty"))
    | .ptsnameFailed => (d, .error (ptyError "get pts name"))
    | .asyncFailed => (d, .error (ptyError "create AsyncPty"))
    | .ok slaveName tio =>
        (d.buildAndSpawn n name addr port (AsyncPty.new tio) slaveName, .addOk slaveName)

/-- The error text when there is no connection of that name. -/
def notFound (name : String) : DaemonResponse := .error s!"No connection found with name: {name}"

/-- `handle_daemon_request` on `Remove`. -/
def onRemove (d : Daemon) (name : String) : Daemon × DaemonResponse :=
  match d.remove name with
  | (d, true) => (d, .removeOk)
  | (d, false) => (d, notFound name)

/-- `State::list` before the next connection, or at its end. -/
def listNext (d : Daemon) (rest : List Connection) (list : List ConnectionInfo)
    (client : ClientId) : Out :=
  match rest with
  | [] => d.respond client (.list list)
  | _ :: _ => ({ d with main := .listSend rest list client }, [])

/-- `handle_daemon_request`, up to its first await; `n` is the number of the event. -/
def handleDaemonRequest (d : Daemon) (n : Nat) (req : DaemonRequest) (client : ClientId)
    (pty : PtySetup) : Out :=
  match req with
  | .add name addr port =>
      let (d, resp) := d.onAdd n name addr port pty
      d.respond client resp
  | .remove name =>
      let (d, resp) := d.onRemove name
      d.respond client resp
  | .list => d.listNext d.state.conns [] client
  | .reset name =>
      match d.state.find name with
      | none => d.respond client (notFound name)
      -- `send_hardware_ctl` goes to the first connection of that name
      | some conn => ({ d with main := .ctlSend name .reset conn client }, [])

/-- The `event_rx.recv()` branch of the `select!`. -/
def onEvent (d : Daemon) (n : Nat) (e : Event) (pty : PtySetup) : Out :=
  match e.event with
  | .cliCommand req client => d.handleDaemonRequest n req client pty
  -- by name: whichever connection has it now
  | .connectionClosed name => ((d.remove name).1, [])

/-- `State::list` with the status of one more connection. -/
def listAdd (d : Daemon) (conn : Connection) (connected : Bool) (rest : List Connection)
    (list : List ConnectionInfo) (client : ClientId) : Out :=
  d.listNext rest
    (list ++ [⟨conn.name, conn.addr, conn.port, conn.slavePath, connected⟩]) client

/-- `handle_daemon_request` on `Reset` after `send_hardware_ctl` has returned. -/
def onCtlResult (d : Daemon) (name : String) (client : ClientId) (res : Option CtlReply) : Out :=
  match res with
  | some (.ok .ok) => d.respond client .resetOk
  | some (.ok .notSupported) =>
      d.respond client (.error s!"Connection '{name}' does not support reset command")
  | some (.error _) =>
      d.respond client (.error s!"Connection '{name}' is currently unavailable (offline or busy)")
  | none => d.respond client (notFound name)

/-- Whether the receiver of the task's request channel is gone. -/
def gone (d : Daemon) (k : TaskId) : Bool := d.tasks[k]?.all Spawned.gone

/-- `ctl_req_tx.send(req)`: `none` while there is no room. -/
def request (d : Daemon) (k : TaskId) (req : ConnectionTaskRequest) : Option Daemon :=
  match d.tasks[k]? with
  | none => none
  | some sp =>
      (sp.requests.push req).map fun q =>
        { d with tasks := d.tasks.set k { sp with requests := q }, nextTx := d.nextTx + 1 }

/-- The reply that was sent on a `oneshot` channel, if any. -/
def replyOn (d : Daemon) (tx : ReplyId) : Option TaskReply :=
  (d.replies.find? fun r => r.1 = tx).map Prod.snd

/-- An await inside `handle_daemon_request`. A receiver that is gone makes `send` fail; a request
that was dropped with it makes `rx.await` fail. -/
def goOn (d : Daemon) : Option Out :=
  match d.main with
  | .listSend (conn :: rest) list client =>
      if d.gone conn.task then some (d.listAdd conn false rest list client)
      -- waits while the request channel is full
      else
        (d.request conn.task (.status d.nextTx)).map fun d' =>
          ({ d' with main := .listReply d.nextTx conn rest list client }, [])
  | .listReply tx conn rest list client =>
      match d.replyOn tx with
      | some (.status connected) => some (d.listAdd conn connected rest list client)
      | _ => if d.gone conn.task then some (d.listAdd conn false rest list client) else none
  | .ctlSend name ctl conn client =>
      if d.gone conn.task then some (d.onCtlResult name client none)
      else
        (d.request conn.task (.hardwareControl ctl d.nextTx)).map fun d' =>
          ({ d' with main := .ctlReply name d.nextTx conn client }, [])
  | .ctlReply name tx conn client =>
      match d.replyOn tx with
      | some (.ctl r) => some (d.onCtlResult name client (some r))
      | _ => if d.gone conn.task then some (d.onCtlResult name client none) else none
  | _ => none

/-- What the channels of connection task `k` look like after its await resolves with `i`, if they
admit that. -/
def channels (d : Daemon) (k : TaskId) (sp : Spawned) : TaskInput →
    Option (BoundedQueue ConnectionTaskRequest 8 × NumberedQueue Event 128)
  | .shutdown => if sp.signalled then some (sp.requests, d.events) else none
  | .ctlClosed =>
      -- the entry held the only sender; `recv` still returns what was sent before
      if sp.signalled ∧ sp.requests.items = [] then some (sp.requests, d.events) else none
  | .ctlReq req =>
      match sp.requests.pop with
      | some (req', q) => if req' = req then some (q, d.events) else none
      | none => none
  | .notified =>
      -- waits while the event channel is full
      (d.events.push ⟨.connectionClosed sp.task.connName, some k⟩).map fun ch => (sp.requests, ch)
  | _ => some (sp.requests, d.events)

/-- A step of connection task `k`. -/
def stepTask (d : Daemon) (k : TaskId) (i : TaskInput) : Option Out :=
  match d.tasks[k]? with
  | none => none
  | some sp =>
      match d.channels k sp i, sp.task.step i with
      | some (requests, events), some (task, out) =>
          some ({ d with
            tasks := d.tasks.set k { sp with task := task, requests := requests }
            events := events
            replies := d.replies ++ out.filterMap TaskObs.reply? }, out.map (.task k))
      | _, _ => none

/-- `handle_stream` after `reader.next()`. -/
def afterRead : ClientRead → ClientPc
  | .request req => .sending req
  | .invalid => .closed
  | .ended => .closed

/-- A step of `handle_stream` of a client. A response that cannot be written ends the task with a
panic. -/
def stepClient (d : Daemon) (client : ClientId) : DaemonInput → Option Out
  | .clientRead _ r =>
      match d.clients[client]? with
      | some .reading => some ({ d with clients := d.clients.set client (afterRead r) }, [])
      | _ => none
  | .clientSend _ =>
      match d.clients[client]? with
      | some (.sending req) =>
          (d.events.push ⟨.cliCommand req client, none⟩).map fun ch =>
            ({ d with events := ch, clients := d.clients.set client .awaiting }, [])
      | _ => none
  | .clientWritten _ ok =>
      match d.clients[client]? with
      | some (.answering _) =>
          some ({ d with clients := d.clients.set client (if ok then .reading else .closed) }, [])
      | _ => none
  | _ => none

/-- A step of the `select!` of `main`. -/
def stepSelect (d : Daemon) : DaemonInput → Option Out
  | .accept ok => some (if ok then { d with clients := d.clients ++ [.reading] } else d, [])
  | .recv pty =>
      d.events.pop.map fun r =>
        let (d', out) := onEvent { d with events := r.2 } r.1.1 r.1.2 pty
        (d', .processed r.1.1 r.1.2 :: out)
  | .ctrlC => some ({ d with main := .stopped }, [])
  | _ => none

/-- One step of any party. When `main` has returned, nothing goes on. -/
def step (d : Daemon) (i : DaemonInput) : Option Out :=
  if d.main = .stopped then none
  else
    match i with
    | .task k ti => d.stepTask k ti
    | .clientRead c _ | .clientSend c | .clientWritten c _ => d.stepClient c i
    | .goOn => d.goOn
    | .accept _ | .recv _ | .ctrlC => if d.main = .select then d.stepSelect i else none

/-- The daemon as it starts. -/
def init : Daemon where
  state := State.default
  tasks := []
  events := NumberedQueue.empty
  clients := []
  main := .select
  nextTx := 0
  replies := []

/-- The machine of the daemon. -/
def machine : Machine Daemon DaemonInput DaemonObs := ⟨init, step⟩

end Daemon

end TcpUart
