import TcpUart.Codec.RoundTrip
import TcpUart.Daemon.MainLoopStep

/-! # The answers of the daemon on the control socket
`handle_daemon_request` builds a response, `handle_stream` encodes it and panics when the encoder
refuses it. This module says which responses get through.

* `Intact` and `intact_iff_fits` — a response reaches the client if and only if it fits the format.
* `answer` — the response to a request, by the outcome of every call it waits for;
  `responded_answer`: these are the responses of every run.
* `answers_intact` — in every run, the condition under which the answer to a request reaches the
  client. -/

namespace TcpUart

open Reactive Framing

/-- A response reaches the client **intact**: it is encoded, so that `handle_stream` does not panic,
and decoded to itself. -/
def Intact (resp : DaemonResponse) : Prop :=
  ∃ e, DaemonResponseEncoder.encode resp [] = (.ok (), e) ∧
    DaemonResponseDecoder.decode e = .item resp []

/-- A response reaches the client if and only if it fits the format. -/
theorem intact_iff_fits (resp : DaemonResponse) : Intact resp ↔ resp.Fits := by
  constructor
  · rintro ⟨e, -, hdec⟩
    obtain ⟨_, -, -, hfits⟩ := DaemonResponseDecoder.parses_bytes hdec
    exact hfits
  · intro hfits
    have henc := DaemonResponseEncoder.appends_bytes hfits []
    have hdec := (DaemonResponseDecoder.reads_bytes hfits).whole []
    rw [List.append_nil] at hdec
    exact ⟨resp.bytes, henc, hdec⟩

/-! ## What the texts leave room for -/

/-- A text with a name in it fits if and only if the name leaves room for the rest. -/
theorem fitsStr_around (before after name : String) (n : Nat)
    (h : before.utf8ByteSize + after.utf8ByteSize + n = 255) :
    FitsStr (before ++ name ++ after) ↔ name.utf8ByteSize ≤ n := by
  rw [FitsStr, String.utf8ByteSize_append, String.utf8ByteSize_append]
  omega

/-- The same for a name at the end of a text. -/
theorem fitsStr_before (before name : String) (n : Nat) (h : before.utf8ByteSize + n = 255) :
    FitsStr (before ++ name) ↔ name.utf8ByteSize ≤ n := by
  rw [FitsStr, String.utf8ByteSize_append]
  omega

namespace State

/-- A name that exists is found. -/
theorem find_isSome (s : State) (name : String) : (s.find name).isSome = s.exists_ name := by
  rw [find, exists_, List.isSome_find?]

/-- A name that exists is removed. -/
theorem remove_isSome (s : State) (name : String) : (s.remove name).isSome = s.exists_ name := by
  cases hrem : s.remove name with
  | none =>
      cases hex : s.exists_ name with
      | false => rfl
      | true =>
          obtain ⟨c, hc, hname⟩ := List.any_eq_true.mp hex
          exact absurd (of_decide_eq_true hname) (remove_none hrem hc)
  | some r =>
      obtain ⟨conn, s'⟩ := r
      obtain ⟨hname, hperm⟩ := remove_some hrem
      have hex : s.exists_ name = true :=
        List.any_eq_true.mpr ⟨conn, hperm.subset List.mem_cons_self, decide_eq_true hname⟩
      rw [hex]
      rfl

end State

namespace Daemon

/-! ## The answer to a request -/

/-- What the calls that `handle_daemon_request` waits for return. -/
structure Outcome where
  /-- How a PTY is created. -/
  pty : PtySetup
  /-- The status of each connection, in the order of `State`. -/
  statuses : List Bool
  /-- What `send_hardware_ctl` of the connection returns. -/
  ctl : Option CtlReply

/-- The list entry of a connection. -/
def info (c : Connection) (connected : Bool) : ConnectionInfo :=
  ⟨c.name, c.addr, c.port, c.slavePath, connected⟩

/-- The response to `Reset` for what `send_hardware_ctl` returned. -/
def ctlAnswer (name : String) : Option CtlReply → DaemonResponse
  | some (.ok .ok) => .resetOk
  | some (.ok .notSupported) => .error s!"Connection '{name}' does not support reset command"
  | some (.error _) => .error s!"Connection '{name}' is currently unavailable (offline or busy)"
  | none => notFound name

/-- **The response to a request**: what `handle_daemon_request` returns when the calls it waits for
return `o`. -/
def answer (d : Daemon) (req : DaemonRequest) (o : Outcome) : DaemonResponse :=
  match req with
  | .add name addr port => (d.onAdd 0 name addr port o.pty).2
  | .remove name => (d.onRemove name).2
  | .list => .list (List.zipWith info d.state.conns o.statuses)
  | .reset name =>
      match d.state.find name with
      | none => notFound name
      | some _ => ctlAnswer name o.ctl

/-- After `send_hardware_ctl` the client is given the answer. -/
theorem onCtlResult_eq (d : Daemon) (name : String) (client : ClientId) (res : Option CtlReply) :
    d.onCtlResult name client res = d.respond client (ctlAnswer name res) := by
  match res with
  | some (.ok .ok) => rfl
  | some (.ok .notSupported) => rfl
  | some (.error _) => rfl
  | none => rfl

/-- The **names leave room** for the texts they are put into, and the list is not too long for its
count: a condition on the request, the connections and the outcome of device control. -/
def LeavesRoom (d : Daemon) (req : DaemonRequest) (o : Outcome) : Prop :=
  match req with
  | .add name _ _ => d.state.exists_ name = true → name.utf8ByteSize ≤ 217
  | .remove name => d.state.exists_ name = false → name.utf8ByteSize ≤ 224
  | .list => d.state.conns.length ≤ 65535
  | .reset name =>
      match d.state.exists_ name, o.ctl with
      | true, some (.ok .ok) => True
      | true, some (.ok .notSupported) => name.utf8ByteSize ≤ 211
      | true, some (.error _) => name.utf8ByteSize ≤ 199
      | _, _ => name.utf8ByteSize ≤ 224

/-- The names and paths of the connections fit the format. -/
def ConnsFit (d : Daemon) : Prop :=
  ∀ c ∈ d.state.conns, FitsStr c.name ∧ FitsStr c.slavePath

/-- The path of the PTY, if one is created, fits the format. -/
def PtySetup.PathFits : PtySetup → Prop
  | .ok slaveName _ => FitsStr slaveName
  | _ => True

/-- A missing connection is reported if the name leaves room. -/
theorem fits_notFound (name : String) : (notFound name).Fits ↔ name.utf8ByteSize ≤ 224 :=
  fitsStr_before "No connection found with name: " name 224 (by decide)

/-- The answer to `Add` fits if and only if the name leaves room. -/
theorem fits_onAdd (d : Daemon) (n : Nat) (name : String) (addr : UInt32) (port : UInt16)
    {pty : PtySetup} (hpty : PtySetup.PathFits pty) : (d.onAdd n name addr port pty).2.Fits ↔
      (d.state.exists_ name = true → name.utf8ByteSize ≤ 217) := by
  unfold onAdd
  cases hex : d.state.exists_ name with
  | true =>
      rw [if_pos rfl]
      refine Iff.trans ?_ (forall_prop_of_true rfl).symm
      exact fitsStr_around "Connection with name '" "' already exists" name 217 (by decide)
  | false =>
      rw [if_neg Bool.false_ne_true]
      refine Iff.trans ?_ (forall_prop_of_false Bool.false_ne_true).symm
      rw [iff_true]
      -- the texts about the PTY are fixed, the path fits by assumption
      cases pty with
      | ok slaveName tio => exact hpty
      | openFailed => show FitsStr _; decide
      | grantFailed => show FitsStr _; decide
      | unlockFailed => show FitsStr _; decide
      | ptsnameFailed => show FitsStr _; decide
      | asyncFailed => show FitsStr _; decide

/-- The answer to `Remove` fits if and only if the name leaves room. -/
theorem fits_onRemove (d : Daemon) (name : String) : (d.onRemove name).2.Fits ↔
    (d.state.exists_ name = false → name.utf8ByteSize ≤ 224) := by
  rw [← State.remove_isSome]
  unfold onRemove remove
  cases hrem : d.state.remove name with
  | none =>
      refine Iff.trans (fits_notFound name) ?_
      exact ⟨fun h _ => h, fun h => h rfl⟩
  | some r =>
      obtain ⟨conn, state⟩ := r
      refine iff_of_true trivial ?_
      exact nofun

/-- The answer to `List` fits if and only if the list is not too long. -/
theorem fits_list {d : Daemon} (hd : d.ConnsFit) {statuses : List Bool}
    (hlen : statuses.length = d.state.conns.length) :
    (DaemonResponse.list (List.zipWith info d.state.conns statuses)).Fits ↔
      d.state.conns.length ≤ 65535 := by
  have hlen' : (List.zipWith info d.state.conns statuses).length = d.state.conns.length := by
    rw [List.length_zipWith, hlen, Nat.min_self]
  constructor
  · rintro ⟨hle, -⟩
    rwa [hlen'] at hle
  · intro hle
    refine ⟨by rwa [hlen'], ?_⟩
    intro conn hconn
    obtain ⟨i, hi, rfl⟩ := List.getElem_of_mem hconn
    rw [List.getElem_zipWith]
    exact hd _ (List.getElem_mem _)

/-- The answer to `Reset` fits if and only if the name leaves room. -/
theorem fits_reset (d : Daemon) (name : String) (o : Outcome) :
    (d.answer (.reset name) o).Fits ↔ d.LeavesRoom (.reset name) o := by
  simp only [answer, LeavesRoom, ← State.find_isSome]
  cases d.state.find name with
  | none => exact fits_notFound name
  | some conn =>
      match o.ctl with
      | some (.ok .ok) => exact Iff.rfl
      | some (.ok .notSupported) =>
          exact fitsStr_around "Connection '" "' does not support reset command" name 211 (by decide)
      | some (.error _) =>
          exact fitsStr_around "Connection '" "' is currently unavailable (offline or busy)" name
            199 (by decide)
      | none => exact fits_notFound name

/-- **When an answer fits**: if and only if the names leave room. -/
theorem fits_answer {d : Daemon} (hd : d.ConnsFit) (req : DaemonRequest) {o : Outcome}
    (hpty : PtySetup.PathFits o.pty) (hlen : o.statuses.length = d.state.conns.length) :
    (d.answer req o).Fits ↔ d.LeavesRoom req o := by
  cases req with
  | add name addr port => exact d.fits_onAdd 0 name addr port hpty
  | remove name => exact d.fits_onRemove name
  | list => exact fits_list hd hlen
  | reset name => exact d.fits_reset name o

/-! ## The answers of a run -/

/-- A request that `DaemonRequestDecoder` can return. -/
def FromDecoder (req : DaemonRequest) : Prop :=
  ∃ b rest, DaemonRequestDecoder.decode b = .item req rest

/-- The runs considered: clients speak through the decoder, and PTY paths are at most 255 bytes. -/
def Spoken (_ : Daemon) : DaemonInput → Prop
  | .clientRead _ (.request req) => FromDecoder req
  | .recv pty => PtySetup.PathFits pty
  | _ => True

/-- The strings of a request from the decoder fit. -/
theorem FromDecoder.fits {req : DaemonRequest} (h : FromDecoder req) : req.Fits := by
  obtain ⟨b, rest, hdec⟩ := h
  obtain ⟨_, -, -, hfits⟩ := DaemonRequestDecoder.parses_bytes hdec
  exact hfits

/-- Requests on their way to the main loop are from the decoder, and connections fit the format. -/
structure Talks (d : Daemon) : Prop where
  /-- Requests that clients are about to send. -/
  clients : ∀ (c : ClientId) req, d.clients[c]? = some (.sending req) → FromDecoder req
  /-- Requests on the event channel. -/
  events : ∀ x ∈ d.events.items, ∀ req client, x.2.event = .cliCommand req client → FromDecoder req
  /-- Connections. -/
  conns : d.ConnsFit

/-- The list so far has the connections before `rest`, each with some status. -/
def ListedSoFar (conns rest : List Connection) (list : List ConnectionInfo) : Prop :=
  ∃ done statuses, conns = done ++ rest ∧ statuses.length = done.length ∧
    list = List.zipWith info done statuses

/-- What the main loop is suspended with belongs to the connections it has. -/
def Suspended (d : Daemon) : Prop :=
  match d.main with
  | .listSend rest list _ => ListedSoFar d.state.conns rest list
  | .listReply _ conn rest list _ => ListedSoFar d.state.conns (conn :: rest) list
  | .ctlSend name _ _ _ => FromDecoder (.reset name) ∧ d.state.exists_ name = true
  | .ctlReply name _ _ _ => FromDecoder (.reset name) ∧ d.state.exists_ name = true
  | _ => True

/-- One more status. -/
theorem ListedSoFar.add {conns rest : List Connection} {conn : Connection}
    {list : List ConnectionInfo} (h : ListedSoFar conns (conn :: rest) list) (connected : Bool) :
    ListedSoFar conns rest (list ++ [info conn connected]) := by
  obtain ⟨done, statuses, rfl, hlen, rfl⟩ := h
  refine ⟨done ++ [conn], statuses ++ [connected], ?_, ?_, ?_⟩
  · rw [List.append_assoc]
    rfl
  · rw [List.length_append, List.length_append, hlen]
    rfl
  · rw [List.zipWith_append hlen.symm]
    rfl

namespace Talks

variable {d : Daemon}

/-- A client that goes on sends nothing, or a request of the decoder. -/
theorem clients_set (h : d.Talks) {pc : ClientPc}
    (hpc : ∀ req, pc = .sending req → FromDecoder req) (c c' : ClientId) (req : DaemonRequest)
    (hc' : (d.clients.set c pc)[c']? = some (.sending req)) : FromDecoder req := by
  rw [List.getElem?_set] at hc'
  split at hc'
  · split at hc'
    · exact hpc req (Option.some.inj hc')
    · cases hc'
  · exact h.clients c' req hc'

/-- What goes on the event channel is no request, or one of the decoder. -/
theorem events_push (h : d.Talks) {e : Event} {events : NumberedQueue Event 128}
    (hpush : d.events.push e = some events)
    (he : ∀ req client, e.event = .cliCommand req client → FromDecoder req) :
    ∀ x ∈ events.items, ∀ req client, x.2.event = .cliCommand req client → FromDecoder req := by
  intro x hx
  rw [(NumberedQueue.items_of_push hpush).1] at hx
  rcases List.mem_append.mp hx with hx | hx
  · exact h.events x hx
  · obtain rfl := List.mem_singleton.mp hx
    exact he

/-- Answering a client. -/
theorem respond (h : d.Talks) (client : ClientId) (resp : DaemonResponse) :
    (d.respond client resp).1.Talks where
  clients := by
    refine h.clients_set ?_ client
    nofun
  events := h.events
  conns := h.conns

/-- Going on with a list. -/
theorem listNext (h : d.Talks) (rest : List Connection) (list : List ConnectionInfo)
    (client : ClientId) : (d.listNext rest list client).1.Talks := by
  cases rest with
  | nil => exact h.respond client _
  | cons conn rest => exact ⟨h.clients, h.events, h.conns⟩

/-- Answering a reset. -/
theorem onCtlResult (h : d.Talks) (name : String) (client : ClientId) (res : Option CtlReply) :
    (d.onCtlResult name client res).1.Talks := by
  rw [onCtlResult_eq]
  exact h.respond client _

/-- Taking an event. -/
theorem took (h : d.Talks) {n : Nat} {e : Event} {events : NumberedQueue Event 128}
    (hpop : d.events.pop = some ((n, e), events)) : (d.took events).Talks where
  clients := h.clients
  events := by
    intro x hx
    refine h.events x ?_
    rw [(NumberedQueue.items_of_pop hpop).1]
    exact List.mem_cons_of_mem _ hx
  conns := h.conns

/-- The event that is taken. -/
theorem fromDecoder (h : d.Talks) {n : Nat} {e : Event} {events : NumberedQueue Event 128}
    (hpop : d.events.pop = some ((n, e), events)) {req : DaemonRequest} {client : ClientId}
    (he : e.event = .cliCommand req client) : FromDecoder req := by
  refine h.events (n, e) ?_ req client he
  rw [(NumberedQueue.items_of_pop hpop).1]
  exact List.mem_cons_self

/-- Removing a connection. -/
theorem removed (h : d.Talks) {name : String} {conn : Connection} {state : State}
    (hrem : d.state.remove name = some (conn, state)) :
    (shutdown { d with state := state } conn).Talks where
  clients := h.clients
  events := h.events
  conns := fun c hc => h.conns c ((State.remove_some hrem).2.subset (List.mem_cons_of_mem _ hc))

/-- Adding a connection. -/
theorem added (h : d.Talks) {name slaveName : String} (hname : FitsStr name)
    (hpath : FitsStr slaveName) (n : Nat) (addr : UInt32) (port : UInt16) (master : AsyncPty) :
    (d.buildAndSpawn n name addr port master slaveName).Talks where
  clients := h.clients
  events := h.events
  conns := by
    intro c hc
    rcases List.mem_append.mp hc with hc | hc
    · exact h.conns c hc
    · obtain rfl := List.mem_singleton.mp hc
      exact ⟨hname, hpath⟩

/-- Asking a connection task. -/
theorem request (h : d.Talks) {k : TaskId} {req : ConnectionTaskRequest} {d' : Daemon}
    (hreq : d.request k req = some d') : d'.Talks := by
  obtain ⟨sp, q, -, -, rfl⟩ := request_some hreq
  exact ⟨h.clients, h.events, h.conns⟩

end Talks

/-- **Every step keeps requests and connections in the format.** -/
theorem Talks.step {d d' : Daemon} {i : DaemonInput} {out : List DaemonObs} (h : d.Talks)
    (hok : Spoken d i) (hs : Step d i d' out) : d'.Talks := by
  cases hs with
  | accept =>
      refine ⟨?_, h.events, h.conns⟩
      intro c req hc
      rw [List.getElem?_append] at hc
      split at hc
      · exact h.clients c req hc
      · have hmem := List.mem_of_getElem? hc
        cases List.mem_singleton.mp hmem
  | acceptFailed => exact h
  | ctrlC => exact ⟨h.clients, h.events, h.conns⟩
  | recvAdd _ hpop he =>
      have hname : FitsStr _ := (h.fromDecoder hpop he).fits
      exact ((h.took hpop).added hname hok _ _ _ _).respond _ _
  | recvAddRefused _ _ hpop => exact (h.took hpop).respond _ _
  | recvRemove _ hpop _ hrem => exact ((h.took hpop).removed hrem).respond _ _
  | recvRemoveNone _ hpop => exact (h.took hpop).respond _ _
  | recvList _ hpop => exact (h.took hpop).listNext _ _ _
  | recvReset _ hpop =>
      have htook := h.took hpop
      exact ⟨htook.clients, htook.events, htook.conns⟩
  | recvResetNone _ hpop => exact (h.took hpop).respond _ _
  | recvClosed _ hpop _ hrem => exact (h.took hpop).removed hrem
  | recvClosedNone _ hpop => exact h.took hpop
  | listGone => exact h.listNext _ _ _
  | listAsk _ _ hreq =>
      have hask := h.request hreq
      exact ⟨hask.clients, hask.events, hask.conns⟩
  | listTold => exact h.listNext _ _ _
  | listDropped => exact h.listNext _ _ _
  | ctlGone => exact h.onCtlResult _ _ _
  | ctlAsk _ _ hreq =>
      have hask := h.request hreq
      exact ⟨hask.clients, hask.events, hask.conns⟩
  | ctlTold => exact h.onCtlResult _ _ _
  | ctlDropped => exact h.onCtlResult _ _ _
  | clientRead r =>
      refine ⟨h.clients_set ?_ _, h.events, h.conns⟩
      intro req hpc
      cases r with
      | request req' =>
          cases hpc
          exact hok
      | invalid => cases hpc
      | ended => cases hpc
  | clientSend hsending hpush =>
      refine ⟨h.clients_set ?_ _, h.events_push hpush ?_, h.conns⟩
      · nofun
      · intro req client he
        cases he
        exact h.clients _ _ hsending
  | clientWritten ok =>
      refine ⟨h.clients_set ?_ _, h.events, h.conns⟩
      intro req hpc
      cases ok <;> cases hpc
  | task _ hch =>
      refine ⟨h.clients, ?_, h.conns⟩
      cases channels_cases hch with
      | notified hpush =>
          -- the end of a task is no request
          exact h.events_push hpush nofun
      | _ => exact h.events

/-- The list that the main loop is suspended with belongs to the connections it has. -/
def Listing (d : Daemon) : Prop :=
  match d.main with
  | .listSend rest list _ => ListedSoFar d.state.conns rest list
  | .listReply _ conn rest list _ => ListedSoFar d.state.conns (conn :: rest) list
  | _ => True

/-- The reset that the main loop is suspended with is a request of the decoder for a connection it
has. -/
def Resetting (d : Daemon) : Prop :=
  match d.main with
  | .ctlSend name _ _ _ => FromDecoder (.reset name) ∧ d.state.exists_ name = true
  | .ctlReply name _ _ _ => FromDecoder (.reset name) ∧ d.state.exists_ name = true
  | _ => True

/-- The main loop is suspended with a list, with a reset, or with nothing. -/
theorem suspended_iff (d : Daemon) : d.Suspended ↔ d.Listing ∧ d.Resetting := by
  unfold Suspended Listing Resetting
  cases d.main <;> simp

/-- Going on with a list keeps it to the connections. -/
theorem listing_listNext {d : Daemon} {rest : List Connection} {list : List ConnectionInfo}
    (h : ListedSoFar d.state.conns rest list) (client : ClientId) :
    (d.listNext rest list client).1.Listing := by
  cases rest with
  | nil => trivial
  | cons conn rest => exact h

/-- At its `select!` the main loop has no list to go on with. -/
theorem listing_of_select {d : Daemon} (h : d.main = .select) : d.Listing := by
  rw [Listing, h]
  trivial

/-- A step that leaves the main loop and the connections alone. -/
theorem Listing.of_eq {d d' : Daemon} (h : d.Listing) (hmain : d'.main = d.main)
    (hstate : d'.state = d.state) : d'.Listing := by
  rw [Listing, hmain, hstate]
  exact h

/-- **Every step keeps a list to the connections.** -/
theorem Listing.step {d d' : Daemon} {i : DaemonInput} {out : List DaemonObs} (h : d.Listing)
    (hs : Step d i d' out) : d'.Listing := by
  have hctl : ∀ name client res, (d.onCtlResult name client res).1.Listing := by
    intro name client res
    rw [onCtlResult_eq]
    trivial
  cases hs with
  | accept => exact h.of_eq rfl rfl
  | acceptFailed => exact h
  | recvList => exact listing_listNext ⟨[], [], rfl, rfl, rfl⟩ _
  | recvClosed hm => exact listing_of_select hm
  | recvClosedNone hm => exact listing_of_select hm
  | listGone hm =>
      rw [Listing, hm] at h
      exact listing_listNext (h.add _) _
  | listAsk hm _ hreq =>
      obtain ⟨sp, q, -, -, rfl⟩ := request_some hreq
      rw [Listing, hm] at h
      exact h
  | listTold hm =>
      rw [Listing, hm] at h
      exact listing_listNext (h.add _) _
  | listDropped hm =>
      rw [Listing, hm] at h
      exact listing_listNext (h.add _) _
  | ctlGone => exact hctl _ _ _
  | ctlTold => exact hctl _ _ _
  | ctlDropped => exact hctl _ _ _
  | clientRead => exact h.of_eq rfl rfl
  | clientSend => exact h.of_eq rfl rfl
  | clientWritten => exact h.of_eq rfl rfl
  | task => exact h.of_eq rfl rfl
  | _ => trivial

/-- A step that leaves the main loop and the connections alone. -/
theorem Resetting.of_eq {d d' : Daemon} (h : d.Resetting) (hmain : d'.main = d.main)
    (hstate : d'.state = d.state) : d'.Resetting := by
  rw [Resetting, hmain, hstate]
  exact h

/-- **Every step keeps a reset to the connections.** -/
theorem Resetting.step {d d' : Daemon} {i : DaemonInput} {out : List DaemonObs} (h : d.Resetting)
    (htalks : d.Talks) (hs : Step d i d' out) : d'.Resetting := by
  have hlist : ∀ {d₀ : Daemon} rest list client, (d₀.listNext rest list client).1.Resetting := by
    intro d₀ rest list client
    cases rest <;> trivial
  have hctl : ∀ name client res, (d.onCtlResult name client res).1.Resetting := by
    intro name client res
    rw [onCtlResult_eq]
    trivial
  have hselect : ∀ {d₀ : Daemon}, d₀.main = .select → d₀.Resetting := by
    intro d₀ hm
    rw [Resetting, hm]
    trivial
  cases hs with
  | accept => exact h.of_eq rfl rfl
  | acceptFailed => exact h
  | recvList => exact hlist _ _ _
  | recvReset _ hpop he hfind =>
      refine ⟨htalks.fromDecoder hpop he, ?_⟩
      rw [← State.find_isSome]
      exact Option.isSome_iff_exists.mpr ⟨_, hfind⟩
  | recvClosed hm => exact hselect hm
  | recvClosedNone hm => exact hselect hm
  | listGone => exact hlist _ _ _
  | listTold => exact hlist _ _ _
  | listDropped => exact hlist _ _ _
  | ctlGone => exact hctl _ _ _
  | ctlAsk hm _ hreq =>
      obtain ⟨sp, q, -, -, rfl⟩ := request_some hreq
      rw [Resetting, hm] at h
      exact h
  | ctlTold => exact hctl _ _ _
  | ctlDropped => exact hctl _ _ _
  | clientRead => exact h.of_eq rfl rfl
  | clientSend => exact h.of_eq rfl rfl
  | clientWritten => exact h.of_eq rfl rfl
  | task => exact h.of_eq rfl rfl
  | _ => trivial

/-- **Every step keeps what the main loop is suspended with.** -/
theorem Suspended.step {d d' : Daemon} {i : DaemonInput} {out : List DaemonObs} (h : d.Suspended)
    (htalks : d.Talks) (hs : Step d i d' out) : d'.Suspended := by
  obtain ⟨hlist, hreset⟩ := (suspended_iff d).mp h
  exact (suspended_iff d').mpr ⟨hlist.step hs, hreset.step htalks hs⟩

/-- Requests, connections and the main loop are in order along every run. -/
theorem talks_of_run {log : List DaemonObs} {d : Daemon} (h : machine.Run Spoken log d) :
    d.Talks ∧ d.Suspended := by
  refine h.invariant (P := fun _ d => d.Talks ∧ d.Suspended) ?_ ?_
  · refine ⟨⟨nofun, ?_, ?_⟩, trivial⟩
    · intro x hx
      cases hx
    · intro c hc
      cases hc
  · rintro log d i d' out - ⟨htalks, hsus⟩ hok hs
    have hstep := step_cases hs
    exact ⟨htalks.step hok hstep, hsus.step htalks hstep⟩

/-- The answer to a request of the decoder, for some outcome of the calls it waits for. -/
def IsAnswer (d : Daemon) (resp : DaemonResponse) : Prop :=
  ∃ (req : DaemonRequest) (o : Outcome), FromDecoder req ∧ PtySetup.PathFits o.pty ∧
    o.statuses.length = d.state.conns.length ∧ resp = d.answer req o

/-- A list that is finished is an answer. -/
theorem responded_of_listNext {d d₀ : Daemon} {rest : List Connection}
    {list : List ConnectionInfo} {client client' : ClientId} {resp : DaemonResponse}
    (hlist : ListedSoFar d.state.conns rest list)
    (h : .responded client' resp ∈ (d₀.listNext rest list client).2) : d.IsAnswer resp := by
  cases rest with
  | cons conn rest => cases h
  | nil =>
      have hresp : DaemonObs.responded client' resp ∈ [.responded client (.list list)] := h
      cases List.mem_singleton.mp hresp
      obtain ⟨done, statuses, hconns, hlen, rfl⟩ := hlist
      rw [List.append_nil] at hconns
      refine ⟨.list, ⟨.openFailed, statuses, none⟩, ⟨[3], [], rfl⟩, trivial, ?_, ?_⟩
      · rw [hconns, hlen]
      · simp only [answer, hconns]

/-- What `send_hardware_ctl` returned makes an answer. -/
theorem responded_of_onCtlResult {d d₀ : Daemon} {name : String} {res : Option CtlReply}
    {client client' : ClientId} {resp : DaemonResponse} (hreq : FromDecoder (.reset name))
    (hex : d.state.exists_ name = true)
    (h : .responded client' resp ∈ (d₀.onCtlResult name client res).2) : d.IsAnswer resp := by
  rw [onCtlResult_eq] at h
  cases List.mem_singleton.mp h
  rw [← State.find_isSome, Option.isSome_iff_exists] at hex
  obtain ⟨conn, hfind⟩ := hex
  refine ⟨.reset name, ⟨.openFailed, d.state.conns.map fun _ => false, res⟩, hreq, trivial,
    List.length_map _, ?_⟩
  simp only [answer, hfind]

/-- What the main loop answers at once when it takes an event. -/
theorem responded_of_onEvent {d : Daemon} {n : Nat} {e : Event}
    {events : NumberedQueue Event 128} {pty : PtySetup} (htalks : d.Talks)
    (hpty : PtySetup.PathFits pty) (hpop : d.events.pop = some ((n, e), events))
    {client : ClientId} {resp : DaemonResponse}
    (hresp : .responded client resp ∈ ((d.took events).onEvent n e pty).2) :
    d.IsAnswer resp := by
  have hone : ∀ {d₀ : Daemon} {c : ClientId} {r : DaemonResponse},
      .responded client resp ∈ (d₀.respond c r).2 → resp = r := by
    intro d₀ c r h
    cases List.mem_singleton.mp h
    rfl
  -- the statuses of a request that asks for none
  have hlen : (d.state.conns.map fun _ => false).length = d.state.conns.length :=
    List.length_map _
  unfold onEvent at hresp
  cases he : e.event with
  | connectionClosed name =>
      rw [he] at hresp
      cases hresp
  | cliCommand req client' =>
      rw [he] at hresp
      have hreq := htalks.fromDecoder hpop he
      cases req with
      | add name addr port =>
          refine ⟨_, ⟨pty, _, none⟩, hreq, hpty, hlen, (hone hresp).trans ?_⟩
          show ((d.took events).onAdd n name addr port pty).2 = (d.onAdd 0 name addr port pty).2
          unfold onAdd
          rw [show (d.took events).state = d.state from rfl]
          split
          · rfl
          · cases pty <;> rfl
      | remove name =>
          refine ⟨_, ⟨pty, _, none⟩, hreq, hpty, hlen, (hone hresp).trans ?_⟩
          show ((d.took events).onRemove name).2 = (d.onRemove name).2
          unfold onRemove remove
          rw [show (d.took events).state = d.state from rfl]
          cases d.state.remove name <;> rfl
      | list =>
          have hlist : ListedSoFar d.state.conns d.state.conns [] := ⟨[], [], rfl, rfl, rfl⟩
          exact responded_of_listNext hlist hresp
      | reset name =>
          simp only [handleDaemonRequest, show (d.took events).state = d.state from rfl] at hresp
          cases hfind : d.state.find name with
          | some conn =>
              rw [hfind] at hresp
              cases hresp
          | none =>
              rw [hfind] at hresp
              refine ⟨_, ⟨pty, _, none⟩, hreq, hpty, hlen, (hone hresp).trans ?_⟩
              simp only [answer, hfind]

/-- **The responses of a run are answers**: whatever the main loop gives a client is the answer to a
request of the decoder, for some outcome of the calls it waited for. -/
theorem responded_answer {d d' : Daemon} {i : DaemonInput} {out : List DaemonObs}
    (htalks : d.Talks) (hsus : d.Suspended) (hok : Spoken d i) (hs : d.step i = some (d', out))
    {client : ClientId} {resp : DaemonResponse} (hresp : .responded client resp ∈ out) :
    d.IsAnswer resp := by
  cases i with
  | recv pty =>
      obtain ⟨n, e, events, -, hpop, rfl, rfl⟩ := step_recv hs
      rcases List.mem_cons.mp hresp with hresp | hresp
      · cases hresp
      · exact responded_of_onEvent htalks hok hpop hresp
  | goOn =>
      cases step_cases hs with
      | listGone hm =>
          rw [Suspended, hm] at hsus
          exact responded_of_listNext (hsus.add _) hresp
      | listAsk => cases hresp
      | listTold hm =>
          rw [Suspended, hm] at hsus
          exact responded_of_listNext (hsus.add _) hresp
      | listDropped hm =>
          rw [Suspended, hm] at hsus
          exact responded_of_listNext (hsus.add _) hresp
      | ctlGone hm =>
          rw [Suspended, hm] at hsus
          exact responded_of_onCtlResult hsus.1 hsus.2 hresp
      | ctlAsk => cases hresp
      | ctlTold hm =>
          rw [Suspended, hm] at hsus
          exact responded_of_onCtlResult hsus.1 hsus.2 hresp
      | ctlDropped hm =>
          rw [Suspended, hm] at hsus
          exact responded_of_onCtlResult hsus.1 hsus.2 hresp
  | task k ti =>
      cases step_cases hs with
      | task =>
          obtain ⟨o, -, ho⟩ := List.mem_map.mp hresp
          cases ho
  | accept ok => cases step_cases hs <;> cases hresp
  | ctrlC => cases step_cases hs; cases hresp
  | clientRead => cases step_cases hs; cases hresp
  | clientSend => cases step_cases hs; cases hresp
  | clientWritten => cases step_cases hs; cases hresp

/-- **When the answers of the daemon reach the client.** In every run, for every request of the
decoder and every outcome of PTY creation and device control, the answer is intact if and only if
the names leave room; and every response the main loop gives is such an answer. -/
theorem answers_intact {log : List DaemonObs} {d : Daemon} (h : machine.Run Spoken log d) :
    (∀ (req : DaemonRequest) (o : Outcome), FromDecoder req → PtySetup.PathFits o.pty →
        o.statuses.length = d.state.conns.length →
        (Intact (d.answer req o) ↔ d.LeavesRoom req o)) ∧
      ∀ (i : DaemonInput) d' out, Spoken d i → d.step i = some (d', out) →
        ∀ client resp, .responded client resp ∈ out →
          ∃ (req : DaemonRequest) (o : Outcome), FromDecoder req ∧ PtySetup.PathFits o.pty ∧
            o.statuses.length = d.state.conns.length ∧ resp = d.answer req o ∧
            (Intact resp ↔ d.LeavesRoom req o) := by
  obtain ⟨htalks, hsus⟩ := talks_of_run h
  have hiff : ∀ (req : DaemonRequest) (o : Outcome), PtySetup.PathFits o.pty →
      o.statuses.length = d.state.conns.length →
      (Intact (d.answer req o) ↔ d.LeavesRoom req o) := by
    intro req o hpty hlen
    exact (intact_iff_fits _).trans (fits_answer htalks.conns req hpty hlen)
  constructor
  · intro req o _ hpty hlen
    exact hiff req o hpty hlen
  · intro i d' out hok hs client resp hresp
    obtain ⟨req, o, hreq, hpty, hlen, rfl⟩ := responded_answer htalks hsus hok hs hresp
    exact ⟨req, o, hreq, hpty, hlen, rfl, hiff req o hpty hlen⟩

/-- A request whose strings fit can be returned by the decoder. -/
theorem fromDecoder_of_fits {req : DaemonRequest} (h : req.Fits) : FromDecoder req :=
  ⟨_, _, (DaemonRequestDecoder.reads_bytes h).whole []⟩

/-- A client has asked to remove a connection, and there is none. -/
theorem run_remove_asked {name : String} (h : FitsStr name) :
    ∃ log d d' out, machine.Run Spoken log d ∧
      d.step (.recv .openFailed) = some (d', out) ∧ .responded 0 (notFound name) ∈ out ∧
      d.state = State.default := by
  have hrun : machine.Run Spoken _ _ := Machine.Run.init.exec
    [.accept true, .clientRead 0 (.request (.remove name)), .clientSend 0] (by
      intro i hi d
      rcases hi with - | ⟨- , - | ⟨-, - | ⟨-, hi⟩⟩⟩
      · trivial
      · exact fromDecoder_of_fits h
      · trivial
      · cases hi) rfl
  exact ⟨_, _, _, _, hrun, rfl, .tail _ (.head _), rfl⟩

/-- A connection that is not there cannot be removed; the client is told so. -/
theorem answers_intact_remove :
    ∃ log d, machine.Run Spoken log d ∧
      Intact (d.answer (.remove "lab") ⟨.openFailed, [], none⟩) ∧
      ∃ d' out, d.step (.recv .openFailed) = some (d', out) ∧
        .responded 0 (notFound "lab") ∈ out ∧ Intact (notFound "lab") := by
  obtain ⟨log, d, d', out, hrun, hs, hresp, hstate⟩ := run_remove_asked (show FitsStr "lab" by decide)
  have hlen : ([] : List Bool).length = d.state.conns.length := by
    rw [hstate]
    rfl
  have hintact : Intact (d.answer (.remove "lab") ⟨.openFailed, [], none⟩) :=
    ((answers_intact hrun).1 (.remove "lab") ⟨.openFailed, [], none⟩
      (fromDecoder_of_fits (by decide)) trivial hlen).mpr fun _ => by decide
  have hanswer : d.answer (.remove "lab") ⟨.openFailed, [], none⟩ = notFound "lab" := by
    simp only [answer, onRemove, remove, hstate]
    rfl
  exact ⟨log, d, hrun, hintact, d', out, hs, hresp, hanswer ▸ hintact⟩

/-- **A long name breaks the answer.** A client asks to remove a connection with a name of 255
bytes, which the decoder accepts. The error text does not fit: the encoder refuses it. -/
theorem long_name_not_answered :
    ∃ name : String, name.utf8ByteSize = 255 ∧ ∃ log d d' out, machine.Run Spoken log d ∧
      d.step (.recv .openFailed) = some (d', out) ∧ .responded 0 (notFound name) ∈ out ∧
      ¬ Intact (notFound name) ∧
      DaemonResponseEncoder.encode (notFound name) []
        = (.error ⟨.invalidInput, "string too long"⟩, [255]) := by
  have hsize : (String.ofList (List.replicate 255 'a')).utf8ByteSize = 255 := by decide +kernel
  refine ⟨String.ofList (List.replicate 255 'a'), hsize, ?_⟩
  generalize String.ofList (List.replicate 255 'a') = name at hsize
  obtain ⟨log, d, d', out, hrun, hs, hresp, -⟩ := run_remove_asked (Nat.le_of_eq hsize)
  have hlong : ¬ (notFound name).Fits := by
    rw [fits_notFound, hsize]
    decide
  refine ⟨log, d, d', out, hrun, hs, hresp, ?_, ?_⟩
  · rwa [intact_iff_fits]
  · exact encodeStr_of_not_fits hlong [255]

end Daemon

end TcpUart
