import TcpUart.Lib.History
import TcpUart.Daemon.Bindings
import TcpUart.Daemon.Waiting

/-! # The daemon as a directory of connections
For the programs on its control socket the daemon is a directory: names are added with the address
and port of a device, are given the path of a PTY, and are removed. Any number of clients ask at the
same time, a list or a reset takes many steps during which tasks end and requests pile up, and the
directory changes also when a task ends. This module says that all of that is as if the requests
were carried out one after the other, each in one step.

* `Directory.Does` — what a request does to a directory and what it is answered, in one step.
* `Directory.BoundBy` — what a history says of a name: added, and not removed since.
* `control_plane_atomic` — the requests and responses of every run are a legal history of the
  directory, and end in what the daemon keeps; a list has exactly the names that are bound. -/

namespace TcpUart

open Reactive

/-! ## The directory -/

/-- What is kept under a name. -/
structure DirectoryEntry where
  /-- Address of the device. -/
  addr : UInt32
  /-- Port of the device. -/
  port : UInt16
  /-- Path of the PTY. -/
  path : String

/-- What is kept of a connection. -/
def Connection.entry (c : Connection) : DirectoryEntry := ⟨c.addr, c.port, c.slavePath⟩

/-- What a list says of a connection. -/
def ConnectionInfo.entry (c : ConnectionInfo) : DirectoryEntry := ⟨c.addr, c.port, c.ptsPath⟩

/-- A directory: which names are bound, and to what. -/
abbrev Directory := String → Option DirectoryEntry

/-- An operation on the directory: a request of a client with its response, or the end of the
connection of a name. -/
abbrev DirectoryOp := Op ClientId DaemonRequest DaemonResponse String

namespace Directory

/-- A list has every binding, once. -/
def ListedBy (m : Directory) (l : List ConnectionInfo) : Prop :=
  (l.map ConnectionInfo.name).Nodup ∧
    ∀ name e, m name = some e ↔ (name, e) ∈ l.map fun c => (c.name, c.entry)

/-- The names of the five calls that create a PTY, as their failures are reported. -/
def ptyCalls : List String :=
  ["create pty", "grant pty", "unlock pty", "get pts name", "create AsyncPty"]

/-- **What an operation does**, in one step. -/
inductive Does (m : Directory) : DirectoryOp → Directory → Prop
  /-- A free name is bound to what was asked for and the path of a new PTY. -/
  | add {client : ClientId} {name : String} {addr : UInt32} {port : UInt16} (path : String)
      (h : m name = none) :
      Does m (.call client (.add name addr port) (.addOk path))
        (Function.update m name (some ⟨addr, port, path⟩))
  /-- A name that is bound is not bound again. -/
  | addTaken {client : ClientId} {name : String} {addr : UInt32} {port : UInt16}
      (h : (m name).isSome = true) :
      Does m (.call client (.add name addr port)
        (.error s!"Connection with name '{name}' already exists")) m
  /-- The PTY cannot be created. -/
  | addFailed {client : ClientId} {name : String} {addr : UInt32} {port : UInt16} {what : String}
      (h : m name = none) (hwhat : what ∈ ptyCalls) :
      Does m (.call client (.add name addr port) (.error (Daemon.ptyError what))) m
  /-- A binding is removed. -/
  | remove {client : ClientId} {name : String} (h : (m name).isSome = true) :
      Does m (.call client (.remove name) .removeOk) (Function.update m name none)
  /-- There is no such binding. -/
  | removeNone {client : ClientId} {name : String} (h : m name = none) :
      Does m (.call client (.remove name) (Daemon.notFound name)) m
  /-- Everything is listed. -/
  | list {client : ClientId} {l : List ConnectionInfo} (h : m.ListedBy l) :
      Does m (.call client .list (.list l)) m
  /-- The device of a name is asked to reset. -/
  | reset {client : ClientId} {name : String} (h : (m name).isSome = true)
      (res : Option CtlReply) : Does m (.call client (.reset name) (Daemon.ctlAnswer name res)) m
  /-- There is no such device. -/
  | resetNone {client : ClientId} {name : String} (h : m name = none) :
      Does m (.call client (.reset name) (Daemon.notFound name)) m
  /-- The connection of a name has ended. -/
  | closed (name : String) : Does m (.act name) (Function.update m name none)

/-- The directory with nothing in it. -/
def empty : Directory := fun _ => none

/-- An operation that may unbind a name. -/
def Unbinds (name : String) : DirectoryOp → Prop
  | .call _ (.remove name') .removeOk => name' = name
  | .act name' => name' = name
  | _ => False

/-- A name is bound by its last `Add`, and was not removed since. -/
def BoundBy (ops : List DirectoryOp) (name : String) (e : DirectoryEntry) : Prop :=
  ∃ pre client post, ops = pre ++ .call client (.add name e.addr e.port) (.addOk e.path) :: post ∧
    ∀ o ∈ post, ¬ Unbinds name o

/-- A binding stays until an operation unbinds the name. -/
theorem Does.keeps {m m' : Directory} {o : DirectoryOp} (ho : Does m o m') {name : String}
    {e : DirectoryEntry} (hm : m name = some e) (hnot : ¬ Unbinds name o) : m' name = some e := by
  cases ho with
  | @add client name' addr port path hfree =>
      have hne : name ≠ name' := by
        rintro rfl
        rw [hfree] at hm
        cases hm
      rwa [Function.update_of_ne hne]
  | remove => rwa [Function.update_of_ne (Ne.symm hnot)]
  | closed => rwa [Function.update_of_ne (Ne.symm hnot)]
  | _ => exact hm

/-- A name that is bound after an operation was bound before, or is bound by it. -/
theorem Does.bound_cases {m m' : Directory} {o : DirectoryOp} (ho : Does m o m') {name : String}
    {e : DirectoryEntry} (hm : m' name = some e) :
    (m name = some e ∧ ¬ Unbinds name o) ∨
      ∃ client, o = .call client (.add name e.addr e.port) (.addOk e.path) := by
  cases ho with
  | @add client name' addr port path hfree =>
      by_cases hname : name = name'
      · subst hname
        rw [Function.update_self] at hm
        cases hm
        exact .inr ⟨client, rfl⟩
      · rw [Function.update_of_ne hname] at hm
        exact .inl ⟨hm, id⟩
  | @remove client name' hbound =>
      by_cases hname : name = name'
      · simp [hname] at hm
      · rw [Function.update_of_ne hname] at hm
        exact .inl ⟨hm, Ne.symm hname⟩
  | closed name' =>
      by_cases hname : name = name'
      · simp [hname] at hm
      · rw [Function.update_of_ne hname] at hm
        exact .inl ⟨hm, Ne.symm hname⟩
  | _ => exact .inl ⟨hm, id⟩

/-- **A name is bound exactly if it was added**, to just that, and not removed since. -/
theorem boundBy_iff {ops : List DirectoryOp} {m : Directory} (h : Legal Does empty ops m)
    (name : String) (e : DirectoryEntry) : m name = some e ↔ BoundBy ops name e := by
  constructor
  · intro hm
    induction h with
    | nil => cases hm
    | @snoc ops m m' o hl ho ih =>
        rcases ho.bound_cases hm with ⟨hm, hnot⟩ | ⟨client, rfl⟩
        · obtain ⟨pre, client, post, rfl, hpost⟩ := ih hm
          refine ⟨pre, client, post ++ [o], by simp, ?_⟩
          intro o' ho'
          rcases List.mem_append.mp ho' with h | h
          · exact hpost o' h
          · rwa [List.mem_singleton.mp h]
        · exact ⟨ops, client, [], rfl, by simp⟩
  · rintro ⟨pre, client, post, rfl, hpost⟩
    obtain ⟨m₀, m₁, -, hadd, hrest⟩ := h.around
    have hbound : m₁ name = some e := by
      cases hadd with
      | add => simp
    exact hrest.invariant (P := fun m => m name = some e) hbound
      fun o ho m m' hm hs => hs.keeps hm (hpost o ho)

end Directory

/-! ## What the daemon keeps -/

/-- Searching the vector is looking up the map. -/
theorem State.find_eq_lookup (s : State) (name : String) : s.find name = s.toMap.lookup name :=
  (lookup_toMap Connection.name s.conns name).symm

/-- The request the main loop is in the middle of, and who asked. -/
def MainPc.serving : MainPc → Option (ClientId × DaemonRequest)
  | .listSend _ _ client => some (client, .list)
  | .listReply _ _ _ _ client => some (client, .list)
  | .ctlSend name _ _ client => some (client, .reset name)
  | .ctlReply name _ _ client => some (client, .reset name)
  | _ => none

/-- What an observation is of the directory. -/
def DaemonObs.mark : DaemonObs → Option (Mark ClientId DaemonRequest DaemonResponse String)
  | .processed _ e =>
      match e.event with
      | .cliCommand req client => some (.call client req)
      | .connectionClosed name => some (.act name)
  | .responded client resp => some (.ret client resp)
  | .task _ _ => none

namespace Daemon

variable {d d' : Daemon} {i : DaemonInput} {out log : List DaemonObs}

/-- The directory that the daemon keeps. -/
def directory (d : Daemon) : Directory := fun name => (d.state.find name).map Connection.entry

/-- The same connections are the same directory. -/
theorem directory_congr (h : d'.state = d.state) : d'.directory = d.directory := by
  unfold directory
  rw [h]

/-- A name is bound if it exists. -/
@[simp] theorem isSome_directory (d : Daemon) (name : String) :
    (d.directory name).isSome = d.state.exists_ name := by
  simp [directory, State.find_isSome]

/-- A name that does not exist is free. -/
theorem directory_eq_none {name : String} (h : d.state.exists_ name = false) :
    d.directory name = none := by
  rw [← Option.not_isSome_iff_eq_none, isSome_directory, h]
  exact Bool.false_ne_true

/-- A new binding. -/
theorem directory_insert (d' : Daemon) {name : String} {c : Connection}
    (h : d'.state.toMap = d.state.toMap.insert name c) :
    d'.directory = Function.update d.directory name (some c.entry) := by
  funext name'
  by_cases hname : name' = name
  · subst hname
    simp [directory, State.find_eq_lookup, h]
  · simp [directory, State.find_eq_lookup, h, Finmap.lookup_insert_of_ne _ hname, hname]

/-- A binding erased. -/
theorem directory_erase (d' : Daemon) {name : String}
    (h : d'.state.toMap = d.state.toMap.erase name) :
    d'.directory = Function.update d.directory name none := by
  funext name'
  by_cases hname : name' = name
  · subst hname
    simp [directory, State.find_eq_lookup, h]
  · simp [directory, State.find_eq_lookup, h, Finmap.lookup_erase_ne hname, hname]

/-- A list that has come to its end has every binding, once. -/
theorem listedBy_of_listed (hd : d.state.names.Nodup) {l : List ConnectionInfo}
    (h : ListedSoFar d.state.conns [] l) : d.directory.ListedBy l := by
  obtain ⟨done, statuses, hdone, hlen, rfl⟩ := h
  rw [List.append_nil] at hdone
  have hmap : ∀ {β : Type} (f : ConnectionInfo → β) (g : Connection → β),
      (∀ c b, f (info c b) = g c) → (List.zipWith info done statuses).map f = done.map g := by
    intro β f g hfg
    apply List.ext_getElem
    · simp [hlen]
    · intro j hj hj'
      simp [hfg]
  constructor
  · rw [hmap _ Connection.name fun _ _ => rfl, ← hdone]
    exact hd
  · intro name e
    rw [hmap _ (fun c => (c.name, c.entry)) fun _ _ => rfl, ← hdone]
    simp only [directory, State.find_eq_lookup, Option.map_eq_some_iff, List.mem_map,
      Prod.mk.injEq]
    constructor
    · rintro ⟨c, hc, rfl⟩
      obtain ⟨hmem, hname⟩ := (lookup_eq_some_iff hd).mp hc
      exact ⟨c, hmem, hname, rfl⟩
    · rintro ⟨c, hmem, hname, rfl⟩
      exact ⟨c, (lookup_eq_some_iff hd).mpr ⟨hmem, hname⟩, rfl⟩

/-- A reset that is under way is for a name that exists. -/
def ResetsBound (d : Daemon) : Prop :=
  ∀ client name, d.main.serving = some (client, .reset name) → d.state.exists_ name = true

/-- Going on with a list serves the list, or nobody. -/
theorem serving_listNext (d : Daemon) (rest : List Connection) (list : List ConnectionInfo)
    (client : ClientId) : (d.listNext rest list client).1.main.serving
      = if rest = [] then none else some (client, .list) := by
  cases rest <;> rfl

/-- After a reset nobody is served. -/
theorem serving_onCtlResult (d : Daemon) (name : String) (client : ClientId)
    (res : Option CtlReply) : (d.onCtlResult name client res).1.main.serving = none := by
  rw [main_onCtlResult]
  rfl

/-- Resets are for names that exist, along every run. -/
theorem resetsBound_of_run {ok : Daemon → DaemonInput → Prop} (h : machine.Run ok log d) :
    d.ResetsBound := by
  have hnone : ∀ {d : Daemon}, d.main.serving = none → d.ResetsBound := by
    intro d hd client name h
    rw [hd] at h
    cases h
  have hlist : ∀ (d : Daemon) rest list client, (d.listNext rest list client).1.ResetsBound := by
    intro d rest list client client' name h
    rw [serving_listNext] at h
    split at h <;> cases h
  have hkeep : ∀ {d d' : Daemon}, d.ResetsBound → d'.main = d.main → d'.state = d.state →
      d'.ResetsBound := by
    intro d d' h hmain hstate client name hserving
    rw [hstate]
    exact h client name (hmain ▸ hserving)
  refine h.invariant (P := fun _ d => d.ResetsBound) (hnone rfl) ?_
  intro log d i d' out _ hb _ hs
  cases step_cases hs with
  | accept => exact hkeep hb rfl rfl
  | acceptFailed => exact hb
  | ctrlC => exact hnone rfl
  | recvAdd => exact hnone rfl
  | recvAddRefused => exact hnone rfl
  | recvRemove => exact hnone rfl
  | recvRemoveNone => exact hnone rfl
  | recvList => exact hlist _ _ _ _
  | @recvReset n e events name client pty conn hm _ _ hfind =>
      intro client' name' h
      cases h
      rw [← State.find_isSome]
      exact congrArg Option.isSome hfind
  | recvResetNone => exact hnone rfl
  | recvClosed hm => exact hnone (congrArg MainPc.serving hm)
  | recvClosedNone => exact hkeep hb rfl rfl
  | listGone => exact hlist _ _ _ _
  | listAsk =>
      intro client name h
      cases h
  | listTold => exact hlist _ _ _ _
  | listDropped => exact hlist _ _ _ _
  | ctlGone => exact hnone (serving_onCtlResult _ _ _ _)
  | @ctlAsk name ctl conn client d₁ hm _ hreq =>
      obtain ⟨sp, q, -, -, rfl⟩ := request_some hreq
      intro client' name' h
      cases h
      exact hb client name (by rw [hm]; rfl)
  | ctlTold => exact hnone (serving_onCtlResult _ _ _ _)
  | ctlDropped => exact hnone (serving_onCtlResult _ _ _ _)
  | clientRead => exact hkeep hb rfl rfl
  | clientSend => exact hkeep hb rfl rfl
  | clientWritten => exact hkeep hb rfl rfl
  | task => exact hkeep hb rfl rfl

/-! ## Every step is atomic -/

/-- What a step of the daemon is on the directory. -/
abbrev AtomicStep (d : Daemon) (out : List DaemonObs) (d' : Daemon) : Prop :=
  Atomic Directory.Does d.directory d.main.serving (out.filterMap DaemonObs.mark) d'.directory
    d'.main.serving

/-- A step that is not seen. -/
theorem AtomicStep.silent (hout : out.filterMap DaemonObs.mark = []) (hstate : d'.state = d.state)
    (hserving : d'.main.serving = d.main.serving) : AtomicStep d out d' := by
  rw [AtomicStep, hout, directory_congr hstate, hserving]
  exact .silent

/-- A request that is answered at once. -/
theorem AtomicStep.both {n : Nat} {e : Event} {req : DaemonRequest} {client : ClientId}
    {resp : DaemonResponse} (he : e.event = .cliCommand req client) (hm : d.main.serving = none)
    (hdoes : d.directory.Does (.call client req resp) d'.directory)
    (hm' : d'.main.serving = none) :
    AtomicStep d [.processed n e, .responded client resp] d' := by
  have hmarks : [DaemonObs.processed n e, .responded client resp].filterMap DaemonObs.mark
      = [.call client req, .ret client resp] := by simp [DaemonObs.mark, he]
  rw [AtomicStep, hmarks, hm, hm']
  exact .both hdoes

/-- A request that the main loop has to wait for. -/
theorem AtomicStep.call {n : Nat} {e : Event} {req : DaemonRequest} {client : ClientId}
    (he : e.event = .cliCommand req client) (hm : d.main.serving = none)
    (hstate : d'.state = d.state) (hm' : d'.main.serving = some (client, req)) :
    AtomicStep d [.processed n e] d' := by
  have hmarks : [DaemonObs.processed n e].filterMap DaemonObs.mark = [.call client req] := by
    simp [DaemonObs.mark, he]
  rw [AtomicStep, hmarks, hm, hm', directory_congr hstate]
  exact .call client req

/-- The request that the main loop waited for is answered. -/
theorem AtomicStep.ret {req : DaemonRequest} {client : ClientId} {resp : DaemonResponse}
    (hm : d.main.serving = some (client, req)) (hstate : d'.state = d.state)
    (hdoes : d.directory.Does (.call client req resp) d.directory)
    (hm' : d'.main.serving = none) : AtomicStep d [.responded client resp] d' := by
  have hmarks : [DaemonObs.responded client resp].filterMap DaemonObs.mark
      = [Mark.ret client resp] := rfl
  rw [AtomicStep, hmarks, hm, hm', directory_congr hstate]
  exact .ret hdoes

/-- The end of a connection. -/
theorem AtomicStep.closed {n : Nat} {e : Event} {name : String}
    (he : e.event = .connectionClosed name)
    (hdir : d'.directory = Function.update d.directory name none)
    (hserving : d'.main.serving = d.main.serving) : AtomicStep d [.processed n e] d' := by
  have hmarks : [DaemonObs.processed n e].filterMap DaemonObs.mark = [Mark.act name] := by
    simp [DaemonObs.mark, he]
  rw [AtomicStep, hmarks, hserving, hdir]
  exact .act (.closed name)

/-- The list goes on, or is answered. -/
theorem atomic_listNext (hd : d.state.names.Nodup) {conn : Connection} {rest : List Connection}
    {list : List ConnectionInfo} {client : ClientId} {connected : Bool}
    (hm : d.main.serving = some (client, .list))
    (hl : ListedSoFar d.state.conns (conn :: rest) list) :
    AtomicStep d (d.listAdd conn connected rest list client).2
      (d.listAdd conn connected rest list client).1 := by
  have hnext := hl.add connected
  unfold listAdd
  cases rest with
  | nil => exact .ret hm rfl (.list (listedBy_of_listed hd hnext)) rfl
  | cons conn' rest => exact .silent rfl rfl hm.symm

/-- A reset is answered. -/
theorem atomic_onCtlResult (hb : d.ResetsBound) {name : String} {client : ClientId}
    {res : Option CtlReply} (hm : d.main.serving = some (client, .reset name)) :
    AtomicStep d (d.onCtlResult name client res).2 (d.onCtlResult name client res).1 := by
  have hbound := hb client name hm
  rw [← isSome_directory] at hbound
  rw [onCtlResult_eq]
  exact .ret hm rfl (.reset hbound res) rfl

/-- `Add`, in one step. -/
theorem atomic_onAdd {n : Nat} {e : Event} {events : NumberedQueue Event 128} {name : String}
    {addr : UInt32} {port : UInt16} {client : ClientId} (pty : PtySetup) (hm : d.main = .select)
    (he : e.event = .cliCommand (.add name addr port) client) :
    AtomicStep d
      (.processed n e :: (respond ((d.took events).onAdd n name addr port pty).1 client
        ((d.took events).onAdd n name addr port pty).2).2)
      (respond ((d.took events).onAdd n name addr port pty).1 client
        ((d.took events).onAdd n name addr port pty).2).1 := by
  have hserving : d.main.serving = none := congrArg MainPc.serving hm
  cases hex : d.state.exists_ name with
  | true =>
      have hadd : (d.took events).onAdd n name addr port pty
          = (d.took events, .error s!"Connection with name '{name}' already exists") := if_pos hex
      rw [hadd]
      exact .both he hserving (.addTaken (by rw [isSome_directory, hex])) rfl
  | false =>
      have hfree := directory_eq_none hex
      have hnot : ¬ ((d.took events).state.exists_ name = true) := Bool.eq_false_iff.mp hex
      have hfail : ∀ what, what ∈ Directory.ptyCalls → AtomicStep d
          [.processed n e, .responded client (.error (ptyError what))]
          (respond (d.took events) client (.error (ptyError what))).1 := fun what hwhat =>
        .both he hserving (.addFailed hfree hwhat) rfl
      unfold onAdd
      rw [if_neg hnot]
      cases pty with
      | ok path tio =>
          refine .both he hserving ?_ rfl
          have hnew : name ∉ d.state.toMap := fun h => hnot ((State.exists_iff _ _).mpr h)
          have hins := directory_insert ((d.took events).buildAndSpawn n name addr port
            (AsyncPty.new tio) path) (State.toMap_add hnew)
          exact hins ▸ .add path hfree
      | openFailed => exact hfail _ (by decide)
      | grantFailed => exact hfail _ (by decide)
      | unlockFailed => exact hfail _ (by decide)
      | ptsnameFailed => exact hfail _ (by decide)
      | asyncFailed => exact hfail _ (by decide)

/-- `Remove`, in one step. -/
theorem atomic_onRemove (hd : d.state.names.Nodup) {n : Nat} {e : Event}
    {events : NumberedQueue Event 128} {name : String} {client : ClientId}
    (hm : d.main = .select) (he : e.event = .cliCommand (.remove name) client) :
    AtomicStep d
      (.processed n e :: (respond ((d.took events).onRemove name).1 client
        ((d.took events).onRemove name).2).2)
      (respond ((d.took events).onRemove name).1 client ((d.took events).onRemove name).2).1 := by
  have hserving : d.main.serving = none := congrArg MainPc.serving hm
  have hstate : (d.took events).state = d.state := rfl
  unfold onRemove remove
  rw [hstate]
  cases hrem : d.state.remove name with
  | none =>
      have hnone : d.directory name = none := by
        refine directory_eq_none ?_
        rw [← State.remove_isSome, hrem]
        rfl
      exact .both he hserving (.removeNone hnone) rfl
  | some r =>
      obtain ⟨conn, state⟩ := r
      have hsome : (d.directory name).isSome = true := by
        rw [isSome_directory, ← State.remove_isSome, hrem]
        rfl
      have herase := directory_erase (shutdown { d.took events with state := state } conn)
        (State.toMap_of_remove hd hrem)
      refine .both he hserving ?_ rfl
      exact herase ▸ .remove hsome

/-- Removing a connection leaves the main loop where it is. -/
theorem main_remove (d : Daemon) (name : String) : (d.remove name).1.main = d.main := by
  unfold remove
  split <;> rfl

/-- The main loop takes an event, in one step. -/
theorem atomic_onEvent (hd : d.state.names.Nodup) {n : Nat} {e : Event}
    {events : NumberedQueue Event 128} (pty : PtySetup) (hm : d.main = .select) :
    AtomicStep d (.processed n e :: ((d.took events).onEvent n e pty).2)
      ((d.took events).onEvent n e pty).1 := by
  have hserving : d.main.serving = none := congrArg MainPc.serving hm
  unfold onEvent
  cases he : e.event with
  | connectionClosed name =>
      exact .closed he (directory_erase _ (toMap_remove (d := d.took events) hd name).1)
        (congrArg MainPc.serving (main_remove (d.took events) name))
  | cliCommand req client =>
      cases req with
      | add name addr port => exact atomic_onAdd pty hm he
      | remove name => exact atomic_onRemove hd hm he
      | list =>
          simp only [handleDaemonRequest]
          cases hconns : (d.took events).state.conns with
          | nil =>
              have hlisted : ListedSoFar d.state.conns [] [] := ⟨[], [], hconns, rfl, rfl⟩
              exact .both he hserving (.list (listedBy_of_listed hd hlisted)) rfl
          | cons conn rest => exact .call he hserving rfl rfl
      | reset name =>
          simp only [handleDaemonRequest]
          cases hfind : (d.took events).state.find name with
          | none =>
              have hnone : d.directory name = none := congrArg (Option.map Connection.entry) hfind
              exact .both he hserving (.resetNone hnone) rfl
          | some conn => exact .call he hserving rfl rfl

/-- **Every step of the daemon is atomic on its directory.** -/
theorem atomic_step (hd : d.state.names.Nodup) (hl : d.Listing) (hb : d.ResetsBound)
    (hs : d.step i = some (d', out)) : AtomicStep d out d' := by
  cases i with
  | recv pty =>
      obtain ⟨n, e, events, hm, -, rfl, rfl⟩ := step_recv hs
      exact atomic_onEvent hd pty hm
  | goOn =>
      cases step_cases hs with
      | listGone hm =>
          rw [Listing, hm] at hl
          exact atomic_listNext hd (congrArg MainPc.serving hm) hl
      | listAsk hm _ hreq =>
          obtain ⟨sp, q, -, -, rfl⟩ := request_some hreq
          exact .silent rfl rfl (congrArg MainPc.serving hm).symm
      | listTold hm =>
          rw [Listing, hm] at hl
          exact atomic_listNext hd (congrArg MainPc.serving hm) hl
      | listDropped hm =>
          rw [Listing, hm] at hl
          exact atomic_listNext hd (congrArg MainPc.serving hm) hl
      | ctlGone hm => exact atomic_onCtlResult hb (congrArg MainPc.serving hm)
      | @ctlAsk name ctl conn client d₁ hm _ hreq =>
          obtain ⟨sp, q, -, -, rfl⟩ := request_some hreq
          exact .silent rfl rfl (congrArg MainPc.serving hm).symm
      | ctlTold hm => exact atomic_onCtlResult hb (congrArg MainPc.serving hm)
      | ctlDropped hm => exact atomic_onCtlResult hb (congrArg MainPc.serving hm)
  | accept ok => cases step_cases hs <;> exact .silent rfl rfl rfl
  | ctrlC =>
      cases step_cases hs with
      | ctrlC hm => exact .silent rfl rfl (congrArg MainPc.serving hm).symm
  | clientRead => cases step_cases hs; exact .silent rfl rfl rfl
  | clientSend => cases step_cases hs; exact .silent rfl rfl rfl
  | clientWritten => cases step_cases hs; exact .silent rfl rfl rfl
  | task k ti =>
      cases step_cases hs with
      | task =>
          refine .silent ?_ rfl rfl
          rw [List.filterMap_map]
          exact List.filterMap_eq_nil_iff.mpr fun _ _ => rfl

/-- The operations of a run: the requests with their responses, and the connections that ended. -/
def operations (log : List DaemonObs) : Pairing ClientId DaemonRequest DaemonResponse String :=
  pairing (log.filterMap DaemonObs.mark)

/-- The operations of a run are a legal history. -/
theorem operations_legal {ok : Daemon → DaemonInput → Prop} (h : machine.Run ok log d) :
    (operations log).pending = d.main.serving ∧
      Legal Directory.Does Directory.empty (operations log).ops d.directory := by
  refine h.legal DaemonObs.mark directory (fun d => d.main.serving) rfl ?_
  intro log d i d' out hr _ hs
  obtain ⟨hd, hl⟩ := named_of_run hr
  exact atomic_step hd hl (resetsBound_of_run hr) hs

/-- **The control plane is atomic.** In every run, however the requests of the clients, the steps of
the connection tasks and their ends interleave, the requests and their responses are a legal history
of the directory: each is carried out in one step, one after the other in the order in which they
were answered, and the directory that results is what the daemon keeps. A list, although it takes
many steps, has every name once, and has it exactly if it was added, to just that address, port and
path, and not removed or ended since. -/
theorem control_plane_atomic (h : machine.Reaches log d) :
    (operations log).pending = d.main.serving ∧
      Legal Directory.Does Directory.empty (operations log).ops d.directory ∧
      ∀ pre client l post, (operations log).ops = pre ++ .call client .list (.list l) :: post →
        (l.map ConnectionInfo.name).Nodup ∧
          ∀ name e, (name, e) ∈ (l.map fun c => (c.name, c.entry)) ↔
            Directory.BoundBy pre name e := by
  obtain ⟨hpending, hlegal⟩ := operations_legal h
  refine ⟨hpending, hlegal, ?_⟩
  intro pre client l post hops
  rw [hops] at hlegal
  obtain ⟨m, m', hpre, hdoes, -⟩ := hlegal.around
  cases hdoes with
  | list hlisted =>
      refine ⟨hlisted.1, fun name e => ?_⟩
      rw [← hlisted.2 name e]
      exact Directory.boundBy_iff hpre name e

/-- A connection is added, a client asks for the list, the device of the connection is connected
while the list is made, and the connection is removed. -/
theorem control_plane_atomic_list : ∃ log d, machine.Reaches log d ∧
    (operations log).ops = [.call 0 (.add "a" 1 2) (.addOk "/dev/pts/0"),
      .call 1 .list (.list [⟨"a", 1, 2, "/dev/pts/0", true⟩]), .call 0 (.remove "a") .removeOk] ∧
    Legal Directory.Does Directory.empty (operations log).ops d.directory := by
  have hrun : machine.Reaches _ _ :=
    Machine.Reaches.init.exec [.accept true, .accept true,
      .clientRead 0 (.request (.add "a" 1 2)), .clientSend 0,
      .recv (.ok "/dev/pts/0" ⟨0, 0, .B9600⟩), .clientWritten 0 true, .task 0 .resume,
      .clientRead 1 (.request .list), .clientSend 1, .clientRead 0 (.request (.remove "a")),
      .clientSend 0, .recv .openFailed, .goOn, .task 0 .sleepElapsed, .task 0 (.connect .ok),
      .task 0 .resume, .task 0 (.ctlReq (.status 0)), .goOn, .recv .openFailed] rfl
  exact ⟨_, _, hrun, rfl, (control_plane_atomic hrun).2.1⟩

end Daemon

end TcpUart
