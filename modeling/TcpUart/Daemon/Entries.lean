import TcpUart.Daemon.ConnectionInvariant
import TcpUart.Daemon.MainLoopStep

/-! # The entries of `State` and the tasks they belong to
Entries are found by name, tasks are told apart by number: `Connection::shutdown` reaches a task,
`ConnectionClosed` only names one. `EntryEffect` says what a step of the daemon does to the entries,
to the standing of the tasks and to the event channel; `Entries` is the invariant that ties the three
together.

* `no_orphans` — a task that was not told to shut down has its entry, and an entry belongs to a
  task that is running or whose end is still to be heard of.
* `entry_leaves` — an entry leaves `State` on a later `Remove` or on the end of its own task, if no
  name is taken again before the last task of that name is done with.
* `stale_event_removes` — otherwise the end of an older task of that name removes it. -/

namespace TcpUart

open Reactive

/-! ## The standing of a task -/

/-- A task keeps its name. -/
theorem ConnectionTask.Step.connName_eq {t t' : ConnectionTask} {i : TaskInput}
    {out : List TaskObs} (hs : Sound t) (h : Step t i t' out) : t'.connName = t.connName := by
  cases h with
  | overflow hpc hnext => exact absurd hnext (hs.nextBackoff_ne_none hpc)
  | _ => rfl

/-- Only the await of `event_tx.send` is the last one. -/
theorem ConnectionTask.Step.exited_iff {t t' : ConnectionTask} {i : TaskInput}
    {out : List TaskObs} (hs : Sound t) (h : Step t i t' out) (hi : i ≠ .notified) :
    t'.pc = .exited ↔ t.pc = .exited := by
  cases h with
  | overflow hpc hnext => exact absurd hnext (hs.nextBackoff_ne_none hpc)
  | notified => exact absurd rfl hi
  | stop hpc =>
      refine ⟨nofun, fun h => ?_⟩
      rw [h] at hpc
      rcases hpc with hpc | hpc
      · cases hpc
      · exact hpc.elim
  | _ => simp_all [enter, again, afterReadv]

/-- Replacing an item by one that looks the same. -/
theorem map_set_eq {α β : Type*} {f : α → β} {l : List α} {k : Nat} {a a' : α}
    (hk : l[k]? = some a) (h : f a' = f a) : (l.set k a').map f = l.map f := by
  apply List.ext_getElem?
  intro j
  rw [List.getElem?_map, List.getElem?_map]
  by_cases hj : k = j
  · subst hj
    have hlt := (List.getElem?_eq_some_iff.mp hk).1
    rw [List.getElem?_set_self hlt, hk, Option.map_some, Option.map_some, h]
  · rw [List.getElem?_set_ne hj]

/-- Changing an item, seen through `f`. -/
theorem map_modify_eq {α β : Type*} {f : α → β} {g : α → α} {g' : β → β}
    (h : ∀ a, f (g a) = g' (f a)) {l : List α} {k : Nat} :
    (l.modify k g).map f = (l.map f).modify k g' := by
  apply List.ext_getElem?
  intro j
  rw [List.getElem?_map, List.getElem?_modify, List.getElem?_modify, List.getElem?_map]
  cases l[j]? with
  | none => rfl
  | some a => by_cases hj : k = j <;> simp [hj, h]

/-- What matters of a connection task to the entry it belongs to. -/
structure Standing where
  /-- The name the task was spawned under. -/
  name : String
  /-- Whether it was told to shut down. -/
  signalled : Bool
  /-- Whether it has ended, its `ConnectionClosed` being on the channel or processed. -/
  ended : Bool

/-- The standing of a spawned task. -/
def Spawned.standing (sp : Spawned) : Standing :=
  ⟨sp.task.connName, sp.signalled, sp.task.pc = .exited⟩

namespace Daemon

/-- The standing of every task, in the order they were spawned. -/
def roster (d : Daemon) : List Standing := d.tasks.map Spawned.standing

/-- Telling a task to shut down. -/
theorem roster_shutdown (d : Daemon) (conn : Connection) :
    (d.shutdown conn).roster
      = d.roster.modify conn.task fun st => { st with signalled := true } := by
  unfold roster shutdown
  apply map_modify_eq
  intro sp
  rfl

/-- Nothing that concerns entries changes. -/
structure SameEntries (d d' : Daemon) : Prop where
  /-- The entries. -/
  state_eq : d'.state = d.state
  /-- The tasks. -/
  tasks_eq : d'.tasks = d.tasks
  /-- The event channel. -/
  events_eq : d'.events = d.events

/-- Answering a client. -/
theorem sameEntries_respond (d : Daemon) (client : ClientId) (resp : DaemonResponse) :
    SameEntries d (d.respond client resp).1 := ⟨rfl, rfl, rfl⟩

/-- Going on with a list. -/
theorem sameEntries_listNext (d : Daemon) (rest : List Connection) (list : List ConnectionInfo)
    (client : ClientId) : SameEntries d (d.listNext rest list client).1 := by
  cases rest with
  | nil => exact sameEntries_respond d client _
  | cons conn rest => exact ⟨rfl, rfl, rfl⟩

/-- Going on after a reset. -/
theorem sameEntries_onCtlResult (d : Daemon) (name : String) (client : ClientId)
    (res : Option CtlReply) : SameEntries d (d.onCtlResult name client res).1 := by
  unfold onCtlResult
  split <;> exact sameEntries_respond d client _

/-- What a step does to entries, tasks and events. -/
inductive EntryEffect (d : Daemon) (i : DaemonInput) (d' : Daemon) (out : List DaemonObs) : Prop
  /-- Nothing. -/
  | quiet (hst : d'.state = d.state) (hro : d'.roster = d.roster) (hev : d'.events = d.events)
  /-- A client puts a request on the channel. -/
  | asked {req : DaemonRequest} {client : ClientId} (hst : d'.state = d.state)
      (hro : d'.roster = d.roster)
      (hev : d.events.push ⟨.cliCommand req client, none⟩ = some d'.events)
  /-- A task ends and says so. -/
  | ended {k : TaskId} {st : Standing} (hst : d'.state = d.state) (hk : d.roster[k]? = some st)
      (hend : st.ended = false) (hro : d'.roster = d.roster.set k { st with ended := true })
      (hev : d.events.push ⟨.connectionClosed st.name, some k⟩ = some d'.events)
  /-- An event is processed and no entry changes. -/
  | processed {n : Nat} {e : Event} (hst : d'.state = d.state) (hro : d'.roster = d.roster)
      (hpop : d.events.pop = some ((n, e), d'.events))
      (hno : ∀ name, e.event = .connectionClosed name → ∀ c ∈ d.state.conns, c.name ≠ name)
  /-- An entry is added. -/
  | added {n : Nat} {e : Event} {name : String} {addr : UInt32} {port : UInt16} {path : String}
      {client : ClientId} {tio : Termios} (hi : i = .recv (.ok path tio))
      (hpop : d.events.pop = some ((n, e), d'.events))
      (he : e.event = .cliCommand (.add name addr port) client)
      (hex : d.state.exists_ name = false)
      (hst : d'.state = d.state.add ⟨name, addr, port, path, d.roster.length, n⟩)
      (hro : d'.roster = d.roster ++ [⟨name, false, false⟩])
  /-- An entry is removed, and its task told to shut down. -/
  | removed {n : Nat} {e : Event} {name : String} {conn : Connection}
      (hpop : d.events.pop = some ((n, e), d'.events)) (hobs : .processed n e ∈ out)
      (he : (∃ client, e.event = .cliCommand (.remove name) client) ∨
        e.event = .connectionClosed name)
      (hrem : d.state.remove name = some (conn, d'.state))
      (hro : d'.roster = d.roster.modify conn.task fun st => { st with signalled := true })

/-! ## Tasks are sound -/

/-- Where a task after a step comes from. -/
inductive TaskFrom (d : Daemon) (t : ConnectionTask) : Prop
  /-- It did not move. -/
  | same {sp : Spawned} (hsp : sp ∈ d.tasks) (ht : t = sp.task)
  /-- It took a step. -/
  | moved {sp : Spawned} {i : TaskInput} {out : List TaskObs} (hsp : sp ∈ d.tasks)
      (hs : sp.task.step i = some (t, out))
  /-- It was spawned. -/
  | spawned {name : String} {addr : UInt32} {port : UInt16} {master : AsyncPty}
      (ht : t = ConnectionTask.spawn name addr port master)

/-- Tasks of which one was replaced. -/
theorem mem_tasks_set {d : Daemon} {k : TaskId} {sp sp' : Spawned}
    (hsp' : TaskFrom d sp'.task) (h : sp ∈ d.tasks.set k sp') : TaskFrom d sp.task := by
  rcases List.mem_or_eq_of_mem_set h with h | rfl
  · exact .same h rfl
  · exact hsp'

/-- Tasks of which one was told to shut down. -/
theorem mem_tasks_shutdown {d : Daemon} {conn : Connection} {sp : Spawned}
    (h : sp ∈ (d.shutdown conn).tasks) : TaskFrom d sp.task := by
  obtain ⟨j, hj⟩ := List.mem_iff_getElem?.mp h
  rw [shutdown, List.getElem?_modify] at hj
  obtain ⟨sp₀, hsp₀, heq⟩ := Option.map_eq_some_iff.mp hj
  refine .same (List.mem_of_getElem? hsp₀) ?_
  split at heq <;> cases heq <;> rfl

/-- Every task after a step was there, or was spawned. -/
theorem Step.taskFrom {d d' : Daemon} {i : DaemonInput} {out : List DaemonObs}
    (h : Step d i d' out) {sp : Spawned} (hsp : sp ∈ d'.tasks) : TaskFrom d sp.task := by
  have hsame : ∀ {d₁ : Daemon}, SameEntries d d₁ → sp ∈ d₁.tasks → TaskFrom d sp.task :=
    fun h hsp => .same (h.tasks_eq ▸ hsp) rfl
  have hrequest : ∀ {d₁ : Daemon} {k : TaskId} {req : ConnectionTaskRequest},
      d.request k req = some d₁ → sp ∈ d₁.tasks → TaskFrom d sp.task := by
    intro d₁ k req hreq hsp
    obtain ⟨sp₀, q, hk, -, rfl⟩ := request_some hreq
    have hfrom : TaskFrom d ({ sp₀ with requests := q } : Spawned).task :=
      .same (List.mem_of_getElem? hk) rfl
    exact mem_tasks_set hfrom hsp
  cases h with
  | recvAdd =>
      rcases List.mem_append.mp hsp with hsp | hsp
      · exact .same hsp rfl
      · obtain rfl := List.mem_singleton.mp hsp
        exact .spawned rfl
  | recvRemove => exact mem_tasks_shutdown (d := { d with state := _ }) hsp
  | recvClosed => exact mem_tasks_shutdown (d := { d with state := _ }) hsp
  | recvList =>
      rw [(sameEntries_listNext _ _ _ _).tasks_eq] at hsp
      exact .same hsp rfl
  | listGone => exact hsame (sameEntries_listNext _ _ _ _) hsp
  | listAsk hm hg hreq => exact hrequest hreq hsp
  | listTold => exact hsame (sameEntries_listNext _ _ _ _) hsp
  | listDropped => exact hsame (sameEntries_listNext _ _ _ _) hsp
  | ctlGone => exact hsame (sameEntries_onCtlResult _ _ _ _) hsp
  | ctlAsk hm hg hreq => exact hrequest hreq hsp
  | ctlTold => exact hsame (sameEntries_onCtlResult _ _ _ _) hsp
  | ctlDropped => exact hsame (sameEntries_onCtlResult _ _ _ _) hsp
  | task hk hch hs => exact mem_tasks_set (.moved (List.mem_of_getElem? hk) hs) hsp
  | _ => exact .same hsp rfl

/-- **The tasks of the daemon are sound.** -/
theorem sound_tasks {ok : Daemon → DaemonInput → Prop} {log : List DaemonObs} {d : Daemon}
    (h : machine.Run ok log d) : ∀ sp ∈ d.tasks, ConnectionTask.Sound sp.task := by
  refine h.invariant (P := fun _ d => ∀ sp ∈ d.tasks, ConnectionTask.Sound sp.task) ?_ ?_
  · intro sp hsp
    cases hsp
  · intro log d i d' out _ hsound _ hs sp hsp
    cases (step_cases hs).taskFrom hsp with
    | same hsp ht =>
        rw [ht]
        exact hsound _ hsp
    | moved hsp hs => exact (hsound _ hsp).step (ConnectionTask.step_cases hs)
    | spawned ht =>
        rw [ht]
        exact ConnectionTask.Sound.spawn _ _ _ _

/-! ## What a step does to entries -/

/-- A step that changes nothing but clients and the main loop. -/
theorem SameEntries.entryEffect {d d' : Daemon} {i : DaemonInput} {out : List DaemonObs}
    (h : SameEntries d d') : EntryEffect d i d' out :=
  .quiet h.state_eq (by rw [roster, roster, h.tasks_eq]) h.events_eq

/-- An event that is processed and changes nothing but clients and the main loop. -/
theorem SameEntries.processed {d d' : Daemon} {i : DaemonInput} {n : Nat} {e : Event}
    {events : NumberedQueue Event 128} {out : List DaemonObs}
    (h : SameEntries (d.took events) d') (hpop : d.events.pop = some ((n, e), events))
    (hno : ∀ name, e.event = .connectionClosed name → ∀ c ∈ d.state.conns, c.name ≠ name) :
    EntryEffect d i d' out := by
  have hpop' : d.events.pop = some ((n, e), d'.events) := by
    rw [h.events_eq]
    exact hpop
  refine .processed h.state_eq ?_ hpop' hno
  rw [roster, roster, h.tasks_eq]
  rfl

/-- Asking a task changes no standing. -/
theorem EntryEffect.of_request {d d' : Daemon} {i : DaemonInput} {k : TaskId}
    {req : ConnectionTaskRequest} {main : MainPc} {out : List DaemonObs}
    (h : d.request k req = some d') : EntryEffect d i { d' with main := main } out := by
  obtain ⟨sp, q, hk, -, rfl⟩ := request_some h
  exact .quiet rfl (map_set_eq hk rfl) rfl

/-- A step of a connection task. -/
theorem EntryEffect.of_task {d : Daemon} {k : TaskId} {i : TaskInput} {sp : Spawned}
    {requests : BoundedQueue ConnectionTaskRequest 8} {events : NumberedQueue Event 128}
    {t' : ConnectionTask} {out : List TaskObs} {replies : List (ReplyId × TaskReply)}
    {obs : List DaemonObs} (hsound : ConnectionTask.Sound sp.task) (hk : d.tasks[k]? = some sp)
    (hch : d.channels k sp i = some (requests, events)) (hs : sp.task.step i = some (t', out)) :
    EntryEffect d (.task k i)
      { d with
        tasks := d.tasks.set k { sp with task := t', requests := requests }
        events := events
        replies := replies } obs := by
  have hstep := ConnectionTask.step_cases hs
  have hname := hstep.connName_eq hsound
  -- a task that does not put its end on the event channel has not ended now
  have hquiet : events = d.events → i ≠ .notified → EntryEffect d (.task k i)
      { d with
        tasks := d.tasks.set k { sp with task := t', requests := requests }
        events := events
        replies := replies } obs := by
    intro hev hi
    refine .quiet rfl (map_set_eq hk ?_) hev
    have hexit := hstep.exited_iff hsound hi
    simp [Spawned.standing, hname, hexit]
  cases channels_cases hch with
  | shutdown => exact hquiet rfl nofun
  | ctlClosed => exact hquiet rfl nofun
  | ctlReq => exact hquiet rfl nofun
  | other _ hn => exact hquiet rfl hn
  | notified hpush =>
      have hpc : sp.task.pc = .shutdownSend ∧ t'.pc = .exited := by
        cases hstep with
        | notified hpc => exact ⟨hpc, rfl⟩
        | stop hpc hi => rcases hi with hi | hi <;> cases hi
      have hk' : d.roster[k]? = some sp.standing := by
        rw [roster, List.getElem?_map, hk]
        rfl
      refine .ended rfl hk' ?_ ?_ hpush
      · rw [Spawned.standing, hpc.1]
        rfl
      · rw [roster, List.map_set]
        congr 1
        simp [Spawned.standing, hname, hpc.2]

/-- **Every step has one of these effects**, if the tasks are sound. -/
theorem Step.entryEffect {d d' : Daemon} {i : DaemonInput} {out : List DaemonObs}
    (hsound : ∀ sp ∈ d.tasks, ConnectionTask.Sound sp.task) (h : Step d i d' out) :
    EntryEffect d i d' out := by
  -- what the main loop processes is a command, unless it says otherwise
  have hcmd : ∀ {e : Event} {req : DaemonRequest} {client : ClientId},
      e.event = .cliCommand req client →
      ∀ name, e.event = .connectionClosed name → ∀ c ∈ d.state.conns, c.name ≠ name := by
    intro e req client he name he'
    rw [he] at he'
    cases he'
  cases h with
  | accept => exact .quiet rfl rfl rfl
  | acceptFailed => exact .quiet rfl rfl rfl
  | ctrlC => exact .quiet rfl rfl rfl
  | @recvAdd n e events name addr port client slaveName tio hm hpop he hex =>
      have hconn : d.state.add ⟨name, addr, port, slaveName, d.tasks.length, n⟩
          = d.state.add ⟨name, addr, port, slaveName, d.roster.length, n⟩ := by
        rw [roster, List.length_map]
      exact .added rfl hpop he hex hconn List.map_append
  | recvAddRefused text hm hpop he =>
      exact (sameEntries_respond _ _ _).processed hpop (hcmd he)
  | @recvRemove n e events name client pty conn state hm hpop he hrem =>
      exact .removed hpop List.mem_cons_self (.inl ⟨client, he⟩) hrem (roster_shutdown _ conn)
  | recvRemoveNone hm hpop he => exact (sameEntries_respond _ _ _).processed hpop (hcmd he)
  | recvList hm hpop he => exact (sameEntries_listNext _ _ _ _).processed hpop (hcmd he)
  | recvReset hm hpop he =>
      exact SameEntries.processed ⟨rfl, rfl, rfl⟩ hpop (hcmd he)
  | recvResetNone hm hpop he => exact (sameEntries_respond _ _ _).processed hpop (hcmd he)
  | @recvClosed n e events name pty conn state hm hpop he hrem =>
      exact .removed hpop List.mem_cons_self (.inr he) hrem (roster_shutdown _ conn)
  | @recvClosedNone n e events name pty hm hpop he hrem =>
      refine SameEntries.processed ⟨rfl, rfl, rfl⟩ hpop fun name' he' c hc => ?_
      rw [he] at he'
      cases he'
      exact State.remove_none hrem hc
  | listGone => exact (sameEntries_listNext _ _ _ _).entryEffect
  | listAsk hm hg hreq => exact .of_request hreq
  | listTold => exact (sameEntries_listNext _ _ _ _).entryEffect
  | listDropped => exact (sameEntries_listNext _ _ _ _).entryEffect
  | ctlGone => exact (sameEntries_onCtlResult _ _ _ _).entryEffect
  | ctlAsk hm hg hreq => exact .of_request hreq
  | ctlTold => exact (sameEntries_onCtlResult _ _ _ _).entryEffect
  | ctlDropped => exact (sameEntries_onCtlResult _ _ _ _).entryEffect
  | clientRead => exact .quiet rfl rfl rfl
  | clientSend hc hpush => exact .asked rfl rfl hpush
  | clientWritten => exact .quiet rfl rfl rfl
  | task hk hch hs => exact .of_task (hsound _ (List.mem_of_getElem? hk)) hk hch hs

/-! ## The invariant -/

/-- Which task goes by which name, and whether it was told to shut down. -/
def owners (r : List Standing) : List (String × Bool) := r.map fun st => (st.name, st.signalled)

/-- Which task goes by which name, and whether it has ended. -/
def ends (r : List Standing) : List (String × Bool) := r.map fun st => (st.name, st.ended)

/-- The end of a task does not tell it to shut down. -/
theorem owners_ended {r : List Standing} {k : TaskId} {st : Standing} (hk : r[k]? = some st) :
    owners (r.set k { st with ended := true }) = owners r :=
  map_set_eq hk rfl

/-- The end of a task. -/
theorem ends_ended (r : List Standing) (k : TaskId) (st : Standing) :
    ends (r.set k { st with ended := true }) = (ends r).set k (st.name, true) :=
  List.map_set

/-- Telling a task to shut down. -/
theorem owners_signalled (r : List Standing) (k : TaskId) :
    owners (r.modify k fun st => { st with signalled := true })
      = (owners r).modify k fun o => (o.1, true) := by
  unfold owners
  apply map_modify_eq
  intro st
  rfl

/-- Telling a task to shut down does not end it. -/
theorem ends_signalled (r : List Standing) (k : TaskId) :
    ends (r.modify k fun st => { st with signalled := true }) = ends r := by
  rw [← List.modify_id k (ends r)]
  unfold ends
  apply map_modify_eq
  intro st
  rfl

/-- Entries and tasks that were not told to shut down belong together. -/
structure Owned (conns : List Connection) (owners : List (String × Bool)) : Prop where
  /-- The task of an entry has its name and was not told to shut down. -/
  known : ∀ c ∈ conns, owners[c.task]? = some (c.name, false)
  /-- Names are pairwise distinct. -/
  names : conns.Pairwise fun c c' => c.name ≠ c'.name
  /-- A task that was not told to shut down has its entry. -/
  kept : ∀ k name, owners[k]? = some (name, false) → ∃ c ∈ conns, c.task = k

/-- An entry is added for a new task. -/
theorem Owned.added {s : State} {owners : List (String × Bool)} (h : Owned s.conns owners)
    {c : Connection} (hex : s.exists_ c.name = false) (hc : c.task = owners.length) :
    Owned (s.add c).conns (owners ++ [(c.name, false)]) := by
  refine ⟨?_, ?_, ?_⟩
  · intro c' hc'
    rcases List.mem_append.mp hc' with hc' | hc'
    · have hold := h.known c' hc'
      rwa [List.getElem?_append_left (List.getElem?_eq_some_iff.mp hold).1]
    · obtain rfl := List.mem_singleton.mp hc'
      rw [hc, List.getElem?_concat_length]
  · rw [State.add, List.pairwise_append]
    refine ⟨h.names, List.pairwise_singleton _ _, ?_⟩
    intro c₁ hc₁ c₂ hc₂
    obtain rfl := List.mem_singleton.mp hc₂
    exact State.name_ne_of_exists hex hc₁
  · intro k name hk
    by_cases hlt : k < owners.length
    · rw [List.getElem?_append_left hlt] at hk
      obtain ⟨c', hc', htask⟩ := h.kept k name hk
      exact ⟨c', List.mem_append_left _ hc', htask⟩
    · have hle := (List.getElem?_eq_some_iff.mp hk).1
      rw [List.length_append, List.length_singleton] at hle
      have hk' : k = owners.length := Nat.le_antisymm (Nat.le_of_lt_succ hle) (Nat.le_of_not_lt hlt)
      exact ⟨c, List.mem_append_right _ (List.mem_singleton_self c), hc.trans hk'.symm⟩

/-- An entry that remains has another name than the one that is removed. -/
theorem Owned.name_ne {s s' : State} {owners : List (String × Bool)} (h : Owned s.conns owners)
    {name : String} {conn : Connection} (hrem : s.remove name = some (conn, s')) {c : Connection}
    (hc : c ∈ s'.conns) : c.name ≠ conn.name := by
  have hperm := (State.remove_some hrem).2
  have hpair := (hperm.pairwise_iff fun {c c'} (hne : c.name ≠ c'.name) => hne.symm).mpr h.names
  exact ((List.pairwise_cons.mp hpair).1 c hc).symm

/-- An entry is removed and its task told to shut down. -/
theorem Owned.removed {s s' : State} {owners : List (String × Bool)} (h : Owned s.conns owners)
    {name : String} {conn : Connection} (hrem : s.remove name = some (conn, s')) :
    Owned s'.conns (owners.modify conn.task fun o => (o.1, true)) := by
  have hperm := (State.remove_some hrem).2
  have hmem : ∀ {c : Connection}, c ∈ s'.conns → c ∈ s.conns := fun hc =>
    hperm.subset (List.mem_cons_of_mem _ hc)
  have hconn := h.known conn (hperm.subset List.mem_cons_self)
  refine ⟨?_, ?_, ?_⟩
  · intro c hc
    have hown := h.known c (hmem hc)
    -- two entries of one task would have one name
    have hne : conn.task ≠ c.task := by
      intro heq
      rw [← heq, hconn] at hown
      exact h.name_ne hrem hc (congrArg Prod.fst (Option.some.inj hown)).symm
    rwa [List.getElem?_modify_ne _ _ hne]
  · have hpair := (hperm.pairwise_iff fun {c c'} (hne : c.name ≠ c'.name) => hne.symm).mpr h.names
    exact (List.pairwise_cons.mp hpair).2
  · intro k name' hk
    have hne : conn.task ≠ k := by
      rintro rfl
      rw [List.getElem?_modify_eq, hconn] at hk
      cases hk
    rw [List.getElem?_modify_ne _ _ hne] at hk
    obtain ⟨c, hc, htask⟩ := h.kept k name' hk
    rcases List.mem_cons.mp (hperm.symm.subset hc) with rfl | hc'
    · exact absurd htask hne
    · exact ⟨c, hc', htask⟩

/-- The event by which task `k` says that it has ended. -/
def closing (name : String) (k : TaskId) : Event := ⟨.connectionClosed name, some k⟩

/-- Tasks that have ended, and what is on the channel about them. -/
structure Heard (conns : List Connection) (ends : List (String × Bool))
    (items : List (Nat × Event)) : Prop where
  /-- The end of a task that has its entry is still to be heard of. -/
  told : ∀ c ∈ conns, ends[c.task]? = some (c.name, true) →
    ∃ n, (n, closing c.name c.task) ∈ items
  /-- An event that a task sent says that it has ended, by its name. -/
  origin : ∀ x ∈ items, ∀ k, x.2.origin = some k →
    ∃ name, ends[k]? = some (name, true) ∧ x.2 = closing name k
  /-- Only tasks say that. -/
  sender : ∀ x ∈ items, ∀ name, x.2.event = .connectionClosed name → x.2.origin ≠ none

/-- A client puts a request on the channel. -/
theorem Heard.asked {conns : List Connection} {ends : List (String × Bool)}
    {items : List (Nat × Event)} (h : Heard conns ends items) (n : Nat) (req : DaemonRequest)
    (client : ClientId) : Heard conns ends (items ++ [(n, ⟨.cliCommand req client, none⟩)]) := by
  refine ⟨?_, ?_, ?_⟩
  · intro c hc hend
    obtain ⟨m, hm⟩ := h.told c hc hend
    exact ⟨m, List.mem_append_left _ hm⟩
  · intro x hx k hk
    rcases List.mem_append.mp hx with hx | hx
    · exact h.origin x hx k hk
    · obtain rfl := List.mem_singleton.mp hx
      cases hk
  · intro x hx name hname
    rcases List.mem_append.mp hx with hx | hx
    · exact h.sender x hx name hname
    · obtain rfl := List.mem_singleton.mp hx
      cases hname

/-- A task ends and says so. -/
theorem Heard.ended {conns : List Connection} {ends : List (String × Bool)}
    {items : List (Nat × Event)} (h : Heard conns ends items) {k : TaskId} {name : String}
    (hk : ends[k]? = some (name, false)) (n : Nat) :
    Heard conns (ends.set k (name, true)) (items ++ [(n, closing name k)]) := by
  have hself : (ends.set k (name, true))[k]? = some (name, true) :=
    List.getElem?_set_self (List.getElem?_eq_some_iff.mp hk).1
  refine ⟨?_, ?_, ?_⟩
  · intro c hc hend
    by_cases hck : k = c.task
    · subst hck
      rw [hself] at hend
      cases hend
      exact ⟨n, List.mem_append_right _ (List.mem_singleton_self _)⟩
    · rw [List.getElem?_set_ne hck] at hend
      obtain ⟨m, hm⟩ := h.told c hc hend
      exact ⟨m, List.mem_append_left _ hm⟩
  · intro x hx j hj
    rcases List.mem_append.mp hx with hx | hx
    · obtain ⟨name', hend, hx'⟩ := h.origin x hx j hj
      -- the task that ends now has not said anything yet
      have hne : k ≠ j := by
        rintro rfl
        rw [hk] at hend
        cases hend
      exact ⟨name', by rwa [List.getElem?_set_ne hne], hx'⟩
    · obtain rfl := List.mem_singleton.mp hx
      cases hj
      exact ⟨name, hself, rfl⟩
  · intro x hx name' hname
    rcases List.mem_append.mp hx with hx | hx
    · exact h.sender x hx name' hname
    · obtain rfl := List.mem_singleton.mp hx
      exact Option.some_ne_none k

/-- An event is processed, and the entries that remain are not of the name it closes. -/
theorem Heard.processed {conns conns' : List Connection} {ends : List (String × Bool)}
    {x : Nat × Event} {items : List (Nat × Event)} (h : Heard conns ends (x :: items))
    (hsub : ∀ c ∈ conns', c ∈ conns)
    (hno : ∀ name, x.2.event = .connectionClosed name → ∀ c ∈ conns', c.name ≠ name) :
    Heard conns' ends items := by
  refine ⟨?_, fun y hy => h.origin y (List.mem_cons_of_mem x hy),
    fun y hy => h.sender y (List.mem_cons_of_mem x hy)⟩
  intro c hc hend
  obtain ⟨n, hn⟩ := h.told c (hsub c hc) hend
  rcases List.mem_cons.mp hn with rfl | hn
  · exact absurd rfl (hno c.name rfl c hc)
  · exact ⟨n, hn⟩

/-- An entry is added for a task that is new. -/
theorem Heard.added {s : State} {ends : List (String × Bool)} {items : List (Nat × Event)}
    (h : Heard s.conns ends items) {c : Connection} (hc : c.task = ends.length) :
    Heard (s.add c).conns (ends ++ [(c.name, false)]) items := by
  refine ⟨?_, ?_, h.sender⟩
  · intro c' hc' hend
    -- a task that has ended is not the new one
    have hlt : c'.task < ends.length := by
      by_contra hge
      have hlt' := (List.getElem?_eq_some_iff.mp hend).1
      rw [List.length_append, List.length_singleton] at hlt'
      have heq : c'.task = ends.length :=
        Nat.le_antisymm (Nat.le_of_lt_succ hlt') (Nat.le_of_not_lt hge)
      rw [heq, List.getElem?_concat_length] at hend
      exact absurd (congrArg Prod.snd (Option.some.inj hend)) Bool.false_ne_true
    rw [List.getElem?_append_left hlt] at hend
    rcases List.mem_append.mp hc' with hc' | hc'
    · exact h.told c' hc' hend
    · obtain rfl := List.mem_singleton.mp hc'
      exact absurd hc (Nat.ne_of_lt hlt)
  · intro x hx k hk
    obtain ⟨name, hend, hx'⟩ := h.origin x hx k hk
    exact ⟨name, by rwa [List.getElem?_append_left (List.getElem?_eq_some_iff.mp hend).1], hx'⟩

/-- The invariant of entries, tasks and events. -/
structure Entries (d : Daemon) : Prop where
  /-- Entries and tasks. -/
  owned : Owned d.state.conns (owners d.roster)
  /-- Tasks and events. -/
  heard : Heard d.state.conns (ends d.roster) d.events.items
  /-- Events on the channel were sent after the ones by which the entries were added. -/
  later : ∀ c ∈ d.state.conns, c.added < d.events.sent ∧ ∀ x ∈ d.events.items, c.added < x.1

/-- Every effect keeps the invariant. -/
theorem Entries.step {d d' : Daemon} {i : DaemonInput} {out : List DaemonObs} (h : Entries d)
    (heff : EntryEffect d i d' out) : Entries d' := by
  obtain ⟨howned, hheard, hlater⟩ := h
  cases heff with
  | quiet hst hro hev =>
      refine ⟨?_, ?_, ?_⟩
      · rwa [hst, hro]
      · rwa [hst, hro, hev]
      · rwa [hst, hev]
  | @asked req client hst hro hpush =>
      refine ⟨?_, ?_, ?_⟩
      · rwa [hst, hro]
      · rw [hst, hro, (NumberedQueue.items_of_push hpush).1]
        exact hheard.asked d.events.sent req client
      · rw [hst]
        exact fun c hc => NumberedQueue.after_push (hlater c hc) hpush
  | @ended k st hst hk hend hro hpush =>
      have hends : (ends d.roster)[k]? = some (st.name, false) := by
        rw [ends, List.getElem?_map, hk, Option.map_some, hend]
      refine ⟨?_, ?_, ?_⟩
      · rw [hst, hro, owners_ended hk]
        exact howned
      · rw [hst, hro, ends_ended, (NumberedQueue.items_of_push hpush).1]
        exact hheard.ended hends d.events.sent
      · rw [hst]
        exact fun c hc => NumberedQueue.after_push (hlater c hc) hpush
  | processed hst hro hpop hno =>
      rw [(NumberedQueue.items_of_pop hpop).1] at hheard
      refine ⟨?_, ?_, ?_⟩
      · rwa [hst, hro]
      · rw [hst, hro]
        exact hheard.processed (fun _ => id) hno
      · rw [hst]
        exact fun c hc => NumberedQueue.after_pop (hlater c hc) hpop
  | @added n e name addr port path client tio _ hpop he hex hst hro =>
      rw [(NumberedQueue.items_of_pop hpop).1] at hheard
      have hrest : Heard d.state.conns (ends d.roster) d'.events.items := by
        refine hheard.processed (fun _ => id) fun name' he' => ?_
        rw [he] at he'
        cases he'
      have hlen : (owners d.roster).length = d.roster.length := List.length_map _
      have hlen' : (ends d.roster).length = d.roster.length := List.length_map _
      have howners : owners d'.roster = owners d.roster ++ [(name, false)] := by
        rw [hro, owners, List.map_append]
        rfl
      have hends : ends d'.roster = ends d.roster ++ [(name, false)] := by
        rw [hro, ends, List.map_append]
        rfl
      refine ⟨?_, ?_, ?_⟩
      · rw [hst, howners]
        exact howned.added hex hlen.symm
      · rw [hst, hends]
        exact hrest.added hlen'.symm
      · rw [hst]
        intro c hc
        rcases List.mem_append.mp hc with hc | hc
        · exact NumberedQueue.after_pop (hlater c hc) hpop
        · obtain rfl := List.mem_singleton.mp hc
          obtain ⟨hlt, hall⟩ := NumberedQueue.lt_of_pop hpop
          rw [(NumberedQueue.items_of_pop hpop).2]
          exact ⟨hlt, hall⟩
  | @removed n e name conn hpop hobs he hrem hro =>
      have hperm := (State.remove_some hrem).2
      have hmem : ∀ c ∈ d'.state.conns, c ∈ d.state.conns := fun c hc =>
        hperm.subset (List.mem_cons_of_mem _ hc)
      rw [(NumberedQueue.items_of_pop hpop).1] at hheard
      refine ⟨?_, ?_, fun c hc => NumberedQueue.after_pop (hlater c (hmem c hc)) hpop⟩
      · rw [hro, owners_signalled]
        exact howned.removed hrem
      · rw [hro, ends_signalled]
        refine hheard.processed hmem fun name' he' c hc => ?_
        -- the one entry of the name that is closed is the one that is removed
        have hname : name' = conn.name := by
          rw [(State.remove_some hrem).1]
          rcases he with ⟨client, he⟩ | he
          · rw [he] at he'
            cases he'
          · rw [he] at he'
            cases he'
            rfl
        rw [hname]
        exact howned.name_ne hrem hc

/-- The invariant holds along every run. -/
theorem entries_of_run {ok : Daemon → DaemonInput → Prop} {log : List DaemonObs} {d : Daemon}
    (h : machine.Run ok log d) : Entries d := by
  refine h.invariant (P := fun _ d => Entries d) ?_ ?_
  · exact ⟨⟨nofun, List.Pairwise.nil, nofun⟩, ⟨nofun, nofun, nofun⟩, nofun⟩
  · intro log d i d' out hr hent _ hs
    exact hent.step ((step_cases hs).entryEffect (sound_tasks hr))

/-- When a name is taken, every earlier task of that name has ended and its `ConnectionClosed` has
been processed. -/
def NameSettled (d : Daemon) (i : DaemonInput) : Prop :=
  ∀ path tio n e events name addr port client, i = .recv (.ok path tio) →
    d.events.pop = some ((n, e), events) → e.event = .cliCommand (.add name addr port) client →
    d.state.exists_ name = false → ∀ k sp, d.tasks[k]? = some sp → sp.task.connName = name →
    sp.task.pc = .exited ∧ ∀ x ∈ d.events.items, x.2.origin ≠ some k

/-- Only its own task can still be heard of under the name of an entry. -/
def Sole (conns : List Connection) (ends : List (String × Bool)) (items : List (Nat × Event)) :
    Prop :=
  ∀ c ∈ conns, ∀ k ended, ends[k]? = some (c.name, ended) →
    k = c.task ∨ ended = true ∧ ∀ x ∈ items, x.2.origin ≠ some k

/-- Fewer entries and fewer events. -/
theorem Sole.mono {conns conns' : List Connection} {ends : List (String × Bool)}
    {items items' : List (Nat × Event)} (h : Sole conns ends items)
    (hconns : ∀ c ∈ conns', c ∈ conns) (hitems : ∀ x ∈ items', x ∈ items) :
    Sole conns' ends items' := by
  intro c hc k ended hk
  rcases h c (hconns c hc) k ended hk with heq | ⟨hend, hno⟩
  · exact .inl heq
  · exact .inr ⟨hend, fun x hx => hno x (hitems x hx)⟩

/-- A client's request is not the end of a task. -/
theorem Sole.asked {conns : List Connection} {ends : List (String × Bool)}
    {items : List (Nat × Event)} (h : Sole conns ends items) (n : Nat) (req : DaemonRequest)
    (client : ClientId) : Sole conns ends (items ++ [(n, ⟨.cliCommand req client, none⟩)]) := by
  intro c hc k ended hk
  rcases h c hc k ended hk with heq | ⟨hend, hno⟩
  · exact .inl heq
  · refine .inr ⟨hend, fun x hx => ?_⟩
    rcases List.mem_append.mp hx with hx | hx
    · exact hno x hx
    · obtain rfl := List.mem_singleton.mp hx
      nofun

/-- A task ends: if it has the name of an entry, it is the task of that entry. -/
theorem Sole.ended {conns : List Connection} {ends : List (String × Bool)}
    {items : List (Nat × Event)} (h : Sole conns ends items) {k : TaskId} {name : String}
    (hk : ends[k]? = some (name, false)) (n : Nat) :
    Sole conns (ends.set k (name, true)) (items ++ [(n, closing name k)]) := by
  intro c hc j ended hj
  by_cases hkj : k = j
  · subst hkj
    rw [List.getElem?_set_self (List.getElem?_eq_some_iff.mp hk).1] at hj
    have hname : name = c.name := congrArg Prod.fst (Option.some.inj hj)
    rw [hname] at hk
    rcases h c hc k false hk with heq | ⟨hend, -⟩
    · exact .inl heq
    · cases hend
  · rw [List.getElem?_set_ne hkj] at hj
    rcases h c hc j ended hj with heq | ⟨hend, hno⟩
    · exact .inl heq
    · refine .inr ⟨hend, fun x hx => ?_⟩
      rcases List.mem_append.mp hx with hx | hx
      · exact hno x hx
      · obtain rfl := List.mem_singleton.mp hx
        exact fun h => hkj (Option.some.inj h)

/-- An entry is added under a settled name. -/
theorem Sole.added {s : State} {ends : List (String × Bool)} {items : List (Nat × Event)}
    (h : Sole s.conns ends items) {c : Connection} (hex : s.exists_ c.name = false)
    (hc : c.task = ends.length)
    (hsettled : ∀ k ended, ends[k]? = some (c.name, ended) →
      ended = true ∧ ∀ x ∈ items, x.2.origin ≠ some k) :
    Sole (s.add c).conns (ends ++ [(c.name, false)]) items := by
  intro c' hc' k ended hk
  by_cases hlt : k < ends.length
  · rw [List.getElem?_append_left hlt] at hk
    rcases List.mem_append.mp hc' with hc' | hc'
    · exact h c' hc' k ended hk
    · obtain rfl := List.mem_singleton.mp hc'
      exact .inr (hsettled k ended hk)
  · -- the new task: no other entry has its name
    have hlt' := (List.getElem?_eq_some_iff.mp hk).1
    rw [List.length_append, List.length_singleton] at hlt'
    obtain rfl : k = ends.length :=
      Nat.le_antisymm (Nat.le_of_lt_succ hlt') (Nat.le_of_not_lt hlt)
    rw [List.getElem?_concat_length] at hk
    have hname : c.name = c'.name := congrArg Prod.fst (Option.some.inj hk)
    rcases List.mem_append.mp hc' with hc' | hc'
    · exact absurd hname.symm (State.name_ne_of_exists hex hc')
    · obtain rfl := List.mem_singleton.mp hc'
      exact .inl hc.symm

/-- If names are settled when they are taken, only its own task is heard of under the name of an
entry. -/
theorem sole_of_run {log : List DaemonObs} {d : Daemon} (h : machine.Run NameSettled log d) :
    Sole d.state.conns (ends d.roster) d.events.items := by
  refine h.invariant (P := fun _ d => Sole d.state.conns (ends d.roster) d.events.items) ?_ ?_
  · intro c hc
    cases hc
  intro log d i d' out hr hsole hok hs
  have hpop : ∀ {n : Nat} {e : Event}, d.events.pop = some ((n, e), d'.events) →
      ∀ x ∈ d'.events.items, x ∈ d.events.items := by
    intro n e hpop x hx
    rw [(NumberedQueue.items_of_pop hpop).1]
    exact List.mem_cons_of_mem _ hx
  cases (step_cases hs).entryEffect (sound_tasks hr) with
  | quiet hst hro hev => rwa [hst, hro, hev]
  | @asked req client hst hro hpush =>
      rw [hst, hro, (NumberedQueue.items_of_push hpush).1]
      exact hsole.asked d.events.sent req client
  | @ended k st hst hk hend hro hpush =>
      have hends : (ends d.roster)[k]? = some (st.name, false) := by
        rw [ends, List.getElem?_map, hk, Option.map_some, hend]
      rw [hst, hro, ends_ended, (NumberedQueue.items_of_push hpush).1]
      exact hsole.ended hends d.events.sent
  | processed hst hro hpop' =>
      rw [hst, hro]
      exact hsole.mono (fun _ => id) (hpop hpop')
  | @added n e name addr port path client tio hi hpop' he hex hst hro =>
      have hends : ends d'.roster = ends d.roster ++ [(name, false)] := by
        rw [hro, ends, List.map_append]
        rfl
      rw [hst, hends]
      refine (hsole.mono (fun _ => id) (hpop hpop')).added hex (List.length_map _).symm ?_
      intro k ended hk
      -- the guard speaks of the task itself
      rw [ends, roster, List.map_map, List.getElem?_map] at hk
      obtain ⟨sp, hsp, heq⟩ := Option.map_eq_some_iff.mp hk
      obtain ⟨hpc, hno⟩ := hok path tio n e d'.events name addr port client hi hpop' he hex k sp hsp
        (congrArg Prod.fst heq)
      have hended : decide (sp.task.pc = .exited) = ended := congrArg Prod.snd heq
      rw [decide_eq_true hpc] at hended
      exact ⟨hended.symm, fun x hx => hno x (hpop hpop' x hx)⟩
  | removed hpop' hobs he hrem hro =>
      rw [hro, ends_signalled]
      have hperm := (State.remove_some hrem).2
      exact hsole.mono (fun c hc => hperm.subset (List.mem_cons_of_mem _ hc)) (hpop hpop')

/-- A step processes a `Remove` of the name that was put on the event channel after the `Add`, or the
`ConnectionClosed` of the entry's own task. -/
def LeavesFor (out : List DaemonObs) (c : Connection) : Prop :=
  ∃ n e, .processed n e ∈ out ∧
    ((∃ client, e.event = .cliCommand (.remove c.name) client ∧ c.added < n) ∨
      e = closing c.name c.task)

/-- **Entries leave on a later `Remove` or on the end of their own task**, in every run in which names
are settled when they are taken. -/
theorem entry_leaves {log : List DaemonObs} {d d' : Daemon} {i : DaemonInput}
    {out : List DaemonObs} (h : machine.Run NameSettled log d) (hs : d.step i = some (d', out))
    {c : Connection} (hc : c ∈ d.state.conns) (hc' : c ∉ d'.state.conns) : LeavesFor out c := by
  have hent := entries_of_run h
  have hsole := sole_of_run h
  cases (step_cases hs).entryEffect (sound_tasks h) with
  | quiet hst => exact absurd (hst ▸ hc) hc'
  | asked hst => exact absurd (hst ▸ hc) hc'
  | ended hst => exact absurd (hst ▸ hc) hc'
  | processed hst => exact absurd (hst ▸ hc) hc'
  | added _ hpop he hex hst =>
      rw [hst] at hc'
      exact absurd (List.mem_append_left _ hc) hc'
  | @removed n e name conn hpop hobs he hrem hro =>
      obtain ⟨hname, hperm⟩ := State.remove_some hrem
      -- the entry that leaves is the one that is removed
      obtain rfl : c = conn := by
        rcases List.mem_cons.mp (hperm.symm.subset hc) with heq | hc''
        · exact heq
        · exact absurd hc'' hc'
      have hitem : (n, e) ∈ d.events.items := by
        rw [(NumberedQueue.items_of_pop hpop).1]
        exact List.mem_cons_self
      refine ⟨n, e, hobs, ?_⟩
      rcases he with ⟨client, he⟩ | he
      · rw [← hname] at he
        exact .inl ⟨client, he, (hent.later c hc).2 _ hitem⟩
      · -- the task that sent the event has the name of the entry and is still heard of
        right
        obtain ⟨k, hk⟩ := Option.ne_none_iff_exists'.mp (hent.heard.sender _ hitem name he)
        obtain ⟨name', hend, hclose⟩ := hent.heard.origin _ hitem k hk
        dsimp only at hclose
        have hname' : name' = c.name := by
          rw [hclose] at he
          cases he
          exact hname.symm
        rw [hname'] at hend hclose
        rcases hsole c hc k true hend with rfl | ⟨-, hno⟩
        · exact hclose
        · exact absurd hk (hno _ hitem)

/-- A connection is added and removed on request. -/
theorem entry_leaves_on_remove :
    ∃ log d d' out c, machine.Run NameSettled log d ∧
      d.step (.recv .openFailed) = some (d', out) ∧ c ∈ d.state.conns ∧ c ∉ d'.state.conns ∧
      LeavesFor out c := by
  have hrun : (machine.restrict fun d _ => d.tasks.isEmpty).Reaches _ _ :=
    Machine.Reaches.init.exec [.accept true, .accept true,
      .clientRead 0 (.request (.add "a" 0 0)), .clientSend 0,
      .clientRead 1 (.request (.remove "a")), .clientSend 1, .recv (.ok "p" ⟨0, 0, .B9600⟩)] rfl
  have hrun' := hrun.of_restrict NameSettled fun d i hcheck => by
    intro path tio n e events name addr port client _ _ _ _ k sp hk
    rw [List.isEmpty_iff.mp hcheck] at hk
    cases hk
  obtain ⟨log, d, hd, hmem, d', out, hs, hnot⟩ : ∃ log d, machine.Run NameSettled log d ∧
      (⟨"a", 0, 0, "p", 0, 0⟩ : Connection) ∈ d.state.conns ∧
      ∃ d' out, d.step (.recv .openFailed) = some (d', out) ∧
        (⟨"a", 0, 0, "p", 0, 0⟩ : Connection) ∉ d'.state.conns :=
    ⟨_, _, hrun', List.mem_singleton_self _, _, _, rfl, List.not_mem_nil⟩
  exact ⟨log, d, d', out, _, hd, hs, hmem, hnot, entry_leaves hd hs hmem hnot⟩

/-- **The end of an older task removes an entry.** A connection is added, removed and added again.
The first task, told to shut down, ends only now; its `ConnectionClosed` names the new entry. -/
theorem stale_event_removes :
    ∃ log d d' out c, machine.Reaches log d ∧ d.step (.recv .openFailed) = some (d', out) ∧
      c ∈ d.state.conns ∧ c ∉ d'.state.conns ∧ ¬ LeavesFor out c := by
  have hrun : machine.Reaches _ _ :=
    Machine.Reaches.init.exec [.accept true,
      .clientRead 0 (.request (.add "a" 0 0)), .clientSend 0, .recv (.ok "p" ⟨0, 0, .B9600⟩),
      .clientWritten 0 true, .clientRead 0 (.request (.remove "a")), .clientSend 0,
      .recv .openFailed, .clientWritten 0 true,
      .clientRead 0 (.request (.add "a" 0 0)), .clientSend 0, .recv (.ok "q" ⟨0, 0, .B9600⟩),
      .task 0 .resume, .task 0 .shutdown, .task 0 .resume, .task 0 .notified] rfl
  have hmem : (⟨"a", 0, 0, "q", 1, 2⟩ : Connection) ∈ [⟨"a", 0, 0, "q", 1, 2⟩] :=
    List.mem_singleton_self _
  refine ⟨_, _, _, _, _, hrun, rfl, hmem, List.not_mem_nil, ?_⟩
  rintro ⟨n, e, hout, hwhy⟩
  -- what is processed is the end of task 0
  have hout' : DaemonObs.processed n e ∈ [.processed 3 (closing "a" 0)] := hout
  cases List.mem_singleton.mp hout'
  rcases hwhy with ⟨client, hcmd, -⟩ | hclose
  · cases hcmd
  · cases hclose

end Daemon

end TcpUart
