import TcpUart.Daemon.Waiting

/-! # The main loop and a task that closes
The main loop drains the event channel and asks connection tasks; a task that closes serves no
requests any more and waits for room on the event channel. If the channel fills up while the main
loop waits for that task, neither goes on.

* `CircularWait` — the main loop waits for a task, and the task for the main loop.
* `no_deadlock` — it is not reached as long as the channel does not fill up behind a closing task
  that is asked.
* `deadlock_reached` — 128 clients fill it up. -/

namespace TcpUart

open Reactive

/-- The task that `get_status` or `send_hardware_ctl` asks. -/
def MainPc.asked : MainPc → Option TaskId
  | .listSend (conn :: _) _ _ => some conn.task
  | .listReply _ conn _ _ _ => some conn.task
  | .ctlSend _ _ conn _ => some conn.task
  | .ctlReply _ _ conn _ => some conn.task
  | _ => none

/-- Only the loop of `conn_task` goes on to `shutdown`. -/
theorem ConnectionTask.Step.closing_cases {t t' : ConnectionTask} {i : TaskInput}
    {out : List TaskObs} (hs : Sound t) (h : Step t i t' out) (hpc' : t'.pc = .shutdownSend) :
    (i = .resume ∧ t.shouldClose = true) ∨ ((∃ tio, i = .slaveSet tio) ∧ t.pc = .shutdownSend) := by
  cases h with
  | slaveSet tio => exact .inr ⟨⟨tio, rfl⟩, hpc'⟩
  | close hpc hst => exact .inl ⟨rfl, decide_eq_true hst⟩
  | ptyAgain hpc =>
      have hsame : t.pc = .shutdownSend := hpc'
      rw [hpc] at hsame
      cases hsame
  | tcpRecv hpc =>
      have hsame : t.pc = .shutdownSend := hpc'
      rw [hpc] at hsame
      cases hsame
  | write hsend =>
      have hsame : t.pc = .shutdownSend := hpc'
      rw [hsame] at hsend
      cases hsend
  | offlineCtl hpc =>
      rw [hpc'] at hpc
      exact hpc.elim
  | offlineStatus hpc =>
      rw [hpc'] at hpc
      exact hpc.elim
  | overflow hpc hnext => exact absurd hnext (hs.nextBackoff_ne_none hpc)
  | _ => cases hpc'

namespace Daemon

/-- Whether connection task `k` waits in `shutdown`. -/
def isClosing (d : Daemon) (k : TaskId) : Bool :=
  d.tasks[k]?.any fun sp => sp.task.pc = .shutdownSend

/-- Whether the task that the main loop asks waits in `shutdown`. -/
def askedIsClosing (d : Daemon) : Bool := d.main.asked.any d.isClosing

/-- The task `State::list` asks next. -/
def nextAsked (d : Daemon) : Option TaskId :=
  match d.main with
  | .listSend (conn :: rest) _ _ =>
      if d.gone conn.task then rest.head?.map Connection.task else none
  | .listReply _ _ rest _ _ => rest.head?.map Connection.task
  | _ => none

/-- The event channel does not fill up while the main loop asks a task that is closing, no task that
is asked begins to close while the channel is full, and `State::list` does not go on to a closing
task while the channel is full. -/
def avoidsDeadlock (d : Daemon) : DaemonInput → Bool
  | .clientSend _ => !(d.askedIsClosing && d.events.items.length + 1 = 128)
  | .task k .notified =>
      d.main.asked = some k || !(d.askedIsClosing && d.events.items.length + 1 = 128)
  | .task k .resume =>
      !(d.main.asked = some k && d.events.full && d.tasks[k]?.any (·.task.shouldClose))
  | .goOn => !(d.events.full && d.nextAsked.any d.isClosing)
  | _ => true

/-- The main loop waits for a reply of task `k`, or for room in its request channel, and the task
waits in `shutdown` for room in the event channel. -/
structure CircularWait (d : Daemon) (k : TaskId) : Prop where
  /-- The task is asked. -/
  asked : d.main.asked = some k
  /-- There is neither a reply nor room. -/
  waits : d.goOn = none
  /-- The task is closing. -/
  closing : d.isClosing k = true
  /-- The event channel is full. -/
  full : d.events.full = true

/-- There is room on the event channel whenever a closing task is asked. -/
def Room (d : Daemon) : Prop :=
  ∀ k, d.main.asked = some k → d.isClosing k = true → d.events.items.length < 128

variable {d d' : Daemon} {i : DaemonInput} {out log : List DaemonObs}

/-- Who asks nobody has room. -/
theorem Room.of_main (h : d.main.asked = none) : Room d := by
  intro k hk
  rw [h] at hk
  cases hk

/-- After an event is taken there is room. -/
theorem length_of_pop {events : NumberedQueue Event 128} {n : Nat} {e : Event}
    (h : d.events.pop = some ((n, e), events)) : events.items.length < 128 := by
  have hlen := congrArg List.length (NumberedQueue.items_of_pop h).1
  have hle := d.events.length_le
  rw [List.length_cons] at hlen
  omega

/-- An event that does not fill up the channel leaves room. -/
theorem length_of_push {events : NumberedQueue Event 128} {e : Event}
    (hpush : d.events.push e = some events) (hroom : d.events.items.length < 128)
    (hne : d.events.items.length + 1 ≠ 128) : events.items.length < 128 := by
  rw [(NumberedQueue.items_of_push hpush).1, List.length_append, List.length_singleton]
  omega

/-- A channel that is not full has room. -/
theorem length_of_not_full (h : d.events.full = false) : d.events.items.length < 128 :=
  Nat.lt_of_le_of_ne d.events.length_le (of_decide_eq_false h)

/-- `State::list` going on changes neither tasks nor events, and asks the next task. -/
theorem listNext_eq (d : Daemon) (rest : List Connection) (list : List ConnectionInfo)
    (client : ClientId) : (d.listNext rest list client).1.tasks = d.tasks ∧
      (d.listNext rest list client).1.events = d.events ∧
      (d.listNext rest list client).1.main.asked = rest.head?.map Connection.task := by
  cases rest with
  | nil => exact ⟨rfl, rfl, rfl⟩
  | cons conn rest => exact ⟨rfl, rfl, rfl⟩

/-- `State::list` goes on with room, or to a task that is not closing. -/
theorem room_listNext {rest : List Connection} {list : List ConnectionInfo} {client : ClientId}
    (h : d.events.full = true → (rest.head?.map Connection.task).any d.isClosing = false) :
    Room (d.listNext rest list client).1 := by
  obtain ⟨htasks, hevents, hasked⟩ := listNext_eq d rest list client
  intro k hk hclosing
  rw [hevents]
  rw [hasked] at hk
  apply length_of_not_full
  by_contra hfull
  have hany := h (Bool.of_not_eq_false hfull)
  rw [hk] at hany
  rw [isClosing, htasks] at hclosing
  have hnot : d.isClosing k = false := hany
  rw [isClosing, hclosing] at hnot
  cases hnot

/-- A request sent to a task does not change whether tasks are closing. -/
theorem closing_request {k : TaskId} {req : ConnectionTaskRequest} (h : d.request k req = some d')
    (k' : TaskId) : d'.isClosing k' = d.isClosing k' ∧ d'.events = d.events := by
  obtain ⟨sp, q, hk, -, rfl⟩ := request_some h
  refine ⟨?_, rfl⟩
  rw [isClosing, isClosing]
  by_cases hkk : k = k'
  · subst hkk
    rw [hk, List.getElem?_set_self (List.getElem?_eq_some_iff.mp hk).1]
    rfl
  · rw [List.getElem?_set_ne hkk]

/-- A request sent to the task that is asked leaves the room there is. -/
theorem Room.request (h : Room d) {k : TaskId} {req : ConnectionTaskRequest} {main : MainPc}
    (hreq : d.request k req = some d') (hasked : main.asked = d.main.asked) :
    Room { d' with main := main } := by
  intro k' hk' hclosing
  have hask := h k' (hasked.symm.trans hk')
  rw [← (closing_request hreq k').1, ← (closing_request hreq k').2] at hask
  exact hask hclosing

/-- The task that is asked goes on itself: it begins to close, or closes already. -/
theorem Room.task_asked (h : Room d) {k : TaskId} {i : TaskInput} {sp : Spawned}
    {requests : BoundedQueue ConnectionTaskRequest 8} {events : NumberedQueue Event 128}
    {t' : ConnectionTask} {out : List TaskObs} (hkeep : d.avoidsDeadlock (.task k i) = true)
    (hask : d.main.asked = some k) (hk : d.tasks[k]? = some sp)
    (hsound : ConnectionTask.Sound sp.task) (hch : d.channels k sp i = some (requests, events))
    (hs : sp.task.step i = some (t', out)) (hpc' : t'.pc = .shutdownSend) :
    events.items.length < 128 := by
  rcases (ConnectionTask.step_cases hs).closing_cases hsound hpc'
    with ⟨rfl, hclose⟩ | ⟨⟨tio, rfl⟩, hpc⟩
  · have hfull : d.events.full = false := by
      simpa [avoidsDeadlock, hask, hk, hclose] using hkeep
    cases hch
    exact length_of_not_full hfull
  · cases hch
    refine h k hask ?_
    rw [isClosing, hk]
    exact decide_eq_true hpc

/-- Another task goes on: only its end takes room on the event channel. -/
theorem Room.task_other (h : Room d) {k k' : TaskId} {i : TaskInput} {sp : Spawned}
    {requests : BoundedQueue ConnectionTaskRequest 8} {events : NumberedQueue Event 128}
    (hkeep : d.avoidsDeadlock (.task k i) = true) (hask : d.main.asked = some k') (hkk : k' ≠ k)
    (hclosing : d.isClosing k' = true) (hch : d.channels k sp i = some (requests, events)) :
    events.items.length < 128 := by
  have hroom := h k' hask hclosing
  cases channels_cases hch with
  | notified hpush =>
      apply length_of_push hpush hroom
      simpa [avoidsDeadlock, askedIsClosing, hask, hclosing, hkk] using hkeep
  | shutdown => exact hroom
  | ctlClosed => exact hroom
  | ctlReq => exact hroom
  | other => exact hroom

/-- Every step keeps room for the closing task that is asked. -/
theorem Room.step (hsound : ∀ sp ∈ d.tasks, ConnectionTask.Sound sp.task) (h : Room d)
    (hkeep : d.avoidsDeadlock i = true) (hs : Step d i d' out) : Room d' := by
  have hselect : d'.main = .select → Room d' := by
    intro hm
    exact Room.of_main (by rw [hm]; rfl)
  cases hs with
  | accept hm => exact hselect hm
  | acceptFailed => exact h
  | ctrlC => exact Room.of_main rfl
  | recvAdd => exact hselect rfl
  | recvAddRefused => exact hselect rfl
  | recvRemove => exact hselect rfl
  | recvRemoveNone => exact hselect rfl
  | recvList hm hpop =>
      -- an event was just taken
      intro k _ _
      rw [(listNext_eq _ _ _ _).2.1]
      exact length_of_pop hpop
  | recvReset hm hpop =>
      intro k _ _
      exact length_of_pop hpop
  | recvResetNone => exact hselect rfl
  | recvClosed hm => exact hselect hm
  | recvClosedNone hm => exact hselect hm
  | listGone hm hg =>
      apply room_listNext
      intro hfull
      simpa [avoidsDeadlock, nextAsked, hm, hg, hfull] using hkeep
  | listAsk hm hg hreq => exact h.request hreq (by rw [hm]; rfl)
  | listTold hm =>
      apply room_listNext
      intro hfull
      simpa [avoidsDeadlock, nextAsked, hm, hfull] using hkeep
  | listDropped hm =>
      apply room_listNext
      intro hfull
      simpa [avoidsDeadlock, nextAsked, hm, hfull] using hkeep
  | ctlGone => exact hselect (main_onCtlResult _ _ _ _)
  | ctlAsk hm hg hreq => exact h.request hreq (by rw [hm]; rfl)
  | ctlTold => exact hselect (main_onCtlResult _ _ _ _)
  | ctlDropped => exact hselect (main_onCtlResult _ _ _ _)
  | clientRead => exact h
  | @clientSend c req events hc hpush =>
      intro k hk hclosing
      have hask : d.main.asked = some k := hk
      have hclose : d.isClosing k = true := hclosing
      apply length_of_push hpush (h k hask hclose)
      simpa [avoidsDeadlock, askedIsClosing, hask, hclose] using hkeep
  | clientWritten => exact h
  | @task k i sp requests events t' out hk hch hs =>
      intro k' hk' hclosing'
      have hask : d.main.asked = some k' := hk'
      have hlt := (List.getElem?_eq_some_iff.mp hk).1
      show events.items.length < 128
      by_cases hkk : k = k'
      · subst hkk
        rw [isClosing, List.getElem?_set_self hlt] at hclosing'
        have hpc' : t'.pc = .shutdownSend := of_decide_eq_true hclosing'
        exact h.task_asked hkeep hask hk (hsound sp (List.mem_of_getElem? hk)) hch hs hpc'
      · rw [isClosing, List.getElem?_set_ne hkk] at hclosing'
        exact h.task_other hkeep hask (Ne.symm hkk) hclosing' hch

end Daemon

end TcpUart
