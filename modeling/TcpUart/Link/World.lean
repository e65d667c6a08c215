import TcpUart.Daemon.PtyForwarding
import TcpUart.Daemon.DeviceReceive
import TcpUart.Firmware.Stages

/-! # A connection task and its device
The daemon's connection task and the firmware run side by side, joined by TCP sessions: a session
delivers, in each direction, the bytes written to it, in order and in pieces of any size, and may
stop anywhere. The device accepts sessions in the order the daemon opened them.

* `World.step` — one step of either side; bytes written go in flight, bytes read come from there.
* `Carried` — what one side wrote to a session is what the other side read, and what is in
  flight.
* `task_of_run`, `device_of_run` — seen from either side, a run of both is a run of that
  side. -/

namespace TcpUart

open Reactive Framing

/-- The two sides, and what is in flight in each session. -/
structure World where
  /-- The daemon's side. -/
  task : ConnectionTask
  /-- The device. -/
  device : Device
  /-- Bytes of each session on their way to the device. -/
  up : Nat → Bytes
  /-- Bytes of each session on their way to the daemon. -/
  down : Nat → Bytes

/-- Which side moves, and how. -/
inductive WorldInput
  /-- The connection task. -/
  | task (i : TaskInput)
  /-- The device. -/
  | device (i : DevInput)

/-- What an observer of both sides sees. -/
inductive WorldObs
  /-- Of the connection task. -/
  | task (o : TaskObs)
  /-- Of the device. -/
  | device (o : DevObs)
  deriving DecidableEq

/-- What is seen of the connection task. -/
def WorldObs.task? : WorldObs → Option TaskObs
  | .task o => some o
  | .device _ => none

/-- What is seen of the device. -/
def WorldObs.device? : WorldObs → Option DevObs
  | .task _ => none
  | .device o => some o

/-- The history of the connection task. -/
def taskLog (log : List WorldObs) : List TaskObs := log.filterMap WorldObs.task?

/-- The history of the device. -/
def deviceLog (log : List WorldObs) : List DevObs := log.filterMap WorldObs.device?

@[simp] theorem taskLog_append (log out : List WorldObs) :
    taskLog (log ++ out) = taskLog log ++ taskLog out := List.filterMap_append

@[simp] theorem deviceLog_append (log out : List WorldObs) :
    deviceLog (log ++ out) = deviceLog log ++ deviceLog out := List.filterMap_append

@[simp] theorem taskLog_task (out : List TaskObs) : taskLog (out.map .task) = out := by
  rw [taskLog, List.filterMap_map]
  exact List.filterMap_some

@[simp] theorem taskLog_device (out : List DevObs) : taskLog (out.map .device) = [] := by
  rw [taskLog, List.filterMap_map]
  exact List.filterMap_eq_nil_iff.mpr fun _ _ => rfl

@[simp] theorem deviceLog_device (out : List DevObs) : deviceLog (out.map .device) = out := by
  rw [deviceLog, List.filterMap_map]
  exact List.filterMap_some

@[simp] theorem deviceLog_task (out : List TaskObs) : deviceLog (out.map .task) = [] := by
  rw [deviceLog, List.filterMap_map]
  exact List.filterMap_eq_nil_iff.mpr fun _ _ => rfl

namespace World

/-- What TCP admits on the daemon's side: bytes read are the next ones in flight, and a send that
fails has not written the whole frame. -/
def admitsTask (w : World) : TaskInput → Bool
  | .tcpRecv bs => w.task.tcp.framed.any fun f => bs.isPrefixOf (w.down f.session)
  | .tcpSendErr => w.task.tcp.framed.all fun f => f.writeBuf ≠ []
  | _ => true

/-- What TCP admits on the device: sessions accepted were opened, and bytes received are the next
ones in flight. -/
def admitsDevice (w : World) : DevInput → Bool
  | .accept (some s) => s < w.task.tcp.opened
  | .recv bs => bs.isPrefixOf (w.up w.device.sock)
  | _ => true

/-- The world after a step of the connection task. -/
def afterTask (w : World) (t : ConnectionTask) (out : List TaskObs) : World :=
  { w with
    task := t
    -- what the daemon writes is in flight until the device receives it
    up := fun s => w.up s ++ wroteBytes s out
    down := fun s => (w.down s).drop (recvBytes s out).length }

/-- The world after a step of the device. -/
def afterDevice (w : World) (d : Device) (out : List DevObs) : World :=
  { w with
    device := d
    up := fun s => (w.up s).drop (devRecvBytes s out).length
    down := fun s => w.down s ++ devSentBytes s out }

/-- One step of either side. -/
def step (cfg : DeviceConfig) (w : World) : WorldInput → Option (World × List WorldObs)
  | .task i =>
      if w.admitsTask i then
        (w.task.step i).map fun r => (w.afterTask r.1 r.2, r.2.map .task)
      else none
  | .device i =>
      if w.admitsDevice i then
        (w.device.step cfg i).map fun r => (w.afterDevice r.1 r.2, r.2.map .device)
      else none

/-- Both sides as they start, with nothing in flight. -/
def init (t₀ : ConnectionTask) : World := ⟨t₀, Device.init, fun _ => [], fun _ => []⟩

/-- The machine of both sides. -/
def machine (cfg : DeviceConfig) (t₀ : ConnectionTask) : Machine World WorldInput WorldObs :=
  ⟨init t₀, step cfg⟩

/-- The two kinds of steps. -/
inductive Step (cfg : DeviceConfig) (w : World) : WorldInput → World → List WorldObs → Prop
  /-- The connection task moves. -/
  | task {i : TaskInput} {t' : ConnectionTask} {out : List TaskObs} (hok : w.admitsTask i = true)
      (hs : w.task.step i = some (t', out)) :
      Step cfg w (.task i) (w.afterTask t' out) (out.map .task)
  /-- The device moves. -/
  | device {i : DevInput} {d' : Device} {out : List DevObs} (hok : w.admitsDevice i = true)
      (hs : w.device.step cfg i = some (d', out)) :
      Step cfg w (.device i) (w.afterDevice d' out) (out.map .device)

/-- Inversion of the step function. -/
theorem step_cases {cfg : DeviceConfig} {w w' : World} {i : WorldInput} {out : List WorldObs}
    (h : w.step cfg i = some (w', out)) : Step cfg w i w' out := by
  cases i with
  | task i =>
      simp only [step] at h
      split at h
      · rename_i hok
        obtain ⟨⟨t', out'⟩, hs, heq⟩ := Option.map_eq_some_iff.mp h
        cases heq
        exact Step.task hok hs
      · cases h
  | device i =>
      simp only [step] at h
      split at h
      · rename_i hok
        obtain ⟨⟨d', out'⟩, hs, heq⟩ := Option.map_eq_some_iff.mp h
        cases heq
        exact Step.device hok hs
      · cases h

/-! ## Seen from one side -/

/-- A send that TCP lets fail fails early. -/
theorem sendFailsEarly_of_admits {w : World} {i : TaskInput} (h : w.admitsTask i = true) :
    w.task.SendFailsEarly i := by
  rintro rfl f hf
  simpa [admitsTask, hf] using h

/-- A run of both sides is a run of the connection task. -/
theorem task_of_run {cfg : DeviceConfig} {t₀ : ConnectionTask} {ok : World → WorldInput → Prop}
    {log : List WorldObs} {w : World} (h : (machine cfg t₀).Run ok log w) :
    (ConnectionTask.machine t₀).Run ConnectionTask.SendFailsEarly (taskLog log) w.task := by
  refine h.project World.task WorldObs.task? rfl ?_
  intro w i w' out _ hs
  cases step_cases hs with
  | @task i t' out hok hs' =>
      left
      refine ⟨i, sendFailsEarly_of_admits hok, ?_⟩
      rw [show (out.map WorldObs.task).filterMap WorldObs.task? = out from taskLog_task out]
      exact hs'
  | @device i d' out hok hs' =>
      right
      exact ⟨rfl, taskLog_device out⟩

/-- A run of both sides is a run of the device. -/
theorem device_of_run {cfg : DeviceConfig} {t₀ : ConnectionTask} {ok : World → WorldInput → Prop}
    {log : List WorldObs} {w : World} (h : (machine cfg t₀).Run ok log w) :
    (Device.machine cfg).Reaches (deviceLog log) w.device := by
  refine h.project World.device WorldObs.device? rfl ?_
  intro w i w' out _ hs
  cases step_cases hs with
  | @task i t' out hok hs' =>
      right
      exact ⟨rfl, deviceLog_task out⟩
  | @device i d' out hok hs' =>
      left
      refine ⟨i, trivial, ?_⟩
      rw [show (out.map WorldObs.device).filterMap WorldObs.device? = out from deviceLog_device out]
      exact hs'

end World

/-! ## What each side reads -/

/-- A step of the connection task reads from its session, writes to it, or leaves it alone. -/
theorem ConnectionTask.Step.socket_cases {t t' : ConnectionTask} {i : TaskInput}
    {out : List TaskObs} (hsound : Sound t) (h : Step t i t' out) :
    (∃ bs f, i = .tcpRecv bs ∧ t.tcp.framed = some f ∧ out = [.recv f.session bs]) ∨
      (∃ n f m, i = .tcpWrite n ∧ t.pc.sending = some m ∧ t.tcp.framed = some f ∧
        n ≤ f.writeBuf.length ∧ out = [.wrote f.session (f.writeBuf.take n)]) ∨
      out.filterMap TaskObs.recv? = [] ∧ out.filterMap TaskObs.wrote? = [] := by
  cases h with
  | tcpRecv hpc hf => exact .inl ⟨_, _, rfl, hf, rfl⟩
  | write hsend hf hpos hle => exact .inr (.inl ⟨_, _, _, rfl, hsend, hf, hle, rfl⟩)
  | overflow hpc hnext => exact absurd hnext (hsound.nextBackoff_ne_none hpc)
  | connectFail _ _ hobs =>
      refine .inr (.inr ?_)
      rcases hobs with ⟨-, rfl, -⟩ | ⟨-, rfl, -⟩ <;> exact ⟨rfl, rfl⟩
  | _ =>
      have hrecv := filterMap_failReplies (g := TaskObs.recv?) (fun _ _ => rfl) t
      have hwrote := filterMap_failReplies (g := TaskObs.wrote?) (fun _ _ => rfl) t
      refine .inr (.inr ⟨?_, ?_⟩) <;>
        simp only [List.filterMap_cons, List.filterMap_append, List.filterMap_nil, TaskObs.recv?,
          TaskObs.wrote?, hrecv, hwrote, List.append_nil]

/-- Only `tcp.next` reads from the session, and it reads what it is given. -/
theorem ConnectionTask.Step.recv_cases {t t' : ConnectionTask} {i : TaskInput}
    {out : List TaskObs} (hsound : Sound t) (h : Step t i t' out) :
    (∃ bs f, i = .tcpRecv bs ∧ t.tcp.framed = some f ∧ out = [.recv f.session bs]) ∨
      ∀ s, recvBytes s out = [] := by
  rcases h.socket_cases hsound with hrecv | ⟨_, _, _, -, -, -, -, rfl⟩ | ⟨hnone, -⟩
  · exact .inl hrecv
  · exact .inr fun _ => rfl
  · right
    intro s
    rw [recvBytes, hnone]
    rfl

/-- Only `recv` reads from the socket, and it reads what it is given. -/
theorem Device.Step.recv_eq {cfg : DeviceConfig} {d d' : Device} {i : DevInput}
    {out : List DevObs} (h : Step cfg d i d' out) :
    (∃ bs, i = .recv bs ∧ out.filterMap DevObs.recv? = [(d.sock, bs)]) ∨
      out.filterMap DevObs.recv? = [] := by
  cases h with
  | recvMore => exact .inl ⟨_, rfl, rfl⟩
  | recvDone => exact .inl ⟨_, rfl, rfl⟩
  | _ => exact .inr rfl

/-- Only `accept` begins a session. -/
theorem Device.Step.nextSock_eq {cfg : DeviceConfig} {d d' : Device} {i : DevInput}
    {out : List DevObs} (h : Step cfg d i d' out) :
    (∃ s, i = .accept (some s) ∧ d'.nextSock = s + 1) ∨ d'.nextSock = d.nextSock := by
  cases h with
  | accept => exact .inl ⟨_, rfl, rfl⟩
  | _ => exact .inr rfl

namespace World

/-- The bytes the daemon reads are the next ones in flight. -/
theorem recvBytes_prefix_down {w : World} {i : TaskInput} {t' : ConnectionTask}
    {out : List TaskObs} (hsound : ConnectionTask.Sound w.task) (hok : w.admitsTask i = true)
    (h : ConnectionTask.Step w.task i t' out) (s : Nat) : recvBytes s out <+: w.down s := by
  rcases h.recv_cases hsound with ⟨bs, f, rfl, hf, rfl⟩ | hnone
  · have hbs : bs <+: w.down f.session := by simpa [admitsTask, hf] using hok
    show (valuesAt s [(f.session, bs)]).flatten <+: _
    rw [valuesAt_singleton]
    by_cases hs : f.session = s
    · subst hs
      simpa using hbs
    · rw [if_neg hs]
      exact List.nil_prefix
  · rw [hnone]
    exact List.nil_prefix

/-- The bytes the device reads are the next ones in flight. -/
theorem devRecvBytes_prefix_up {cfg : DeviceConfig} {w : World} {i : DevInput} {d' : Device}
    {out : List DevObs} (hok : w.admitsDevice i = true) (h : Device.Step cfg w.device i d' out)
    (s : Nat) : devRecvBytes s out <+: w.up s := by
  rcases h.recv_eq with ⟨bs, rfl, hout⟩ | hout
  · have hbs : bs <+: w.up w.device.sock := by simpa [admitsDevice] using hok
    rw [devRecvBytes, hout, valuesAt_singleton]
    by_cases hs : w.device.sock = s
    · subst hs
      simpa using hbs
    · rw [if_neg hs]
      exact List.nil_prefix
  · rw [devRecvBytes, hout]
    exact List.nil_prefix

/-- What is written to a session is read from it, but for what is in flight. -/
structure Carried (log : List WorldObs) (w : World) : Prop where
  /-- From the daemon to the device. -/
  up : ∀ s, Conveys (wroteBytes s (taskLog log)) (devRecvBytes s (deviceLog log)) (some (w.up s))
  /-- From the device to the daemon. -/
  down : ∀ s, Conveys (devSentBytes s (deviceLog log)) (recvBytes s (taskLog log))
    (some (w.down s))
  /-- Only sessions that were opened are accepted. -/
  accepted : w.device.nextSock ≤ w.task.tcp.opened

/-- Taking the front of what is in flight. -/
theorem append_drop_length {bs fl : Bytes} (h : bs <+: fl) :
    fl ++ [] = bs ++ fl.drop bs.length := by
  obtain ⟨rest, rfl⟩ := h
  rw [List.append_nil, List.drop_left]

/-- Sessions carry bytes along every run. -/
theorem carried_of_run {cfg : DeviceConfig} {name : String} {addr : UInt32} {port : UInt16}
    {master : AsyncPty} {ok : World → WorldInput → Prop} {log : List WorldObs} {w : World}
    (h : (machine cfg (ConnectionTask.spawn name addr port master)).Run ok log w) :
    Carried log w := by
  refine h.invariant (P := Carried) ?_ ?_
  · exact ⟨fun _ => Conveys.start, fun _ => Conveys.start, Nat.le_refl 0⟩
  · intro log w i w' out hr hc _ hs
    have htask := (task_of_run hr).reaches
    have hsound := ConnectionTask.sound_of_reaches htask
    cases step_cases hs with
    | @task i t' out hok hs' =>
        -- what it writes is in flight, what it reads was; it only opens sessions
        have hstep := ConnectionTask.step_cases hs'
        refine ⟨fun s => ?_, fun s => ?_, ?_⟩
        · rw [taskLog_append, deviceLog_append, taskLog_task, deviceLog_task, wroteBytes_append,
            devRecvBytes_append]
          exact (hc.up s).work rfl
        · rw [taskLog_append, deviceLog_append, taskLog_task, deviceLog_task, recvBytes_append,
            devSentBytes_append]
          exact (hc.down s).work
            (append_drop_length (recvBytes_prefix_down hsound hok hstep s))
        · have hses := ConnectionTask.sessions_of_reaches htask
          exact Nat.le_trans hc.accepted (hstep.sessionStep hsound hses.current).mono
    | @device i d' out hok hs' =>
        have hstep := Device.step_cases hs'
        refine ⟨fun s => ?_, fun s => ?_, ?_⟩
        · rw [taskLog_append, deviceLog_append, taskLog_device, deviceLog_device,
            wroteBytes_append, devRecvBytes_append]
          exact (hc.up s).work (append_drop_length (devRecvBytes_prefix_up hok hstep s))
        · rw [taskLog_append, deviceLog_append, taskLog_device, deviceLog_device,
            recvBytes_append, devSentBytes_append]
          exact (hc.down s).work rfl
        · rcases hstep.nextSock_eq with ⟨s, rfl, hn⟩ | hn
          · have hlt : s < w.task.tcp.opened := by simpa [admitsDevice] using hok
            show d'.nextSock ≤ w.task.tcp.opened
            omega
          · show d'.nextSock ≤ w.task.tcp.opened
            rw [hn]
            exact hc.accepted

end World

end TcpUart
