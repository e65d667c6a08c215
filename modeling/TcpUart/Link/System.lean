import TcpUart.Daemon.Resets
import TcpUart.Link.CliAnswers
import TcpUart.Link.Control

/-! # The whole system
CLIs and other programs on the control socket, the daemon with all its connection tasks, and for
each task the device of its connection, which may be powered on long before the connection is
added. A device talks to its own connection only; whoever goes on goes on in any order.

* `System.step` — one step of the control plane, or of a device.
* `System.Step` — its transitions; `step_cases` is the inversion.
* `plane_of_run` — seen from the control socket, a run of the system is a run of the control plane.
* `world_of_run` — seen from a connection and its device, it is a run of the two of them. -/

namespace TcpUart

open Reactive Framing

/-- A device, and what is in flight in the sessions with its connection. -/
structure DeviceLink where
  /-- The device. -/
  device : Device
  /-- Bytes of each session on their way to the device. -/
  up : Nat → Bytes
  /-- Bytes of each session on their way to the daemon. -/
  down : Nat → Bytes

/-- A device that is powered on. -/
def DeviceLink.init : DeviceLink := ⟨Device.init, fun _ => [], fun _ => []⟩

/-- After a step of the connection task. -/
def DeviceLink.afterTask (l : DeviceLink) (out : List TaskObs) : DeviceLink :=
  { l with
    up := fun n => l.up n ++ wroteBytes n out
    down := fun n => (l.down n).drop (recvBytes n out).length }

/-- After a step of the device. -/
def DeviceLink.afterDevice (l : DeviceLink) (d : Device) (out : List DevObs) : DeviceLink where
  device := d
  up := fun n => (l.up n).drop (devRecvBytes n out).length
  down := fun n => l.down n ++ devSentBytes n out

/-- The device with the connection task at its other end. -/
def DeviceLink.world (l : DeviceLink) (t : ConnectionTask) : World := ⟨t, l.device, l.up, l.down⟩

/-- The control plane, and the device of each connection task. -/
structure System where
  /-- The programs on the control socket, and the daemon. -/
  plane : ControlPlane
  /-- The device of each task, with what is in flight. -/
  links : TaskId → DeviceLink

/-- Which party goes on. -/
inductive SystemInput
  /-- The control plane. -/
  | plane (i : PlaneInput)
  /-- The device of task `k`. -/
  | device (k : TaskId) (i : DevInput)

/-- What an observer sees. -/
inductive SystemObs
  /-- Of the control plane. -/
  | plane (o : PlaneObs)
  /-- Of the device of task `k`. -/
  | device (k : TaskId) (o : DevObs)

/-- The connection task that an input moves, and how. -/
def PlaneInput.task? : PlaneInput → Option (TaskId × TaskInput)
  | .socket (.daemon (.task k i)) => some (k, i)
  | _ => none

/-- What is seen of connection task `k`. -/
def PlaneObs.taskObs (k : TaskId) : PlaneObs → Option TaskObs
  | .socket (.daemon (.task k' o)) => if k' = k then some o else none
  | _ => none

/-- What is seen of connection task `k` and its device. -/
def SystemObs.worldObs (k : TaskId) : SystemObs → Option WorldObs
  | .plane o => (o.taskObs k).map .task
  | .device k' o => if k' = k then some (.device o) else none

namespace System

/-- All connection tasks ever spawned. -/
def tasks (s : System) : List ConnectionTask := s.plane.socket.daemon.connTasks

/-- How many sessions the connection of task `k` has opened with its device. -/
def opened (s : System) (k : TaskId) : Nat := s.tasks[k]?.elim 0 fun t => t.tcp.opened

/-- What TCP admits on the daemon's side. -/
def admits (s : System) (i : PlaneInput) : Bool :=
  match i.task? with
  | none => true
  | some (k, ti) => s.tasks[k]?.all fun t => ((s.links k).world t).admitsTask ti

/-- What TCP admits on the device of task `k`. -/
def admitsDevice (s : System) (k : TaskId) : DevInput → Bool
  | .accept (some n) => n < s.opened k
  | .recv bs => bs.isPrefixOf ((s.links k).up (s.links k).device.sock)
  | _ => true

/-- The links after a step of the control plane. -/
def linksAfter (s : System) (i : PlaneInput) (out : List PlaneObs) : TaskId → DeviceLink :=
  match i.task? with
  | none => s.links
  | some (k, _) => Function.update s.links k ((s.links k).afterTask (out.filterMap (·.taskObs k)))

/-- One step. -/
def step (cfg : TaskId → DeviceConfig) (s : System) : SystemInput →
    Option (System × List SystemObs)
  | .plane i =>
      if s.admits i then
        (s.plane.step i).map fun r => (⟨r.1, s.linksAfter i r.2⟩, r.2.map .plane)
      else none
  | .device k i =>
      if s.admitsDevice k i then
        ((s.links k).device.step (cfg k) i).map fun r =>
          (⟨s.plane, Function.update s.links k ((s.links k).afterDevice r.1 r.2)⟩,
            r.2.map (.device k))
      else none

/-- The machine of the system; `cfg` says how the devices were built. -/
def machine (cfg : TaskId → DeviceConfig) : Machine System SystemInput SystemObs :=
  ⟨⟨ControlPlane.machine.init, fun _ => .init⟩, step cfg⟩

/-- The history of connection task `k` and its device. -/
def worldLog (k : TaskId) (log : List SystemObs) : List WorldObs :=
  log.filterMap (SystemObs.worldObs k)

variable {cfg : TaskId → DeviceConfig} {s s' : System} {log out : List SystemObs} {k : TaskId}

/-! ## What one step can do -/

/-- **The transitions.** -/
inductive Step (cfg : TaskId → DeviceConfig) (s : System) :
    SystemInput → System → List SystemObs → Prop
  /-- The control plane goes on, and no connection task does. -/
  | plane {i : PlaneInput} {plane' : ControlPlane} {out : List PlaneObs} (hi : i.task? = none)
      (hs : s.plane.step i = some (plane', out)) :
      Step cfg s (.plane i) ⟨plane', s.links⟩ (out.map .plane)
  /-- A connection task goes on. -/
  | task {i : PlaneInput} {k : TaskId} {ti : TaskInput} {plane' : ControlPlane}
      {out : List PlaneObs} (hi : i.task? = some (k, ti))
      (hok : ∀ t, s.tasks[k]? = some t → ((s.links k).world t).admitsTask ti = true)
      (hs : s.plane.step i = some (plane', out)) :
      Step cfg s (.plane i)
        ⟨plane', Function.update s.links k ((s.links k).afterTask (out.filterMap (·.taskObs k)))⟩
        (out.map .plane)
  /-- A device goes on. -/
  | device {k : TaskId} {i : DevInput} {d' : Device} {out : List DevObs}
      (hok : s.admitsDevice k i = true) (hs : (s.links k).device.step (cfg k) i = some (d', out)) :
      Step cfg s (.device k i)
        ⟨s.plane, Function.update s.links k ((s.links k).afterDevice d' out)⟩ (out.map (.device k))

/-- Inversion of the step function. -/
theorem step_cases {i : SystemInput} (h : s.step cfg i = some (s', out)) :
    Step cfg s i s' out := by
  cases i with
  | plane i =>
      simp only [step] at h
      split at h
      · rename_i hok
        obtain ⟨⟨plane', out'⟩, hs, heq⟩ := Option.map_eq_some_iff.mp h
        cases heq
        unfold linksAfter
        unfold admits at hok
        split at hok
        · rename_i hi
          exact .plane hi hs
        · rename_i k ti hi
          refine .task hi (fun t ht => ?_) hs
          rwa [ht, Option.all_some] at hok
      · cases h
  | device k i =>
      simp only [step] at h
      split at h
      · rename_i hok
        obtain ⟨⟨d', out'⟩, hs, heq⟩ := Option.map_eq_some_iff.mp h
        cases heq
        exact .device hok hs
      · cases h

end System

/-! ## The connection tasks of the control plane -/

/-- What a step of the control plane does to the connection tasks. -/
inductive PlaneEffect (s : ControlPlane) (i : PlaneInput) (s' : ControlPlane)
    (out : List PlaneObs) : Prop
  /-- No task moves. -/
  | still (hi : i.task? = none) (htasks : s'.socket.daemon.connTasks = s.socket.daemon.connTasks)
      (hout : ∀ k, out.filterMap (·.taskObs k) = [])
  /-- A task is spawned. -/
  | spawned {name : String} {addr : UInt32} {port : UInt16} {master : AsyncPty}
      (hi : i.task? = none)
      (htasks : s'.socket.daemon.connTasks
        = s.socket.daemon.connTasks ++ [ConnectionTask.spawn name addr port master])
      (hout : ∀ k, out.filterMap (·.taskObs k) = [])
  /-- A task moves. -/
  | moved {k : TaskId} {ti : TaskInput} {t t' : ConnectionTask} {out' : List TaskObs}
      (hi : i.task? = some (k, ti)) (hk : s.socket.daemon.connTasks[k]? = some t)
      (hs : t.step ti = some (t', out'))
      (htasks : s'.socket.daemon.connTasks = s.socket.daemon.connTasks.set k t')
      (hout : ∀ k', out.filterMap (·.taskObs k') = if k = k' then out' else [])

namespace ControlPlane

variable {s s' : ControlPlane} {out : List PlaneObs}

/-- What a step of the daemon shows of a task, in the control plane. -/
theorem taskObs_daemon (k : TaskId) (out : List DaemonObs) :
    ((out.map SocketObs.daemon).map PlaneObs.socket).filterMap (·.taskObs k)
      = out.filterMap fun
        | .task k' o => if k' = k then some o else none
        | _ => none := by
  rw [List.map_map, List.filterMap_map]
  congr 1
  funext o
  cases o <;> rfl

/-- A step of the daemon. -/
theorem planeEffect_daemon {j : DaemonInput} {dout : List DaemonObs}
    (hs : s.socket.daemon.step j = some (s'.socket.daemon, dout)) :
    PlaneEffect s (.socket (.daemon j)) s' ((dout.map .daemon).map .socket) := by
  have hnone : (∀ k o, .task k o ∉ dout) → ∀ k,
      ((dout.map SocketObs.daemon).map PlaneObs.socket).filterMap (·.taskObs k) = [] := by
    intro hno k
    rw [taskObs_daemon, List.filterMap_eq_nil_iff]
    intro o ho
    cases o with
    | task k' o => exact absurd ho (hno k' o)
    | _ => rfl
  have hother : (∀ k ti, j ≠ .task k ti) →
      (PlaneInput.socket (.daemon j)).task? = none := by
    intro hj
    cases j with
    | task k ti => exact absurd rfl (hj k ti)
    | _ => rfl
  cases (Daemon.step_cases hs).tasksEffect with
  | still htasks _ hj hno => exact .still (hother hj) htasks (hnone hno)
  | spawned htasks _ hj hno => exact .spawned (hother hj) htasks (hnone hno)
  | @moved k ti t t' out' hj hk hst htasks _ hout =>
      subst hj
      refine .moved rfl hk hst htasks fun k' => ?_
      rw [taskObs_daemon, hout, List.filterMap_map]
      by_cases heq : k = k'
      · simp [heq]
      · simp [heq]

/-- A step in which the streams drive the daemon. -/
theorem planeEffect_stream {i : SocketInput} {j : DaemonInput} {sout : List SocketObs}
    (hi : (PlaneInput.socket i).task? = none) (hj : ∀ k ti, j ≠ .task k ti)
    (hs : s.socket.daemon.step j = some (s'.socket.daemon, []))
    (hout : ∀ k, (sout.map PlaneObs.socket).filterMap (·.taskObs k) = []) :
    PlaneEffect s (.socket i) s' (sout.map .socket) := by
  cases (Daemon.step_cases hs).tasksEffect with
  | still htasks => exact .still hi htasks hout
  | spawned htasks => exact .spawned hi htasks hout
  | moved hmoved => exact absurd hmoved (hj _ _)

/-- **Every step of the control plane has one of these effects.** -/
theorem planeEffect {i : PlaneInput} (h : s.step i = some (s', out)) : PlaneEffect s i s' out := by
  cases step_cases h with
  | connect => exact .still rfl rfl fun _ => rfl
  | @cli c j p p' up down out hp hs =>
      refine .still rfl rfl fun k => ?_
      rw [List.filterMap_map]
      exact List.filterMap_eq_nil_iff.mpr fun _ _ => rfl
  | socket hd hs =>
      cases ControlSocket.step_cases hs with
      | daemon hi hdaemon => exact planeEffect_daemon hdaemon
      | yields => exact .still rfl rfl fun _ => rfl
      | next _ _ hdaemon => exact planeEffect_stream rfl (by simp) hdaemon fun _ => rfl
      | gone hi _ hdaemon =>
          refine planeEffect_stream ?_ (by simp) hdaemon fun _ => rfl
          rcases hi with rfl | ⟨failed, rfl⟩ <;> rfl
      | encode => exact .still rfl rfl fun _ => rfl
      | takes => exact .still rfl rfl fun _ => rfl
      | flushed _ _ _ _ hdaemon => exact planeEffect_stream rfl (by simp) hdaemon fun _ => rfl
      | failed hi _ hdaemon =>
          refine planeEffect_stream ?_ (by simp) hdaemon fun _ => rfl
          rcases hi with rfl | rfl <;> rfl

end ControlPlane

namespace System

variable {cfg : TaskId → DeviceConfig} {s s' : System} {log out : List SystemObs} {k : TaskId}
  {P : World → WorldInput → Prop} {ok : System → SystemInput → Prop}

/-! ## Seen from one part -/

/-- What is seen of a connection and its device, part by part. -/
@[simp] theorem worldLog_append (k : TaskId) (log out : List SystemObs) :
    worldLog k (log ++ out) = worldLog k log ++ worldLog k out :=
  List.filterMap_append

/-- In a step of the control plane. -/
@[simp] theorem worldLog_plane (k : TaskId) (out : List PlaneObs) :
    worldLog k (out.map .plane) = (out.filterMap (·.taskObs k)).map .task := by
  rw [worldLog, List.filterMap_map, List.map_filterMap]
  rfl

/-- In a step of a device. -/
@[simp] theorem worldLog_device (k k' : TaskId) (out : List DevObs) :
    worldLog k (out.map (.device k')) = if k' = k then out.map .device else [] := by
  rw [worldLog, List.filterMap_map]
  by_cases h : k' = k <;> simp [h, SystemObs.worldObs, Function.comp_def]

/-- A condition on the connections and their devices, one by one. -/
def OnLinks (P : World → WorldInput → Prop) (s : System) : SystemInput → Prop
  | .plane i => ∀ k ti t, i.task? = some (k, ti) → P ((s.links k).world t) (.task ti)
  | .device k i => ∀ t, P ((s.links k).world t) (.device i)

/-- That task `t` and the device at its other end were started and came where they are. -/
def Started (cfg : DeviceConfig) (P : World → WorldInput → Prop) (log : List WorldObs)
    (l : DeviceLink) (t t₀ : ConnectionTask) : Prop :=
  (World.machine cfg t₀).Run P log (l.world t)

/-- **Every connection and its device**: they run as if they were alone, and a device whose
connection is not added yet runs beside any. -/
structure Apart (cfg : TaskId → DeviceConfig) (P : World → WorldInput → Prop)
    (log : List SystemObs) (s : System) : Prop where
  /-- A task that was spawned. -/
  spawned : ∀ k t, s.tasks[k]? = some t → ∃ name addr port master,
    Started (cfg k) P (worldLog k log) (s.links k) t (ConnectionTask.spawn name addr port master)
  /-- A task that is still to be spawned. -/
  waiting : ∀ k, s.tasks[k]? = none → ∀ name addr port master,
    Started (cfg k) P (worldLog k log) (s.links k) (ConnectionTask.spawn name addr port master)
      (ConnectionTask.spawn name addr port master)

/-- A step that is not seen leaves a connection and its device as they are. -/
theorem Started.unseen {log : List SystemObs} {l l' : DeviceLink} {t t₀ : ConnectionTask}
    (h : Started (cfg k) P (worldLog k log) l t t₀) (hout : worldLog k out = []) (hl : l' = l) :
    Started (cfg k) P (worldLog k (log ++ out)) l' t t₀ := by
  rw [worldLog_append, hout, List.append_nil, hl]
  exact h

/-- What TCP admits on the device is what it admits with its connection. -/
theorem admitsDevice_eq {i : DevInput} {t : ConnectionTask} (h : s.opened k = t.tcp.opened) :
    s.admitsDevice k i = ((s.links k).world t).admitsDevice i := by
  unfold admitsDevice World.admitsDevice
  rw [h]
  rfl

/-- The device of a connection goes on. -/
theorem Started.device {l : DeviceLink} {t t₀ : ConnectionTask} {i : DevInput} {d' : Device}
    {out : List DevObs} (h : Started (cfg k) P (worldLog k log) l t t₀)
    (hok : (l.world t).admitsDevice i = true) (hP : P (l.world t) (.device i))
    (hs : l.device.step (cfg k) i = some (d', out)) :
    Started (cfg k) P (worldLog k (log ++ out.map (.device k))) (l.afterDevice d' out) t t₀ := by
  rw [worldLog_append, worldLog_device, if_pos rfl]
  refine h.step hP ?_
  show (if (l.world t).admitsDevice i then _ else none) = _
  rw [if_pos hok]
  show (l.device.step (cfg k) i).map _ = _
  rw [hs]
  rfl

/-- The task of a connection goes on. -/
theorem Started.task {l : DeviceLink} {t t' t₀ : ConnectionTask} {ti : TaskInput}
    {out : List TaskObs} {log' : List WorldObs} (h : Started (cfg k) P log' l t t₀)
    (hok : (l.world t).admitsTask ti = true) (hP : P (l.world t) (.task ti))
    (hs : t.step ti = some (t', out)) :
    Started (cfg k) P (log' ++ out.map .task) (l.afterTask out) t' t₀ := by
  refine h.step hP ?_
  show (if (l.world t).admitsTask ti then _ else none) = _
  rw [if_pos hok]
  show (t.step ti).map _ = _
  rw [hs]
  rfl

/-- **The control plane goes on.** -/
theorem Apart.plane (h : Apart cfg P log s) {i : PlaneInput} {plane' : ControlPlane}
    {out : List PlaneObs} (hs : s.plane.step i = some (plane', out)) (hi : i.task? = none) :
    Apart cfg P (log ++ out.map .plane) ⟨plane', s.links⟩ := by
  have hunseen : (∀ k, out.filterMap (·.taskObs k) = []) →
      ∀ k, worldLog k (out.map .plane) = [] := by
    intro hout k
    rw [worldLog_plane, hout]
    rfl
  cases ControlPlane.planeEffect hs with
  | still _ htasks hout =>
      have hsame : System.tasks ⟨plane', s.links⟩ = s.tasks := htasks
      constructor
      · intro k t ht
        rw [hsame] at ht
        obtain ⟨name, addr, port, master, hstarted⟩ := h.spawned k t ht
        exact ⟨name, addr, port, master, hstarted.unseen (hunseen hout k) rfl⟩
      · intro k hk name addr port master
        rw [hsame] at hk
        exact (h.waiting k hk name addr port master).unseen (hunseen hout k) rfl
  | @spawned name addr port master _ htasks hout =>
      have hadd : System.tasks ⟨plane', s.links⟩
          = s.tasks ++ [ConnectionTask.spawn name addr port master] := htasks
      constructor
      · intro k t ht
        rw [hadd, List.getElem?_append] at ht
        split at ht
        · obtain ⟨name', addr', port', master', hstarted⟩ := h.spawned k t ht
          exact ⟨name', addr', port', master', hstarted.unseen (hunseen hout k) rfl⟩
        · rename_i hge
          obtain rfl := List.mem_singleton.mp (List.mem_of_getElem? ht)
          have hnone : s.tasks[k]? = none := List.getElem?_eq_none (Nat.not_lt.mp hge)
          exact ⟨name, addr, port, master,
            (h.waiting k hnone name addr port master).unseen (hunseen hout k) rfl⟩
      · intro k hk name' addr' port' master'
        rw [hadd, List.getElem?_eq_none_iff, List.length_append] at hk
        have hnone : s.tasks[k]? = none :=
          List.getElem?_eq_none_iff.mpr (Nat.le_of_succ_le hk)
        exact (h.waiting k hnone name' addr' port' master').unseen (hunseen hout k) rfl
  | moved hmoved =>
      rw [hi] at hmoved
      cases hmoved

/-- **A connection task goes on.** -/
theorem Apart.task (h : Apart cfg P log s) {i : PlaneInput} {ti : TaskInput}
    {plane' : ControlPlane} {out : List PlaneObs} (hs : s.plane.step i = some (plane', out))
    (hi : i.task? = some (k, ti))
    (hok : ∀ t, s.tasks[k]? = some t → ((s.links k).world t).admitsTask ti = true)
    (hP : ∀ t, P ((s.links k).world t) (.task ti)) :
    Apart cfg P (log ++ out.map .plane) ⟨plane',
      Function.update s.links k ((s.links k).afterTask (out.filterMap (·.taskObs k)))⟩ := by
  cases ControlPlane.planeEffect hs with
  | still hno => rw [hi] at hno; cases hno
  | spawned hno => rw [hi] at hno; cases hno
  | @moved k' ti' t t' out' hi' hk hst htasks hout =>
      rw [hi] at hi'
      cases hi'
      have hset : ∀ links, System.tasks ⟨plane', links⟩ = s.tasks.set k t' := fun _ => htasks
      have hseen : ∀ j, worldLog j (out.map .plane) = if k = j then out'.map .task else [] := by
        intro j
        rw [worldLog_plane, hout]
        split <;> rfl
      have hlt : k < s.tasks.length := (List.getElem?_eq_some_iff.mp hk).1
      constructor
      · intro j tj hj
        rw [hset] at hj
        by_cases heq : k = j
        · subst heq
          rw [List.getElem?_set_self hlt] at hj
          cases hj
          obtain ⟨name, addr, port, master, hstarted⟩ := h.spawned k t hk
          refine ⟨name, addr, port, master, ?_⟩
          simp only [worldLog_append, hseen, if_pos, Function.update_self, hout]
          exact hstarted.task (hok t hk) (hP t) hst
        · rw [List.getElem?_set_ne heq] at hj
          obtain ⟨name, addr, port, master, hstarted⟩ := h.spawned j tj hj
          exact ⟨name, addr, port, master, hstarted.unseen (by rw [hseen, if_neg heq])
            (Function.update_of_ne (Ne.symm heq) _ _)⟩
      · intro j hj name addr port master
        rw [hset, List.getElem?_eq_none_iff, List.length_set] at hj
        have hne : k ≠ j := by
          rintro rfl
          exact absurd hlt (Nat.not_lt.mpr hj)
        exact (h.waiting j (List.getElem?_eq_none_iff.mpr hj) name addr port master).unseen
          (by rw [hseen, if_neg hne]) (Function.update_of_ne (Ne.symm hne) _ _)

/-- **A device goes on.** -/
theorem Apart.device (h : Apart cfg P log s) {i : DevInput} {d' : Device} {out : List DevObs}
    (hok : s.admitsDevice k i = true) (hP : ∀ t, P ((s.links k).world t) (.device i))
    (hs : (s.links k).device.step (cfg k) i = some (d', out)) :
    Apart cfg P (log ++ out.map (.device k))
      ⟨s.plane, Function.update s.links k ((s.links k).afterDevice d' out)⟩ := by
  have hother : ∀ {j : TaskId} {t t₀ : ConnectionTask}, k ≠ j →
      Started (cfg j) P (worldLog j log) (s.links j) t t₀ →
      Started (cfg j) P (worldLog j (log ++ out.map (.device k)))
        (Function.update s.links k ((s.links k).afterDevice d' out) j) t t₀ := by
    intro j t t₀ hne hstarted
    exact hstarted.unseen (by rw [worldLog_device, if_neg hne])
      (Function.update_of_ne (Ne.symm hne) _ _)
  constructor
  · intro j t ht
    obtain ⟨name, addr, port, master, hstarted⟩ := h.spawned j t ht
    refine ⟨name, addr, port, master, ?_⟩
    by_cases heq : k = j
    · subst heq
      have hopened : s.opened k = t.tcp.opened := by
        have htask : s.tasks[k]? = some t := ht
        rw [opened, htask]
        rfl
      simp only [Function.update_self]
      exact hstarted.device (admitsDevice_eq hopened ▸ hok) (hP t) hs
    · exact hother heq hstarted
  · intro j hj name addr port master
    have hstarted := h.waiting j hj name addr port master
    by_cases heq : k = j
    · subst heq
      have hopened : s.opened k = (ConnectionTask.spawn name addr port master).tcp.opened := by
        have htask : s.tasks[k]? = none := hj
        rw [opened, htask]
        rfl
      simp only [Function.update_self]
      exact hstarted.device (admitsDevice_eq hopened ▸ hok) (hP _) hs
    · exact hother heq hstarted

/-- Connections and devices run as if they were alone, along every run. -/
theorem apart_of_run (h : (machine cfg).Run (OnLinks P) log s) : Apart cfg P log s := by
  refine h.invariant (P := Apart cfg P) ?_ ?_
  · constructor
    · intro k t ht
      cases ht
    · exact fun k _ name addr port master => .init
  · intro log s i s' out hr ha hok hs
    cases step_cases hs with
    | plane hi hplane => exact ha.plane hplane hi
    | task hi hadmits hplane => exact ha.task hplane hi hadmits fun t => hok _ _ t hi
    | device hadmits hdev => exact ha.device hadmits hok hdev

/-- **Seen from a connection and its device**, a run of the system is a run of the two of them. -/
theorem world_of_run (h : (machine cfg).Run (OnLinks P) log s) {t : ConnectionTask}
    (ht : s.tasks[k]? = some t) : ∃ name addr port master,
      (World.machine (cfg k) (ConnectionTask.spawn name addr port master)).Run P (worldLog k log)
        ((s.links k).world t) :=
  (apart_of_run h).spawned k t ht

end System

end TcpUart
