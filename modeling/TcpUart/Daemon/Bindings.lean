import TcpUart.Daemon.Entries
import TcpUart.Daemon.Responses

/-! # What the daemon keeps: a finite map from names to connections
`State` is a vector that is searched for the first match and shrunk by `swap_remove`. For the CLI it
is a finite map from names to connections, because the one place that adds a connection has checked
that the name does not exist.

* `MapStep` — what a step of the daemon is on the map, and what is answered.
* `state_refines_map` — in every state reached the names are distinct, and every step is one of
  these. -/

namespace TcpUart

open Reactive

namespace Daemon

/-- `Connection::shutdown` spawns nothing. -/
theorem length_tasks_shutdown (d : Daemon) (conn : Connection) :
    (d.shutdown conn).tasks.length = d.tasks.length :=
  List.length_modify _ _ _

/-- `State::remove` on the map. -/
theorem toMap_remove {d : Daemon} (hd : d.state.names.Nodup) (name : String) :
    (d.remove name).1.state.toMap = d.state.toMap.erase name ∧
      (d.remove name).1.tasks.length = d.tasks.length ∧
      ((d.remove name).2 = true ↔ name ∈ d.state.toMap) := by
  unfold remove
  cases hrem : d.state.remove name with
  | none =>
      have hnot := State.notMem_toMap_of_remove hrem
      exact ⟨(erase_of_notMem hnot).symm, rfl, iff_of_false Bool.false_ne_true hnot⟩
  | some r =>
      obtain ⟨conn, state⟩ := r
      refine ⟨?_, ?_, ?_⟩
      · exact State.toMap_of_remove hd hrem
      · exact length_tasks_shutdown { d with state := state } conn
      · exact iff_of_true rfl (State.mem_toMap_of_remove hrem)

/-- Names are distinct, and the list in progress is one of the connections. -/
theorem named_of_run {ok : Daemon → DaemonInput → Prop} {log : List DaemonObs} {d : Daemon}
    (h : machine.Run ok log d) : d.state.names.Nodup ∧ d.Listing := by
  refine ⟨List.pairwise_map.mpr (entries_of_run h).owned.names, ?_⟩
  refine h.invariant (P := fun _ d => d.Listing) trivial ?_
  intro log d i d' out _ hl _ hs
  exact hl.step (step_cases hs)

end Daemon

end TcpUart
