import TcpUart.Lib.KeyedVector
import TcpUart.Lib.SwapRemove
import TcpUart.Codec.Control

/-! # The connections of the daemon (`daemon/src/state.rs`)
`State` is a vector of connections that is searched by name and shrunk with `swap_remove`.

* `State.remove_some`, `State.remove_none` — what `remove` does: it takes out one entry of that
  name, or there is none.
* `State.toMap` — the finite map from names to connections that a `State` stands for, and what the
  operations are on it. -/

namespace TcpUart

open Reactive

/-- A spawned connection task, by the order in which they were spawned. -/
abbrev TaskId := Nat

/-- `Connection`. The two senders `shutdown_tx` and `ctl_req_tx` belong to channels of the spawned
task, which `task` names. -/
structure Connection where
  /-- Name of the connection. -/
  name : String
  /-- Address of the device. -/
  addr : UInt32
  /-- Port of the device. -/
  port : UInt16
  /-- Path of the PTY slave. -/
  slavePath : String
  /-- The task behind `shutdown_tx` and `ctl_req_tx`. -/
  task : TaskId
  /-- The number of the event that asked for the connection. The source has no such field: it only
  serves to say what came first. -/
  added : Nat
  deriving DecidableEq

/-- `State`. -/
structure State where
  /-- The connections. -/
  conns : List Connection
  deriving DecidableEq

namespace State

/-- `State::default`. -/
def default : State := ⟨[]⟩

/-- `State::add`. -/
def add (s : State) (conn : Connection) : State := ⟨s.conns ++ [conn]⟩

/-- `State::remove`, without the `shutdown` of the connection that was taken out, which is up to the
caller; `none` stands for `false`. -/
def remove (s : State) (name : String) : Option (Connection × State) :=
  match s.conns.findIdx? fun c => c.name = name with
  | none => none
  | some pos => (s.conns[pos]?).map fun conn => (conn, ⟨swapRemove s.conns pos⟩)

/-- `self.conns.iter_mut().find(..)` in `State::send_hardware_ctl`. -/
def find (s : State) (name : String) : Option Connection :=
  s.conns.find? fun c => c.name = name

/-- `State::exists`. -/
def exists_ (s : State) (name : String) : Bool := s.conns.any fun c => c.name = name

/-- A name that does not exist is the name of no entry. -/
theorem name_ne_of_exists {s : State} {name : String} (h : s.exists_ name = false) {c : Connection}
    (hc : c ∈ s.conns) : c.name ≠ name := by
  intro heq
  rw [exists_, List.any_eq_false] at h
  exact h c hc (decide_eq_true heq)

/-- **What `remove` does**: it takes out one entry of that name and keeps the others. -/
theorem remove_some {s s' : State} {name : String} {conn : Connection}
    (h : s.remove name = some (conn, s')) : conn.name = name ∧ (conn :: s'.conns).Perm s.conns := by
  unfold remove at h
  split at h
  · cases h
  · rename_i pos hpos
    obtain ⟨c, hc, heq⟩ := Option.map_eq_some_iff.mp h
    cases heq
    obtain ⟨hlt, hname, -⟩ := List.findIdx?_eq_some_iff_getElem.mp hpos
    obtain ⟨_, hget⟩ := List.getElem?_eq_some_iff.mp hc
    refine ⟨?_, perm_swapRemove hc⟩
    rw [← hget]
    exact of_decide_eq_true hname

/-- If nothing is taken out, there is no entry of that name. -/
theorem remove_none {s : State} {name : String} (h : s.remove name = none) {c : Connection}
    (hc : c ∈ s.conns) : c.name ≠ name := by
  intro heq
  unfold remove at h
  split at h
  · rename_i hpos
    have := List.findIdx?_eq_none_iff.mp hpos c hc
    simp [heq] at this
  · rename_i pos hpos
    obtain ⟨hlt, -⟩ := List.findIdx?_eq_some_iff_getElem.mp hpos
    rw [Option.map_eq_none_iff, List.getElem?_eq_none_iff] at h
    omega

/-! ## The map of names -/

/-- The names of the connections, in the order of the vector. -/
def names (s : State) : List String := s.conns.map Connection.name

/-- The finite map from names to connections that the vector stands for. -/
def toMap (s : State) : Finmap fun _ : String => Connection := Reactive.toMap Connection.name s.conns

/-- `exists` says whether a name is bound. -/
theorem exists_iff (s : State) (name : String) : s.exists_ name = true ↔ name ∈ s.toMap := by
  rw [toMap, mem_toMap, exists_, List.any_eq_true]
  simp only [decide_eq_true_eq]

/-- `add` under a name that does not exist is a new binding. -/
theorem toMap_add {s : State} {conn : Connection} (h : conn.name ∉ s.toMap) :
    (s.add conn).toMap = s.toMap.insert conn.name conn :=
  toMap_concat h

/-- `remove` of a name that exists erases its binding. -/
theorem toMap_of_remove {s s' : State} {name : String} {conn : Connection} (hd : s.names.Nodup)
    (h : s.remove name = some (conn, s')) : s'.toMap = s.toMap.erase name := by
  obtain ⟨rfl, hperm⟩ := remove_some h
  exact toMap_of_perm_cons hd hperm

/-- A name that is removed was bound. -/
theorem mem_toMap_of_remove {s s' : State} {name : String} {conn : Connection}
    (h : s.remove name = some (conn, s')) : name ∈ s.toMap := by
  obtain ⟨hname, hperm⟩ := remove_some h
  exact mem_toMap.mpr ⟨conn, hperm.subset List.mem_cons_self, hname⟩

/-- `remove` finds nothing exactly for a name that is not bound. -/
theorem notMem_toMap_of_remove {s : State} {name : String} (h : s.remove name = none) :
    name ∉ s.toMap := by
  intro hmem
  obtain ⟨c, hc, hname⟩ := mem_toMap.mp hmem
  exact remove_none h hc hname

end State

end TcpUart
