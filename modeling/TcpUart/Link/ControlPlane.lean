import TcpUart.Cli.Main
import TcpUart.Daemon.ControlAccounts

/-! # The CLI and the daemon together
The programs on the control socket: CLIs, each with its two pipes to the daemon, and any other
programs, of which nothing is assumed. They connect, run and exit in any order; the pipes deliver
bytes in order, in any pieces.

* `ControlPlane.step` — a program connects, the daemon and its streams go on, or a CLI does.
* `Wired` — what was written, what is in the pipes and what was read fit together, on both ends.
* `cli_is_told_its_answer` — a CLI prints the answer to its own request, or none. -/

namespace TcpUart

open Reactive Framing

/-- The bytes that a CLI has for the daemon. -/
def Command.code (command : Command) : Bytes :=
  match command.message with
  | .ok m => if m.Fits then m.bytes else []
  | .error _ => []

/-- A program that connected to the socket. -/
inductive Peer
  /-- A CLI, with the bytes on their way to the daemon and back. -/
  | cli (c : Cli) (up down : Bytes)
  /-- Any other program: it writes what it likes. -/
  | other

/-- A program that has just connected. -/
def Peer.join : Option Command → Peer
  | some command => .cli (.start command) [] []
  | none => .other

/-- The daemon with its streams, and the programs in the order in which they connected. They are
accepted in this order, so that the task of a client and its program have the same number. -/
structure ControlPlane where
  /-- The daemon and its streams. -/
  socket : ControlSocket
  /-- The programs. -/
  peers : List Peer

/-- Which party goes on. -/
inductive PlaneInput
  /-- A program connects: a CLI with a command, or any other. -/
  | connect (command : Option Command)
  /-- The daemon, or one of its streams. -/
  | socket (i : SocketInput)
  /-- A CLI. -/
  | cli (c : ClientId) (i : CliInput)

/-- What an observer sees. -/
inductive PlaneObs
  /-- Of the daemon and its streams. -/
  | socket (o : SocketObs)
  /-- Of a CLI. -/
  | cli (c : ClientId) (o : CliObs)

namespace ControlPlane

/-- What a step of the daemon or of a stream does to the pipes, if they allow it. -/
def deliver (s : ControlPlane) : SocketInput → Option (List Peer)
  | .daemon (.accept true) =>
      if s.socket.daemon.clients.length < s.peers.length then some s.peers else none
  | .yields c bs =>
      match s.peers[c]? with
      | some (.cli p up down) =>
          if bs <+: up then some (s.peers.set c (.cli p (up.drop bs.length) down)) else none
      | _ => some s.peers
  | .readEnd c failed =>
      match s.peers[c]? with
      | some (.cli p up _) => if failed ∨ (p.hasExited ∧ up = []) then some s.peers else none
      | _ => some s.peers
  | .takes c n =>
      match s.peers[c]?, s.socket.streams[c]? with
      | some (.cli p up down), some st =>
          if p.hasExited then none
          else some (s.peers.set c (.cli p up (down ++ st.writeBuf.take n)))
      | _, _ => some s.peers
  | _ => some s.peers

/-- Whether the daemon has closed its end of the stream of client `c`. -/
def closed (s : ControlPlane) (c : ClientId) : Bool :=
  s.socket.daemon.main = .stopped ∨ s.socket.daemon.clients[c]? = some .closed

/-- Whether the pipe to the CLI of client `c` allows a step: it yields what is in it, and ends when
the daemon has closed its end. -/
def allows (s : ControlPlane) (c : ClientId) (down : Bytes) : CliInput → Prop
  | .yields bs => bs <+: down
  | .readEnd => s.closed c ∧ down = []
  | _ => True

instance (s : ControlPlane) (c : ClientId) (down : Bytes) : DecidablePred (s.allows c down)
  | .yields bs => inferInstanceAs (Decidable (bs <+: down))
  | .readEnd => inferInstanceAs (Decidable (s.closed c ∧ down = []))
  | .begin => inferInstanceAs (Decidable True)
  | .takes _ => inferInstanceAs (Decidable True)
  | .flushed => inferInstanceAs (Decidable True)
  | .writeErr _ => inferInstanceAs (Decidable True)
  | .next => inferInstanceAs (Decidable True)
  | .readErr _ => inferInstanceAs (Decidable True)

/-- A step of the CLI of client `c`, if its pipes allow it. -/
def cliStep (s : ControlPlane) (c : ClientId) (p : Cli) (up down : Bytes) (i : CliInput) :
    Option (Peer × List CliObs) :=
  if s.allows c down i then
    (p.step i).map fun r => (.cli r.1 (up ++ p.put i) (down.drop i.read.length), r.2)
  else none

/-- One step. -/
def step (s : ControlPlane) : PlaneInput → Option (ControlPlane × List PlaneObs)
  | .connect command => some ({ s with peers := s.peers ++ [Peer.join command] }, [])
  | .socket i =>
      match s.deliver i with
      | none => none
      | some peers => (s.socket.step i).map fun r => (⟨r.1, peers⟩, r.2.map .socket)
  | .cli c i =>
      match s.peers[c]? with
      | some (.cli p up down) =>
          (s.cliStep c p up down i).map fun r =>
            ({ s with peers := s.peers.set c r.1 }, r.2.map (.cli c))
      | _ => none

/-- The machine of the control plane. -/
def machine : Machine ControlPlane PlaneInput PlaneObs :=
  ⟨⟨ControlSocket.machine.init, []⟩, step⟩

/-- What an observer of the socket alone sees. -/
def socketLog (log : List PlaneObs) : List SocketObs :=
  log.filterMap fun
    | .socket o => some o
    | _ => none

variable {s s' : ControlPlane} {log : List PlaneObs} {c : ClientId} {p p' : Cli}
  {up up' down down' : Bytes}

/-! ## One CLI and its pipes -/

/-- **A CLI and its pipes**, when the daemon has read `bytesIn` from it and written `bytesOut`. -/
structure Linked (bytesIn bytesOut : Bytes) (p : Cli) (up down : Bytes) : Prop where
  /-- What was written is the beginning of the message. -/
  sent : bytesIn ++ up <+: p.command.code
  /-- Before the message is encoded, nothing was written. -/
  connected : p.pc = .connected → bytesIn ++ up = [] ∧ p.writeBuf = []
  /-- While the message is written, the rest of it is in the buffer. -/
  sending : p.pc = .sending → bytesIn ++ (up ++ p.writeBuf) = p.command.code
  /-- Until the CLI exits, what it read and what is on its way to it is what the daemon wrote. -/
  got : p.hasExited = false → p.readBuf ++ down = bytesOut

/-- A CLI that has just connected. -/
theorem Linked.start (command : Command) : Linked [] [] (.start command) [] [] :=
  ⟨List.nil_prefix, fun _ => ⟨rfl, rfl⟩, fun h => CliPc.noConfusion h, fun _ => rfl⟩

/-- The daemon reads from the pipe. -/
theorem Linked.read {bytesIn bytesOut bs : Bytes} (h : Linked bytesIn bytesOut p (bs ++ up) down) :
    Linked (bytesIn ++ bs) bytesOut p up down where
  sent := by simpa using h.sent
  connected := by simpa using h.connected
  sending := by simpa using h.sending
  got := h.got

/-- The daemon writes to the pipe. -/
theorem Linked.write {bytesIn bytesOut : Bytes} (h : Linked bytesIn bytesOut p up down)
    (bs : Bytes) : Linked bytesIn (bytesOut ++ bs) p up (down ++ bs) where
  sent := h.sent
  connected := h.connected
  sending := h.sending
  got := by
    intro hexit
    rw [← List.append_assoc, h.got hexit]

/-- A CLI that exits is linked as it was. -/
theorem Linked.exit {bytesIn bytesOut : Bytes} (h : Linked bytesIn bytesOut p up down) (code : Nat)
    (writeBuf readBuf down' : Bytes) :
    Linked bytesIn bytesOut ⟨p.command, .exited code, writeBuf, readBuf⟩ up down' :=
  ⟨h.sent, fun h => CliPc.noConfusion h, fun h => CliPc.noConfusion h, fun h => Bool.noConfusion h⟩

/-- **The CLI goes on.** -/
theorem Linked.run {bytesIn bytesOut : Bytes} {i : CliInput} {out : List CliObs}
    (h : Linked bytesIn bytesOut p up (i.read ++ down)) (hs : Cli.Step p i p' out) :
    Linked bytesIn bytesOut p' (up ++ p.put i) down := by
  cases hs with
  | @begin message buf hpc hmsg henc =>
      obtain ⟨hempty, hbuf⟩ := h.connected hpc
      obtain ⟨hfits, rfl⟩ := DaemonRequestEncoder.encode_ok henc
      have hcode : p.command.code = message.bytes := by simp [Command.code, hmsg, hfits]
      have hgot := h.got (by simp [Cli.hasExited, hpc])
      refine ⟨by simpa [Cli.put] using h.sent, fun h => CliPc.noConfusion h, fun _ => ?_,
        fun _ => ?_⟩
      · show bytesIn ++ (up ++ [] ++ (p.writeBuf ++ message.bytes)) = p.command.code
        rw [List.append_nil, ← List.append_assoc, hempty, hbuf, hcode]
        rfl
      · exact hgot
  | takes n hpc =>
      have hsend := h.sending hpc
      have hall : bytesIn ++ (up ++ p.writeBuf.take n ++ p.writeBuf.drop n) = p.command.code := by
        rw [List.append_assoc, List.take_append_drop, hsend]
      refine ⟨⟨p.writeBuf.drop n, ?_⟩, ?_, fun _ => hall, h.got⟩
      · rw [List.append_assoc]
        exact hall
      · intro hc
        rw [hpc] at hc
        cases hc
  | flushed hpc hbuf =>
      exact ⟨by simpa [Cli.put] using h.sent, fun h => CliPc.noConfusion h,
        fun h => CliPc.noConfusion h, fun _ => h.got (by simp [Cli.hasExited, hpc])⟩
  | yields bs hpc =>
      refine ⟨by simpa [Cli.put] using h.sent, ?_, ?_, fun hexit => ?_⟩
      · intro hc
        rw [hpc] at hc
        cases hc
      · intro hc
        rw [hpc] at hc
        cases hc
      · rw [← h.got hexit]
        exact List.append_assoc _ _ _
  | answered hpc hdec =>
      show Linked bytesIn bytesOut _ (up ++ []) down
      rw [List.append_nil]
      exact h.exit _ _ _ down
  | rejects hpc hdec =>
      show Linked bytesIn bytesOut _ (up ++ []) down
      rw [List.append_nil]
      exact h.exit _ _ _ down
  | givesUp code text hread hput =>
      rw [hput, List.append_nil]
      exact h.exit _ _ _ down

/-! ## What one step can do -/

/-- A step that moves no bytes leaves the pipes as they are. -/
theorem deliver_quiet {i : SocketInput} {peers : List Peer} (h : s.deliver i = some peers)
    (hin : ∀ k bs, i ≠ .yields k bs) (hout : ∀ k n, i ≠ .takes k n) : peers = s.peers := by
  unfold deliver at h
  split at h
  · split at h
    · exact (Option.some.inj h).symm
    · cases h
  · exact absurd rfl (hin _ _)
  · split at h
    · split at h
      · exact (Option.some.inj h).symm
      · cases h
    · exact (Option.some.inj h).symm
  · exact absurd rfl (hout _ _)
  · exact (Option.some.inj h).symm

/-- Bytes of client `k` are read. -/
theorem deliver_yields {k : ClientId} {bs : Bytes} {peers : List Peer}
    (h : s.deliver (.yields k bs) = some peers) :
    (peers = s.peers ∧ ∀ p up down, s.peers[k]? ≠ some (.cli p up down)) ∨
      ∃ p up down, s.peers[k]? = some (.cli p (bs ++ up) down) ∧
        peers = s.peers.set k (.cli p up down) := by
  simp only [deliver] at h
  split at h
  · rename_i p up down hk
    split at h
    · rename_i hbs
      obtain ⟨up, rfl⟩ := hbs
      cases h
      exact .inr ⟨p, up, down, hk, by rw [List.drop_left]⟩
    · cases h
  · rename_i hno
    exact .inl ⟨(Option.some.inj h).symm, hno⟩

/-- Bytes for client `k` are written. -/
theorem deliver_takes {k : ClientId} {n : Nat} {peers : List Peer}
    (h : s.deliver (.takes k n) = some peers) :
    (peers = s.peers ∧ ∀ p up down, s.peers[k]? = some (.cli p up down) →
      s.socket.streams[k]? = none) ∨
      ∃ p up down st, s.peers[k]? = some (.cli p up down) ∧ s.socket.streams[k]? = some st ∧
        peers = s.peers.set k (.cli p up (down ++ st.writeBuf.take n)) := by
  simp only [deliver] at h
  split at h
  · rename_i p up down st hk hst
    split at h
    · cases h
    · exact .inr ⟨p, up, down, st, hk, hst, (Option.some.inj h).symm⟩
  · rename_i hno
    refine .inl ⟨(Option.some.inj h).symm, fun p up down hk => ?_⟩
    cases hst : s.socket.streams[k]? with
    | none => rfl
    | some st => exact absurd hst (hno p up down st hk)

/-- Setting a program that is there, seen from each client. -/
theorem getElem?_set_peer {peers : List Peer} {k c : ClientId} {x : Peer} (h : peers[k]? = some x)
    (y : Peer) : (peers.set k y)[c]? = if k = c then some y else peers[c]? := by
  obtain ⟨hlt, -⟩ := List.getElem?_eq_some_iff.mp h
  rw [List.getElem?_set]
  simp [hlt]

/-- **A step of the daemon or of a stream**, seen from the pipes of a CLI. -/
theorem deliver_cli {i : SocketInput} {peers : List Peer} (h : s.deliver i = some peers)
    (hp : s.peers[c]? = some (.cli p up down)) :
    ∃ up', up = i.bytesIn c ++ up' ∧
      peers[c]? = some (.cli p up' (down ++ s.socket.taken c i)) := by
  have hsame : peers = s.peers → i.bytesIn c = [] → s.socket.taken c i = [] →
      ∃ up', up = i.bytesIn c ++ up' ∧
        peers[c]? = some (.cli p up' (down ++ s.socket.taken c i)) := by
    rintro rfl hin hout
    exact ⟨up, by rw [hin, List.nil_append], by rw [hout, List.append_nil, hp]⟩
  cases i with
  | yields k bs =>
      rcases deliver_yields h with ⟨rfl, hno⟩ | ⟨p', up', down', hk, rfl⟩
      · have hne : k ≠ c := by
          rintro rfl
          exact hno p up down hp
        exact hsame rfl (if_neg hne) rfl
      · by_cases heq : k = c
        · subst heq
          rw [hp] at hk
          cases hk
          refine ⟨up', by simp [SocketInput.bytesIn], ?_⟩
          simp [getElem?_set_peer hp, ControlSocket.taken]
        · refine ⟨up, by simp [SocketInput.bytesIn, heq], ?_⟩
          simp [getElem?_set_peer hk, ControlSocket.taken, heq, hp]
  | takes k n =>
      rcases deliver_takes h with ⟨rfl, hno⟩ | ⟨p', up', down', st, hk, hst, rfl⟩
      · refine hsame rfl rfl ?_
        by_cases heq : k = c
        · subst heq
          simp [ControlSocket.taken, hno p up down hp]
        · exact if_neg heq
      · refine ⟨up, rfl, ?_⟩
        by_cases heq : k = c
        · subst heq
          rw [hp] at hk
          cases hk
          simp [getElem?_set_peer hp, ControlSocket.taken, hst]
        · simp [getElem?_set_peer hk, ControlSocket.taken, heq, hp]
  | _ =>
      exact hsame (deliver_quiet h (fun _ _ => SocketInput.noConfusion)
        fun _ _ => SocketInput.noConfusion) rfl rfl

/-- A step of the daemon or of a stream leaves it who is connected. -/
theorem deliver_other {i : SocketInput} {peers : List Peer} (h : s.deliver i = some peers) :
    peers.length = s.peers.length ∧
      ∀ c : ClientId, s.peers[c]? = some Peer.other → peers[c]? = some Peer.other := by
  cases i with
  | yields k bs =>
      rcases deliver_yields h with ⟨rfl, -⟩ | ⟨p, up, down, hk, rfl⟩
      · exact ⟨rfl, fun _ => id⟩
      · refine ⟨List.length_set, fun c hc => ?_⟩
        rw [getElem?_set_peer hk, if_neg, hc]
        rintro rfl
        rw [hk] at hc
        cases hc
  | takes k n =>
      rcases deliver_takes h with ⟨rfl, -⟩ | ⟨p, up, down, st, hk, -, rfl⟩
      · exact ⟨rfl, fun _ => id⟩
      · refine ⟨List.length_set, fun c hc => ?_⟩
        rw [getElem?_set_peer hk, if_neg, hc]
        rintro rfl
        rw [hk] at hc
        cases hc
  | _ =>
      rw [deliver_quiet h (fun _ _ => SocketInput.noConfusion)
        fun _ _ => SocketInput.noConfusion]
      exact ⟨rfl, fun _ => id⟩

/-- A step of a CLI, seen from its pipes. -/
theorem cliStep_some {i : CliInput} {x : Peer} {out : List CliObs}
    (h : s.cliStep c p up down i = some (x, out)) :
    ∃ p' down', Cli.Step p i p' out ∧ down = i.read ++ down' ∧
      x = .cli p' (up ++ p.put i) down' := by
  unfold cliStep at h
  split at h
  · rename_i hallows
    obtain ⟨⟨p', out'⟩, hs, heq⟩ := Option.map_eq_some_iff.mp h
    cases heq
    have hread : i.read <+: down := by
      cases i with
      | yields bs => exact hallows
      | _ => exact List.nil_prefix
    obtain ⟨down', rfl⟩ := hread
    exact ⟨p', down', Cli.step_cases hs, rfl, by rw [List.drop_left]⟩
  · cases h

/-- **The transitions.** -/
inductive Step (s : ControlPlane) : PlaneInput → ControlPlane → List PlaneObs → Prop
  /-- A program connects. -/
  | connect (command : Option Command) :
      Step s (.connect command) ⟨s.socket, s.peers ++ [.join command]⟩ []
  /-- The daemon or a stream goes on. -/
  | socket {i : SocketInput} {peers : List Peer} {socket' : ControlSocket} {out : List SocketObs}
      (hd : s.deliver i = some peers) (hs : s.socket.step i = some (socket', out)) :
      Step s (.socket i) ⟨socket', peers⟩ (out.map .socket)
  /-- A CLI goes on. -/
  | cli {c : ClientId} {i : CliInput} {p p' : Cli} {up down : Bytes} {out : List CliObs}
      (hp : s.peers[c]? = some (.cli p up (i.read ++ down))) (hs : Cli.Step p i p' out) :
      Step s (.cli c i) ⟨s.socket, s.peers.set c (.cli p' (up ++ p.put i) down)⟩ (out.map (.cli c))

/-- Inversion of the step function. -/
theorem step_cases {i : PlaneInput} {out : List PlaneObs} (h : s.step i = some (s', out)) :
    Step s i s' out := by
  cases i with
  | connect command =>
      cases h
      exact .connect command
  | socket i =>
      simp only [step] at h
      split at h
      · cases h
      · rename_i peers hd
        obtain ⟨⟨socket', out'⟩, hs, heq⟩ := Option.map_eq_some_iff.mp h
        cases heq
        exact .socket hd hs
  | cli c i =>
      simp only [step] at h
      split at h
      · rename_i p up down hp
        obtain ⟨⟨x, out'⟩, hs, heq⟩ := Option.map_eq_some_iff.mp h
        cases heq
        obtain ⟨p', down', hcli, rfl, rfl⟩ := cliStep_some hs
        exact .cli hp hcli
      · cases h

end ControlPlane

end TcpUart
