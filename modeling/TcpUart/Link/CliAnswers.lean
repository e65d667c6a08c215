import TcpUart.Link.ControlPlane

/-! # What the CLI prints
A CLI knows nothing of the daemon but the bytes of its stream. This module says what it can rely on,
whatever the other programs on the socket do.

* `Wired` — the pipes of every CLI and the streams of the daemon fit together, along every run.
* `cli_is_told_its_answer` — what a CLI prints is the answer to its own request.
* `list_prints_what_was_added` — what `list` prints is what `add` was given. -/

namespace TcpUart

open Reactive Framing

namespace ControlPlane

variable {s s' : ControlPlane} {log : List PlaneObs} {c : ClientId} {p p' : Cli} {up down : Bytes}

/-! ## The pipes along a run -/

/-- The observations of a step of the socket. -/
@[simp] theorem socketLog_socket (out : List SocketObs) : socketLog (out.map .socket) = out := by
  induction out with
  | nil => rfl
  | cons o out ih => simp [socketLog]

/-- The observations of a step of a CLI. -/
@[simp] theorem socketLog_cli (c : ClientId) (out : List CliObs) :
    socketLog (out.map (.cli c)) = [] := by
  induction out with
  | nil => rfl
  | cons o out ih => simp [socketLog]

/-- What an observer of the socket sees, part by part. -/
@[simp] theorem socketLog_append (log out : List PlaneObs) :
    socketLog (log ++ out) = socketLog log ++ socketLog out :=
  List.filterMap_append

/-- What the daemon and its streams do among the programs is a run of theirs. -/
theorem socket_run (h : machine.Reaches log s) :
    ControlSocket.machine.Reaches (socketLog log) s.socket := by
  refine Machine.Run.project (M := machine) ControlPlane.socket _ rfl ?_ h
  intro s i s' out _ hstep
  cases step_cases hstep with
  | connect => exact .inr ⟨rfl, rfl⟩
  | @socket i peers socket' out hd hs =>
      refine .inl ⟨i, trivial, ?_⟩
      show ControlSocket.machine.step s.socket i = some (socket', socketLog (out.map .socket))
      rw [socketLog_socket]
      exact hs
  | @cli c i p p' up down out hp hs => exact .inr ⟨rfl, socketLog_cli c out⟩

/-- The bytes that the daemon read from client `c`. -/
def readFrom (log : List PlaneObs) (c : ClientId) : Bytes :=
  (socketLog log).flatMap (SocketObs.bytesIn c)

/-- The bytes that the daemon wrote to client `c`. -/
def writtenTo (log : List PlaneObs) (c : ClientId) : Bytes :=
  (socketLog log).flatMap (SocketObs.bytesOut c)

/-- **The programs are wired to the daemon.** -/
structure Wired (log : List PlaneObs) (s : ControlPlane) : Prop where
  /-- Who was accepted had connected. -/
  joined : s.socket.streams.length ≤ s.peers.length
  /-- Nothing is read from or written to a program that is not there. -/
  fresh : ∀ c, s.peers[c]? = none → readFrom log c = [] ∧ writtenTo log c = []
  /-- What a CLI wrote, what it read and what is in its pipes fit together. -/
  linked : ∀ c p up down, s.peers[c]? = some (.cli p up down) →
    Linked (readFrom log c) (writtenTo log c) p up down

/-- A program connects. -/
theorem Wired.connect (h : Wired log s) (command : Option Command) :
    Wired log ⟨s.socket, s.peers ++ [.join command]⟩ where
  joined := by
    rw [List.length_append]
    exact Nat.le_succ_of_le h.joined
  fresh := by
    intro c hc
    rw [List.getElem?_eq_none_iff, List.length_append] at hc
    exact h.fresh c (List.getElem?_eq_none_iff.mpr (Nat.le_of_succ_le hc))
  linked := by
    intro c p up down hc
    rcases Nat.lt_trichotomy c s.peers.length with hlt | rfl | hgt
    · exact h.linked c p up down (by rwa [List.getElem?_append_left hlt] at hc)
    · obtain ⟨hin, hout⟩ := h.fresh s.peers.length (List.getElem?_length _)
      rw [List.getElem?_concat_length] at hc
      cases command with
      | none => cases hc
      | some command =>
          cases hc
          rw [hin, hout]
          exact .start command
    · have hnone : (s.peers ++ [.join command])[c]? = none := by
        rw [List.getElem?_eq_none_iff, List.length_append]
        exact hgt
      rw [hnone] at hc
      cases hc

/-- Who is accepted has connected. -/
theorem deliver_joining {i : SocketInput} {peers : List Peer} (hd : s.deliver i = some peers)
    (hle : s.socket.daemon.clients.length ≤ s.peers.length) :
    s.socket.daemon.clients.length + ControlSocket.joining i ≤ s.peers.length := by
  unfold ControlSocket.joining
  split
  · unfold ControlSocket.opens
    split
    · simp only [deliver] at hd
      split at hd
      · assumption
      · cases hd
    · exact hle
  · exact hle

/-- The daemon or a stream goes on. -/
theorem Wired.socket (h : Wired log s) {i : SocketInput} {peers : List Peer}
    {socket' : ControlSocket} {out : List SocketObs}
    (hlen : s.socket.streams.length = s.socket.daemon.clients.length)
    (hd : s.deliver i = some peers) (hs : ControlSocket.Step s.socket i socket' out) :
    Wired (log ++ out.map .socket) ⟨socket', peers⟩ := by
  obtain ⟨hpeers, hother⟩ := deliver_other hd
  have hin : ∀ c, readFrom (log ++ out.map .socket) c = readFrom log c ++ i.bytesIn c := by
    intro c
    simp [readFrom, ← hs.bytesIn_eq c]
  have hout : ∀ c,
      writtenTo (log ++ out.map .socket) c = writtenTo log c ++ s.socket.taken c i := by
    intro c
    simp [writtenTo, ← hs.bytesOut_eq c]
  refine ⟨?_, ?_, ?_⟩
  · rw [hs.length_streams, hpeers]
    rw [hlen]
    exact deliver_joining hd (hlen ▸ h.joined)
  · intro c hc
    have hnone : s.peers[c]? = none := by
      rw [List.getElem?_eq_none_iff] at hc ⊢
      rwa [← hpeers]
    have hstream : s.socket.streams[c]? = none := by
      rw [List.getElem?_eq_none_iff] at hnone ⊢
      exact Nat.le_trans h.joined hnone
    rw [hin, hout, hs.bytesIn_eq_nil hstream, ControlSocket.taken_eq_nil hstream, List.append_nil,
      List.append_nil]
    exact h.fresh c hnone
  · intro c p up down hc
    cases hp : s.peers[c]? with
    | none =>
        rw [List.getElem?_eq_none_iff, ← hpeers, ← List.getElem?_eq_none_iff] at hp
        rw [hp] at hc
        cases hc
    | some x =>
        cases x with
        | other =>
            rw [hother c hp] at hc
            cases hc
        | cli p₀ up₀ down₀ =>
            obtain ⟨up', rfl, hc'⟩ := deliver_cli hd hp
            rw [hc'] at hc
            cases hc
            rw [hin, hout]
            exact ((h.linked c _ _ _ hp).read).write _

/-- A CLI goes on. -/
theorem Wired.cli (h : Wired log s) {k : ClientId} {i : CliInput} {out : List CliObs}
    (hp : s.peers[k]? = some (.cli p up (i.read ++ down))) (hs : Cli.Step p i p' out) :
    Wired (log ++ out.map (.cli k)) ⟨s.socket, s.peers.set k (.cli p' (up ++ p.put i) down)⟩ := by
  have hin : ∀ c, readFrom (log ++ out.map (.cli k)) c = readFrom log c := by
    intro c
    simp [readFrom]
  have hout : ∀ c, writtenTo (log ++ out.map (.cli k)) c = writtenTo log c := by
    intro c
    simp [writtenTo]
  refine ⟨?_, ?_, ?_⟩
  · rw [List.length_set]
    exact h.joined
  · intro c hc
    rw [hin, hout]
    refine h.fresh c ?_
    rw [List.getElem?_eq_none_iff, List.length_set] at hc
    exact List.getElem?_eq_none_iff.mpr hc
  · intro c p₁ up₁ down₁ hc
    rw [hin, hout]
    rw [getElem?_set_peer hp] at hc
    by_cases hk : k = c
    · subst hk
      rw [if_pos rfl] at hc
      cases hc
      exact (h.linked k _ _ _ hp).run hs
    · rw [if_neg hk] at hc
      exact h.linked c _ _ _ hc

/-- **The programs are wired to the daemon** along every run. -/
theorem wired_of_run (h : machine.Reaches log s) : Wired log s := by
  refine h.invariant (P := Wired) ⟨Nat.le_refl _, fun c _ => ⟨rfl, rfl⟩, ?_⟩ ?_
  · intro c p up down hc
    cases hc
  · intro log s i s' out hr hw _ hstep
    cases step_cases hstep with
    | connect command =>
        rw [List.append_nil]
        exact hw.connect command
    | socket hd hs =>
        exact hw.socket (ControlSocket.length_streams (socket_run hr)) hd
          (ControlSocket.step_cases hs)
    | cli hp hs => exact hw.cli hp hs

/-! ## One request, one response -/

/-- The calls of client `c` that are complete. -/
def callsOfPeer (log : List PlaneObs) (c : ClientId) : List (DaemonRequest × DaemonResponse) :=
  (ControlSocket.ledger (socketLog log) c).calls

/-- The requests of client `c` that were decoded. -/
def askedByPeer (log : List PlaneObs) (c : ClientId) : List DaemonRequest :=
  (ControlSocket.ledger (socketLog log) c).asked

/-- The code of a request is not empty. -/
theorem bytes_ne_nil (req : DaemonRequest) : req.bytes ≠ [] :=
  List.cons_ne_nil _ _

/-- **What is read from a CLI** is its message, or nothing yet. -/
theorem asked_of_code {asked : List DaemonRequest} {rest : Bytes} {command : Command}
    (hfits : ∀ req ∈ asked, req.Fits)
    (h : stream DaemonRequest.bytes asked ++ rest <+: command.code) :
    asked = [] ∨ ∃ m, command.message = .ok m ∧ asked = [m] := by
  cases asked with
  | nil => exact .inl rfl
  | cons req reqs =>
      obtain ⟨t, ht⟩ := h
      rw [stream_cons, List.append_assoc, List.append_assoc] at ht
      unfold Command.code at ht
      split at ht
      · rename_i m hm
        split at ht
        · rename_i hfit
          have hreq := (DaemonRequestDecoder.reads_bytes (hfits req List.mem_cons_self)).whole
            (stream DaemonRequest.bytes reqs ++ (rest ++ t))
          have hmsg := (DaemonRequestDecoder.reads_bytes hfit).whole []
          rw [List.append_nil, ← ht, hreq, Decoded.item.injEq] at hmsg
          obtain ⟨rfl, hnil⟩ := hmsg
          have hreqs : stream DaemonRequest.bytes reqs = [] := (List.append_eq_nil_iff.mp hnil).1
          cases reqs with
          | nil => exact .inr ⟨req, hm, rfl⟩
          | cons req' reqs =>
              exact absurd (List.append_eq_nil_iff.mp hreqs).1 (bytes_ne_nil req')
        · exact absurd (List.append_eq_nil_iff.mp ht).1 (bytes_ne_nil req)
      · exact absurd (List.append_eq_nil_iff.mp ht).1 (bytes_ne_nil req)

/-- A CLI asks for nothing but its command, and once. -/
theorem asked_of_cli (h : machine.Reaches log s) (hp : s.peers[c]? = some (.cli p up down)) :
    askedByPeer log c = [] ∨ ∃ m, p.command.message = .ok m ∧ askedByPeer log c = [m] := by
  obtain ⟨hheard, -⟩ := ControlSocket.balanced_of_run (socket_run h) c
  have hsent := ((wired_of_run h).linked c p up down hp).sent
  have hread : readFrom log c = stream DaemonRequest.bytes (askedByPeer log c)
      ++ (s.socket.view c).readBuf := hheard.read
  rw [hread, List.append_assoc] at hsent
  exact asked_of_code hheard.fits hsent

/-- The calls of a CLI: none, or one, with its message. -/
theorem calls_of_cli (h : machine.Reaches log s) (hp : s.peers[c]? = some (.cli p up down)) :
    callsOfPeer log c = [] ∨ ∃ m r, p.command.message = .ok m ∧ callsOfPeer log c = [(m, r)] := by
  obtain ⟨hheard, -⟩ := ControlSocket.balanced_of_run (socket_run h) c
  have hasked : askedByPeer log c = (callsOfPeer log c).map Prod.fst ++ _ := hheard.asked
  generalize callsOfPeer log c = calls at hasked
  rcases asked_of_cli h hp with hnil | ⟨m, hm, hone⟩
  · rw [hnil] at hasked
    exact .inl (List.map_eq_nil_iff.mp (List.append_eq_nil_iff.mp hasked.symm).1)
  · rw [hone] at hasked
    rcases List.append_eq_singleton_iff.mp hasked.symm with ⟨hnil, -⟩ | ⟨hcalls, -⟩
    · exact .inl (List.map_eq_nil_iff.mp hnil)
    · obtain ⟨⟨m', r⟩, rfl, rfl⟩ := List.map_eq_singleton_iff.mp hcalls
      exact .inr ⟨_, r, hm, rfl⟩

/-- **What a CLI reads** is not a whole response yet, or is the response to its message. -/
theorem decode_of_cli (h : machine.Reaches log s) (hp : s.peers[c]? = some (.cli p up down))
    (hexit : p.hasExited = false) : DaemonResponseDecoder.decode p.readBuf = .incomplete ∨
      ∃ m r rest, p.command.message = .ok m ∧ callsOfPeer log c = [(m, r)] ∧
        DaemonResponseDecoder.decode p.readBuf = .item r.received rest := by
  obtain ⟨-, htold⟩ := ControlSocket.balanced_of_run (socket_run h) c
  obtain ⟨resps, hpre, hfits, hbytes⟩ := htold.written
  have hgot := ((wired_of_run h).linked c p up down hp).got hexit
  have hbuf : p.readBuf <+: stream DaemonResponse.bytes resps :=
    List.IsPrefix.trans ⟨down, hgot⟩ hbytes
  have hcalls : (ControlSocket.ledger (socketLog log) c).calls = callsOfPeer log c := rfl
  rw [hcalls] at hpre
  have hempty : resps = [] → DaemonResponseDecoder.decode p.readBuf = .incomplete := by
    rintro rfl
    rw [List.prefix_nil.mp hbuf]
    exact DaemonResponseDecoder.streaming_decode.nil
  rcases calls_of_cli h hp with hnil | ⟨m, r, hm, hone⟩
  · rw [hnil] at hpre
    exact .inl (hempty (List.prefix_nil.mp hpre))
  · rw [hone] at hpre
    cases resps with
    | nil => exact .inl (hempty rfl)
    | cons r' resps =>
        obtain ⟨rfl, hrest⟩ := List.cons_prefix_cons.mp hpre
        rw [List.prefix_nil.mp hrest, stream_cons, stream_nil, List.append_nil] at hbuf
        have hfit := hfits r' List.mem_cons_self
        rcases DaemonResponse.decode_of_prefix hfit hbuf with hdec | ⟨rest, hdec⟩
        · exact .inl hdec
        · exact .inr ⟨m, r', rest, hm, hone, hdec⟩

/-! ## What is printed -/

/-- A CLI stays connected, with its command. -/
theorem Step.command_eq {i : PlaneInput} {out : List PlaneObs} (hs : Step s i s' out)
    (hp : s.peers[c]? = some (.cli p up down)) :
    ∃ p' up' down', s'.peers[c]? = some (.cli p' up' down') ∧ p'.command = p.command := by
  cases hs with
  | connect command =>
      refine ⟨p, up, down, ?_, rfl⟩
      rwa [List.getElem?_append_left (List.getElem?_eq_some_iff.mp hp).1]
  | socket hd hs =>
      obtain ⟨up', -, hc⟩ := deliver_cli hd hp
      exact ⟨p, up', _, hc, rfl⟩
  | @cli k i q q' upq downq out hk hs =>
      rw [getElem?_set_peer hk]
      by_cases heq : k = c
      · subst heq
        rw [hp] at hk
        cases hk
        rw [if_pos rfl]
        exact ⟨_, _, _, rfl, hs.command_eq⟩
      · rw [if_neg heq]
        exact ⟨p, up, down, hp, rfl⟩

/-- Calls that are complete stay. -/
theorem callsOfPeer_prefix (h : machine.Reaches log s) (out : List PlaneObs) (c : ClientId) :
    callsOfPeer log c <+: callsOfPeer (log ++ out) c := by
  have hrun := ControlSocket.daemon_run (socket_run h)
  unfold callsOfPeer
  rw [socketLog_append, ControlSocket.ledger_append (Daemon.operations_legal hrun).1]
  exact List.prefix_append _ _

/-- **The response to a CLI**, once its call is complete. -/
structure AnsweredWith (log : List PlaneObs) (s : ControlPlane) (c : ClientId) (m : DaemonRequest)
    (r : DaemonResponse) : Prop where
  /-- It is a CLI, and asks with this message. -/
  asks : ∃ p up down, s.peers[c]? = some (.cli p up down) ∧ p.command.message = .ok m
  /-- This is its only call. -/
  calls : callsOfPeer log c = [(m, r)]

/-- The response to a CLI stays. -/
theorem AnsweredWith.step {i : PlaneInput} {out : List PlaneObs} {m : DaemonRequest}
    {r : DaemonResponse} (h : AnsweredWith log s c m r) (hr : machine.Reaches log s)
    (hs : s.step i = some (s', out)) : AnsweredWith (log ++ out) s' c m r := by
  obtain ⟨⟨p, up, down, hp, hm⟩, hcalls⟩ := h
  obtain ⟨p', up', down', hp', hcmd⟩ := (step_cases hs).command_eq hp
  refine ⟨⟨p', up', down', hp', by rw [hcmd, hm]⟩, ?_⟩
  have hpre := callsOfPeer_prefix hr out c
  rw [hcalls] at hpre
  rcases calls_of_cli (hr.step hs) hp' with hnil | ⟨m', r', -, hone⟩
  · rw [hnil] at hpre
    cases List.prefix_nil.mp hpre
  · rw [hone] at hpre ⊢
    obtain ⟨heq, -⟩ := List.cons_prefix_cons.mp hpre
    rw [heq]

/-- What a CLI shows, when its decoder never fails: that it gives up, or the response to it. -/
def Shows (log : List PlaneObs) (s : ControlPlane) (c : ClientId) : CliObs → Prop
  | .wrote _ => True
  | .decoded resp => ∃ m r, AnsweredWith log s c m r ∧ resp = r.received
  | .rejected _ => False
  | .printed lines => (∃ text, lines = [.err text]) ∨
      ∃ m r, AnsweredWith log s c m r ∧ lines = handleResponse r.received

/-- What was shown stays so. -/
theorem Shows.step {i : PlaneInput} {out : List PlaneObs} {o : CliObs} (h : Shows log s c o)
    (hr : machine.Reaches log s) (hs : s.step i = some (s', out)) : Shows (log ++ out) s' c o := by
  cases o with
  | wrote => trivial
  | rejected => exact h
  | decoded resp =>
      obtain ⟨m, r, hans, heq⟩ := h
      exact ⟨m, r, hans.step hr hs, heq⟩
  | printed lines =>
      rcases h with herr | ⟨m, r, hans, heq⟩
      · exact .inl herr
      · exact .inr ⟨m, r, hans.step hr hs, heq⟩

/-- What a CLI shows in a step. -/
theorem Shows.of_cli (h : machine.Reaches log s) {i : CliInput} {out : List CliObs}
    (hp : s.peers[c]? = some (.cli p up down)) (hs : Cli.Step p i p' out) {o : CliObs}
    (ho : o ∈ out) : Shows log s c o := by
  have hdec := decode_of_cli h hp
  cases hs with
  | begin => cases ho
  | flushed => cases ho
  | yields => cases ho
  | takes n hpc =>
      rw [List.mem_singleton.mp ho]
      trivial
  | @answered resp rest hpc hitem =>
      rcases hdec (by simp [Cli.hasExited, hpc]) with hinc | ⟨m, r, rest', hm, hone, hread⟩
      · rw [hitem] at hinc
        cases hinc
      · rw [hitem] at hread
        cases hread
        have hans : AnsweredWith log s c m r := ⟨⟨p, up, down, hp, hm⟩, hone⟩
        rcases List.mem_cons.mp ho with rfl | ho
        · exact ⟨m, r, hans, rfl⟩
        · rw [List.mem_singleton.mp ho]
          exact .inr ⟨m, r, hans, rfl⟩
  | rejects hpc herr =>
      rcases hdec (by simp [Cli.hasExited, hpc]) with hinc | ⟨m, r, rest, -, -, hread⟩
      · rw [herr] at hinc
        cases hinc
      · rw [herr] at hread
        cases hread
  | givesUp code text =>
      rw [List.mem_singleton.mp ho]
      exact .inl ⟨text, rfl⟩

/-- **What the CLIs show** along every run. -/
theorem shows_of_run (h : machine.Reaches log s) {o : CliObs} (ho : .cli c o ∈ log) :
    Shows log s c o := by
  refine h.invariant (P := fun log s => ∀ c o, .cli c o ∈ log → Shows log s c o) ?_ ?_ c o ho
  · intro c o ho
    cases ho
  · intro log s i s' out hr hshows _ hs c o ho
    rcases List.mem_append.mp ho with ho | ho
    · exact (hshows c o ho).step hr hs
    · have hnow : Shows log s c o := by
        cases step_cases hs with
        | connect => cases ho
        | socket =>
            obtain ⟨_, -, heq⟩ := List.mem_map.mp ho
            cases heq
        | cli hp hcli =>
            obtain ⟨_, ho, heq⟩ := List.mem_map.mp ho
            cases heq
            exact Shows.of_cli hr hp hcli ho
      exact hnow.step hr hs

/-- The operations of a run, in the order in which the daemon carried them out. -/
def history (log : List PlaneObs) : List DirectoryOp :=
  (Daemon.operations (ControlSocket.daemonLog (socketLog log))).ops

/-- The operations of a run are a legal history of the directory that the daemon keeps. -/
theorem history_legal (h : machine.Reaches log s) :
    Legal Directory.Does Directory.empty (history log) s.socket.daemon.directory :=
  (Daemon.operations_legal (ControlSocket.daemon_run (socket_run h))).2

/-- What was shown to a CLI, said with its command. -/
theorem AnsweredWith.of_cli {m : DaemonRequest} {r : DaemonResponse} (h : AnsweredWith log s c m r)
    (hp : s.peers[c]? = some (.cli p up down)) :
    p.command.message = .ok m ∧ callsOf c (history log) = [(m, r)] := by
  obtain ⟨⟨p', up', down', hp', hm⟩, hcalls⟩ := h
  rw [hp] at hp'
  cases hp'
  exact ⟨hm, hcalls⟩

/-- Whether client `c` is a CLI with this command that has printed these lines. -/
def printedBy (c : ClientId) (command : Command) (lines : List Line) (log : List PlaneObs)
    (s : ControlPlane) : Bool :=
  (match s.peers[c]? with
    | some (.cli p _ _) => p.command = command
    | _ => false) &&
  log.any fun
    | .cli k (.printed lines') => k = c && lines' = lines
    | _ => false

/-- What that says of a run. -/
theorem of_printedBy {command : Command} {lines : List Line}
    (h : printedBy c command lines log s = true) : ∃ p up down,
      s.peers[c]? = some (.cli p up down) ∧ p.command = command ∧
        .cli c (.printed lines) ∈ log := by
  obtain ⟨hpeer, hany⟩ := (Bool.and_eq_true _ _).mp h
  obtain ⟨o, ho, heq⟩ := List.any_eq_true.mp hany
  split at hpeer
  · rename_i p up down hp
    refine ⟨p, up, down, hp, of_decide_eq_true hpeer, ?_⟩
    split at heq
    · simp only [Bool.and_eq_true, decide_eq_true_eq] at heq
      obtain ⟨rfl, rfl⟩ := heq
      exact ho
    · cases heq
  · cases hpeer

/-- **A CLI is told its answer.** In every run, whatever the other programs on the socket do and
however the bytes travel, the daemon reads nothing from a CLI but its one message, the decoder of
the CLI never rejects what the daemon writes, and a CLI that does not give up prints the response to
its own message, which the daemon carried out once, in one step among the operations of all. -/
theorem cli_is_told_its_answer (h : machine.Reaches log s)
    (hp : s.peers[c]? = some (.cli p up down)) :
    Legal Directory.Does Directory.empty (history log) s.socket.daemon.directory ∧
      (askedByPeer log c = [] ∨ ∃ m, p.command.message = .ok m ∧ askedByPeer log c = [m]) ∧
      (∀ e, .cli c (.rejected e) ∉ log) ∧
      ∀ lines, .cli c (.printed lines) ∈ log → (∃ text, lines = [.err text]) ∨
        ∃ m r, p.command.message = .ok m ∧ callsOf c (history log) = [(m, r)] ∧
          lines = handleResponse r.received := by
  refine ⟨history_legal h, asked_of_cli h hp, fun e he => shows_of_run h he, ?_⟩
  intro lines hl
  rcases shows_of_run h hl with herr | ⟨m, r, hans, heq⟩
  · exact .inl herr
  · obtain ⟨hm, hcalls⟩ := hans.of_cli hp
    exact .inr ⟨m, r, hm, hcalls, heq⟩

/-- A CLI lists the connections while another program writes what is no request. -/
theorem cli_is_told_its_answer_list : ∃ log s r, machine.Reaches log s ∧
    .cli 1 (.printed [.out "No active connections"]) ∈ log ∧
      callsOf 1 (history log) = [(.list, r)] ∧
        handleResponse r.received = [.out "No active connections"] := by
  obtain ⟨log, s, hrun, hprinted⟩ : ∃ log s, machine.Reaches log s ∧
      printedBy 1 .list [.out "No active connections"] log s = true :=
    Machine.exists_reaches_of_exec [.connect none, .socket (.daemon (.accept true)),
      .connect (some .list), .cli 1 .begin, .cli 1 (.takes 1), .socket (.yields 0 [9]),
      .socket (.daemon (.accept true)), .socket (.yields 1 [3]), .socket (.next 0),
      .socket (.next 1), .socket (.daemon (.clientSend 1)), .cli 1 .flushed,
      .socket (.daemon (.recv .openFailed)), .socket (.encode 1), .socket (.takes 1 2),
      .cli 1 (.yields [3, 0]), .socket (.takes 1 1), .cli 1 (.yields [0]), .cli 1 .next]
      (by decide +kernel)
  obtain ⟨p, up, down, hp, hcmd, hl⟩ := of_printedBy hprinted
  rcases (cli_is_told_its_answer hrun hp).2.2.2 _ hl with ⟨text, herr⟩ | ⟨m, r, hm, hcalls, heq⟩
  · cases herr
  · rw [hcmd] at hm
    cases hm
    exact ⟨log, s, r, hrun, hl, hcalls, heq.symm⟩

/-! ## From one CLI to another -/

/-- A call of a client is one of its calls. -/
theorem mem_callsOf {ops : List DirectoryOp} {m : DaemonRequest} {r : DaemonResponse} :
    (m, r) ∈ callsOf c ops ↔ .call c m r ∈ ops := by
  simp only [callsOf, List.mem_filterMap]
  constructor
  · rintro ⟨o, ho, heq⟩
    cases o with
    | act => cases heq
    | call k m' r' =>
        dsimp only at heq
        by_cases hk : k = c
        · rw [if_pos hk] at heq
          cases heq
          exact hk ▸ ho
        · rw [if_neg hk] at heq
          cases heq
  · intro ho
    exact ⟨_, ho, if_pos rfl⟩

/-- **The address that a CLI gave** is the text that is displayed for it. -/
theorem command_of_add (h : machine.Reaches log s) (hp : s.peers[c]? = some (.cli p up down))
    {name : String} {addr : UInt32} {port : UInt16} {r : DaemonResponse}
    (hop : .call c (.add name addr port) r ∈ history log) :
    p.command = .add name (Ipv4Addr.display addr) port := by
  have hmem : (.add name addr port, r) ∈ callsOfPeer log c := mem_callsOf.mpr hop
  rcases calls_of_cli h hp with hnil | ⟨m, r', hm, hone⟩
  · rw [hnil] at hmem
    cases hmem
  · rw [hone, List.mem_singleton] at hmem
    cases hmem
    cases hcmd : p.command with
    | add name' text port' =>
        rw [hcmd, Command.message] at hm
        split at hm
        · rename_i ip hip
          cases hm
          rw [Ipv4Addr.display_of_parse hip]
        · cases hm
    | remove => rw [hcmd] at hm; cases hm
    | list => rw [hcmd] at hm; cases hm
    | reset => rw [hcmd] at hm; cases hm

/-- **What `list` prints is what `add` was given.** In every run, what a CLI prints for `list` are
the connections at one moment: each name once, just those that were added before and not removed or
ended since, and all of them unless there are more than a `u16` can count. If a connection was added
by a CLI too, its line has the text of the address that was given there, and the port. -/
theorem list_prints_what_was_added (h : machine.Reaches log s)
    (hp : s.peers[c]? = some (.cli p up down)) (hcmd : p.command = .list) {lines : List Line}
    (hl : .cli c (.printed lines) ∈ log) : (∃ text, lines = [.err text]) ∨
      ∃ pre l post, history log = pre ++ .call c .list (.list l) :: post ∧
        lines = handleResponse (.list (l.take (l.length % 65536))) ∧
        (l.map ConnectionInfo.name).Nodup ∧
        (∀ name e, (name, e) ∈ (l.map fun info => (info.name, info.entry)) ↔
          Directory.BoundBy pre name e) ∧
        ∀ info ∈ l, ∃ k, .call k (.add info.name info.addr info.port) (.addOk info.ptsPath) ∈ pre ∧
          ∀ q upq downq, s.peers[k]? = some (.cli q upq downq) → ∃ text,
            q.command = .add info.name text info.port ∧ connectionLine info = .out
              (connectionText info.name text info.port info.ptsPath info.connected) := by
  rcases shows_of_run h hl with herr | ⟨m, r, hans, heq⟩
  · exact .inl herr
  · obtain ⟨hm, hcalls⟩ := hans.of_cli hp
    rw [hcmd] at hm
    cases hm
    have hop : .call c .list r ∈ history log :=
      mem_callsOf.mp (hcalls ▸ List.mem_singleton_self _)
    obtain ⟨pre, post, hops⟩ := List.append_of_mem hop
    have hlegal := history_legal h
    rw [hops] at hlegal
    obtain ⟨m, m', hpre, hdoes, -⟩ := hlegal.around
    cases hdoes with
    | @list _ l hlisted =>
        have hbound : ∀ name e, (name, e) ∈ (l.map fun info => (info.name, info.entry)) ↔
            Directory.BoundBy pre name e := by
          intro name e
          rw [← hlisted.2 name e]
          exact Directory.boundBy_iff hpre name e
        refine .inr ⟨pre, l, post, hops, heq, hlisted.1, hbound, ?_⟩
        intro info hinfo
        obtain ⟨pre', k, post', hadd, -⟩ :=
          (hbound info.name info.entry).mp (List.mem_map.mpr ⟨info, hinfo, rfl⟩)
        have hmem : .call k (.add info.name info.addr info.port) (.addOk info.ptsPath) ∈ pre := by
          rw [hadd]
          exact List.mem_append_right _ List.mem_cons_self
        have hall : .call k (.add info.name info.addr info.port) (.addOk info.ptsPath)
            ∈ history log := by
          rw [hops]
          exact List.mem_append_left _ hmem
        exact ⟨k, hmem, fun q upq downq hq => ⟨_, command_of_add h hq hall, rfl⟩⟩

/-- A CLI adds a connection and another one lists it: what the second one prints of the address is
what the first one was given. -/
theorem list_prints_what_was_added_between : ∃ log s, machine.Reaches log s ∧
    .cli 1 (.printed [.out "Active connections:",
      .out "- a: 10.0.0.1:7 (PTY: /dev/pts/0) [CONNECTED]"]) ∈ log ∧
    ∃ pre l post, history log = pre ++ .call 1 .list (.list l) :: post ∧
      ∀ name e, (name, e) ∈ (l.map fun info => (info.name, info.entry)) ↔
        Directory.BoundBy pre name e := by
  obtain ⟨log, s, hrun, hprinted⟩ : ∃ log s, machine.Reaches log s ∧
      printedBy 1 .list [.out "Active connections:",
        .out "- a: 10.0.0.1:7 (PTY: /dev/pts/0) [CONNECTED]"] log s = true :=
    Machine.exists_reaches_of_exec [.connect (some (.add "a" "10.0.0.1" 7)),
      .connect (some .list), .socket (.daemon (.accept true)), .socket (.daemon (.accept true)),
      .cli 0 .begin, .cli 1 .begin, .cli 0 (.takes 4), .cli 0 (.takes 5), .cli 0 .flushed,
      .socket (.yields 0 [1]), .socket (.yields 0 [1, 97, 10, 0, 0, 1, 0, 7]), .socket (.next 0),
      .socket (.daemon (.clientSend 0)),
      .socket (.daemon (.recv (.ok "/dev/pts/0" ⟨0, 0, .B9600⟩))), .socket (.encode 0),
      .socket (.takes 0 12), .socket (.flushed 0), .cli 1 (.takes 1), .cli 1 .flushed,
      .socket (.yields 1 [3]), .socket (.next 1), .socket (.daemon (.task 0 .resume)),
      .socket (.daemon (.clientSend 1)), .socket (.daemon (.recv .openFailed)),
      .socket (.daemon .goOn), .socket (.daemon (.task 0 .sleepElapsed)),
      .socket (.daemon (.task 0 (.connect .ok))), .socket (.daemon (.task 0 .resume)),
      .socket (.daemon (.task 0 (.ctlReq (.status 0)))), .socket (.daemon .goOn),
      .socket (.encode 1), .socket (.takes 1 23),
      .cli 1 (.yields [3, 0, 1, 1, 97, 10, 0, 0, 1, 0, 7, 10, 47, 100, 101, 118, 47, 112, 116,
        115, 47, 48, 1]), .cli 1 .next] (by decide +kernel)
  obtain ⟨p, up, down, hp, hcmd, hl⟩ := of_printedBy hprinted
  rcases list_prints_what_was_added hrun hp hcmd hl with
    ⟨text, herr⟩ | ⟨pre, l, post, hops, -, -, hbound, -⟩
  · cases herr
  · exact ⟨log, s, hrun, hl, pre, l, post, hops, hbound⟩

end ControlPlane

end TcpUart
