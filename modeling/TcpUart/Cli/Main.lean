import TcpUart.Cli.Ipv4Addr
import TcpUart.Codec.Control
import TcpUart.Lib.Machine

/-! # The command line tool (`cli/src/main.rs`)
The CLI connects to the socket of the daemon, sends one request, waits for one response and prints
it. It is a process of its own: its writes are taken in pieces, and what it reads comes in pieces.

* `Command.message` — the request for a command.
* `handleResponse` — what is printed for a response.
* `Cli.step` — the process; `Cli.Step` are its transitions, `Cli.step_cases` is the inversion.
* `DaemonResponse.received` — what the decoder makes of the code of a response. -/

namespace TcpUart

open Reactive Framing

/-- `Command`: what the user asks for. -/
inductive Command
  /-- Add a new connection. -/
  | add (name addr : String) (port : UInt16)
  /-- Remove a connection. -/
  | remove (name : String)
  /-- List active connections. -/
  | list
  /-- Sends a reset signal to the connected device. -/
  | reset (name : String)
  deriving DecidableEq

/-- A line that the CLI prints. -/
inductive Line
  /-- `println!`. -/
  | out (text : String)
  /-- `eprintln!`. -/
  | err (text : String)
  deriving DecidableEq

/-- The message of a command, or what is printed when there is none. -/
def Command.message : Command → Except String DaemonRequest
  | add name addr port =>
      match Ipv4Addr.parse addr with
      | some ip => .ok (.add name ip port)
      | none => .error s!"Invalid IP address: {addr}"
  | remove name => .ok (.remove name)
  | list => .ok .list
  | reset name => .ok (.reset name)

/-- The text of a connection in a list. -/
def connectionText (name ip : String) (port : UInt16) (ptsPath : String) (connected : Bool) :
    String :=
  let status := if connected then "[CONNECTED]" else "[OFFLINE]"
  s!"- {name}: {ip}:{port} (PTY: {ptsPath}) {status}"

/-- The line of a connection in a list. -/
def connectionLine (info : ConnectionInfo) : Line :=
  .out (connectionText info.name (Ipv4Addr.display info.addr) info.port info.ptsPath info.connected)

/-- `handle_response`. -/
def handleResponse : DaemonResponse → List Line
  | .addOk ptsPath => [.out s!"Successfully added connection. PTY device: {ptsPath}"]
  | .error msg => [.err s!"Error from daemon: {msg}"]
  | .removeOk => [.out "Successfully removed connection"]
  | .list l =>
      if l = [] then [.out "No active connections"]
      else .out "Active connections:" :: l.map connectionLine
  | .resetOk => [.out "Successfully reset device"]

/-- Where `main` is suspended. -/
inductive CliPc
  /-- The socket is connected. -/
  | connected
  /-- `writer.send(message)`. -/
  | sending
  /-- `reader.next()`. -/
  | reading
  /-- The process has exited. -/
  | exited (code : Nat)
  deriving DecidableEq

/-- A CLI that has connected to the socket. -/
structure Cli where
  /-- `cli.command`. -/
  command : Command
  /-- Where `main` is suspended. -/
  pc : CliPc
  /-- The buffer of `FramedWrite`. -/
  writeBuf : Bytes
  /-- The buffer of `FramedRead`. -/
  readBuf : Bytes

/-- How an await of the CLI resolves. -/
inductive CliInput
  /-- The message is built and encoded. -/
  | begin
  /-- Inside `writer.send(message)`: the stream takes `n` bytes. -/
  | takes (n : Nat)
  /-- `writer.send(message)` resolves: everything is written. -/
  | flushed
  /-- `writer.send(message)` fails while it writes. -/
  | writeErr (e : String)
  /-- Inside `reader.next()`: the stream yields bytes. -/
  | yields (bs : Bytes)
  /-- `reader.next()` resolves from what is in the buffer. -/
  | next
  /-- `reader.next()` resolves because the stream ended. -/
  | readEnd
  /-- `reader.next()` fails because the stream failed. -/
  | readErr (e : String)

/-- The bytes that the CLI reads. -/
def CliInput.read : CliInput → Bytes
  | .yields bs => bs
  | _ => []

/-- What an observer sees of the CLI. -/
inductive CliObs
  /-- Bytes that the stream took. -/
  | wrote (bs : Bytes)
  /-- A response was decoded. -/
  | decoded (resp : DaemonResponse)
  /-- The decoder rejected what was read. -/
  | rejected (e : IoError)
  /-- Lines were printed. -/
  | printed (lines : List Line)
  deriving DecidableEq

namespace Cli

/-- The CLI after `UnixStream::connect`. -/
def start (command : Command) : Cli := ⟨command, .connected, [], []⟩

/-- Whether the process has exited. -/
def hasExited (c : Cli) : Bool :=
  match c.pc with
  | .exited _ => true
  | _ => false

/-- The process prints and exits. -/
def exit (c : Cli) (code : Nat) (obs : List CliObs) (lines : List Line) : Cli × List CliObs :=
  ({ c with pc := .exited code }, obs ++ [.printed lines])

/-- What is printed when the message cannot be sent. -/
def sendFailed (e : String) : String := s!"Failed to send message to socket: {e}"

/-- What is printed when the response cannot be read. -/
def decodeFailed (e : String) : String := s!"Failed to decode daemon response: {e}"

/-- `main`, up to its first await. -/
def onBegin (c : Cli) : Cli × List CliObs :=
  match c.command.message with
  | .error text => c.exit 1 [] [.err text]
  | .ok message =>
      match DaemonRequestEncoder.encode message c.writeBuf with
      | (.ok (), buf) => ({ c with pc := .sending, writeBuf := buf }, [])
      | (.error e, buf) => { c with writeBuf := buf }.exit 0 [] [.err (sendFailed e.text)]

/-- `reader.next()`, from what is in the buffer. -/
def onNext (c : Cli) : Option (Cli × List CliObs) :=
  match DaemonResponseDecoder.decode c.readBuf with
  | .incomplete => none
  | .error e => some (c.exit 0 [.rejected e] [.err (decodeFailed e.text)])
  | .item resp rest =>
      some ({ c with readBuf := rest }.exit 0 [.decoded resp] (handleResponse resp))

/-- What is printed at the end of the stream. `decode_eof` rejects what is left in the buffer. -/
def atEnd (c : Cli) : String :=
  if c.readBuf = [] then "Daemon closed connection unexpectedly"
  else decodeFailed "bytes remaining on stream"

/-- The bytes that the CLI writes. -/
def put (c : Cli) : CliInput → Bytes
  | .takes n => c.writeBuf.take n
  | _ => []

/-- One step. -/
def step (c : Cli) (i : CliInput) : Option (Cli × List CliObs) :=
  match c.pc, i with
  | .connected, .begin => some c.onBegin
  | .sending, .takes n =>
      if 0 < n ∧ n ≤ c.writeBuf.length then
        some ({ c with writeBuf := c.writeBuf.drop n }, [.wrote (c.writeBuf.take n)])
      else none
  | .sending, .flushed => if c.writeBuf = [] then some ({ c with pc := .reading }, []) else none
  | .sending, .writeErr e => some (c.exit 0 [] [.err (sendFailed e)])
  | .reading, .yields bs =>
      -- `FramedRead` reads on only when its buffer holds no whole response
      if bs ≠ [] ∧ DaemonResponseDecoder.decode c.readBuf = .incomplete then
        some ({ c with readBuf := c.readBuf ++ bs }, [])
      else none
  | .reading, .next => c.onNext
  | .reading, .readEnd =>
      if DaemonResponseDecoder.decode c.readBuf = .incomplete then some (c.exit 0 [] [.err c.atEnd])
      else none
  | .reading, .readErr e =>
      if DaemonResponseDecoder.decode c.readBuf = .incomplete then
        some (c.exit 0 [] [.err (decodeFailed e)])
      else none
  | _, _ => none

/-! ## What one step can do -/

/-- The transitions. -/
inductive Step (c : Cli) : CliInput → Cli → List CliObs → Prop
  /-- The message is encoded. -/
  | begin {message : DaemonRequest} {buf : Bytes} (hpc : c.pc = .connected)
      (hmsg : c.command.message = .ok message)
      (henc : DaemonRequestEncoder.encode message c.writeBuf = (.ok (), buf)) :
      Step c .begin { c with pc := .sending, writeBuf := buf } []
  /-- Bytes of the message are written. -/
  | takes (n : Nat) (hpc : c.pc = .sending) :
      Step c (.takes n) { c with writeBuf := c.writeBuf.drop n } [.wrote (c.writeBuf.take n)]
  /-- The message is written. -/
  | flushed (hpc : c.pc = .sending) (hbuf : c.writeBuf = []) :
      Step c .flushed { c with pc := .reading } []
  /-- Bytes arrive. -/
  | yields (bs : Bytes) (hpc : c.pc = .reading) :
      Step c (.yields bs) { c with readBuf := c.readBuf ++ bs } []
  /-- The response is read. -/
  | answered {resp : DaemonResponse} {rest : Bytes} (hpc : c.pc = .reading)
      (hdec : DaemonResponseDecoder.decode c.readBuf = .item resp rest) :
      Step c .next { c with pc := .exited 0, readBuf := rest }
        [.decoded resp, .printed (handleResponse resp)]
  /-- What is read is rejected. -/
  | rejects {e : IoError} (hpc : c.pc = .reading)
      (hdec : DaemonResponseDecoder.decode c.readBuf = .error e) :
      Step c .next { c with pc := .exited 0 } [.rejected e, .printed [.err (decodeFailed e.text)]]
  /-- The process gives up. -/
  | givesUp {i : CliInput} {buf : Bytes} (code : Nat) (text : String) (hread : i.read = [])
      (hput : c.put i = []) :
      Step c i { c with pc := .exited code, writeBuf := buf } [.printed [.err text]]

variable {c c' : Cli} {i : CliInput} {out : List CliObs}

/-- The first await, or none. -/
theorem onBegin_cases (hpc : c.pc = .connected) (h : c.onBegin = (c', out)) :
    Step c .begin c' out := by
  unfold onBegin at h
  split at h
  · cases h
    exact .givesUp 1 _ rfl rfl
  · rename_i message hmsg
    split at h
    · rename_i buf henc
      cases h
      exact .begin hpc hmsg henc
    · cases h
      exact .givesUp 0 _ rfl rfl

/-- Inversion of the step function. -/
theorem step_cases (h : c.step i = some (c', out)) : Step c i c' out := by
  unfold step at h
  split at h
  · rename_i hpc
    exact onBegin_cases hpc (Option.some.inj h)
  · rename_i n hpc
    split at h
    · cases h
      exact .takes n hpc
    · cases h
  · rename_i hpc
    split at h
    · rename_i hbuf
      cases h
      exact .flushed hpc hbuf
    · cases h
  · cases h
    exact .givesUp 0 _ rfl rfl
  · rename_i bs hpc
    split at h
    · cases h
      exact .yields bs hpc
    · cases h
  · rename_i hpc
    unfold onNext at h
    split at h
    · cases h
    · rename_i e hdec
      cases h
      exact .rejects hpc hdec
    · rename_i resp rest hdec
      cases h
      exact .answered hpc hdec
  · split at h
    · cases h
      exact .givesUp 0 _ rfl rfl
    · cases h
  · split at h
    · cases h
      exact .givesUp 0 _ rfl rfl
    · cases h
  · cases h

/-- The command stays. -/
theorem Step.command_eq (h : Step c i c' out) : c'.command = c.command := by
  cases h <;> rfl

/-- A process that has exited does nothing. -/
theorem step_of_exited {code : Nat} (h : c.pc = .exited code) : c.step i = none := by
  unfold step
  rw [h]

end Cli

/-- A request that is encoded fits, and its code goes into the buffer. -/
theorem DaemonRequestEncoder.encode_ok {req : DaemonRequest} {buf buf' : Bytes}
    (h : DaemonRequestEncoder.encode req buf = (.ok (), buf')) :
    req.Fits ∧ buf' = buf ++ req.bytes := by
  by_cases hfit : req.Fits
  · have happ := DaemonRequestEncoder.appends_bytes hfit buf
    rw [h] at happ
    cases happ
    exact ⟨hfit, rfl⟩
  · obtain ⟨e, buf'', he⟩ := DaemonRequestEncoder.fails_encode hfit buf
    rw [h] at he
    cases he

/-! ## What is read of a response -/

namespace DaemonResponse

/-- What the decoder makes of the code of a response: the count of a list is written as a `u16`. -/
def received : DaemonResponse → DaemonResponse
  | list conns => list (conns.take (conns.length % 65536))
  | resp => resp

/-- A response that fits is received as it is. -/
theorem received_of_fits {resp : DaemonResponse} (h : resp.Fits) : resp.received = resp := by
  cases resp with
  | list conns =>
      have hlen : conns.length % 65536 = conns.length :=
        Nat.mod_eq_of_lt (Nat.lt_succ_of_le h.1)
      rw [received, hlen, List.take_length]
  | _ => rfl

/-- **What is received is well formed**, and its code is the front of the code of the response. -/
theorem bytes_received {resp : DaemonResponse} (h : resp.StringsFit) :
    resp.received.Fits ∧ ∃ rest, resp.bytes = resp.received.bytes ++ rest := by
  cases resp with
  | list conns =>
      have hlen : (conns.take (conns.length % 65536)).length = conns.length % 65536 :=
        List.length_take_of_le (Nat.mod_le _ _)
      have hcount : UInt16.ofNat (conns.length % 65536) = UInt16.ofNat conns.length := by
        apply UInt16.toNat.inj
        rw [UInt16.toNat_ofNat', UInt16.toNat_ofNat']
        exact Nat.mod_mod _ _
      refine ⟨⟨?_, fun conn hconn => h conn (List.mem_of_mem_take hconn)⟩,
        stream ConnectionInfo.bytes (conns.drop (conns.length % 65536)), ?_⟩
      · rw [hlen]
        omega
      · simp only [bytes, received, msgType, body, hlen, hcount, List.append_assoc]
        rw [← stream_append, List.take_append_drop]
  | addOk path => exact ⟨h, [], (List.append_nil _).symm⟩
  | removeOk => exact ⟨h, [], (List.append_nil _).symm⟩
  | resetOk => exact ⟨h, [], (List.append_nil _).symm⟩
  | error text => exact ⟨h, [], (List.append_nil _).symm⟩

/-- **What the front of the code of a response is read as**: as nothing yet, or as the response. -/
theorem decode_of_prefix {resp : DaemonResponse} (h : resp.StringsFit) {buf : Bytes}
    (hbuf : buf <+: resp.bytes) : DaemonResponseDecoder.decode buf = .incomplete ∨
      ∃ rest, DaemonResponseDecoder.decode buf = .item resp.received rest := by
  obtain ⟨hfits, rest, hbytes⟩ := bytes_received h
  have hreads := DaemonResponseDecoder.reads_bytes hfits
  have hpre : resp.received.bytes <+: resp.bytes := ⟨rest, hbytes.symm⟩
  rcases List.prefix_or_prefix_of_prefix hbuf hpre with hle | ⟨t, rfl⟩
  · by_cases heq : buf = resp.received.bytes
    · have hwhole := hreads.whole []
      rw [List.append_nil, ← heq] at hwhole
      exact .inr ⟨[], hwhole⟩
    · exact .inl (hreads.cut hle heq)
  · exact .inr ⟨t, hreads.whole t⟩

end DaemonResponse

end TcpUart
