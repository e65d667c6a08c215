import TcpUart.Daemon.ControlSocket

/-! # What a client of the control socket is owed
The bytes of a client, its requests, what the main loop does and the bytes it is written are related
at every moment. This module keeps the accounts of one client against everything else that goes on.

* `View`, `Ledger` — what concerns one client in a state, and what a history says about it.
* `ViewStep` — what a step of anybody is to one client.
* `Balanced` — the accounts; they balance along every run.
* `control_socket_faithful` — in every run each client is read as the requests it wrote, each is
  answered once, and it is written the responses, in order. -/

namespace TcpUart

open Reactive Framing

namespace ControlSocket

/-- What concerns one client: where its task is suspended, what it has out, and its stream. -/
structure View where
  /-- The await of `handle_stream`. -/
  pc : Option ClientPc
  /-- The requests that were sent to the main loop and not answered. -/
  out : List DaemonRequest
  /-- The stream. -/
  st : Option ClientStream

/-- The view of client `c`. -/
def view (s : ControlSocket) (c : ClientId) : View :=
  ⟨s.daemon.clients[c]?, s.daemon.outstanding c, s.streams[c]?⟩

/-- What a client has read from the buffer to decode. -/
def View.readBuf (v : View) : Bytes := v.st.elim [] ClientStream.readBuf

/-- What is encoded for a client and not written. -/
def View.writeBuf (v : View) : Bytes := v.st.elim [] ClientStream.writeBuf

/-- Whether a response is being written. -/
def View.sending (v : View) : Bool := v.st.elim false ClientStream.sending

/-- The request that is about to be put on the event channel. -/
def View.toSend (v : View) : List DaemonRequest :=
  match v.pc with
  | some (.sending req) => [req]
  | _ => []

/-- The response that is about to be written. -/
def View.due (v : View) : List DaemonResponse :=
  match v.pc with
  | some (.answering resp) => [resp]
  | _ => []

/-- What a history says about one client. -/
structure Ledger where
  /-- The bytes its stream yielded. -/
  bytesIn : Bytes := []
  /-- The requests decoded. -/
  asked : List DaemonRequest := []
  /-- The requests answered, with their responses. -/
  calls : List (DaemonRequest × DaemonResponse) := []
  /-- The responses written. -/
  told : List DaemonResponse := []
  /-- The responses that could not be written. -/
  lost : List DaemonResponse := []
  /-- The bytes its stream took. -/
  bytesOut : Bytes := []

/-- One history after the other. -/
def Ledger.add (l l' : Ledger) : Ledger where
  bytesIn := l.bytesIn ++ l'.bytesIn
  asked := l.asked ++ l'.asked
  calls := l.calls ++ l'.calls
  told := l.told ++ l'.told
  lost := l.lost ++ l'.lost
  bytesOut := l.bytesOut ++ l'.bytesOut

/-- Adding nothing. -/
@[simp] theorem Ledger.add_empty (l : Ledger) : l.add {} = l := by
  simp [Ledger.add]

/-- **What a step is to one client.** -/
inductive ViewStep (v : View) : Ledger → View → Prop
  /-- Nothing. -/
  | idle : ViewStep v {} v
  /-- It connects. -/
  | joins (hpc : v.pc = none) (hst : v.st = none) :
      ViewStep v {} ⟨some .reading, v.out, some ⟨[], [], false⟩⟩
  /-- Bytes arrive. -/
  | yields {st : ClientStream} (bs : Bytes) (hst : v.st = some st) :
      ViewStep v { bytesIn := bs } ⟨v.pc, v.out, some { st with readBuf := st.readBuf ++ bs }⟩
  /-- A request is read. -/
  | asked {st : ClientStream} {req : DaemonRequest} {rest : Bytes} (hpc : v.pc = some .reading)
      (hst : v.st = some st) (hdec : DaemonRequestDecoder.decode st.readBuf = .item req rest) :
      ViewStep v { asked := [req] } ⟨some (.sending req), v.out, some { st with readBuf := rest }⟩
  /-- The client is gone, or what it sent is rejected. -/
  | gone (hpc : v.pc = some .reading) : ViewStep v {} ⟨some .closed, v.out, v.st⟩
  /-- Its request is put on the event channel. -/
  | sends {req : DaemonRequest} (hpc : v.pc = some (.sending req)) :
      ViewStep v {} ⟨some .awaiting, v.out ++ [req], v.st⟩
  /-- It is answered. -/
  | answered {req : DaemonRequest} {resp : DaemonResponse} (hpc : v.pc = some .awaiting)
      (hout : v.out = [req]) :
      ViewStep v { calls := [(req, resp)] } ⟨some (.answering resp), [], v.st⟩
  /-- The response is encoded. -/
  | encode {st : ClientStream} {resp : DaemonResponse} {buf : Bytes}
      (hpc : v.pc = some (.answering resp)) (hst : v.st = some st) (hidle : st.sending = false)
      (henc : DaemonResponseEncoder.encode resp st.writeBuf = (.ok (), buf)) :
      ViewStep v {} ⟨v.pc, v.out, some { st with writeBuf := buf, sending := true }⟩
  /-- Bytes of the response are written. -/
  | takes {st : ClientStream} {resp : DaemonResponse} (n : Nat)
      (hpc : v.pc = some (.answering resp)) (hst : v.st = some st) (hsend : st.sending = true) :
      ViewStep v { bytesOut := st.writeBuf.take n }
        ⟨v.pc, v.out, some { st with writeBuf := st.writeBuf.drop n }⟩
  /-- The response is written. -/
  | told {st : ClientStream} {resp : DaemonResponse} (hpc : v.pc = some (.answering resp))
      (hst : v.st = some st) (hsend : st.sending = true) (hbuf : st.writeBuf = []) :
      ViewStep v { told := [resp] } ⟨some .reading, v.out, some { st with sending := false }⟩
  /-- The response cannot be encoded or written. -/
  | notTold {resp : DaemonResponse} (hpc : v.pc = some (.answering resp)) :
      ViewStep v { lost := [resp] } ⟨some .closed, v.out, v.st⟩

/-- **What a client sent** and what became of it. -/
structure Heard (l : Ledger) (v : View) : Prop where
  /-- The bytes are the requests and what is not decoded yet. -/
  read : l.bytesIn = stream DaemonRequest.bytes l.asked ++ v.readBuf
  /-- The requests are well formed. -/
  fits : ∀ req ∈ l.asked, req.Fits
  /-- The requests are answered in order; the last one may be on its way. -/
  asked : l.asked = l.calls.map Prod.fst ++ (v.out ++ v.toSend)

/-- **What a client was answered** and what it was written of that. -/
structure Told (l : Ledger) (v : View) : Prop where
  /-- The responses are written in order; the last one may be about to be written, or be lost. -/
  answered : l.calls.map Prod.snd = l.told ++ (l.lost ++ v.due)
  /-- Once a response is lost the task is gone. -/
  lost : l.lost ≠ [] → v.pc = some .closed
  /-- Before a response is encoded, all responses are written as a whole. -/
  idle : l.lost = [] → v.sending = false →
    v.writeBuf = [] ∧ l.bytesOut = stream DaemonResponse.bytes l.told
  /-- While a response is written, the others are written as a whole. -/
  sending : l.lost = [] → v.sending = true → ∃ resp, v.pc = some (.answering resp) ∧
    resp.StringsFit ∧
      l.bytesOut ++ v.writeBuf = stream DaemonResponse.bytes l.told ++ resp.bytes
  /-- The responses that were written are well formed. -/
  fits : ∀ resp ∈ l.told, resp.StringsFit
  /-- What was written is the beginning of the first responses, and those are well formed. -/
  written : ∃ resps, resps <+: l.calls.map Prod.snd ∧ (∀ resp ∈ resps, resp.StringsFit) ∧
    l.bytesOut <+: stream DaemonResponse.bytes resps

/-- The accounts of a client balance. -/
def Balanced (l : Ledger) (v : View) : Prop := Heard l v ∧ Told l v

/-- A response that is encoded fits, and its code goes into the buffer. -/
theorem encode_ok {resp : DaemonResponse} {buf buf' : Bytes}
    (h : DaemonResponseEncoder.encode resp buf = (.ok (), buf')) :
    resp.StringsFit ∧ buf' = buf ++ resp.bytes := by
  by_cases hfit : resp.StringsFit
  · have happ := DaemonResponseEncoder.appends_of_stringsFit hfit buf
    rw [h] at happ
    cases happ
    exact ⟨hfit, rfl⟩
  · obtain ⟨e, buf'', he⟩ := DaemonResponseEncoder.fails_encode hfit buf
    rw [h] at he
    cases he

/-- The accounts of a client that has done nothing. -/
theorem Balanced.init : Balanced {} ⟨none, [], none⟩ :=
  ⟨⟨rfl, by simp, rfl⟩, ⟨rfl, by simp, by simp [View.writeBuf], by simp [View.sending], by simp,
    ⟨[], by simp⟩⟩⟩

variable {l δ : Ledger} {v v' : View}

/-- Nothing is read, and what is on its way stays. -/
theorem Heard.same (h : Heard l v) (hread : δ.bytesIn = []) (hasked : δ.asked = [])
    (hcalls : δ.calls = []) (hbuf : v'.readBuf = v.readBuf)
    (hout : v'.out ++ v'.toSend = v.out ++ v.toSend) : Heard (l.add δ) v' where
  read := by simp [Ledger.add, hread, hasked, hbuf, h.read]
  fits := by simpa [Ledger.add, hasked] using h.fits
  asked := by simp [Ledger.add, hasked, hcalls, hout, h.asked]

/-- Nothing is answered or written. -/
theorem Told.same (h : Told l v) (hcalls : δ.calls = []) (htold : δ.told = []) (hlost : δ.lost = [])
    (hbytes : δ.bytesOut = []) (hdue : v'.due = v.due)
    (hpc : v.pc = some .closed → v'.pc = some .closed)
    (hbuf : v'.writeBuf = v.writeBuf) (hsend : v'.sending = v.sending)
    (hpc' : ∀ resp, v.pc = some (.answering resp) → v'.pc = some (.answering resp)) :
    Told (l.add δ) v' where
  answered := by simp [Ledger.add, hcalls, htold, hlost, hdue, h.answered]
  lost := by
    simp only [Ledger.add, hlost, List.append_nil]
    exact fun hne => hpc (h.lost hne)
  idle := by
    simp only [Ledger.add, hlost, htold, hbytes, hbuf, hsend, List.append_nil]
    exact h.idle
  sending := by
    simp only [Ledger.add, hlost, htold, hbytes, hbuf, hsend, List.append_nil]
    intro hl hs
    obtain ⟨resp, hresp, hfit, hout⟩ := h.sending hl hs
    exact ⟨resp, hpc' resp hresp, hfit, hout⟩
  fits := by simpa [Ledger.add, htold] using h.fits
  written := by simpa [Ledger.add, hcalls, hbytes] using h.written

/-- While a response is due, none was lost. -/
theorem Told.lost_eq_nil (h : Told l v) (hpc : v.pc ≠ some .closed) : l.lost = [] := by
  by_contra hne
  exact hpc (h.lost hne)

/-- **Every step keeps what was heard.** -/
theorem Heard.step (h : Heard l v) (hs : ViewStep v δ v') : Heard (l.add δ) v' := by
  obtain ⟨pc, o, ost⟩ := v
  cases hs with
  | idle => exact h.same rfl rfl rfl rfl rfl
  | joins hpc hst =>
      cases hpc
      cases hst
      exact h.same rfl rfl rfl rfl rfl
  | @yields st bs hst =>
      cases hst
      have hread : l.bytesIn = stream DaemonRequest.bytes l.asked ++ st.readBuf := h.read
      have hasked := h.asked
      exact ⟨by simp [Ledger.add, View.readBuf, hread], by simpa [Ledger.add] using h.fits,
        by simpa [Ledger.add, View.toSend] using hasked⟩
  | @asked st req rest hpc hst hdec =>
      cases hpc
      cases hst
      obtain ⟨e, hbuf, rfl, hfit⟩ := DaemonRequestDecoder.parses_bytes hdec
      have hread : l.bytesIn = stream DaemonRequest.bytes l.asked ++ st.readBuf := h.read
      have hasked : l.asked = l.calls.map Prod.fst ++ (o ++ []) := h.asked
      refine ⟨?_, ?_, ?_⟩
      · simp [Ledger.add, View.readBuf, hread, hbuf]
      · intro req' hreq
        rcases List.mem_append.mp hreq with hreq | hreq
        · exact h.fits req' hreq
        · rwa [List.mem_singleton.mp hreq]
      · simp [Ledger.add, View.toSend, hasked]
  | gone hpc =>
      cases hpc
      exact h.same rfl rfl rfl rfl rfl
  | sends hpc =>
      cases hpc
      exact h.same rfl rfl rfl rfl (by simp [View.toSend])
  | answered hpc hout =>
      cases hpc
      cases hout
      have hread : l.bytesIn = stream DaemonRequest.bytes l.asked ++ _ := h.read
      have hasked : l.asked = l.calls.map Prod.fst ++ ([_] ++ []) := h.asked
      exact ⟨by simpa [Ledger.add, View.readBuf] using hread, by simpa [Ledger.add] using h.fits,
        by simp [Ledger.add, View.toSend, hasked]⟩
  | encode hpc hst =>
      cases hst
      exact h.same rfl rfl rfl rfl rfl
  | takes n hpc hst =>
      cases hst
      exact h.same rfl rfl rfl rfl rfl
  | told hpc hst =>
      cases hpc
      cases hst
      exact h.same rfl rfl rfl rfl rfl
  | notTold hpc =>
      cases hpc
      exact h.same rfl rfl rfl rfl rfl

/-- **Every step keeps what was told.** -/
theorem Told.step (h : Told l v) (hs : ViewStep v δ v') : Told (l.add δ) v' := by
  obtain ⟨pc, o, ost⟩ := v
  cases hs with
  | idle => exact h.same rfl rfl rfl rfl rfl id rfl rfl fun _ => id
  | joins hpc hst =>
      cases hpc
      cases hst
      exact h.same rfl rfl rfl rfl rfl (by simp) rfl rfl (by simp)
  | yields bs hst =>
      cases hst
      exact h.same rfl rfl rfl rfl rfl id rfl rfl fun _ => id
  | asked hpc hst =>
      cases hpc
      cases hst
      exact h.same rfl rfl rfl rfl rfl (by simp) rfl rfl (by simp)
  | gone hpc =>
      cases hpc
      exact h.same rfl rfl rfl rfl rfl (fun _ => rfl) rfl rfl (by simp)
  | sends hpc =>
      cases hpc
      exact h.same rfl rfl rfl rfl rfl (by simp) rfl rfl (by simp)
  | @answered req resp hpc hout =>
      cases hpc
      have hlost := h.lost_eq_nil (by simp)
      have hans : l.calls.map Prod.snd = l.told := by simpa [View.due, hlost] using h.answered
      -- nobody writes while the task waits
      have hquiet : View.sending ⟨some .awaiting, o, ost⟩ = false := by
        by_contra hs
        obtain ⟨resp', hresp', -⟩ := h.sending hlost (Bool.of_not_eq_false hs)
        cases hresp'
      refine ⟨?_, ?_, ?_, ?_, ?_, ?_⟩
      · simp [Ledger.add, View.due, hlost, hans]
      · simp [Ledger.add, hlost]
      · simpa [Ledger.add, View.sending, View.writeBuf] using h.idle
      · intro _ hs
        exact absurd (hs.symm.trans hquiet) Bool.noConfusion
      · simpa [Ledger.add] using h.fits
      · obtain ⟨resps, hpre, hfits, hbytes⟩ := h.written
        refine ⟨resps, ?_, hfits, by simpa [Ledger.add] using hbytes⟩
        rw [Ledger.add, List.map_append]
        exact hpre.trans (List.prefix_append _ _)
  | @encode st resp buf hpc hst hidle henc =>
      cases hpc
      cases hst
      have hlost := h.lost_eq_nil (by simp)
      obtain ⟨hempty, hbytes⟩ := h.idle hlost hidle
      obtain ⟨hfit, rfl⟩ := encode_ok henc
      have hempty' : st.writeBuf = [] := hempty
      refine ⟨?_, ?_, ?_, ?_, ?_, ?_⟩
      · simpa [Ledger.add, View.due] using h.answered
      · simp [Ledger.add, hlost]
      · intro _ hs
        cases hs
      · intro _ _
        exact ⟨resp, rfl, hfit, by simp [Ledger.add, View.writeBuf, hempty', hbytes]⟩
      · simpa [Ledger.add] using h.fits
      · simpa [Ledger.add] using h.written
  | @takes st resp n hpc hst hsend =>
      cases hpc
      cases hst
      have hlost := h.lost_eq_nil (by simp)
      obtain ⟨resp', hresp', hfit, hbytes⟩ := h.sending hlost hsend
      cases hresp'
      have hbytes' : l.bytesOut ++ st.writeBuf
          = stream DaemonResponse.bytes l.told ++ resp.bytes := hbytes
      have hans : l.calls.map Prod.snd = l.told ++ [resp] := by
        simpa [View.due, hlost] using h.answered
      have hall : (l.bytesOut ++ st.writeBuf.take n) ++ st.writeBuf.drop n
          = stream DaemonResponse.bytes l.told ++ resp.bytes := by
        rw [List.append_assoc, List.take_append_drop, hbytes']
      refine ⟨?_, ?_, ?_, ?_, ?_, ?_⟩
      · simpa [Ledger.add, View.due] using h.answered
      · simp [Ledger.add, hlost]
      · intro _ hs
        exact absurd (hsend.symm.trans hs) Bool.noConfusion
      · intro _ _
        exact ⟨resp, rfl, hfit, by simpa [Ledger.add, View.writeBuf] using hall⟩
      · simpa [Ledger.add] using h.fits
      · refine ⟨l.told ++ [resp], by simp [Ledger.add, hans], ?_, ?_⟩
        · intro resp' hresp
          rcases List.mem_append.mp hresp with hresp | hresp
          · exact h.fits resp' hresp
          · rwa [List.mem_singleton.mp hresp]
        · rw [stream_append, stream_cons, stream_nil, List.append_nil, ← hall]
          exact List.prefix_append _ _
  | @told st resp hpc hst hsend hbuf =>
      cases hpc
      cases hst
      have hlost := h.lost_eq_nil (by simp)
      obtain ⟨resp', hresp', hfit, hbytes⟩ := h.sending hlost hsend
      cases hresp'
      have hbytes' : l.bytesOut ++ st.writeBuf
          = stream DaemonResponse.bytes l.told ++ resp.bytes := hbytes
      rw [hbuf, List.append_nil] at hbytes'
      refine ⟨?_, ?_, ?_, ?_, ?_, ?_⟩
      · simpa [Ledger.add, View.due, hlost] using h.answered
      · simp [Ledger.add, hlost]
      · intro _ _
        exact ⟨hbuf, by simp [Ledger.add, hbytes']⟩
      · intro _ hs
        cases hs
      · intro resp' hresp
        rcases List.mem_append.mp hresp with hresp | hresp
        · exact h.fits resp' hresp
        · rwa [List.mem_singleton.mp hresp]
      · simpa [Ledger.add] using h.written
  | @notTold resp hpc =>
      cases hpc
      have hlost := h.lost_eq_nil (by simp)
      refine ⟨?_, ?_, ?_, ?_, ?_, ?_⟩
      · simpa [Ledger.add, View.due, hlost] using h.answered
      · simp
      · simp [Ledger.add]
      · simp [Ledger.add]
      · simpa [Ledger.add] using h.fits
      · simpa [Ledger.add] using h.written

/-- **Every step keeps the accounts.** -/
theorem Balanced.step (h : Balanced l v) (hs : ViewStep v δ v') : Balanced (l.add δ) v' :=
  ⟨h.1.step hs, h.2.step hs⟩

/-! ## The accounts of a run -/

/-- What an observer of the daemon alone sees. -/
def daemonLog (log : List SocketObs) : List DaemonObs :=
  log.filterMap fun
    | .daemon o => some o
    | _ => none

/-- The observations of a step of the daemon. -/
@[simp] theorem daemonLog_map (out : List DaemonObs) : daemonLog (out.map .daemon) = out := by
  induction out with
  | nil => rfl
  | cons o out ih => simp [daemonLog]

/-- What is seen of client `c`, with the calls that are complete. -/
def seen (log : List SocketObs) (c : ClientId) (calls : List (DaemonRequest × DaemonResponse)) :
    Ledger where
  bytesIn := log.flatMap (SocketObs.bytesIn c)
  asked := log.filterMap (SocketObs.askedBy c)
  calls := calls
  told := log.filterMap (SocketObs.toldTo c)
  lost := log.filterMap (SocketObs.lostTo c)
  bytesOut := log.flatMap (SocketObs.bytesOut c)

/-- What a history says about client `c`. -/
def ledger (log : List SocketObs) (c : ClientId) : Ledger :=
  seen log c (Daemon.callsOfClient (daemonLog log) c)

/-- What a step says about client `c`. -/
def stepLedger (d : Daemon) (out : List SocketObs) (c : ClientId) : Ledger :=
  seen out c (d.completed (daemonLog out) c)

/-- Ledgers are kept step by step. -/
theorem ledger_append {log out : List SocketObs} {d : Daemon} {c : ClientId}
    (hp : (Daemon.operations (daemonLog log)).pending = d.main.serving) :
    ledger (log ++ out) c = (ledger log c).add (stepLedger d out c) := by
  have hlog : daemonLog (log ++ out) = daemonLog log ++ daemonLog out := List.filterMap_append
  simp [ledger, stepLedger, seen, Ledger.add, hlog, Daemon.callsOfClient_append hp]

/-- A step of the daemon is seen of a client only through the calls that are complete. -/
@[simp] theorem stepLedger_daemon (d : Daemon) (out : List DaemonObs) (c : ClientId) :
    stepLedger d (out.map .daemon) c = { calls := d.completed out c } := by
  have hin := flatMap_daemon (SocketObs.bytesIn c) (fun _ => rfl) out
  have hout := flatMap_daemon (SocketObs.bytesOut c) (fun _ => rfl) out
  have hnone : ∀ {β : Type} (f : SocketObs → Option β), (∀ o, f (.daemon o) = none) →
      (out.map SocketObs.daemon).filterMap f = [] := by
    intro β f hf
    simp [hf]
  rw [stepLedger, seen, daemonLog_map, hin, hout, hnone _ fun _ => rfl, hnone _ fun _ => rfl,
    hnone _ fun _ => rfl]

/-- A step without an observation of the daemon completes no call. -/
theorem completed_of_daemonLog {d : Daemon} {out : List SocketObs} {c : ClientId}
    (h : daemonLog out = []) : d.completed (daemonLog out) c = [] := by
  rw [h]
  exact Daemon.completed_of_silent rfl

variable {s s' : ControlSocket} {i : SocketInput} {out log : List SocketObs} {c : ClientId}

/-- How many clients there are after a step of the daemon. -/
theorem length_clients {d d' : Daemon} {i : DaemonInput} {out : List DaemonObs}
    (hs : Daemon.Step d i d' out) :
    d'.clients.length = d.clients.length + (opens i).length := by
  have hturn : Daemon.Turn d out d' → d'.clients.length = d.clients.length := by
    intro ht
    cases ht with
    | on _ _ hc => rw [hc]
    | takes _ _ _ _ hc => rw [hc]
    | answers _ _ _ hc => simp [hc]
    | both _ _ _ _ hc => simp [hc]
    | ended _ _ _ hc => rw [hc]
  cases i with
  | goOn => simpa [opens] using hturn (hs.turn (.inl rfl))
  | recv pty => simpa [opens] using hturn (hs.turn (.inr ⟨pty, rfl⟩))
  | accept ok => cases hs <;> simp [opens]
  | ctrlC => cases hs; simp [opens]
  | clientRead => cases hs; simp [opens]
  | clientSend => cases hs; simp [opens]
  | clientWritten => cases hs; simp [opens]
  | task => cases hs; simp [opens]

/-- Every client has a stream. -/
theorem length_streams (h : machine.Reaches log s) :
    s.streams.length = s.daemon.clients.length := by
  refine h.invariant (P := fun _ s => s.streams.length = s.daemon.clients.length) rfl ?_
  intro log s i s' out _ hlen _ hs
  have hkeep : ∀ {d' : Daemon} {j : DaemonInput}, opens j = [] →
      s.daemon.step j = some (d', []) → s.streams.length = d'.clients.length := by
    intro d' j hj hd
    rw [length_clients (Daemon.step_cases hd), hj, hlen, List.length_nil, Nat.add_zero]
  cases step_cases hs with
  | daemon hi hd =>
      rw [List.length_append, length_clients (Daemon.step_cases hd), hlen]
  | next hst hdec hd => simpa using hkeep rfl hd
  | gone _ hr hd => exact hkeep rfl hd
  | flushed hc hst hsend hbuf hd => simpa using hkeep rfl hd
  | failed _ hc hd => exact hkeep rfl hd
  | _ => simpa using hlen

/-- Setting the stream of one client, seen from another. -/
theorem getElem?_set_stream {l : List ClientStream} {k c : ClientId} {st : ClientStream}
    (st' : ClientStream) (h : l[k]? = some st) :
    (l.set k st')[c]? = if k = c then some st' else l[c]? := by
  obtain ⟨hlt, -⟩ := List.getElem?_eq_some_iff.mp h
  rw [List.getElem?_set]
  simp [hlt]

/-- Setting the await of one client, seen from another. -/
theorem getElem?_set_pc {l : List ClientPc} {k c : ClientId} {pc pc' : ClientPc}
    (h : l[k]? = some pc) : (l.set k pc')[c]? = if k = c then some pc' else l[c]? := by
  rw [Daemon.getElem?_set_client]
  by_cases hk : k = c
  · subst hk
    simp [h]
  · simp [hk]

/-- A client that reads, seen from each client. -/
theorem clientRead_view {d d' : Daemon} {k c : ClientId} {r : ClientRead}
    (hs : d.step (.clientRead k r) = some (d', [])) :
    d'.outstanding c = d.outstanding c ∧ d.clients[k]? = some .reading ∧
      d'.clients[c]? = if k = c then some (Daemon.afterRead r) else d.clients[c]? := by
  cases Daemon.step_cases hs with
  | clientRead r hk => exact ⟨rfl, hk, getElem?_set_pc hk⟩

/-- A client whose response is written, seen from each client. -/
theorem clientWritten_view {d d' : Daemon} {k c : ClientId} {ok : Bool}
    (hs : d.step (.clientWritten k ok) = some (d', [])) :
    d'.outstanding c = d.outstanding c ∧
      d'.clients[c]? =
        if k = c then some (if ok then .reading else .closed) else d.clients[c]? := by
  cases Daemon.step_cases hs with
  | clientWritten ok hk => exact ⟨rfl, getElem?_set_pc hk⟩

/-- A step of the daemon, seen from each client. -/
theorem viewStep_daemon {d' : Daemon} {j : DaemonInput} {out : List DaemonObs}
    (hlen : s.streams.length = s.daemon.clients.length) (hw : s.daemon.Waits)
    (hj : ofStream j = false) (hs : s.daemon.step j = some (d', out)) :
    ViewStep (s.view c) { calls := s.daemon.completed out c }
      (view ⟨d', s.streams ++ opens j⟩ c) := by
  have hstep := Daemon.step_cases hs
  -- the stream of a client that is there stays
  have hthere : s.daemon.clients[c]? ≠ none → (s.streams ++ opens j)[c]? = s.streams[c]? := by
    intro hc
    refine List.getElem?_append_left ?_
    rw [hlen]
    by_contra hge
    exact hc (List.getElem?_eq_none (Nat.not_lt.mp hge))
  cases hstep.clientStep c with
  | idle ho hc hdone =>
      have hst : (s.streams ++ opens j)[c]? = s.streams[c]? := by
        by_cases hnone : s.daemon.clients[c]? = none
        · have hge := List.getElem?_eq_none_iff.mp (hc.trans hnone)
          have hge' := List.getElem?_eq_none_iff.mp hnone
          rw [length_clients hstep, ← hlen, ← List.length_append] at hge
          rw [← hlen] at hge'
          rw [List.getElem?_eq_none hge, List.getElem?_eq_none hge']
        · exact hthere hnone
      have hsame : view ⟨d', s.streams ++ opens j⟩ c = s.view c := by simp only [view, ho, hc, hst]
      rw [hdone, hsame]
      exact .idle
  | joins ho hc hc' hdone hi =>
      subst hi
      have hge := List.getElem?_eq_none_iff.mp hc
      have hlt := (List.getElem?_eq_some_iff.mp hc').1
      rw [length_clients hstep] at hlt
      have heq : c = s.streams.length := by
        rw [hlen]
        exact Nat.le_antisymm (Nat.lt_succ_iff.mp hlt) hge
      have hst : s.streams[c]? = none := List.getElem?_eq_none (Nat.le_of_eq heq.symm)
      have hst' : (s.streams ++ opens (.accept true))[c]? = some ⟨[], [], false⟩ := by
        simp [heq, opens]
      have hjoin := ViewStep.joins (v := s.view c) hc hst
      rw [hdone]
      simpa only [view, ho, hc', hst'] using hjoin
  | reads r hi =>
      rw [hi] at hj
      cases hj
  | sends hi ho hc hc' hdone =>
      have hst := hthere (by rw [hc]; exact Option.some_ne_none _)
      have hsend := ViewStep.sends (v := s.view c) hc
      rw [hdone]
      simpa only [view, ho, hc', hst] using hsend
  | @answered req resp ho hc' hdone hi =>
      obtain ⟨hc, hnil⟩ := hw.of_answered ho
      have hst := hthere (by rw [hc]; exact Option.some_ne_none _)
      rw [hnil] at ho
      have hanswered : ViewStep (s.view c) { calls := [(req, resp)] } _ := .answered hc ho
      rw [hc, Option.map_some] at hc'
      rw [hdone]
      simpa only [view, hnil, hc', hst] using hanswered
  | written ok hi =>
      rw [hi] at hj
      cases hj

/-- What is seen in an observation of a stream, of its client. -/
def entryOf : SocketObs → Ledger
  | .yielded _ bs => { bytesIn := bs }
  | .asked _ req => { asked := [req] }
  | .wrote _ bs => { bytesOut := bs }
  | .told _ resp => { told := [resp] }
  | .notTold _ resp => { lost := [resp] }
  | .daemon _ => {}

/-- **An observation of a stream** is seen of its client, and of no other. -/
theorem stepLedger_stream {o : SocketObs} {k : ClientId} (ho : o.client = some k) (d : Daemon)
    (c : ClientId) : stepLedger d [o] c = if k = c then entryOf o else {} := by
  have hcalls : d.completed (daemonLog [o]) c = [] := by
    cases o with
    | daemon => cases ho
    | _ => exact completed_of_daemonLog rfl
  rw [stepLedger, seen, hcalls]
  by_cases hk : k = c <;> cases o <;> cases ho <;>
    simp [SocketObs.bytesIn, SocketObs.bytesOut, SocketObs.askedBy, SocketObs.toldTo,
      SocketObs.lostTo, entryOf, hk]

/-- Nothing is seen of a silent step. -/
theorem stepLedger_nil (d : Daemon) (c : ClientId) : stepLedger d [] c = {} := by
  rw [stepLedger, completed_of_daemonLog rfl]
  rfl

/-- **Every step of the socket** is one of these to each client. -/
theorem Step.viewStep (hlen : s.streams.length = s.daemon.clients.length) (hw : s.daemon.Waits)
    (hs : Step s i s' out) (c : ClientId) :
    ViewStep (s.view c) (stepLedger s.daemon out c) (s'.view c) := by
  cases hs with
  | daemon hi hd =>
      rw [stepLedger_daemon]
      exact viewStep_daemon hlen hw hi hd
  | @yields k st bs hc hst =>
      have hst' := getElem?_set_stream (c := c) { st with readBuf := st.readBuf ++ bs } hst
      rw [stepLedger_stream rfl]
      by_cases hk : k = c
      · subst hk
        rw [if_pos rfl] at hst' ⊢
        simp only [view, hst']
        exact ViewStep.yields (v := s.view k) bs hst
      · rw [if_neg hk] at hst' ⊢
        simpa only [view, hst'] using ViewStep.idle (v := s.view c)
  | @next k st req rest d' hst hdec hd =>
      obtain ⟨ho, hc, hc'⟩ := clientRead_view (c := c) hd
      have hst' := getElem?_set_stream (c := c) { st with readBuf := rest } hst
      rw [stepLedger_stream rfl]
      by_cases hk : k = c
      · subst hk
        rw [if_pos rfl] at hst' hc' ⊢
        simp only [view, ho, hc', hst']
        exact ViewStep.asked (v := s.view k) hc hst hdec
      · rw [if_neg hk] at hst' hc' ⊢
        simpa only [view, ho, hc', hst'] using ViewStep.idle (v := s.view c)
  | @gone _ k r d' _ hr hd =>
      obtain ⟨ho, hc, hc'⟩ := clientRead_view (c := c) hd
      have hclosed : Daemon.afterRead r = .closed := by
        cases r with
        | request req => exact absurd rfl (hr req)
        | _ => rfl
      rw [hclosed] at hc'
      rw [stepLedger_nil]
      by_cases hk : k = c
      · subst hk
        rw [if_pos rfl] at hc'
        simp only [view, ho, hc']
        exact ViewStep.gone (v := s.view k) hc
      · rw [if_neg hk] at hc'
        simpa only [view, ho, hc'] using ViewStep.idle (v := s.view c)
  | @encode k st resp buf hc hst hidle henc =>
      have hst' := getElem?_set_stream (c := c)
        { st with writeBuf := buf, sending := true } hst
      rw [stepLedger_nil]
      by_cases hk : k = c
      · subst hk
        rw [if_pos rfl] at hst'
        simp only [view, hst']
        exact ViewStep.encode (v := s.view k) hc hst hidle henc
      · rw [if_neg hk] at hst'
        simpa only [view, hst'] using ViewStep.idle (v := s.view c)
  | @takes k st resp n hc hst hsend =>
      have hst' := getElem?_set_stream (c := c)
        { st with writeBuf := st.writeBuf.drop n } hst
      rw [stepLedger_stream rfl]
      by_cases hk : k = c
      · subst hk
        rw [if_pos rfl] at hst' ⊢
        simp only [view, hst']
        exact ViewStep.takes (v := s.view k) n hc hst hsend
      · rw [if_neg hk] at hst' ⊢
        simpa only [view, hst'] using ViewStep.idle (v := s.view c)
  | @flushed k st resp d' hc hst hsend hbuf hd =>
      obtain ⟨ho, hc'⟩ := clientWritten_view (c := c) hd
      have hst' := getElem?_set_stream (c := c) { st with sending := false } hst
      rw [stepLedger_stream rfl]
      by_cases hk : k = c
      · subst hk
        rw [if_pos rfl] at hst' hc' ⊢
        simp only [view, ho, hc', hst']
        exact ViewStep.told (v := s.view k) hc hst hsend hbuf
      · rw [if_neg hk] at hst' hc' ⊢
        simpa only [view, ho, hc', hst'] using ViewStep.idle (v := s.view c)
  | @failed _ k resp d' _ hc hd =>
      obtain ⟨ho, hc'⟩ := clientWritten_view (c := c) hd
      rw [stepLedger_stream rfl]
      by_cases hk : k = c
      · subst hk
        rw [if_pos rfl] at hc' ⊢
        simp only [view, ho, hc']
        exact ViewStep.notTold (v := s.view k) hc
      · rw [if_neg hk] at hc' ⊢
        simpa only [view, ho, hc'] using ViewStep.idle (v := s.view c)

/-- What the daemon does with bytes around it is a run of the daemon. -/
theorem daemon_run (h : machine.Reaches log s) :
    Daemon.machine.Reaches (daemonLog log) s.daemon := by
  refine Machine.Run.project (M := machine) ControlSocket.daemon _ rfl ?_ h
  intro s i s' out _ hstep
  cases step_cases hstep with
  | @daemon j d' out hi hd =>
      refine .inl ⟨j, trivial, ?_⟩
      show Daemon.machine.step s.daemon j = some (d', daemonLog (out.map .daemon))
      rw [daemonLog_map]
      exact hd
  | next hst hdec hd => exact .inl ⟨.clientRead _ _, trivial, hd⟩
  | gone _ hr hd => exact .inl ⟨.clientRead _ _, trivial, hd⟩
  | flushed hc hst hsend hbuf hd => exact .inl ⟨.clientWritten _ true, trivial, hd⟩
  | failed _ hc hd => exact .inl ⟨.clientWritten _ false, trivial, hd⟩
  | _ => exact .inr ⟨rfl, rfl⟩

/-- **The accounts balance** along every run. -/
theorem balanced_of_run (h : machine.Reaches log s) (c : ClientId) :
    Balanced (ledger log c) (s.view c) := by
  refine h.invariant (P := fun log s => Balanced (ledger log c) (s.view c)) ?_ ?_
  · exact Balanced.init
  intro log s i s' out hr hbal _ hs
  have hrun := daemon_run hr
  rw [ledger_append (Daemon.operations_legal hrun).1]
  exact hbal.step ((step_cases hs).viewStep (length_streams hr) (Daemon.waits_of_run hrun) c)

/-- What a client has out is one request at most. -/
theorem length_out (hw : s.daemon.Waits) : ((s.view c).out ++ (s.view c).toSend).length ≤ 1 := by
  have hc := hw c
  unfold View.toSend view
  cases hpc : s.daemon.clients[c]? with
  | none => simp [hc, hpc]
  | some pc => cases pc <;> simp [hc, hpc]

/-- Between two requests nothing is out, and everything is written. -/
theorem Balanced.at_rest (h : Balanced l v) (hpc : v.pc = some .reading) (hout : v.out = []) :
    l.asked = l.calls.map Prod.fst ∧
      l.bytesOut = stream DaemonResponse.bytes (l.calls.map Prod.snd) := by
  obtain ⟨hh, ht⟩ := h
  have hlost := ht.lost_eq_nil (by simp [hpc])
  have hans := ht.answered
  have hquiet : v.sending = false := by
    by_contra hs
    obtain ⟨resp, hresp, -⟩ := ht.sending hlost (Bool.of_not_eq_false hs)
    rw [hpc] at hresp
    cases hresp
  refine ⟨by simpa [hout, View.toSend, hpc] using hh.asked, ?_⟩
  rw [(ht.idle hlost hquiet).2, hans]
  simp [hlost, View.due, hpc]

/-- **The control socket is faithful.** In every run, whatever the programs that connect write and
however their bytes arrive, every client is read as a sequence of well-formed requests whose bytes
are those that arrived, apart from what is not a whole request yet; the main loop answers them one
by one, in order, with one out at most; and the client is written the bytes of the responses to its
own requests, in order: a beginning of the first of them, which are well formed, at every moment,
and all of them whenever the next request is read. -/
theorem control_socket_faithful (h : machine.Reaches log s) (c : ClientId) :
    Daemon.machine.Reaches (daemonLog log) s.daemon ∧
      (ledger log c).bytesIn
        = stream DaemonRequest.bytes (ledger log c).asked ++ (s.view c).readBuf ∧
      (∀ req ∈ (ledger log c).asked, req.Fits) ∧
      (∃ rest, (ledger log c).asked = (ledger log c).calls.map Prod.fst ++ rest ∧
        rest.length ≤ 1) ∧
      (∃ resps, resps <+: (ledger log c).calls.map Prod.snd ∧
        (∀ resp ∈ resps, resp.StringsFit) ∧
          (ledger log c).bytesOut <+: stream DaemonResponse.bytes resps) ∧
      ((s.view c).pc = some .reading → (ledger log c).asked = (ledger log c).calls.map Prod.fst ∧
        (ledger log c).bytesOut
          = stream DaemonResponse.bytes ((ledger log c).calls.map Prod.snd)) := by
  have hrun := daemon_run h
  have hw := Daemon.waits_of_run hrun
  have hbal := balanced_of_run h c
  obtain ⟨hh, ht⟩ := id hbal
  refine ⟨hrun, hh.read, hh.fits, ⟨_, hh.asked, length_out hw⟩, ht.written, fun hpc => ?_⟩
  refine hbal.at_rest hpc (List.eq_nil_of_length_eq_zero ?_)
  have hc := hw c
  have hread : s.daemon.clients[c]? = some .reading := hpc
  rw [hread] at hc
  exact hc

/-- A client writes two requests; a piece of the stream has the end of one and all of the other. It
is being answered the first. -/
theorem control_socket_faithful_pipelined : ∃ log s, machine.Reaches log s ∧
    (ledger log 0).asked = [.remove "a"] ∧ (s.view 0).readBuf = [3] ∧
      (ledger log 0).calls.map Prod.fst = [.remove "a"] ∧ (ledger log 0).bytesOut.length = 2 ∧
      ∃ resps, resps <+: (ledger log 0).calls.map Prod.snd ∧
        (∀ resp ∈ resps, resp.StringsFit) ∧
          (ledger log 0).bytesOut <+: stream DaemonResponse.bytes resps := by
  have hrun : machine.Reaches _ _ :=
    Machine.Reaches.init.exec [.daemon (.accept true), .yields 0 [2, 1], .yields 0 [97, 3],
      .next 0, .daemon (.clientSend 0), .daemon (.recv .openFailed), .encode 0, .takes 0 2] rfl
  exact ⟨_, _, hrun, rfl, rfl, rfl, rfl, (control_socket_faithful hrun 0).2.2.2.2.1⟩

end ControlSocket

end TcpUart
