import TcpUart.Daemon.Clients

/-! # The control socket (`handle_stream`)
A client of the daemon is a stream of bytes: `FramedRead` collects them until they are a request,
`FramedWrite` encodes a response and flushes it. Any program may connect, write anything in any
pieces and read as slowly as it likes. This module puts the streams around the daemon: the only
inputs of a client are its bytes.

* `ControlSocket.step` — a step of the daemon, or of a stream.
* `ControlSocket.Step` — its transitions; `step_cases` is the inversion. -/

namespace TcpUart

open Reactive Framing

/-- The two halves of the stream of a client, as `handle_stream` holds them. -/
structure ClientStream where
  /-- The buffer of `FramedRead`. -/
  readBuf : Bytes
  /-- The buffer of `FramedWrite`. -/
  writeBuf : Bytes
  /-- Whether `writer.send` has encoded the response and flushes it. -/
  sending : Bool

/-- The daemon with the streams of its clients. -/
structure ControlSocket where
  /-- The daemon. -/
  daemon : Daemon
  /-- The stream of each client ever accepted. -/
  streams : List ClientStream

/-- Which party goes on. -/
inductive SocketInput
  /-- The daemon, apart from what its clients read and write. -/
  | daemon (i : DaemonInput)
  /-- Inside `reader.next()`: the stream yields bytes. -/
  | yields (c : ClientId) (bs : Bytes)
  /-- `reader.next()` resolves from what is in the buffer. -/
  | next (c : ClientId)
  /-- `reader.next()` resolves because the stream ended, or failed. -/
  | readEnd (c : ClientId) (failed : Bool)
  /-- `writer.send(resp)` begins. -/
  | encode (c : ClientId)
  /-- Inside `writer.send(resp)`: the stream takes `n` bytes. -/
  | takes (c : ClientId) (n : Nat)
  /-- `writer.send(resp)` resolves: everything is written. -/
  | flushed (c : ClientId)
  /-- `writer.send(resp)` fails while it writes. -/
  | writeErr (c : ClientId)

/-- What an observer sees. -/
inductive SocketObs
  /-- A step of the daemon. -/
  | daemon (o : DaemonObs)
  /-- The stream of the client yielded bytes. -/
  | yielded (c : ClientId) (bs : Bytes)
  /-- A request of the client was decoded. -/
  | asked (c : ClientId) (req : DaemonRequest)
  /-- The stream of the client took bytes. -/
  | wrote (c : ClientId) (bs : Bytes)
  /-- A response was written to the client. -/
  | told (c : ClientId) (resp : DaemonResponse)
  /-- A response could not be encoded or written: the task of the client panics. -/
  | notTold (c : ClientId) (resp : DaemonResponse)

/-- The client that an observation of a stream is about. -/
def SocketObs.client : SocketObs → Option ClientId
  | .yielded c _ => some c
  | .asked c _ => some c
  | .wrote c _ => some c
  | .told c _ => some c
  | .notTold c _ => some c
  | .daemon _ => none

/-- The bytes that the stream of client `c` yielded in an observation. -/
def SocketObs.bytesIn (c : ClientId) : SocketObs → Bytes
  | .yielded c' bs => if c' = c then bs else []
  | _ => []

/-- The bytes that the stream of client `c` took in an observation. -/
def SocketObs.bytesOut (c : ClientId) : SocketObs → Bytes
  | .wrote c' bs => if c' = c then bs else []
  | _ => []

/-- The request of client `c` that an observation is about. -/
def SocketObs.askedBy (c : ClientId) : SocketObs → Option DaemonRequest
  | .asked c' req => if c' = c then some req else none
  | _ => none

/-- The response that was written to client `c` in an observation. -/
def SocketObs.toldTo (c : ClientId) : SocketObs → Option DaemonResponse
  | .told c' resp => if c' = c then some resp else none
  | _ => none

/-- The response that was lost to client `c` in an observation. -/
def SocketObs.lostTo (c : ClientId) : SocketObs → Option DaemonResponse
  | .notTold c' resp => if c' = c then some resp else none
  | _ => none

/-- The bytes of client `c` that a step takes from its stream. -/
def SocketInput.bytesIn (c : ClientId) : SocketInput → Bytes
  | .yields k bs => if k = c then bs else []
  | _ => []

namespace ControlSocket

/-- The socket with the observations of a step. -/
abbrev Out := ControlSocket × List SocketObs

/-- The inputs of the daemon that its streams decide. -/
def ofStream : DaemonInput → Bool
  | .clientRead _ _ => true
  | .clientWritten _ _ => true
  | _ => false

/-- The stream of a client that is accepted. -/
def opens : DaemonInput → List ClientStream
  | .accept true => [⟨[], [], false⟩]
  | _ => []

/-- Where the task of client `c` is suspended, with its stream. When `main` has returned, nothing
goes on. -/
def awake (s : ControlSocket) (c : ClientId) : Option (ClientPc × ClientStream) :=
  if s.daemon.main = .stopped then none
  else
    match s.daemon.clients[c]?, s.streams[c]? with
    | some pc, some st => some (pc, st)
    | _, _ => none

/-- An await of client `c` is resolved with `i`, and its stream is `st` then. -/
def resolve (s : ControlSocket) (c : ClientId) (st : ClientStream) (i : DaemonInput)
    (obs : List SocketObs) : Option Out :=
  (s.daemon.step i).map fun r =>
    ({ daemon := r.1, streams := s.streams.set c st }, obs ++ r.2.map .daemon)

/-- `reader.next()` of client `c`. -/
def onNext (s : ControlSocket) (c : ClientId) : Option Out :=
  match s.awake c with
  | some (.reading, st) =>
      match DaemonRequestDecoder.decode st.readBuf with
      | .incomplete => none
      | .error _ => s.resolve c st (.clientRead c .invalid) []
      | .item req rest =>
          s.resolve c { st with readBuf := rest } (.clientRead c (.request req)) [.asked c req]
  | _ => none

/-- The end of the stream of client `c`. `decode_eof` rejects what is left in the buffer. -/
def onReadEnd (s : ControlSocket) (c : ClientId) (failed : Bool) : Option Out :=
  match s.awake c with
  | some (.reading, st) =>
      if DaemonRequestDecoder.decode st.readBuf = .incomplete then
        s.resolve c st (.clientRead c (if failed ∨ st.readBuf ≠ [] then .invalid else .ended)) []
      else none
  | _ => none

/-- `writer.send(resp)` of client `c`, up to its first await. An encoder that fails makes the task
panic, as `handle_stream` expects it not to. -/
def onEncode (s : ControlSocket) (c : ClientId) : Option Out :=
  match s.awake c with
  | some (.answering resp, st) =>
      if st.sending then none
      else
        match DaemonResponseEncoder.encode resp st.writeBuf with
        | (.ok (), buf) =>
            some ({ s with
              streams := s.streams.set c { st with writeBuf := buf, sending := true } }, [])
        | (.error _, _) => s.resolve c st (.clientWritten c false) [.notTold c resp]
  | _ => none

/-- One step. -/
def step (s : ControlSocket) : SocketInput → Option Out
  | .daemon i =>
      if ofStream i then none
      else
        (s.daemon.step i).map fun r =>
          ({ daemon := r.1, streams := s.streams ++ opens i }, r.2.map .daemon)
  | .yields c bs =>
      match s.awake c with
      | some (.reading, st) =>
          -- `FramedRead` reads on only when its buffer holds no whole request
          if bs ≠ [] ∧ DaemonRequestDecoder.decode st.readBuf = .incomplete then
            some ({ s with streams := s.streams.set c { st with readBuf := st.readBuf ++ bs } },
              [.yielded c bs])
          else none
      | _ => none
  | .next c => s.onNext c
  | .readEnd c failed => s.onReadEnd c failed
  | .encode c => s.onEncode c
  | .takes c n =>
      match s.awake c with
      | some (.answering _, st) =>
          if st.sending ∧ 0 < n ∧ n ≤ st.writeBuf.length then
            some ({ s with streams := s.streams.set c { st with writeBuf := st.writeBuf.drop n } },
              [.wrote c (st.writeBuf.take n)])
          else none
      | _ => none
  | .flushed c =>
      match s.awake c with
      | some (.answering resp, st) =>
          if st.sending ∧ st.writeBuf = [] then
            s.resolve c { st with sending := false } (.clientWritten c true) [.told c resp]
          else none
      | _ => none
  | .writeErr c =>
      match s.awake c with
      | some (.answering resp, st) =>
          if st.sending then s.resolve c st (.clientWritten c false) [.notTold c resp] else none
      | _ => none

/-- The bytes for client `c` that a step puts into its stream. -/
def taken (s : ControlSocket) (c : ClientId) : SocketInput → Bytes
  | .takes k n => if k = c then s.streams[c]?.elim [] fun st => st.writeBuf.take n else []
  | _ => []

/-- The clients that a step accepts. -/
def joining : SocketInput → Nat
  | .daemon i => (opens i).length
  | _ => 0

/-- The machine of the control socket. -/
def machine : Machine ControlSocket SocketInput SocketObs := ⟨⟨Daemon.init, []⟩, step⟩

/-! ## What one step can do -/

/-- The transitions. -/
inductive Step (s : ControlSocket) : SocketInput → ControlSocket → List SocketObs → Prop
  /-- A step of the daemon. -/
  | daemon {i : DaemonInput} {d' : Daemon} {out : List DaemonObs} (hi : ofStream i = false)
      (hs : s.daemon.step i = some (d', out)) :
      Step s (.daemon i) ⟨d', s.streams ++ opens i⟩ (out.map .daemon)
  /-- Bytes arrive. -/
  | yields {c : ClientId} {st : ClientStream} {bs : Bytes}
      (hc : s.daemon.clients[c]? = some .reading) (hst : s.streams[c]? = some st) :
      Step s (.yields c bs) ⟨s.daemon, s.streams.set c { st with readBuf := st.readBuf ++ bs }⟩
        [.yielded c bs]
  /-- A request is read. -/
  | next {c : ClientId} {st : ClientStream} {req : DaemonRequest} {rest : Bytes} {d' : Daemon}
      (hst : s.streams[c]? = some st)
      (hdec : DaemonRequestDecoder.decode st.readBuf = .item req rest)
      (hs : s.daemon.step (.clientRead c (.request req)) = some (d', [])) :
      Step s (.next c) ⟨d', s.streams.set c { st with readBuf := rest }⟩ [.asked c req]
  /-- The client is gone, or what it sent is rejected. -/
  | gone {i : SocketInput} {c : ClientId} {r : ClientRead} {d' : Daemon}
      (hi : i = .next c ∨ ∃ failed, i = .readEnd c failed) (hr : ∀ req, r ≠ .request req)
      (hs : s.daemon.step (.clientRead c r) = some (d', [])) :
      Step s i ⟨d', s.streams⟩ []
  /-- A response is encoded. -/
  | encode {c : ClientId} {st : ClientStream} {resp : DaemonResponse} {buf : Bytes}
      (hc : s.daemon.clients[c]? = some (.answering resp)) (hst : s.streams[c]? = some st)
      (hidle : st.sending = false)
      (henc : DaemonResponseEncoder.encode resp st.writeBuf = (.ok (), buf)) :
      Step s (.encode c) ⟨s.daemon, s.streams.set c { st with writeBuf := buf, sending := true }⟩ []
  /-- The stream takes some bytes of a response. -/
  | takes {c : ClientId} {st : ClientStream} {resp : DaemonResponse} {n : Nat}
      (hc : s.daemon.clients[c]? = some (.answering resp)) (hst : s.streams[c]? = some st)
      (hsend : st.sending = true) :
      Step s (.takes c n)
        ⟨s.daemon, s.streams.set c { st with writeBuf := st.writeBuf.drop n }⟩
        [.wrote c (st.writeBuf.take n)]
  /-- A response is written. -/
  | flushed {c : ClientId} {st : ClientStream} {resp : DaemonResponse} {d' : Daemon}
      (hc : s.daemon.clients[c]? = some (.answering resp)) (hst : s.streams[c]? = some st)
      (hsend : st.sending = true) (hbuf : st.writeBuf = [])
      (hs : s.daemon.step (.clientWritten c true) = some (d', [])) :
      Step s (.flushed c) ⟨d', s.streams.set c { st with sending := false }⟩ [.told c resp]
  /-- A response cannot be encoded or written. -/
  | failed {i : SocketInput} {c : ClientId} {resp : DaemonResponse} {d' : Daemon}
      (hi : i = .encode c ∨ i = .writeErr c)
      (hc : s.daemon.clients[c]? = some (.answering resp))
      (hs : s.daemon.step (.clientWritten c false) = some (d', [])) :
      Step s i ⟨d', s.streams⟩ [.notTold c resp]

variable {s s' : ControlSocket} {i : SocketInput} {out log : List SocketObs} {c : ClientId}

/-- A client that is awake has a task and a stream. -/
theorem awake_some {pc : ClientPc} {st : ClientStream} (h : s.awake c = some (pc, st)) :
    s.daemon.clients[c]? = some pc ∧ s.streams[c]? = some st := by
  unfold awake at h
  split at h
  · cases h
  · split at h
    · rename_i hpc hst
      cases h
      exact ⟨hpc, hst⟩
    · cases h

/-- The task of a client shows nothing of the daemon. -/
theorem resolve_some {st : ClientStream} {j : DaemonInput} {obs : List SocketObs}
    (hj : ofStream j = true) (h : s.resolve c st j obs = some (s', out)) :
    ∃ d', s.daemon.step j = some (d', []) ∧ s' = ⟨d', s.streams.set c st⟩ ∧ out = obs := by
  obtain ⟨⟨d', out'⟩, hs, heq⟩ := Option.map_eq_some_iff.mp h
  cases heq
  have hnil : out' = [] := by
    cases j with
    | clientRead => cases Daemon.step_cases hs; rfl
    | clientWritten => cases Daemon.step_cases hs; rfl
    | _ => cases hj
  subst hnil
  exact ⟨d', hs, rfl, by simp⟩

/-- Setting a stream to what it is. -/
theorem set_self {st : ClientStream} (hst : s.streams[c]? = some st) :
    s.streams.set c st = s.streams := by
  obtain ⟨hlt, rfl⟩ := List.getElem?_eq_some_iff.mp hst
  exact List.set_getElem_self hlt

/-- Inversion of the step function. -/
theorem step_cases (h : s.step i = some (s', out)) : Step s i s' out := by
  cases i with
  | daemon j =>
      simp only [step] at h
      split at h
      · cases h
      · rename_i hj
        obtain ⟨⟨d', out'⟩, hs, heq⟩ := Option.map_eq_some_iff.mp h
        cases heq
        exact .daemon (Bool.eq_false_iff.mpr hj) hs
  | yields c bs =>
      simp only [step] at h
      split at h
      · rename_i st hawake
        obtain ⟨hc, hst⟩ := awake_some hawake
        split at h
        · cases h
          exact .yields hc hst
        · cases h
      · cases h
  | next c =>
      simp only [step, onNext] at h
      split at h
      · rename_i st hawake
        obtain ⟨-, hst⟩ := awake_some hawake
        split at h
        · cases h
        · obtain ⟨d', hs, rfl, rfl⟩ := resolve_some rfl h
          rw [set_self hst]
          exact .gone (.inl rfl) (fun _ => ClientRead.noConfusion) hs
        · rename_i req rest hdec
          obtain ⟨d', hs, rfl, rfl⟩ := resolve_some rfl h
          exact .next hst hdec hs
      · cases h
  | readEnd c failed =>
      simp only [step, onReadEnd] at h
      split at h
      · rename_i st hawake
        obtain ⟨-, hst⟩ := awake_some hawake
        split at h
        · obtain ⟨d', hs, rfl, rfl⟩ := resolve_some rfl h
          rw [set_self hst]
          refine .gone (.inr ⟨failed, rfl⟩) ?_ hs
          intro req
          split <;> exact ClientRead.noConfusion
        · cases h
      · cases h
  | encode c =>
      simp only [step, onEncode] at h
      split at h
      · rename_i resp st hawake
        obtain ⟨hc, hst⟩ := awake_some hawake
        split at h
        · cases h
        · rename_i hidle
          split at h
          · rename_i buf henc
            cases h
            exact .encode hc hst (Bool.eq_false_iff.mpr hidle) henc
          · obtain ⟨d', hs, rfl, rfl⟩ := resolve_some rfl h
            rw [set_self hst]
            exact .failed (.inl rfl) hc hs
      · cases h
  | takes c n =>
      simp only [step] at h
      split at h
      · rename_i resp st hawake
        obtain ⟨hc, hst⟩ := awake_some hawake
        split at h
        · rename_i hsend
          cases h
          exact .takes hc hst hsend.1
        · cases h
      · cases h
  | flushed c =>
      simp only [step] at h
      split at h
      · rename_i resp st hawake
        obtain ⟨hc, hst⟩ := awake_some hawake
        split at h
        · rename_i hsend
          obtain ⟨d', hs, rfl, rfl⟩ := resolve_some rfl h
          exact .flushed hc hst hsend.1 hsend.2 hs
        · cases h
      · cases h
  | writeErr c =>
      simp only [step] at h
      split at h
      · rename_i resp st hawake
        obtain ⟨hc, hst⟩ := awake_some hawake
        split at h
        · obtain ⟨d', hs, rfl, rfl⟩ := resolve_some rfl h
          rw [set_self hst]
          exact .failed (.inr rfl) hc hs
        · cases h
      · cases h

/-- What the daemon shows is of no stream. -/
theorem flatMap_daemon {β : Type} (f : SocketObs → List β) (hf : ∀ o, f (.daemon o) = [])
    (out : List DaemonObs) : (out.map SocketObs.daemon).flatMap f = [] := by
  simp [List.flatMap_eq_nil_iff, hf]

/-- The bytes that a step shows to be read are those it takes. -/
theorem Step.bytesIn_eq (h : Step s i s' out) (c : ClientId) :
    out.flatMap (SocketObs.bytesIn c) = i.bytesIn c := by
  cases h with
  | daemon hi hs => exact flatMap_daemon _ (fun _ => rfl) _
  | @yields k st bs hc hst => exact List.append_nil _
  | gone hi hr hs => rcases hi with rfl | ⟨_, rfl⟩ <;> rfl
  | failed hi hc hs => rcases hi with rfl | rfl <;> rfl
  | _ => rfl

/-- The bytes that a step shows to be written are those it puts into the stream. -/
theorem Step.bytesOut_eq (h : Step s i s' out) (c : ClientId) :
    out.flatMap (SocketObs.bytesOut c) = s.taken c i := by
  cases h with
  | daemon hi hs => exact flatMap_daemon _ (fun _ => rfl) _
  | @takes k st resp n hc hst hsend =>
      by_cases hk : k = c
      · subst hk
        simp [SocketObs.bytesOut, taken, hst]
      · simp [SocketObs.bytesOut, taken, hk]
  | gone hi hr hs => rcases hi with rfl | ⟨_, rfl⟩ <;> rfl
  | failed hi hc hs => rcases hi with rfl | rfl <;> rfl
  | _ => rfl

/-- A client that was not accepted is not read. -/
theorem Step.bytesIn_eq_nil (h : Step s i s' out) (hc : s.streams[c]? = none) :
    i.bytesIn c = [] := by
  cases h with
  | @yields k st bs _ hst =>
      have hk : k ≠ c := by
        rintro rfl
        rw [hst] at hc
        cases hc
      exact if_neg hk
  | gone hi hr hs => rcases hi with rfl | ⟨_, rfl⟩ <;> rfl
  | failed hi hc hs => rcases hi with rfl | rfl <;> rfl
  | _ => rfl

/-- A client that was not accepted is not written to. -/
theorem taken_eq_nil (hc : s.streams[c]? = none) : s.taken c i = [] := by
  cases i with
  | takes k n => simp [taken, hc]
  | _ => rfl

/-- Every client that is accepted has a stream. -/
theorem Step.length_streams (h : Step s i s' out) :
    s'.streams.length = s.streams.length + joining i := by
  cases h with
  | daemon => exact List.length_append
  | gone hi hr hs => rcases hi with rfl | ⟨_, rfl⟩ <;> rfl
  | failed hi hc hs => rcases hi with rfl | rfl <;> rfl
  | _ => exact List.length_set

end ControlSocket

end TcpUart
