import TcpUart.Lib.Conveyor
import TcpUart.Firmware.TaskInvariants

/-! # What goes through the device
Between `recv` and the UART, and between the UART and `send`, every task and every queue of the
firmware is a stage that conveys what it takes, in order. A session that ends loses the message that
is being read or sent; nothing else is lost.

* `Clients` — the sessions come in order.
* `Received` — what a session was given is read as whole messages, numbered in order.
* `Sent` — what is sent in a session are the frames of the entries taken for it.
* `read_conveyed`, `tcpToUart_conveyed`, `responses_conveyed`, `uartToTcp_conveyed`,
  `uart_conveyed` — the stages. -/

namespace TcpUart

open Reactive Framing

namespace DevObs

/-- The session an observation is about. -/
def session? : DevObs → Option Nat
  | .accepted s | .closed s | .ended s _ | .recv s _ | .msgRead s _ _ | .enqueued s _
  | .dequeued s _ | .sent s _ => some s
  | _ => none

/-- Bytes `recv` returned. -/
def recv? : DevObs → Option (Nat × Bytes)
  | .recv s bs => some (s, bs)
  | _ => none

/-- Messages `read_msg` returned, numbered. -/
def read? : DevObs → Option (Nat × Entry)
  | .msgRead s n m => some (s, ⟨m, some (s, n)⟩)
  | _ => none

/-- Messages put on `tcp_to_uart_queue`. -/
def enqueued? : DevObs → Option (Nat × Entry)
  | .enqueued s e => some (s, e)
  | _ => none

/-- Entries taken from `uart_to_tcp_queue`. -/
def dequeued? : DevObs → Option (Nat × Entry)
  | .dequeued s e => some (s, e)
  | _ => none

/-- Bytes sent. -/
def sent? : DevObs → Option (Nat × Bytes)
  | .sent s bs => some (s, bs)
  | _ => none

/-- Entries `uart_tx_task` took. -/
def txTaken? : DevObs → Option Entry
  | .txTaken e => some e
  | _ => none

/-- Responses `handle_control` put on `uart_to_tcp_queue`. -/
def responded? : DevObs → Option Entry
  | .responded e => some e
  | _ => none

/-- Messages `uart_rx_task` put on `uart_to_tcp_queue`. -/
def rxEnqueued? : DevObs → Option Message
  | .rxEnqueued m => some m
  | _ => none

/-- Entries put on `uart_to_tcp_queue` by either producer. -/
def queued? : DevObs → Option Entry
  | .rxEnqueued m => some ⟨m, none⟩
  | .responded e => some e
  | _ => none

/-- Bytes read from the UART driver. -/
def uartRead? : DevObs → Option Bytes
  | .uartRead bs => some bs
  | _ => none

theorem session?_of_recv? {o : DevObs} {s : Nat} {bs : Bytes} (h : o.recv? = some (s, bs)) :
    o.session? = some s := by
  cases o <;> cases h
  rfl

theorem session?_of_read? {o : DevObs} {s : Nat} {e : Entry} (h : o.read? = some (s, e)) :
    o.session? = some s := by
  cases o <;> cases h
  rfl

theorem session?_of_enqueued? {o : DevObs} {s : Nat} {e : Entry}
    (h : o.enqueued? = some (s, e)) : o.session? = some s := by
  cases o <;> cases h
  rfl

theorem session?_of_dequeued? {o : DevObs} {s : Nat} {e : Entry}
    (h : o.dequeued? = some (s, e)) : o.session? = some s := by
  cases o <;> cases h
  rfl

theorem session?_of_sent? {o : DevObs} {s : Nat} {bs : Bytes} (h : o.sent? = some (s, bs)) :
    o.session? = some s := by
  cases o <;> cases h
  rfl

end DevObs

/-- The frame of an entry. -/
def Entry.frame (e : Entry) : Frame := e.msg.frame

/-- The bytes `recv` returned in session `s`. -/
def devRecvBytes (s : Nat) (log : List DevObs) : Bytes :=
  (valuesAt s (log.filterMap DevObs.recv?)).flatten

/-- The messages read in session `s`. -/
def readAt (s : Nat) (log : List DevObs) : List Entry := valuesAt s (log.filterMap DevObs.read?)

/-- The entries taken from `uart_to_tcp_queue` in session `s`. -/
def dequeuedAt (s : Nat) (log : List DevObs) : List Entry :=
  valuesAt s (log.filterMap DevObs.dequeued?)

/-- The bytes sent in session `s`. -/
def devSentBytes (s : Nat) (log : List DevObs) : Bytes :=
  (valuesAt s (log.filterMap DevObs.sent?)).flatten

@[simp] theorem devRecvBytes_append (s : Nat) (log out : List DevObs) :
    devRecvBytes s (log ++ out) = devRecvBytes s log ++ devRecvBytes s out := by
  simp [devRecvBytes]

@[simp] theorem readAt_append (s : Nat) (log out : List DevObs) :
    readAt s (log ++ out) = readAt s log ++ readAt s out := by
  simp [readAt]

@[simp] theorem dequeuedAt_append (s : Nat) (log out : List DevObs) :
    dequeuedAt s (log ++ out) = dequeuedAt s log ++ dequeuedAt s out := by
  simp [dequeuedAt]

@[simp] theorem devSentBytes_append (s : Nat) (log out : List DevObs) :
    devSentBytes s (log ++ out) = devSentBytes s log ++ devSentBytes s out := by
  simp [devSentBytes]

/-- The bytes of the message that is being read. -/
def TcpPc.got (pc : TcpPc) : Bytes := pc.reading.elim [] Prod.snd

/-- The bytes read so far. -/
theorem TcpPc.got_of_reading {pc : TcpPc} {efd : Bool} {got : Bytes}
    (h : pc.reading = some (efd, got)) : pc.got = got := by
  rw [TcpPc.got, h]
  rfl

/-- The bytes of the entry in hand that are not sent yet. -/
def TcpPc.unsent : TcpPc → Bytes
  | .sendHdr e => e.msg.header ++ e.msg.payload
  | .sendBody e => e.msg.payload
  | _ => []

/-- A task that reads a message has nothing left to send. -/
theorem TcpPc.unsent_of_reading {pc : TcpPc} (h : pc.reading ≠ none) : pc.unsent = [] := by
  cases pc with
  | readHdr => rfl
  | readBody => rfl
  | _ => exact absurd rfl h

/-- What is sent next is the first part of what is left. -/
theorem TcpPc.unsent_of_sending {pc : TcpPc} {e : Entry} {bs : Bytes}
    (h : pc.sending = some (e, bs)) : ∃ rest, pc.unsent = bs ++ rest := by
  cases pc with
  | sendHdr e =>
      cases h
      exact ⟨_, rfl⟩
  | sendBody e =>
      cases h
      exact ⟨[], (List.append_nil _).symm⟩
  | _ => cases h

namespace Device

/-- What session `s` holds, if it is the one being served. -/
def holding (d : Device) (s : Nat) (bs : Bytes) : Option Bytes :=
  if d.tcp.inSession ∧ d.sock = s then some bs else none

/-- What the session being served holds. -/
theorem holding_self {d : Device} (h : d.tcp.inSession = true) (bs : Bytes) :
    d.holding d.sock bs = some bs := by
  simp [holding, h]

/-- Other sessions are off. -/
theorem holding_of_ne {d : Device} {s : Nat} (h : d.sock ≠ s) (bs : Bytes) :
    d.holding s bs = none := by
  simp [holding, h]

/-- Between sessions all are off. -/
theorem holding_of_not {d : Device} (h : d.tcp.inSession = false) (s : Nat) (bs : Bytes) :
    d.holding s bs = none := by
  simp [holding, h]

/-- The session being served is still the same, if one is being served at all. -/
def SameClient (d d' : Device) : Prop :=
  d'.tcp.inSession = true → d.tcp.inSession = true ∧ d'.sock = d.sock

/-- As long as the client is the same, a session holds what it held or is off. -/
theorem SameClient.holding_eq {d d' : Device} (h : SameClient d d') {bs bs' : Bytes}
    (hbs : d'.tcp.inSession = true → bs' = bs) (s : Nat) :
    d'.holding s bs' = d.holding s bs ∨ d'.holding s bs' = none := by
  cases hin : d'.tcp.inSession with
  | true =>
      left
      obtain ⟨hin₀, hsock⟩ := h hin
      rw [holding, holding, hin, hin₀, hsock, hbs hin]
  | false => exact .inr (holding_of_not hin s bs')

/-- As long as the client is the same, other sessions stay off. -/
theorem SameClient.holding_of_ne {d d' : Device} (h : SameClient d d') {s : Nat}
    (hs : d.sock ≠ s) (bs : Bytes) : d'.holding s bs = none := by
  cases hin : d'.tcp.inSession with
  | true => exact Device.holding_of_ne (by rw [(h hin).2]; exact hs) bs
  | false => exact holding_of_not hin s bs

/-! ## Sessions -/

/-- What a step does to the sessions: it is about the one being served, or accepts a new one. -/
inductive ClientStep (d d' : Device) (out : List DevObs) : Prop
  /-- Whatever happens, happens in the session being served. -/
  | same (hc : SameClient d d') (hn : d'.nextSock = d.nextSock)
      (hout : ∀ s ∈ out.filterMap DevObs.session?, d.tcp.inSession = true ∧ s = d.sock)
  /-- A client is accepted. -/
  | accept {s : Nat} (hout : out = [.accepted s]) (hle : d.nextSock ≤ s)
      (hin : d.tcp.inSession = false) (hin' : d'.tcp.inSession = true) (hsock : d'.sock = s)
      (hn : d'.nextSock = s + 1)

/-- A step outside of sessions. -/
theorem ClientStep.of_silent {d d' : Device} {out : List DevObs} (htcp : d'.tcp = d.tcp)
    (hsock : d'.sock = d.sock) (hn : d'.nextSock = d.nextSock)
    (hout : out.filterMap DevObs.session? = []) : ClientStep d d' out := by
  refine .same (fun h => ⟨htcp ▸ h, hsock⟩) hn ?_
  rw [hout]
  exact nofun

/-- A step inside a session. -/
theorem ClientStep.of_inSession {d d' : Device} {out : List DevObs}
    (hin : d.tcp.inSession = true) (hsock : d'.sock = d.sock) (hn : d'.nextSock = d.nextSock)
    (hout : ∀ s ∈ out.filterMap DevObs.session?, s = d.sock) : ClientStep d d' out :=
  .same (fun _ => ⟨hin, hsock⟩) hn fun s hs => ⟨hin, hout s hs⟩

/-- Every step is about one session. -/
theorem Step.clientStep {cfg : DeviceConfig} {d d' : Device} {i : DevInput} {out : List DevObs}
    (h : Step cfg d i d' out) : ClientStep d d' out := by
  cases h with
  | setup ok hpc =>
      refine .same (fun h => ?_) rfl nofun
      cases ok <;> cases h
  | accept hpc hs => exact .accept rfl hs (by rw [hpc]; rfl) rfl rfl rfl
  | selectFail hpc => exact .of_inSession (by rw [hpc]; rfl) rfl rfl (by simp [DevObs.session?])
  | selectClient hpc => exact .of_inSession (by rw [hpc]; rfl) rfl rfl nofun
  | selectEfd hpc => exact .of_inSession (by rw [hpc]; rfl) rfl rfl nofun
  | recvMore hr =>
      exact .of_inSession (TcpPc.inSession_of_reading (by rw [hr]; exact Option.some_ne_none _))
        rfl rfl (by simp [DevObs.session?])
  | recvDone hr =>
      exact .of_inSession (TcpPc.inSession_of_reading (by rw [hr]; exact Option.some_ne_none _))
        rfl rfl (by simp [DevObs.session?])
  | recvFail hr =>
      exact .of_inSession (TcpPc.inSession_of_reading hr) rfl rfl (by simp [DevObs.session?])
  | enqueue hpc => exact .of_inSession (by rw [hpc]; rfl) rfl rfl (by simp [DevObs.session?])
  | readEfd hpc => exact .of_inSession (by rw [hpc]; rfl) rfl rfl nofun
  | drainEmpty hpc => exact .of_inSession (by rw [hpc]; rfl) rfl rfl nofun
  | drainTake hpc => exact .of_inSession (by rw [hpc]; rfl) rfl rfl (by simp [DevObs.session?])
  | sendHdr hpc => exact .of_inSession (by rw [hpc]; rfl) rfl rfl (by simp [DevObs.session?])
  | sendBody hpc => exact .of_inSession (by rw [hpc]; rfl) rfl rfl (by simp [DevObs.session?])
  | sendFail hpc =>
      exact .of_inSession (TcpPc.inSession_of_sending (by rw [hpc]; exact Option.some_ne_none _))
        rfl rfl (by simp [DevObs.session?])
  | _ => exact .of_silent rfl rfl rfl rfl

/-- The sessions of a history are in order, and the one being served is the last one. -/
structure Clients (log : List DevObs) (d : Device) : Prop where
  /-- Sessions come in order. -/
  ordered : Ordered (log.filterMap DevObs.session?) d.nextSock
  /-- The session being served is the last one accepted. -/
  current : d.tcp.inSession = true → d.sock + 1 = d.nextSock

/-- Every step keeps the sessions in order. -/
theorem Clients.step {log out : List DevObs} {d d' : Device} (h : Clients log d)
    (hstep : ClientStep d d' out) : Clients (log ++ out) d' := by
  cases hstep with
  | same hc hn hout =>
      constructor
      · rw [List.filterMap_append, hn]
        cases hin : d.tcp.inSession with
        | true =>
            have hcur := h.current hin
            refine h.ordered.append (Nat.le_refl _) (Nat.le_of_eq hcur.symm) fun s hs => ?_
            exact ⟨(hout s hs).2, by omega⟩
        | false =>
            -- outside of a session nothing is said about any
            refine h.ordered.append (Nat.le_refl _) (Nat.le_succ _) fun s hs => ?_
            have := (hout s hs).1
            rw [hin] at this
            cases this
      · intro hin'
        obtain ⟨hin, hsock⟩ := hc hin'
        rw [hsock, hn]
        exact h.current hin
  | @accept s hout hle hin hin' hsock hn =>
      subst hout
      constructor
      · rw [List.filterMap_append, hn]
        refine h.ordered.append (by omega) (Nat.le_succ_of_le hle) fun s' hs' => ?_
        obtain rfl : s' = s := by simpa [DevObs.session?] using hs'
        exact ⟨rfl, Nat.lt_succ_self _⟩
      · intro _
        rw [hsock, hn]

/-- The sessions of every history are in order. -/
theorem clients_of_reaches {cfg : DeviceConfig} {log : List DevObs} {d : Device}
    (h : (machine cfg).Reaches log d) : Clients log d := by
  refine h.invariant (P := Clients) ⟨Ordered.nil _, fun h => by cases h⟩ ?_
  intro log d i d' out _ hcl _ hstep
  exact hcl.step (step_cases hstep).clientStep

/-! ## From `recv` to messages -/

/-- What a step does to the bytes and messages read. -/
inductive RecvEffect (d d' : Device) (out : List DevObs) : Prop
  /-- Nothing, except that a session ends. -/
  | quiet (hrecv : out.filterMap DevObs.recv? = []) (hread : out.filterMap DevObs.read? = [])
      (hc : SameClient d d') (hg : d'.tcp.inSession = true → d'.tcp.got = d.tcp.got)
      (hn : d'.readCount = d.readCount)
  /-- A session begins. -/
  | accept {s : Nat} (hout : out = [.accepted s]) (hle : d.nextSock ≤ s)
      (hin' : d'.tcp.inSession = true) (hsock : d'.sock = s) (hg : d'.tcp.got = [])
      (hn : d'.readCount = 0)
  /-- Part of a message is read. -/
  | more {bs : Bytes} (hout : out = [.recv d.sock bs]) (hin : d.tcp.inSession = true)
      (hin' : d'.tcp.inSession = true) (hsock : d'.sock = d.sock)
      (hg : d'.tcp.got = d.tcp.got ++ bs) (hn : d'.readCount = d.readCount)
  /-- The rest of a message is read. -/
  | done {bs : Bytes} {m : Message}
      (hout : out = [.recv d.sock bs, .msgRead d.sock d.readCount m])
      (hin : d.tcp.inSession = true) (hin' : d'.tcp.inSession = true) (hsock : d'.sock = d.sock)
      (hm : m.frame.bytes = d.tcp.got ++ bs) (hg : d'.tcp.got = [])
      (hn : d'.readCount = d.readCount + 1)

/-- A step that reads nothing, between two places where no message is being read. -/
theorem RecvEffect.of_idle {d d' : Device} {out : List DevObs} {pc : TcpPc} (hpc : d.tcp = pc)
    (hin : pc.inSession = true) (hsock : d'.sock = d.sock) (hn : d'.readCount = d.readCount)
    (hg : pc.got = []) (hg' : d'.tcp.got = []) (hrecv : out.filterMap DevObs.recv? = [])
    (hread : out.filterMap DevObs.read? = []) : RecvEffect d d' out :=
  .quiet hrecv hread (fun _ => ⟨hpc ▸ hin, hsock⟩) (fun _ => by rw [hpc, hg, hg']) hn

/-- Every step has one of these effects. -/
theorem Step.recvEffect {cfg : DeviceConfig} {d d' : Device} {i : DevInput} {out : List DevObs}
    (h : Step cfg d i d' out) : RecvEffect d d' out := by
  cases h with
  | setup ok hpc =>
      refine .quiet rfl rfl (fun h => ?_) (fun h => ?_) rfl
      · cases ok <;> cases h
      · cases ok <;> cases h
  | accept hpc hs => exact .accept rfl hs rfl rfl rfl rfl
  | selectFail hpc => exact .of_idle hpc rfl rfl rfl rfl rfl rfl rfl
  | selectClient hpc => exact .of_idle hpc rfl rfl rfl rfl rfl rfl rfl
  | selectEfd hpc => exact .of_idle hpc rfl rfl rfl rfl rfl rfl rfl
  | @recvMore efd got bs pc hr hbs hr' =>
      have hin := TcpPc.inSession_of_reading (by rw [hr]; exact Option.some_ne_none _)
      have hin' := TcpPc.inSession_of_reading (by rw [hr']; exact Option.some_ne_none _)
      refine .more rfl hin hin' rfl ?_ rfl
      rw [TcpPc.got_of_reading hr, ← TcpPc.got_of_reading hr']
  | recvDone hr hm =>
      have hin := TcpPc.inSession_of_reading (by rw [hr]; exact Option.some_ne_none _)
      exact .done rfl hin rfl rfl (by rw [hm, TcpPc.got_of_reading hr]) rfl rfl
  | recvFail hr => exact .quiet rfl rfl nofun nofun rfl
  | @enqueue efd e q hpc hq =>
      refine .of_idle hpc rfl rfl rfl rfl ?_ rfl rfl
      cases efd <;> rfl
  | readEfd hpc => exact .of_idle hpc rfl rfl rfl rfl rfl rfl rfl
  | drainEmpty hpc => exact .of_idle hpc rfl rfl rfl rfl rfl rfl rfl
  | drainTake hpc => exact .of_idle hpc rfl rfl rfl rfl rfl rfl rfl
  | sendHdr hpc => exact .of_idle hpc rfl rfl rfl rfl rfl rfl rfl
  | sendBody hpc => exact .of_idle hpc rfl rfl rfl rfl rfl rfl rfl
  | sendFail hpc => exact .quiet rfl rfl nofun nofun rfl
  | _ => exact .quiet rfl rfl (fun h => ⟨h, rfl⟩) (fun _ => rfl) rfl

/-- What is read in each session. -/
structure Received (log : List DevObs) (d : Device) : Prop where
  /-- The bytes of a session are read as whole messages, but for the one being read. -/
  bytes : ∀ s, Conveys (devRecvBytes s log) (stream Frame.bytes ((readAt s log).map Entry.frame))
    (d.holding s d.tcp.got)
  /-- The messages of a session are numbered in order. -/
  numbered : ∀ s, (readAt s log).map Entry.origin
    = (List.range (readAt s log).length).map fun n => some (s, n)
  /-- `readCount` is the number of messages read. -/
  count : d.tcp.inSession = true → d.readCount = (readAt d.sock log).length

/-- What was read in a session that a step says nothing about stays as it is. -/
theorem Received.bytes_kept {log out : List DevObs} {d d' : Device} (h : Received log d) {s : Nat}
    (hb : devRecvBytes s out = []) (hr : readAt s out = [])
    (hheld : d'.holding s d'.tcp.got = d.holding s d.tcp.got ∨ d'.holding s d'.tcp.got = none) :
    Conveys (devRecvBytes s (log ++ out))
      (stream Frame.bytes ((readAt s (log ++ out)).map Entry.frame)) (d'.holding s d'.tcp.got) := by
  rw [devRecvBytes_append, readAt_append, hb, hr, List.map_append, stream_append]
  exact (h.bytes s).idle hheld

/-- So do the numbers of its messages. -/
theorem Received.numbered_kept {log out : List DevObs} {d : Device} (h : Received log d) {s : Nat}
    (hr : readAt s out = []) : (readAt s (log ++ out)).map Entry.origin
      = (List.range (readAt s (log ++ out)).length).map fun n => some (s, n) := by
  rw [readAt_append, hr, List.append_nil]
  exact h.numbered s

/-- Nothing was read in a session before it was accepted. -/
theorem Clients.read_nextSock {log : List DevObs} {d : Device} (h : Clients log d) {s : Nat}
    (hle : d.nextSock ≤ s) : readAt s log = [] ∧ devRecvBytes s log = [] := by
  refine ⟨h.ordered.valuesAt_eq_nil (fun _ _ _ => DevObs.session?_of_read?) hle, ?_⟩
  rw [devRecvBytes, h.ordered.valuesAt_eq_nil (fun _ _ _ => DevObs.session?_of_recv?) hle]
  rfl

/-- Every step keeps what is read. -/
theorem Received.step {log out : List DevObs} {d d' : Device} (h : Received log d)
    (hcl : Clients log d) (heff : RecvEffect d d' out) : Received (log ++ out) d' := by
  cases heff with
  | quiet hrecv hread hc hg hn =>
      have hr : ∀ s, readAt s out = [] := fun s => by rw [readAt, hread]; rfl
      have hb : ∀ s, devRecvBytes s out = [] := fun s => by rw [devRecvBytes, hrecv]; rfl
      refine ⟨fun s => ?_, fun s => h.numbered_kept (hr s), fun hin => ?_⟩
      · exact h.bytes_kept (hb s) (hr s) (hc.holding_eq hg s)
      · obtain ⟨hin₀, hsock⟩ := hc hin
        rw [readAt_append, hr, List.append_nil, hsock, hn]
        exact h.count hin₀
  | @accept s hout hle hin' hsock hg hn =>
      subst hout
      obtain ⟨hnew, hnew'⟩ := hcl.read_nextSock hle
      refine ⟨fun s' => ?_, fun s' => h.numbered_kept rfl, fun _ => ?_⟩
      · by_cases hs : s = s'
        · -- a session that was not accepted before has no history
          subst hs
          have hr : readAt s [.accepted s] = [] := rfl
          have hb : devRecvBytes s [.accepted s] = [] := rfl
          rw [devRecvBytes_append, readAt_append, hr, hb, hnew, hnew', hg, ← hsock,
            holding_self hin']
          exact Conveys.start
        · exact h.bytes_kept rfl rfl (.inr (Device.holding_of_ne (by rw [hsock]; exact hs) _))
      · have hr : readAt s [.accepted s] = [] := rfl
        rw [hsock, readAt_append, hr, List.append_nil, hnew, hn]
        rfl
  | @more bs hout hin hin' hsock hg hn =>
      subst hout
      have hr : ∀ s, readAt s [.recv d.sock bs] = [] := fun _ => rfl
      have hb : ∀ s, devRecvBytes s [.recv d.sock bs]
          = (valuesAt s [(d.sock, bs)]).flatten := fun _ => rfl
      refine ⟨fun s => ?_, fun s => h.numbered_kept (hr s), fun _ => ?_⟩
      · by_cases hs : d.sock = s
        · -- the bytes join the part of a message that was there
          subst hs
          rw [devRecvBytes_append, readAt_append, hr, hb, valuesAt_singleton, List.map_append,
            stream_append, if_pos rfl, ← hsock, holding_self hin', hg, hsock]
          have hc := h.bytes d.sock
          rw [holding_self hin] at hc
          exact hc.work (by simp)
        · refine h.bytes_kept ?_ (hr s) (.inr (Device.holding_of_ne (by rw [hsock]; exact hs) _))
          rw [hb, valuesAt_singleton, if_neg hs]
          rfl
      · rw [readAt_append, hr, List.append_nil, hsock, hn]
        exact h.count hin
  | @done bs m hout hin hin' hsock hm hg hn =>
      subst hout
      have hr : ∀ s, readAt s [.recv d.sock bs, .msgRead d.sock d.readCount m]
          = valuesAt s [(d.sock, ⟨m, some (d.sock, d.readCount)⟩)] := fun _ => rfl
      have hb : ∀ s, devRecvBytes s [.recv d.sock bs, .msgRead d.sock d.readCount m]
          = (valuesAt s [(d.sock, bs)]).flatten := fun _ => rfl
      refine ⟨fun s => ?_, fun s => ?_, fun _ => ?_⟩
      · by_cases hs : d.sock = s
        · -- the bytes complete a message
          subst hs
          rw [devRecvBytes_append, readAt_append, hr, hb, valuesAt_singleton, valuesAt_singleton,
            List.map_append, stream_append, if_pos rfl, if_pos rfl, ← hsock, holding_self hin', hg,
            hsock]
          have hc := h.bytes d.sock
          rw [holding_self hin] at hc
          refine hc.work ?_
          simp [Entry.frame, hm]
        · have hheld := Device.holding_of_ne (d := d') (s := s) (by rw [hsock]; exact hs) d'.tcp.got
          refine h.bytes_kept ?_ ?_ (.inr hheld)
          · rw [hb, valuesAt_singleton, if_neg hs]
            rfl
          · rw [hr, valuesAt_singleton, if_neg hs]
      · by_cases hs : d.sock = s
        · subst hs
          rw [readAt_append, hr, valuesAt_singleton, if_pos rfl, List.map_append,
            List.length_append, h.numbered d.sock, h.count hin]
          simp [List.range_succ]
        · apply h.numbered_kept
          rw [hr, valuesAt_singleton, if_neg hs]
      · rw [readAt_append, hr, hsock, valuesAt_singleton, if_pos rfl, hn, h.count hin]
        simp

/-- What is read in each session, along every run. -/
theorem received_of_reaches {cfg : DeviceConfig} {log : List DevObs} {d : Device}
    (h : (machine cfg).Reaches log d) : Received log d := by
  refine h.invariant (P := Received) ?_ ?_
  · refine ⟨fun s => ?_, fun _ => rfl, fun h => by cases h⟩
    exact Conveys.start.off
  · intro log d i d' out hr hrec _ hstep
    exact hrec.step (clients_of_reaches hr.reaches) (step_cases hstep).recvEffect

/-! ## From entries to `send` -/

/-- What a step does to the entries taken and the bytes sent. -/
inductive SendEffect (d d' : Device) (out : List DevObs) : Prop
  /-- Nothing, except that a session ends. -/
  | quiet (hdeq : out.filterMap DevObs.dequeued? = []) (hsent : out.filterMap DevObs.sent? = [])
      (hc : SameClient d d') (hu : d'.tcp.inSession = true → d'.tcp.unsent = d.tcp.unsent)
  /-- A session begins. -/
  | accept {s : Nat} (hout : out = [.accepted s]) (hle : d.nextSock ≤ s)
      (hin' : d'.tcp.inSession = true) (hsock : d'.sock = s) (hu : d'.tcp.unsent = [])
  /-- An entry is taken. -/
  | take {e : Entry} (hout : out = [.dequeued d.sock e]) (hin : d.tcp.inSession = true)
      (hin' : d'.tcp.inSession = true) (hsock : d'.sock = d.sock) (hu : d.tcp.unsent = [])
      (hu' : d'.tcp.unsent = e.frame.bytes)
  /-- Bytes of it are sent; if they are the last ones of the session, the rest is lost. -/
  | send {bs rest : Bytes} (hdeq : out.filterMap DevObs.dequeued? = [])
      (hsent : out.filterMap DevObs.sent? = [(d.sock, bs)]) (hin : d.tcp.inSession = true)
      (hc : SameClient d d') (hu : d.tcp.unsent = bs ++ rest)
      (hu' : d'.tcp.inSession = true → d'.tcp.unsent = rest)

/-- A step that sends nothing, between two places where nothing is being sent. -/
theorem SendEffect.of_idle {d d' : Device} {out : List DevObs} (hin : d.tcp.inSession = true)
    (hsock : d'.sock = d.sock) (hu : d.tcp.unsent = []) (hu' : d'.tcp.unsent = [])
    (hdeq : out.filterMap DevObs.dequeued? = []) (hsent : out.filterMap DevObs.sent? = []) :
    SendEffect d d' out :=
  .quiet hdeq hsent (fun _ => ⟨hin, hsock⟩) fun _ => by rw [hu, hu']

/-- Every step has one of these effects. -/
theorem Step.sendEffect {cfg : DeviceConfig} {d d' : Device} {i : DevInput} {out : List DevObs}
    (h : Step cfg d i d' out) : SendEffect d d' out := by
  cases h with
  | setup ok hpc =>
      refine .quiet rfl rfl (fun h => ?_) (fun h => ?_)
      · cases ok <;> cases h
      · cases ok <;> cases h
  | accept hpc hs => exact .accept rfl hs rfl rfl rfl
  | selectFail hpc => exact .of_idle (by rw [hpc]; rfl) rfl (by rw [hpc]; rfl) rfl rfl rfl
  | selectClient hpc => exact .of_idle (by rw [hpc]; rfl) rfl (by rw [hpc]; rfl) rfl rfl rfl
  | selectEfd hpc => exact .of_idle (by rw [hpc]; rfl) rfl (by rw [hpc]; rfl) rfl rfl rfl
  | @recvMore efd got bs pc hr hbs hr' =>
      have hne : d.tcp.reading ≠ none := by rw [hr]; exact Option.some_ne_none _
      have hne' : pc.reading ≠ none := by rw [hr']; exact Option.some_ne_none _
      exact .of_idle (TcpPc.inSession_of_reading hne) rfl (TcpPc.unsent_of_reading hne)
        (TcpPc.unsent_of_reading hne') rfl rfl
  | recvDone hr =>
      have hne : d.tcp.reading ≠ none := by rw [hr]; exact Option.some_ne_none _
      exact .of_idle (TcpPc.inSession_of_reading hne) rfl (TcpPc.unsent_of_reading hne) rfl rfl rfl
  | recvFail hr =>
      exact .of_idle (TcpPc.inSession_of_reading hr) rfl (TcpPc.unsent_of_reading hr) rfl rfl rfl
  | @enqueue efd e q hpc hq =>
      refine .of_idle (by rw [hpc]; rfl) rfl (by rw [hpc]; rfl) ?_ rfl rfl
      cases efd <;> rfl
  | readEfd hpc => exact .of_idle (by rw [hpc]; rfl) rfl (by rw [hpc]; rfl) rfl rfl rfl
  | drainEmpty hpc => exact .of_idle (by rw [hpc]; rfl) rfl (by rw [hpc]; rfl) rfl rfl rfl
  | @drainTake e q hpc hq =>
      exact .take rfl (by rw [hpc]; rfl) rfl rfl (by rw [hpc]; rfl) e.msg.bytes_frame.symm
  | sendHdr hpc =>
      exact .send rfl rfl (by rw [hpc]; rfl) (fun _ => ⟨by rw [hpc]; rfl, rfl⟩) (by rw [hpc]; rfl)
        fun _ => rfl
  | sendBody hpc =>
      refine .send rfl rfl (by rw [hpc]; rfl) (fun _ => ⟨by rw [hpc]; rfl, rfl⟩) ?_ fun _ => rfl
      rw [hpc]
      exact (List.append_nil _).symm
  | @sendFail n e bs hpc =>
      have hin := TcpPc.inSession_of_sending (by rw [hpc]; exact Option.some_ne_none _)
      obtain ⟨rest, hrest⟩ := TcpPc.unsent_of_sending hpc
      have hu : d.tcp.unsent = bs.take n ++ (bs.drop n ++ rest) := by
        rw [hrest, ← List.append_assoc, List.take_append_drop]
      exact .send rfl rfl hin nofun hu nofun
  | _ => exact .quiet rfl rfl (fun h => ⟨h, rfl⟩) fun _ => rfl

/-- What is sent in each session: the frames of the entries taken in it, in order. -/
def Sent (log : List DevObs) (d : Device) : Prop :=
  ∀ s, Conveys (stream Frame.bytes ((dequeuedAt s log).map Entry.frame)) (devSentBytes s log)
    (d.holding s d.tcp.unsent)

/-- What was sent in a session that a step says nothing about stays as it is. -/
theorem Sent.kept {log out : List DevObs} {d d' : Device} (h : Sent log d) {s : Nat}
    (hd : dequeuedAt s out = []) (hb : devSentBytes s out = [])
    (hheld : d'.holding s d'.tcp.unsent = d.holding s d.tcp.unsent ∨
      d'.holding s d'.tcp.unsent = none) :
    Conveys (stream Frame.bytes ((dequeuedAt s (log ++ out)).map Entry.frame))
      (devSentBytes s (log ++ out)) (d'.holding s d'.tcp.unsent) := by
  rw [devSentBytes_append, dequeuedAt_append, hd, hb, List.map_append, stream_append]
  exact (h s).idle hheld

/-- Every step keeps what is sent. -/
theorem Sent.step {log out : List DevObs} {d d' : Device} (h : Sent log d)
    (hcl : Clients log d) (heff : SendEffect d d' out) : Sent (log ++ out) d' := by
  intro s
  cases heff with
  | quiet hdeq hsent hc hu =>
      have hd : dequeuedAt s out = [] := by rw [dequeuedAt, hdeq]; rfl
      have hb : devSentBytes s out = [] := by rw [devSentBytes, hsent]; rfl
      exact h.kept hd hb (hc.holding_eq hu s)
  | @accept s' hout hle hin' hsock hu =>
      subst hout
      by_cases hs : s' = s
      · -- nothing was sent in the session before it was accepted
        subst hs
        have hd : dequeuedAt s' [.accepted s'] = [] := rfl
        have hb : devSentBytes s' [.accepted s'] = [] := rfl
        have hnew : dequeuedAt s' log = [] :=
          hcl.ordered.valuesAt_eq_nil (fun _ _ _ => DevObs.session?_of_dequeued?) hle
        have hnew' : devSentBytes s' log = [] := by
          rw [devSentBytes,
            hcl.ordered.valuesAt_eq_nil (fun _ _ _ => DevObs.session?_of_sent?) hle]
          rfl
        rw [devSentBytes_append, dequeuedAt_append, hd, hb, hnew, hnew', hu, ← hsock,
          holding_self hin']
        exact Conveys.start
      · exact h.kept rfl rfl (.inr (Device.holding_of_ne (by rw [hsock]; exact hs) _))
  | @take e hout hin hin' hsock hu hu' =>
      subst hout
      have hd : dequeuedAt s [.dequeued d.sock e] = valuesAt s [(d.sock, e)] := rfl
      have hb : devSentBytes s [.dequeued d.sock e] = [] := rfl
      by_cases hs : d.sock = s
      · subst hs
        have hc := h d.sock
        rw [holding_self hin, hu] at hc
        rw [devSentBytes_append, dequeuedAt_append, hd, hb, valuesAt_singleton, List.map_append,
          stream_append, if_pos rfl, ← hsock, holding_self hin', hu', hsock]
        exact hc.work (by simp)
      · refine h.kept ?_ hb (.inr (Device.holding_of_ne (by rw [hsock]; exact hs) _))
        rw [hd, valuesAt_singleton, if_neg hs]
  | @send bs rest hdeq hsent hin hc hu hu' =>
      have hd : dequeuedAt s out = [] := by rw [dequeuedAt, hdeq]; rfl
      have hb : devSentBytes s out = (valuesAt s [(d.sock, bs)]).flatten := by
        rw [devSentBytes, hsent]
      by_cases hs : d.sock = s
      · subst hs
        have hcv := h d.sock
        rw [holding_self hin, hu] at hcv
        rw [devSentBytes_append, dequeuedAt_append, hd, hb, valuesAt_singleton, List.map_append,
          stream_append, if_pos rfl]
        have hbal : bs ++ rest ++ stream Frame.bytes ([].map Entry.frame)
            = [bs].flatten ++ rest := by
          simp
        -- the session goes on with the rest, or the rest is lost with it
        refine hcv.advance hbal ?_
        cases hin' : d'.tcp.inSession with
        | true =>
            left
            rw [← (hc hin').2, holding_self hin', hu' hin']
        | false => exact .inr (holding_of_not hin' _ _)
      · refine h.kept hd ?_ (.inr (hc.holding_of_ne hs _))
        rw [hb, valuesAt_singleton, if_neg hs]
        rfl

/-- What is sent in each session, along every run. -/
theorem sent_of_reaches {cfg : DeviceConfig} {log : List DevObs} {d : Device}
    (h : (machine cfg).Reaches log d) : Sent log d := by
  refine h.invariant (P := Sent) ?_ ?_
  · intro s
    exact Conveys.start.off
  · intro log d i d' out hr hsent _ hstep
    exact hsent.step (clients_of_reaches hr.reaches) (step_cases hstep).sendEffect

end Device

end TcpUart
