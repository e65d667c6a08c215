import TcpUart.Lib.Conveyor
import TcpUart.Daemon.ControlRequests
import TcpUart.Daemon.PtyForwarding
import TcpUart.Daemon.DeviceReceive

/-! # Which request a response is given to
A response carries no number: the daemon gives it to the request that is in progress. So within a
session the responses are given to the requests in turn (`InTurn`), as long as no response arrives
that nobody asked for.

* `started_conveyed` — what a session takes are the frames of the messages whose sending began.
* `StartOk` — control requests, and only they, are sent on behalf of a requester.
* `responses_received` — the responses seen are the `ControlRes` messages received. -/

namespace TcpUart

open Reactive Framing

/-- The messages whose sending began in session `s`, each with who waits for the answer. -/
def startedAt (s : Nat) (log : List TaskObs) : List (DeviceMessage × Option ReplyId) :=
  valuesAt s (log.filterMap TaskObs.started?)

/-- Who asked in session `s`, in order. -/
def askedAt (s : Nat) (log : List TaskObs) : List ReplyId := (startedAt s log).filterMap Prod.snd

/-- The responses of session `s`, each with who it was given to. -/
def answersAt (s : Nat) (log : List TaskObs) : List (DeviceControlResponse × Option ReplyId) :=
  valuesAt s (log.filterMap TaskObs.controlRes?)

@[simp] theorem startedAt_append (s : Nat) (log out : List TaskObs) :
    startedAt s (log ++ out) = startedAt s log ++ startedAt s out := by
  simp [startedAt]

@[simp] theorem askedAt_append (s : Nat) (log out : List TaskObs) :
    askedAt s (log ++ out) = askedAt s log ++ askedAt s out := by
  simp [askedAt]

@[simp] theorem answersAt_append (s : Nat) (log out : List TaskObs) :
    answersAt s (log ++ out) = answersAt s log ++ answersAt s out := by
  simp [answersAt]

/-- Control requests, and only they, have somebody waiting. -/
def StartOk (x : DeviceMessage × Option ReplyId) : Prop :=
  match x.2 with
  | some _ => ∃ ctl, x.1 = .controlReq ctl
  | none => x.1.isControl = false

namespace ConnectionTask

/-! ## What the sessions take -/

/-- What a step does to messages whose sending began. -/
inductive StartEffect (t t' : ConnectionTask) (out : List TaskObs) : Prop
  /-- Nothing, except that a session is dropped. -/
  | quiet (hst : out.filterMap TaskObs.started? = []) (hw : out.filterMap TaskObs.wrote? = [])
      (ho : t'.outgoing = t.outgoing ∨ t'.outgoing = none)
  /-- A session is opened. -/
  | opened (hst : out.filterMap TaskObs.started? = []) (hw : out.filterMap TaskObs.wrote? = [])
      (ho : t'.outgoing = some (t.tcp.opened, []))
  /-- A message is encoded into the write buffer. -/
  | start {s : Nat} {b : Bytes} {x : DeviceMessage × Option ReplyId}
      (hst : out.filterMap TaskObs.started? = [(s, x)]) (hw : out.filterMap TaskObs.wrote? = [])
      (hx : StartOk x) (ho : t.outgoing = some (s, b))
      (ho' : t'.outgoing = some (s, b ++ x.1.frame.bytes))
  /-- The session takes bytes. -/
  | write {s n : Nat} {b : Bytes} (hst : out.filterMap TaskObs.started? = [])
      (hw : out.filterMap TaskObs.wrote? = [(s, b.take n)]) (ho : t.outgoing = some (s, b))
      (ho' : t'.outgoing = some (s, b.drop n))

/-- What a loss of the connection shows. -/
theorem filterMap_lost {β : Type*} {g : TaskObs → Option β} (hg : ∀ tx r, g (.ctlReply tx r) = none)
    (hg' : ∀ st, g (.enter st) = none) (t : ConnectionTask) (st : ConnState) :
    (t.failReplies ++ [TaskObs.enter st]).filterMap g = [] := by
  rw [List.filterMap_append, filterMap_failReplies hg, List.filterMap_cons_none (hg' st)]
  rfl

/-- Every step of a sound task has one of these effects. -/
theorem Step.startEffect {t t' : ConnectionTask} {i : TaskInput} {out : List TaskObs}
    (hs : Sound t) (h : Step t i t' out) : StartEffect t t' out := by
  have hlost := filterMap_lost (g := TaskObs.started?) (fun _ _ => rfl) (fun _ => rfl) t
  have hlost' := filterMap_lost (g := TaskObs.wrote?) (fun _ _ => rfl) (fun _ => rfl) t
  cases h with
  | close =>
      exact .quiet (filterMap_failReplies (fun _ _ => rfl) t)
        (filterMap_failReplies (fun _ _ => rfl) t) (.inl rfl)
  | beginResyncing hpc hst hf =>
      have hfwd := hs.kept _ (by rw [hst]; rfl)
      exact .start rfl rfl hfwd.isControl_eq (outgoing_eq hf) rfl
  | beginResyncingOff _ hst hf => exact absurd hf (hs.framed_of_resyncing hst)
  | ptyForward hpc hfit hf =>
      exact .start rfl rfl hfit.forwardable.isControl_eq (outgoing_eq hf) rfl
  | ptyForwardOff hpc _ hf => exact absurd hf (hs.framed_of_connected (hs.state_eq hpc))
  | tcpRecv hpc hf => exact .quiet rfl rfl (.inl (outgoing_eq hf).symm)
  | nextOff hpc hf => exact absurd hf (hs.framed_of_connected (hs.state_eq hpc))
  | nextError => exact .quiet (hlost _) (hlost' _) (.inr rfl)
  | nextData _ hf => exact .quiet rfl rfl (.inl (outgoing_eq hf).symm)
  | nextAnswer _ hf => exact .quiet rfl rfl (.inl (outgoing_eq hf).symm)
  | nextUnsolicited _ hf => exact .quiet rfl rfl (.inl (outgoing_eq hf).symm)
  | nextIgnored _ hf => exact .quiet rfl rfl (.inl (outgoing_eq hf).symm)
  | tcpEnd => exact .quiet (hlost _) (hlost' _) (.inr rfl)
  | ctlSend hpc hp hf => exact .start rfl rfl ⟨_, rfl⟩ (outgoing_eq hf) rfl
  | ctlSendOff hpc _ hf => exact absurd hf (hs.framed_of_connected (hs.state_eq hpc))
  | write _ hf => exact .write rfl rfl (outgoing_eq hf) rfl
  | sendErr => exact .quiet (hlost _) (hlost' _) (.inr rfl)
  | ctlSendErr => exact .quiet rfl rfl (.inr rfl)
  | elapsedConnected hpc hf =>
      rw [hs.framed_of_reconnecting (hs.state_eq hpc)] at hf
      cases hf
  | connectOk => exact .opened rfl rfl rfl
  | connectFail _ _ hobs =>
      rcases hobs with ⟨-, rfl, -⟩ | ⟨-, rfl, -⟩
      · exact .quiet rfl rfl (.inl rfl)
      · exact .quiet rfl rfl (.inl rfl)
  | overflow hpc hnext => exact absurd hnext (hs.nextBackoff_ne_none hpc)
  | resyncErr => exact .quiet rfl rfl (.inr rfl)
  | _ => exact .quiet rfl rfl (.inl rfl)

/-- The write buffer of session `s`, if it is the open one. -/
def buffered (t : ConnectionTask) (s : Nat) : Option Bytes :=
  match t.outgoing with
  | some (s', b) => if s' = s then some b else none
  | none => none

/-- The buffer of the open session. -/
theorem buffered_self {t : ConnectionTask} {s : Nat} {b : Bytes} (h : t.outgoing = some (s, b)) :
    t.buffered s = some b := by
  simp [buffered, h]

/-- Other sessions have none. -/
theorem buffered_of_ne {t : ConnectionTask} {s s' : Nat} {b : Bytes}
    (h : t.outgoing = some (s', b)) (hne : s' ≠ s) : t.buffered s = none := by
  simp [buffered, h, hne]

/-- A buffer is kept or dropped with the session. -/
theorem buffered_eq {t t' : ConnectionTask} (h : t'.outgoing = t.outgoing ∨ t'.outgoing = none)
    (s : Nat) : t'.buffered s = t.buffered s ∨ t'.buffered s = none := by
  rcases h with h | h
  · exact .inl (by rw [buffered, buffered, h])
  · exact .inr (by rw [buffered, h])

/-- What was begun in each session. -/
structure Started (log : List TaskObs) (t : ConnectionTask) : Prop where
  /-- A session takes the frames of the messages begun in it, in order. -/
  bytes : ∀ s, Conveys (stream Frame.bytes ((startedAt s log).map fun x => x.1.frame))
    (wroteBytes s log) (t.buffered s)
  /-- Control requests, and only they, have somebody waiting. -/
  kinds : ∀ s, ∀ x ∈ startedAt s log, StartOk x

/-- Every effect keeps what was begun. -/
theorem Started.step {log out : List TaskObs} {t t' : ConnectionTask} (h : Started log t)
    (hses : Sessions log t) (heff : StartEffect t t' out) : Started (log ++ out) t' := by
  cases heff with
  | quiet hst hw ho =>
      have hs : ∀ s, startedAt s out = [] := fun s => by rw [startedAt, hst]; rfl
      have hb : ∀ s, wroteBytes s out = [] := fun s => by rw [wroteBytes, hw]; rfl
      refine ⟨fun s => ?_, fun s => ?_⟩
      · rw [startedAt_append, wroteBytes_append, hs, hb, List.map_append, stream_append]
        exact (h.bytes s).idle (buffered_eq ho s)
      · rw [startedAt_append, hs, List.append_nil]
        exact h.kinds s
  | opened hst hw ho =>
      have hs : ∀ s, startedAt s out = [] := fun s => by rw [startedAt, hst]; rfl
      have hb : ∀ s, wroteBytes s out = [] := fun s => by rw [wroteBytes, hw]; rfl
      refine ⟨fun s => ?_, fun s => ?_⟩
      · rw [startedAt_append, wroteBytes_append, hs, hb, List.append_nil, List.append_nil]
        by_cases hso : t.tcp.opened = s
        · -- nothing was begun or written in a session before it is opened
          subst hso
          have hnew : startedAt t.tcp.opened log = [] :=
            hses.valuesAt_opened fun _ _ _ => TaskObs.session?_of_started?
          have hnew' : wroteBytes t.tcp.opened log = [] := by
            rw [wroteBytes, hses.valuesAt_opened fun _ _ _ => TaskObs.session?_of_wrote?]
            rfl
          rw [hnew, hnew', buffered_self ho]
          exact Conveys.start
        · rw [buffered_of_ne ho hso]
          exact (h.bytes s).off
      · rw [startedAt_append, hs, List.append_nil]
        exact h.kinds s
  -- a frame joins the buffer: it is begun, and nothing of it is written
  | @start s' b x hst hw hx ho ho' =>
      have hs : ∀ s, startedAt s out = valuesAt s [(s', x)] := fun s => by rw [startedAt, hst]
      have hb : ∀ s, wroteBytes s out = [] := fun s => by rw [wroteBytes, hw]; rfl
      refine ⟨fun s => ?_, fun s y hy => ?_⟩
      · rw [startedAt_append, wroteBytes_append, hs, hb, valuesAt_singleton, List.map_append,
          stream_append]
        by_cases hss : s' = s
        · subst hss
          have hc := h.bytes s'
          rw [buffered_self ho] at hc
          rw [if_pos rfl, buffered_self ho']
          exact hc.work (by simp)
        · rw [if_neg hss, buffered_of_ne ho' hss]
          exact (h.bytes s).idle (.inr rfl)
      · rw [startedAt_append, hs, List.mem_append] at hy
        rcases hy with hy | hy
        · exact h.kinds s y hy
        · rw [valuesAt_singleton] at hy
          split at hy
          · rwa [List.mem_singleton.mp hy]
          · cases hy
  -- bytes leave the buffer
  | @write s' n b hst hw ho ho' =>
      have hs : ∀ s, startedAt s out = [] := fun s => by rw [startedAt, hst]; rfl
      refine ⟨fun s => ?_, fun s => ?_⟩
      · have hb : wroteBytes s out = (valuesAt s [(s', b.take n)]).flatten := by
          rw [wroteBytes, hw]
        rw [startedAt_append, wroteBytes_append, hs, hb, valuesAt_singleton, List.map_append,
          stream_append]
        by_cases hss : s' = s
        · subst hss
          have hc := h.bytes s'
          rw [buffered_self ho] at hc
          rw [if_pos rfl, buffered_self ho']
          exact hc.work (by simp)
        · rw [if_neg hss, buffered_of_ne ho' hss]
          exact (h.bytes s).idle (.inr rfl)
      · rw [startedAt_append, hs, List.append_nil]
        exact h.kinds s

/-- What was begun in each session, along every run. -/
theorem started_of_reaches {name : String} {addr : UInt32} {port : UInt16} {master : AsyncPty}
    {log : List TaskObs} {t : ConnectionTask}
    (h : (machine (spawn name addr port master)).Reaches log t) : Started log t := by
  refine h.invariant (P := Started) ?_ ?_
  · exact ⟨fun _ => Conveys.start.off, nofun⟩
  · intro log t i t' out hr hst _ hs
    exact hst.step (sessions_of_reaches hr.reaches)
      ((step_cases hs).startEffect (sound_of_reaches hr.reaches))

end ConnectionTask

/-! ## Responses received -/

/-- The response a message carries. -/
def DeviceMessage.controlRes? : DeviceMessage → Option DeviceControlResponse
  | .controlRes res => some res
  | _ => none

/-- The responses among the messages received, with their session. -/
def TaskObs.receivedRes? (o : TaskObs) : Option (Nat × DeviceControlResponse) :=
  o.received?.bind fun x => x.2.controlRes?.map (x.1, ·)

/-- The responses an observer sees handled, with their session. -/
def TaskObs.handledRes? (o : TaskObs) : Option (Nat × DeviceControlResponse) :=
  o.controlRes?.map (Prod.map id Prod.fst)

namespace ConnectionTask

/-- Every response received is handled at once, and no other. -/
theorem Step.responses_eq {t t' : ConnectionTask} {i : TaskInput} {out : List TaskObs}
    (hs : Sound t) (h : Step t i t' out) :
    out.filterMap TaskObs.receivedRes? = out.filterMap TaskObs.handledRes? := by
  have hfail := filterMap_failReplies (g := TaskObs.receivedRes?) (fun _ _ => rfl) t
  have hfail' := filterMap_failReplies (g := TaskObs.handledRes?) (fun _ _ => rfl) t
  have hlost : ∀ st, (t.failReplies ++ [TaskObs.enter st]).filterMap TaskObs.receivedRes?
      = (t.failReplies ++ [TaskObs.enter st]).filterMap TaskObs.handledRes? := by
    intro st
    rw [List.filterMap_append, List.filterMap_append, hfail, hfail']
    rfl
  cases h with
  | close => rw [hfail, hfail']
  | ptyForwardOff => exact hlost _
  | nextOff => exact hlost _
  | nextError => exact hlost _
  | tcpEnd => exact hlost _
  | sendErr => exact hlost _
  | @nextIgnored f msg rest _ _ _ hres =>
      cases msg with
      | controlRes res => exact absurd rfl (hres res)
      | _ => rfl
  | connectFail _ _ hobs => rcases hobs with ⟨-, rfl, -⟩ | ⟨-, rfl, -⟩ <;> rfl
  | overflow hpc hnext => exact absurd hnext (hs.nextBackoff_ne_none hpc)
  | _ => rfl

/-- **The responses handled in a session are the `ControlRes` messages received in it.** -/
theorem responses_received {name : String} {addr : UInt32} {port : UInt16} {master : AsyncPty}
    {log : List TaskObs} {t : ConnectionTask}
    (h : (machine (spawn name addr port master)).Reaches log t) (s : Nat) :
    (receivedAt s log).filterMap DeviceMessage.controlRes? = (answersAt s log).map Prod.fst := by
  have heq : log.filterMap TaskObs.receivedRes? = log.filterMap TaskObs.handledRes? := by
    refine h.invariant (P := fun log _ =>
      log.filterMap TaskObs.receivedRes? = log.filterMap TaskObs.handledRes?) rfl ?_
    intro log t i t' out hr ih _ hstep
    rw [List.filterMap_append, List.filterMap_append, ih,
      (step_cases hstep).responses_eq (sound_of_reaches hr.reaches)]
  have hleft : log.filterMap TaskObs.receivedRes?
      = (log.filterMap TaskObs.received?).filterMap
          fun x => x.2.controlRes?.map (x.1, ·) := by
    rw [List.filterMap_filterMap]
    rfl
  have hright : log.filterMap TaskObs.handledRes?
      = (log.filterMap TaskObs.controlRes?).map (Prod.map id Prod.fst) := by
    rw [List.map_filterMap]
    rfl
  rw [receivedAt, answersAt, ← valuesAt_filterMap, ← valuesAt_map, ← hleft, ← hright, heq]

/-! ## Taking turns -/

/-- Who waits in session `s`, if it is the one in which responses are received. -/
def turn (t : ConnectionTask) (s : Nat) : Option (List (Option ReplyId)) :=
  if t.session = some s ∧ t.state ≠ .shuttingDown then some (t.waitingFor.toList.map some)
  else none

/-- Another session, or a task that shuts down, takes no turns. -/
theorem turn_eq_none {t : ConnectionTask} {s : Nat}
    (h : t.session = some s → t.state = .shuttingDown) : t.turn s = none := by
  rw [turn, if_neg]
  rintro ⟨hs, hst⟩
  exact hst (h hs)

/-- A session other than the open one takes no turns. -/
theorem turn_of_ne {t : ConnectionTask} {s s' : Nat} (hs : t.session = some s') (hne : s' ≠ s) :
    t.turn s = none := by
  apply turn_eq_none
  intro heq
  rw [hs] at heq
  cases heq
  exact absurd rfl hne

/-- The open session, until shutdown. -/
theorem turn_self {t : ConnectionTask} {s : Nat} (hs : t.session = some s) :
    t.turn s = some (t.waitingFor.toList.map some) ∨ t.turn s = none := by
  by_cases hst : t.state = .shuttingDown
  · exact .inr (turn_eq_none fun _ => hst)
  · exact .inl (if_pos ⟨hs, hst⟩)

/-- Turns stay as they are while the session and who waits stay, until shutdown. -/
theorem turn_eq {t t' : ConnectionTask} (hst : t.state ≠ .shuttingDown)
    (hs : t'.session = t.session) (hw : t'.waitingFor = t.waitingFor) (s : Nat) :
    t'.turn s = t.turn s ∨ t'.turn s = none := by
  by_cases hst' : t'.state = .shuttingDown
  · exact .inr (turn_eq_none fun _ => hst')
  · left
    rw [turn, turn, hs, hw]
    simp [hst, hst']

/-- The responses of a session are given to those who asked in it, in turn. -/
def InTurn (log : List TaskObs) (t : ConnectionTask) : Prop :=
  ∀ s, Conveys ((askedAt s log).map some) ((answersAt s log).map Prod.snd) (t.turn s)

/-- Nobody has asked in a session before it is opened. -/
theorem Sessions.asked_opened {log : List TaskObs} {t : ConnectionTask} (h : Sessions log t) :
    askedAt t.tcp.opened log = [] ∧ answersAt t.tcp.opened log = [] := by
  refine ⟨?_, h.valuesAt_opened fun _ _ _ => TaskObs.session?_of_controlRes?⟩
  rw [askedAt, startedAt, h.valuesAt_opened fun _ _ _ => TaskObs.session?_of_started?]
  rfl

/-- With nobody waiting, every request was answered: one more response is one too many. -/
theorem InTurn.no_unsolicited {log out : List TaskObs} {t : ConnectionTask} {s : Nat}
    {res : DeviceControlResponse} (h : InTurn log t) (hst : t.state ≠ .shuttingDown)
    (hs : t.session = some s) (hw : t.waitingFor = none) (hasked : askedAt s out = [])
    (hans : answersAt s out = [(res, none)]) :
    (askedAt s (log ++ out)).length < (answersAt s (log ++ out)).length := by
  have hc := h s
  rw [turn, if_pos ⟨hs, hst⟩, hw] at hc
  have hlen := congrArg List.length hc.eq_append
  rw [askedAt_append, answersAt_append, hasked, hans]
  simp only [List.length_map, List.length_append, List.length_cons, List.length_nil,
    Option.toList_none, List.map_nil, List.append_nil] at hlen ⊢
  omega

/-- A task that shuts down sends nothing and receives nothing. -/
theorem Step.of_shuttingDown {t t' : ConnectionTask} {i : TaskInput} {out : List TaskObs}
    (hs : Sound t) (h : Step t i t' out) (hst : t.state = .shuttingDown) :
    t'.state = .shuttingDown ∧ out.filterMap TaskObs.started? = [] ∧
      out.filterMap TaskObs.controlRes? = [] := by
  -- at the head of the loop or behind it
  have hpc : ∀ {pc : Pc}, t.pc = pc → pc.Agrees .shuttingDown := by
    intro pc heq
    have := hs.state_eq heq
    rwa [hst] at this
  have hstate : ∀ {st : ConnState}, t.state = st → st = .shuttingDown := fun h => h.symm.trans hst
  have hsend : t.pc.sending = none := by
    cases heq : t.pc with
    | connectedSend => exact absurd (hpc heq) nofun
    | connectedCtlSend => exact absurd (hpc heq) nofun
    | resyncSelect => exact absurd (hpc heq) nofun
    | _ => rfl
  have hoff : ¬ t.pc.Offline := by
    intro hoff
    cases heq : t.pc with
    | reconnectSelect => exact absurd (hpc heq) nofun
    | resyncSelect => exact absurd (hpc heq) nofun
    | _ =>
        rw [heq] at hoff
        exact hoff
  cases h with
  | slaveSet => exact ⟨hst, rfl, rfl⟩
  | close =>
      exact ⟨hst, filterMap_failReplies (fun _ _ => rfl) t,
        filterMap_failReplies (fun _ _ => rfl) t⟩
  | beginConnected _ h => cases hstate h
  | beginReconnecting _ h => cases hstate h
  | beginResyncing _ h => cases hstate h
  | beginResyncingOff _ h => cases hstate h
  | stop h =>
      rcases h with h | h
      · exact absurd (hpc h) nofun
      · exact absurd h hoff
  | write h =>
      rw [hsend] at h
      cases h
  | offlineCtl h => exact absurd h hoff
  | offlineStatus h => exact absurd h hoff
  | notified => exact ⟨hst, rfl, rfl⟩
  | _ =>
      have hag := hpc (by assumption)
      exact absurd hag nofun

/-- Observations that are silent about requests neither ask nor answer. -/
theorem of_ctlSilent {out : List TaskObs} (h : out.all TaskObs.ctlSilent) (s : Nat) :
    askedAt s out = [] ∧ answersAt s out = [] := by
  rw [List.all_eq_true] at h
  constructor
  · rw [askedAt, List.filterMap_eq_nil_iff]
    intro x hx
    obtain ⟨y, hy, rfl⟩ := List.mem_map.mp hx
    obtain ⟨o, ho, hoy⟩ := List.mem_filterMap.mp (List.mem_filter.mp hy).1
    cases o with
    | sendStart s' m tx =>
        cases hoy
        cases tx with
        | none => rfl
        | some tx => cases m <;> exact absurd (h _ ho) Bool.false_ne_true
    | _ => cases hoy
  · rw [answersAt, valuesAt_eq_nil]
    intro x hx
    obtain ⟨o, ho, hox⟩ := List.mem_filterMap.mp hx
    cases o with
    | controlRes => exact absurd (h _ ho) Bool.false_ne_true
    | _ => cases hox

/-- Whoever waits, waits for the last request that was begun, in the open session. -/
def LastAsked (log : List TaskObs) (t : ConnectionTask) : Prop :=
  ∀ tx, t.waitingFor = some tx → ∃ pre s ctl post,
    log = pre ++ .sendStart s (.controlReq ctl) (some tx) :: post ∧ (∀ s, askedAt s post = []) ∧
      t.session = some s

/-- Steps that begin no request keep the last one. -/
theorem LastAsked.append {log out : List TaskObs} {t t' : ConnectionTask} (h : LastAsked log t)
    (hout : ∀ s, askedAt s out = []) (hw : t'.waitingFor = t.waitingFor)
    (hses : t.waitingFor ≠ none → t'.session = t.session) : LastAsked (log ++ out) t' := by
  intro tx htx
  rw [hw] at htx
  obtain ⟨pre, s, ctl, post, rfl, hpost, hs⟩ := h tx htx
  have hne : t.waitingFor ≠ none := by
    rw [htx]
    exact Option.some_ne_none tx
  refine ⟨pre, s, ctl, post ++ out, by rw [List.append_assoc]; rfl, ?_, (hses hne).trans hs⟩
  intro s'
  rw [askedAt_append, hpost, hout]
  rfl

/-- Every effect keeps it. -/
theorem LastAsked.step {log out : List TaskObs} {t t' : ConnectionTask} (h : LastAsked log t)
    (heff : CtlEffect t t' out) : LastAsked (log ++ out) t' := by
  -- with nobody waiting there is nothing to say
  have hnone : t'.waitingFor = none → LastAsked (log ++ out) t' := by
    intro hw tx htx
    rw [hw] at htx
    cases htx
  cases heff with
  | silent hq hw hses =>
      refine h.append (fun s => (of_ctlSilent hq s).1) hw fun hne => ?_
      exact hses.resolve_right fun hoff => hne hoff.1
  | refuse hout hw hses =>
      subst hout
      exact h.append (fun _ => rfl) hw fun _ => hses
  | @send s ctl tx hout hw hw' hses hses' =>
      subst hout
      intro tx' htx'
      rw [hw'] at htx'
      cases htx'
      refine ⟨log ++ [.ctlReceived tx], s, ctl, [], ?_, fun _ => rfl, hses'⟩
      rw [List.append_assoc]
      rfl
  | answer _ _ hw' => exact hnone hw'
  | unsolicited _ _ hw' => exact hnone hw'
  | fail _ _ _ _ _ hw' => exact hnone hw'

/-- Whoever waits asked last, along every run. -/
theorem lastAsked_of_reaches {name : String} {addr : UInt32} {port : UInt16} {master : AsyncPty}
    {log : List TaskObs} {t : ConnectionTask}
    (h : (machine (spawn name addr port master)).Reaches log t) : LastAsked log t := by
  refine h.invariant (P := LastAsked) ?_ ?_
  · intro tx htx
    cases htx
  · intro log t i t' out hr hlast _ hs
    exact hlast.step ((step_cases hs).ctlEffect (sound_of_reaches hr.reaches))

/-- `Ok` is replied only to who waits, for the response just received. -/
theorem CtlEffect.okReply_cases {t t' : ConnectionTask} {out : List TaskObs}
    (h : CtlEffect t t' out) :
    (∃ s res tx, out = [.received s (.controlRes res), .controlRes s res (some tx),
        .ctlReply tx (.ok res)] ∧ t.waitingFor = some tx ∧ t.session = some s) ∨
      ∀ o ∈ out, ∀ tx res, o ≠ .ctlReply tx (.ok res) := by
  have hsilent : ∀ {l : List TaskObs}, l.all TaskObs.ctlSilent →
      ∀ o ∈ l, ∀ tx res, o ≠ .ctlReply tx (.ok res) := by
    rintro l hq o ho tx res rfl
    exact absurd (List.all_eq_true.mp hq _ ho) Bool.false_ne_true
  cases h with
  | silent hq => exact .inr (hsilent hq)
  | refuse hout =>
      subst hout
      right
      intro o ho tx res
      rcases List.mem_pair.mp ho with rfl | rfl <;> nofun
  | send hout =>
      subst hout
      right
      intro o ho tx res
      rcases List.mem_pair.mp ho with rfl | rfl <;> nofun
  | answer hout hw _ hses => exact .inl ⟨_, _, _, hout, hw, hses⟩
  | unsolicited hout =>
      subst hout
      right
      intro o ho tx res
      rcases List.mem_pair.mp ho with rfl | rfl <;> nofun
  | fail pre hpre hpost hout =>
      subst hout
      right
      intro o ho
      rw [List.mem_append, List.mem_cons] at ho
      rcases ho with ho | rfl | ho
      · exact hsilent hpre o ho
      · nofun
      · exact hsilent hpost o ho

/-- **Every step keeps the turns**, if there are never more responses than requests. -/
theorem InTurn.step {log out : List TaskObs} {t t' : ConnectionTask} {i : TaskInput}
    (h : InTurn log t) (hs : Sound t) (hses : Sessions log t) (hstep : Step t i t' out)
    (hcausal : ∀ s, (answersAt s (log ++ out)).length ≤ (askedAt s (log ++ out)).length) :
    InTurn (log ++ out) t' := by
  intro s
  have hc := h s
  rw [askedAt_append, answersAt_append, List.map_append, List.map_append]
  by_cases hst : t.state = .shuttingDown
  · -- the turns end with shutdown
    obtain ⟨hst', hstart, hres⟩ := hstep.of_shuttingDown hs hst
    have hasked : askedAt s out = [] := by rw [askedAt, startedAt, hstart]; rfl
    have hans : answersAt s out = [] := by rw [answersAt, hres]; rfl
    rw [hasked, hans]
    exact hc.idle (.inr (turn_eq_none fun _ => hst'))
  cases hstep.ctlEffect hs with
  | silent hq hw hsession =>
      rw [(of_ctlSilent hq s).1, (of_ctlSilent hq s).2]
      rcases hsession with hsame | ⟨hnone, hoff | hnew⟩
      · exact hc.idle (turn_eq hst hsame hw s)
      · exact hc.idle (.inr (turn_eq_none fun heq => by rw [hoff] at heq; cases heq))
      · by_cases hso : t.tcp.opened = s
        · -- a new session, in which nobody has asked yet
          subst hso
          rw [hses.asked_opened.1, hses.asked_opened.2]
          have hturn := turn_self hnew
          rw [hw, hnone] at hturn
          exact Conveys.start.idle hturn
        · exact hc.idle (.inr (turn_of_ne hnew hso))
  | refuse hout hw hsame =>
      subst hout
      exact hc.idle (turn_eq hst hsame hw s)
  -- a request is asked, and its turn begins
  | @send s' ctl tx hout hw hw' hses₁ hses₂ =>
      subst hout
      have hasked : askedAt s [.ctlReceived tx, .sendStart s' (.controlReq ctl) (some tx)]
          = (valuesAt s [(s', (DeviceMessage.controlReq ctl, some tx))]).filterMap Prod.snd := rfl
      have hans : answersAt s [.ctlReceived tx, .sendStart s' (.controlReq ctl) (some tx)] = [] :=
        rfl
      rw [hasked, hans, valuesAt_singleton]
      by_cases hss : s' = s
      · subst hss
        rw [turn, if_pos ⟨hses₁, hst⟩, hw] at hc
        have hturn := turn_self hses₂
        rw [hw'] at hturn
        rw [if_pos rfl]
        exact hc.advance rfl hturn
      · rw [if_neg hss]
        exact hc.idle (.inr (turn_of_ne hses₂ hss))
  -- the turn ends with the response
  | @answer s' res tx hout hw hw' hses₁ hses₂ =>
      subst hout
      have hasked : askedAt s [.received s' (.controlRes res), .controlRes s' res (some tx),
          .ctlReply tx (.ok res)] = [] := rfl
      have hans : answersAt s [.received s' (.controlRes res), .controlRes s' res (some tx),
          .ctlReply tx (.ok res)] = valuesAt s [(s', (res, some tx))] := rfl
      rw [hasked, hans, valuesAt_singleton]
      by_cases hss : s' = s
      · subst hss
        rw [turn, if_pos ⟨hses₁, hst⟩, hw] at hc
        have hturn := turn_self hses₂
        rw [hw'] at hturn
        rw [if_pos rfl]
        exact hc.advance rfl hturn
      · rw [if_neg hss]
        exact hc.idle (.inr (turn_of_ne hses₂ hss))
  -- nobody's turn: there would be more responses than requests
  | @unsolicited s' res hout hw hw' hses₁ hses₂ =>
      subst hout
      have hans : answersAt s' [.received s' (.controlRes res), .controlRes s' res none]
          = [(res, none)] := by
        show valuesAt s' [(s', (res, (none : Option ReplyId)))] = _
        rw [valuesAt_singleton, if_pos rfl]
      have hlt := h.no_unsolicited hst hses₁ hw rfl hans
      exact absurd (hcausal s') (Nat.not_le.mpr hlt)
  | @fail tx pre post hpre hpost hout hw hw' hoff =>
      subst hout
      have happ : ∀ {l : List TaskObs}, pre ++ .ctlReply tx (.error .unavailable) :: l
          = pre ++ ([.ctlReply tx (.error .unavailable)] ++ l) := rfl
      have hasked : askedAt s (pre ++ .ctlReply tx (.error .unavailable) :: post) = [] := by
        rw [happ, askedAt_append, askedAt_append, (of_ctlSilent hpre s).1,
          (of_ctlSilent hpost s).1]
        rfl
      have hans : answersAt s (pre ++ .ctlReply tx (.error .unavailable) :: post) = [] := by
        rw [happ, answersAt_append, answersAt_append, (of_ctlSilent hpre s).2,
          (of_ctlSilent hpost s).2]
        rfl
      rw [hasked, hans]
      refine hc.idle (.inr (turn_eq_none fun heq => ?_))
      rcases hoff with hoff | ⟨hdown, -⟩
      · rw [hoff] at heq
        cases heq
      · exact absurd hdown hst

end ConnectionTask

end TcpUart
