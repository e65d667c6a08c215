import TcpUart.Daemon.ControlAnswers
import TcpUart.Link.DeviceToPty

/-! # Control requests from end to end
The daemon matches responses to requests by their order within a session, the device by the order in
its two queues. The two agree as long as `handle_client` never takes, in one session, a response to
a request that was read in an earlier one: `uart_to_tcp_queue` is not emptied when a session ends.

* `answered_in_turn` — then every response is given to the request it answers.
* `stale_response_answers` — otherwise a reset can be reported as done that was never carried
  out. -/

namespace TcpUart

open Reactive Framing

/-- The frame of a control request that `uart_tx_task` answers. -/
def Frame.isControlReq (f : Frame) : Bool := f.kind = 3 ∧ f.payload.length = 1

/-- A message is such a request if its frame is. -/
theorem Entry.isControl_eq (e : Entry) : e.isControl = e.frame.isControlReq := by
  have hlen : e.frame.payload.length = e.msg.len.toNat := e.msg.length_payload
  simp only [Entry.isControl, Frame.isControlReq, hlen]
  rfl

/-- Control requests are the messages somebody waits for. -/
theorem StartOk.isControlReq_eq {x : DeviceMessage × Option ReplyId} (h : StartOk x) :
    x.1.frame.isControlReq = x.2.isSome := by
  obtain ⟨m, tx⟩ := x
  cases tx with
  | some tx =>
      obtain ⟨ctl, hm⟩ := h
      dsimp only at hm
      subst hm
      rfl
  | none =>
      cases m with
      | data => rfl
      | config => rfl
      | controlReq => cases h
      | controlRes => cases h

/-- The responses among messages, by their frames. -/
theorem filter_isResponse_map_frame (ms : List DeviceMessage) :
    (ms.map DeviceMessage.frame).filter Frame.isResponse
      = (ms.filterMap DeviceMessage.controlRes?).map fun res =>
          (DeviceMessage.controlRes res).frame := by
  induction ms with
  | nil => rfl
  | cons m ms ih =>
      cases m with
      | controlRes res =>
          have hres : Frame.isResponse (DeviceMessage.controlRes res).frame = true := rfl
          rw [List.map_cons, List.filter_cons_of_pos hres, ih]
          rfl
      | data => exact ih
      | config => exact ih
      | controlReq => exact ih

/-- The frame of a response tells the response. -/
theorem controlRes_frame_inj {res res' : DeviceControlResponse}
    (h : (DeviceMessage.controlRes res).frame = (DeviceMessage.controlRes res').frame) :
    res = res' := by
  have hpay : [res.toU8] = [res'.toU8] := congrArg Frame.payload h
  cases res with
  | ok =>
      cases res' with
      | ok => rfl
      | notSupported => cases hpay
  | notSupported =>
      cases res' with
      | ok => cases hpay
      | notSupported => rfl

/-- The second components that are there. -/
theorem map_some_filterMap_snd {α β : Type*} (l : List (α × Option β)) :
    (l.filterMap Prod.snd).map some = (l.filter fun x => x.2.isSome).map Prod.snd := by
  induction l with
  | nil => rfl
  | cons x l ih =>
      obtain ⟨a, b⟩ := x
      cases b with
      | none => exact ih
      | some b => exact congrArg _ ih

/-- Those who asked in a session, and the requests begun in it. -/
theorem length_askedAt {s : Nat} {log : List TaskObs} (hkinds : ∀ x ∈ startedAt s log, StartOk x) :
    (askedAt s log).length
      = ((startedAt s log).filter fun x => x.1.frame.isControlReq).length := by
  have hsome := congrArg List.length (map_some_filterMap_snd (startedAt s log))
  rw [List.length_map, List.length_map] at hsome
  rw [askedAt, hsome]
  congr 1
  apply List.filter_congr
  intro x hx
  exact (hkinds x hx).isControlReq_eq.symm

namespace Device

/-- The session a queue entry stems from. -/
def originSession (o : Option Origin) : Option Nat := o.map Prod.fst

/-- **Responses leave the device in the order of their requests.** -/
theorem responses_isPrefix {cfg : DeviceConfig} {log : List DevObs} {d : Device}
    (h : (machine cfg).Reaches log d) :
    (((dequeuedEntries log).map Prod.snd).filter fun e => e.frame.isResponse).map Entry.origin
      <+: (((readEntries log).map Prod.snd).filter Entry.isControl).map Entry.origin := by
  have hdeq := ((uartToTcp_conveyed h).outp_isPrefix.filter fun e => e.frame.isResponse).map
    Entry.origin
  rw [responses_queuedEntries h] at hdeq
  have htaken := ((tcpToUart_conveyed h).outp_isPrefix.filter Entry.isControl).map Entry.origin
  have henq := (((enqueued_conveyed h).outp_isPrefix.map Prod.snd).filter Entry.isControl).map
    Entry.origin
  exact ((hdeq.trans (responses_conveyed h).outp_isPrefix).trans htaken).trans henq

/-- A message read in a session stems from that session. -/
theorem originSession_of_read {log : List DevObs} {x : Nat × Entry} (hx : x ∈ readEntries log) :
    originSession x.2.origin = some x.1 := by
  obtain ⟨o, -, ho⟩ := List.mem_filterMap.mp hx
  cases o with
  | msgRead =>
      cases ho
      rfl
  | _ => cases ho

/-- Entries were taken in the session their request was read in. -/
def Fresh (log : List DevObs) : Prop :=
  ∀ x ∈ dequeuedEntries log, ∀ o, x.2.origin = some o → o.1 = x.1

/-- **In each session**, responses are taken in the order of the requests read in it, if none is
stale. -/
theorem responsesAt_isPrefix {cfg : DeviceConfig} {log : List DevObs} {d : Device}
    (h : (machine cfg).Reaches log d) (hfresh : Fresh log) (s : Nat) :
    ((dequeuedAt s log).filter fun e => e.frame.isResponse).map Entry.origin
      <+: ((readAt s log).filter Entry.isControl).map Entry.origin := by
  have hread : ∀ x ∈ (readEntries log).filter fun x => x.2.isControl,
      originSession x.2.origin = some x.1 :=
    fun x hx => originSession_of_read (List.mem_filter.mp hx).1
  have hpre := responses_isPrefix h
  -- every response stems from a request that was read
  have hdeq : ∀ x ∈ (dequeuedEntries log).filter fun x => x.2.frame.isResponse,
      originSession x.2.origin = some x.1 := by
    intro x hx
    obtain ⟨hx, hresp⟩ := List.mem_filter.mp hx
    have hmem : x.2.origin ∈
        (((readEntries log).map Prod.snd).filter Entry.isControl).map Entry.origin := by
      refine hpre.subset (List.mem_map.mpr ⟨x.2, List.mem_filter.mpr ⟨?_, hresp⟩, rfl⟩)
      exact List.mem_map.mpr ⟨x, hx, rfl⟩
    obtain ⟨e, he, heq⟩ := List.mem_map.mp hmem
    obtain ⟨y, hy, rfl⟩ := List.mem_map.mp (List.mem_filter.mp he).1
    cases ho : x.2.origin with
    | none =>
        have := originSession_of_read hy
        rw [heq, ho] at this
        cases this
    | some o => exact congrArg some (hfresh x hx o ho)
  have hdeqAt : valuesAt s ((dequeuedEntries log).filter fun x => x.2.frame.isResponse)
      = (dequeuedAt s log).filter fun e => e.frame.isResponse :=
    valuesAt_filter s (fun e => e.frame.isResponse) (dequeuedEntries log)
  have hreadAt : valuesAt s ((readEntries log).filter fun x => x.2.isControl)
      = (readAt s log).filter Entry.isControl := valuesAt_filter s Entry.isControl (readEntries log)
  have hdeqMap : ((dequeuedEntries log).map Prod.snd).filter (fun e => e.frame.isResponse)
      = ((dequeuedEntries log).filter fun x => x.2.frame.isResponse).map Prod.snd := List.filter_map
  have hreadMap : ((readEntries log).map Prod.snd).filter Entry.isControl
      = ((readEntries log).filter fun x => x.2.isControl).map Prod.snd := List.filter_map
  have hkeyed := hpre.filter fun o => originSession o = some s
  rw [hdeqMap, hreadMap] at hkeyed
  rw [← hdeqAt, ← hreadAt, ← filter_map_snd hdeq, ← filter_map_snd hread]
  exact hkeyed

/-- Only the drain loop takes entries. -/
theorem Step.dequeued_cases {cfg : DeviceConfig} {d d' : Device} {i : DevInput}
    {out : List DevObs} (h : Step cfg d i d' out) :
    (∃ e, i = .drain ∧ d.uartToTcp.items.head? = some e ∧ out = [.dequeued d.sock e]) ∨
      out.filterMap DevObs.dequeued? = [] := by
  cases h with
  | drainTake _ hq =>
      refine .inl ⟨_, rfl, ?_, rfl⟩
      rw [BoundedQueue.items_of_pop hq]
      rfl
  | _ => exact .inr rfl

end Device

namespace World

variable {cfg : DeviceConfig} {name : String} {addr : UInt32} {port : UInt16} {master : AsyncPty}
  {ok : World → WorldInput → Prop} {log : List WorldObs} {w : World}

/-- `handle_client` takes no response whose request was read in an earlier session. -/
def NoStaleResponse (w : World) (i : WorldInput) : Prop :=
  i = .device .drain → ∀ e, w.device.uartToTcp.items.head? = some e →
    ∀ o, e.origin = some o → o.1 = w.device.sock

/-- Without stale responses, entries are taken in the session of their request. -/
theorem fresh_of_run
    (h : (machine cfg (ConnectionTask.spawn name addr port master)).Run NoStaleResponse log w) :
    Device.Fresh (deviceLog log) := by
  refine h.invariant (P := fun log _ => Device.Fresh (deviceLog log)) nofun ?_
  intro log w i w' out _ hfresh hok hs x hx o ho
  rw [deviceLog_append, dequeuedEntries, List.filterMap_append] at hx
  rcases List.mem_append.mp hx with hx | hx
  · exact hfresh x hx o ho
  · cases step_cases hs with
    | task =>
        rw [deviceLog_task] at hx
        cases hx
    | device _ hs' =>
        rw [deviceLog_device] at hx
        rcases (Device.step_cases hs').dequeued_cases with ⟨e, rfl, hhead, rfl⟩ | hnone
        · obtain rfl := List.mem_singleton.mp hx
          exact hok rfl e hhead o ho
        · rw [hnone] at hx
          cases hx

/-- The messages the device read in a session are the first ones begun in it. -/
theorem readAt_isPrefix_started
    (h : (machine cfg (ConnectionTask.spawn name addr port master)).Run ok log w) (s : Nat) :
    (readAt s (deviceLog log)).map Entry.frame
      <+: (startedAt s (taskLog log)).map fun x => x.1.frame := by
  apply Frame.selfDelimiting_bytes.of_flatten
  have hread := ((Device.received_of_reaches (device_of_run h)).bytes s).outp_isPrefix
  have hup := ((carried_of_run h).up s).outp_isPrefix
  have hstart := ((ConnectionTask.started_of_reaches (task_of_run h).reaches).bytes s).outp_isPrefix
  exact (hread.trans hup).trans hstart

/-- The responses of a session are the first responses the device took in it. -/
theorem answers_isPrefix_dequeued
    (h : (machine cfg (ConnectionTask.spawn name addr port master)).Run ok log w) (s : Nat) :
    ((answersAt s (taskLog log)).map fun a => (DeviceMessage.controlRes a.1).frame)
      <+: ((dequeuedAt s (deviceLog log)).filter fun e => e.frame.isResponse).map Entry.frame := by
  have hpre := ((received_prefix_dequeued h).2 s).filter Frame.isResponse
  rw [filter_isResponse_map_frame, ConnectionTask.responses_received (task_of_run h).reaches s,
    List.map_map, List.filter_map] at hpre
  exact hpre

/-- **There are never more responses than requests** in a session, if none is stale. -/
theorem answers_le_asked
    (h : (machine cfg (ConnectionTask.spawn name addr port master)).Run NoStaleResponse log w)
    (s : Nat) : (answersAt s (taskLog log)).length ≤ (askedAt s (taskLog log)).length := by
  have hans := (answers_isPrefix_dequeued h s).length_le
  have hresp := (Device.responsesAt_isPrefix (device_of_run h) (fresh_of_run h) s).length_le
  have hread := ((readAt_isPrefix_started h s).filter Frame.isControlReq).length_le
  have hstarted := ConnectionTask.started_of_reaches (task_of_run h).reaches
  have hasked := length_askedAt (hstarted.kinds s)
  have hctl : Entry.isControl = fun e => e.frame.isControlReq := funext Entry.isControl_eq
  rw [List.filter_map, List.filter_map] at hread
  simp only [List.length_map, Function.comp_def, hctl] at hans hresp hread hasked
  omega

/-- Responses are given to requests in turn, along every run without stale responses. -/
theorem inTurn_of_run
    (h : (machine cfg (ConnectionTask.spawn name addr port master)).Run NoStaleResponse log w) :
    ConnectionTask.InTurn (taskLog log) w.task := by
  refine h.invariant (P := fun log w => ConnectionTask.InTurn (taskLog log) w.task) ?_ ?_
  · exact fun s => Conveys.start.off
  · intro log w i w' out hr hturn hok hs
    have hcausal := answers_le_asked (hr.step hok hs)
    cases step_cases hs with
    | task _ hs' =>
        rw [taskLog_append, taskLog_task] at hcausal ⊢
        have htask := (task_of_run hr).reaches
        exact hturn.step (ConnectionTask.sound_of_reaches htask)
          (ConnectionTask.sessions_of_reaches htask) (ConnectionTask.step_cases hs') hcausal
    | device _ hs' =>
        rw [taskLog_append, taskLog_device, List.append_nil]
        exact hturn

/-- A `Ok` reply is the response to the request it is given to: this is the last request begun, as
message `n` of session `s`; the device has read it; the response was made by `handle_control` for
that message; and if it says so, the pulse was carried out for that message. -/
def OwnAnswer (dlog : List DevObs) (pre : List TaskObs) : TaskObs → Prop
  | .ctlReply tx (.ok res) => ∃ pre₁ s ctl pre₂ n,
      pre = pre₁ ++ .sendStart s (.controlReq ctl) (some tx) :: pre₂ ∧
      (∀ s, askedAt s pre₂ = []) ∧ n = (startedAt s pre₁).length ∧
      (∃ m, .msgRead s n m ∈ dlog ∧ m.frame = (DeviceMessage.controlReq ctl).frame) ∧
      (∃ e, .responded e ∈ dlog ∧ e.origin = some (s, n) ∧
        e.frame = (DeviceMessage.controlRes res).frame) ∧
      (res = .ok → .pulsed (some (s, n)) ∈ dlog)
  | _ => True

/-- What the device did stays done. -/
theorem OwnAnswer.mono {dlog dlog' : List DevObs} (hsub : ∀ o ∈ dlog, o ∈ dlog')
    {pre : List TaskObs} {o : TaskObs} (h : OwnAnswer dlog pre o) : OwnAnswer dlog' pre o := by
  cases o with
  | ctlReply tx r =>
      cases r with
      | error => trivial
      | ok res =>
          obtain ⟨pre₁, s, ctl, pre₂, n, hpre, hlast, hn, ⟨m, hm, hmf⟩, ⟨e, he, ho, hef⟩, hok⟩ := h
          exact ⟨pre₁, s, ctl, pre₂, n, hpre, hlast, hn, ⟨m, hsub _ hm, hmf⟩,
            ⟨e, hsub _ he, ho, hef⟩, fun hres => hsub _ (hok hres)⟩
  | _ => trivial

/-- Only the reply to an answer has to be accounted for. -/
theorem OwnAnswer.of_silent {o : TaskObs} (h : ∀ tx res, o ≠ .ctlReply tx (.ok res))
    (dlog : List DevObs) (pre : List TaskObs) : OwnAnswer dlog pre o := by
  cases o with
  | ctlReply tx r =>
      cases r with
      | error => trivial
      | ok res => exact absurd rfl (h tx res)
  | _ => trivial

/-- The messages of a session are read under their numbers. -/
theorem origin_of_readAt
    (h : (machine cfg (ConnectionTask.spawn name addr port master)).Run ok log w) {s n : Nat}
    {r : Entry} (hr : (readAt s (deviceLog log))[n]? = some r) :
    r.origin = some (s, n) ∧ .msgRead s n r.msg ∈ deviceLog log := by
  have hnum := (Device.received_of_reaches (device_of_run h)).numbered s
  have horigin : r.origin = some (s, n) := by
    have hget := congrArg (·[n]?) hnum
    simp only [List.getElem?_map, hr, Option.map_some] at hget
    obtain ⟨k, hk, hkn⟩ := Option.map_eq_some_iff.mp hget.symm
    rw [List.getElem?_eq_some_iff] at hk
    obtain ⟨_, hk⟩ := hk
    rw [← hkn, ← hk, List.getElem_range]
  refine ⟨horigin, ?_⟩
  obtain ⟨x, hx, hxr⟩ := List.mem_map.mp (List.mem_of_getElem? hr)
  obtain ⟨o, ho, hox⟩ := List.mem_filterMap.mp (List.mem_filter.mp hx).1
  cases o with
  | msgRead s' n' m =>
      cases hox
      subst hxr
      cases horigin
      exact ho
  | _ => cases hox

/-- **The responses of a session answer its requests, one by one**, if none is stale. -/
theorem response_of_request
    (h : (machine cfg (ConnectionTask.spawn name addr port master)).Run NoStaleResponse log w)
    {s : Nat} {ctl : DeviceControlRequest} {tx : ReplyId} {pre post : List TaskObs}
    (hlog : taskLog log = pre ++ .sendStart s (.controlReq ctl) (some tx) :: post)
    {res : DeviceControlResponse} {who : Option ReplyId}
    (hans : (answersAt s (taskLog log))[(askedAt s pre).length]? = some (res, who)) :
    (∃ m, .msgRead s (startedAt s pre).length m ∈ deviceLog log ∧
        m.frame = (DeviceMessage.controlReq ctl).frame) ∧
      (∃ e, .responded e ∈ deviceLog log ∧ e.origin = some (s, (startedAt s pre).length) ∧
        e.frame = (DeviceMessage.controlRes res).frame) ∧
      (res = .ok → .pulsed (some (s, (startedAt s pre).length)) ∈ deviceLog log) := by
  have hdev := device_of_run h
  have hkinds := (ConnectionTask.started_of_reaches (task_of_run h).reaches).kinds s
  have hstarted : startedAt s (taskLog log)
      = startedAt s pre ++ (.controlReq ctl, some tx) :: startedAt s post := by
    rw [hlog, startedAt_append]
    congr 1
    show valuesAt s ((s, _) :: _) = _
    simp [startedAt, valuesAt, TaskObs.started?]
  have hkinds' : ∀ x ∈ startedAt s pre, StartOk x := by
    intro x hx
    apply hkinds
    rw [hstarted]
    exact List.mem_append_left _ hx
  have hlen := length_askedAt hkinds'
  -- the response the device took in this place, and the request the device read in this place
  obtain ⟨e, he, hef⟩ := getElem?_of_agree (answers_isPrefix_dequeued h s) hans
  obtain ⟨r, hr, hor⟩ := getElem?_of_agree
    (Device.responsesAt_isPrefix hdev (fresh_of_run h) s) he
  have hread := readAt_isPrefix_started h s
  rw [hstarted] at hread
  have hctl : Entry.isControl = fun e => e.frame.isControlReq := funext Entry.isControl_eq
  rw [hctl, hlen] at hr
  obtain ⟨hr', hrf⟩ := getElem?_of_filter_agree (p := Frame.isControlReq) hread rfl hr
  obtain ⟨horigin, hmem⟩ := origin_of_readAt h hr'
  have heo : e.origin = some (s, (startedAt s pre).length) := hor.trans horigin
  -- `handle_control` made the response
  obtain ⟨hedeq, heresp⟩ := List.mem_filter.mp (List.mem_of_getElem? he)
  have hresponded : .responded e ∈ deviceLog log := by
    have hq : e ∈ (queuedEntries (deviceLog log)).filter fun e => e.frame.isResponse :=
      List.mem_filter.mpr ⟨mem_queued_of_dequeuedAt h hedeq, heresp⟩
    rw [Device.responses_queuedEntries hdev] at hq
    obtain ⟨o, ho, hoe⟩ := List.mem_filterMap.mp hq
    cases o with
    | responded e' =>
        cases hoe
        exact ho
    | _ => cases hoe
  refine ⟨⟨r.msg, hmem, hrf⟩, ⟨e, hresponded, heo, hef.symm⟩, ?_⟩
  intro hres
  obtain ⟨res', hres', hpulse⟩ := (Device.produced_of_reaches hdev).tx e (.inl hresponded)
  rw [← heo]
  apply hpulse
  rw [← controlRes_frame_inj (hef.trans hres'), hres]

/-- The request in progress is the next one to be answered in its session. -/
theorem length_answersAt {tlog pre post : List TaskObs} {t : ConnectionTask} {s : Nat}
    {ctl : DeviceControlRequest} {tx : ReplyId} (hturn : ConnectionTask.InTurn tlog t)
    (hst : t.state ≠ .shuttingDown) (hs : t.session = some s) (hw : t.waitingFor = some tx)
    (hlog : tlog = pre ++ .sendStart s (.controlReq ctl) (some tx) :: post)
    (hpost : ∀ s, askedAt s post = []) : (answersAt s tlog).length = (askedAt s pre).length := by
  have hc := hturn s
  rw [ConnectionTask.turn, if_pos ⟨hs, hst⟩, hw] at hc
  have hasked : askedAt s tlog = askedAt s pre ++ [tx] := by
    have hone : askedAt s [.sendStart s (.controlReq ctl) (some tx)] = [tx] := by
      show (valuesAt s [(s, (DeviceMessage.controlReq ctl, some tx))]).filterMap Prod.snd = _
      rw [valuesAt_singleton, if_pos rfl]
      rfl
    rw [hlog, List.append_cons, askedAt_append, askedAt_append, hone, hpost, List.append_nil]
  have hlen := congrArg List.length hc.eq_append
  simp only [hasked, List.length_map, List.length_append, List.length_singleton,
    Option.toList_some] at hlen
  omega

/-- A reply given to the request in progress is the response to it. -/
theorem ownAnswer_of_reply
    (h : (machine cfg (ConnectionTask.spawn name addr port master)).Run NoStaleResponse log w)
    {tlog pre post : List TaskObs} {s : Nat} {ctl : DeviceControlRequest} {tx : ReplyId}
    {res : DeviceControlResponse}
    (hlog : taskLog log = tlog ++
      [.received s (.controlRes res), .controlRes s res (some tx), .ctlReply tx (.ok res)])
    (htlog : tlog = pre ++ .sendStart s (.controlReq ctl) (some tx) :: post)
    (hpost : ∀ s, askedAt s post = [])
    (hlen : (answersAt s tlog).length = (askedAt s pre).length) :
    OwnAnswer (deviceLog log)
      (tlog ++ [.received s (.controlRes res), .controlRes s res (some tx)])
      (.ctlReply tx (.ok res)) := by
  have hans : (answersAt s (taskLog log))[(askedAt s pre).length]? = some (res, some tx) := by
    have hone : answersAt s [.received s (.controlRes res), .controlRes s res (some tx),
        .ctlReply tx (.ok res)] = [(res, some tx)] := by
      show valuesAt s [(s, (res, some tx))] = _
      rw [valuesAt_singleton, if_pos rfl]
    rw [hlog, answersAt_append, hone, ← hlen, List.getElem?_append_right (Nat.le_refl _),
      Nat.sub_self]
    rfl
  rw [htlog, List.append_assoc] at hlog
  obtain ⟨hread, hresp, hpulsed⟩ := response_of_request h hlog hans
  refine ⟨pre, s, ctl, post ++ [.received s (.controlRes res), .controlRes s res (some tx)], _, ?_,
    ?_, rfl, hread, hresp, hpulsed⟩
  · rw [htlog, List.append_assoc]
    rfl
  · intro s'
    rw [askedAt_append, hpost]
    rfl

/-- **Every response is given to the request it answers**, in every run in which `handle_client` takes
no stale response. -/
theorem answered_in_turn
    (h : (machine cfg (ConnectionTask.spawn name addr port master)).Run NoStaleResponse log w) :
    Justified (OwnAnswer (deviceLog log)) (taskLog log) := by
  refine h.invariant (P := fun log _ => Justified (OwnAnswer (deviceLog log)) (taskLog log))
    Justified.nil ?_
  intro log w i w' out hr hjust hok hs
  have hr' := hr.step hok hs
  cases step_cases hs with
  | device _ hs' =>
      -- more answers of the device do not change whose answer the earlier ones are
      rw [taskLog_append, deviceLog_append, taskLog_device, List.append_nil]
      exact hjust.mono fun _ _ => OwnAnswer.mono fun _ => List.mem_append_left _
  | @task i t' out _ hs' =>
      have htask := (task_of_run hr).reaches
      have hsound := ConnectionTask.sound_of_reaches htask
      have hstep := ConnectionTask.step_cases hs'
      have hdev : deviceLog (log ++ out.map .task) = deviceLog log := by
        rw [deviceLog_append, deviceLog_task, List.append_nil]
      have hlog' : taskLog (log ++ out.map .task) = taskLog log ++ out := by
        rw [taskLog_append, taskLog_task]
      rw [hlog', hdev]
      rcases (hstep.ctlEffect hsound).okReply_cases with ⟨s, res, tx, hout, hw, hses⟩ | hnone
      · -- a task that shuts down sees no response
        have hst : w.task.state ≠ .shuttingDown := by
          intro hst
          have hno := (hstep.of_shuttingDown hsound hst).2.2
          rw [hout] at hno
          cases hno
        obtain ⟨pre, s', ctl, post, hlog, hpost, hses'⟩ :=
          ConnectionTask.lastAsked_of_reaches htask tx hw
        obtain rfl : s' = s := Option.some.inj (hses'.symm.trans hses)
        -- the request answered next and the response received next have the same number
        have hlen := length_answersAt (inTurn_of_run hr) hst hses hw hlog hpost
        have hreply := ownAnswer_of_reply hr' (hlog'.trans (congrArg _ hout)) hlog hpost hlen
        rw [hdev] at hreply
        have hbefore : Justified (OwnAnswer (deviceLog log))
            (taskLog log ++ [.received s' (.controlRes res), .controlRes s' res (some tx)]) :=
          hjust.append fun o ho pre => by rcases List.mem_pair.mp ho with rfl | rfl <;> trivial
        have hall := hbefore.concat hreply
        rw [List.append_assoc] at hall
        rw [hout]
        exact hall
      · exact hjust.append fun o ho pre => OwnAnswer.of_silent (hnone o ho) _ pre

/-- A reset is carried out and answered in the session it was asked for in. -/
theorem answered_in_turn_reset :
    ∃ log w, (machine ⟨true, false⟩
        (ConnectionTask.spawn "a" 0 0 (AsyncPty.new ⟨0, 0, .B9600⟩))).Run NoStaleResponse log w ∧
      TaskObs.ctlReply 1 (.ok .ok) ∈ taskLog log ∧
      Justified (OwnAnswer (deviceLog log)) (taskLog log) := by
  have hrun : ((machine ⟨true, false⟩ (ConnectionTask.spawn "a" 0 0
      (AsyncPty.new ⟨0, 0, .B9600⟩))).restrict fun w _ =>
        w.device.uartToTcp.items.head?.all fun e => e.origin.all fun o => o.1 == w.device.sock
      ).Reaches _ _ :=
    Machine.Reaches.init.exec [.task .resume, .task .sleepElapsed, .task (.connect .ok),
      .task .resume, .device (.setup true), .device (.accept (some 0)),
      .task (.ctlReq (.hardwareControl .reset 1)), .task (.tcpWrite 3), .task .tcpSent,
      .task .resume, .device (.select true false Block.zero), .device (.recv [3, 1]),
      .device (.recv [1]), .device .tcpEnqueue, .device .txRecv,
      .device (.txHandle Block.zero false), .device .txPulseEnd, .device .txSend,
      .device .txWriteEfd, .device (.select false true Block.zero), .device .readEfd,
      .device .drain, .device .sendOk, .device .sendOk,
      .task (.tcpRecv [4, 1, 1]), .task .tcpNext] rfl
  have hrun' := hrun.of_restrict NoStaleResponse fun w i hcheck _ e he o ho => by
    simpa [he, ho] using hcheck
  exact ⟨_, _, hrun', by decide, answered_in_turn hrun'⟩

/-- Whether an observation begins request 2 in another session than 1. -/
def asksElsewhere : TaskObs → Bool
  | .sendStart s _ (some 2) => s != 1
  | _ => false

/-- Whether an observation is a pulse for a request of session 1. -/
def pulsedForOne : DevObs → Bool
  | .pulsed (some (s, _)) => s == 1
  | _ => false

/-- **A stale response answers.** A reset is carried out while the session is lost; its response stays
in `uart_to_tcp_queue`. In the next session it is taken for the response to the reset asked for
there, which is reported as done and was not carried out. -/
theorem stale_response_answers :
    ∃ log w, (machine ⟨true, false⟩
        (ConnectionTask.spawn "a" 0 0 (AsyncPty.new ⟨0, 0, .B9600⟩))).Reaches log w ∧
      TaskObs.ctlReply 2 (.ok .ok) ∈ taskLog log ∧
      (∀ n, .pulsed (some (1, n)) ∉ deviceLog log) ∧
      ¬ Justified (OwnAnswer (deviceLog log)) (taskLog log) := by
  obtain ⟨log, w, hr, hp⟩ := (machine ⟨true, false⟩
      (ConnectionTask.spawn "a" 0 0 (AsyncPty.new ⟨0, 0, .B9600⟩))).exists_reaches_of_exec
    [.task .resume, .task .sleepElapsed, .task (.connect .ok),
      .task .resume, .device (.setup true), .device (.accept (some 0)),
      .task (.ctlReq (.hardwareControl .reset 1)), .task (.tcpWrite 3), .task .tcpSent,
      .task .resume, .device (.select true false Block.zero), .device (.recv [3, 1]),
      .device (.recv [1]), .device .tcpEnqueue, .device .txRecv,
      .device (.txHandle Block.zero false), .device .txPulseEnd, .device .txSend,
      .device .txWriteEfd,
      .task .tcpEnd, .task .resume, .task .sleepElapsed, .task (.connect .ok), .task .resume,
      .device (.select true true Block.zero), .device .recvFail, .device (.accept (some 1)),
      .task (.ctlReq (.hardwareControl .reset 2)), .task (.tcpWrite 3), .task .tcpSent,
      .task .resume, .device (.select false true Block.zero), .device .readEfd,
      .device .drain, .device .sendOk, .device .sendOk,
      .task (.tcpRecv [4, 1, 1]), .task .tcpNext]
    (p := fun log _ => TaskObs.ctlReply 2 (.ok .ok) ∈ taskLog log ∧
      (taskLog log).all (fun o => !asksElsewhere o) ∧
      (deviceLog log).all (fun o => !pulsedForOne o)) rfl
  obtain ⟨hmem, hasks, hpulsed⟩ := of_decide_eq_true hp
  have hno : ∀ n, .pulsed (some (1, n)) ∉ deviceLog log := by
    intro n hn
    have := List.all_eq_true.mp hpulsed _ hn
    simp [pulsedForOne] at this
  refine ⟨log, w, hr, hmem, hno, fun hjust => ?_⟩
  obtain ⟨pre, post, hlog⟩ := List.append_of_mem hmem
  obtain ⟨pre₁, s, ctl, pre₂, n, hpre, -, -, -, -, hok⟩ := hjust pre _ post hlog
  -- the request was begun in session 1
  have hone := List.all_eq_true.mp hasks (.sendStart s (.controlReq ctl) (some 2)) (by
    rw [hlog, hpre]
    simp)
  obtain rfl : s = 1 := by simpa [asksElsewhere] using hone
  exact hno n (hok rfl)

end World

end TcpUart
