import TcpUart.Firmware.Streams

/-! # The queues and tasks of the device, as stages
Each queue and each task gives what it takes, in order and each item once.

* `enqueued_conveyed` — messages read are put on `tcp_to_uart_queue`.
* `tcpToUart_conveyed`, `uartToTcp_conveyed` — the queues are first-in-first-out, whoever the
  producers are.
* `responses_conveyed` — `uart_tx_task` answers the control requests it takes, one after the other.
* `uart_conveyed` — `uart_rx_task` cuts the bytes of the UART into `Data` messages.
* `Answers` — what a response says about the request it answers. -/

namespace TcpUart

open Reactive Framing

/-- A control request that `uart_tx_task` answers. -/
def Entry.isControl (e : Entry) : Bool :=
  e.msg.kind = MESSAGE_KIND_CONTROL ∧ e.msg.len.toNat = sizeofControlMessage

/-- The message that was read and is to be put on `tcp_to_uart_queue`. -/
def TcpPc.toEnqueue : TcpPc → List Entry
  | .enqueue _ e => [e]
  | _ => []

/-- A task that reads a message has none to put on the queue. -/
theorem TcpPc.toEnqueue_of_reading {pc : TcpPc} (h : pc.reading ≠ none) : pc.toEnqueue = [] := by
  cases pc with
  | enqueue => exact absurd rfl h
  | _ => rfl

/-- A task that sends has no message to put on the queue. -/
theorem TcpPc.toEnqueue_of_sending {pc : TcpPc} (h : pc.sending ≠ none) : pc.toEnqueue = [] := by
  cases pc with
  | enqueue => exact absurd rfl h
  | _ => rfl

/-- The control request that is being answered. -/
def TxPc.inProgress : TxPc → List (Option Origin)
  | .handle e => if e.isControl then [e.origin] else []
  | .pulse _ o => [o]
  | .sendResp e => [e.origin]
  | _ => []

/-- The bytes of the UART that are read and not in the queue yet. -/
def RxPc.inHand : RxPc → Bytes
  | .sendQ m => m.payload
  | _ => []

/-- The entries that `read_msg` returned, in order. -/
def readEntries (log : List DevObs) : List (Nat × Entry) := log.filterMap DevObs.read?

/-- The entries put on `tcp_to_uart_queue`, in order. -/
def enqueuedEntries (log : List DevObs) : List (Nat × Entry) := log.filterMap DevObs.enqueued?

/-- The entries taken from `uart_to_tcp_queue`, in order. -/
def dequeuedEntries (log : List DevObs) : List (Nat × Entry) := log.filterMap DevObs.dequeued?

/-- The entries put on `uart_to_tcp_queue` by its two producers, in order. -/
def queuedEntries (log : List DevObs) : List Entry := log.filterMap DevObs.queued?

/-- The requests `uart_tx_task` took that are to be answered. -/
def controlsTaken (log : List DevObs) : List (Option Origin) :=
  ((log.filterMap DevObs.txTaken?).filter Entry.isControl).map Entry.origin

/-- The requests that were answered. -/
def controlsAnswered (log : List DevObs) : List (Option Origin) :=
  (log.filterMap DevObs.responded?).map Entry.origin

/-- The bytes read from the UART. -/
def uartBytes (log : List DevObs) : Bytes := (log.filterMap DevObs.uartRead?).flatten

/-- The bodies of the messages `uart_rx_task` put on `uart_to_tcp_queue`. -/
def uartBodies (log : List DevObs) : List Bytes :=
  (log.filterMap DevObs.rxEnqueued?).map Message.payload

namespace Device

/-- The message read and not on the queue yet, with its session. -/
def toEnqueue (d : Device) : List (Nat × Entry) := d.tcp.toEnqueue.map (d.sock, ·)

/-- Away from `xQueueSend` there is no such message. -/
theorem toEnqueue_eq_nil {d : Device} {pc : TcpPc} (hpc : d.tcp = pc) (h : pc.toEnqueue = []) :
    d.toEnqueue = [] := by
  rw [toEnqueue, hpc, h]
  rfl

/-- **Messages read are put on `tcp_to_uart_queue`**, but for the one in hand. -/
theorem enqueued_conveyed {cfg : DeviceConfig} {log : List DevObs} {d : Device}
    (h : (machine cfg).Reaches log d) :
    Conveys (readEntries log) (enqueuedEntries log) (some d.toEnqueue) := by
  refine h.conveys readEntries enqueuedEntries toEnqueue (fun _ _ => List.filterMap_append)
    (fun _ _ => List.filterMap_append) rfl ?_
  intro d i d' out hs
  -- nothing is in hand before or after most steps of `tcp_task`
  have hidle : ∀ {out : List DevObs} {d' : Device}, d.toEnqueue = [] → d'.toEnqueue = [] →
      readEntries out = [] → enqueuedEntries out = [] →
      d.toEnqueue ++ readEntries out = enqueuedEntries out ++ d'.toEnqueue := fun h h' hi ho =>
    Conveys.balance_silent (h'.trans h.symm) hi ho
  cases step_cases hs with
  | setup ok hpc => exact hidle (toEnqueue_eq_nil hpc rfl) (by cases ok <;> rfl) rfl rfl
  | accept hpc => exact hidle (toEnqueue_eq_nil hpc rfl) rfl rfl rfl
  | selectFail hpc => exact hidle (toEnqueue_eq_nil hpc rfl) rfl rfl rfl
  | selectClient hpc => exact hidle (toEnqueue_eq_nil hpc rfl) rfl rfl rfl
  | selectEfd hpc => exact hidle (toEnqueue_eq_nil hpc rfl) rfl rfl rfl
  | recvMore hr hbs hr' =>
      have hne := TcpPc.toEnqueue_of_reading (by rw [hr]; exact Option.some_ne_none _)
      have hne' := TcpPc.toEnqueue_of_reading (by rw [hr']; exact Option.some_ne_none _)
      exact hidle (toEnqueue_eq_nil rfl hne) (toEnqueue_eq_nil rfl hne') rfl rfl
  | recvDone hr =>
      have hne := TcpPc.toEnqueue_of_reading (by rw [hr]; exact Option.some_ne_none _)
      rw [toEnqueue_eq_nil rfl hne]
      rfl
  | recvFail hr =>
      exact hidle (toEnqueue_eq_nil rfl (TcpPc.toEnqueue_of_reading hr)) rfl rfl rfl
  | @enqueue efd e q hpc =>
      have hnil : toEnqueue { d with tcpToUart := q, tcp := afterClient efd } = [] := by
        cases efd <;> rfl
      rw [hnil, toEnqueue, hpc]
      rfl
  | readEfd hpc => exact hidle (toEnqueue_eq_nil hpc rfl) rfl rfl rfl
  | drainEmpty hpc => exact hidle (toEnqueue_eq_nil hpc rfl) rfl rfl rfl
  | drainTake hpc => exact hidle (toEnqueue_eq_nil hpc rfl) rfl rfl rfl
  | sendHdr hpc => exact hidle (toEnqueue_eq_nil hpc rfl) rfl rfl rfl
  | sendBody hpc => exact hidle (toEnqueue_eq_nil hpc rfl) rfl rfl rfl
  | sendFail hpc =>
      have hne := TcpPc.toEnqueue_of_sending (by rw [hpc]; exact Option.some_ne_none _)
      exact hidle (toEnqueue_eq_nil rfl hne) rfl rfl rfl
  | _ => exact Conveys.balance_silent rfl rfl rfl

/-- **`tcp_to_uart_queue` is first-in-first-out.** -/
theorem tcpToUart_conveyed {cfg : DeviceConfig} {log : List DevObs} {d : Device}
    (h : (machine cfg).Reaches log d) :
    Conveys ((enqueuedEntries log).map Prod.snd) (log.filterMap DevObs.txTaken?)
      (some d.tcpToUart.items) := by
  refine h.conveys (fun log => (enqueuedEntries log).map Prod.snd)
    (List.filterMap DevObs.txTaken?) (fun d => d.tcpToUart.items)
    (fun _ _ => by simp [enqueuedEntries]) (fun _ _ => List.filterMap_append) rfl ?_
  intro d i d' out hs
  cases step_cases hs with
  | enqueue _ hq => exact (BoundedQueue.items_of_push hq).1.symm
  | txRecv _ hq =>
      rw [BoundedQueue.items_of_pop hq]
      exact List.append_nil _
  | _ => exact Conveys.balance_silent rfl rfl rfl

/-- **`uart_to_tcp_queue` is first-in-first-out**, for both producers together. -/
theorem uartToTcp_conveyed {cfg : DeviceConfig} {log : List DevObs} {d : Device}
    (h : (machine cfg).Reaches log d) :
    Conveys (queuedEntries log) ((dequeuedEntries log).map Prod.snd)
      (some d.uartToTcp.items) := by
  refine h.conveys queuedEntries (fun log => (dequeuedEntries log).map Prod.snd)
    (fun d => d.uartToTcp.items) (fun _ _ => List.filterMap_append)
    (fun _ _ => by simp [dequeuedEntries]) rfl ?_
  intro d i d' out hs
  cases step_cases hs with
  | drainTake _ hq =>
      rw [BoundedQueue.items_of_pop hq]
      exact List.append_nil _
  | rxSend _ hq => exact (BoundedQueue.items_of_push hq).1.symm
  | txSend _ hq => exact (BoundedQueue.items_of_push hq).1.symm
  | _ => exact Conveys.balance_silent rfl rfl rfl

/-- Nothing is answered to a message that is no control request. -/
theorem inProgress_handle {e : Entry} (h : e.isControl = false) :
    (TxPc.handle e).inProgress = [] := by
  rw [TxPc.inProgress, h]
  rfl

/-- The control request that is being handled is in progress. -/
theorem inProgress_handle_control {e : Entry} (hk : e.msg.kind = MESSAGE_KIND_CONTROL)
    (hlen : e.msg.len.toNat = sizeofControlMessage) :
    (TxPc.handle e).inProgress = [e.origin] := by
  have hctl : e.isControl = true := decide_eq_true ⟨hk, hlen⟩
  rw [TxPc.inProgress, if_pos hctl]

/-- **Control requests are answered** one after the other, but for the one in progress. -/
theorem responses_conveyed {cfg : DeviceConfig} {log : List DevObs} {d : Device}
    (h : (machine cfg).Reaches log d) :
    Conveys (controlsTaken log) (controlsAnswered log) (some d.tx.inProgress) := by
  refine h.conveys controlsTaken controlsAnswered (fun d => d.tx.inProgress)
    (fun _ _ => by simp [controlsTaken]) (fun _ _ => by simp [controlsAnswered]) rfl ?_
  intro d i d' out hs
  cases step_cases hs with
  | @txRecv e q hpc hq =>
      -- a control request is in progress from when it is taken
      rw [hpc]
      by_cases hctl : e.isControl
      · simp [TxPc.inProgress, controlsTaken, controlsAnswered, DevObs.txTaken?,
          DevObs.responded?, hctl]
      · simp [TxPc.inProgress, controlsTaken, controlsAnswered, DevObs.txTaken?,
          DevObs.responded?, hctl]
  | @txData e junk fault hpc hk =>
      have hno : e.isControl = false := by
        rw [Entry.isControl, hk]
        rfl
      refine Conveys.balance_silent ?_ rfl rfl
      rw [hpc, inProgress_handle hno]
      rfl
  | @txConfig e junk settings aborted tx fault hpc hk hlen hres =>
      have hno : e.isControl = false := by
        rw [Entry.isControl, hk]
        rfl
      refine Conveys.balance_silent ?_ rfl rfl
      rcases hres with ⟨-, -, rfl, -⟩ | ⟨-, -, rfl, -⟩
      · rfl
      · rw [hpc, inProgress_handle hno]
        rfl
  | @txSkip e junk fault hpc hk hcfg hctl =>
      have hno : e.isControl = false := decide_eq_false fun h => hctl h.1 h.2
      refine Conveys.balance_silent ?_ rfl rfl
      rw [hpc, inProgress_handle hno]
      rfl
  | txPulse hpc hk hlen =>
      refine Conveys.balance_silent ?_ rfl rfl
      rw [hpc, inProgress_handle_control hk hlen]
      rfl
  | txDecline hpc hk hlen =>
      refine Conveys.balance_silent ?_ rfl rfl
      rw [hpc, inProgress_handle_control hk hlen]
      rfl
  | txPulseEnd hpc =>
      refine Conveys.balance_silent ?_ rfl rfl
      rw [hpc]
      rfl
  | txSend hpc =>
      rw [hpc]
      rfl
  | txWriteEfd hpc =>
      refine Conveys.balance_silent ?_ rfl rfl
      rw [hpc]
      rfl
  | _ => exact Conveys.balance_silent rfl rfl rfl

/-- After a read, `uart_rx_task` has nothing in hand. -/
theorem inHand_rxLoop (d : Device) : d.rxLoop.inHand = [] := by
  unfold rxLoop
  split <;> rfl

/-- **`uart_rx_task` cuts the bytes of the UART into messages**, but for those in hand. -/
theorem uart_conveyed {cfg : DeviceConfig} {log : List DevObs} {d : Device}
    (h : (machine cfg).Reaches log d) :
    Conveys (uartBytes log) (uartBodies log).flatten (some d.rx.inHand) := by
  refine h.conveys uartBytes (fun log => (uartBodies log).flatten) (fun d => d.rx.inHand)
    (fun _ _ => by simp [uartBytes]) (fun _ _ => by simp [uartBodies]) rfl ?_
  intro d i d' out hs
  cases step_cases hs with
  | @rxEvent data hpc =>
      refine Conveys.balance_silent ?_ rfl rfl
      rw [hpc]
      cases data with
      | true => exact inHand_rxLoop d
      | false => rfl
  | @rxRead n len junk hpc hpos hle hring =>
      rw [hpc]
      have hlen : (UInt8.ofNat len).toNat = len := by
        rw [UInt8.toNat_ofNat']
        simp only [maxMessageLen] at hle
        omega
      -- the body of the message is what was read, whatever the stack held
      have hbody : (junk.write (d.ring.take len)).slice (UInt8.ofNat len).toNat
          = d.ring.take len := by
        rw [hlen]
        exact junk.slice_write (List.length_take_of_le hring) hle
      show [] ++ ([d.ring.take len] : List Bytes).flatten = [] ++ _
      rw [List.nil_append, List.nil_append]
      exact (List.append_nil _).trans hbody.symm
  | rxReadNone hpc =>
      refine Conveys.balance_silent ?_ rfl rfl
      rw [hpc]
      exact inHand_rxLoop d
  | rxSend hpc =>
      rw [hpc]
      show _ ++ [] = _ ++ [] ++ []
      simp only [List.append_nil]
      rfl
  | rxWriteEfd hpc =>
      refine Conveys.balance_silent ?_ rfl rfl
      rw [hpc]
      exact inHand_rxLoop _
  | _ => exact Conveys.balance_silent rfl rfl rfl

/-! ## What is on `uart_to_tcp_queue` -/

/-- The entry is a response, and if it says that the reset was carried out, it was. -/
def IsResponse (log : List DevObs) (e : Entry) : Prop :=
  ∃ res : DeviceControlResponse, e.frame = (DeviceMessage.controlRes res).frame ∧
    (res = .ok → .pulsed e.origin ∈ log)

/-- A response stays one. -/
theorem IsResponse.mono {log log' : List DevObs} {e : Entry} (h : IsResponse log e)
    (hlog : ∀ o ∈ log, o ∈ log') : IsResponse log' e := by
  obtain ⟨res, hframe, hpulse⟩ := h
  exact ⟨res, hframe, fun hres => hlog _ (hpulse hres)⟩

/-- What `handle_control` builds is a response. -/
theorem frame_response (res : DeviceControlResponse) (junk : Block) (o : Option Origin) :
    (response res.toU8 junk o).frame = (DeviceMessage.controlRes res).frame := by
  have hpay : (junk.write [res.toU8]).slice (1 : UInt8).toNat = [res.toU8] :=
    junk.slice_write rfl (by simp [maxMessageLen])
  simp only [Entry.frame, response, Message.frame, DeviceMessage.frame, Frame.mk.injEq]
  exact ⟨rfl, hpay⟩

/-- What the producers of `uart_to_tcp_queue` build. -/
structure Produced (log : List DevObs) (d : Device) : Prop where
  /-- `uart_rx_task` builds `Data` messages. -/
  rx : ∀ m, .rxEnqueued m ∈ log ∨ d.rx = .sendQ m → m.kind = MESSAGE_KIND_DATA
  /-- `handle_control` builds responses. -/
  tx : ∀ e, .responded e ∈ log ∨ d.tx = .sendResp e → IsResponse log e

/-- A message `uart_rx_task` puts on the queue was in its hand. -/
theorem Step.rx_produced {cfg : DeviceConfig} {d d' : Device} {i : DevInput} {out : List DevObs}
    (h : Step cfg d i d' out) (m : Message) (hm : .rxEnqueued m ∈ out ∨ d'.rx = .sendQ m) :
    d.rx = .sendQ m ∨ m.kind = MESSAGE_KIND_DATA := by
  -- the head of the read loop has no message in hand
  have hloop : ∀ {d : Device}, d.rxLoop ≠ .sendQ m := by
    intro d heq
    unfold rxLoop at heq
    split at heq <;> cases heq
  cases h with
  | @rxEvent data hpc =>
      rcases hm with hm | hm
      · cases hm
      · cases data with
        | true => exact absurd hm hloop
        | false => cases hm
  | rxRead =>
      rcases hm with hm | hm
      · simp at hm
      · cases hm
        exact .inr rfl
  | rxReadNone =>
      rcases hm with hm | hm
      · cases hm
      · exact absurd hm hloop
  | rxSend hpc =>
      rcases hm with hm | hm
      · obtain rfl : m = _ := by simpa using hm
        exact .inl hpc
      · cases hm
  | rxWriteEfd =>
      rcases hm with hm | hm
      · cases hm
      · exact absurd hm hloop
  | _ => exact .inl (hm.resolve_left (by simp))

/-- A response that `handle_control` puts on the queue was in its hand. -/
theorem Step.tx_produced {cfg : DeviceConfig} {d d' : Device} {i : DevInput} {out : List DevObs}
    (h : Step cfg d i d' out) (e : Entry) (he : .responded e ∈ out ∨ d'.tx = .sendResp e) :
    d.tx = .sendResp e ∨ IsResponse out e := by
  cases h with
  | txRecv =>
      rcases he with he | he
      · simp at he
      · cases he
  | txData =>
      rcases he with he | he
      · simp at he
      · cases he
  | @txConfig _ _ _ _ tx _ _ _ _ hres =>
      have htx : tx = .sendResp e := he.resolve_left (by simp)
      left
      rcases hres with ⟨-, -, heq, -⟩ | ⟨-, -, heq, -⟩
      · exact heq.symm.trans htx
      · rw [heq] at htx
        cases htx
  | txSkip =>
      rcases he with he | he
      · cases he
      · cases he
  | txPulse =>
      rcases he with he | he
      · cases he
      · cases he
  | txDecline =>
      rcases he with he | he
      · cases he
      · cases he
        exact .inr ⟨.notSupported, frame_response .notSupported _ _, nofun⟩
  | txPulseEnd =>
      rcases he with he | he
      · simp at he
      · cases he
        -- the pulse of this very request is what the step shows
        exact .inr ⟨.ok, frame_response .ok _ _, fun _ => List.mem_singleton_self _⟩
  | txSend hpc =>
      rcases he with he | he
      · obtain rfl : e = _ := by simpa using he
        exact .inl hpc
      · cases he
  | txWriteEfd =>
      rcases he with he | he
      · cases he
      · cases he
  | _ => exact .inl (he.resolve_left (by simp))

/-- What the producers build, along every run. -/
theorem produced_of_reaches {cfg : DeviceConfig} {log : List DevObs} {d : Device}
    (h : (machine cfg).Reaches log d) : Produced log d := by
  refine h.invariant (P := Produced) ?_ ?_
  · refine ⟨fun m hm => ?_, fun e he => ?_⟩
    · rcases hm with hm | hm <;> cases hm
    · rcases he with he | he <;> cases he
  · intro log d i d' out _ hp _ hs
    refine ⟨fun m hm => ?_, fun e he => ?_⟩
    · rw [List.mem_append, or_assoc] at hm
      rcases hm with hm | hm
      · exact hp.rx m (.inl hm)
      · exact ((step_cases hs).rx_produced m hm).elim (fun h => hp.rx m (.inr h)) id
    · rw [List.mem_append, or_assoc] at he
      have hmono : ∀ {e : Entry}, IsResponse log e → IsResponse (log ++ out) e := fun h =>
        h.mono fun _ => List.mem_append_left out
      rcases he with he | he
      · exact hmono (hp.tx e (.inl he))
      · rcases (step_cases hs).tx_produced e he with h | h
        · exact hmono (hp.tx e (.inr h))
        · exact h.mono fun _ => List.mem_append_right log

end Device

/-- The data a frame brings for the PTY, if it is a `Data` frame. -/
def Frame.dataBody? (f : Frame) : Option Bytes := if f.kind = 1 then some f.payload else none

/-- A frame of the kind that answers a control request. -/
def Frame.isResponse (f : Frame) : Bool := f.kind = 4

/-- What the daemon makes of an entry of `uart_to_tcp_queue`. -/
def Entry.toDevice (e : Entry) : DeviceMessage :=
  if e.msg.kind = MESSAGE_KIND_RESPONSE then
    .controlRes (if e.msg.payload = [RESPONSE_STATUS_OK] then .ok else .notSupported)
  else .data e.msg.len e.msg.body

namespace Device

/-- A response as the daemon sees it. -/
theorem IsResponse.frame_eq {log : List DevObs} {e : Entry} (h : IsResponse log e) :
    e.frame = e.toDevice.frame := by
  obtain ⟨res, hframe, -⟩ := h
  have hkind : e.msg.kind = MESSAGE_KIND_RESPONSE := congrArg Frame.kind hframe
  have hpay : e.msg.payload = [res.toU8] := congrArg Frame.payload hframe
  rw [Entry.toDevice, if_pos hkind, hframe, hpay]
  cases res <;> rfl

/-- A `Data` message as the daemon sees it. -/
theorem frame_eq_of_data {m : Message} (h : m.kind = MESSAGE_KIND_DATA) (o : Option Origin) :
    Entry.frame ⟨m, o⟩ = (Entry.toDevice ⟨m, o⟩).frame := by
  have hne : m.kind ≠ MESSAGE_KIND_RESPONSE := by
    rw [h]
    decide
  rw [Entry.toDevice, if_neg hne]
  simp only [Entry.frame, Message.frame, DeviceMessage.frame, Frame.mk.injEq]
  exact ⟨h, rfl⟩

/-- **What the device sends are messages of the protocol.** -/
theorem frame_eq_toDevice {cfg : DeviceConfig} {log : List DevObs} {d : Device}
    (h : (machine cfg).Reaches log d) {e : Entry} (he : e ∈ queuedEntries log) :
    e.frame = e.toDevice.frame := by
  have hp := produced_of_reaches h
  obtain ⟨o, ho, heq⟩ := List.mem_filterMap.mp he
  cases o with
  | rxEnqueued m =>
      cases heq
      exact frame_eq_of_data (hp.rx m (.inl ho)) none
  | responded e' =>
      cases heq
      exact (hp.tx e (.inl ho)).frame_eq
  | _ => cases heq

/-- Every observation of a history that puts an entry on the queue puts a `Data` message or a
response on it. -/
theorem queued_cases {cfg : DeviceConfig} {log : List DevObs} {d : Device}
    (h : (machine cfg).Reaches log d) {o : DevObs} (ho : o ∈ log) {e : Entry}
    (he : o.queued? = some e) :
    (∃ m, o = .rxEnqueued m ∧ e = ⟨m, none⟩ ∧ e.frame.kind = 1) ∨
      (o = .responded e ∧ e.frame.kind = 4) := by
  have hp := produced_of_reaches h
  cases o with
  | rxEnqueued m =>
      cases he
      exact .inl ⟨m, rfl, rfl, hp.rx m (.inl ho)⟩
  | responded e' =>
      cases he
      obtain ⟨res, hframe, -⟩ := hp.tx e (.inl ho)
      exact .inr ⟨rfl, by rw [hframe]; rfl⟩
  | _ => cases he

/-- The `Data` entries of `uart_to_tcp_queue` are those of `uart_rx_task`. -/
theorem dataBodies_queuedEntries {cfg : DeviceConfig} {log : List DevObs} {d : Device}
    (h : (machine cfg).Reaches log d) :
    (queuedEntries log).filterMap (fun e => e.frame.dataBody?) = uartBodies log := by
  rw [queuedEntries, uartBodies, List.filterMap_filterMap, List.map_filterMap]
  apply List.filterMap_congr
  intro o ho
  cases he : o.queued? with
  | none => cases o <;> first | rfl | cases he
  | some e =>
      rcases queued_cases h ho he with ⟨m, rfl, rfl, hk⟩ | ⟨rfl, hk⟩
      · exact if_pos hk
      · exact if_neg (by rw [hk]; decide)

/-- The responses on `uart_to_tcp_queue` are those of `handle_control`. -/
theorem responses_queuedEntries {cfg : DeviceConfig} {log : List DevObs} {d : Device}
    (h : (machine cfg).Reaches log d) :
    (queuedEntries log).filter (fun e => e.frame.isResponse)
      = log.filterMap DevObs.responded? := by
  rw [queuedEntries, List.filter_filterMap]
  apply List.filterMap_congr
  intro o ho
  cases he : o.queued? with
  | none => cases o <;> first | rfl | cases he
  | some e =>
      rcases queued_cases h ho he with ⟨m, rfl, rfl, hk⟩ | ⟨rfl, hk⟩
      · simp [Frame.isResponse, hk, DevObs.responded?]
      · simp [Frame.isResponse, hk, DevObs.responded?]

end Device

end TcpUart
