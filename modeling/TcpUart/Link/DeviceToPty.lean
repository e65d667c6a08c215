import TcpUart.Link.World

/-! # From the UART to the PTY
The bytes the UART receives reach the PTY in order, cut into `Data` messages, some of which are lost
with their session but none torn or repeated (`device_to_pty`). What the firmware sends are always
messages of the protocol, so the daemon's decoder never rejects them. -/

namespace TcpUart

open Reactive Framing

/-- The data of a message is that of its frame. -/
theorem DeviceMessage.uartData_eq (m : DeviceMessage) :
    m.uartData = m.frame.dataBody?.getD [] := by
  cases m <;> rfl

/-- The bodies of the `Data` messages the daemon received, in order. -/
def receivedBodies (log : List TaskObs) : List Bytes :=
  ((log.filterMap TaskObs.received?).map fun x => x.2.frame).filterMap Frame.dataBody?

/-- Dropping what is absent does not change a concatenation. -/
theorem flatten_map_getD {α : Type*} (f : α → Option Bytes) (l : List α) :
    (l.map fun x => (f x).getD []).flatten = (l.filterMap f).flatten := by
  induction l with
  | nil => rfl
  | cons x l ih =>
      cases hx : f x with
      | none =>
          rw [List.filterMap_cons_none hx, List.map_cons, List.flatten_cons, hx, ← ih]
          rfl
      | some bs =>
          rw [List.filterMap_cons_some hx, List.map_cons, List.flatten_cons, List.flatten_cons, hx,
            ← ih]
          rfl

/-- The data received is that of the `Data` messages received. -/
theorem flatten_receivedData (log : List TaskObs) :
    (receivedData log).flatten = (receivedBodies log).flatten := by
  rw [receivedBodies, List.filterMap_map, receivedData, ← flatten_map_getD]
  congr 1
  apply List.map_congr_left
  intro x _
  exact x.2.uartData_eq

/-- Data that was received last is the body of the last `Data` message. -/
theorem receivedBodies_of_last {log : List TaskObs} {ds : List Bytes} {d : Bytes}
    (h : receivedData log = ds ++ [d]) (hd : d ≠ []) :
    ∃ ds', receivedBodies log = ds' ++ [d] := by
  obtain ⟨l, l', hl, -, hlast⟩ := List.map_eq_append_iff.mp h
  obtain ⟨x, rfl, hx⟩ := List.map_eq_singleton_iff.mp hlast
  have hbody : x.2.frame.dataBody? = some d := by
    rw [DeviceMessage.uartData_eq] at hx
    cases hb : x.2.frame.dataBody? with
    | none =>
        rw [hb] at hx
        exact absurd hx.symm hd
    | some b =>
        rw [hb] at hx
        rw [← hx]
        rfl
  refine ⟨(l.map fun x => x.2.frame).filterMap Frame.dataBody?, ?_⟩
  rw [receivedBodies, hl, List.map_append, List.filterMap_append, List.map_singleton,
    List.filterMap_cons_some hbody]
  rfl

namespace World

variable {cfg : DeviceConfig} {name : String} {addr : UInt32} {port : UInt16} {master : AsyncPty}
  {ok : World → WorldInput → Prop} {log : List WorldObs} {w : World}

/-- Entries taken from `uart_to_tcp_queue` were put on it. -/
theorem mem_queued_of_dequeuedAt
    (h : (machine cfg (ConnectionTask.spawn name addr port master)).Run ok log w) {s : Nat}
    {e : Entry} (he : e ∈ dequeuedAt s (deviceLog log)) : e ∈ queuedEntries (deviceLog log) := by
  obtain ⟨x, hx, rfl⟩ := List.mem_map.mp he
  have hmem : x.2 ∈ (dequeuedEntries (deviceLog log)).map Prod.snd :=
    List.mem_map.mpr ⟨x, (List.mem_filter.mp hx).1, rfl⟩
  exact (Device.uartToTcp_conveyed (device_of_run h)).outp_isPrefix.subset hmem

/-- The entries taken in a session are sent as messages of the protocol. -/
theorem map_frame_toDevice
    (h : (machine cfg (ConnectionTask.spawn name addr port master)).Run ok log w) (s : Nat) :
    ((dequeuedAt s (deviceLog log)).map Entry.toDevice).map DeviceMessage.frame
      = (dequeuedAt s (deviceLog log)).map Entry.frame := by
  rw [List.map_map]
  apply List.map_congr_left
  intro e he
  exact (Device.frame_eq_toDevice (device_of_run h) (mem_queued_of_dequeuedAt h he)).symm

/-- Each session yields the start of the frames of the entries taken in it. -/
theorem yields_of_run
    (h : (machine cfg (ConnectionTask.spawn name addr port master)).Run ok log w) :
    ConnectionTask.Yields (taskLog log)
      fun s => (dequeuedAt s (deviceLog log)).map Entry.toDevice := by
  intro s
  rw [map_frame_toDevice h]
  exact ((carried_of_run h).down s).outp_isPrefix.trans
    (Device.sent_of_reaches (device_of_run h) s).outp_isPrefix

/-- The messages received in a session are the first entries taken in it, and none is rejected. -/
theorem received_prefix_dequeued
    (h : (machine cfg (ConnectionTask.spawn name addr port master)).Run ok log w) :
    (∀ s e, TaskObs.decodeError s e ∉ taskLog log) ∧
      ∀ s, (receivedAt s (taskLog log)).map DeviceMessage.frame
        <+: (dequeuedAt s (deviceLog log)).map Entry.frame := by
  obtain ⟨herr, hpre⟩ :=
    ConnectionTask.received_prefix (task_of_run h).reaches (yields_of_run h)
  refine ⟨herr, fun s => ?_⟩
  rw [← map_frame_toDevice h]
  exact hpre s

/-- The bodies of the entries taken from `uart_to_tcp_queue`, session after session. -/
theorem dequeuedBodies_isPrefix
    (h : (machine cfg (ConnectionTask.spawn name addr port master)).Run ok log w) :
    (((dequeuedEntries (deviceLog log)).map (Prod.map id Entry.frame)).map Prod.snd).filterMap
      Frame.dataBody? <+: uartBodies (deviceLog log) := by
  have hdev := device_of_run h
  rw [← Device.dataBodies_queuedEntries hdev, List.map_map]
  have hpre := ((Device.uartToTcp_conveyed hdev).outp_isPrefix.map Entry.frame).filterMap
    Frame.dataBody?
  rw [List.map_map, List.filterMap_map] at hpre
  rw [List.filterMap_map] at hpre ⊢
  exact hpre

/-- The bodies received are a subsequence of those read from the UART. -/
theorem receivedBodies_sublist
    (h : (machine cfg (ConnectionTask.spawn name addr port master)).Run ok log w) :
    (receivedBodies (taskLog log)).Sublist (uartBodies (deviceLog log)) := by
  have hses := ConnectionTask.sessions_of_reaches (task_of_run h).reaches
  have hcl := Device.clients_of_reaches (device_of_run h)
  have hkeyed : (((taskLog log).filterMap TaskObs.received?).map
      (Prod.map id DeviceMessage.frame)).Sublist
      ((dequeuedEntries (deviceLog log)).map (Prod.map id Entry.frame)) := by
    refine sublist_of_sorted (List.pairwise_map.mpr ?_) (List.pairwise_map.mpr ?_) fun s => ?_
    · exact hses.pairwise fun _ _ _ => TaskObs.session?_of_received?
    · exact pairwise_filterMap_of_sorted (fun _ _ _ => DevObs.session?_of_dequeued?)
        hcl.ordered.sorted
    · rw [valuesAt_map, valuesAt_map]
      exact ((received_prefix_dequeued h).2 s).sublist
  have hsub := ((hkeyed.map Prod.snd).filterMap Frame.dataBody?).trans
    (dequeuedBodies_isPrefix h).sublist
  rw [List.map_map] at hsub
  exact hsub

/-- If no session was ever lost, the bodies received are the first ones read from the UART. -/
theorem receivedBodies_isPrefix
    (h : (machine cfg (ConnectionTask.spawn name addr port master)).Run ok log w)
    (hclosed : closedCount (taskLog log) = 0) :
    receivedBodies (taskLog log) <+: uartBodies (deviceLog log) := by
  have htask := (task_of_run h).reaches
  have hses := ConnectionTask.sessions_of_reaches htask
  have hcl := Device.clients_of_reaches (device_of_run h)
  have hone := ConnectionTask.opened_le_one htask hclosed
  have hacc := (carried_of_run h).accepted
  -- both histories speak of session 0 only
  have hrecv : ∀ x ∈ (taskLog log).filterMap TaskObs.received?, x.1 = 0 := by
    intro x hx
    obtain ⟨o, ho, hos⟩ := List.mem_filterMap.mp hx
    have := hses.below x.1 (List.mem_filterMap.mpr ⟨o, ho, TaskObs.session?_of_received? hos⟩)
    omega
  have hdeq : ∀ x ∈ dequeuedEntries (deviceLog log), x.1 = 0 := by
    intro x hx
    obtain ⟨o, ho, hos⟩ := List.mem_filterMap.mp hx
    have := hcl.ordered.below x.1
      (List.mem_filterMap.mpr ⟨o, ho, DevObs.session?_of_dequeued? hos⟩)
    omega
  have hpre := ((received_prefix_dequeued h).2 0).filterMap Frame.dataBody?
  rw [receivedAt, ← map_snd_eq_valuesAt hrecv, dequeuedAt] at hpre
  rw [show (deviceLog log).filterMap DevObs.dequeued? = dequeuedEntries (deviceLog log) from rfl,
    ← map_snd_eq_valuesAt hdeq, List.map_map, List.map_map] at hpre
  have hbodies := dequeuedBodies_isPrefix h
  rw [List.map_map] at hbodies
  exact hpre.trans hbodies

/-- What becomes of the bytes of the UART. -/
structure DeviceToPty (log : List WorldObs) (w : World) : Prop where
  /-- The PTY took the bodies of a subsequence of the `Data` messages that `uart_rx_task` queued, in
  order and whole, but for a rest of the last one. The rest is still being written, or it was given
  up because a write to the PTY failed. -/
  bodies : ∃ ds rest, ds.Sublist (uartBodies (deviceLog log)) ∧
    ptyBytes (taskLog log) ++ rest = ds.flatten ∧
    (rest = [] ∨ ∃ ds' d, ds = ds' ++ [d] ∧ rest <:+ d) ∧
    (rest = [] ∨ w.task.pc = .connectedWrite rest ∨ TaskObs.ptyWriteError ∈ taskLog log)
  /-- The bodies are the bytes read from the UART, but for those not in the queue yet. -/
  uart : uartBytes (deviceLog log) = (uartBodies (deviceLog log)).flatten ++ w.device.rx.inHand
  /-- `decode` never fails. -/
  decoded : ∀ s e, TaskObs.decodeError s e ∉ taskLog log
  /-- If no session is lost, the PTY bytes are the first bytes of the UART. -/
  lossless : closedCount (taskLog log) = 0 → ptyBytes (taskLog log) <+: uartBytes (deviceLog log)

/-- **From the UART to the PTY.** -/
theorem device_to_pty
    (h : (machine cfg (ConnectionTask.spawn name addr port master)).Reaches log w) :
    DeviceToPty log w := by
  have htask := (task_of_run h).reaches
  have huart := (Device.uart_conveyed (device_of_run h)).eq_append
  obtain ⟨rest, hpty⟩ := ConnectionTask.ptyWrites_of_reaches htask
  have hbytes : ptyBytes (taskLog log) ++ rest = (receivedBodies (taskLog log)).flatten := by
    rw [hpty.bytes_eq, flatten_receivedData]
  refine ⟨⟨receivedBodies (taskLog log), rest, receivedBodies_sublist h, hbytes, ?_, ?_⟩, huart,
    (received_prefix_dequeued h).1, ?_⟩
  · -- what is still to be written is the end of the last body received
    by_cases hrest : rest = []
    · exact .inl hrest
    · right
      obtain ⟨ds, d, hds, hsuf⟩ := hpty.rest_last.resolve_left hrest
      have hd : d ≠ [] := by
        rintro rfl
        exact hrest (List.suffix_nil.mp hsuf)
      obtain ⟨ds', hds'⟩ := receivedBodies_of_last hds hd
      exact ⟨ds', d, hds', hsuf⟩
  · rcases hpty.rest_eq with heq | ⟨hmem, -⟩
    · unfold ConnectionTask.unwritten at heq
      split at heq
      · rename_i bs hpc
        exact .inr (.inl (by rw [heq, hpc]))
      · exact .inl heq
    · exact .inr (.inr hmem)
  · -- with no session lost, the bodies received are the first ones sent
    intro hclosed
    have hpre : (receivedBodies (taskLog log)).flatten
        <+: (uartBodies (deviceLog log)).flatten := by
      obtain ⟨more, hmore⟩ := receivedBodies_isPrefix h hclosed
      rw [← hmore, List.flatten_append]
      exact List.prefix_append _ _
    rw [huart]
    exact ((List.prefix_append _ _).trans (hbytes ▸ hpre)).trans (List.prefix_append _ _)

/-- Three UART bytes arrive one after the other: the second one is lost with the first session, the
others are written to the PTY. -/
theorem device_to_pty_byte_lost :
    ∃ log w, (machine ⟨true, false⟩
        (ConnectionTask.spawn "a" 0 0 (AsyncPty.new ⟨0, 0, .B9600⟩))).Reaches log w ∧
      ptyBytes (taskLog log) = [65, 67] ∧ uartBytes (deviceLog log) = [65, 66, 67] ∧
      DeviceToPty log w := by
  have hrun : (machine ⟨true, false⟩
      (ConnectionTask.spawn "a" 0 0 (AsyncPty.new ⟨0, 0, .B9600⟩))).Reaches _ _ :=
    Machine.Reaches.init.exec [.task .resume, .task .sleepElapsed, .task (.connect .ok),
      .task .resume, .device (.setup true), .device (.accept (some 0)),
      .device (.uartIn [65]), .device (.rxEvent true), .device (.rxRead 1 Block.zero),
      .device .rxSend, .device .rxWriteEfd,
      .device (.uartIn [66]), .device (.rxEvent true), .device (.rxRead 1 Block.zero),
      .device .rxSend, .device .rxWriteEfd,
      .device (.select false true Block.zero), .device .readEfd,
      .device .drain, .device .sendOk, .device .sendOk, .device .drain, .device (.sendFail 1),
      .task (.tcpRecv [1]), .task (.tcpRecv [1, 65]), .task .tcpNext, .task (.ptyWrite 1),
      .task .resume, .task (.tcpRecv [1]), .task .tcpEnd,
      .task .resume, .task .sleepElapsed, .task (.connect .ok), .task .resume,
      .device (.accept (some 1)),
      .device (.uartIn [67]), .device (.rxEvent true), .device (.rxRead 1 Block.zero),
      .device .rxSend, .device .rxWriteEfd,
      .device (.select false true Block.zero), .device .readEfd,
      .device .drain, .device .sendOk, .device .sendOk,
      .task (.tcpRecv [1, 1, 67]), .task .tcpNext, .task (.ptyWrite 1)] rfl
  exact ⟨_, _, hrun, rfl, rfl, device_to_pty hrun⟩

end World

end TcpUart
