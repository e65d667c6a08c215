import TcpUart.Link.World

/-! # From the PTY to the UART
What the application writes to the PTY, and the settings it chooses, reach `tcp_to_uart_queue` in
order and at most once, however often the connection is lost, and `uart_tx_task` reads from each
message what the daemon read from the PTY (`pty_to_device`). -/

namespace TcpUart

open Reactive Framing

/-! ## What a message asks of the UART -/

/-- What `uart_tx_task` is asked to do with the UART. -/
inductive UartRequest
  /-- `uart_write_bytes`. -/
  | write (bs : Bytes)
  /-- `apply_config`, with the baud rate in host order. -/
  | configure (baudRate : UInt32) (dataBits stopBits parity hwFlowCtl : UInt8)
  deriving DecidableEq

/-- What a config message asks for. -/
def ConfigMessage.request (config : ConfigMessage) : UartRequest :=
  .configure (ntohl config.baudRate) config.dataBits config.stopBits config.parity
    config.hwFlowCtl

/-- What `uart_tx_task` reads from a message; `none` if it drops it. -/
def Message.request? (m : Message) : Option UartRequest :=
  if m.kind = MESSAGE_KIND_DATA then some (.write (m.body.slice m.len.toNat))
  else if m.kind = MESSAGE_KIND_CONFIG then
    if m.len.toNat ≠ sizeofConfigMessage then none
    else some (ConfigMessage.ofBody m.body).request
  else none

/-- The requests an observer sees `uart_tx_task` carry out. -/
def DevObs.request? : DevObs → Option UartRequest
  | .uartWrote bs => some (.write bs)
  | .configApplied config => some config.request
  | _ => none

/-- What `uart_tx_task` does with a message is what `request?` says. -/
theorem Device.handleMessage_request (cfg : DeviceConfig) (d : Device) (e : Entry) (junk : Block)
    (fault : Bool) :
    (d.handleMessage cfg e junk fault).2.filterMap DevObs.request? = e.msg.request?.toList := by
  unfold Device.handleMessage Message.request?
  split
  · rfl
  · split
    · split
      · rfl
      · cases fault <;> rfl
    · split
      · split <;> rfl
      · rfl

/-- What a frame asks of the UART. -/
def Frame.request? (f : Frame) : Option UartRequest :=
  if f.kind = 1 then some (.write f.payload)
  else if f.kind = 2 then
    match f.payload with
    | [b₀, b₁, b₂, b₃, dataBits, stopBits, parity, hwFlowCtl] =>
        some (.configure (u32OfBytes b₀ b₁ b₂ b₃) dataBits stopBits parity hwFlowCtl)
    | _ => none
  else none

/-- The config struct laid over a body whose first bytes are known. -/
theorem ConfigMessage.request_ofBody {body : Block} {b₀ b₁ b₂ b₃ b₄ b₅ b₆ b₇ : UInt8}
    (h : body.slice 8 = [b₀, b₁, b₂, b₃, b₄, b₅, b₆, b₇]) :
    (ConfigMessage.ofBody body).request
      = .configure (u32OfBytes b₀ b₁ b₂ b₃) b₄ b₅ b₆ b₇ := by
  have hbody : body.1 = [b₀, b₁, b₂, b₃, b₄, b₅, b₆, b₇] ++ body.1.drop 8 := by
    rw [← h]
    exact (List.take_append_drop 8 body.1).symm
  simp only [ConfigMessage.request, ConfigMessage.ofBody]
  rw [hbody, ntohl_loadU32]
  rfl

/-- A list of eight. -/
theorem eq_of_length_eight {l : Bytes} (h : l.length = 8) :
    ∃ b₀ b₁ b₂ b₃ b₄ b₅ b₆ b₇, l = [b₀, b₁, b₂, b₃, b₄, b₅, b₆, b₇] := by
  match l, h with
  | [b₀, b₁, b₂, b₃, b₄, b₅, b₆, b₇], _ => exact ⟨b₀, b₁, b₂, b₃, b₄, b₅, b₆, b₇, rfl⟩

/-- What `uart_tx_task` reads from a message is what its frame says. -/
theorem Message.request?_eq (m : Message) : m.request? = m.frame.request? := by
  unfold Message.request? Frame.request?
  by_cases hdata : m.kind = MESSAGE_KIND_DATA
  · have hone : m.frame.kind = 1 := hdata
    rw [if_pos hdata, if_pos hone]
    rfl
  · have hone : m.frame.kind ≠ 1 := hdata
    rw [if_neg hdata, if_neg hone]
    by_cases hcfg : m.kind = MESSAGE_KIND_CONFIG
    · have htwo : m.frame.kind = 2 := hcfg
      rw [if_pos hcfg, if_pos htwo]
      by_cases hlen : m.len.toNat = sizeofConfigMessage
      · rw [if_neg (not_not.mpr hlen)]
        obtain ⟨b₀, b₁, b₂, b₃, b₄, b₅, b₆, b₇, hpay⟩ :=
          eq_of_length_eight (m.length_payload.trans hlen)
        have hslice : m.body.slice 8 = [b₀, b₁, b₂, b₃, b₄, b₅, b₆, b₇] := by
          rw [← hpay, Message.payload, hlen]
          rfl
        have hframe : m.frame.payload = [b₀, b₁, b₂, b₃, b₄, b₅, b₆, b₇] := hpay
        rw [hframe, ConfigMessage.request_ofBody hslice]
      · -- a body of any other length is dropped, and its frame says nothing
        rw [if_pos hlen]
        have hframe : m.frame.payload.length ≠ 8 := by
          rw [show m.frame.payload = m.payload from rfl, m.length_payload]
          exact hlen
        split
        · rename_i heq
          rw [heq] at hframe
          exact absurd rfl hframe
        · rfl
    · have htwo : m.frame.kind ≠ 2 := hcfg
      rw [if_neg hcfg, if_neg htwo]

/-- What the daemon read from the PTY, as a request to the UART. -/
def PtyRead.request : PtyRead → UartRequest
  | .data bs => .write bs
  | .termios c =>
      .configure c.baudrate c.dataBits c.stopBits c.parity (DeviceMessage.boolToU8 c.hwFlowCtl)

/-- The frame of the message built from a read asks for what was read. -/
theorem PtyRead.request?_frame {r : PtyRead} (h : r.Fits) :
    r.message.frame.request? = some r.request := by
  cases r with
  | data bs =>
      have hpay : (DeviceMessage.ofSlice bs).payload = bs := DeviceMessage.payload_ofSlice h.2
      show some (UartRequest.write (DeviceMessage.ofSlice bs).payload) = _
      rw [hpay]
      rfl
  | termios c =>
      have hpay : (PtyRead.termios c).message.frame.payload
          = [UInt8.ofNat (c.baudrate.toNat / 16777216), UInt8.ofNat (c.baudrate.toNat / 65536),
            UInt8.ofNat (c.baudrate.toNat / 256), UInt8.ofNat c.baudrate.toNat, c.dataBits,
            c.stopBits, c.parity, DeviceMessage.boolToU8 c.hwFlowCtl] := rfl
      have hkind : (PtyRead.termios c).message.frame.kind = 2 := rfl
      rw [Frame.request?, hkind, if_neg (by decide), if_pos rfl, hpay]
      simp only [u32OfBytes_putU32]
      rfl

/-! ## Delivery -/

/-- The results of `AsyncPty::read` that are forwarded, in order. -/
def ptyReads (log : List TaskObs) : List PtyRead := log.filterMap TaskObs.ptyRead?

/-- The `Data` and `Config` messages put on `tcp_to_uart_queue`, in order. -/
def enqueuedUart (log : List DevObs) : List Message :=
  ((enqueuedEntries log).map fun x => x.2.msg).filter fun m =>
    m.kind = MESSAGE_KIND_DATA || m.kind = MESSAGE_KIND_CONFIG

/-- The frames of the `Data` and `Config` messages put on the queue. -/
theorem map_frame_enqueuedUart (log : List DevObs) :
    (enqueuedUart log).map Message.frame
      = (((enqueuedEntries log).map (Prod.map id Entry.frame)).map Prod.snd).filter
          Frame.isUart := by
  rw [enqueuedUart, List.map_map, List.filter_map, List.filter_map, List.map_map]
  rfl

namespace World

/-- Whole messages enqueued in a session are the start of what was written to it. -/
theorem enqueued_prefix_wrote {cfg : DeviceConfig} {name : String} {addr : UInt32} {port : UInt16}
    {master : AsyncPty} {ok : World → WorldInput → Prop} {log : List WorldObs} {w : World}
    (h : (machine cfg (ConnectionTask.spawn name addr port master)).Run ok log w) (s : Nat) :
    stream Frame.bytes
        (valuesAt s ((enqueuedEntries (deviceLog log)).map (Prod.map id Entry.frame)))
      <+: wroteBytes s (taskLog log) := by
  have hdev := device_of_run h
  have hread : (valuesAt s (enqueuedEntries (deviceLog log))) <+: readAt s (deviceLog log) :=
    ((Device.enqueued_conveyed hdev).outp_isPrefix.filter _).map _
  rw [valuesAt_map]
  exact (stream_mono Frame.bytes (hread.map Entry.frame)).trans
    (((Device.received_of_reaches hdev).bytes s).outp_isPrefix.trans
      ((carried_of_run h).up s).outp_isPrefix)

/-- **From the PTY to the device.** The `Data` and `Config` messages put on `tcp_to_uart_queue` are
a subsequence of the messages built from what was read from the PTY, and the first of them if no
session was ever lost. Each is the message that was built, on the wire, and asks of the UART what
was read: the data, or the settings with the baud rate in host order. -/
theorem pty_to_device {cfg : DeviceConfig} {name : String} {addr : UInt32} {port : UInt16}
    {master : AsyncPty} {log : List WorldObs} {w : World}
    (h : (machine cfg (ConnectionTask.spawn name addr port master)).Reaches log w) :
    ((enqueuedUart (deviceLog log)).map fun m => (m.frame, m.request?)).Sublist
        ((ptyReads (taskLog log)).map fun r => (r.message.frame, some r.request)) ∧
      (closedCount (taskLog log) = 0 →
        ((enqueuedUart (deviceLog log)).map fun m => (m.frame, m.request?))
          <+: (ptyReads (taskLog log)).map fun r => (r.message.frame, some r.request)) := by
  have htask := task_of_run h
  have hdev := device_of_run h
  -- what is asked of the UART is a function of the frames
  have henq : ((enqueuedUart (deviceLog log)).map fun m => (m.frame, m.request?))
      = ((enqueuedUart (deviceLog log)).map Message.frame).map fun f => (f, f.request?) := by
    rw [List.map_map]
    apply List.map_congr_left
    intro m _
    rw [m.request?_eq]
    rfl
  have hreads : ((ptyReads (taskLog log)).map fun r => (r.message.frame, some r.request))
      = ((readMessages (taskLog log)).map DeviceMessage.frame).map fun f => (f, f.request?) := by
    rw [readMessages, List.map_map, List.map_map]
    apply List.map_congr_left
    intro r hr
    obtain ⟨o, ho, hor⟩ := List.mem_filterMap.mp hr
    have hmem : TaskObs.ptyRead r ∈ taskLog log := by
      cases o <;> cases hor
      exact ho
    have hfit := ConnectionTask.fits_of_reaches htask.reaches r hmem
    rw [← PtyRead.request?_frame hfit]
    rfl
  rw [henq, hreads, map_frame_enqueuedUart]
  have hsorted : ((enqueuedEntries (deviceLog log)).map (Prod.map id Entry.frame)).Pairwise
      fun a b => a.1 ≤ b.1 := by
    refine List.pairwise_map.mpr ?_
    exact pairwise_filterMap_of_sorted (fun _ _ _ => DevObs.session?_of_enqueued?)
      (Device.clients_of_reaches hdev).ordered.sorted
  constructor
  · exact (ConnectionTask.delivered_sublist htask hsorted (enqueued_prefix_wrote h)).map _
  · intro hclosed
    exact (ConnectionTask.delivered_prefix htask hclosed (enqueued_prefix_wrote h)).map _

/-- A message that arrives in the first session; and one whose first sending fails after three
bytes, which is sent again in the next session and reaches the queue once. -/
theorem pty_to_device_sent_again :
    (∃ log w, (machine ⟨true, false⟩
        (ConnectionTask.spawn "a" 0 0 (AsyncPty.new ⟨0, 0, .B9600⟩))).Reaches log w ∧
      closedCount (taskLog log) = 0 ∧ (enqueuedUart (deviceLog log)).length = 1 ∧
      ((enqueuedUart (deviceLog log)).map fun m => (m.frame, m.request?))
        <+: (ptyReads (taskLog log)).map fun r => (r.message.frame, some r.request)) ∧
    ∃ log w, (machine ⟨true, false⟩
        (ConnectionTask.spawn "a" 0 0 (AsyncPty.new ⟨0, 0, .B9600⟩))).Reaches log w ∧
      closedCount (taskLog log) = 1 ∧ (enqueuedUart (deviceLog log)).length = 1 ∧
      ((enqueuedUart (deviceLog log)).map fun m => (m.frame, m.request?)).Sublist
        ((ptyReads (taskLog log)).map fun r => (r.message.frame, some r.request)) := by
  have hrun : (machine ⟨true, false⟩
      (ConnectionTask.spawn "a" 0 0 (AsyncPty.new ⟨0, 0, .B9600⟩))).Reaches _ _ :=
    Machine.Reaches.init.exec [.task .resume, .task .sleepElapsed, .task (.connect .ok),
      .task .resume, .task (.ptyReadv (.packet 0 [104, 105]) none), .task (.tcpWrite 4),
      .device (.setup true), .device (.accept (some 0)),
      .device (.select true false Block.zero), .device (.recv [1, 2]), .device (.recv [104]),
      .device (.recv [105]), .device .tcpEnqueue] rfl
  have hlost : (machine ⟨true, false⟩
      (ConnectionTask.spawn "a" 0 0 (AsyncPty.new ⟨0, 0, .B9600⟩))).Reaches _ _ :=
    Machine.Reaches.init.exec [.task .resume, .task .sleepElapsed, .task (.connect .ok),
      .task .resume, .task (.ptyReadv (.packet 0 [104, 105]) none), .task (.tcpWrite 3),
      .device (.setup true), .device (.accept (some 0)),
      .device (.select true false Block.zero), .device (.recv [1, 2]), .device (.recv [104]),
      .device .recvFail, .task .tcpSendErr,
      .task .resume, .task .sleepElapsed, .task (.connect .ok), .task .resume,
      .task (.tcpWrite 4), .task .tcpSent,
      .device (.accept (some 1)), .device (.select true false Block.zero),
      .device (.recv [1, 2]), .device (.recv [104, 105]), .device .tcpEnqueue] rfl
  exact ⟨⟨_, _, hrun, rfl, rfl, (pty_to_device hrun).2 rfl⟩,
    ⟨_, _, hlost, rfl, rfl, (pty_to_device hlost).1⟩⟩

end World

end TcpUart
