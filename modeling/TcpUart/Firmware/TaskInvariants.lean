import TcpUart.Firmware.DeviceStep

/-! # How the firmware's tasks wait for each other
Three questions about the tasks and what they share, each answered for every interleaving:

* Can `tcp_task` and `uart_tx_task` wait for each other for ever? They can
  (`circular_wait_reached`), and only through a message that is read while `tcp_to_uart_queue` is
  full and a control request is being answered (`no_circular_wait`).
* Can `tcp_task` miss a wake-up? It can (`wake_up_lost`), and only when a send fails and leaves
  entries in `uart_to_tcp_queue` behind (`no_lost_wake_up`).
* Is every client socket closed? Exactly when no session ended in one of the two `break`s
  (`sockets_closed_iff`). -/

namespace TcpUart

open Reactive Framing

/-! ## Circular wait -/

/-- `uart_tx_task` has taken a control request and not yet put the response on its queue. -/
def TxPc.answering : TxPc → Bool
  | .handle e => e.msg.kind = MESSAGE_KIND_CONTROL ∧ e.msg.len.toNat = sizeofControlMessage
  | .pulse _ _ => true
  | .sendResp _ => true
  | _ => false

/-- `tcp_task` is in `xQueueSend` on `tcp_to_uart_queue`. -/
def TcpPc.enqueuing : TcpPc → Bool
  | .enqueue _ _ => true
  | _ => false

/-- `uart_tx_task` is in the `xQueueSend` of `handle_control`. -/
def TxPc.responding : TxPc → Bool
  | .sendResp _ => true
  | _ => false

namespace Device

/-- `tcp_task` and `uart_tx_task` wait for room in the queue that the other one empties. -/
def CircularWait (d : Device) : Prop :=
  d.tcp.enqueuing ∧ d.tcpToUart.items.length = 16 ∧
    d.tx.responding ∧ d.uartToTcp.items.length = 128

/-- The bytes read so far and what `recv` returns now are a whole message. -/
def CompletesMessage (d : Device) : DevInput → Prop
  | .recv bs => ∃ efd got, d.tcp.reading = some (efd, got) ∧ ∃ f : Frame, f.bytes = got ++ bs
  | _ => False

/-- No message is completed while `tcp_to_uart_queue` is full and `uart_tx_task` is answering. -/
def NoReadIntoFull (d : Device) (i : DevInput) : Prop :=
  d.CompletesMessage i → ¬ (d.tcpToUart.items.length = 16 ∧ d.tx.answering)

/-- While `uart_tx_task` is answering, `tcp_task` never waits on a full queue. -/
def RoomToEnqueue (d : Device) : Prop :=
  d.tcp.enqueuing → d.tx.answering → d.tcpToUart.items.length < 16

/-- Steps that touch neither the two tasks nor their queue keep the room. -/
theorem RoomToEnqueue.of_eq {d d' : Device} (h : RoomToEnqueue d)
    (htcp : d'.tcp.enqueuing → d.tcp.enqueuing) (htx : d'.tx.answering → d.tx.answering)
    (hq : d'.tcpToUart = d.tcpToUart) : RoomToEnqueue d' := by
  intro h1 h2
  rw [hq]
  exact h (htcp h1) (htx h2)

/-- At boot nothing is enqueued. -/
theorem RoomToEnqueue.init : RoomToEnqueue Device.init := by
  intro h
  cases h

/-- **Every step keeps the room**, unless it reads a message into a full queue. -/
theorem RoomToEnqueue.step {cfg : DeviceConfig} {d d' : Device} {i : DevInput} {out : List DevObs}
    (hroom : RoomToEnqueue d) (hok : NoReadIntoFull d i) (h : Step cfg d i d' out) :
    RoomToEnqueue d' := by
  cases h with
  | setup ok => exact hroom.of_eq (by cases ok <;> nofun) id rfl
  | acceptFail => exact hroom
  | accept => exact hroom.of_eq nofun id rfl
  | selectFail => exact hroom.of_eq nofun id rfl
  | selectClient => exact hroom.of_eq nofun id rfl
  | selectEfd => exact hroom.of_eq nofun id rfl
  | @recvMore efd got bs pc hr hbs hr' =>
      refine hroom.of_eq (fun h => ?_) id rfl
      -- a task that is still reading is not enqueuing
      cases pc with
      | enqueue => cases hr'
      | _ => cases h
  | @recvDone efd got bs m hr hm =>
      intro _ hans
      have hle := d.tcpToUart.length_le
      have hfull : d.tcpToUart.items.length ≠ 16 := fun hfull =>
        hok ⟨efd, got, hr, m.frame, hm⟩ ⟨hfull, hans⟩
      show d.tcpToUart.items.length < 16
      simp only [tcpToUartDepth] at hle
      omega
  | recvFail => exact hroom.of_eq nofun id rfl
  | @enqueue efd e q hpc hq =>
      intro h
      cases efd <;> cases h
  | readEfd => exact hroom.of_eq nofun id rfl
  | drainEmpty => exact hroom.of_eq nofun id rfl
  | drainTake => exact hroom.of_eq nofun id rfl
  | sendHdr => exact hroom.of_eq nofun id rfl
  | sendBody => exact hroom.of_eq nofun id rfl
  | sendFail => exact hroom.of_eq nofun id rfl
  | uartIn => exact hroom.of_eq id id rfl
  | rxEvent => exact hroom.of_eq id id rfl
  | rxRead => exact hroom.of_eq id id rfl
  | rxReadNone => exact hroom.of_eq id id rfl
  | rxSend => exact hroom.of_eq id id rfl
  | rxWriteEfd => exact hroom.of_eq id id rfl
  | @txRecv e q hpc hq =>
      -- a message was taken, so there is room
      intro _ _
      have hle := d.tcpToUart.length_le
      rw [BoundedQueue.items_of_pop hq, List.length_cons] at hle
      exact hle
  | txData => exact hroom.of_eq id nofun rfl
  | @txConfig e junk settings aborted tx fault hpc hk hlen hres =>
      refine hroom.of_eq id (fun h => ?_) rfl
      rcases hres with ⟨-, -, rfl, -⟩ | ⟨-, -, rfl, -⟩
      · exact h
      · cases h
  | txSkip => exact hroom.of_eq id nofun rfl
  | txPulse hpc hk hlen =>
      refine hroom.of_eq id (fun _ => ?_) rfl
      rw [hpc]
      simp [TxPc.answering, hk, hlen]
  | txDecline hpc hk hlen =>
      refine hroom.of_eq id (fun _ => ?_) rfl
      rw [hpc]
      simp [TxPc.answering, hk, hlen]
  | txPulseEnd hpc =>
      refine hroom.of_eq id (fun _ => ?_) rfl
      rw [hpc]
      rfl
  | txSend => exact hroom.of_eq id nofun rfl
  | txWriteEfd => exact hroom.of_eq id nofun rfl

/-- **No circular wait**, in every run in which no message is read while `tcp_to_uart_queue` is full
and a control request is being answered. -/
theorem no_circular_wait {cfg : DeviceConfig} {log : List DevObs} {d : Device}
    (h : (machine cfg).Run NoReadIntoFull log d) : ¬ CircularWait d := by
  have hroom : RoomToEnqueue d := by
    refine h.invariant (P := fun _ d => RoomToEnqueue d) RoomToEnqueue.init ?_
    intro _ d i d' out _ hroom hok hstep
    exact hroom.step hok (step_cases hstep)
  rintro ⟨htcp, hfull, htx, -⟩
  have hans : d.tx.answering := by
    cases hpc : d.tx with
    | sendResp => rfl
    | _ =>
        rw [hpc] at htx
        cases htx
  have := hroom htcp hans
  omega

/-- A reset is being answered while the queue has room: nobody waits in a circle. -/
theorem no_circular_wait_while_answering :
    ∃ log d, (machine ⟨true, false⟩).Run NoReadIntoFull log d ∧ d.tx.responding ∧
      d.tcp.enqueuing ∧ ¬ CircularWait d := by
  have hrun : ((machine ⟨true, false⟩).restrict fun d _ => d.tcpToUart.items.length != 16).Reaches
      _ _ :=
    Machine.Reaches.init.exec [.setup true, .accept (some 0), .select true false Block.zero,
      .recv [3, 1], .recv [1], .tcpEnqueue, .txRecv, .txHandle Block.zero false, .txPulseEnd,
      .select true false Block.zero, .recv [1, 0]] rfl
  have hrun' := hrun.of_restrict NoReadIntoFull fun d i hcheck _ hfull => by
    simp [hfull.1] at hcheck
  exact ⟨_, _, hrun', rfl, rfl, no_circular_wait hrun'⟩

/-- A circular wait is never left. -/
theorem CircularWait.step {cfg : DeviceConfig} {d d' : Device} {i : DevInput} {out : List DevObs}
    (hw : CircularWait d) (h : Step cfg d i d' out) : CircularWait d' := by
  obtain ⟨htcp, hfull, htx, hfull'⟩ := hw
  -- neither task is anywhere else, and neither queue has room
  have hpc : ∀ {pc : TcpPc}, d.tcp = pc → pc.enqueuing := fun h => h ▸ htcp
  have hpx : ∀ {pc : TxPc}, d.tx = pc → pc.responding := fun h => h ▸ htx
  have hno : d.tcp.reading = none := by
    cases hp : d.tcp with
    | enqueue => rfl
    | _ => cases hpc hp
  have hno' : d.tcp.sending = none := by
    cases hp : d.tcp with
    | enqueue => rfl
    | _ => cases hpc hp
  cases h with
  | setup _ h => cases hpc h
  | acceptFail h => cases hpc h
  | accept h => cases hpc h
  | selectFail h => cases hpc h
  | selectClient h => cases hpc h
  | selectEfd h => cases hpc h
  | recvMore hr => rw [hno] at hr; cases hr
  | recvDone hr => rw [hno] at hr; cases hr
  | recvFail hr => exact absurd hno hr
  | enqueue _ hq =>
      have := (BoundedQueue.items_of_push hq).2
      simp only [tcpToUartDepth] at this
      omega
  | readEfd h => cases hpc h
  | drainEmpty h => cases hpc h
  | drainTake h => cases hpc h
  | sendHdr h => cases hpc h
  | sendBody h => cases hpc h
  | sendFail h => rw [hno'] at h; cases h
  | uartIn => exact ⟨htcp, hfull, htx, hfull'⟩
  | rxEvent => exact ⟨htcp, hfull, htx, hfull'⟩
  | rxRead => exact ⟨htcp, hfull, htx, hfull'⟩
  | rxReadNone => exact ⟨htcp, hfull, htx, hfull'⟩
  | rxSend _ hq =>
      have := (BoundedQueue.items_of_push hq).2
      simp only [uartToTcpDepth] at this
      omega
  | rxWriteEfd => exact ⟨htcp, hfull, htx, hfull'⟩
  | txRecv h => cases hpx h
  | txData h => cases hpx h
  | txConfig h => cases hpx h
  | txSkip h => cases hpx h
  | txPulse h => cases hpx h
  | txDecline h => cases hpx h
  | txPulseEnd h => cases hpx h
  | txSend _ hq =>
      have := (BoundedQueue.items_of_push hq).2
      simp only [uartToTcpDepth] at this
      omega
  | txWriteEfd h => cases hpx h

/-- `uart_rx_task` waits for an event, and nothing is buffered. -/
def RxIdle (d : Device) : Prop := d.rx = .waitEvent ∧ d.ring = [] ∧ d.aborted = false

/-- `xQueueSend` of `uart_rx_task` returns when there is room. -/
theorem step_rxSend {cfg : DeviceConfig} {d : Device} {m : Message}
    {q : BoundedQueue Entry uartToTcpDepth} (hab : d.aborted = false) (hpc : d.rx = .sendQ m)
    (hq : d.uartToTcp.push ⟨m, none⟩ = some q) :
    (machine cfg).step d .rxSend
      = some ({ d with uartToTcp := q, rx := .writeEfd }, [.rxEnqueued m]) := by
  simp [machine, step, stepTcp, stepRx, hab, hpc, hq]

/-- A byte at the UART becomes an entry of `uart_to_tcp_queue`, if there is room. -/
theorem reaches_rx_byte {cfg : DeviceConfig} {log : List DevObs} {d : Device}
    (h : (machine cfg).Reaches log d) (hidle : RxIdle d) (hroom : d.uartToTcp.items.length < 128) :
    ∃ log' d', (machine cfg).Reaches log' d' ∧ RxIdle d' ∧ d'.tcp = d.tcp ∧ d'.tx = d.tx ∧
      d'.tcpToUart = d.tcpToUart ∧
      d'.uartToTcp.items.length = d.uartToTcp.items.length + 1 := by
  obtain ⟨hrx, hring, hab⟩ := hidle
  obtain ⟨q, hq, hitems⟩ := BoundedQueue.exists_push hroom
    ⟨⟨MESSAGE_KIND_DATA, UInt8.ofNat 1, Block.zero.write [0]⟩, none⟩
  obtain ⟨q₁, q₂, efd, ring, settings, tcp, sock, next, count, rx, tx, aborted⟩ := d
  simp only at hrx hring hab hq hitems hroom
  subst hrx hring hab
  -- the byte arrives, an event tells, it is read, and the message goes to the queue
  have h₁ := h.step (i := .uartIn [0]) rfl
  have h₂ := h₁.step (i := .rxEvent true) rfl
  have h₃ := h₂.step (i := .rxRead 1 Block.zero) rfl
  have h₄ := h₃.step (step_rxSend rfl rfl hq)
  have h₅ := h₄.step (i := .rxWriteEfd) rfl
  refine ⟨_, _, h₅, ⟨rfl, rfl, rfl⟩, rfl, rfl, rfl, ?_⟩
  show q.items.length = q₂.items.length + 1
  rw [hitems, List.length_append]
  rfl

/-- While `tcp_task` does not drain it, UART bytes fill `uart_to_tcp_queue`. -/
theorem reaches_rx_fill {cfg : DeviceConfig} (n : Nat) {log : List DevObs} {d : Device}
    (h : (machine cfg).Reaches log d) (hidle : RxIdle d)
    (hroom : d.uartToTcp.items.length + n = 128) :
    ∃ log' d', (machine cfg).Reaches log' d' ∧ d'.tcp = d.tcp ∧ d'.tx = d.tx ∧
      d'.tcpToUart = d.tcpToUart ∧ d'.uartToTcp.items.length = 128 := by
  induction n generalizing log d with
  | zero => exact ⟨log, d, h, rfl, rfl, rfl, hroom⟩
  | succ n ih =>
      obtain ⟨log', d', h', hidle', htcp, htx, hq, hlen⟩ :=
        reaches_rx_byte h hidle (by omega)
      obtain ⟨log'', d'', h'', htcp', htx', hq', hlen'⟩ := ih h' hidle' (by omega)
      exact ⟨log'', d'', h'', htcp'.trans htcp, htx'.trans htx, hq'.trans hq, hlen'⟩

/-- The client sends an empty `Data` message, and `tcp_task` gets as far as its `xQueueSend`. -/
def emptyMessage : List DevInput := [.select true false Block.zero, .recv [1, 0]]

/-- A run to a control request being answered with `tcp_to_uart_queue` full and one message more
read: a reset, sixteen empty messages while its pulse runs, and a seventeenth. -/
def fullWhileAnswering : List DevInput :=
  [.setup true, .accept (some 0), .select true false Block.zero, .recv [3, 1], .recv [1],
    .tcpEnqueue, .txRecv, .txHandle Block.zero false] ++
  (List.replicate 16 (emptyMessage ++ [.tcpEnqueue])).flatten ++ emptyMessage ++ [.txPulseEnd]

/-- **A circular wait is reached**: while a reset is carried out the client sends seventeen more
messages, and the UART receives 128 bytes one at a time. -/
theorem circular_wait_reached :
    ∃ log d, (machine ⟨true, false⟩).Reaches log d ∧ CircularWait d := by
  obtain ⟨log, d, h, hp⟩ := Machine.exists_reaches_of_exec (M := machine ⟨true, false⟩)
    fullWhileAnswering
    (p := fun _ d => d.tcp.enqueuing && d.tcpToUart.items.length == 16 && d.tx.responding &&
      d.uartToTcp.items.length == 0 && d.rx == .waitEvent && d.ring == [] && !d.aborted)
    (by decide +kernel)
  simp only [Bool.and_eq_true, beq_iff_eq, Bool.not_eq_true'] at hp
  obtain ⟨⟨⟨⟨⟨⟨htcp, hfull⟩, htx⟩, hempty⟩, hrx⟩, hring⟩, hab⟩ := hp
  obtain ⟨log', d', h', htcp', htx', hq', hlen'⟩ :=
    reaches_rx_fill 128 h ⟨hrx, hring, hab⟩ (by omega)
  exact ⟨log', d', h', by rw [htcp', htcp], by rw [hq', hfull], by rw [htx', htx], hlen'⟩

/-! ## Wake-ups -/

/-- A producer has put an entry on `uart_to_tcp_queue` and not yet written the eventfd. -/
def ProducerPending (d : Device) : Prop := d.rx = .writeEfd ∨ d.tx = .writeEfd

/-- Entries in `uart_to_tcp_queue` are announced, or about to be. -/
def Announced (d : Device) : Prop :=
  d.uartToTcp.items ≠ [] → 0 < d.efd ∨ d.ProducerPending

end Device

/-- `tcp_task` has read the eventfd and is emptying `uart_to_tcp_queue`. -/
def TcpPc.draining : TcpPc → Bool
  | .drain | .sendHdr _ | .sendBody _ => true
  | _ => false

/-- A task that reads a message is not emptying the queue. -/
theorem TcpPc.draining_of_reading {pc : TcpPc} (h : pc.reading ≠ none) : pc.draining = false := by
  cases pc with
  | readHdr => rfl
  | readBody => rfl
  | _ => exact absurd rfl h

namespace Device

/-- No send fails while entries are left that nobody announces. -/
def NoSendFailsWithRest (d : Device) (i : DevInput) : Prop :=
  (∃ n, i = .sendFail n) → d.Announced

/-- Outside of the drain loop, entries are announced. -/
def Awake (d : Device) : Prop := d.tcp.draining ∨ d.Announced

/-- Steps that keep the queue, the counter and the producers keep entries announced. -/
theorem Awake.of_eq {d d' : Device} (h : Awake d) (htcp : d.tcp.draining → d'.tcp.draining)
    (hq : d'.uartToTcp = d.uartToTcp) (hefd : d'.efd = d.efd) (hrx : d.rx = .writeEfd →
      d'.rx = .writeEfd) (htx : d.tx = .writeEfd → d'.tx = .writeEfd) : Awake d' := by
  rcases h with h | h
  · exact .inl (htcp h)
  · refine .inr fun hne => ?_
    rw [hq] at hne
    rw [hefd]
    exact (h hne).imp id (Or.imp hrx htx)

/-- **Every step keeps entries announced**, unless a send fails and leaves some behind. -/
theorem Awake.step {cfg : DeviceConfig} {d d' : Device} {i : DevInput} {out : List DevObs}
    (hawake : Awake d) (hok : NoSendFailsWithRest d i) (h : Step cfg d i d' out) : Awake d' := by
  -- a task that is elsewhere is not draining
  have hno : ∀ {pc : TcpPc}, d.tcp = pc → pc.draining = false → ∀ {pc' : TcpPc},
      d.tcp.draining → pc'.draining := by
    intro pc hpc hdr pc' h
    rw [hpc, hdr] at h
    cases h
  have hrx : ∀ {pc : RxPc}, d.rx = pc → pc ≠ .writeEfd → ∀ {pc' : RxPc}, d.rx = .writeEfd →
      pc' = .writeEfd := fun hpc hne _ h => absurd (hpc.symm.trans h) hne
  have htx : ∀ {pc : TxPc}, d.tx = pc → pc ≠ .writeEfd → ∀ {pc' : TxPc}, d.tx = .writeEfd →
      pc' = .writeEfd := fun hpc hne _ h => absurd (hpc.symm.trans h) hne
  cases h with
  | setup ok hpc => exact hawake.of_eq (hno hpc rfl) rfl rfl id id
  | acceptFail => exact hawake
  | accept hpc => exact hawake.of_eq (hno hpc rfl) rfl rfl id id
  | selectFail hpc => exact hawake.of_eq (hno hpc rfl) rfl rfl id id
  | selectClient hpc => exact hawake.of_eq (hno hpc rfl) rfl rfl id id
  | selectEfd hpc => exact hawake.of_eq (hno hpc rfl) rfl rfl id id
  | recvMore hr =>
      have hdr := TcpPc.draining_of_reading (by rw [hr]; exact Option.some_ne_none _)
      exact hawake.of_eq (hno rfl hdr) rfl rfl id id
  | recvDone hr =>
      have hdr := TcpPc.draining_of_reading (by rw [hr]; exact Option.some_ne_none _)
      exact hawake.of_eq (hno rfl hdr) rfl rfl id id
  | recvFail hr =>
      exact hawake.of_eq (hno rfl (TcpPc.draining_of_reading hr)) rfl rfl id id
  | enqueue hpc => exact hawake.of_eq (hno hpc rfl) rfl rfl id id
  | readEfd => exact .inl rfl
  | drainEmpty _ hq => exact .inr fun hne => absurd (BoundedQueue.items_of_pop_none hq) hne
  | drainTake => exact .inl rfl
  | sendHdr => exact .inl rfl
  | sendBody => exact .inl rfl
  | sendFail =>
      -- the only way out of the drain loop with entries left
      exact .inr (hok ⟨_, rfl⟩)
  | uartIn => exact hawake.of_eq id rfl rfl id id
  | rxEvent hpc => exact hawake.of_eq id rfl rfl (hrx hpc nofun) id
  | rxRead hpc => exact hawake.of_eq id rfl rfl (hrx hpc nofun) id
  | rxReadNone hpc => exact hawake.of_eq id rfl rfl (hrx hpc nofun) id
  | rxSend => exact .inr fun _ => .inr (.inl rfl)
  | rxWriteEfd => exact .inr fun _ => .inl (Nat.succ_pos _)
  | txRecv hpc => exact hawake.of_eq id rfl rfl id (htx hpc nofun)
  | txData hpc => exact hawake.of_eq id rfl rfl id (htx hpc nofun)
  | txConfig hpc => exact hawake.of_eq id rfl rfl id (htx hpc nofun)
  | txSkip hpc => exact hawake.of_eq id rfl rfl id (htx hpc nofun)
  | txPulse hpc => exact hawake.of_eq id rfl rfl id (htx hpc nofun)
  | txDecline hpc => exact hawake.of_eq id rfl rfl id (htx hpc nofun)
  | txPulseEnd hpc => exact hawake.of_eq id rfl rfl id (htx hpc nofun)
  | txSend => exact .inr fun _ => .inr (.inr rfl)
  | txWriteEfd => exact .inr fun _ => .inl (Nat.succ_pos _)

/-- **No lost wake-up**, in every run in which no send fails while entries are left that nobody
announces: at `select`, entries in `uart_to_tcp_queue` are announced by a positive counter, or a
producer is about to write it. -/
theorem no_lost_wake_up {cfg : DeviceConfig} {log : List DevObs} {d : Device}
    (h : (machine cfg).Run NoSendFailsWithRest log d) (hselect : d.tcp = .select)
    (hne : d.uartToTcp.items ≠ []) : 0 < d.efd ∨ d.rx = .writeEfd ∨ d.tx = .writeEfd := by
  have hawake : Awake d := by
    refine h.invariant (P := fun _ d => Awake d) (.inr fun h => absurd rfl h) ?_
    intro _ d i d' out _ hawake hok hstep
    exact hawake.step hok (step_cases hstep)
  rcases hawake with hdrain | hann
  · rw [hselect] at hdrain
    cases hdrain
  · exact hann hne

/-- A UART byte is announced to a client that is being waited for. -/
theorem no_lost_wake_up_uart_byte :
    ∃ log d, (machine ⟨true, false⟩).Run NoSendFailsWithRest log d ∧ d.tcp = .select ∧
      d.uartToTcp.items ≠ [] ∧ (0 < d.efd ∨ d.rx = .writeEfd ∨ d.tx = .writeEfd) := by
  have hrun : ((machine ⟨true, false⟩).restrict fun d _ => d.uartToTcp.items.isEmpty).Reaches
      _ _ :=
    Machine.Reaches.init.exec [.setup true, .accept (some 0), .uartIn [65], .rxEvent true,
      .rxRead 1 Block.zero, .rxSend] rfl
  have hrun' := hrun.of_restrict NoSendFailsWithRest fun d i hcheck _ hne =>
    absurd (List.isEmpty_iff.mp hcheck) hne
  exact ⟨_, _, hrun', rfl, List.cons_ne_nil _ _,
    no_lost_wake_up hrun' rfl (List.cons_ne_nil _ _)⟩

/-- **A wake-up is lost**: two UART bytes are queued, sending the first one fails, and the next
client waits in `select` with the second one in the queue, the counter at 0 and nobody about to
write it. -/
theorem wake_up_lost :
    ∃ log d, (machine ⟨true, false⟩).Reaches log d ∧ d.tcp = .select ∧
      d.uartToTcp.items ≠ [] ∧ d.efd = 0 ∧ d.rx ≠ .writeEfd ∧ d.tx ≠ .writeEfd := by
  have hrun : (machine ⟨true, false⟩).Reaches _ _ :=
    Machine.Reaches.init.exec [.setup true, .accept (some 0),
      .uartIn [65], .rxEvent true, .rxRead 1 Block.zero, .rxSend, .rxWriteEfd,
      .uartIn [66], .rxEvent true, .rxRead 1 Block.zero, .rxSend, .rxWriteEfd,
      .select false true Block.zero, .readEfd, .drain, .sendFail 0, .accept (some 1)] rfl
  exact ⟨_, _, hrun, rfl, List.cons_ne_nil _ _, rfl, nofun, nofun⟩

/-! ## Client sockets -/

end Device

/-- `tcp_task` is in `handle_client`. -/
def TcpPc.inSession : TcpPc → Bool
  | .setup | .deleted | .accept => false
  | _ => true

/-- A task that reads is in `handle_client`. -/
theorem TcpPc.inSession_of_reading {pc : TcpPc} (h : pc.reading ≠ none) : pc.inSession = true := by
  cases pc with
  | readHdr => rfl
  | readBody => rfl
  | _ => exact absurd rfl h

/-- A task that sends is in `handle_client`. -/
theorem TcpPc.inSession_of_sending {pc : TcpPc} (h : pc.sending ≠ none) : pc.inSession = true := by
  cases pc with
  | sendHdr => rfl
  | sendBody => rfl
  | _ => exact absurd rfl h

/-- How the session `s` ended, in the history. -/
def endsOf (s : Nat) (log : List DevObs) : List EndReason :=
  log.filterMap fun o =>
    match o with
    | .ended s' why => if s' = s then some why else none
    | _ => none

/-- Observations that say nothing about sockets. -/
def DevObs.sockSilent : DevObs → Bool
  | .accepted _ | .closed _ | .ended _ _ => false
  | _ => true

@[simp] theorem endsOf_append (s : Nat) (log out : List DevObs) :
    endsOf s (log ++ out) = endsOf s log ++ endsOf s out := List.filterMap_append

/-- Silent observations leave the sockets alone. -/
theorem of_sockSilent {out : List DevObs} (h : out.all DevObs.sockSilent) (s : Nat) :
    DevObs.accepted s ∉ out ∧ out.count (.closed s) = 0 ∧ endsOf s out = [] := by
  rw [List.all_eq_true] at h
  refine ⟨fun hmem => ?_, List.count_eq_zero.mpr fun hmem => ?_, ?_⟩
  · exact absurd (h _ hmem) Bool.false_ne_true
  · exact absurd (h _ hmem) Bool.false_ne_true
  · rw [endsOf, List.filterMap_eq_nil_iff]
    intro o ho
    cases o with
    | ended => exact absurd (h _ ho) Bool.false_ne_true
    | _ => rfl

namespace Device

/-- What a step does to the client sockets. -/
inductive SockEffect (d d' : Device) (out : List DevObs) : Prop
  /-- Nothing. -/
  | silent (hq : out.all DevObs.sockSilent) (hin : d'.tcp.inSession = d.tcp.inSession)
      (hs : d'.sock = d.sock) (hn : d'.nextSock = d.nextSock)
  /-- A client is accepted. -/
  | accept {s : Nat} (hout : out = [.accepted s]) (hin : d.tcp.inSession = false)
      (hin' : d'.tcp.inSession = true) (hle : d.nextSock ≤ s) (hs : d'.sock = s)
      (hn : d'.nextSock = s + 1)
  /-- A session ends in a `break`. -/
  | leave {why : EndReason} (hwhy : why ≠ .sendFailed) (hout : out = [.ended d.sock why])
      (hin : d.tcp.inSession = true) (hin' : d'.tcp.inSession = false)
      (hn : d'.nextSock = d.nextSock)
  /-- A session ends after a failed send, with its socket closed. -/
  | close {bs : Bytes} (hout : out = [.sent d.sock bs, .closed d.sock, .ended d.sock .sendFailed])
      (hin : d.tcp.inSession = true) (hin' : d'.tcp.inSession = false)
      (hn : d'.nextSock = d.nextSock)

/-- Every step has one of these effects. -/
theorem Step.sockEffect {cfg : DeviceConfig} {d d' : Device} {i : DevInput} {out : List DevObs}
    (h : Step cfg d i d' out) : SockEffect d d' out := by
  have hselect : EndReason.selectFailed ≠ .sendFailed := nofun
  have hrecv : EndReason.recvFailed ≠ .sendFailed := nofun
  cases h with
  | setup ok hpc => exact .silent rfl (by rw [hpc]; cases ok <;> rfl) rfl rfl
  | accept hpc hs => exact .accept rfl (by rw [hpc]; rfl) rfl hs rfl rfl
  | selectFail hpc => exact .leave hselect rfl (by rw [hpc]; rfl) rfl rfl
  | selectClient hpc => exact .silent rfl (by rw [hpc]; rfl) rfl rfl
  | selectEfd hpc => exact .silent rfl (by rw [hpc]; rfl) rfl rfl
  | recvMore hr hbs hr' =>
      refine .silent rfl ?_ rfl rfl
      have hin : d.tcp.inSession = true :=
        TcpPc.inSession_of_reading (by rw [hr]; exact Option.some_ne_none _)
      rw [hin]
      exact TcpPc.inSession_of_reading (by rw [hr']; exact Option.some_ne_none _)
  | recvDone hr =>
      refine .silent rfl ?_ rfl rfl
      have hin : d.tcp.inSession = true :=
        TcpPc.inSession_of_reading (by rw [hr]; exact Option.some_ne_none _)
      rw [hin]
      rfl
  | recvFail hr => exact .leave hrecv rfl (TcpPc.inSession_of_reading hr) rfl rfl
  | @enqueue efd e q hpc hq => exact .silent rfl (by rw [hpc]; cases efd <;> rfl) rfl rfl
  | readEfd hpc => exact .silent rfl (by rw [hpc]; rfl) rfl rfl
  | drainEmpty hpc => exact .silent rfl (by rw [hpc]; rfl) rfl rfl
  | drainTake hpc => exact .silent rfl (by rw [hpc]; rfl) rfl rfl
  | sendHdr hpc => exact .silent rfl (by rw [hpc]; rfl) rfl rfl
  | sendBody hpc => exact .silent rfl (by rw [hpc]; rfl) rfl rfl
  | sendFail hpc =>
      exact .close rfl (TcpPc.inSession_of_sending (by rw [hpc]; exact Option.some_ne_none _)) rfl
        rfl
  | _ => exact .silent rfl rfl rfl rfl

/-- What the history says about the client sockets. -/
structure Sockets (log : List DevObs) (d : Device) : Prop where
  /-- Only sockets below `nextSock` were accepted. -/
  below : ∀ s, .accepted s ∈ log → s < d.nextSock
  /-- The socket of the session that runs was accepted, and its session has not ended. -/
  current : d.tcp.inSession → .accepted d.sock ∈ log ∧ endsOf d.sock log = []
  /-- Every other session accepted has ended, once. -/
  past : ∀ s, .accepted s ∈ log → (d.tcp.inSession → s ≠ d.sock) → ∃ why, endsOf s log = [why]
  /-- Only accepted sessions end. -/
  ends : ∀ s, endsOf s log ≠ [] → .accepted s ∈ log
  /-- A socket is closed exactly when its session ends after a failed send. -/
  closed : ∀ s, log.count (.closed s) = (endsOf s log).count .sendFailed

/-- Sockets that were not accepted yet have no history. -/
theorem Sockets.fresh {log : List DevObs} {d : Device} (h : Sockets log d) {s : Nat}
    (hs : d.nextSock ≤ s) : endsOf s log = [] := by
  by_contra hne
  have := h.below s (h.ends s hne)
  omega

/-- The end of a session concerns that session only. -/
theorem endsOf_ended (s s' : Nat) (why : EndReason) :
    endsOf s' [.ended s why] = if s = s' then [why] else [] := by
  by_cases hs : s = s'
  · simp [endsOf, hs]
  · simp [endsOf, hs]

/-- A session that ends, with its socket closed or not. -/
theorem Sockets.ended {log out : List DevObs} {d d' : Device} {why : EndReason}
    (h : Sockets log d) (hin : d.tcp.inSession = true) (hin' : d'.tcp.inSession = false)
    (hn : d'.nextSock = d.nextSock) (hacc : ∀ s, .accepted s ∉ out)
    (hends : ∀ s, endsOf s out = if d.sock = s then [why] else [])
    (hclosed : ∀ s, out.count (.closed s) = (endsOf s out).count .sendFailed) :
    Sockets (log ++ out) d' := by
  obtain ⟨hmem, hnil⟩ := h.current hin
  have hacc' : ∀ s, .accepted s ∈ log ++ out ↔ .accepted s ∈ log := by
    intro s
    simp [hacc s]
  refine ⟨?_, ?_, ?_, ?_, ?_⟩
  · intro s hs
    rw [hn]
    exact h.below s ((hacc' s).mp hs)
  · rw [hin']
    exact nofun
  · intro s hs _
    rw [endsOf_append, hends s]
    by_cases hss : d.sock = s
    · subst hss
      exact ⟨why, by rw [hnil, if_pos rfl]; rfl⟩
    · rw [if_neg hss, List.append_nil]
      exact h.past s ((hacc' s).mp hs) fun _ heq => hss heq.symm
  · intro s hne
    rw [hacc' s]
    rw [endsOf_append, hends s] at hne
    by_cases hss : d.sock = s
    · exact hss ▸ hmem
    · rw [if_neg hss, List.append_nil] at hne
      exact h.ends s hne
  · intro s
    rw [List.count_append, h.closed s, hclosed s, endsOf_append, List.count_append]

/-- Every effect keeps the history of sockets. -/
theorem Sockets.step {log out : List DevObs} {d d' : Device} (h : Sockets log d)
    (heff : SockEffect d d' out) : Sockets (log ++ out) d' := by
  cases heff with
  | silent hq hin hs hn =>
      have hacc : ∀ s, .accepted s ∈ log ++ out ↔ .accepted s ∈ log := by
        intro s
        simp [(of_sockSilent hq s).1]
      have hends : ∀ s, endsOf s (log ++ out) = endsOf s log := by
        intro s
        rw [endsOf_append, (of_sockSilent hq s).2.2, List.append_nil]
      refine ⟨?_, ?_, ?_, ?_, ?_⟩
      · intro s hmem
        rw [hn]
        exact h.below s ((hacc s).mp hmem)
      · intro hsess
        rw [hs, hacc, hends]
        exact h.current (hin ▸ hsess)
      · intro s hmem hne
        rw [hends]
        exact h.past s ((hacc s).mp hmem) fun hsess => hs ▸ hne (hin ▸ hsess)
      · intro s hne
        rw [hends] at hne
        exact (hacc s).mpr (h.ends s hne)
      · intro s
        rw [List.count_append, (of_sockSilent hq s).2.1, hends, Nat.add_zero]
        exact h.closed s
  | @accept s hout hin hin' hle hs hn =>
      subst hout
      have hends : ∀ s', endsOf s' (log ++ [.accepted s]) = endsOf s' log := by
        intro s'
        rw [endsOf_append]
        exact List.append_nil _
      refine ⟨?_, ?_, ?_, ?_, ?_⟩
      · intro s' hmem
        rw [hn]
        simp only [List.mem_append, List.mem_singleton, DevObs.accepted.injEq] at hmem
        rcases hmem with hmem | rfl
        · have := h.below s' hmem
          omega
        · omega
      · -- a socket that was not accepted before has no history
        intro _
        rw [hs, hends]
        exact ⟨by simp, h.fresh hle⟩
      · intro s' hmem hne
        rw [hends]
        simp only [List.mem_append, List.mem_singleton, DevObs.accepted.injEq] at hmem
        rcases hmem with hmem | rfl
        · refine h.past s' hmem fun hsess => ?_
          rw [hin] at hsess
          cases hsess
        · exact absurd hs.symm (hne hin')
      · intro s' hne
        rw [hends] at hne
        exact List.mem_append_left _ (h.ends s' hne)
      · intro s'
        rw [List.count_append, hends, h.closed s']
        simp
  | leave hwhy hout hin hin' hn =>
      subst hout
      refine h.ended hin hin' hn (by simp) (fun s => endsOf_ended _ s _) fun s => ?_
      rw [endsOf_ended]
      by_cases hs : d.sock = s <;> simp [hs, hwhy]
  | @close bs hout hin hin' hn =>
      subst hout
      have hends : ∀ s, endsOf s [.sent d.sock bs, .closed d.sock, .ended d.sock .sendFailed]
          = endsOf s [.ended d.sock .sendFailed] := fun s => rfl
      refine h.ended hin hin' hn (by simp) (fun s => (hends s).trans (endsOf_ended _ s _)) ?_
      intro s
      rw [hends, endsOf_ended]
      by_cases hs : d.sock = s <;> simp [hs]

/-- The history of sockets along every run. -/
theorem sockets_of_reaches {cfg : DeviceConfig} {log : List DevObs} {d : Device}
    (h : (machine cfg).Reaches log d) : Sockets log d := by
  refine h.invariant (P := Sockets) ?_ ?_
  · exact ⟨nofun, nofun, nofun, fun _ h => absurd rfl h, fun _ => rfl⟩
  · intro log d i d' out _ hsock _ hstep
    exact hsock.step (step_cases hstep).sockEffect

/-- **Client sockets are closed exactly when no session ends in a `break`.** At a call of `accept`,
every socket returned by an earlier `accept` has been closed exactly once if and only if no session
so far ended because `select` failed or because the client closed the connection or `recv`
failed. -/
theorem sockets_closed_iff {cfg : DeviceConfig} {log : List DevObs} {d : Device}
    (h : (machine cfg).Reaches log d) (hpc : d.tcp = .accept) :
    (∀ s, .accepted s ∈ log → log.count (.closed s) = 1) ↔
      ∀ s, .ended s .selectFailed ∉ log ∧ .ended s .recvFailed ∉ log := by
  have hsock := sockets_of_reaches h
  have hout : ¬ d.tcp.inSession := by rw [hpc]; decide
  -- what the history says of a session is in its list of ends
  have hmem : ∀ s why, .ended s why ∈ log ↔ why ∈ endsOf s log := by
    intro s why
    simp only [endsOf, List.mem_filterMap]
    constructor
    · exact fun hmem => ⟨_, hmem, if_pos rfl⟩
    · rintro ⟨o, ho, heq⟩
      cases o with
      | ended s' why' =>
          dsimp only at heq
          split at heq
          · rename_i hs
            cases heq
            exact hs ▸ ho
          · cases heq
      | _ => cases heq
  constructor
  · -- a session that ended in a `break` has no closed socket
    intro hall s
    have hone : ∀ why, why ≠ .sendFailed → .ended s why ∉ log := by
      intro why hwhy hmem'
      have hin := (hmem s why).mp hmem'
      have hacc := hsock.ends s (List.ne_nil_of_mem hin)
      obtain ⟨why', hends⟩ := hsock.past s hacc fun h => absurd h hout
      have hcount := hsock.closed s
      rw [hall s hacc, hends] at hcount
      rw [hends, List.mem_singleton] at hin
      subst hin
      rw [List.count_singleton] at hcount
      simp [hwhy] at hcount
    exact ⟨hone _ nofun, hone _ nofun⟩
  · -- each session ended once, and not in a `break`
    intro hnone s hacc
    obtain ⟨why, hends⟩ := hsock.past s hacc fun h => absurd h hout
    rw [hsock.closed s, hends]
    have hwhy : .ended s why ∈ log := by
      rw [hmem, hends]
      exact List.mem_singleton_self _
    cases why with
    | sendFailed => rfl
    | selectFailed => exact absurd hwhy (hnone s).1
    | recvFailed => exact absurd hwhy (hnone s).2

/-- A session whose send failed: its socket is closed once. -/
theorem sockets_closed_after_failed_send :
    ∃ log d, (machine ⟨true, false⟩).Reaches log d ∧ d.tcp = .accept ∧ .accepted 0 ∈ log ∧
      ∀ s, .accepted s ∈ log → log.count (.closed s) = 1 := by
  have hrun : (machine ⟨true, false⟩).Reaches _ _ :=
    Machine.Reaches.init.exec [.setup true, .accept (some 0), .uartIn [65], .rxEvent true,
      .rxRead 1 Block.zero, .rxSend, .rxWriteEfd, .select false true Block.zero, .readEfd, .drain,
      .sendFail 0] rfl
  refine ⟨_, _, hrun, rfl, by simp, (sockets_closed_iff hrun rfl).mpr fun s => ?_⟩
  simp

/-- **A socket stays open**: the client closes the connection, `read_msg` fails, and `tcp_task` is
back at `accept` without having closed the socket. -/
theorem socket_left_open :
    ∃ log d, (machine ⟨true, false⟩).Reaches log d ∧ d.tcp = .accept ∧ .accepted 0 ∈ log ∧
      log.count (.closed 0) = 0 := by
  have hrun : (machine ⟨true, false⟩).Reaches _ _ :=
    Machine.Reaches.init.exec [.setup true, .accept (some 0),
      .select true false Block.zero, .recvFail] rfl
  exact ⟨_, _, hrun, rfl, by simp, by simp⟩

end Device

end TcpUart
