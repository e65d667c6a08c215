import TcpUart.Lib.Progress
import TcpUart.Firmware.TaskInvariants

/-! # When the firmware comes to rest
A wake-up can be lost, a client can break off in the middle of a message or stop reading, and tasks
can wait for each other. What of this is for good? From every state there is a way to a state in
which everything that had arrived was handed on and every task is back at its wait, unless
`tcp_task` and `uart_tx_task` are bound to wait for each other.

* `Idle` — nothing is left anywhere, and a client is served.
* `Deadlocking` — the two tasks wait for each other, or will.
* `Notified` — a full `uart_to_tcp_queue` is always going to be emptied: what a lost wake-up leaves
  behind is never so much that the next UART byte finds no room.
* `comes_to_rest_iff` — the firmware can come to rest exactly if it is not deadlocking. -/

namespace TcpUart

open Reactive Framing

/-- How far `tcp_task` is from its `select`, apart from what is queued. -/
def TcpPc.distance : TcpPc → Nat
  | .setup => 5
  | .deleted => 0
  | .accept => 4
  | .select => 3
  | .readHdr _ _ _ => 5
  | .readBody _ _ _ _ _ => 5
  | .enqueue _ _ => 17
  | .readEfd => 5
  | .drain => 4
  | .sendHdr _ => 6
  | .sendBody _ => 5

/-- How far `uart_tx_task` is from its `xQueueReceive`. -/
def TxPc.distance : TxPc → Nat
  | .recvQ => 0
  | .handle _ => 10
  | .pulse _ _ => 9
  | .sendResp _ => 8
  | .writeEfd => 4

/-- How far `uart_rx_task` is from its `xQueueReceive`, apart from what is buffered. -/
def RxPc.distance (ring : Bytes) : RxPc → Nat
  | .waitEvent => if ring = [] then 0 else 2
  | .read _ => 1
  | .sendQ _ => 9
  | .writeEfd => 5

namespace Device

variable {cfg : DeviceConfig} {d d' : Device} {i : DevInput} {log out : List DevObs}

/-- Nothing is left to be handed on, and every task waits: `tcp_task` for the client, `uart_rx_task`
for the UART, `uart_tx_task` for a message. -/
structure Idle (d : Device) : Prop where
  /-- The chip runs. -/
  running : d.aborted = false
  /-- `tcp_task` is at `select`. -/
  tcp : d.tcp = .select
  /-- `uart_rx_task` waits for an event. -/
  rx : d.rx = .waitEvent
  /-- `uart_tx_task` waits for a message. -/
  tx : d.tx = .recvQ
  /-- No UART byte is buffered. -/
  ring : d.ring = []
  /-- No message waits for the UART. -/
  toUart : d.tcpToUart.items = []
  /-- No message waits for the client. -/
  toTcp : d.uartToTcp.items = []

/-- `tcp_task` waits for room in a queue that `uart_tx_task` will not empty: it is answering a
control request, and there is no room for its response. -/
def Deadlocking (d : Device) : Prop :=
  d.tcp.enqueuing ∧ d.tcpToUart.items.length = 16 ∧
    d.tx.answering ∧ d.uartToTcp.items.length = 128

/-! ## What is never left -/

/-- **Two tasks that are bound to wait for each other stay so.** -/
theorem Deadlocking.step (hw : Deadlocking d) (h : Step cfg d i d' out) : Deadlocking d' := by
  obtain ⟨htcp, hfull, htx, hfull'⟩ := hw
  have hpc : ∀ {pc : TcpPc}, d.tcp = pc → pc.enqueuing := fun h => h ▸ htcp
  have hpx : ∀ {pc : TxPc}, d.tx = pc → pc.answering := fun h => h ▸ htx
  have hread : d.tcp.reading = none := by
    cases hp : d.tcp with
    | enqueue => rfl
    | _ => cases hpc hp
  have hsend : d.tcp.sending = none := by
    cases hp : d.tcp with
    | enqueue => rfl
    | _ => cases hpc hp
  -- the message in hand is a control request
  have hctl : ∀ {e}, d.tx = .handle e →
      e.msg.kind = MESSAGE_KIND_CONTROL ∧ e.msg.len.toNat = sizeofControlMessage := fun hp =>
    of_decide_eq_true (hpx hp)
  cases h with
  | setup _ h => cases hpc h
  | acceptFail h => cases hpc h
  | accept h => cases hpc h
  | selectFail h => cases hpc h
  | selectClient h => cases hpc h
  | selectEfd h => cases hpc h
  | recvMore hr => rw [hread] at hr; cases hr
  | recvDone hr => rw [hread] at hr; cases hr
  | recvFail hr => exact absurd hread hr
  | enqueue _ hq =>
      have hroom := (BoundedQueue.items_of_push hq).2
      simp only [tcpToUartDepth] at hroom
      omega
  | readEfd h => cases hpc h
  | drainEmpty h => cases hpc h
  | drainTake h => cases hpc h
  | sendHdr h => cases hpc h
  | sendBody h => cases hpc h
  | sendFail h => rw [hsend] at h; cases h
  | rxSend _ hq =>
      have hroom := (BoundedQueue.items_of_push hq).2
      simp only [uartToTcpDepth] at hroom
      omega
  | txRecv h => cases hpx h
  | txData h hk =>
      rw [(hctl h).1] at hk
      cases hk
  | txConfig h hk =>
      rw [(hctl h).1] at hk
      cases hk
  | txSkip h _ _ hlen => exact absurd (hctl h).2 (hlen (hctl h).1)
  | txPulse => exact ⟨htcp, hfull, rfl, hfull'⟩
  | txDecline => exact ⟨htcp, hfull, rfl, hfull'⟩
  | txPulseEnd => exact ⟨htcp, hfull, rfl, hfull'⟩
  | txSend _ hq =>
      have hroom := (BoundedQueue.items_of_push hq).2
      simp only [uartToTcpDepth] at hroom
      omega
  | txWriteEfd h => cases hpx h
  | _ => exact ⟨htcp, hfull, htx, hfull'⟩

/-! ## What a lost wake-up leaves behind -/

/-- If `uart_to_tcp_queue` is full, the eventfd says so or is about to, or `tcp_task` has read it
and not taken anything yet. -/
def Notified (d : Device) : Prop :=
  d.uartToTcp.items.length < 128 ∨ 0 < d.efd ∨ d.ProducerPending ∨ d.tcp = .drain

/-- Steps that keep the queue and the counter, and leave neither a write of the eventfd nor the head
of the drain loop. -/
theorem Notified.of_eq (h : Notified d) (hq : d'.uartToTcp = d.uartToTcp) (hefd : d'.efd = d.efd)
    (hrx : d.rx = .writeEfd → d'.rx = .writeEfd) (htx : d.tx = .writeEfd → d'.tx = .writeEfd)
    (htcp : d.tcp = .drain → d'.tcp = .drain) : Notified d' := by
  rw [Notified, hq, hefd]
  exact h.imp id (Or.imp id (Or.imp (Or.imp hrx htx) htcp))

/-- **Every step keeps a full queue notified**, also when a send fails: an entry was taken
before. -/
theorem Notified.step (hn : Notified d) (h : Step cfg d i d' out) : Notified d' := by
  have hrx : ∀ {pc : RxPc}, d.rx = pc → pc ≠ .writeEfd → ∀ {pc' : RxPc}, d.rx = .writeEfd →
      pc' = .writeEfd := fun hpc hne _ h => absurd (hpc.symm.trans h) hne
  have htx : ∀ {pc : TxPc}, d.tx = pc → pc ≠ .writeEfd → ∀ {pc' : TxPc}, d.tx = .writeEfd →
      pc' = .writeEfd := fun hpc hne _ h => absurd (hpc.symm.trans h) hne
  have htcp : ∀ {pc : TcpPc}, d.tcp = pc → pc ≠ .drain → ∀ {pc' : TcpPc}, d.tcp = .drain →
      pc' = .drain := fun hpc hne _ h => absurd (hpc.symm.trans h) hne
  have hread : d.tcp.reading ≠ none → ∀ {pc' : TcpPc}, d.tcp = .drain → pc' = .drain := by
    intro hr pc' h
    rw [h] at hr
    exact absurd rfl hr
  have hsend : d.tcp.sending ≠ none → ∀ {pc' : TcpPc}, d.tcp = .drain → pc' = .drain := by
    intro hr pc' h
    rw [h] at hr
    exact absurd rfl hr
  cases h with
  | setup ok hpc => exact hn.of_eq rfl rfl id id (htcp hpc TcpPc.noConfusion)
  | acceptFail => exact hn
  | accept hpc => exact hn.of_eq rfl rfl id id (htcp hpc TcpPc.noConfusion)
  | selectFail hpc => exact hn.of_eq rfl rfl id id (htcp hpc TcpPc.noConfusion)
  | selectClient hpc => exact hn.of_eq rfl rfl id id (htcp hpc TcpPc.noConfusion)
  | selectEfd hpc => exact hn.of_eq rfl rfl id id (htcp hpc TcpPc.noConfusion)
  | recvMore hr => exact hn.of_eq rfl rfl id id (hread (by rw [hr]; exact Option.some_ne_none _))
  | recvDone hr => exact hn.of_eq rfl rfl id id (hread (by rw [hr]; exact Option.some_ne_none _))
  | recvFail hr => exact hn.of_eq rfl rfl id id (hread hr)
  | enqueue hpc => exact hn.of_eq rfl rfl id id (htcp hpc TcpPc.noConfusion)
  | readEfd => exact .inr (.inr (.inr rfl))
  | @drainEmpty hpc hq =>
      left
      show d.uartToTcp.items.length < 128
      rw [BoundedQueue.items_of_pop_none hq]
      exact Nat.zero_lt_succ _
  | @drainTake e q hpc hq =>
      -- the entry that is taken makes room
      left
      have hlen := congrArg List.length (BoundedQueue.items_of_pop hq)
      have hle := d.uartToTcp.length_le
      simp only [List.length_cons, uartToTcpDepth] at hlen hle
      show q.items.length < 128
      omega
  | sendHdr hpc => exact hn.of_eq rfl rfl id id (htcp hpc TcpPc.noConfusion)
  | sendBody hpc => exact .inr (.inr (.inr rfl))
  | sendFail hpc => exact hn.of_eq rfl rfl id id (hsend (by rw [hpc]; exact Option.some_ne_none _))
  | uartIn => exact hn.of_eq rfl rfl id id id
  | rxEvent hpc => exact hn.of_eq rfl rfl (hrx hpc RxPc.noConfusion) id id
  | rxRead hpc => exact hn.of_eq rfl rfl (hrx hpc RxPc.noConfusion) id id
  | rxReadNone hpc => exact hn.of_eq rfl rfl (hrx hpc RxPc.noConfusion) id id
  | rxSend => exact .inr (.inr (.inl (.inl rfl)))
  | rxWriteEfd => exact .inr (.inl (Nat.succ_pos _))
  | txRecv hpc => exact hn.of_eq rfl rfl id (htx hpc TxPc.noConfusion) id
  | txData hpc => exact hn.of_eq rfl rfl id (htx hpc TxPc.noConfusion) id
  | txConfig hpc => exact hn.of_eq rfl rfl id (htx hpc TxPc.noConfusion) id
  | txSkip hpc => exact hn.of_eq rfl rfl id (htx hpc TxPc.noConfusion) id
  | txPulse hpc => exact hn.of_eq rfl rfl id (htx hpc TxPc.noConfusion) id
  | txDecline hpc => exact hn.of_eq rfl rfl id (htx hpc TxPc.noConfusion) id
  | txPulseEnd hpc => exact hn.of_eq rfl rfl id (htx hpc TxPc.noConfusion) id
  | txSend => exact .inr (.inr (.inl (.inr rfl)))
  | txWriteEfd => exact .inr (.inl (Nat.succ_pos _))

/-- Along every run. -/
theorem notified_of_reaches (h : (machine cfg).Reaches log d) : Notified d := by
  refine h.invariant (P := fun _ d => Notified d) (.inl ?_) ?_
  · exact Nat.zero_lt_succ 127
  · intro log d i d' out _ hn _ hs
    exact hn.step (step_cases hs)

/-- `uart_rx_task` reads no more than is buffered, and something. -/
def Buffered (d : Device) : Prop := ∀ n, d.rx = .read n → 0 < n ∧ n ≤ d.ring.length

/-- At the head of the read loop. -/
theorem buffered_rxLoop {n : Nat} (h : d.rxLoop = .read n) : 0 < n ∧ n ≤ d.ring.length := by
  unfold rxLoop at h
  split at h
  · rename_i hpos
    cases h
    exact ⟨hpos, Nat.le_refl _⟩
  · cases h

/-- Along every run. -/
theorem buffered_of_reaches (h : (machine cfg).Reaches log d) : Buffered d := by
  refine h.invariant (P := fun _ d => Buffered d) (fun _ hpc => RxPc.noConfusion hpc) ?_
  intro log d i d' out _ hb _ hs n hpc'
  cases step_cases hs with
  | uartIn =>
      obtain ⟨hpos, hle⟩ := hb n hpc'
      refine ⟨hpos, ?_⟩
      rw [List.length_append]
      omega
  | @rxEvent data =>
      cases data with
      | true => exact buffered_rxLoop hpc'
      | false => cases hpc'
  | rxRead => cases hpc'
  | rxReadNone => exact buffered_rxLoop hpc'
  | rxSend => cases hpc'
  | rxWriteEfd => exact buffered_rxLoop hpc'
  | _ => exact hb n hpc'

/-! ## The way on -/

/-- Entries are in `uart_to_tcp_queue` of which `tcp_task` is not told, and nobody is about to. -/
def Stranded (d : Device) : Prop :=
  d.efd = 0 ∧ d.uartToTcp.items ≠ [] ∧ d.ring = [] ∧ d.rx = .waitEvent ∧ d.tx ≠ .writeEfd ∧
    d.tcp.draining = false

instance : Decidable (Stranded d) := inferInstanceAs (Decidable (_ ∧ _ ∧ _ ∧ _ ∧ _ ∧ _))

/-- What each task has still to do, and what each queued message and each buffered byte makes it
do. -/
def load (d : Device) : Nat :=
  d.tcp.distance + d.tx.distance + d.rx.distance d.ring + 11 * d.tcpToUart.items.length +
    3 * d.uartToTcp.items.length + 9 * d.ring.length

/-- What the round of the drain loop costs that the counter asks for. -/
def round (d : Device) : Nat := if 0 < d.efd ∧ d.tcp ≠ .readEfd then 3 else 0

/-- How far the device is from rest. -/
def rank (d : Device) : Nat := d.load + d.round + if Stranded d then 12 else 0

/-- A round costs at most this. -/
theorem round_le_three (d : Device) : d.round ≤ 3 := by
  unfold round
  split <;> omega

/-- Steps that do not leave the read of the counter make no round due. -/
theorem round_le (d d' : Device) (hefd : d'.efd = d.efd)
    (htcp : d.tcp = .readEfd → d'.tcp = .readEfd) : d'.round ≤ d.round := by
  by_cases h : 0 < d'.efd ∧ d'.tcp ≠ .readEfd
  · rw [round, round, if_pos h, if_pos ⟨hefd ▸ h.1, fun hpc => h.2 (htcp hpc)⟩]
  · rw [round, if_neg h]
    exact Nat.zero_le _

/-- Steps that strand no entry lower the rank if they lower the rest of it. -/
theorem rank_lt (hs : Stranded d' → Stranded d) (h : d'.load + d'.round < d.load + d.round) :
    d'.rank < d.rank := by
  by_cases h' : Stranded d'
  · rw [rank, rank, if_pos h', if_pos (hs h')]
    omega
  · rw [rank, rank, if_neg h']
    omega

/-- A step that brings the device nearer to rest and not into a deadlock. -/
def Nearer (cfg : DeviceConfig) (d : Device) : Prop :=
  ∃ i d' out, (machine cfg).step d i = some (d', out) ∧ d'.aborted = false ∧ d'.tcp ≠ .deleted ∧
    ¬ Deadlocking d' ∧ d'.rank < d.rank

/-- `tcp_task` goes on to where it does not wait for room. -/
theorem not_deadlocking_of_tcp (h : d.tcp.enqueuing = false) : ¬ Deadlocking d := by
  rintro ⟨htcp, -⟩
  rw [h] at htcp
  cases htcp

/-- `uart_tx_task` goes on to where it does not answer. -/
theorem not_deadlocking_of_tx (h : d.tx.answering = false) : ¬ Deadlocking d := by
  rintro ⟨-, -, htx, -⟩
  rw [h] at htx
  cases htx

/-! ### `uart_tx_task` -/

/-- It handles the message in hand. -/
theorem nearer_txHandle {e : Entry} (hab : d.aborted = false) (hdel : d.tcp ≠ .deleted)
    (hnd : ¬ Deadlocking d) (hpc : d.tx = .handle e) : Nearer cfg d := by
  have hstep : (machine cfg).step d (.txHandle Block.zero false)
      = some (d.handleMessage cfg e Block.zero false) := by
    show d.step cfg _ = _
    simp [step, stepTcp, stepRx, stepTx, hab, hpc]
  obtain ⟨d', out, hres⟩ : ∃ d' out, d.handleMessage cfg e Block.zero false = (d', out) :=
    ⟨_, _, rfl⟩
  rw [hres] at hstep
  -- whatever the message is, only `tx` and the settings change
  have hkey : ∀ tx settings, tx.distance < 10 → tx ≠ .writeEfd →
      (tx.answering = true → (TxPc.handle e).answering = true) →
      d' = { d with tx := tx, settings := settings } → Nearer cfg d := by
    rintro tx settings hlt hne hans rfl
    refine ⟨_, _, out, hstep, hab, hdel, ?_, rank_lt ?_ ?_⟩
    · rintro ⟨htcp, hfull, htx, hfull'⟩
      exact hnd ⟨htcp, hfull, hpc ▸ hans htx, hfull'⟩
    · rintro ⟨hefd, hne', hring, hrx, -, hdr⟩
      exact ⟨hefd, hne', hring, hrx, by rw [hpc]; exact TxPc.noConfusion, hdr⟩
    · have hround : ({ d with tx := tx, settings := settings } : Device).round = d.round := rfl
      have hten : d.tx.distance = 10 := by rw [hpc]; rfl
      simp only [hround, load]
      omega
  have hidle : ∀ settings, d' = { d with tx := .recvQ, settings := settings } → Nearer cfg d :=
    fun settings => hkey .recvQ settings (by decide) TxPc.noConfusion (fun h => by cases h)
  have hs := step_cases hstep
  cases hs with
  | txData => exact hidle _ rfl
  | txConfig _ _ _ hset =>
      rcases hset with ⟨hfault, -⟩ | ⟨-, rfl, rfl, rfl⟩
      · cases hfault
      · exact hidle _ rfl
  | txSkip => exact hidle _ rfl
  | txPulse hpc' hk hlen =>
      rw [hpc] at hpc'
      cases hpc'
      exact hkey (.pulse Block.zero e.origin) _ (Nat.lt_succ_self 9) TxPc.noConfusion
        (fun _ => decide_eq_true ⟨hk, hlen⟩) rfl
  | txDecline hpc' hk hlen =>
      rw [hpc] at hpc'
      cases hpc'
      exact hkey (.sendResp _) _ (Nat.lt_add_of_pos_right (Nat.zero_lt_two)) TxPc.noConfusion
        (fun _ => decide_eq_true ⟨hk, hlen⟩) rfl

/-- It ends the reset pulse. -/
theorem nearer_txPulseEnd {junk : Block} {o : Option Origin} (hab : d.aborted = false)
    (hdel : d.tcp ≠ .deleted) (hnd : ¬ Deadlocking d) (hpc : d.tx = .pulse junk o) :
    Nearer cfg d := by
  refine ⟨.txPulseEnd, { d with tx := .sendResp (response RESPONSE_STATUS_OK junk o) },
    [.pulsed o], ?_, hab, hdel, ?_, rank_lt ?_ ?_⟩
  · show d.step cfg _ = _
    simp [step, stepTcp, stepRx, stepTx, hab, hpc]
  · rintro ⟨htcp, hfull, -, hfull'⟩
    exact hnd ⟨htcp, hfull, by rw [hpc]; rfl, hfull'⟩
  · rintro ⟨hefd, hne, hring, hrx, -, hdr⟩
    exact ⟨hefd, hne, hring, hrx, by rw [hpc]; exact TxPc.noConfusion, hdr⟩
  · have hround := round_le d
      { d with tx := .sendResp (response RESPONSE_STATUS_OK junk o) } rfl id
    simp only [load, hpc, TxPc.distance] at hround ⊢
    omega

/-- It puts the response on `uart_to_tcp_queue`, if there is room. -/
theorem nearer_txSend {e : Entry} (hab : d.aborted = false) (hdel : d.tcp ≠ .deleted)
    (hpc : d.tx = .sendResp e) (hroom : d.uartToTcp.items.length < 128) : Nearer cfg d := by
  obtain ⟨q, hq, hitems⟩ := BoundedQueue.exists_push hroom e
  refine ⟨.txSend, { d with uartToTcp := q, tx := .writeEfd }, [.responded e], ?_, hab, hdel,
    not_deadlocking_of_tx rfl, rank_lt ?_ ?_⟩
  · show d.step cfg _ = _
    simp [step, stepTcp, stepRx, stepTx, hab, hpc, hq]
  · exact fun hs => absurd rfl hs.2.2.2.2.1
  · have hround := round_le d { d with uartToTcp := q, tx := .writeEfd } rfl id
    simp only [load, hpc, hitems, TxPc.distance, List.length_append, List.length_singleton]
      at hround ⊢
    omega

/-- It writes the eventfd. -/
theorem nearer_txWriteEfd (hab : d.aborted = false) (hdel : d.tcp ≠ .deleted)
    (hpc : d.tx = .writeEfd) : Nearer cfg d := by
  refine ⟨.txWriteEfd, { d with efd := d.efd + 1, tx := .recvQ }, [], ?_, hab, hdel,
    not_deadlocking_of_tx rfl, rank_lt ?_ ?_⟩
  · show d.step cfg _ = _
    simp [step, stepTcp, stepRx, stepTx, hab, hpc]
  · exact fun hs => absurd hs.1 (Nat.succ_ne_zero _)
  · have hround := round_le_three { d with efd := d.efd + 1, tx := .recvQ }
    simp only [load, hpc, TxPc.distance] at hround ⊢
    omega

/-- It takes a message. -/
theorem nearer_txRecv (hab : d.aborted = false) (hdel : d.tcp ≠ .deleted) (hpc : d.tx = .recvQ)
    (hne : d.tcpToUart.items ≠ []) : Nearer cfg d := by
  cases hq : d.tcpToUart.pop with
  | none => exact absurd (BoundedQueue.items_of_pop_none hq) hne
  | some r =>
      obtain ⟨e, q⟩ := r
      have hlen := congrArg List.length (BoundedQueue.items_of_pop hq)
      have hle := d.tcpToUart.length_le
      simp only [List.length_cons, tcpToUartDepth] at hlen hle
      refine ⟨.txRecv, { d with tcpToUart := q, tx := .handle e }, [.txTaken e], ?_, hab, hdel,
        ?_, rank_lt ?_ ?_⟩
      · show d.step cfg _ = _
        simp [step, stepTcp, stepRx, stepTx, hab, hpc, hq]
      · rintro ⟨-, hfull, -⟩
        have hfull' : q.items.length = 16 := hfull
        omega
      · rintro ⟨hefd, hne', hring, hrx, -, hdr⟩
        exact ⟨hefd, hne', hring, hrx, by rw [hpc]; exact TxPc.noConfusion, hdr⟩
      · have hround := round_le d { d with tcpToUart := q, tx := .handle e } rfl id
        simp only [load, hpc, TxPc.distance] at hround ⊢
        omega

/-! ### `uart_rx_task` -/

/-- What it does while `uart_tx_task` answers nothing, or without touching the queue, leads into no
deadlock. -/
theorem nearer_rx (i : DevInput) (ring : Bytes) (rx : RxPc) (out : List DevObs)
    (hab : d.aborted = false) (hdel : d.tcp ≠ .deleted) (hnd : ¬ Deadlocking d)
    (hs : (machine cfg).step d i = some ({ d with ring := ring, rx := rx }, out))
    (hne : rx ≠ .waitEvent)
    (hlt : rx.distance ring + 9 * ring.length < d.rx.distance d.ring + 9 * d.ring.length) :
    Nearer cfg d := by
  refine ⟨i, _, out, hs, hab, hdel, hnd, rank_lt ?_ ?_⟩
  · exact fun hs => absurd hs.2.2.2.1 hne
  · have hround := round_le d { d with ring := ring, rx := rx } rfl id
    simp only [load] at hround ⊢
    omega

/-- It goes to read what is buffered. -/
theorem nearer_rxEvent (hab : d.aborted = false) (hdel : d.tcp ≠ .deleted)
    (hnd : ¬ Deadlocking d) (hpc : d.rx = .waitEvent) (hring : d.ring ≠ []) : Nearer cfg d := by
  have hpos := List.length_pos_of_ne_nil hring
  refine nearer_rx (.rxEvent true) d.ring (.read d.ring.length) [] hab hdel hnd ?_
    RxPc.noConfusion ?_
  · show d.step cfg _ = _
    simp [step, stepTcp, stepRx, rxLoop, hab, hpc, hpos]
  · simp [RxPc.distance, hpc, hring]

/-- It reads. -/
theorem nearer_rxRead {n : Nat} (hab : d.aborted = false) (hdel : d.tcp ≠ .deleted)
    (hnd : ¬ Deadlocking d) (hbuf : Buffered d) (hpc : d.rx = .read n) : Nearer cfg d := by
  obtain ⟨hpos, hle⟩ := hbuf n hpc
  have hto : 0 < toRead n ∧ toRead n ≤ n := by
    unfold toRead maxMessageLen
    split <;> omega
  refine nearer_rx (.rxRead (toRead n) Block.zero) (d.ring.drop (toRead n))
    (.sendQ ⟨MESSAGE_KIND_DATA, UInt8.ofNat (toRead n),
      Block.zero.write (d.ring.take (toRead n))⟩)
    [.uartRead (d.ring.take (toRead n))] hab hdel hnd ?_ RxPc.noConfusion ?_
  · show d.step cfg _ = _
    have hle' : toRead n ≤ d.ring.length := hto.2.trans hle
    simp [step, stepTcp, stepRx, hab, hpc, hto.1, hle']
  · simp only [RxPc.distance, hpc, List.length_drop]
    omega

/-- It puts the bytes on `uart_to_tcp_queue`, if there is room; `uart_tx_task` is idle. -/
theorem nearer_rxSend {m : Message} (hab : d.aborted = false) (hdel : d.tcp ≠ .deleted)
    (htx : d.tx = .recvQ) (hpc : d.rx = .sendQ m) (hroom : d.uartToTcp.items.length < 128) :
    Nearer cfg d := by
  obtain ⟨q, hq, hitems⟩ := BoundedQueue.exists_push hroom ⟨m, none⟩
  refine ⟨.rxSend, { d with uartToTcp := q, rx := .writeEfd }, [.rxEnqueued m],
    step_rxSend hab hpc hq, hab, hdel, not_deadlocking_of_tx (by rw [htx]; rfl), rank_lt ?_ ?_⟩
  · exact fun hs => RxPc.noConfusion hs.2.2.2.1
  · have hround := round_le d { d with uartToTcp := q, rx := .writeEfd } rfl id
    simp only [load, hpc, hitems, RxPc.distance, List.length_append, List.length_singleton]
      at hround ⊢
    omega

/-- It writes the eventfd. -/
theorem nearer_rxWriteEfd (hab : d.aborted = false) (hdel : d.tcp ≠ .deleted)
    (hnd : ¬ Deadlocking d) (hpc : d.rx = .writeEfd) : Nearer cfg d := by
  refine ⟨.rxWriteEfd, { d with efd := d.efd + 1, rx := d.rxLoop }, [], ?_, hab, hdel, hnd,
    rank_lt ?_ ?_⟩
  · show d.step cfg _ = _
    simp [step, stepTcp, stepRx, hab, hpc]
  · exact fun hs => absurd hs.1 (Nat.succ_ne_zero _)
  · have hround := round_le_three { d with efd := d.efd + 1, rx := d.rxLoop }
    have hloop : d.rxLoop.distance d.ring ≤ 1 := by
      unfold rxLoop
      split
      · exact Nat.le_refl 1
      · rename_i hzero
        have hring : d.ring = [] := List.length_eq_zero_iff.mp (by omega)
        simp [RxPc.distance, hring]
    have hfive : d.rx.distance d.ring = 5 := by rw [hpc]; rfl
    simp only [load] at hround ⊢
    omega

/-! ### `tcp_task` -/

/-- It goes on without touching what is shared. -/
theorem nearer_tcp (i : DevInput) (tcp : TcpPc) (out : List DevObs) (hab : d.aborted = false)
    (hs : (machine cfg).step d i = some ({ d with tcp := tcp }, out))
    (hlt : tcp.distance < d.tcp.distance) (hne : d.tcp ≠ .readEfd) (hdel : tcp ≠ .deleted)
    (henq : tcp.enqueuing = false)
    (hstr : tcp.draining = false → d.tcp.draining = false ∨ d.uartToTcp.items = []) :
    Nearer cfg d := by
  refine ⟨i, _, out, hs, hab, hdel, not_deadlocking_of_tcp henq, rank_lt ?_ ?_⟩
  · rintro ⟨hefd, hne', hring, hrx, htx, hdr⟩
    rcases hstr hdr with hdr' | hnil
    · exact ⟨hefd, hne', hring, hrx, htx, hdr'⟩
    · exact absurd hnil hne'
  · have hround := round_le d { d with tcp := tcp } rfl fun hpc => absurd hpc hne
    simp only [load] at hround ⊢
    omega

/-- It accepts a client. -/
theorem nearer_accept (hab : d.aborted = false) (hpc : d.tcp = .accept) : Nearer cfg d := by
  refine ⟨.accept (some d.nextSock),
    { d with tcp := .select, sock := d.nextSock, nextSock := d.nextSock + 1, readCount := 0 },
    [.accepted d.nextSock], ?_, hab, TcpPc.noConfusion, not_deadlocking_of_tcp rfl, rank_lt ?_ ?_⟩
  · show d.step cfg _ = _
    simp [step, stepTcp, hab, hpc]
  · rintro ⟨hefd, hne, hring, hrx, htx, -⟩
    exact ⟨hefd, hne, hring, hrx, htx, by rw [hpc]; rfl⟩
  · have hround := round_le d { d with
      tcp := .select, sock := d.nextSock, nextSock := d.nextSock + 1, readCount := 0 } rfl
      fun h => by rw [hpc] at h; cases h
    simp only [load, hpc, TcpPc.distance] at hround ⊢
    omega

/-- It puts a message on `tcp_to_uart_queue`, if there is room. -/
theorem nearer_tcpEnqueue {efd : Bool} {e : Entry} (hab : d.aborted = false)
    (hpc : d.tcp = .enqueue efd e) (hroom : d.tcpToUart.items.length < 16) : Nearer cfg d := by
  obtain ⟨q, hq, hitems⟩ := BoundedQueue.exists_push hroom e
  have hafter : (afterClient efd).distance ≤ 5 ∧ afterClient efd ≠ .deleted ∧
      (afterClient efd).enqueuing = false := by
    cases efd with
    | true => exact ⟨Nat.le_refl 5, TcpPc.noConfusion, rfl⟩
    | false => exact ⟨by decide, TcpPc.noConfusion, rfl⟩
  refine ⟨.tcpEnqueue, { d with tcpToUart := q, tcp := afterClient efd }, [.enqueued d.sock e], ?_,
    hab, hafter.2.1, not_deadlocking_of_tcp hafter.2.2, rank_lt ?_ ?_⟩
  · show d.step cfg _ = _
    simp [step, stepTcp, hab, hpc, hq]
  · rintro ⟨hefd, hne, hring, hrx, htx, -⟩
    exact ⟨hefd, hne, hring, hrx, htx, by rw [hpc]; rfl⟩
  · have hround := round_le d { d with tcpToUart := q, tcp := afterClient efd } rfl
      fun h => by rw [hpc] at h; cases h
    have hdist : d.tcp.distance = 17 := by rw [hpc]; rfl
    simp only [load, hitems, List.length_append, List.length_singleton] at hround ⊢
    omega

/-- It is told of entries, and begins a round. -/
theorem nearer_select (hab : d.aborted = false) (hpc : d.tcp = .select) (hefd : 0 < d.efd) :
    Nearer cfg d := by
  refine ⟨.select false true Block.zero, { d with tcp := .readEfd }, [], ?_, hab,
    TcpPc.noConfusion, not_deadlocking_of_tcp rfl, rank_lt ?_ ?_⟩
  · show d.step cfg _ = _
    simp [step, stepTcp, hab, hpc, Nat.ne_of_gt hefd]
  · rintro ⟨hzero, -⟩
    exact absurd hzero (Nat.ne_of_gt hefd)
  · have hround : d.round = 3 := if_pos ⟨hefd, by rw [hpc]; exact TcpPc.noConfusion⟩
    have hround' : ({ d with tcp := .readEfd } : Device).round = 0 := if_neg fun h => h.2 rfl
    have hdist : d.tcp.distance = 3 := by rw [hpc]; rfl
    simp only [load, hround, hround', TcpPc.distance] at hdist ⊢
    omega

/-- It reads the counter. -/
theorem nearer_readEfd (hab : d.aborted = false) (hpc : d.tcp = .readEfd) : Nearer cfg d := by
  refine ⟨.readEfd, { d with efd := 0, tcp := .drain }, [], ?_, hab, TcpPc.noConfusion,
    not_deadlocking_of_tcp rfl, rank_lt ?_ ?_⟩
  · show d.step cfg _ = _
    simp [step, stepTcp, hab, hpc]
  · exact fun hs => Bool.noConfusion hs.2.2.2.2.2
  · have hround : ({ d with efd := 0, tcp := .drain } : Device).round = 0 :=
      if_neg fun h => Nat.lt_irrefl 0 h.1
    simp only [load, hround, hpc, TcpPc.distance]
    omega

/-- It takes an entry, or finds that there is none. -/
theorem nearer_drain (hab : d.aborted = false) (hpc : d.tcp = .drain) : Nearer cfg d := by
  cases hq : d.uartToTcp.pop with
  | none =>
      refine nearer_tcp .drain .select [] hab ?_
        (by rw [hpc]; exact Nat.lt_succ_self 3) (by rw [hpc]; exact TcpPc.noConfusion)
        TcpPc.noConfusion rfl fun _ => .inr (BoundedQueue.items_of_pop_none hq)
      show d.step cfg _ = _
      simp [step, stepTcp, hab, hpc, hq]
  | some r =>
      obtain ⟨e, q⟩ := r
      have hlen := congrArg List.length (BoundedQueue.items_of_pop hq)
      rw [List.length_cons] at hlen
      refine ⟨.drain, { d with uartToTcp := q, tcp := .sendHdr e }, [.dequeued d.sock e], ?_, hab,
        TcpPc.noConfusion, not_deadlocking_of_tcp rfl, rank_lt ?_ ?_⟩
      · show d.step cfg _ = _
        simp [step, stepTcp, hab, hpc, hq]
      · exact fun hs => Bool.noConfusion hs.2.2.2.2.2
      · have hround := round_le d { d with uartToTcp := q, tcp := .sendHdr e } rfl
          fun h => by rw [hpc] at h; cases h
        simp only [load, hpc, TcpPc.distance] at hround ⊢
        omega

/-- It has created its sockets. -/
theorem nearer_setup (hab : d.aborted = false) (hpc : d.tcp = .setup) : Nearer cfg d := by
  refine nearer_tcp (.setup true) .accept [] hab ?_ (by rw [hpc]; exact Nat.lt_succ_self 4)
    (by rw [hpc]; exact TcpPc.noConfusion) TcpPc.noConfusion rfl fun _ => .inl (by rw [hpc]; rfl)
  show d.step cfg _ = _
  simp [step, stepTcp, hab, hpc]

/-- In the middle of a message, it gives the client up. -/
theorem nearer_recvFail (hab : d.aborted = false)
    (hpc : (∃ efd got junk, d.tcp = .readHdr efd got junk) ∨
      ∃ efd kind len got junk, d.tcp = .readBody efd kind len got junk) : Nearer cfg d := by
  obtain ⟨hdist, hne, hdr⟩ :
      d.tcp.distance = 5 ∧ d.tcp ≠ .readEfd ∧ d.tcp.draining = false := by
    rcases hpc with ⟨efd, got, junk, hpc⟩ | ⟨efd, kind, len, got, junk, hpc⟩
    · rw [hpc]
      exact ⟨rfl, TcpPc.noConfusion, rfl⟩
    · rw [hpc]
      exact ⟨rfl, TcpPc.noConfusion, rfl⟩
  refine nearer_tcp .recvFail .accept [.ended d.sock .recvFailed] hab ?_
    (by rw [hdist]; exact Nat.lt_succ_self 4) hne TcpPc.noConfusion rfl fun _ => .inl hdr
  show d.step cfg _ = _
  rcases hpc with ⟨efd, got, junk, hpc⟩ | ⟨efd, kind, len, got, junk, hpc⟩
  · simp [step, stepTcp, leave, hab, hpc]
  · simp [step, stepTcp, leave, hab, hpc]

/-- It sends a header. -/
theorem nearer_sendHdr {e : Entry} (hab : d.aborted = false) (hpc : d.tcp = .sendHdr e) :
    Nearer cfg d := by
  refine nearer_tcp .sendOk (.sendBody e) [.sent d.sock e.msg.header] hab ?_
    (by rw [hpc]; exact Nat.lt_succ_self 5) (by rw [hpc]; exact TcpPc.noConfusion)
    TcpPc.noConfusion rfl fun h => Bool.noConfusion h
  show d.step cfg _ = _
  simp [step, stepTcp, hab, hpc]

/-- It sends a body. -/
theorem nearer_sendBody {e : Entry} (hab : d.aborted = false) (hpc : d.tcp = .sendBody e) :
    Nearer cfg d := by
  refine nearer_tcp .sendOk .drain [.sent d.sock e.msg.payload] hab ?_
    (by rw [hpc]; exact Nat.lt_succ_self 4) (by rw [hpc]; exact TcpPc.noConfusion)
    TcpPc.noConfusion rfl fun h => Bool.noConfusion h
  show d.step cfg _ = _
  simp [step, stepTcp, hab, hpc]

/-- A byte arrives that makes `uart_rx_task` tell of the entries that are stranded. -/
theorem nearer_uartIn (hab : d.aborted = false) (hdel : d.tcp ≠ .deleted)
    (hnd : ¬ Deadlocking d) (hstr : Stranded d) : Nearer cfg d := by
  obtain ⟨-, -, hring, hrx, -, -⟩ := id hstr
  refine ⟨.uartIn [0], { d with ring := d.ring ++ [0] }, [], ?_, hab, hdel, hnd, ?_⟩
  · show d.step cfg _ = _
    have hfit : d.ring.length + 1 ≤ uartRxBufferSize := by
      rw [hring]
      decide
    simp [step, stepTcp, stepRx, hab, hfit]
  · have hstr' : ¬ Stranded { d with ring := d.ring ++ [0] } := fun hs =>
      List.append_ne_nil_of_right_ne_nil _ (List.cons_ne_nil _ _) hs.2.2.1
    have hround := round_le d { d with ring := d.ring ++ [0] } rfl id
    rw [rank, rank, if_neg hstr', if_pos hstr]
    simp only [load, hring, hrx, RxPc.distance, List.nil_append, List.length_singleton,
      List.length_nil, reduceIte, List.cons_ne_nil] at hround ⊢
    omega

/-! ## The firmware comes to rest -/

/-- `uart_tx_task` goes on, or it waits: for a message, or for room for its response. -/
theorem nearer_of_tx (hab : d.aborted = false) (hdel : d.tcp ≠ .deleted)
    (hnd : ¬ Deadlocking d) : Nearer cfg d ∨ (d.tx = .recvQ ∧ d.tcpToUart.items = []) ∨
      d.tx.responding ∧ d.uartToTcp.items.length = 128 := by
  cases hpc : d.tx with
  | recvQ =>
      by_cases hne : d.tcpToUart.items = []
      · exact .inr (.inl ⟨rfl, hne⟩)
      · exact .inl (nearer_txRecv hab hdel hpc hne)
  | handle e => exact .inl (nearer_txHandle hab hdel hnd hpc)
  | pulse junk o => exact .inl (nearer_txPulseEnd hab hdel hnd hpc)
  | sendResp e =>
      have hle := d.uartToTcp.length_le
      simp only [uartToTcpDepth] at hle
      by_cases hroom : d.uartToTcp.items.length < 128
      · exact .inl (nearer_txSend hab hdel hpc hroom)
      · exact .inr (.inr ⟨rfl, by omega⟩)
  | writeEfd => exact .inl (nearer_txWriteEfd hab hdel hpc)

/-- `uart_rx_task` goes on, or it waits: for a byte, or for room. -/
theorem nearer_of_rx (hab : d.aborted = false) (hdel : d.tcp ≠ .deleted) (hnd : ¬ Deadlocking d)
    (hbuf : Buffered d) (htx : d.tx = .recvQ ∨ d.uartToTcp.items.length = 128) :
    Nearer cfg d ∨ (d.rx = .waitEvent ∧ d.ring = []) ∨
      d.rx ≠ .writeEfd ∧ d.uartToTcp.items.length = 128 := by
  cases hpc : d.rx with
  | waitEvent =>
      by_cases hring : d.ring = []
      · exact .inr (.inl ⟨rfl, hring⟩)
      · exact .inl (nearer_rxEvent hab hdel hnd hpc hring)
  | read n => exact .inl (nearer_rxRead hab hdel hnd hbuf hpc)
  | sendQ m =>
      have hle := d.uartToTcp.length_le
      simp only [uartToTcpDepth] at hle
      by_cases hroom : d.uartToTcp.items.length < 128
      · rcases htx with htx | hfull
        · exact .inl (nearer_rxSend hab hdel htx hpc hroom)
        · omega
      · exact .inr (.inr ⟨RxPc.noConfusion, by omega⟩)
  | writeEfd => exact .inl (nearer_rxWriteEfd hab hdel hnd hpc)

/-- `tcp_task` goes on, or it waits: for room, or for the client and the counter. -/
theorem nearer_of_tcp (hab : d.aborted = false) (hdel : d.tcp ≠ .deleted) :
    Nearer cfg d ∨ (d.tcp.enqueuing ∧ d.tcpToUart.items.length = 16) ∨
      d.tcp = .select ∧ d.efd = 0 := by
  cases hpc : d.tcp with
  | setup => exact .inl (nearer_setup hab hpc)
  | deleted => exact absurd hpc hdel
  | accept => exact .inl (nearer_accept hab hpc)
  | select =>
      by_cases hefd : 0 < d.efd
      · exact .inl (nearer_select hab hpc hefd)
      · exact .inr (.inr ⟨rfl, Nat.eq_zero_of_not_pos hefd⟩)
  | readHdr efd got junk => exact .inl (nearer_recvFail hab (.inl ⟨efd, got, junk, hpc⟩))
  | readBody efd kind len got junk =>
      exact .inl (nearer_recvFail hab (.inr ⟨efd, kind, len, got, junk, hpc⟩))
  | enqueue efd e =>
      have hle := d.tcpToUart.length_le
      simp only [tcpToUartDepth] at hle
      by_cases hroom : d.tcpToUart.items.length < 16
      · exact .inl (nearer_tcpEnqueue hab hpc hroom)
      · exact .inr (.inl ⟨rfl, by omega⟩)
  | readEfd => exact .inl (nearer_readEfd hab hpc)
  | drain => exact .inl (nearer_drain hab hpc)
  | sendHdr e => exact .inl (nearer_sendHdr hab hpc)
  | sendBody e => exact .inl (nearer_sendBody hab hpc)

/-- **Short of rest there is a way on.** -/
theorem idle_or_nearer (hab : d.aborted = false) (hdel : d.tcp ≠ .deleted)
    (hnd : ¬ Deadlocking d) (hnot : Notified d) (hbuf : Buffered d) : Idle d ∨ Nearer cfg d := by
  rcases (nearer_of_tx hab hdel hnd : Nearer cfg d ∨ _) with h | htx
  · exact .inr h
  rcases (nearer_of_rx hab hdel hnd hbuf (htx.imp And.left And.right) : Nearer cfg d ∨ _)
    with h | hrx
  · exact .inr h
  rcases (nearer_of_tcp hab hdel : Nearer cfg d ∨ _) with h | ⟨henq, hfull⟩ | ⟨htcp, hefd⟩
  · exact .inr h
  · -- `uart_tx_task` would make room if it did not wait for room itself
    rcases htx with ⟨-, hnil⟩ | ⟨hresp, hfull'⟩
    · rw [hnil] at hfull
      cases hfull
    · refine absurd ⟨henq, hfull, ?_, hfull'⟩ hnd
      cases hpc : d.tx with
      | sendResp => rfl
      | _ =>
          rw [hpc] at hresp
          cases hresp
  · -- nobody is about to write the counter, so there is room
    have hpend : ¬ d.ProducerPending := by
      rintro (hpc | hpc)
      · rcases hrx with ⟨hwait, -⟩ | ⟨hne, -⟩
        · rw [hpc] at hwait
          cases hwait
        · exact hne hpc
      · rcases htx with ⟨hrecv, -⟩ | ⟨hresp, -⟩
        · rw [hpc] at hrecv
          cases hrecv
        · rw [hpc] at hresp
          cases hresp
    have hroom : d.uartToTcp.items.length < 128 := by
      rcases hnot with hroom | hpos | hp | hdrain
      · exact hroom
      · omega
      · exact absurd hp hpend
      · rw [htcp] at hdrain
        cases hdrain
    obtain ⟨hrecv, htoUart⟩ : d.tx = .recvQ ∧ d.tcpToUart.items = [] :=
      htx.resolve_right fun h => Nat.ne_of_lt hroom h.2
    obtain ⟨hwait, hring⟩ : d.rx = .waitEvent ∧ d.ring = [] :=
      hrx.resolve_right fun h => Nat.ne_of_lt hroom h.2
    by_cases htoTcp : d.uartToTcp.items = []
    · exact .inl ⟨hab, htcp, hwait, hrecv, hring, htoUart, htoTcp⟩
    · exact .inr (nearer_uartIn hab hdel hnd ⟨hefd, htoTcp, hring, hwait,
        by rw [hrecv]; exact TxPc.noConfusion, by rw [htcp]; rfl⟩)

/-- **The firmware can come to rest exactly if it is not deadlocking.** From every reachable state
in which the chip has not restarted and the server socket was not given up, the tasks can get to a
state in which everything that had arrived was handed on and a client is served, unless `tcp_task`
waits for room in a full `tcp_to_uart_queue` while `uart_tx_task` answers a control request and
`uart_to_tcp_queue` is full as well: then neither of the two ever moves past it. -/
theorem comes_to_rest_iff (h : (machine cfg).Reaches log d) (hab : d.aborted = false)
    (hdel : d.tcp ≠ .deleted) : (machine cfg).CanReach Idle d ↔ ¬ Deadlocking d := by
  constructor
  · rintro ⟨d', hlead, hidle⟩ hdead
    have hdead' := hlead.invariant h hdead fun _ _ _ _ _ _ hdead hs => hdead.step (step_cases hs)
    have htcp := hdead'.1
    rw [hidle.tcp] at htcp
    cases htcp
  · intro hnd
    refine Machine.canReach_of_rank (P := fun d => (∃ log, (machine cfg).Reaches log d) ∧
      d.aborted = false ∧ d.tcp ≠ .deleted ∧ ¬ Deadlocking d) rank ?_ ⟨⟨log, h⟩, hab, hdel, hnd⟩
    rintro d ⟨⟨log, hr⟩, hab, hdel, hnd⟩ hnot
    obtain ⟨i, d', out, hs, hab', hdel', hnd', hlt⟩ := (idle_or_nearer hab hdel hnd
      (notified_of_reaches hr) (buffered_of_reaches hr)).resolve_left hnot
    exact ⟨d', ⟨i, out, hs⟩, ⟨⟨_, hr.step hs⟩, hab', hdel', hnd'⟩, hlt⟩

/-- A wake-up was lost: two UART bytes were queued, sending the first one failed, and `tcp_task` is
at `select` with the counter at 0. The firmware can come to rest all the same. -/
theorem comes_to_rest_after_lost_wake_up : ∃ log d, (machine ⟨true, false⟩).Reaches log d ∧
    d.tcp = .select ∧ d.efd = 0 ∧ d.uartToTcp.items ≠ [] ∧
      (machine ⟨true, false⟩).CanReach Idle d := by
  have hrun : (machine ⟨true, false⟩).Reaches _ _ :=
    Machine.Reaches.init.exec [.setup true, .accept (some 0),
      .uartIn [65], .rxEvent true, .rxRead 1 Block.zero, .rxSend, .rxWriteEfd,
      .uartIn [66], .rxEvent true, .rxRead 1 Block.zero, .rxSend, .rxWriteEfd,
      .select false true Block.zero, .readEfd, .drain, .sendFail 0, .accept (some 1)] rfl
  exact ⟨_, _, hrun, rfl, rfl, List.cons_ne_nil _ _,
    (comes_to_rest_iff hrun rfl TcpPc.noConfusion).mpr (not_deadlocking_of_tcp rfl)⟩

end Device

end TcpUart
