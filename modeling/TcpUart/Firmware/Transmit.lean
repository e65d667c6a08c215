import TcpUart.Firmware.Settings

/-! # What leaves the UART, and under which settings
`uart_write_bytes` copies its bytes into the transmit buffer of the driver and returns when all of
them are there; the hardware transmits the buffer at its own pace. The `uart_set_*` calls of
`apply_config` take effect at once. So the device of `Firmware.Device` runs beside a transmitter
that shares the buffer and the settings with it.

* `UartLine.step` — a step of the device, a byte copied into the buffer, or a byte transmitted.
* `due` — what the messages `uart_tx_task` has taken are to make of the line: every data byte under
  the settings of the `Config` messages before it.
* `sent_in_order` — in every run, the condition under which the line carries just that. -/

namespace TcpUart

open Reactive Framing

/-- Size of the transmit buffer of the UART driver. -/
def uartTxBufferSize : Nat := 1024

/-- The device and the transmit side of its UART driver. -/
structure UartLine where
  /-- The device. -/
  device : Device
  /-- What the `uart_write_bytes` in progress has not copied yet; `uart_tx_task` waits in it. -/
  copying : Bytes
  /-- The transmit buffer. -/
  txBuffer : BoundedQueue UInt8 uartTxBufferSize

/-- Who goes on. -/
inductive LineInput
  /-- A task of the device. -/
  | device (i : DevInput)
  /-- `uart_write_bytes` copies a byte. -/
  | copy
  /-- The hardware transmits a byte. -/
  | transmit

/-- What an observer of the device and of the line sees. -/
inductive LineObs
  /-- Of the device. -/
  | device (o : DevObs)
  /-- A byte is on the line, under these settings. -/
  | transmitted (b : UInt8) (settings : UartSettings)

/-- The bytes of a call of `uart_write_bytes`. -/
def DevObs.uartWrote? : DevObs → Option Bytes
  | .uartWrote bs => some bs
  | _ => none

/-- The bytes that are written to the UART. -/
def uartWritten (out : List DevObs) : Bytes := (out.filterMap DevObs.uartWrote?).flatten

/-- What is on the line, in order. -/
def LineObs.transmitted? : LineObs → Option (UInt8 × UartSettings)
  | .transmitted b settings => some (b, settings)
  | _ => none

/-- The message that `uart_tx_task` takes from its queue. -/
def LineObs.taken? : LineObs → Option Entry
  | .device o => o.txTaken?
  | _ => none

/-- What was on the line, each byte with its settings. -/
def transmitted (log : List LineObs) : List (UInt8 × UartSettings) :=
  log.filterMap LineObs.transmitted?

/-- The messages `uart_tx_task` has taken from its queue, in order. -/
def taken (log : List LineObs) : List Entry := log.filterMap LineObs.taken?

/-- What a sequence of messages is to put on the line: every byte of a `Data` message under the
settings that the `Config` messages before it make of `settings`. -/
def due (cfg : DeviceConfig) : UartSettings → List Entry → List (UInt8 × UartSettings)
  | _, [] => []
  | settings, e :: es =>
      if e.msg.kind = MESSAGE_KIND_DATA then
        (e.msg.payload.map fun b => (b, settings)) ++ due cfg settings es
      else
        match e.config? with
        | some config => due cfg (applyConfig cfg config settings) es
        | none => due cfg settings es

/-- The bytes of a `Data` message are due under the settings so far. -/
theorem due_data {cfg : DeviceConfig} {settings : UartSettings} {e : Entry} {es : List Entry}
    (hk : e.msg.kind = MESSAGE_KIND_DATA) : due cfg settings (e :: es)
      = (e.msg.payload.map fun b => (b, settings)) ++ due cfg settings es := if_pos hk

/-- A `Config` message changes the settings of what is due after it. -/
theorem due_config {cfg : DeviceConfig} {settings : UartSettings} {e : Entry} {es : List Entry}
    {config : ConfigMessage} (hk : e.msg.kind ≠ MESSAGE_KIND_DATA) (hc : e.config? = some config) :
    due cfg settings (e :: es) = due cfg (applyConfig cfg config settings) es := by
  rw [due, if_neg hk, hc]

/-- Other messages are not for the line. -/
theorem due_other {cfg : DeviceConfig} {settings : UartSettings} {e : Entry} {es : List Entry}
    (hk : e.msg.kind ≠ MESSAGE_KIND_DATA) (hc : e.config? = none) :
    due cfg settings (e :: es) = due cfg settings es := by
  rw [due, if_neg hk, hc]

/-- **In order**: what was on the line is the beginning of what the messages taken are to put
there. -/
def SentInOrder (cfg : DeviceConfig) (log : List LineObs) : Prop :=
  transmitted log <+: due cfg UartSettings.initial (taken log)

namespace UartLine

/-- The device as it boots, with nothing to transmit. -/
def init : UartLine := ⟨Device.init, [], .empty⟩

/-- One step. -/
def step (cfg : DeviceConfig) (l : UartLine) : LineInput → Option (UartLine × List LineObs)
  | .device i =>
      -- `uart_tx_task` takes no message while it is in `uart_write_bytes`
      if i = .txRecv ∧ l.copying ≠ [] then none
      else
        (l.device.step cfg i).map fun r =>
          ({ l with device := r.1, copying := l.copying ++ uartWritten r.2 }, r.2.map .device)
  | .copy =>
      -- the chip restarts when the device has aborted
      if l.device.aborted then none
      else
        match l.copying with
        | [] => none
        -- waits while the buffer is full
        | b :: rest =>
            (l.txBuffer.push b).map fun q => ({ l with copying := rest, txBuffer := q }, [])
  | .transmit =>
      if l.device.aborted then none
      else
        l.txBuffer.pop.map fun r =>
          ({ l with txBuffer := r.2 }, [.transmitted r.1 l.device.settings])

/-- The machine of the device and its transmitter. -/
def machine (cfg : DeviceConfig) : Machine UartLine LineInput LineObs := ⟨init, step cfg⟩

/-- What was written to the UART and is not on the line yet, in order. -/
def waiting (l : UartLine) : Bytes := l.txBuffer.items ++ l.copying

/-- **A `Config` message is handled only when nothing waits to be transmitted**, or when it changes
no setting. (If an `ESP_ERROR_CHECK` fails the chip restarts.) -/
def ConfigsWhenIdle (cfg : DeviceConfig) (l : UartLine) (i : LineInput) : Prop :=
  ∀ junk e config, i = .device (.txHandle junk false) → l.device.tx = .handle e →
    e.config? = some config →
      l.txBuffer.items = [] ∨ applyConfig cfg config l.device.settings = l.device.settings

/-! ## What a step of the device does to the line -/

/-- What a step of the device does to the messages of `uart_tx_task`, to what is written and to the
settings. -/
inductive TxEffect (cfg : DeviceConfig) (d : Device) : DevInput → Device → List DevObs → Prop
  /-- Nothing. -/
  | quiet {i : DevInput} {d' : Device} {out : List DevObs} (hset : d'.settings = d.settings)
      (htodo : d'.tx.toHandle = d.tx.toHandle) (hpc : d.tx = .recvQ → d'.tx = .recvQ)
      (htaken : out.filterMap DevObs.txTaken? = []) (hwrote : uartWritten out = []) :
      TxEffect cfg d i d' out
  /-- A message is taken. -/
  | took {e : Entry} {d' : Device} {out : List DevObs} (hpc : d.tx = .recvQ)
      (hpc' : d'.tx = .handle e) (hset : d'.settings = d.settings)
      (htaken : out.filterMap DevObs.txTaken? = [e]) (hwrote : uartWritten out = []) :
      TxEffect cfg d .txRecv d' out
  /-- Data is written. -/
  | wrote {i : DevInput} {e : Entry} {d' : Device} {out : List DevObs} (hpc : d.tx = .handle e)
      (hk : e.msg.kind = MESSAGE_KIND_DATA) (hpc' : d'.tx = .recvQ)
      (hset : d'.settings = d.settings) (htaken : out.filterMap DevObs.txTaken? = [])
      (hwrote : uartWritten out = e.msg.payload) : TxEffect cfg d i d' out
  /-- Settings are applied. -/
  | applied {e : Entry} {config : ConfigMessage} {junk : Block} {d' : Device} {out : List DevObs}
      (hpc : d.tx = .handle e) (hk : e.msg.kind ≠ MESSAGE_KIND_DATA)
      (hconfig : e.config? = some config) (hpc' : d'.tx = .recvQ)
      (hset : d'.settings = applyConfig cfg config d.settings) (hrun : d'.aborted = false)
      (htaken : out.filterMap DevObs.txTaken? = []) (hwrote : uartWritten out = []) :
      TxEffect cfg d (.txHandle junk false) d' out
  /-- The chip restarts. -/
  | aborted {i : DevInput} {d' : Device} {out : List DevObs} (hab : d'.aborted = true)
      (hpc : d.tx ≠ .recvQ) (htaken : out.filterMap DevObs.txTaken? = [])
      (hwrote : uartWritten out = []) : TxEffect cfg d i d' out
  /-- A message is done with that concerns neither the line nor the settings. -/
  | passed {i : DevInput} {e : Entry} {d' : Device} {out : List DevObs} (hpc : d.tx = .handle e)
      (hk : e.msg.kind ≠ MESSAGE_KIND_DATA) (hconfig : e.config? = none)
      (hpc' : d'.tx.toHandle = []) (hset : d'.settings = d.settings)
      (htaken : out.filterMap DevObs.txTaken? = []) (hwrote : uartWritten out = []) :
      TxEffect cfg d i d' out

/-- Every step of the device has one of these effects. -/
theorem txEffect_of_step {cfg : DeviceConfig} {d d' : Device} {i : DevInput} {out : List DevObs}
    (h : d.step cfg i = some (d', out)) : TxEffect cfg d i d' out := by
  have hrun := Device.not_aborted_of_step h
  cases Device.step_cases h with
  | txRecv hpc => exact .took hpc rfl rfl rfl rfl
  | @txData e junk fault hpc hk =>
      exact .wrote hpc hk rfl rfl rfl (List.append_nil _)
  | @txConfig e junk settings aborted tx fault hpc hk hlen hres =>
      rcases hres with ⟨-, rfl, -⟩ | ⟨rfl, rfl, rfl, rfl⟩
      · refine .aborted rfl ?_ rfl rfl
        rw [hpc]
        exact TxPc.noConfusion
      · have hconfig : e.config? = some (ConfigMessage.ofBody e.msg.body) := if_pos ⟨hk, hlen⟩
        exact .applied hpc (by rw [hk]; decide) hconfig rfl rfl hrun rfl rfl
  | txSkip hpc hk hcfg =>
      exact .passed hpc hk (if_neg fun hc => hcfg hc.1 hc.2) rfl rfl rfl rfl
  | txPulse hpc hk =>
      exact .passed hpc (by rw [hk]; decide) (Entry.config?_of_kind (by rw [hk]; decide))
        rfl rfl rfl rfl
  | txDecline hpc hk =>
      exact .passed hpc (by rw [hk]; decide) (Entry.config?_of_kind (by rw [hk]; decide))
        rfl rfl rfl rfl
  | txPulseEnd hpc => exact .quiet rfl (by rw [hpc]; rfl) (by rw [hpc]; nofun) rfl rfl
  | txSend hpc => exact .quiet rfl (by rw [hpc]; rfl) (by rw [hpc]; nofun) rfl rfl
  | txWriteEfd hpc => exact .quiet rfl (by rw [hpc]; rfl) (fun _ => rfl) rfl rfl
  | _ => exact .quiet rfl rfl id rfl rfl

/-- The transitions of the device and its transmitter. -/
inductive Step (cfg : DeviceConfig) (l : UartLine) : LineInput → UartLine → List LineObs → Prop
  /-- The device goes on. -/
  | device {i : DevInput} {d' : Device} {out : List DevObs} (hfree : i = .txRecv → l.copying = [])
      (hs : l.device.step cfg i = some (d', out)) :
      Step cfg l (.device i)
        { l with device := d', copying := l.copying ++ uartWritten out } (out.map .device)
  /-- A byte is copied into the buffer. -/
  | copy {b : UInt8} {rest : Bytes} {q : BoundedQueue UInt8 uartTxBufferSize}
      (hcopy : l.copying = b :: rest) (hpush : l.txBuffer.push b = some q) :
      Step cfg l .copy { l with copying := rest, txBuffer := q } []
  /-- A byte is transmitted. -/
  | transmit {b : UInt8} {q : BoundedQueue UInt8 uartTxBufferSize}
      (hrun : l.device.aborted = false) (hpop : l.txBuffer.pop = some (b, q)) :
      Step cfg l .transmit { l with txBuffer := q } [.transmitted b l.device.settings]

/-- Inversion of the step function. -/
theorem step_cases {cfg : DeviceConfig} {l l' : UartLine} {i : LineInput} {out : List LineObs}
    (h : l.step cfg i = some (l', out)) : Step cfg l i l' out := by
  cases i with
  | device i =>
      simp only [step] at h
      split at h
      · cases h
      · rename_i hfree
        obtain ⟨⟨d', out'⟩, hs, heq⟩ := Option.map_eq_some_iff.mp h
        cases heq
        refine .device (fun hi => ?_) hs
        by_contra hcopy
        exact hfree ⟨hi, hcopy⟩
  | copy =>
      simp only [step] at h
      split at h
      · cases h
      · split at h
        · cases h
        · rename_i b rest hcopy
          obtain ⟨q, hpush, heq⟩ := Option.map_eq_some_iff.mp h
          cases heq
          exact .copy hcopy hpush
  | transmit =>
      simp only [step] at h
      split at h
      · cases h
      · rename_i hrun
        obtain ⟨⟨b, q⟩, hpop, heq⟩ := Option.map_eq_some_iff.mp h
        cases heq
        exact .transmit (Bool.eq_false_iff.mpr hrun) hpop

/-! ## Order on the line -/

/-- What is taken in a step of the device. -/
theorem taken_device (out : List DevObs) :
    taken (out.map .device) = out.filterMap DevObs.txTaken? := by
  rw [taken, List.filterMap_map]
  rfl

/-- A step of the device transmits nothing. -/
theorem transmitted_device (out : List DevObs) : transmitted (out.map .device) = [] := by
  rw [transmitted, List.filterMap_map]
  exact List.filterMap_eq_nil_iff.mpr fun _ _ => rfl

/-- Nothing is taken while a byte is transmitted. -/
theorem taken_transmitted (b : UInt8) (settings : UartSettings) :
    taken [.transmitted b settings] = [] := rfl

/-- That byte is on the line. -/
theorem transmitted_transmitted (b : UInt8) (settings : UartSettings) :
    transmitted [.transmitted b settings] = [(b, settings)] := rfl

/-- What is taken is taken before or after. -/
theorem taken_append (log out : List LineObs) : taken (log ++ out) = taken log ++ taken out :=
  List.filterMap_append

/-- What is on the line is there before or after. -/
theorem transmitted_append (log out : List LineObs) :
    transmitted (log ++ out) = transmitted log ++ transmitted out :=
  List.filterMap_append

/-- The invariant of the line. -/
structure Ordered (cfg : DeviceConfig) (log : List LineObs) (l : UartLine) : Prop where
  /-- What was on the line was in order. -/
  sent : SentInOrder cfg log
  /-- Whatever messages follow: what they and those taken are to put on the line is what was there,
  then what waits, under the settings of the driver, then what is still to be handled. -/
  rest : l.device.aborted = false → ∀ more, due cfg UartSettings.initial (taken log ++ more)
    = transmitted log ++ (l.waiting.map fun b => (b, l.device.settings))
      ++ due cfg l.device.settings (l.device.tx.toHandle ++ more)
  /-- While it copies, `uart_tx_task` has no message in hand. -/
  idle : l.copying ≠ [] → l.device.tx = .recvQ

/-- With a message in hand nothing is being copied. -/
theorem Ordered.copying_eq_nil {cfg : DeviceConfig} {log : List LineObs} {l : UartLine} {e : Entry}
    (h : Ordered cfg log l) (hpc : l.device.tx = .handle e) : l.copying = [] := by
  by_contra hcopy
  rw [h.idle hcopy] at hpc
  cases hpc

/-- What was on the line is the beginning of what is due, as long as the chip runs. -/
theorem sentInOrder_of_rest {cfg : DeviceConfig} {log : List LineObs}
    {waiting tail : List (UInt8 × UartSettings)}
    (h : due cfg UartSettings.initial (taken log ++ []) = transmitted log ++ waiting ++ tail) :
    SentInOrder cfg log := by
  rw [List.append_nil, List.append_assoc] at h
  exact ⟨waiting ++ tail, h.symm⟩

/-- A step of the device keeps the order if it keeps what becomes of the messages that follow. -/
theorem ordered_of_due {cfg : DeviceConfig} {log : List LineObs} {l : UartLine} {d' : Device}
    {out : List DevObs}
    (hdue : ∀ more, due cfg UartSettings.initial
        (taken log ++ (out.filterMap DevObs.txTaken? ++ more))
      = transmitted log ++ ((l.txBuffer.items ++ (l.copying ++ uartWritten out)).map
          fun b => (b, d'.settings)) ++ due cfg d'.settings (d'.tx.toHandle ++ more))
    (hidle : l.copying ++ uartWritten out ≠ [] → d'.tx = .recvQ) :
    Ordered cfg (log ++ out.map .device)
      { l with device := d', copying := l.copying ++ uartWritten out } := by
  have hall : ∀ more, due cfg UartSettings.initial (taken (log ++ out.map .device) ++ more)
      = transmitted (log ++ out.map .device) ++ ((l.txBuffer.items ++ (l.copying
          ++ uartWritten out)).map fun b => (b, d'.settings))
        ++ due cfg d'.settings (d'.tx.toHandle ++ more) := by
    intro more
    rw [taken_append, taken_device, transmitted_append, transmitted_device, List.append_nil,
      List.append_assoc]
    exact hdue more
  exact ⟨sentInOrder_of_rest (hall []), fun _ => hall, hidle⟩

/-- **Every step of the device keeps the order**, if settings change only when nothing waits. -/
theorem Ordered.device {cfg : DeviceConfig} {log : List LineObs} {l : UartLine} {i : DevInput}
    {d' : Device} {out : List DevObs} (h : Ordered cfg log l)
    (hok : l.ConfigsWhenIdle cfg (.device i)) (hfree : i = .txRecv → l.copying = [])
    (hs : l.device.step cfg i = some (d', out)) :
    Ordered cfg (log ++ out.map .device)
      { l with device := d', copying := l.copying ++ uartWritten out } := by
  have hrun := Device.not_aborted_of_step hs
  have hrest := h.rest hrun
  cases txEffect_of_step hs with
  | quiet hset htodo hpc htaken hwrote =>
      refine ordered_of_due (fun more => ?_) fun hcopy => ?_
      · rw [htaken, hwrote, hset, htodo, List.append_nil, List.nil_append]
        exact hrest more
      · rw [hwrote, List.append_nil] at hcopy
        exact hpc (h.idle hcopy)
  | @took e _ _ hpc hpc' hset htaken hwrote =>
      have hcopy := hfree rfl
      refine ordered_of_due (fun more => ?_) fun hne => ?_
      · have hmore := hrest (e :: more)
        rw [hpc] at hmore
        rw [htaken, hwrote, hset, hpc', List.append_nil]
        exact hmore
      · rw [hwrote, hcopy] at hne
        exact absurd rfl hne
  | @wrote _ e _ _ hpc hk hpc' hset htaken hwrote =>
      have hcopy := h.copying_eq_nil hpc
      refine ordered_of_due (fun more => ?_) fun _ => hpc'
      have hmore := hrest more
      rw [hpc, waiting, hcopy, List.append_nil] at hmore
      rw [htaken, hwrote, hset, hpc', hcopy, List.nil_append, List.nil_append, List.map_append,
        hmore]
      show _ ++ due cfg _ (e :: more) = _
      rw [due_data hk, List.append_assoc, List.append_assoc, List.append_assoc]
      rfl
  | @applied e config junk _ _ hpc hk hconfig hpc' hset hrun' htaken hwrote =>
      have hcopy := h.copying_eq_nil hpc
      refine ordered_of_due (fun more => ?_) fun _ => hpc'
      have hmore := hrest more
      rw [hpc, waiting, hcopy, List.append_nil] at hmore
      rw [htaken, hwrote, hset, hpc', hcopy, List.nil_append, List.nil_append, List.append_nil,
        hmore]
      show _ ++ due cfg _ (e :: more) = _ ++ due cfg _ more
      rw [due_config hk hconfig]
      -- no byte waits that the new settings could reach, or they are not new
      rcases hok junk e config rfl hpc hconfig with hempty | hsame
      · rw [hempty]
        rfl
      · rw [hsame]
  -- nothing more is transmitted
  | aborted hab hpc htaken hwrote =>
      refine ⟨?_, fun hrun' => ?_, fun hne => ?_⟩
      · rw [SentInOrder, taken_append, taken_device, htaken, List.append_nil, transmitted_append,
          transmitted_device, List.append_nil]
        exact h.sent
      · rw [hab] at hrun'
        cases hrun'
      · rw [hwrote, List.append_nil] at hne
        exact absurd (h.idle hne) hpc
  | @passed _ e _ _ hpc hk hconfig hpc' hset htaken hwrote =>
      have hcopy := h.copying_eq_nil hpc
      refine ordered_of_due (fun more => ?_) fun hne => ?_
      · have hmore := hrest more
        rw [hpc] at hmore
        rw [htaken, hwrote, hset, hpc', List.append_nil, List.nil_append]
        refine hmore.trans ?_
        show _ ++ due cfg _ (e :: more) = _ ++ due cfg _ more
        rw [due_other hk hconfig]
        rfl
      · rw [hwrote, hcopy] at hne
        exact absurd rfl hne

/-- **Every step keeps the order**, if settings change only when nothing waits. -/
theorem Ordered.step {cfg : DeviceConfig} {log out : List LineObs} {l l' : UartLine} {i : LineInput}
    (h : Ordered cfg log l) (hok : l.ConfigsWhenIdle cfg i) (hs : Step cfg l i l' out) :
    Ordered cfg (log ++ out) l' := by
  cases hs with
  | device hfree hs => exact h.device hok hfree hs
  | @copy b rest q hcopy hpush =>
      have hmoved : q.items ++ rest = l.waiting := by
        rw [waiting, hcopy, (BoundedQueue.items_of_push hpush).1, List.append_assoc]
        rfl
      have hne : l.copying ≠ [] := by
        rw [hcopy]
        exact List.cons_ne_nil b rest
      rw [List.append_nil]
      refine ⟨h.sent, fun hrun more => ?_, fun _ => h.idle hne⟩
      rw [waiting, hmoved]
      exact h.rest hrun more
  -- the first byte that waits is the next one due
  | @transmit b q hrun hpop =>
      have hall : ∀ more, due cfg UartSettings.initial
          (taken (log ++ [.transmitted b l.device.settings]) ++ more)
          = transmitted (log ++ [.transmitted b l.device.settings])
            ++ ((q.items ++ l.copying).map fun b => (b, l.device.settings))
            ++ due cfg l.device.settings (l.device.tx.toHandle ++ more) := by
        intro more
        have hmore := h.rest hrun more
        rw [waiting, BoundedQueue.items_of_pop hpop] at hmore
        rw [taken_append, taken_transmitted, transmitted_append, transmitted_transmitted,
          List.append_nil, hmore]
        simp only [List.map_append, List.map_cons, List.cons_append, List.append_assoc,
          List.nil_append]
      exact ⟨sentInOrder_of_rest (hall []), fun _ => hall, h.idle⟩

/-- The invariant holds along every run in which settings change only when nothing waits. -/
theorem ordered_of_run {cfg : DeviceConfig} {log : List LineObs} {l : UartLine}
    (h : (machine cfg).Run (ConfigsWhenIdle cfg) log l) : Ordered cfg log l := by
  refine h.invariant (P := Ordered cfg) ?_ ?_
  · exact ⟨List.prefix_refl _, fun _ _ => rfl, fun hne => absurd rfl hne⟩
  · intro log l i l' out _ hord hok hs
    exact hord.step hok (step_cases hs)

/-! ## Settings that change too early -/

/-- `uart_tx_task` applies a configuration as soon as it handles the message. -/
theorem step_txHandle_config {cfg : DeviceConfig} {d : Device} {e : Entry} {config : ConfigMessage}
    (junk : Block) (hrun : d.aborted = false) (hpc : d.tx = .handle e)
    (hconfig : e.config? = some config) :
    d.step cfg (.txHandle junk false) = some ({ d with
      tx := .recvQ, settings := applyConfig cfg config d.settings }, [.configApplied config]) := by
  have hc : e.msg.kind = MESSAGE_KIND_CONFIG ∧ e.msg.len.toNat = sizeofConfigMessage := by
    by_contra hnot
    rw [Entry.config?, if_neg hnot] at hconfig
    cases hconfig
  rw [Entry.config?, if_pos hc, Option.some.injEq] at hconfig
  have hdata : e.msg.kind ≠ MESSAGE_KIND_DATA := by
    rw [hc.1]
    decide
  have htx : d.stepTx cfg (.txHandle junk false) = some (d.handleMessage cfg e junk false) := by
    rw [Device.stepTx, hpc]
  have hmsg : d.handleMessage cfg e junk false = ({ d with
      tx := .recvQ, settings := applyConfig cfg config d.settings }, [.configApplied config]) := by
    rw [Device.handleMessage, if_neg hdata, if_pos hc.1, if_neg (not_not.mpr hc.2), ← hconfig]
    rfl
  rw [Device.step, if_neg (Bool.eq_false_iff.mp hrun), ← hmsg, ← htx]
  rfl

/-- The oldest byte of the buffer goes on the line under the settings of the driver. -/
theorem step_transmit {cfg : DeviceConfig} {l : UartLine} {b : UInt8}
    {q : BoundedQueue UInt8 uartTxBufferSize} (hrun : l.device.aborted = false)
    (hpop : l.txBuffer.pop = some (b, q)) : l.step cfg .transmit
      = some ({ l with txBuffer := q }, [.transmitted b l.device.settings]) := by
  simp only [step]
  rw [if_neg (Bool.eq_false_iff.mp hrun), hpop]
  rfl

/-- **A byte that waits while other settings are applied** is transmitted under those. -/
theorem not_sentInOrder {cfg : DeviceConfig} {log out : List LineObs} {l l' : UartLine}
    {i : LineInput} (h : Ordered cfg log l) (hs : l.step cfg i = some (l', out))
    (hnot : ¬ l.ConfigsWhenIdle cfg i) :
    ∃ l'' out', l'.step cfg .transmit = some (l'', out') ∧
      ¬ SentInOrder cfg (log ++ out ++ out') := by
  simp only [ConfigsWhenIdle, not_forall, not_or] at hnot
  obtain ⟨junk, e, config, rfl, hpc, hconfig, hbuf, hset⟩ := hnot
  cases step_cases hs with
  | @device _ d' out hfree hdev =>
      have hrun := Device.not_aborted_of_step hdev
      rw [step_txHandle_config junk hrun hpc hconfig] at hdev
      cases hdev
      -- the first byte in the buffer is the next one on the line
      obtain ⟨⟨b, q⟩, hpop⟩ : ∃ r, l.txBuffer.pop = some r := by
        by_contra hnone
        exact hbuf (BoundedQueue.items_of_pop_none (Option.eq_none_iff_forall_ne_some.mpr
          fun r hr => hnone ⟨r, hr⟩))
      refine ⟨_, _, step_transmit hrun hpop, fun hsent => ?_⟩
      have hrest := h.rest hrun []
      rw [List.append_nil, waiting, BoundedQueue.items_of_pop hpop] at hrest
      rw [SentInOrder, taken_append, taken_transmitted, List.append_nil, taken_append,
        taken_device, transmitted_append, transmitted_append, transmitted_device, List.append_nil,
        transmitted_transmitted] at hsent
      replace hsent : transmitted log ++ [(b, applyConfig cfg config l.device.settings)]
          <+: due cfg UartSettings.initial (taken log ++ []) := hsent
      rw [List.append_nil, hrest, List.append_assoc, List.prefix_append_right_inj] at hsent
      obtain ⟨tail, htail⟩ := hsent
      have hpair := (List.cons.inj htail).1
      exact hset (Prod.mk.inj hpair).2

/-- **The line carries what the messages taken are to make of it**, every data byte under the
settings of the last `Config` message before it, as long as a `Config` message that changes the
settings is handled only when the transmit buffer is empty. A step that breaks this condition lets
the next byte on the line break the order: `apply_config` does not wait for the bytes that
`uart_write_bytes` left in the buffer. -/
theorem sent_in_order {cfg : DeviceConfig} {log : List LineObs} {l : UartLine}
    (h : (machine cfg).Run (ConfigsWhenIdle cfg) log l) :
    SentInOrder cfg log ∧
      ∀ i l' out, l.step cfg i = some (l', out) → ¬ l.ConfigsWhenIdle cfg i →
        ∃ l'' out', l'.step cfg .transmit = some (l'', out') ∧
          ¬ SentInOrder cfg (log ++ out ++ out') := by
  have hord := ordered_of_run h
  exact ⟨hord.sent, fun _ _ _ hs hnot => not_sentInOrder hord hs hnot⟩

/-- One byte, then 9600 baud: with the byte transmitted before the message is handled, all is in
order. -/
theorem sent_in_order_when_idle :
    ∃ log l, (machine ⟨true, false⟩).Run (ConfigsWhenIdle ⟨true, false⟩) log l ∧
      l.device.settings.baudRate = 9600 ∧ SentInOrder ⟨true, false⟩ log := by
  have hrun : ((machine ⟨true, false⟩).restrict fun l _ =>
      l.txBuffer.items.isEmpty || l.device.tx = .recvQ).Reaches _ _ :=
    Machine.Reaches.init.exec [.device (.setup true), .device (.accept (some 0)),
      .device (.select true false Block.zero), .device (.recv [1, 1]), .device (.recv [65]),
      .device .tcpEnqueue, .device (.select true false Block.zero), .device (.recv [2, 8]),
      .device (.recv [0, 0, 0x25, 0x80, 8, 1, 0, 0]), .device .tcpEnqueue, .device .txRecv,
      .device (.txHandle Block.zero false), .copy, .transmit, .device .txRecv,
      .device (.txHandle Block.zero false)] rfl
  have hrun' := hrun.of_restrict (ConfigsWhenIdle ⟨true, false⟩) fun l i hcheck _ e _ _ hpc _ => by
    rw [Bool.or_eq_true, decide_eq_true_eq, hpc, List.isEmpty_iff] at hcheck
    exact .inl (hcheck.resolve_right TxPc.noConfusion)
  exact ⟨_, _, hrun', by decide, (sent_in_order hrun').1⟩

/-- **A byte is transmitted under later settings.** It is still in the transmit buffer when the
message that changes the baud rate is handled. -/
theorem sent_under_later_settings :
    ∃ log l, (machine ⟨true, false⟩).Reaches log l ∧ ¬ SentInOrder ⟨true, false⟩ log ∧
      transmitted log = [(65, ⟨9600, 8, 1, 0, false⟩)] := by
  have hrun : (machine ⟨true, false⟩).Reaches _ _ :=
    Machine.Reaches.init.exec [.device (.setup true), .device (.accept (some 0)),
      .device (.select true false Block.zero), .device (.recv [1, 1]), .device (.recv [65]),
      .device .tcpEnqueue, .device (.select true false Block.zero), .device (.recv [2, 8]),
      .device (.recv [0, 0, 0x25, 0x80, 8, 1, 0, 0]), .device .tcpEnqueue, .device .txRecv,
      .device (.txHandle Block.zero false), .copy, .device .txRecv,
      .device (.txHandle Block.zero false), .transmit] rfl
  refine ⟨_, _, hrun, ?_, by decide⟩
  -- the byte is due under 115200 baud
  unfold SentInOrder
  decide

end UartLine

end TcpUart
