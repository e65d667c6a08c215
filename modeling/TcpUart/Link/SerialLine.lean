import TcpUart.Daemon.TermiosReports
import TcpUart.Firmware.Transmit
import TcpUart.Link.ConfigAgreement

/-! # A serial line over TCP
What the program is for: an application opens a PTY, chooses settings and writes bytes, and the UART
of a device far away sends these bytes under these settings. Between the two lie the packets of the
PTY, a message that is kept when a send fails, sessions that come and go, two queues, and the
transmit buffer of the UART driver.

* `SerialLine.step` — one step of the connection task, of the device, or of its transmitter.
* `onLine` — what a local serial port would send of what the application wrote and chose.
* `sends_what_was_written` — the UART sends that, but for messages that a lost session took along.
* `at_rest_all_is_sent` — at rest it has sent all of it, if no session was lost with a message in
  it, and its settings are those the application has chosen. -/

namespace TcpUart

open Reactive Framing

/-- A connection task, its device, and the transmit side of the UART driver. -/
structure SerialLine where
  /-- The connection task and the device. -/
  world : World
  /-- What the `uart_write_bytes` in progress has not copied yet. -/
  copying : Bytes
  /-- The transmit buffer of the UART driver. -/
  txBuffer : BoundedQueue UInt8 uartTxBufferSize
  /-- Ghost: since the application last chose settings, a packet that announces a change was
  handled. -/
  heard : Bool

/-- Who goes on. -/
inductive SerialInput
  /-- The connection task or the device. -/
  | world (i : WorldInput)
  /-- `uart_write_bytes` copies a byte. -/
  | copy
  /-- The hardware transmits a byte. -/
  | transmit

/-- What an observer sees. -/
inductive SerialObs
  /-- Of the connection task and the device. -/
  | world (o : WorldObs)
  /-- A byte is on the line, under these settings. -/
  | transmitted (b : UInt8) (settings : UartSettings)

/-- What the transmitter has to do with an input. -/
def SerialInput.line? : SerialInput → Option LineInput
  | .world (.device i) => some (.device i)
  | .world (.task _) => none
  | .copy => some .copy
  | .transmit => some .transmit

/-- What is seen of the connection task and the device. -/
def SerialObs.world? : SerialObs → Option WorldObs
  | .world o => some o
  | .transmitted _ _ => none

/-- What is seen of the device and its transmitter. -/
def SerialObs.line? : SerialObs → Option LineObs
  | .world (.device o) => some (.device o)
  | .world (.task _) => none
  | .transmitted b settings => some (.transmitted b settings)

/-- What is seen of the transmitter, beside the connection task. -/
def LineObs.serial : LineObs → SerialObs
  | .device o => .world (.device o)
  | .transmitted b settings => .transmitted b settings

/-- Whether `uart_tx_task` takes a message. -/
def WorldInput.takesMessage : WorldInput → Bool
  | .device .txRecv => true
  | _ => false

/-- Whether the settings last chosen are announced after a step. -/
def heardAfter (heard : Bool) : WorldInput → Bool
  | .task (.slaveSet _) => false
  | .task (.ptyReadv (.packet ctrl _) none) => heard || ctrl &&& TIOCPKT_IOCTL ≠ 0
  | _ => heard

namespace SerialLine

/-- The device and its transmitter. -/
def line (s : SerialLine) : UartLine := ⟨s.world.device, s.copying, s.txBuffer⟩

/-- A step of the transmitter. -/
def stepLine (cfg : DeviceConfig) (s : SerialLine) (i : LineInput) :
    Option (SerialLine × List SerialObs) :=
  (s.line.step cfg i).map fun r =>
    ({ s with copying := r.1.copying, txBuffer := r.1.txBuffer }, r.2.map LineObs.serial)

/-- One step. -/
def step (cfg : DeviceConfig) (s : SerialLine) : SerialInput →
    Option (SerialLine × List SerialObs)
  | .world i =>
      -- `uart_tx_task` takes no message while it is in `uart_write_bytes`
      if i.takesMessage = true ∧ s.copying ≠ [] then none
      else
        (s.world.step cfg i).map fun r =>
          ({ s with
            world := r.1
            copying := s.copying ++ uartWritten (deviceLog r.2)
            heard := heardAfter s.heard i }, r.2.map .world)
  | .copy => s.stepLine cfg .copy
  | .transmit => s.stepLine cfg .transmit

/-- The line as it starts; `AsyncPty::new` has read the settings of the slave. -/
def init (t₀ : ConnectionTask) : SerialLine := ⟨World.init t₀, [], .empty, true⟩

/-- The machine of the line. -/
def machine (cfg : DeviceConfig) (t₀ : ConnectionTask) :
    Machine SerialLine SerialInput SerialObs := ⟨init t₀, step cfg⟩

/-- The history of the connection task and the device. -/
def worldLog (log : List SerialObs) : List WorldObs := log.filterMap SerialObs.world?

/-- The history of the device and its transmitter. -/
def lineLog (log : List SerialObs) : List LineObs := log.filterMap SerialObs.line?

/-- What was on the line, each byte with its settings. -/
def sent (log : List SerialObs) : List (UInt8 × UartSettings) := transmitted (lineLog log)

/-- What the application wrote and chose, as the daemon read it from the PTY. -/
def reads (log : List SerialObs) : List PtyRead := ptyReads (taskLog (worldLog log))

/-- `Config` messages that change settings are handled only when nothing waits to be transmitted. -/
def ConfigsWhenIdle (cfg : DeviceConfig) (s : SerialLine) (i : SerialInput) : Prop :=
  ∀ j, i.line? = some j → s.line.ConfigsWhenIdle cfg j

/-! ## A local serial port -/

end SerialLine

/-- The settings that the application chooses, as far as the build lets the device follow. -/
def UartSettings.set (cfg : DeviceConfig) (s : UartSettings) (c : TermiosChange) :
    UartSettings where
  baudRate := c.baudrate
  wordLength := c.dataBits
  stopBits := c.stopBits
  parity := c.parity
  hwFlowCtrl := if cfg.allowHwFlowCtrl then c.hwFlowCtl else s.hwFlowCtrl

namespace SerialLine

/-- What a local serial port makes of what the application writes and chooses: every byte is sent,
under the settings that were chosen last. -/
def onLine (cfg : DeviceConfig) : UartSettings → List PtyRead → List (UInt8 × UartSettings)
  | _, [] => []
  | settings, .data bs :: rs => (bs.map fun b => (b, settings)) ++ onLine cfg settings rs
  | settings, .termios c :: rs => onLine cfg (settings.set cfg c) rs

end SerialLine

/-! ## What a message makes of the line is what was read -/

/-- `apply_config` with a message that asks for what was read sets what was chosen. -/
theorem applyConfig_eq_set {cfg : DeviceConfig} {config : ConfigMessage} {c : TermiosChange}
    (hreq : config.request = (PtyRead.termios c).request) (hc : c.Valid) (s : UartSettings) :
    applyConfig cfg config s = s.set cfg c := by
  obtain ⟨hbaud, hdata, hstop, hparity, hflow⟩ : (applyConfig cfg config s).Shows cfg c :=
    shows_applyConfig hreq hc s
  have hflow' : (applyConfig cfg config s).hwFlowCtrl
      = if cfg.allowHwFlowCtrl then c.hwFlowCtl else s.hwFlowCtrl := by
    cases hallow : cfg.allowHwFlowCtrl with
    | true => exact hflow hallow
    | false =>
        simp only [applyConfig, hallow, Bool.false_eq_true, if_false]
        split <;> split <;> split <;> rfl
  cases hset : applyConfig cfg config s
  rw [hset] at hbaud hdata hstop hparity hflow'
  simp only at hbaud hdata hstop hparity hflow'
  rw [UartSettings.set, hbaud, hdata, hstop, hparity, hflow']

/-- What is read says to the UART what its frame says. -/
theorem Entry.of_frame_eq {e : Entry} {r : PtyRead} (hfit : r.Fits)
    (h : e.frame = r.message.frame) : e.msg.request? = some r.request := by
  rw [e.msg.request?_eq]
  show e.frame.request? = _
  rw [h, PtyRead.request?_frame hfit]

namespace UartLine

/-- **Messages built from reads** make of the line what a local serial port makes of the reads;
control messages make nothing of it. -/
theorem due_eq_onLine {cfg : DeviceConfig} {es : List Entry} {rs : List PtyRead}
    (hframes : (es.map Entry.frame).filter Frame.isUart = rs.map fun r => r.message.frame)
    (hfit : ∀ r ∈ rs, r.Fits) (hvalid : ∀ c, .termios c ∈ rs → c.Valid)
    (settings : UartSettings) : due cfg settings es = SerialLine.onLine cfg settings rs := by
  induction es generalizing rs settings with
  | nil =>
      obtain rfl : rs = [] := List.map_eq_nil_iff.mp hframes.symm
      rfl
  | cons e es ih =>
      rw [List.map_cons] at hframes
      by_cases hu : e.frame.isUart = true
      · rw [List.filter_cons_of_pos hu] at hframes
        cases rs with
        | nil => cases hframes
        | cons r rs =>
            obtain ⟨hframe, hrest⟩ := List.cons.inj hframes
            have hfit' := fun r' hr' => hfit r' (List.mem_cons_of_mem r hr')
            have hvalid' := fun c hc => hvalid c (List.mem_cons_of_mem r hc)
            have hreq := Entry.of_frame_eq (hfit r List.mem_cons_self) hframe
            cases r with
            | data bs =>
                have hk : e.msg.kind = MESSAGE_KIND_DATA := congrArg Frame.kind hframe
                rw [Message.request?, if_pos hk] at hreq
                obtain hbody := UartRequest.write.inj (Option.some.inj hreq)
                rw [due_data hk, ih hrest hfit' hvalid' settings, Message.payload, hbody]
                rfl
            | termios c =>
                have hk : e.msg.kind = MESSAGE_KIND_CONFIG := congrArg Frame.kind hframe
                have hdata : e.msg.kind ≠ MESSAGE_KIND_DATA := by
                  rw [hk]
                  decide
                rw [Message.request?, if_neg hdata, if_pos hk] at hreq
                split at hreq
                · cases hreq
                · rename_i hlen
                  have hconfig : e.config? = some (ConfigMessage.ofBody e.msg.body) :=
                    if_pos ⟨hk, not_not.mp hlen⟩
                  rw [due_config hdata hconfig, applyConfig_eq_set (Option.some.inj hreq)
                    (hvalid c List.mem_cons_self)]
                  exact ih hrest hfit' hvalid' (settings.set cfg c)
      · rw [List.filter_cons_of_neg hu] at hframes
        have hkind : ¬ (e.frame.kind = 1 ∨ e.frame.kind = 2) := by
          simpa [Frame.isUart] using hu
        have hnone : e.config? = none :=
          Entry.config?_of_kind fun hk => hkind (.inr hk)
        rw [due_other (fun hk => hkind (.inl hk)) hnone]
        exact ih hframes hfit hvalid settings

/-! ## The bytes on the line -/

/-- The bytes that messages are to put on the line, whatever the settings. -/
def dueBytes (es : List Entry) : Bytes :=
  es.flatMap fun e => if e.msg.kind = MESSAGE_KIND_DATA then e.msg.payload else []

/-- They are the bytes of what is due. -/
theorem map_fst_due (cfg : DeviceConfig) (settings : UartSettings) (es : List Entry) :
    (due cfg settings es).map Prod.fst = dueBytes es := by
  induction es generalizing settings with
  | nil => rfl
  | cons e es ih =>
      rw [dueBytes, List.flatMap_cons]
      by_cases hk : e.msg.kind = MESSAGE_KIND_DATA
      · rw [due_data hk, if_pos hk, List.map_append, ih settings, List.map_map]
        exact congrArg (· ++ dueBytes es) (List.map_id _)
      · rw [if_neg hk, List.nil_append]
        cases hc : e.config? with
        | some config =>
            rw [due_config hk hc]
            exact ih _
        | none =>
            rw [due_other hk hc]
            exact ih settings

/-- A message of another kind puts nothing on the line. -/
theorem dueBytes_of_kind {e : Entry} (h : e.msg.kind ≠ MESSAGE_KIND_DATA) : dueBytes [e] = [] := by
  rw [dueBytes, List.flatMap_singleton, if_neg h]

/-- A step of the device writes what it takes, in order, but for what it is still to handle. -/
theorem dueBytes_step {cfg : DeviceConfig} {d d' : Device} {i : DevInput} {out : List DevObs}
    (h : Device.Step cfg d i d' out) :
    dueBytes d.tx.toHandle ++ dueBytes (out.filterMap DevObs.txTaken?)
      = uartWritten out ++ dueBytes d'.tx.toHandle := by
  cases h with
  | @txRecv e q hpc =>
      rw [hpc]
      rfl
  | @txData e junk fault hpc hk =>
      rw [hpc]
      show dueBytes [e] ++ [] = [e.msg.payload].flatten ++ []
      rw [dueBytes, List.flatMap_singleton, if_pos hk, List.flatten_singleton]
  | @txConfig e junk settings aborted tx fault hpc hk hlen hres =>
      have hnone : dueBytes [e] = [] := dueBytes_of_kind (by rw [hk]; decide)
      have htx : dueBytes tx.toHandle = [] := by
        rcases hres with ⟨-, -, rfl, -⟩ | ⟨-, -, rfl, -⟩
        · rw [hpc]
          exact hnone
        · rfl
      rw [hpc]
      show dueBytes [e] ++ [] = [] ++ dueBytes tx.toHandle
      rw [hnone, htx]
  | txSkip hpc hk =>
      rw [hpc]
      exact (List.append_nil _).trans (dueBytes_of_kind hk)
  | txPulse hpc hk =>
      rw [hpc]
      exact (List.append_nil _).trans (dueBytes_of_kind (by rw [hk]; decide))
  | txDecline hpc hk =>
      rw [hpc]
      exact (List.append_nil _).trans (dueBytes_of_kind (by rw [hk]; decide))
  | txPulseEnd hpc => rw [hpc]; rfl
  | txSend hpc => rw [hpc]; rfl
  | txWriteEfd hpc => rw [hpc]; rfl
  | _ => exact List.append_nil _

/-- **The bytes on the line** are those of the messages taken, in order, in every run. -/
theorem bytes_conveyed {cfg : DeviceConfig} {log : List LineObs} {l : UartLine}
    (h : (machine cfg).Reaches log l) :
    Conveys (dueBytes (taken log)) ((transmitted log).map Prod.fst)
      (some (l.waiting ++ dueBytes l.device.tx.toHandle)) := by
  refine h.conveys (fun log => dueBytes (taken log)) (fun log => (transmitted log).map Prod.fst)
    (fun l => l.waiting ++ dueBytes l.device.tx.toHandle)
    (fun _ _ => by rw [taken_append, dueBytes, List.flatMap_append]; rfl)
    (fun _ _ => by rw [transmitted_append, List.map_append]) rfl ?_
  intro l i l' out hs
  cases step_cases hs with
  | @device i d' out hfree hdev =>
      have hstep := dueBytes_step (Device.step_cases hdev)
      show l.waiting ++ _ ++ dueBytes (taken (out.map .device))
        = (transmitted (out.map .device)).map Prod.fst
          ++ (l.txBuffer.items ++ (l.copying ++ uartWritten out) ++ dueBytes d'.tx.toHandle)
      rw [taken_device, transmitted_device, List.append_assoc, hstep, waiting]
      simp only [List.map_nil, List.nil_append, List.append_assoc]
  | @copy b rest q hcopy hpush =>
      show l.waiting ++ _ ++ [] = [] ++ (q.items ++ rest ++ _)
      rw [waiting, hcopy, (BoundedQueue.items_of_push hpush).1]
      simp only [List.append_assoc, List.append_nil, List.nil_append, List.cons_append]
  | @transmit b q hrun hpop =>
      show l.waiting ++ _ ++ [] = [b] ++ (q.items ++ l.copying ++ _)
      rw [waiting, BoundedQueue.items_of_pop hpop]
      simp only [List.append_assoc, List.append_nil, List.nil_append, List.cons_append]

end UartLine

namespace SerialLine

variable {cfg : DeviceConfig} {t₀ : ConnectionTask} {s s' : SerialLine} {log out : List SerialObs}
  {ok : SerialLine → SerialInput → Prop}

/-! ## Seen from one part -/

/-- The transitions. -/
inductive Step (cfg : DeviceConfig) (s : SerialLine) :
    SerialInput → SerialLine → List SerialObs → Prop
  /-- The connection task goes on. -/
  | task {i : TaskInput} {t' : ConnectionTask} {out : List TaskObs}
      (hadm : s.world.admitsTask i = true) (hs : s.world.task.step i = some (t', out)) :
      Step cfg s (.world (.task i))
        { s with world := s.world.afterTask t' out, heard := heardAfter s.heard (.task i) }
        ((out.map .task).map .world)
  /-- The device goes on. -/
  | device {i : DevInput} {d' : Device} {out : List DevObs} (hfree : i = .txRecv → s.copying = [])
      (hadm : s.world.admitsDevice i = true) (hs : s.world.device.step cfg i = some (d', out)) :
      Step cfg s (.world (.device i))
        { s with world := s.world.afterDevice d' out, copying := s.copying ++ uartWritten out }
        ((out.map .device).map .world)
  /-- The transmitter goes on. -/
  | line {i : SerialInput} {j : LineInput} {copying : Bytes}
      {txBuffer : BoundedQueue UInt8 uartTxBufferSize} {out : List LineObs}
      (hi : i.line? = some j) (hj : ∀ k, j ≠ .device k)
      (hs : s.line.step cfg j = some (⟨s.world.device, copying, txBuffer⟩, out)) :
      Step cfg s i { s with copying := copying, txBuffer := txBuffer } (out.map LineObs.serial)

/-- Inversion of a step of the transmitter. -/
theorem stepLine_cases {i : SerialInput} {j : LineInput} (hi : i.line? = some j)
    (hj : ∀ k, j ≠ .device k) (h : s.stepLine cfg j = some (s', out)) : Step cfg s i s' out := by
  obtain ⟨⟨l', out'⟩, hs, heq⟩ := Option.map_eq_some_iff.mp h
  cases heq
  have hdev : l' = ⟨s.world.device, l'.copying, l'.txBuffer⟩ := by
    cases UartLine.step_cases hs with
    | device => exact absurd rfl (hj _)
    | copy => rfl
    | transmit => rfl
  refine .line hi hj ?_
  rw [hs]
  exact congrArg (fun l => some (l, out')) hdev

/-- Inversion of the step function. -/
theorem step_cases {i : SerialInput} (h : s.step cfg i = some (s', out)) :
    Step cfg s i s' out := by
  cases i with
  | world i =>
      simp only [step] at h
      split at h
      · cases h
      · rename_i hfree
        obtain ⟨⟨w', out'⟩, hs, heq⟩ := Option.map_eq_some_iff.mp h
        cases heq
        cases World.step_cases hs with
        | @task i t' out hadm ht =>
            have hstep : Step cfg s _ _ _ := .task hadm ht
            rw [deviceLog_task, show uartWritten [] = [] from rfl, List.append_nil]
            exact hstep
        | @device i d' out hadm hd =>
            have hcopy : i = .txRecv → s.copying = [] := by
              rintro rfl
              by_contra hne
              exact hfree ⟨rfl, hne⟩
            rw [deviceLog_device]
            exact .device hcopy hadm hd
  | copy => exact stepLine_cases rfl (fun _ => LineInput.noConfusion) h
  | transmit => exact stepLine_cases rfl (fun _ => LineInput.noConfusion) h

/-- What is seen of the connection task and the device, part by part. -/
@[simp] theorem worldLog_append (log out : List SerialObs) :
    worldLog (log ++ out) = worldLog log ++ worldLog out := List.filterMap_append

/-- In a step of theirs. -/
@[simp] theorem worldLog_world (out : List WorldObs) : worldLog (out.map .world) = out := by
  rw [worldLog, List.filterMap_map]
  exact List.filterMap_some

/-- What is seen of the device and its transmitter in a step of the connection task. -/
theorem lineLog_task (out : List TaskObs) : lineLog ((out.map .task).map .world) = [] := by
  rw [lineLog, List.map_map, List.filterMap_map]
  exact List.filterMap_eq_nil_iff.mpr fun _ _ => rfl

/-- In a step of the device. -/
theorem lineLog_device (out : List DevObs) :
    lineLog ((out.map .device).map .world) = out.map .device := by
  rw [lineLog, List.map_map, List.filterMap_map]
  exact congrFun List.filterMap_eq_map out

/-- In a step of the transmitter. -/
theorem lineLog_serial (out : List LineObs) : lineLog (out.map LineObs.serial) = out := by
  rw [lineLog, List.filterMap_map]
  refine (List.filterMap_congr fun o _ => ?_).trans List.filterMap_some
  cases o <;> rfl

/-- What is seen of the connection task and the device in a step of the transmitter. -/
theorem worldLog_serial {l l' : UartLine} {j : LineInput} {out : List LineObs}
    (hj : ∀ k, j ≠ .device k) (hs : l.step cfg j = some (l', out)) :
    worldLog (out.map LineObs.serial) = [] := by
  cases UartLine.step_cases hs with
  | device => exact absurd rfl (hj _)
  | copy => rfl
  | transmit => rfl

/-- **Seen from the transmitter**, a run is a run of the device and its transmitter. -/
theorem line_of_run {ok' : UartLine → LineInput → Prop} (h : (machine cfg t₀).Run ok log s)
    (hok : ∀ s i j, ok s i → i.line? = some j → ok' s.line j) :
    (UartLine.machine cfg).Run ok' (lineLog log) s.line := by
  refine h.project line SerialObs.line? rfl ?_
  intro s i s' out hi hs
  cases step_cases hs with
  | task => exact .inr ⟨rfl, lineLog_task _⟩
  | @device i d' out hfree hadm hdev =>
      refine .inl ⟨.device i, hok _ _ _ hi rfl, ?_⟩
      show UartLine.step cfg s.line (.device i) = some (_, lineLog _)
      have hno : ¬ (i = .txRecv ∧ s.line.copying ≠ []) := fun h => h.2 (hfree h.1)
      rw [lineLog_device, UartLine.step, if_neg hno, show s.line.device = s.world.device from rfl,
        hdev]
      rfl
  | line hi' hj hline =>
      refine .inl ⟨_, hok _ _ _ hi hi', ?_⟩
      show UartLine.step cfg s.line _ = some (_, lineLog _)
      rw [lineLog_serial]
      exact hline

/-- If settings change only when nothing waits, they do so there. -/
theorem idleLine_of_run (h : (machine cfg t₀).Run (ConfigsWhenIdle cfg) log s) :
    (UartLine.machine cfg).Run (UartLine.ConfigsWhenIdle cfg) (lineLog log) s.line :=
  line_of_run h fun _ _ j hok hj => hok j hj

/-- **Seen from the session**, it is a run of the connection task and the device. -/
theorem world_of_run (h : (machine cfg t₀).Run ok log s) :
    (World.machine cfg t₀).Reaches (worldLog log) s.world := by
  refine h.project SerialLine.world SerialObs.world? rfl ?_
  intro s i s' out hi hs
  cases step_cases hs with
  | @task i t' out hadm ht =>
      refine .inl ⟨.task i, trivial, ?_⟩
      show World.step cfg s.world (.task i) = some (_, worldLog _)
      rw [worldLog_world, World.step, if_pos hadm, ht]
      rfl
  | @device i d' out hfree hadm hdev =>
      refine .inl ⟨.device i, trivial, ?_⟩
      show World.step cfg s.world (.device i) = some (_, worldLog _)
      rw [worldLog_world, World.step, if_pos hadm, hdev]
      rfl
  | line _ hj hline => exact .inr ⟨rfl, worldLog_serial hj hline⟩

/-- What `uart_tx_task` takes is seen in both. -/
theorem taken_lineLog (log : List SerialObs) :
    taken (lineLog log) = (deviceLog (worldLog log)).filterMap DevObs.txTaken? := by
  rw [taken, lineLog, deviceLog, worldLog, List.filterMap_filterMap, List.filterMap_filterMap,
    List.filterMap_filterMap]
  refine List.filterMap_congr fun o _ => ?_
  cases o with
  | world o => cases o <;> rfl
  | transmitted => rfl

end SerialLine

/-! ## What reaches `uart_tx_task` -/

namespace World

variable {cfg : DeviceConfig} {name : String} {addr : UInt32} {port : UInt16} {master : AsyncPty}
  {ok : World → WorldInput → Prop} {log : List WorldObs} {w : World}

/-- What counts as read was read from the PTY. -/
theorem mem_taskLog_of_read {r : PtyRead} (hr : r ∈ ptyReads (taskLog log)) :
    TaskObs.ptyRead r ∈ taskLog log := by
  obtain ⟨o, ho, hor⟩ := List.mem_filterMap.mp hr
  cases o <;> cases hor
  exact ho

/-- What was read fits a message. -/
theorem fits_of_read (h : (machine cfg (ConnectionTask.spawn name addr port master)).Run ok log w)
    {r : PtyRead} (hr : r ∈ ptyReads (taskLog log)) : r.Fits :=
  ConnectionTask.fits_of_reaches (task_of_run h).reaches r (mem_taskLog_of_read hr)

/-- Settings that were read exist. -/
theorem valid_of_read (h : (machine cfg (ConnectionTask.spawn name addr port master)).Run ok log w)
    {c : TermiosChange} (hc : .termios c ∈ ptyReads (taskLog log)) : c.Valid :=
  valid_of_termiosChanges h (List.mem_filterMap.mpr ⟨_, hc, rfl⟩)

/-- **What `uart_tx_task` takes was read from the PTY**, in order and at most once: it is what was
read, without what lost sessions took along. -/
theorem taken_of_run (h : (machine cfg (ConnectionTask.spawn name addr port master)).Run ok log w) :
    ∃ kept, kept.Sublist (ptyReads (taskLog log)) ∧
      (closedCount (taskLog log) = 0 → kept <+: ptyReads (taskLog log)) ∧
      ((((deviceLog log).filterMap DevObs.txTaken?).map Entry.frame).filter Frame.isUart)
        = kept.map fun r => r.message.frame := by
  have htask := task_of_run h
  have hdev := device_of_run h
  have hsorted : ((enqueuedEntries (deviceLog log)).map (Prod.map id Entry.frame)).Pairwise
      fun a b => a.1 ≤ b.1 := by
    refine List.pairwise_map.mpr ?_
    exact pairwise_filterMap_of_sorted (fun _ _ _ => DevObs.session?_of_enqueued?)
      (Device.clients_of_reaches hdev).ordered.sorted
  -- what is taken is the start of what was put on the queue
  have htaken := (((Device.tcpToUart_conveyed hdev).outp_isPrefix.map Entry.frame).filter
    Frame.isUart)
  have hsnd : ((enqueuedEntries (deviceLog log)).map Prod.snd).map Entry.frame
      = ((enqueuedEntries (deviceLog log)).map (Prod.map id Entry.frame)).map Prod.snd := by
    rw [List.map_map, List.map_map]
    rfl
  have hread : (readMessages (taskLog log)).map DeviceMessage.frame
      = (ptyReads (taskLog log)).map fun r => r.message.frame := by
    rw [readMessages, List.map_map]
    rfl
  rw [hsnd] at htaken
  by_cases hclosed : closedCount (taskLog log) = 0
  · have hpre := htaken.trans
      (ConnectionTask.delivered_prefix htask hclosed (enqueued_prefix_wrote h))
    rw [hread, List.prefix_map_iff] at hpre
    obtain ⟨kept, hkept, heq⟩ := hpre
    exact ⟨kept, hkept.sublist, fun _ => hkept, heq⟩
  · have hsub := htaken.sublist.trans
      (ConnectionTask.delivered_sublist htask hsorted (enqueued_prefix_wrote h))
    rw [hread, List.sublist_map_iff] at hsub
    obtain ⟨kept, hkept, heq⟩ := hsub
    exact ⟨kept, hkept, fun h => absurd h hclosed, heq⟩

/-- No session is over that had taken a whole message which was not read. -/
def NoMessageLost (log : List WorldObs) (w : World) : Prop :=
  ∀ s fs rest, w.device.gone s = true → wroteBytes s (taskLog log)
      = stream Frame.bytes ((readAt s (deviceLog log)).map Entry.frame ++ fs) ++ rest →
    fs = []

/-- **At rest every message given to a session was read**, if none was lost. -/
theorem AtRest.frames_read (hrest : w.AtRest)
    (h : (machine cfg (ConnectionTask.spawn name addr port master)).Run ok log w)
    (hlost : NoMessageLost log w) {infl : Option DeviceMessage} {held : List DeviceMessage}
    (hw : ConnectionTask.Writes (taskLog log) w.task infl held) (s : Nat) :
    (readAt s (deviceLog log)).map Entry.frame
      = (valuesAt s (ConnectionTask.given (taskLog log) w.task infl)).map
          DeviceMessage.frame := by
  have hdev := device_of_run h
  have hread : stream Frame.bytes ((readAt s (deviceLog log)).map Entry.frame)
      <+: wroteBytes s (taskLog log) :=
    ((Device.received_of_reaches hdev).bytes s).outp_isPrefix.trans
      ((carried_of_run h).up s).outp_isPrefix
  obtain ⟨fs, hfs⟩ := hw.valuesAt_given hread
  obtain ⟨p, hp⟩ := hw.wrote_of_flushed hrest.flushed s
  rw [← hfs] at hp ⊢
  refine (List.append_right_eq_self.mpr ?_).symm
  cases hgone : w.device.gone s with
  | true => exact hlost s fs p hgone hp
  | false =>
      -- in a session that goes on, all that is unread is part of a message
      have hup : w.up s = [] := by
        rcases Nat.lt_or_ge s w.task.tcp.opened with hlt | hge
        · exact hrest.delivered s hlt hgone
        · exact up_eq_nil_of_opened_le h hge
      rw [wrote_eq_of_not_gone h hgone, unread, hup, List.append_nil, stream_append,
        List.append_assoc] at hp
      have hpart := List.append_cancel_left hp
      cases fs with
      | nil => rfl
      | cons f fs =>
          exfalso
          rw [stream_cons, List.append_assoc] at hpart
          have hpre : f.bytes <+: (w.device.holding s w.device.tcp.got).getD [] :=
            ⟨_, hpart.symm⟩
          rw [Device.holding] at hpre
          split at hpre
          · exact Device.partial_of_reaches hdev f hpre
          · exact Frame.selfDelimiting_bytes.ne_nil f (List.prefix_nil.mp hpre)

/-- **At rest `uart_tx_task` has taken what was read from the PTY**, if no message was lost. -/
theorem AtRest.taken_eq (hrest : w.AtRest)
    (h : (machine cfg (ConnectionTask.spawn name addr port master)).Run ok log w)
    (hlost : NoMessageLost log w) :
    (((deviceLog log).filterMap DevObs.txTaken?).map Entry.frame).filter Frame.isUart
      = (ptyReads (taskLog log)).map fun r => r.message.frame := by
  have htask := task_of_run h
  have hdev := device_of_run h
  have hsound := ConnectionTask.sound_of_reaches htask.reaches
  obtain ⟨infl, held, hw⟩ := ConnectionTask.writes_of_run htask
  have hgiven := (ConnectionTask.sessions_of_reaches htask.reaches).pairwise_given infl
  have hread : (readEntries (deviceLog log)).Pairwise fun a b => a.1 ≤ b.1 :=
    pairwise_filterMap_of_sorted (fun _ _ _ => DevObs.session?_of_read?)
      (Device.clients_of_reaches hdev).ordered.sorted
  -- session by session, and so as a whole: what was read is what was given
  have hagree := filterMap_eq_of_sorted (f := fun e : Entry => some e.frame)
    (g := fun m : DeviceMessage => some m.frame) hread hgiven fun s => by
      have hs := hrest.frames_read h hlost hw s
      rw [← List.filterMap_eq_map, ← List.filterMap_eq_map] at hs
      exact hs
  have htaken := (Device.tcpToUart_conveyed hdev).eq_append
  have henq := (Device.enqueued_conveyed hdev).eq_append
  rw [hrest.drained, List.append_nil] at htaken
  rw [Device.toEnqueue, hrest.enqueued, List.map_nil, List.append_nil] at henq
  rw [← htaken, ← henq, ← List.filterMap_eq_map]
  show (((readEntries (deviceLog log)).map Prod.snd).filterMap fun e => some e.frame).filter _ = _
  rw [hagree]
  show (((ConnectionTask.given (taskLog log) w.task infl).map Prod.snd).filterMap
    (some ∘ DeviceMessage.frame)).filter _ = _
  rw [List.filterMap_eq_map, filter_isUart_map_frame, hw.given_eq hsound hrest.connected,
    readMessages, List.map_map]
  rfl

end World

/-! ## The settings -/

/-- Messages that are not for the UART say nothing to `apply_config`. -/
theorem filterMap_configure?_filter (fs : List Frame) :
    (fs.filter Frame.isUart).filterMap Frame.configure? = fs.filterMap Frame.configure? := by
  rw [List.filterMap_filter]
  apply List.filterMap_congr
  intro f _
  by_cases hu : f.isUart = true
  · rw [if_pos hu]
  · rw [if_neg hu, Frame.configure?, if_neg]
    intro hc
    have hkind : f.kind = 2 := of_decide_eq_true hc
    apply hu
    simp [Frame.isUart, hkind]

/-- The configurations of messages built from reads ask for what was read. -/
theorem request_filterMap_config? {es : List Entry} {rs : List PtyRead}
    (hframes : (es.map Entry.frame).filter Frame.isUart = rs.map fun r => r.message.frame) :
    (es.filterMap Entry.config?).map ConfigMessage.request
      = (rs.filterMap PtyRead.termios?).map fun c => (PtyRead.termios c).request := by
  have hentries : (es.filterMap Entry.config?).map ConfigMessage.request
      = (es.map Entry.frame).filterMap Frame.configure? := by
    rw [List.map_filterMap, List.filterMap_map]
    exact List.filterMap_congr fun e _ => e.request_config?
  rw [hentries, ← filterMap_configure?_filter, hframes, List.filterMap_map, List.map_filterMap]
  exact List.filterMap_congr fun r _ => r.configure?_frame

/-- Applied one after the other they set what was chosen last. -/
theorem foldl_applyConfig {cfg : DeviceConfig} {configs : List ConfigMessage}
    {cs : List TermiosChange}
    (hreq : configs.map ConfigMessage.request = cs.map fun c => (PtyRead.termios c).request)
    (hvalid : ∀ c ∈ cs, c.Valid) (settings : UartSettings) :
    configs.foldl (fun s config => applyConfig cfg config s) settings
      = cs.foldl (UartSettings.set cfg) settings := by
  induction configs generalizing cs settings with
  | nil =>
      obtain rfl : cs = [] := List.map_eq_nil_iff.mp hreq.symm
      rfl
  | cons config configs ih =>
      cases cs with
      | nil => cases hreq
      | cons c cs =>
          obtain ⟨hfirst, hrest⟩ := List.cons.inj hreq
          rw [List.foldl_cons, List.foldl_cons,
            applyConfig_eq_set hfirst (hvalid c List.mem_cons_self)]
          exact ih hrest (fun c' hc' => hvalid c' (List.mem_cons_of_mem c hc')) _

/-- Settings that were chosen are shown. -/
theorem shows_set (cfg : DeviceConfig) (s : UartSettings) (c : TermiosChange) :
    (s.set cfg c).Shows cfg c := ⟨rfl, rfl, rfl, rfl, fun h => if_pos h⟩

/-- A turn keeps the settings of the slave those of `current_tio`, or makes them so. -/
theorem AsyncPty.Turn.kept {p p' : AsyncPty} {r : Readv} {fault : Option IoError}
    {out : List TermiosChange} (ht : p.Turn r fault p' out)
    (h : getTermiosChange p.slaveTio = getTermiosChange p.currentTio) :
    getTermiosChange p'.slaveTio = getTermiosChange p'.currentTio := by
  cases ht with
  | other => exact h
  | changed => rfl
  | unchanged _ hcheck => exact (getTermiosChange_eq hcheck).symm

namespace ConnectionTask

/-- What a step of the task does to the PTY. -/
theorem master_cases {t t' : ConnectionTask} {i : TaskInput} {out : List TaskObs} (hs : Sound t)
    (h : t.step i = some (t', out)) :
    (∃ tio, i = .slaveSet tio) ∨
      (∃ r fault, i = .ptyReadv r fault ∧
        t.master.Turn r fault t'.master (out.filterMap TaskObs.termios?)) ∨
      t'.master = t.master ∧ ∀ r fault, i ≠ .ptyReadv r fault := by
  have hturn : ∀ {r fault}, t.pc = .connectedSelect →
      t.step (.ptyReadv r fault) = some (t', out) →
      t.master.Turn r fault t'.master (out.filterMap TaskObs.termios?) := by
    intro r fault hpc hr
    have hstep := master_of_onPtyReadv (onPtyReadv_of_step hpc hr)
    have hhandle := t.master.turn_of_handle t.ptyBuf fault r
    rw [AsyncPty.step, Option.some.injEq, Prod.mk.injEq] at hstep
    rwa [hstep.1, hstep.2] at hhandle
  cases step_cases h with
  | overflow hpc hnext => exact absurd hnext (hs.nextBackoff_ne_none hpc)
  | slaveSet tio => exact .inl ⟨tio, rfl⟩
  | ptyAgain hpc => exact .inr (.inl ⟨_, _, rfl, hturn hpc h⟩)
  | ptyForward hpc => exact .inr (.inl ⟨_, _, rfl, hturn hpc h⟩)
  | ptyForwardOff hpc => exact .inr (.inl ⟨_, _, rfl, hturn hpc h⟩)
  | ptyControl hpc => exact .inr (.inl ⟨_, _, rfl, hturn hpc h⟩)
  | ptyErr hpc => exact .inr (.inl ⟨_, _, rfl, hturn hpc h⟩)
  | connectFail hpc hnext hobs =>
      refine .inr (.inr ⟨?_, fun _ _ h => by cases h⟩)
      rcases hobs with ⟨-, -, -⟩ | ⟨-, -, -⟩ <;> rfl
  | stop hpc hi =>
      refine .inr (.inr ⟨rfl, ?_⟩)
      rintro r fault rfl
      rcases hi with hi | hi <;> cases hi
  | _ => exact .inr (.inr ⟨rfl, fun _ _ h => by cases h⟩)

end ConnectionTask

namespace SerialLine

variable {cfg : DeviceConfig} {name : String} {addr : UInt32} {port : UInt16} {tio : Termios}
  {ok : SerialLine → SerialInput → Prop} {s : SerialLine} {log : List SerialObs}

/-- Once the settings last chosen are announced, they are those last reported, or the first ones. -/
def Heard (s : SerialLine) : Prop :=
  s.heard = true → getTermiosChange s.world.task.master.slaveTio
    = getTermiosChange s.world.task.master.currentTio

/-- A step of the task keeps this. -/
theorem Heard.task {i : TaskInput} {t' : ConnectionTask} {out : List TaskObs} (hh : Heard s)
    (hs : ConnectionTask.Sound s.world.task) (h : s.world.task.step i = some (t', out))
    (hheard : heardAfter s.heard (.task i) = true) :
    getTermiosChange t'.master.slaveTio = getTermiosChange t'.master.currentTio := by
  rcases ConnectionTask.master_cases hs h with ⟨tio, rfl⟩ | ⟨r, fault, rfl, hturn⟩ | ⟨heq, hno⟩
  · cases hheard
  · by_cases hr : r.IsIoctl ∧ fault = none
    · obtain ⟨hr, rfl⟩ := hr
      exact hturn.slave hr
    · -- no change is announced, or a call failed: the PTY is as before
      have hsame : s.heard = true := by
        cases fault with
        | some e => cases r <;> exact hheard
        | none =>
            cases r with
            | packet ctrl data =>
                rcases Bool.or_eq_true_iff.mp hheard with hb | hctrl
                · exact hb
                · exact absurd ⟨⟨ctrl, data, rfl, of_decide_eq_true hctrl⟩, rfl⟩ hr
            | _ => exact hheard
      exact hturn.kept (hh hsame)
  · have hsame : s.heard = true := by
      cases i with
      | slaveSet => cases hheard
      | ptyReadv r fault => exact absurd rfl (hno r fault)
      | _ => exact hheard
    rw [heq]
    exact hh hsame

/-- Along every run. -/
theorem heard_of_run
    (h : (machine cfg (ConnectionTask.spawn name addr port (AsyncPty.new tio))).Run ok log s) :
    Heard s := by
  refine h.invariant (P := fun _ s => Heard s) (fun _ => rfl) ?_
  intro log s i s' out hr hh _ hs
  have htask := World.task_of_run (world_of_run hr)
  cases step_cases hs with
  | task _ ht => exact hh.task (ConnectionTask.sound_of_reaches htask.reaches) ht
  | device => exact hh
  | line => exact hh

/-! ## What the line sends -/

/-- **The UART sends what the application wrote.** In every run there is a subsequence of what was
read from the PTY, in order and each at most once, such that the bytes on the line are the first
bytes of it; it is the beginning of what was read if no session was ever lost. If moreover no
`Config` message that changes settings is handled while bytes wait to be transmitted, each byte is
sent under the settings that were chosen last before it. -/
theorem sends_what_was_written
    (h : (machine cfg (ConnectionTask.spawn name addr port (AsyncPty.new tio))).Reaches log s) :
    ∃ kept, kept.Sublist (reads log) ∧
      (closedCount (taskLog (worldLog log)) = 0 → kept <+: reads log) ∧
      (sent log).map Prod.fst <+: (onLine cfg UartSettings.initial kept).map Prod.fst ∧
      ((machine cfg (ConnectionTask.spawn name addr port (AsyncPty.new tio))).Run
        (ConfigsWhenIdle cfg) log s → sent log <+: onLine cfg UartSettings.initial kept) := by
  have hworld := world_of_run h
  obtain ⟨kept, hsub, hpre, hframes⟩ := World.taken_of_run hworld
  rw [← taken_lineLog] at hframes
  have hdue : due cfg UartSettings.initial (taken (lineLog log))
      = onLine cfg UartSettings.initial kept :=
    UartLine.due_eq_onLine hframes (fun r hr => World.fits_of_read hworld (hsub.subset hr))
      (fun c hc => World.valid_of_read hworld (hsub.subset hc)) UartSettings.initial
  refine ⟨kept, hsub, hpre, ?_, fun hrun => ?_⟩
  · have hline : (UartLine.machine cfg).Reaches (lineLog log) s.line :=
      line_of_run h fun _ _ _ _ _ => trivial
    rw [← hdue, UartLine.map_fst_due]
    exact (UartLine.bytes_conveyed hline).outp_isPrefix
  · have hline := idleLine_of_run hrun
    rw [← hdue]
    exact (UartLine.ordered_of_run hline).sent

/-- A message is lost with its session: the device leaves before it has read all of it, and the
daemon had handed it to TCP. The next message is sent in the next session, and is all that is on the
line. -/
theorem sends_what_was_written_after_loss :
    ∃ log s, (machine ⟨true, false⟩
        (ConnectionTask.spawn "a" 0 0 (AsyncPty.new ⟨CS8, 0, .B9600⟩))).Reaches log s ∧
      reads log = [.data [104], .data [105]] ∧
      sent log = [(105, UartSettings.initial)] ∧
      ∃ kept, kept.Sublist (reads log) ∧
        (sent log).map Prod.fst
          <+: (onLine ⟨true, false⟩ UartSettings.initial kept).map Prod.fst := by
  obtain ⟨log, s, hrun, hlog⟩ := Machine.exists_reaches_of_exec (M := machine ⟨true, false⟩
      (ConnectionTask.spawn "a" 0 0 (AsyncPty.new ⟨CS8, 0, .B9600⟩)))
    ([.task .resume, .task .sleepElapsed, .task (.connect .ok),
      .task .resume, .device (.setup true), .device (.accept (some 0)),
      .task (.ptyReadv (.packet 0 [104]) none), .task (.tcpWrite 3), .task .tcpSent,
      .device (.select true false Block.zero), .device .recvFail, .task .resume, .task .tcpEnd,
      .task .resume, .task .sleepElapsed, .task (.connect .ok), .task .resume,
      .device (.accept (some 1)), .task (.ptyReadv (.packet 0 [105]) none), .task (.tcpWrite 3),
      .task .tcpSent, .device (.select true false Block.zero), .device (.recv [1, 1]),
      .device (.recv [105]), .device .tcpEnqueue, .device .txRecv,
      .device (.txHandle Block.zero false)].map .world ++ [.copy, .transmit])
    (p := fun log _ => reads log = [.data [104], .data [105]] &&
      sent log = [(105, UartSettings.initial)]) (by decide +kernel)
  simp only [Bool.and_eq_true, decide_eq_true_eq] at hlog
  obtain ⟨hreads, hsent⟩ := hlog
  obtain ⟨kept, hsub, -, hbytes, -⟩ := sends_what_was_written hrun
  exact ⟨log, s, hrun, hreads, hsent, kept, hsub, hbytes⟩

/-- Nothing is on its way from the application to the line. -/
structure AtRest (s : SerialLine) : Prop where
  /-- To `uart_tx_task`. -/
  world : s.world.AtRest
  /-- In `uart_write_bytes`. -/
  copied : s.copying = []
  /-- In the transmit buffer. -/
  transmitted : s.txBuffer.items = []

/-- **At rest all is sent**, and the UART has the settings that the application has: in every run in
which no `Config` message that changes settings is handled while bytes wait to be transmitted, if
no session is over that had taken a message which was not read. -/
theorem at_rest_all_is_sent
    (h : (machine cfg (ConnectionTask.spawn name addr port (AsyncPty.new tio))).Run
      (ConfigsWhenIdle cfg) log s)
    (hrest : s.AtRest) (hlost : World.NoMessageLost (worldLog log) s.world) :
    sent log = onLine cfg UartSettings.initial (reads log) ∧
      s.world.device.settings
        = ((reads log).filterMap PtyRead.termios?).foldl (UartSettings.set cfg)
            UartSettings.initial ∧
      (s.heard = true → (∃ c, .termios c ∈ reads log) →
        s.world.device.settings.Shows cfg (getTermiosChange s.world.task.master.slaveTio)) := by
  have hworld := world_of_run h
  have hdev := World.device_of_run hworld
  have hline := idleLine_of_run h
  have hframes := hrest.world.taken_eq hworld hlost
  -- all that was taken was handled, written and transmitted
  have hsent := (UartLine.ordered_of_run hline).rest hrest.world.running []
  have hwaiting : s.line.waiting = [] := by
    show s.txBuffer.items ++ s.copying = []
    rw [hrest.transmitted, hrest.copied]
    rfl
  rw [hwaiting, show s.line.device = s.world.device from rfl, hrest.world.handled, taken_lineLog]
    at hsent
  simp only [List.append_nil, List.map_nil, due] at hsent
  have hset : s.world.device.settings = ((reads log).filterMap PtyRead.termios?).foldl
      (UartSettings.set cfg) UartSettings.initial := by
    have happlied := (Device.configs_conveyed hdev).eq_append
    rw [Device.toHandle_eq hrest.world.running, hrest.world.handled, List.filterMap_nil,
      List.append_nil] at happlied
    rw [Device.settings_of_reaches hdev hrest.world.running, ← happlied]
    refine foldl_applyConfig (request_filterMap_config? hframes) (fun c hc => ?_) _
    exact World.valid_of_termiosChanges hworld hc
  refine ⟨?_, hset, fun hheard hsome => ?_⟩
  · rw [show sent log = transmitted (lineLog log) from rfl, ← hsent]
    exact UartLine.due_eq_onLine hframes (fun r hr => World.fits_of_read hworld hr)
      (fun c hc => World.valid_of_read hworld hc) UartSettings.initial
  · -- the change read last is that of the slave
    obtain ⟨c, hc⟩ := hsome
    have htermios : (taskLog (worldLog log)).filterMap TaskObs.termios?
        = (reads log).filterMap PtyRead.termios? := by
      rw [reads, ptyReads, List.filterMap_filterMap]
      refine List.filterMap_congr fun o _ => ?_
      cases o with
      | ptyRead r => cases r <;> rfl
      | _ => rfl
    have hlast := ConnectionTask.currentTio_of_reaches (World.task_of_run hworld).reaches
    rw [htermios, ← heard_of_run h hheard] at hlast
    obtain ⟨before, c', heq⟩ : ∃ before c',
        (reads log).filterMap PtyRead.termios? = before ++ [c'] := by
      have hne : (reads log).filterMap PtyRead.termios? ≠ [] :=
        List.ne_nil_of_mem (List.mem_filterMap.mpr ⟨_, hc, rfl⟩)
      exact ⟨_, _, (List.dropLast_append_getLast hne).symm⟩
    rw [heq, AsyncPty.lastReport, List.getLast?_concat] at hlast
    rw [hset, heq, List.foldl_append, hlast]
    exact shows_set cfg _ c'

/-- Three bytes hold no message of ten. -/
theorem fs_eq_nil_of_three {fs : List Frame} {rest : Bytes}
    (h : ([2, 8, 0] : Bytes) = stream Frame.bytes fs ++ rest) : fs = [] := by
  cases fs with
  | nil => rfl
  | cons f fs =>
      rw [stream_cons, Frame.bytes] at h
      have hlen := congrArg List.length h
      have hcons := List.cons.inj (List.cons.inj h).2
      have hpay : (UInt8.ofNat f.payload.length).toNat = 8 := by
        rw [← hcons.1]
        rfl
      have hle := f.size_le
      simp only [maxMessageLen] at hle
      rw [UInt8.toNat_ofNat', Nat.mod_eq_of_lt (by omega)] at hpay
      simp only [List.length_append, List.length_cons, List.length_nil] at hlen
      omega

/-- The line is at rest in the second session, the first one being over. -/
def inSecond (s : SerialLine) : Bool :=
  s.world.task.state == .connected && s.world.task.tcp.framed.all (·.writeBuf.isEmpty) &&
    s.world.task.tcp.opened == 2 && s.world.device.nextSock == 2 && s.world.device.sock == 1 &&
    s.world.device.tcp == .select && (s.world.up 1).isEmpty &&
    s.world.device.tcpToUart.items.isEmpty && s.world.device.tx == .recvQ &&
    !s.world.device.aborted && s.copying.isEmpty && s.txBuffer.items.isEmpty

/-- Then the first session is over. -/
theorem gone_zero_of_inSecond {s : SerialLine} (h : s.inSecond = true) :
    s.world.device.gone 0 = true := by
  simp only [inSecond, Bool.and_eq_true, beq_iff_eq] at h
  obtain ⟨⟨⟨⟨⟨⟨⟨⟨⟨-, hnext⟩, hsock⟩, -⟩, -⟩, -⟩, -⟩, -⟩, -⟩, -⟩ := h
  simp [Device.gone, hnext, hsock]

/-- No other session is. -/
theorem gone_of_inSecond {s : SerialLine} (h : s.inSecond = true) {k : Nat} (hk : 0 < k) :
    s.world.device.gone k = false := by
  simp only [inSecond, Bool.and_eq_true, beq_iff_eq] at h
  obtain ⟨⟨⟨⟨⟨⟨⟨⟨⟨-, hnext⟩, hsock⟩, htcp⟩, -⟩, -⟩, -⟩, -⟩, -⟩, -⟩ := h
  by_cases hone : k = 1
  · simp [Device.gone, hsock, htcp, hone, TcpPc.inSession]
  · have hlt : ¬ k < s.world.device.nextSock := by omega
    simp [Device.gone, hlt]

/-- And nothing is on its way. -/
theorem atRest_of_inSecond {s : SerialLine} (h : s.inSecond = true) : s.AtRest := by
  have hgone := gone_zero_of_inSecond h
  simp only [inSecond, Bool.and_eq_true, beq_iff_eq, List.isEmpty_iff, Bool.not_eq_true',
    Option.all_eq_true] at h
  obtain ⟨⟨⟨⟨⟨⟨⟨⟨⟨⟨⟨hst, hflush⟩, hopened⟩, -⟩, -⟩, htcp⟩, hup⟩, hqueue⟩, htx⟩, hab⟩, hcopy⟩,
    hbuf⟩ := h
  refine ⟨⟨hst, hflush, ?_, ?_, hqueue, ?_, hab⟩, hcopy, hbuf⟩
  · intro k hk hgone'
    rw [hopened] at hk
    rcases Nat.eq_zero_or_pos k with rfl | hpos
    · rw [hgone] at hgone'
      cases hgone'
    · obtain rfl : k = 1 := by omega
      exact hup
  · rw [htcp]
    rfl
  · rw [htx]
    rfl

/-- The application chooses 9600 baud, and the first sending of this fails after three bytes; it is
sent again in the next session, and the byte that follows is sent at 9600 baud. -/
theorem at_rest_all_is_sent_again :
    ∃ log s, (machine ⟨true, false⟩
        (ConnectionTask.spawn "a" 0 0 (AsyncPty.new ⟨CS8, 0, .B115200⟩))).Run
          (ConfigsWhenIdle ⟨true, false⟩) log s ∧
      s.AtRest ∧ s.world.device.gone 0 = true ∧ sent log = [(65, ⟨9600, 8, 1, 0, false⟩)] ∧
      sent log = onLine ⟨true, false⟩ UartSettings.initial (reads log) ∧
      s.world.device.settings.Shows ⟨true, false⟩
        (getTermiosChange s.world.task.master.slaveTio) := by
  obtain ⟨log, s, hrun, hlog⟩ := Machine.exists_reaches_of_exec (M := (machine ⟨true, false⟩
      (ConnectionTask.spawn "a" 0 0 (AsyncPty.new ⟨CS8, 0, .B115200⟩))).restrict fun s _ =>
        s.txBuffer.items.isEmpty || s.world.device.tx = .recvQ)
    ([.task .resume, .task .sleepElapsed, .task (.connect .ok),
      .task .resume, .task (.slaveSet ⟨CS8, 0, .B9600⟩), .task (.ptyReadv (.packet 64 []) none),
      .task (.tcpWrite 3), .device (.setup true), .device (.accept (some 0)),
      .device (.select true false Block.zero), .device (.recv [2, 8]), .device (.recv [0]),
      .device .recvFail, .task .tcpSendErr,
      .task .resume, .task .sleepElapsed, .task (.connect .ok), .task .resume,
      .task (.tcpWrite 10), .task .tcpSent, .task .resume,
      .task (.ptyReadv (.packet 0 [65]) none), .task (.tcpWrite 3), .task .tcpSent,
      .device (.accept (some 1)), .device (.select true false Block.zero), .device (.recv [2, 8]),
      .device (.recv [0, 0, 0x25, 0x80, 8, 1, 0, 0]), .device .tcpEnqueue,
      .device (.select true false Block.zero), .device (.recv [1, 1]), .device (.recv [65]),
      .device .tcpEnqueue, .device .txRecv, .device (.txHandle Block.zero false),
      .device .txRecv, .device (.txHandle Block.zero false)].map .world ++ [.copy, .transmit])
    (p := fun log s => s.inSecond && s.heard &&
      wroteBytes 0 (taskLog (worldLog log)) = [2, 8, 0] &&
      (readAt 0 (deviceLog (worldLog log))).isEmpty &&
      .termios (getTermiosChange ⟨CS8, 0, .B9600⟩) ∈ reads log &&
      sent log = [(65, ⟨9600, 8, 1, 0, false⟩)]) (by decide +kernel)
  simp only [Bool.and_eq_true, decide_eq_true_eq, List.isEmpty_iff] at hlog
  obtain ⟨⟨⟨⟨⟨hsecond, hheard⟩, hwrote⟩, hread⟩, hreads⟩, hsent⟩ := hlog
  have hrun' := hrun.of_restrict (ConfigsWhenIdle ⟨true, false⟩)
    fun s i hcheck j _ junk e config _ hpc _ => by
      rw [Bool.or_eq_true, decide_eq_true_eq, List.isEmpty_iff] at hcheck
      refine .inl (hcheck.resolve_right fun hrecv => ?_)
      rw [show s.line.device = s.world.device from rfl, hrecv] at hpc
      cases hpc
  have hlost : World.NoMessageLost (worldLog log) s.world := by
    intro k fs rest hgone hbytes
    rcases Nat.eq_zero_or_pos k with rfl | hpos
    · rw [hwrote, hread] at hbytes
      exact fs_eq_nil_of_three hbytes
    · rw [gone_of_inSecond hsecond hpos] at hgone
      cases hgone
  have hrest := atRest_of_inSecond hsecond
  obtain ⟨hall, -, hshows⟩ := at_rest_all_is_sent hrun' hrest hlost
  exact ⟨log, s, hrun', hrest, gone_zero_of_inSecond hsecond, hsent, hall,
    hshows hheard ⟨_, hreads⟩⟩

end SerialLine

end TcpUart
