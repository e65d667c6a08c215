import Mathlib.Algebra.Group.Nat.Defs
import TcpUart.Lib.Machine

/-! # The status LED (`server/main/status.c`)
`status_led_task` keeps a value and a delay for each of the three colours. It waits for a message at
most until the next delay is over, lowers the delays by the time that passed, and only then handles
the message. Time passes in ticks of 10 ms, the delays count milliseconds.

* `StatusLed.step` — one pass of the loop.
* `StatusLed.Each.step` — a pass keeps what holds of every colour, if lighting a colour, turning it
  off and the time that passes keep it.
* `dark_while_waiting` — the LED is dark while the task waits for ever.
* `led_task_keeps_time` — when it waits at least one tick while a delay is running. -/

namespace TcpUart

open Reactive

/-- `portMAX_DELAY`. -/
def portMAX_DELAY : Nat := 0xffffffff
/-- `UINT32_MAX`. -/
def UINT32_MAX : Nat := 0xffffffff
/-- `configTICK_RATE_HZ`: the tick period is 10 ms. -/
def configTICK_RATE_HZ : Nat := 100

/-- `pdMS_TO_TICKS` rounds down. -/
def pdMS_TO_TICKS (ms : Nat) : Nat := ms * configTICK_RATE_HZ / 1000

/-- `pdTICKS_TO_MS`, a 32-bit value. -/
def pdTICKS_TO_MS (ticks : Nat) : Nat := ticks * 1000 / configTICK_RATE_HZ % 2 ^ 32

/-- `StatusUpdateMessage`. -/
inductive StatusUpdateMessage
  | wifiConnecting | wifiConnected | wifiConnectionFailed | wifiRetriesFailed
  | tcpClientConnected | tcpClientDisconnected
  | uartSend | uartRecv
  | remoteReset
  | tailscaleConnecting | tailscaleConnected | tailscaleFailed
  deriving DecidableEq

/-- What `status.c` is configured with. -/
structure StatusConfig where
  /-- `CONFIG_ESP_UART_RESET_ENABLED`. -/
  resetEnabled : Bool
  /-- `CONFIG_ESP_UART_RESET_DURATION_MS`. -/
  resetDurationMs : Nat
  /-- The range of `Kconfig.reset`. -/
  resetDuration_range : 1 ≤ resetDurationMs ∧ resetDurationMs ≤ 5000
  /-- `CONFIG_ESP_STATUS_LED_BRIGHTNESS`. -/
  brightness : Nat

/-- One colour of the LED: `s_red_value` and `s_red_delay_ms`, and so on. -/
structure Channel where
  /-- The value. -/
  value : Nat
  /-- How long it is still shown, in milliseconds. -/
  delayMs : Nat
  deriving DecidableEq

/-- The colour is shown for a while. -/
def Channel.lit (delayMs : Nat) : Channel := ⟨255, delayMs⟩

/-- The value of the colour is set to 0; its delay stays. -/
def Channel.off (c : Channel) : Channel := { c with value := 0 }

/-- `update_delays` for one colour. -/
def Channel.lower (c : Channel) (elapsedMs : Nat) : Channel :=
  let delayMs := c.delayMs - min elapsedMs c.delayMs
  ⟨if delayMs = 0 then 0 else c.value, delayMs⟩

/-- The static variables of `status.c`. -/
structure StatusLed where
  /-- `s_red_value` and `s_red_delay_ms`. -/
  red : Channel
  /-- `s_green_value` and `s_green_delay_ms`. -/
  green : Channel
  /-- `s_blue_value` and `s_blue_delay_ms`. -/
  blue : Channel
  deriving DecidableEq

/-- What the LED shows. -/
structure Pixel where
  /-- Red. -/
  red : Nat
  /-- Green. -/
  green : Nat
  /-- Blue. -/
  blue : Nat
  deriving DecidableEq

/-- One pass of the loop: the message `xQueueReceive` returns, if any, and the ticks from
`start_wait` to `end_wait`. -/
structure LedPass where
  /-- The message received. -/
  msg : Option StatusUpdateMessage
  /-- The ticks that pass. -/
  ticks : Nat

namespace StatusLed

/-- The LED as the device boots. -/
def init : StatusLed := ⟨⟨0, 0⟩, ⟨0, 0⟩, ⟨0, 0⟩⟩

/-- `handle_queue_msg`. -/
def handleQueueMsg (cfg : StatusConfig) (s : StatusLed) : StatusUpdateMessage → StatusLed
  | .wifiConnecting => { s with red := .lit 250, green := .lit 250 }
  | .wifiConnected => { s with green := .lit 250 }
  | .wifiConnectionFailed => { s with red := .lit 250 }
  | .wifiRetriesFailed => { s with red := .lit 3000 }
  | .tcpClientConnected => { s with blue := .lit 500 }
  | .tcpClientDisconnected => { s with blue := .lit 500 }
  | .uartSend => { s with red := .lit 10 }
  | .uartRecv => { s with green := .lit 10 }
  | .remoteReset =>
      if cfg.resetEnabled then
        { s with red := .lit cfg.resetDurationMs, blue := .lit cfg.resetDurationMs }
      else s
  | .tailscaleConnecting => ⟨s.red.off, .lit 500, .lit 500⟩
  | .tailscaleConnected => ⟨s.red.off, .lit 1500, .lit 1500⟩
  | .tailscaleFailed => ⟨.lit 3000, s.green.off, .lit 3000⟩

/-- `update_delays`. -/
def updateDelays (s : StatusLed) (elapsedMs : Nat) : StatusLed :=
  ⟨s.red.lower elapsedMs, s.green.lower elapsedMs, s.blue.lower elapsedMs⟩

/-- `update_color`: what is sent to the LED. -/
def updateColor (cfg : StatusConfig) (s : StatusLed) : Pixel :=
  ⟨s.red.value * cfg.brightness / 100, s.green.value * cfg.brightness / 100,
    s.blue.value * cfg.brightness / 100⟩

/-- A delay as `calculate_queue_wait` compares it: one that is over does not count. -/
def running (delayMs : Nat) : Nat := if delayMs ≠ 0 then delayMs else UINT32_MAX

/-- `calculate_queue_wait`. Storing the result as `int` and passing it on as ticks does not change
it. -/
def calculateQueueWait (s : StatusLed) : Nat :=
  if s.red.delayMs = 0 ∧ s.green.delayMs = 0 ∧ s.blue.delayMs = 0 then portMAX_DELAY
  else
    pdMS_TO_TICKS (min (min (running s.red.delayMs) (running s.green.delayMs))
      (running s.blue.delayMs))

/-- One pass of the loop of `status_led_task`. -/
def step (cfg : StatusConfig) (s : StatusLed) (pass : LedPass) : Option (StatusLed × List Pixel) :=
  let s' := s.updateDelays (pdTICKS_TO_MS pass.ticks)
  match pass.msg with
  | some msg =>
      let s' := s'.handleQueueMsg cfg msg
      some (s', [s'.updateColor cfg])
  | none =>
      -- without a message, `xQueueReceive` returns when the wait is over; `portMAX_DELAY` never is
      if s.calculateQueueWait ≠ portMAX_DELAY ∧ s.calculateQueueWait ≤ pass.ticks then
        some (s', [s'.updateColor cfg])
      else none

/-- The machine of `status_led_task`. -/
def machine (cfg : StatusConfig) : Machine StatusLed LedPass Pixel := ⟨init, step cfg⟩

/-! ## What a pass keeps of every colour -/

/-- Something holds of every colour. -/
structure Each (P : Channel → Prop) (s : StatusLed) : Prop where
  /-- Of red. -/
  red : P s.red
  /-- Of green. -/
  green : P s.green
  /-- Of blue. -/
  blue : P s.blue

/-- The delays that messages set, apart from the duration of a reset. -/
def litDelays : List Nat := [10, 250, 500, 1500, 3000]

/-- **A message keeps** what holds of colours that are lit or turned off. -/
theorem Each.handleQueueMsg {cfg : StatusConfig} {P : Channel → Prop} {s : StatusLed}
    {msg : StatusUpdateMessage} (h : s.Each P) (hlit : ∀ d ∈ litDelays, P (.lit d))
    (hreset : msg = .remoteReset → cfg.resetEnabled = true → P (.lit cfg.resetDurationMs))
    (hoff : ∀ c, P c → P c.off) : (s.handleQueueMsg cfg msg).Each P := by
  cases msg with
  | wifiConnecting => exact ⟨hlit _ (by decide), hlit _ (by decide), h.blue⟩
  | wifiConnected => exact ⟨h.red, hlit _ (by decide), h.blue⟩
  | wifiConnectionFailed => exact ⟨hlit _ (by decide), h.green, h.blue⟩
  | wifiRetriesFailed => exact ⟨hlit _ (by decide), h.green, h.blue⟩
  | tcpClientConnected => exact ⟨h.red, h.green, hlit _ (by decide)⟩
  | tcpClientDisconnected => exact ⟨h.red, h.green, hlit _ (by decide)⟩
  | uartSend => exact ⟨hlit _ (by decide), h.green, h.blue⟩
  | uartRecv => exact ⟨h.red, hlit _ (by decide), h.blue⟩
  | remoteReset =>
      rw [StatusLed.handleQueueMsg]
      split
      · rename_i hen
        have hlit' := hreset rfl hen
        exact ⟨hlit', h.green, hlit'⟩
      · exact h
  | tailscaleConnecting => exact ⟨hoff _ h.red, hlit _ (by decide), hlit _ (by decide)⟩
  | tailscaleConnected => exact ⟨hoff _ h.red, hlit _ (by decide), hlit _ (by decide)⟩
  | tailscaleFailed => exact ⟨hlit _ (by decide), hoff _ h.green, hlit _ (by decide)⟩

/-- **Passing time keeps** what holds of colours whose delay is lowered. -/
theorem Each.updateDelays {P : Channel → Prop} {s : StatusLed} {elapsedMs : Nat} (h : s.Each P)
    (hlower : ∀ c, P c → P (c.lower elapsedMs)) : (s.updateDelays elapsedMs).Each P :=
  ⟨hlower _ h.red, hlower _ h.green, hlower _ h.blue⟩

/-- What a pass does. -/
theorem step_cases {cfg : StatusConfig} {s s' : StatusLed} {pass : LedPass} {out : List Pixel}
    (h : s.step cfg pass = some (s', out)) :
    out = [s'.updateColor cfg] ∧
      ((∃ msg, pass.msg = some msg ∧
          s' = (s.updateDelays (pdTICKS_TO_MS pass.ticks)).handleQueueMsg cfg msg) ∨
        pass.msg = none ∧ s.calculateQueueWait ≠ portMAX_DELAY ∧
          s.calculateQueueWait ≤ pass.ticks ∧ s' = s.updateDelays (pdTICKS_TO_MS pass.ticks)) := by
  obtain ⟨msg, ticks⟩ := pass
  cases msg with
  | some msg =>
      cases h
      exact ⟨rfl, .inl ⟨msg, rfl, rfl⟩⟩
  | none =>
      simp only [step] at h
      split at h
      · rename_i hwait
        cases h
        exact ⟨rfl, .inr ⟨rfl, hwait.1, hwait.2, rfl⟩⟩
      · cases h

/-- The wait is over, and no message came. -/
theorem step_timeout {cfg : StatusConfig} {s : StatusLed} {ticks : Nat}
    (hends : s.calculateQueueWait ≠ portMAX_DELAY) (hticks : s.calculateQueueWait ≤ ticks) :
    s.step cfg ⟨none, ticks⟩ = some (s.updateDelays (pdTICKS_TO_MS ticks),
      [(s.updateDelays (pdTICKS_TO_MS ticks)).updateColor cfg]) := if_pos ⟨hends, hticks⟩

/-- **A pass keeps** what holds of colours that are lit or turned off, if passing time keeps it. -/
theorem Each.step {cfg : StatusConfig} {P : Channel → Prop} {s s' : StatusLed} {pass : LedPass}
    {out : List Pixel} (htime : (s.updateDelays (pdTICKS_TO_MS pass.ticks)).Each P)
    (hlit : ∀ d ∈ litDelays, P (.lit d))
    (hreset : pass.msg = some .remoteReset → cfg.resetEnabled = true →
      P (.lit cfg.resetDurationMs)) (hoff : ∀ c, P c → P c.off)
    (hs : s.step cfg pass = some (s', out)) : s'.Each P := by
  rcases (step_cases hs).2 with ⟨msg, hmsg, rfl⟩ | ⟨-, -, -, rfl⟩
  · refine htime.handleQueueMsg hlit (fun hm => hreset ?_) hoff
    rw [hmsg, hm]
  · exact htime

/-! ## Waiting for ever -/

/-- A colour whose delay is over is off, and no delay is longer than the longest that is set. -/
structure Timed (c : Channel) : Prop where
  /-- A colour is shown only while its delay runs. -/
  value_eq_zero : c.delayMs = 0 → c.value = 0
  /-- The delay is one that was set, or less. -/
  delay_le : c.delayMs ≤ 5000

/-- A colour that is lit for at least 1 and at most 5000 milliseconds is timed. -/
theorem timed_lit {delayMs : Nat} (h : 1 ≤ delayMs ∧ delayMs ≤ 5000) : Timed (.lit delayMs) :=
  ⟨fun hzero => absurd hzero (Nat.one_le_iff_ne_zero.mp h.1), h.2⟩

/-- Turning a colour off keeps it timed. -/
theorem Timed.off {c : Channel} (h : Timed c) : Timed c.off := ⟨fun _ => rfl, h.delay_le⟩

/-- Lowering its delay keeps a colour timed. -/
theorem Timed.lower {c : Channel} (h : Timed c) (elapsedMs : Nat) :
    Timed (c.lower elapsedMs) where
  value_eq_zero := fun hzero => if_pos hzero
  delay_le := Nat.le_trans (Nat.sub_le _ _) h.delay_le

/-- Every colour is timed, along every run. -/
theorem timed_of_reaches {cfg : StatusConfig} {log : List Pixel} {s : StatusLed}
    (h : (machine cfg).Reaches log s) : s.Each Timed := by
  have hzero : Timed ⟨0, 0⟩ := ⟨fun _ => rfl, Nat.zero_le _⟩
  refine h.invariant (P := fun _ s => s.Each Timed) ⟨hzero, hzero, hzero⟩ ?_
  intro log s pass s' out _ htimed _ hs
  have hlit : ∀ d ∈ litDelays, 1 ≤ d ∧ d ≤ 5000 := by decide
  exact Each.step (htimed.updateDelays fun _ hc => hc.lower _) (fun d hd => timed_lit (hlit d hd))
    (fun _ _ => timed_lit cfg.resetDuration_range) (fun _ hc => hc.off) hs

/-- A delay that counts is not longer than the wait without any. -/
theorem running_le {c : Channel} (h : Timed c) : running c.delayMs ≤ UINT32_MAX := by
  have hle := h.delay_le
  unfold running UINT32_MAX
  split <;> omega

/-- **The task waits for ever** only when all delays are over. -/
theorem delays_of_wait_forever {s : StatusLed} (h : s.Each Timed)
    (hwait : s.calculateQueueWait = portMAX_DELAY) : s.Each fun c => c.delayMs = 0 := by
  unfold calculateQueueWait at hwait
  split at hwait
  · rename_i hzero
    exact ⟨hzero.1, hzero.2.1, hzero.2.2⟩
  · -- the ticks of a delay are less than `portMAX_DELAY`
    have hmin : min (min (running s.red.delayMs) (running s.green.delayMs)) (running s.blue.delayMs)
        ≤ UINT32_MAX := Nat.le_trans (Nat.min_le_right _ _) (running_le h.blue)
    unfold pdMS_TO_TICKS portMAX_DELAY configTICK_RATE_HZ at hwait
    unfold UINT32_MAX at hmin
    omega

/-- **Waiting for ever, all colours are off.** -/
theorem dark_of_wait_forever {s : StatusLed} (h : s.Each Timed)
    (hwait : s.calculateQueueWait = portMAX_DELAY) : s.Each fun c => c.value = 0 := by
  have hzero := delays_of_wait_forever h hwait
  exact ⟨h.red.value_eq_zero hzero.red, h.green.value_eq_zero hzero.green,
    h.blue.value_eq_zero hzero.blue⟩

/-- **The LED is not lit for ever**: what it shows while the task waits for ever is dark. -/
theorem dark_while_waiting {cfg : StatusConfig} {log : List Pixel} {s : StatusLed} {px : Pixel}
    (h : (machine cfg).Reaches log s) (hlast : log.getLast? = some px)
    (hwait : s.calculateQueueWait = portMAX_DELAY) : px = ⟨0, 0, 0⟩ := by
  have hshown : ∀ px, log.getLast? = some px → px = s.updateColor cfg := by
    refine h.invariant (P := fun log s => ∀ px, log.getLast? = some px → px = s.updateColor cfg)
      nofun ?_
    intro log s pass s' out _ _ _ hs px hpx
    rw [(step_cases hs).1, List.getLast?_concat] at hpx
    exact (Option.some.inj hpx).symm
  have hdark := dark_of_wait_forever (timed_of_reaches h) hwait
  rw [hshown px hlast, updateColor, hdark.red, hdark.green, hdark.blue, Nat.zero_mul, Nat.zero_div]

/-! ## Waiting for the next delay -/

/-- Some delay is not over. -/
def Running (s : StatusLed) : Prop := ¬ s.Each fun c => c.delayMs = 0

/-- While a delay is running, no pass takes so long that `elapsed_ms` wraps around. -/
def FitsClock (s : StatusLed) (pass : LedPass) : Prop := s.Running → pass.ticks * 10 < 2 ^ 32

/-- **No reset is asked for whose duration is no whole number of ticks**, and `elapsed_ms` does not
wrap around. -/
def InTicks (cfg : StatusConfig) (s : StatusLed) (pass : LedPass) : Prop :=
  s.FitsClock pass ∧
    (pass.msg = some .remoteReset → cfg.resetEnabled = true → 10 ∣ cfg.resetDurationMs)

/-- **The task lets time pass**: it waits at least one tick, and a pass without a message takes
some time and lowers some delay. -/
structure LetsTimePass (cfg : StatusConfig) (s : StatusLed) : Prop where
  /-- At least one tick. -/
  one_le_wait : 1 ≤ s.calculateQueueWait
  /-- Some delay is lowered. -/
  lowers : ∀ ticks s' out, s.FitsClock ⟨none, ticks⟩ → s.step cfg ⟨none, ticks⟩ = some (s', out) →
    0 < ticks ∧ (s'.red.delayMs < s.red.delayMs ∨ s'.green.delayMs < s.green.delayMs ∨
      s'.blue.delayMs < s.blue.delayMs)

/-- The milliseconds of a number of ticks that fits. -/
theorem pdTICKS_TO_MS_eq {ticks : Nat} (h : ticks * 10 < 2 ^ 32) :
    pdTICKS_TO_MS ticks = ticks * 10 := by
  unfold pdTICKS_TO_MS configTICK_RATE_HZ
  omega

/-- The delay of a colour is a whole number of ticks. -/
def OnTick (c : Channel) : Prop := 10 ∣ c.delayMs

/-- A delay that is over stays over. -/
theorem lower_of_zero {c : Channel} (h : c.delayMs = 0) (elapsedMs : Nat) :
    (c.lower elapsedMs).delayMs = 0 := by
  show c.delayMs - min elapsedMs c.delayMs = 0
  omega

/-- Whole ticks are left when whole ticks pass. -/
theorem OnTick.lower {c : Channel} (h : OnTick c) (ticks : Nat) :
    OnTick (c.lower (ticks * 10)) := by
  show 10 ∣ c.delayMs - min (ticks * 10) c.delayMs
  unfold OnTick at h
  omega

/-- A delay that runs is lowered. -/
theorem lower_lt {c : Channel} (h : c.delayMs ≠ 0) {elapsedMs : Nat} (hpos : 0 < elapsedMs) :
    (c.lower elapsedMs).delayMs < c.delayMs := by
  show c.delayMs - min elapsedMs c.delayMs < c.delayMs
  omega

/-- **Passing time keeps the delays whole ticks**, unless `elapsed_ms` wraps around. -/
theorem onTick_updateDelays {s : StatusLed} {pass : LedPass} (h : s.Each OnTick)
    (hfits : s.FitsClock pass) : (s.updateDelays (pdTICKS_TO_MS pass.ticks)).Each OnTick := by
  by_cases hrun : s.Running
  · rw [pdTICKS_TO_MS_eq (hfits hrun)]
    exact h.updateDelays fun _ hc => hc.lower _
  · -- all delays are over, however long the wait was
    have hzero := not_not.mp hrun
    have hdvd : ∀ {c : Channel}, c.delayMs = 0 → OnTick (c.lower (pdTICKS_TO_MS pass.ticks)) := by
      intro c hc
      rw [OnTick, lower_of_zero hc]
      exact Nat.dvd_zero 10
    exact ⟨hdvd hzero.red, hdvd hzero.green, hdvd hzero.blue⟩

/-- All delays are whole ticks, along every run in which resets are. -/
theorem onTick_of_run {cfg : StatusConfig} {log : List Pixel} {s : StatusLed}
    (h : (machine cfg).Run (InTicks cfg) log s) : s.Each OnTick := by
  have hzero : OnTick ⟨0, 0⟩ := Nat.dvd_zero 10
  have hlit : ∀ d ∈ litDelays, 10 ∣ d := by decide
  refine h.invariant (P := fun _ s => s.Each OnTick) ⟨hzero, hzero, hzero⟩ ?_
  intro log s pass s' out _ htick hok hs
  exact Each.step (onTick_updateDelays htick hok.1) hlit hok.2 (fun _ hc => hc) hs

/-- A whole number of ticks that counts is at least one. -/
theorem ten_le_running {c : Channel} (h : OnTick c) : 10 ≤ running c.delayMs := by
  unfold OnTick at h
  unfold running UINT32_MAX
  split <;> omega

/-- **With delays of whole ticks, the wait is at least one.** -/
theorem one_le_wait_of_onTick {s : StatusLed} (h : s.Each OnTick) :
    1 ≤ s.calculateQueueWait := by
  unfold calculateQueueWait
  split
  · decide
  · have hmin : 10 ≤ min (min (running s.red.delayMs) (running s.green.delayMs))
        (running s.blue.delayMs) :=
      Nat.le_min.mpr ⟨Nat.le_min.mpr ⟨ten_le_running h.red, ten_le_running h.green⟩,
        ten_le_running h.blue⟩
    unfold pdMS_TO_TICKS configTICK_RATE_HZ
    omega

/-- **A wait of at least one tick lowers a delay** when no message comes. -/
theorem letsTimePass_of_one_le_wait {cfg : StatusConfig} {s : StatusLed} (hrun : s.Running)
    (hwait : 1 ≤ s.calculateQueueWait) : s.LetsTimePass cfg where
  one_le_wait := hwait
  lowers := by
    intro ticks s' out hfits hs
    obtain ⟨-, ⟨msg, hmsg, -⟩ | ⟨-, -, hticks, rfl⟩⟩ := step_cases hs
    · cases hmsg
    · have hpos : 0 < ticks := Nat.lt_of_lt_of_le hwait hticks
      have hms : 0 < pdTICKS_TO_MS ticks := by
        rw [pdTICKS_TO_MS_eq (hfits hrun)]
        omega
      refine ⟨hpos, ?_⟩
      by_contra hnone
      rw [not_or, not_or] at hnone
      have hzero : ∀ {c : Channel}, ¬ (c.lower (pdTICKS_TO_MS ticks)).delayMs < c.delayMs →
          c.delayMs = 0 := fun hc => not_not.mp fun hne => hc (lower_lt hne hms)
      exact hrun ⟨hzero hnone.1, hzero hnone.2.1, hzero hnone.2.2⟩

/-! ## A reset whose duration is no whole number of ticks -/

/-- Less than a tick is left of red and blue, and green is over: the wait rounds down to nothing. -/
theorem wait_eq_zero {s : StatusLed} {rest : Nat} (hlt : rest < 10) (hne : rest ≠ 0)
    (hred : s.red.delayMs = rest) (hgreen : s.green.delayMs = 0) (hblue : s.blue.delayMs = rest) :
    s.calculateQueueWait = 0 := by
  have hrest : running rest = rest := if_pos hne
  have hzero : running 0 = UINT32_MAX := rfl
  rw [calculateQueueWait, hred, hgreen, hblue, if_neg fun h => hne h.1, hrest, hzero]
  unfold pdMS_TO_TICKS UINT32_MAX configTICK_RATE_HZ
  omega

/-- Red and blue are lit for one time, and green is off. -/
def litRedBlue (delayMs : Nat) : StatusLed := ⟨.lit delayMs, ⟨0, 0⟩, .lit delayMs⟩

/-- What is waited for red and blue. -/
theorem wait_litRedBlue {delayMs : Nat} (hpos : 1 ≤ delayMs) (hle : delayMs ≤ 5000) :
    (litRedBlue delayMs).calculateQueueWait = delayMs / 10 := by
  have hrun : running delayMs = delayMs := if_pos (by omega)
  have hzero : running 0 = UINT32_MAX := rfl
  have hnot : ¬ (delayMs = 0 ∧ (0 : Nat) = 0 ∧ delayMs = 0) := by omega
  rw [calculateQueueWait]
  show (if delayMs = 0 ∧ (0 : Nat) = 0 ∧ delayMs = 0 then portMAX_DELAY
    else pdMS_TO_TICKS (min (min (running delayMs) (running 0)) (running delayMs))) = delayMs / 10
  rw [if_neg hnot, hrun, hzero]
  unfold pdMS_TO_TICKS UINT32_MAX configTICK_RATE_HZ
  omega

/-- **After a reset**, when the whole ticks of its duration have passed, the rest of it is left. -/
theorem rest_of_reset {cfg : StatusConfig} (hen : cfg.resetEnabled = true) :
    ∃ log s, (machine cfg).Run FitsClock log s ∧ s.red.delayMs = cfg.resetDurationMs % 10 ∧
      s.green.delayMs = 0 ∧ s.blue.delayMs = cfg.resetDurationMs % 10 := by
  obtain ⟨hpos, hle⟩ := cfg.resetDuration_range
  have hreset : (machine cfg).step (machine cfg).init ⟨some .remoteReset, 0⟩
      = some (litRedBlue cfg.resetDurationMs,
          [(litRedBlue cfg.resetDurationMs).updateColor cfg]) := by
    simp only [machine, step, handleQueueMsg, hen]
    rfl
  have hidle : ¬ (machine cfg).init.Running := fun hrun => hrun ⟨rfl, rfl, rfl⟩
  have hwait := wait_litRedBlue hpos hle
  have hends : (litRedBlue cfg.resetDurationMs).calculateQueueWait ≠ portMAX_DELAY := by
    rw [hwait, portMAX_DELAY]
    omega
  have hpass : (machine cfg).step (litRedBlue cfg.resetDurationMs)
      ⟨none, cfg.resetDurationMs / 10⟩ = some _ := step_timeout hends (Nat.le_of_eq hwait)
  have hfits : cfg.resetDurationMs / 10 * 10 < 2 ^ 32 := by omega
  have hok : (litRedBlue cfg.resetDurationMs).FitsClock ⟨none, cfg.resetDurationMs / 10⟩ :=
    fun _ => hfits
  have hrun : (machine cfg).Run FitsClock _ (litRedBlue cfg.resetDurationMs) :=
    Machine.Run.step Machine.Run.init (fun h => absurd h hidle) hreset
  have hrest : ((Channel.lit cfg.resetDurationMs).lower
      (pdTICKS_TO_MS (cfg.resetDurationMs / 10))).delayMs = cfg.resetDurationMs % 10 := by
    rw [pdTICKS_TO_MS_eq hfits]
    show cfg.resetDurationMs - min (cfg.resetDurationMs / 10 * 10) cfg.resetDurationMs = _
    omega
  exact ⟨_, _, Machine.Run.step hrun hok hpass, hrest, lower_of_zero rfl _, hrest⟩

/-- **The task never leaves the LED lit for ever**, and it lets time pass while a delay is running,
in every run in which `elapsed_ms` does not wrap around and no reset is asked for whose duration is
no multiple of the tick period. It does so in all runs in which `elapsed_ms` does not wrap around
exactly if the configuration has no such reset. -/
theorem led_task_keeps_time (cfg : StatusConfig) :
    (∀ log s, (machine cfg).Reaches log s → s.calculateQueueWait = portMAX_DELAY →
      s.Each fun c => c.value = 0) ∧
    (∀ log s, (machine cfg).Run (InTicks cfg) log s → s.Running → s.LetsTimePass cfg) ∧
    ((∀ log s, (machine cfg).Run FitsClock log s → s.Running → s.LetsTimePass cfg) ↔
      (cfg.resetEnabled = true → 10 ∣ cfg.resetDurationMs)) := by
  have hticks : ∀ log s, (machine cfg).Run (InTicks cfg) log s → s.Running → s.LetsTimePass cfg :=
    fun log s h hrunning =>
      letsTimePass_of_one_le_wait hrunning (one_le_wait_of_onTick (onTick_of_run h))
  refine ⟨fun log s h hwait => dark_of_wait_forever (timed_of_reaches h) hwait, hticks, ?_, ?_⟩
  · intro hall hen
    by_contra hdvd
    have hne : cfg.resetDurationMs % 10 ≠ 0 := fun hz => hdvd (Nat.dvd_of_mod_eq_zero hz)
    obtain ⟨log, s, hrun, hred, hgreen, hblue⟩ := rest_of_reset hen
    have hrunning : s.Running := fun h => hne (hred ▸ h.red)
    have hone := (hall log s hrun hrunning).one_le_wait
    rw [wait_eq_zero (Nat.mod_lt _ (by decide)) hne hred hgreen hblue] at hone
    exact absurd hone (by decide)
  · intro hreset log s h
    exact hticks log s (h.mono fun _ _ hfits => ⟨hfits, fun _ => hreset⟩)

/-- **The task spins.** A reset of 105 ms: after 100 ms it waits for nothing, and a pass in which no
time passes changes nothing. -/
theorem spins_after_reset :
    ∃ log s, (machine ⟨true, 105, by decide, 20⟩).Reaches log s ∧ s.red.delayMs = 5 ∧
      s.calculateQueueWait = 0 ∧
      ∃ out, s.step ⟨true, 105, by decide, 20⟩ ⟨none, 0⟩ = some (s, out) := by
  have hrun : (machine ⟨true, 105, by decide, 20⟩).Reaches _ _ :=
    Machine.Reaches.init.exec [⟨some .remoteReset, 0⟩, ⟨none, 10⟩] rfl
  exact ⟨_, _, hrun, rfl, rfl, _, rfl⟩

end StatusLed

end TcpUart
