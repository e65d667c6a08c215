import TcpUart.Lib.Machine
import TcpUart.Codec.Bytes

/-! # The Wi-Fi station of the device (`server/main/wifi.c`)
`event_handler` runs on the event loop and reacts to the station: it tries the configured networks
one after the other and gives up, by setting `FAILED_BIT`, after `MAX_RETRIES` rounds. `wifi_init`
runs once at start-up; it waits until a bit is set and then returns or reboots the device. Nobody
waits for the bits after that.

The model has one step for each event and for each await of `wifi_init`. Which events occur, and
when, is up to the input.

* `Wifi.eventHandler` — `event_handler`.
* `Wifi.step` — an event, or `wifi_init` going on.
* `Wifi.Online` — connected, trying to connect, or about to reboot.
* `Wifi.never_stuck` — a run that does not give up after `wifi_init` was released by a connection is
  online after every event, and giving up then is exactly what takes the device offline. -/

namespace TcpUart

open Reactive

/-- `wifi_cred_t`. -/
structure WifiCred where
  /-- `ssid`. -/
  ssid : Bytes
  /-- `password`. -/
  password : Bytes
  deriving DecidableEq

/-- What the build configures. -/
structure WifiConfig where
  /-- `s_wifi_networks`. -/
  networks : List WifiCred
  /-- `MAX_RETRIES`. -/
  maxRetries : Nat
  /-- Network 1 is always present. -/
  networks_pos : 0 < networks.length
  /-- At least one round is tried. -/
  maxRetries_pos : 0 < maxRetries

/-- The events the handler is registered for. -/
inductive WifiEvent
  /-- `WIFI_EVENT_STA_START`. -/
  | staStart
  /-- `WIFI_EVENT_STA_DISCONNECTED`. -/
  | staDisconnected
  /-- `IP_EVENT_STA_GOT_IP`. -/
  | gotIp
  deriving DecidableEq

/-- The bits of the event group `wifi_events`. -/
structure EventBits where
  /-- `CONNECTED_BIT`. -/
  connected : Bool
  /-- `FAILED_BIT`. -/
  failed : Bool
  deriving DecidableEq

namespace EventBits

/-- The bits of either. -/
def or (a b : EventBits) : EventBits := ⟨a.connected || b.connected, a.failed || b.failed⟩

/-- Whether a bit is set. -/
def any (a : EventBits) : Bool := a.connected || a.failed

end EventBits

/-- Where `wifi_init` is, once the station is started. -/
inductive InitPc
  /-- Before `xEventGroupWaitBits`. -/
  | starting
  /-- In `xEventGroupWaitBits`. -/
  | waiting
  /-- Released by these bits, but not running yet. -/
  | woken (bits : EventBits)
  /-- `wifi_init` has returned. -/
  | returned
  /-- In the delay before `esp_restart`. -/
  | rebooting
  /-- The device has been restarted. -/
  | restarted
  deriving DecidableEq

/-- What the station is doing. -/
inductive StationLink
  /-- Neither connected nor trying. -/
  | down
  /-- `esp_wifi_connect` was called and the outcome is still to come. -/
  | attempting
  /-- Connected. -/
  | up
  deriving DecidableEq

/-- The static variables of `wifi.c`, `wifi_init` and the station. -/
structure Wifi where
  /-- `s_retry_count`. -/
  retryCount : Nat
  /-- `s_current_wifi_idx`. -/
  currentWifiIdx : Nat
  /-- The credentials in `s_current_config`; `none` is a read past the end of the table. -/
  currentConfig : Option WifiCred
  /-- The bits of `wifi_events`. -/
  bits : EventBits
  /-- `wifi_init`. -/
  init : InitPc
  /-- The station. -/
  link : StationLink
  deriving DecidableEq

/-- What goes on: an event is handled or `wifi_init` takes a step. -/
inductive WifiInput
  /-- The event loop calls the handler. -/
  | event (e : WifiEvent)
  /-- `wifi_init` calls `xEventGroupWaitBits`. -/
  | waitBits
  /-- `xEventGroupWaitBits` returns to `wifi_init`. -/
  | resumed
  /-- `esp_restart`. -/
  | restart
  deriving DecidableEq

/-- What an observer sees. -/
inductive WifiObs
  /-- An event is handled. -/
  | handled (e : WifiEvent)
  /-- A connection to the network with this index is attempted. -/
  | attempt (idx : Nat)
  /-- `FAILED_BIT` is set. -/
  | gaveUp
  /-- The device is restarted. -/
  | restarted
  deriving DecidableEq

namespace Wifi

/-- The station as `esp_wifi_start` leaves it. -/
def start : Wifi := ⟨0, 0, none, ⟨false, false⟩, .starting, .down⟩

/-- `update_config_and_connect`. -/
def updateConfigAndConnect (cfg : WifiConfig) (s : Wifi) : Wifi × List WifiObs :=
  ({ s with currentConfig := cfg.networks[s.currentWifiIdx]?, link := .attempting },
    [.attempt s.currentWifiIdx])

/-- `xEventGroupSetBits`: a task that waits is released with the bits set now. -/
def setBits (s : Wifi) (bits : EventBits) : Wifi :=
  let bits := s.bits.or bits
  { s with
    bits := bits
    init := match s.init with
      | .waiting => .woken bits
      | pc => pc }

/-- `event_handler`. -/
def eventHandler (cfg : WifiConfig) (s : Wifi) : WifiEvent → Wifi × List WifiObs
  | .staStart => s.updateConfigAndConnect cfg
  | .staDisconnected =>
      let s := { s with link := .down, currentWifiIdx := s.currentWifiIdx + 1 }
      -- the index wraps around after the last network, which ends a round
      if s.currentWifiIdx ≥ cfg.networks.length then
        let s := { s with currentWifiIdx := 0, retryCount := s.retryCount + 1 }
        if s.retryCount = cfg.maxRetries then (s.setBits ⟨false, true⟩, [.gaveUp])
        else s.updateConfigAndConnect cfg
      else s.updateConfigAndConnect cfg
  | .gotIp => (setBits { s with retryCount := 0, link := .up } ⟨true, false⟩, [])

/-- `wifi_init` after `xEventGroupWaitBits` has returned `bits`. -/
def afterWait (s : Wifi) (bits : EventBits) : Wifi :=
  { s with init := if bits.connected then .returned else .rebooting }

/-- One step. After `esp_restart` nothing goes on. -/
def step (cfg : WifiConfig) (s : Wifi) (i : WifiInput) : Option (Wifi × List WifiObs) :=
  if s.init = .restarted then none
  else
    match i with
    | .event e => some ((s.eventHandler cfg e).1, .handled e :: (s.eventHandler cfg e).2)
    | .waitBits =>
        if s.init = .starting then
          -- the bits may be set already
          some (if s.bits.any then s.afterWait s.bits else { s with init := .waiting }, [])
        else none
    | .resumed =>
        -- `wifi_init` runs with the bits at the time it was released
        match s.init with
        | .woken bits => some (s.afterWait bits, [])
        | _ => none
    | .restart =>
        if s.init = .rebooting then some ({ s with init := .restarted }, [.restarted]) else none

/-- The machine of the Wi-Fi logic. -/
def machine (cfg : WifiConfig) : Machine Wifi WifiInput WifiObs := ⟨start, step cfg⟩

/-! ## Staying online -/

/-- **The reboot path runs**: `wifi_init` has not looked at the bits yet and will find `FAILED_BIT`
without `CONNECTED_BIT`, or it is rebooting. -/
def RebootDue (s : Wifi) : Prop :=
  match s.init with
  | .starting => s.bits.failed = true ∧ s.bits.connected = false
  | .waiting => False
  | .woken bits => bits.failed = true ∧ bits.connected = false
  | .returned => False
  | .rebooting => True
  | .restarted => True

/-- The device is not stuck offline. -/
def Online (s : Wifi) : Prop := s.link = .up ∨ s.link = .attempting ∨ s.RebootDue

/-- `wifi_init` has returned, or will return because `CONNECTED_BIT` is set. -/
def Released (s : Wifi) : Prop :=
  match s.init with
  | .starting => s.bits.connected = true
  | .waiting => s.bits.connected = true
  | .woken bits => bits.connected = true
  | .returned => True
  | .rebooting => False
  | .restarted => False

/-- The last network of the last round was lost or could not be joined. -/
def LastRound (cfg : WifiConfig) (s : Wifi) : Prop :=
  cfg.networks.length ≤ s.currentWifiIdx + 1 ∧ s.retryCount + 1 = cfg.maxRetries

/-- The handler does not give up after `wifi_init` was released. -/
def GivesUpInTime (cfg : WifiConfig) (s : Wifi) (i : WifiInput) : Prop :=
  i = .event .staDisconnected → s.LastRound cfg → ¬ s.Released

/-- **Giving up**: nothing is attempted and `FAILED_BIT` is set. -/
theorem eventHandler_lastRound {cfg : WifiConfig} {s : Wifi} (h : s.LastRound cfg) :
    s.eventHandler cfg .staDisconnected
      = (setBits { s with link := .down, currentWifiIdx := 0, retryCount := s.retryCount + 1 }
          ⟨false, true⟩, [.gaveUp]) := by
  simp only [eventHandler]
  rw [if_pos h.1, if_pos h.2]

/-- **Going on**: the next network is tried. -/
theorem link_of_not_lastRound {cfg : WifiConfig} {s : Wifi} (h : ¬ s.LastRound cfg) :
    (s.eventHandler cfg .staDisconnected).1.link = .attempting := by
  simp only [eventHandler]
  split
  · rename_i hwrap
    rw [if_neg fun hmax => h ⟨hwrap, hmax⟩]
    rfl
  · rfl

/-- A task is released by a bit. -/
def WokenByBit (s : Wifi) : Prop := ∀ bits, s.init = .woken bits → bits.any = true

/-- Setting a bit releases a task by that bit. -/
theorem WokenByBit.setBits {s : Wifi} (h : s.WokenByBit) {bits : EventBits}
    (hbits : bits.any = true) : (s.setBits bits).WokenByBit := by
  intro bits' hpc
  cases hinit : s.init with
  | waiting =>
      simp only [Wifi.setBits, hinit, InitPc.woken.injEq] at hpc
      subst hpc
      simp only [EventBits.any, EventBits.or, Bool.or_eq_true] at hbits ⊢
      rcases hbits with hc | hf
      · exact .inl (.inr hc)
      · exact .inr (.inr hf)
  | woken bits₀ =>
      simp only [Wifi.setBits, hinit, InitPc.woken.injEq] at hpc
      subst hpc
      exact h bits₀ hinit
  | _ => simp only [Wifi.setBits, hinit, reduceCtorEq] at hpc

/-- A handled event releases a task by a bit. -/
theorem WokenByBit.eventHandler {s : Wifi} (h : s.WokenByBit) (cfg : WifiConfig) (e : WifiEvent) :
    (s.eventHandler cfg e).1.WokenByBit := by
  cases e with
  | staStart => exact h
  | gotIp => exact WokenByBit.setBits (s := { s with retryCount := 0, link := .up }) h rfl
  | staDisconnected =>
      by_cases hlast : s.LastRound cfg
      · rw [eventHandler_lastRound hlast]
        exact WokenByBit.setBits
          (s := { s with link := .down, currentWifiIdx := 0, retryCount := s.retryCount + 1 }) h rfl
      · simp only [Wifi.eventHandler]
        split
        · rename_i hwrap
          rw [if_neg fun hmax => hlast ⟨hwrap, hmax⟩]
          exact h
        · exact h

/-- **Giving up in time leads to a reboot.** -/
theorem rebootDue_of_lastRound {cfg : WifiConfig} {s : Wifi} (hw : s.WokenByBit)
    (hlast : s.LastRound cfg) (hrel : ¬ s.Released) :
    (s.eventHandler cfg .staDisconnected).1.RebootDue := by
  rw [eventHandler_lastRound hlast]
  unfold Released at hrel
  unfold RebootDue setBits
  cases hinit : s.init with
  | starting =>
      rw [hinit] at hrel
      simp only [EventBits.or, Bool.or_true, Bool.or_false, true_and]
      exact Bool.eq_false_iff.mpr hrel
  | waiting =>
      rw [hinit] at hrel
      simp only [EventBits.or, Bool.or_true, Bool.or_false, true_and]
      exact Bool.eq_false_iff.mpr hrel
  | woken bits =>
      rw [hinit] at hrel
      have hc : bits.connected = false := Bool.eq_false_iff.mpr hrel
      have hany := hw bits hinit
      rw [EventBits.any, hc, Bool.false_or] at hany
      exact ⟨hany, hc⟩
  | returned =>
      rw [hinit] at hrel
      exact absurd trivial hrel
  | rebooting => trivial
  | restarted => trivial

/-- **Giving up too late leaves the device offline.** -/
theorem not_online_of_released {cfg : WifiConfig} {s : Wifi} (hlast : s.LastRound cfg)
    (hrel : s.Released) : ¬ (s.eventHandler cfg .staDisconnected).1.Online := by
  rw [eventHandler_lastRound hlast]
  rintro (hup | hatt | hdue)
  · cases hup
  · cases hatt
  · unfold Released at hrel
    unfold RebootDue setBits at hdue
    cases hinit : s.init with
    | starting =>
        rw [hinit] at hrel hdue
        simp [EventBits.or, hrel] at hdue
    | waiting =>
        rw [hinit] at hrel hdue
        simp [EventBits.or, hrel] at hdue
    | woken bits =>
        rw [hinit] at hrel hdue
        simp only [hrel, Bool.true_eq_false, and_false] at hdue
    | returned =>
        rw [hinit] at hdue
        exact hdue
    | rebooting =>
        rw [hinit] at hrel
        exact hrel
    | restarted =>
        rw [hinit] at hrel
        exact hrel

/-- The transitions of the Wi-Fi logic. -/
inductive Step (cfg : WifiConfig) (s : Wifi) : WifiInput → Wifi → List WifiObs → Prop
  /-- An event is handled. -/
  | event (e : WifiEvent) :
      Step cfg s (.event e) (s.eventHandler cfg e).1 (.handled e :: (s.eventHandler cfg e).2)
  /-- `wifi_init` finds a bit set. -/
  | found (hpc : s.init = .starting) (hbits : s.bits.any = true) :
      Step cfg s .waitBits (s.afterWait s.bits) []
  /-- `wifi_init` waits. -/
  | waits (hpc : s.init = .starting) (hbits : s.bits.any = false) :
      Step cfg s .waitBits { s with init := .waiting } []
  /-- `wifi_init` goes on with the bits that released it. -/
  | resumed {bits : EventBits} (hpc : s.init = .woken bits) :
      Step cfg s .resumed (s.afterWait bits) []
  /-- The device restarts. -/
  | restart (hpc : s.init = .rebooting) :
      Step cfg s .restart { s with init := .restarted } [.restarted]

/-- Inversion of the step function. -/
theorem step_cases {cfg : WifiConfig} {s s' : Wifi} {i : WifiInput} {out : List WifiObs}
    (h : s.step cfg i = some (s', out)) : Step cfg s i s' out := by
  unfold step at h
  split at h
  · cases h
  · cases i with
    | event e =>
        cases h
        exact .event e
    | waitBits =>
        dsimp only at h
        split at h
        · rename_i hpc
          cases h
          cases hbits : s.bits.any with
          | true => exact .found hpc hbits
          | false => exact .waits hpc hbits
        · cases h
    | resumed =>
        dsimp only at h
        split at h
        · rename_i bits hpc
          cases h
          exact .resumed hpc
        · cases h
    | restart =>
        dsimp only at h
        split at h
        · rename_i hpc
          cases h
          exact .restart hpc
        · cases h

/-- A task that goes on is not one that waits to be released. -/
theorem wokenByBit_afterWait (s : Wifi) (bits : EventBits) : (s.afterWait bits).WokenByBit := by
  intro bits' hpc
  have hpc' : (if bits.connected then InitPc.returned else .rebooting) = .woken bits' := hpc
  split at hpc' <;> cases hpc'

/-- `wifi_init` going on with `FAILED_BIT` alone reboots. -/
theorem rebootDue_afterWait (s : Wifi) {bits : EventBits} (h : bits.connected = false) :
    (s.afterWait bits).RebootDue := by
  rw [RebootDue, afterWait, h]
  trivial

/-- An event that does not give up too late is handled online. -/
theorem online_eventHandler {cfg : WifiConfig} {s : Wifi} {e : WifiEvent} (hw : s.WokenByBit)
    (hok : s.GivesUpInTime cfg (.event e)) : (s.eventHandler cfg e).1.Online := by
  cases e with
  | staStart => exact .inr (.inl rfl)
  | gotIp => exact .inl rfl
  | staDisconnected =>
      by_cases hlast : s.LastRound cfg
      · exact .inr (.inr (rebootDue_of_lastRound hw hlast (hok rfl hlast)))
      · exact .inr (.inl (link_of_not_lastRound hlast))

/-- `wifi_init` going on keeps the device online. -/
theorem Online.of_init {s s' : Wifi} (h : s.Online) (hlink : s'.link = s.link)
    (hdue : s.RebootDue → s'.RebootDue) : s'.Online := by
  rcases h with hup | hatt | hd
  · exact .inl (hlink.trans hup)
  · exact .inr (.inl (hlink.trans hatt))
  · exact .inr (.inr (hdue hd))

/-- What holds along a run: a task is released by a bit, and after an event the device is online. -/
structure Kept (log : List WifiObs) (s : Wifi) : Prop where
  /-- A task is released by a bit. -/
  woken : s.WokenByBit
  /-- After an event the device is online. -/
  online : (∃ e, .handled e ∈ log) → s.Online

/-- **Every step that does not give up too late keeps the device online.** -/
theorem Kept.step {cfg : WifiConfig} {log out : List WifiObs} {s s' : Wifi} {i : WifiInput}
    (h : Kept log s) (hok : s.GivesUpInTime cfg i) (hs : Step cfg s i s' out) :
    Kept (log ++ out) s' := by
  -- a step of `wifi_init` handles no event
  have hbefore : ∀ {out : List WifiObs}, (∀ e, .handled e ∉ out) →
      (∃ e, .handled e ∈ log ++ out) → s.Online := by
    intro out hno hex
    obtain ⟨e, he⟩ := hex
    rcases List.mem_append.mp he with he | he
    · exact h.online ⟨e, he⟩
    · exact absurd he (hno e)
  cases hs with
  | event e => exact ⟨h.woken.eventHandler cfg e, fun _ => online_eventHandler h.woken hok⟩
  | found hpc hbits =>
      refine ⟨wokenByBit_afterWait s s.bits, fun hex => ?_⟩
      refine (hbefore (fun _ => List.not_mem_nil) hex).of_init rfl ?_
      intro hdue
      rw [RebootDue, hpc] at hdue
      exact rebootDue_afterWait s hdue.2
  | waits hpc hbits =>
      refine ⟨nofun, fun hex => ?_⟩
      refine (hbefore (fun _ => List.not_mem_nil) hex).of_init rfl ?_
      intro hdue
      rw [RebootDue, hpc] at hdue
      rw [EventBits.any, hdue.1, Bool.or_true] at hbits
      cases hbits
  | @resumed bits hpc =>
      refine ⟨wokenByBit_afterWait s bits, fun hex => ?_⟩
      refine (hbefore (fun _ => List.not_mem_nil) hex).of_init rfl ?_
      intro hdue
      rw [RebootDue, hpc] at hdue
      exact rebootDue_afterWait s hdue.2
  | restart hpc =>
      refine ⟨nofun, fun hex => ?_⟩
      refine (hbefore ?_ hex).of_init rfl fun _ => trivial
      intro e he
      cases List.mem_singleton.mp he

/-- Along every run that gives up in time, the device is online after every event. -/
theorem kept_of_run {cfg : WifiConfig} {log : List WifiObs} {s : Wifi}
    (h : (machine cfg).Run (GivesUpInTime cfg) log s) : Kept log s := by
  refine h.invariant (P := Kept) ?_ ?_
  · refine ⟨nofun, ?_⟩
    rintro ⟨e, he⟩
    cases he
  · intro log s i s' out _ hk hok hs
    exact hk.step hok (step_cases hs)

/-- **When the device does not get stuck offline.** Along every run in which the handler never gives
up after `wifi_init` was released by a connection, the station is connected, a connection is being
attempted or the reboot path runs after every handled event. A step that does give up then takes
the device offline. -/
theorem never_stuck {cfg : WifiConfig} {log : List WifiObs} {s : Wifi}
    (h : (machine cfg).Run (GivesUpInTime cfg) log s) :
    ((∃ e, .handled e ∈ log) → s.Online) ∧
      ∀ i s' out, s.step cfg i = some (s', out) → ¬ s.GivesUpInTime cfg i → ¬ s'.Online := by
  refine ⟨(kept_of_run h).online, ?_⟩
  intro i s' out hs hnot
  rw [GivesUpInTime, Classical.not_imp, Classical.not_imp, Classical.not_not] at hnot
  obtain ⟨rfl, hlast, hrel⟩ := hnot
  cases step_cases hs with
  | event => exact not_online_of_released hlast hrel

/-- One network, five rounds: a connection that is lost once is attempted again. -/
theorem never_stuck_reconnects :
    ∃ log s, (machine ⟨[⟨[], []⟩], 5, by decide, by decide⟩).Run
        (GivesUpInTime ⟨[⟨[], []⟩], 5, by decide, by decide⟩) log s ∧
      s.init = .returned ∧ .handled .staDisconnected ∈ log ∧ s.Online := by
  have hrun : ((machine ⟨[⟨[], []⟩], 5, by decide, by decide⟩).restrict
      fun s _ => decide (s.retryCount + 1 ≠ 5)).Reaches _ _ :=
    Machine.Reaches.init.exec [.event .staStart, .waitBits, .event .gotIp, .resumed,
      .event .staDisconnected] rfl
  have hrun' := hrun.of_restrict (GivesUpInTime ⟨[⟨[], []⟩], 5, by decide, by decide⟩)
    fun s i hcheck _ hlast => absurd hlast.2 (of_decide_eq_true hcheck)
  obtain ⟨log, s, hr, hpc, hmem⟩ : ∃ log s, (machine ⟨[⟨[], []⟩], 5, by decide, by decide⟩).Run
      (GivesUpInTime ⟨[⟨[], []⟩], 5, by decide, by decide⟩) log s ∧ s.init = .returned ∧
      .handled .staDisconnected ∈ log :=
    ⟨_, _, hrun', rfl, by decide⟩
  exact ⟨log, s, hr, hpc, hmem, (never_stuck hr).1 ⟨_, hmem⟩⟩

/-- **A lost connection leaves the device offline.** One network, one round: the device connects,
`wifi_init` returns, and the connection is lost. The handler sets `FAILED_BIT`, for which nobody
waits, and attempts nothing. -/
theorem stuck_offline :
    ∃ log s, (machine ⟨[⟨[], []⟩], 1, by decide, by decide⟩).Reaches log s ∧
      .handled .staDisconnected ∈ log ∧ s.init = .returned ∧ ¬ s.Online := by
  have hrun : (machine ⟨[⟨[], []⟩], 1, by decide, by decide⟩).Reaches _ _ :=
    Machine.Reaches.init.exec [.event .staStart, .waitBits, .event .gotIp, .resumed,
      .event .staDisconnected] rfl
  refine ⟨_, _, hrun, by decide, rfl, ?_⟩
  rintro (hup | hatt | hdue)
  · cases hup
  · cases hatt
  · exact hdue

end Wifi

end TcpUart
