import TcpUart.Firmware.Stages

/-! # The settings of the UART
`uart_tx_task` hands the contents of every `Config` message of the right length to `apply_config`.

* `configs_conveyed` — the configurations applied are those of the messages taken, in order.
* `settings_of_reaches` — the settings of the driver are what the applied configurations make of the
  initial ones, one after the other.
* `partial_of_reaches` — what `read_msg` holds of a message is never a whole message. -/

namespace TcpUart

open Reactive Framing

/-- The configurations `apply_config` was called with. -/
def DevObs.configApplied? : DevObs → Option ConfigMessage
  | .configApplied config => some config
  | _ => none

/-- The configurations applied, in order. -/
def appliedConfigs (log : List DevObs) : List ConfigMessage :=
  log.filterMap DevObs.configApplied?

/-- The configuration an entry carries, if `uart_tx_task` applies it. -/
def Entry.config? (e : Entry) : Option ConfigMessage :=
  if e.msg.kind = MESSAGE_KIND_CONFIG ∧ e.msg.len.toNat = sizeofConfigMessage then
    some (ConfigMessage.ofBody e.msg.body)
  else none

/-- The message taken from `tcp_to_uart_queue` that is to be handled. -/
def TxPc.toHandle : TxPc → List Entry
  | .handle e => [e]
  | _ => []

/-- An entry of another kind carries no configuration. -/
theorem Entry.config?_of_kind {e : Entry} (h : e.msg.kind ≠ MESSAGE_KIND_CONFIG) :
    e.config? = none := if_neg fun hc => h hc.1

/-- There is nothing to apply in a message without a configuration. -/
theorem TxPc.filterMap_toHandle {e : Entry} (h : e.config? = none) :
    (TxPc.handle e).toHandle.filterMap Entry.config? = [] := List.filterMap_cons_none h

namespace Device

/-- A device that aborted makes no step. -/
theorem not_aborted_of_step {cfg : DeviceConfig} {d d' : Device} {i : DevInput}
    {out : List DevObs} (h : d.step cfg i = some (d', out)) : d.aborted = false := by
  cases hab : d.aborted with
  | false => rfl
  | true =>
      rw [step, hab] at h
      cases h

/-- The message `uart_tx_task` is still to handle; none once the chip restarts. -/
def toHandle (d : Device) : List Entry := if d.aborted then [] else d.tx.toHandle

/-- What is to be handled while the chip runs. -/
theorem toHandle_eq {d : Device} (h : d.aborted = false) : d.toHandle = d.tx.toHandle := by
  rw [toHandle, h]
  rfl

/-- **Configurations are applied** one after the other, as they are taken from the queue. -/
theorem configs_conveyed {cfg : DeviceConfig} {log : List DevObs} {d : Device}
    (h : (machine cfg).Reaches log d) :
    Conveys ((log.filterMap DevObs.txTaken?).filterMap Entry.config?) (appliedConfigs log)
      (some (d.toHandle.filterMap Entry.config?)) := by
  refine h.conveys (fun log => (log.filterMap DevObs.txTaken?).filterMap Entry.config?)
    appliedConfigs (fun d => d.toHandle.filterMap Entry.config?)
    (fun _ _ => by rw [List.filterMap_append, List.filterMap_append])
    (fun _ _ => List.filterMap_append) rfl ?_
  intro d i d' out hs
  have hrun := not_aborted_of_step hs
  -- a step that leaves `uart_tx_task` where it is, or brings it to or from a place with no message
  have hquiet : d'.aborted = false → (d.tx.toHandle.filterMap Entry.config?)
      = d'.tx.toHandle.filterMap Entry.config? → (out.filterMap DevObs.txTaken?) = [] →
      appliedConfigs out = [] → d.toHandle.filterMap Entry.config?
        ++ (out.filterMap DevObs.txTaken?).filterMap Entry.config?
      = appliedConfigs out ++ d'.toHandle.filterMap Entry.config? := by
    intro hrun' hsame htaken happlied
    rw [htaken, happlied, toHandle_eq hrun, toHandle_eq hrun', hsame]
    exact List.append_nil _
  cases step_cases hs with
  | @txRecv e q hpc hq =>
      rw [toHandle_eq hrun, hpc, toHandle_eq (by exact hrun)]
      rfl
  | txData hpc hk =>
      refine hquiet hrun ?_ rfl rfl
      rw [hpc]
      exact TxPc.filterMap_toHandle (Entry.config?_of_kind (by rw [hk]; decide))
  | @txConfig e junk settings aborted tx fault hpc hk hlen hres =>
      have hsome : e.config? = some (ConfigMessage.ofBody e.msg.body) := if_pos ⟨hk, hlen⟩
      have hdone : ({ d with tx := tx, settings := settings, aborted := aborted } :
          Device).toHandle = [] := by
        rcases hres with ⟨-, rfl, -⟩ | ⟨-, rfl, rfl, -⟩
        · rfl
        · rw [toHandle_eq (by exact hrun)]
          rfl
      rw [hdone, toHandle_eq hrun, hpc]
      show [e].filterMap Entry.config? ++ [] = _
      rw [List.filterMap_cons_some hsome]
      rfl
  | @txSkip e junk fault hpc hk hcfg hctl =>
      refine hquiet hrun ?_ rfl rfl
      have hnone : e.config? = none := if_neg fun hc => hcfg hc.1 hc.2
      rw [hpc]
      exact TxPc.filterMap_toHandle hnone
  | txPulse hpc hk =>
      refine hquiet hrun ?_ rfl rfl
      rw [hpc]
      exact TxPc.filterMap_toHandle (Entry.config?_of_kind (by rw [hk]; decide))
  | txDecline hpc hk =>
      refine hquiet hrun ?_ rfl rfl
      rw [hpc]
      exact TxPc.filterMap_toHandle (Entry.config?_of_kind (by rw [hk]; decide))
  | txPulseEnd hpc => exact hquiet hrun (by rw [hpc]; rfl) rfl rfl
  | txSend hpc => exact hquiet hrun (by rw [hpc]; rfl) rfl rfl
  | txWriteEfd hpc => exact hquiet hrun (by rw [hpc]; rfl) rfl rfl
  | _ => exact hquiet hrun rfl rfl rfl

/-- What a list of configurations makes of the initial settings. -/
def settingsAfter (cfg : DeviceConfig) (configs : List ConfigMessage) : UartSettings :=
  configs.foldl (fun s config => applyConfig cfg config s) UartSettings.initial

/-- **The settings of the driver** are what the configurations applied make of them, until an
`ESP_ERROR_CHECK` in `apply_config` fails. -/
theorem settings_of_reaches {cfg : DeviceConfig} {log : List DevObs} {d : Device}
    (h : (machine cfg).Reaches log d) :
    d.aborted = false → d.settings = settingsAfter cfg (appliedConfigs log) := by
  refine h.invariant
    (P := fun log d => d.aborted = false → d.settings = settingsAfter cfg (appliedConfigs log))
    (fun _ => rfl) ?_
  intro log d i d' out _ hset _ hs hrun'
  have hrun := not_aborted_of_step hs
  have happend : appliedConfigs (log ++ out) = appliedConfigs log ++ appliedConfigs out :=
    List.filterMap_append
  rw [happend]
  have hquiet : d'.settings = d.settings → appliedConfigs out = [] →
      d'.settings = settingsAfter cfg (appliedConfigs log ++ appliedConfigs out) := by
    intro hsame hout
    rw [hsame, hout, List.append_nil]
    exact hset hrun
  cases step_cases hs with
  | @txConfig e junk settings aborted tx fault hpc hk hlen hres =>
      rcases hres with ⟨-, rfl, -⟩ | ⟨-, -, -, rfl⟩
      · cases hrun'
      · have hout : appliedConfigs [.configApplied (ConfigMessage.ofBody e.msg.body)]
            = [ConfigMessage.ofBody e.msg.body] := rfl
        rw [hout, settingsAfter, List.foldl_append, ← settingsAfter, ← hset hrun]
        rfl
  | _ => exact hquiet rfl rfl

/-! ## Messages that are being read -/

/-- What is held of the message being read is not a whole message. -/
def Partial (pc : TcpPc) : Prop := ∀ f : Frame, ¬ f.bytes <+: pc.got

/-- No message begins in nothing. -/
theorem Partial.of_got_nil {pc : TcpPc} (h : pc.got = []) : Partial pc := by
  intro f hf
  rw [h, List.prefix_nil] at hf
  exact Frame.selfDelimiting_bytes.ne_nil f hf

/-- No message is shorter than its header. -/
theorem Partial.of_lt_two {pc : TcpPc} (h : pc.got.length < 2) : Partial pc := by
  intro f hf
  have hle := hf.length_le
  simp only [Frame.bytes, List.length_cons] at hle
  omega

/-- A message is not whole before all the bytes announced are there. -/
theorem Partial.of_body {efd : Bool} {kind len : UInt8} {got : Bytes} {junk : Block}
    (h : got.length < len.toNat) : Partial (.readBody efd kind len got junk) := by
  intro f hf
  have hpre : f.kind :: UInt8.ofNat f.payload.length :: f.payload <+: kind :: len :: got := hf
  obtain ⟨-, hpre⟩ := List.cons_prefix_cons.mp hpre
  obtain ⟨hlen, hpre⟩ := List.cons_prefix_cons.mp hpre
  have hle := hpre.length_le
  rw [← hlen, f.toNat_length] at h
  omega

/-- `recv` in `read_msg` leaves part of a message, or none. -/
theorem Partial.of_recv {d d' : Device} {bs : Bytes} {out : List DevObs}
    (h : d.stepTcp (.recv bs) = some (d', out)) : Partial d'.tcp := by
  simp only [stepTcp] at h
  split at h
  · rename_i efd got junk hpc
    split at h
    · rename_i hbs
      split at h
      · rename_i kind len hgot
        split at h
        · cases h
          exact .of_got_nil rfl
        · rename_i hlen
          cases h
          refine .of_body (Nat.pos_of_ne_zero fun hz => hlen ?_)
          exact UInt8.toNat_inj.mp hz
      · rename_i hgot
        cases h
        refine .of_lt_two ?_
        show (got ++ bs).length < 2
        have hlen : (got ++ bs).length ≤ 2 := by
          rw [List.length_append]
          exact hbs.2
        by_contra hge
        obtain ⟨a, b, heq⟩ := List.length_eq_two.mp (show (got ++ bs).length = 2 by omega)
        exact hgot a b heq
    · cases h
  · rename_i efd kind len got junk hpc
    split at h
    · rename_i hbs
      split at h
      · cases h
        exact .of_got_nil rfl
      · rename_i hlen
        cases h
        refine .of_body (Nat.lt_of_le_of_ne ?_ hlen)
        rw [List.length_append]
        exact hbs.2
    · cases h
  · cases h

/-- **What `read_msg` holds is part of a message**, in every state the device reaches. -/
theorem partial_of_reaches {cfg : DeviceConfig} {log : List DevObs} {d : Device}
    (h : (machine cfg).Reaches log d) : Partial d.tcp := by
  refine h.invariant (P := fun _ d => Partial d.tcp) (.of_got_nil rfl) ?_
  intro log d i d' out _ hp _ hs
  have hrun := not_aborted_of_step hs
  cases step_cases hs with
  | setup ok hpc =>
      apply Partial.of_got_nil
      cases ok <;> rfl
  | @recvMore efd got bs pc hr hbs hr' =>
      -- no other task is moved by `recv`
      have hstep : d.step cfg (.recv bs) = d.stepTcp (.recv bs) := by
        rw [step, hrun]
        exact Option.or_none
      exact Partial.of_recv (hstep.symm.trans hs)
  | @enqueue efd e q hpc hq =>
      apply Partial.of_got_nil
      cases efd <;> rfl
  | accept => exact .of_got_nil rfl
  | selectFail => exact .of_got_nil rfl
  | selectClient => exact .of_got_nil rfl
  | selectEfd => exact .of_got_nil rfl
  | recvDone => exact .of_got_nil rfl
  | recvFail => exact .of_got_nil rfl
  | readEfd => exact .of_got_nil rfl
  | drainEmpty => exact .of_got_nil rfl
  | drainTake => exact .of_got_nil rfl
  | sendHdr => exact .of_got_nil rfl
  | sendBody => exact .of_got_nil rfl
  | sendFail => exact .of_got_nil rfl
  | _ => exact hp

end Device

end TcpUart
