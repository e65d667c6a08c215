import TcpUart.Firmware.Wifi

/-! # The rounds of the Wi-Fi fallback
The handler counts rounds in `s_retry_count` and the networks of a round in `s_current_wifi_idx`. A
connection resets the count of rounds but not the index, so the first round after a lost connection
begins behind the network that was connected. This module counts the attempts.

* `Turn` — what a step does to the two counters, and what it attempts.
* `Since` — the history since the last connection or, if there was none, since the station was
  started.
* `attempts_balance` — the number of attempts at each network since then.
* `full_cycles` — the index stays in bounds; when the handler gives up, whether every network was
  attempted in `MAX_RETRIES` rounds. -/

namespace TcpUart

open Reactive

namespace Wifi

/-- What a step does to `s_current_wifi_idx` and `s_retry_count`. -/
inductive Turn (cfg : WifiConfig) (s : Wifi) : WifiInput → Wifi → List WifiObs → Prop
  /-- The station starts: the network at the index is attempted. -/
  | start {s' : Wifi} (hidx : s'.currentWifiIdx = s.currentWifiIdx)
      (hretry : s'.retryCount = s.retryCount) :
      Turn cfg s (.event .staStart) s' [.handled .staStart, .attempt s.currentWifiIdx]
  /-- The next network of the round is attempted. -/
  | next {s' : Wifi} (hlt : s.currentWifiIdx + 1 < cfg.networks.length)
      (hidx : s'.currentWifiIdx = s.currentWifiIdx + 1) (hretry : s'.retryCount = s.retryCount) :
      Turn cfg s (.event .staDisconnected) s'
        [.handled .staDisconnected, .attempt (s.currentWifiIdx + 1)]
  /-- The next round begins with the first network. -/
  | wrap {s' : Wifi} (hle : cfg.networks.length ≤ s.currentWifiIdx + 1)
      (hmax : s.retryCount + 1 ≠ cfg.maxRetries) (hidx : s'.currentWifiIdx = 0)
      (hretry : s'.retryCount = s.retryCount + 1) :
      Turn cfg s (.event .staDisconnected) s' [.handled .staDisconnected, .attempt 0]
  /-- The last round is over. -/
  | gaveUp {s' : Wifi} (hle : cfg.networks.length ≤ s.currentWifiIdx + 1)
      (hmax : s.retryCount + 1 = cfg.maxRetries) (hidx : s'.currentWifiIdx = 0)
      (hretry : s'.retryCount = cfg.maxRetries) :
      Turn cfg s (.event .staDisconnected) s' [.handled .staDisconnected, .gaveUp]
  /-- The device is connected. -/
  | connected {s' : Wifi} (hidx : s'.currentWifiIdx = s.currentWifiIdx)
      (hretry : s'.retryCount = 0) :
      Turn cfg s (.event .gotIp) s' [.handled .gotIp]
  /-- `wifi_init` goes on. -/
  | init {i : WifiInput} {s' : Wifi} {out : List WifiObs} (hi : ∀ e, i ≠ .event e)
      (hidx : s'.currentWifiIdx = s.currentWifiIdx) (hretry : s'.retryCount = s.retryCount)
      (hout : out = [] ∨ out = [.restarted]) : Turn cfg s i s' out

/-- Every step is one of these. -/
theorem turn_of_step {cfg : WifiConfig} {s s' : Wifi} {i : WifiInput} {out : List WifiObs}
    (h : s.step cfg i = some (s', out)) : Turn cfg s i s' out := by
  cases step_cases h with
  | event e =>
      cases e with
      | staStart => exact .start rfl rfl
      | gotIp => exact .connected rfl rfl
      | staDisconnected =>
          by_cases hle : cfg.networks.length ≤ s.currentWifiIdx + 1
          · by_cases hmax : s.retryCount + 1 = cfg.maxRetries
            · rw [eventHandler_lastRound ⟨hle, hmax⟩]
              exact .gaveUp hle hmax rfl hmax
            · have hturn : s.eventHandler cfg .staDisconnected
                  = updateConfigAndConnect cfg { s with
                      link := .down, currentWifiIdx := 0, retryCount := s.retryCount + 1 } := by
                simp only [eventHandler]
                rw [if_pos hle, if_neg hmax]
              rw [hturn]
              exact .wrap hle hmax rfl rfl
          · have hturn : s.eventHandler cfg .staDisconnected
                = updateConfigAndConnect cfg { s with
                    link := .down, currentWifiIdx := s.currentWifiIdx + 1 } := by
              simp only [eventHandler]
              rw [if_neg hle]
            rw [hturn]
            exact .next (Nat.lt_of_not_le hle) rfl rfl
  | found => exact .init (fun _ => WifiInput.noConfusion) rfl rfl (.inl rfl)
  | waits => exact .init (fun _ => WifiInput.noConfusion) rfl rfl (.inl rfl)
  | resumed => exact .init (fun _ => WifiInput.noConfusion) rfl rfl (.inl rfl)
  | restart => exact .init (fun _ => WifiInput.noConfusion) rfl rfl (.inr rfl)

/-- **The index stays below the number of networks**, along every run. -/
theorem currentWifiIdx_lt {cfg : WifiConfig} {log : List WifiObs} {s : Wifi}
    (h : (machine cfg).Reaches log s) : s.currentWifiIdx < cfg.networks.length := by
  refine h.invariant (P := fun _ s => s.currentWifiIdx < cfg.networks.length)
    cfg.networks_pos ?_
  intro log s i s' out _ hlt _ hs
  cases turn_of_step hs with
  | start hidx => rwa [hidx]
  | next hlt' hidx => rwa [hidx]
  | wrap _ _ hidx =>
      rw [hidx]
      exact cfg.networks_pos
  | gaveUp _ _ hidx =>
      rw [hidx]
      exact cfg.networks_pos
  | connected hidx => rwa [hidx]
  | init _ hidx => rwa [hidx]

/-! ## Since the last connection -/

/-- The network that is attempted because the station starts, if it does. -/
def startedAt (s : Wifi) : WifiInput → List Nat
  | .event .staStart => [s.currentWifiIdx]
  | _ => []

/-- Only `STA_START` starts the station. -/
theorem startedAt_of_ne (s : Wifi) {i : WifiInput} (h : i ≠ .event .staStart) :
    s.startedAt i = [] := by
  unfold startedAt
  split
  · exact absurd rfl h
  · rfl

/-- Whether the station has not been started and no connection was made. -/
def Unmarked (log : List WifiObs) : Prop := ∀ e, .handled e ∈ log → e = .staDisconnected

/-- `Since cfg s₁ log starts s`: a run has reached `s`, and `log` is its history since the last
`GOT_IP` or, if there was none, since `STA_START`; `s₁` is the state at that point and `starts` are
the networks that were attempted since on `STA_START`. -/
inductive Since (cfg : WifiConfig) (s₁ : Wifi) : List WifiObs → List Nat → Wifi → Prop
  /-- A connection was made. -/
  | gotIp {log out : List WifiObs} {s : Wifi} (hr : (machine cfg).Reaches log s)
      (hs : s.step cfg (.event .gotIp) = some (s₁, out)) : Since cfg s₁ [] [] s₁
  /-- The station is started for the first time, and no connection was made. -/
  | staStart {log out : List WifiObs} {s' : Wifi} (hr : (machine cfg).Reaches log s₁)
      (hlog : Unmarked log) (hs : s₁.step cfg (.event .staStart) = some (s', out)) :
      Since cfg s₁ out [s₁.currentWifiIdx] s'
  /-- A step that is no connection. -/
  | step {log out : List WifiObs} {starts : List Nat} {s s' : Wifi} {i : WifiInput}
      (h : Since cfg s₁ log starts s) (hi : i ≠ .event .gotIp)
      (hs : s.step cfg i = some (s', out)) : Since cfg s₁ (log ++ out) (starts ++ s.startedAt i) s'

/-- Every state of a run in which the station was started or a connection was made has such a
history, which is the end of the history of the run. -/
theorem exists_since {cfg : WifiConfig} {log : List WifiObs} {s : Wifi}
    (h : (machine cfg).Reaches log s) (hlog : ¬ Unmarked log) :
    ∃ s₁ log₁ starts, log₁ <:+ log ∧ Since cfg s₁ log₁ starts s := by
  induction h with
  | init => exact absurd nofun hlog
  | @step log s i s' out hr _ hs ih =>
      by_cases hgot : i = .event .gotIp
      · subst hgot
        exact ⟨s', [], [], List.nil_suffix, .gotIp hr hs⟩
      · by_cases hmark : Unmarked log
        · -- this step is the first one to mark anything, and it is no connection
          obtain rfl : i = .event .staStart := by
            by_contra hstart
            refine hlog fun e he => ?_
            rcases List.mem_append.mp he with he | he
            · exact hmark e he
            · cases turn_of_step hs with
              | start => exact absurd rfl hstart
              | next => simpa using he
              | wrap => simpa using he
              | gaveUp => simpa using he
              | connected => exact absurd rfl hgot
              | init _ _ _ hout => rcases hout with rfl | rfl <;> simp at he
          exact ⟨s, out, _, List.suffix_append log out, .staStart hr hmark hs⟩
        · obtain ⟨s₁, log₁, starts, hsuf, hsince⟩ := ih hmark
          obtain ⟨before, rfl⟩ := hsuf
          refine ⟨s₁, log₁ ++ out, _, ⟨before, (List.append_assoc _ _ _).symm⟩, hsince.step hgot hs⟩

/-- Such a history ends in a state of a run. -/
theorem Since.reaches {cfg : WifiConfig} {s₁ s : Wifi} {log : List WifiObs} {starts : List Nat}
    (h : Since cfg s₁ log starts s) : ∃ log', (machine cfg).Reaches log' s := by
  have hstep : ∀ {log out : List WifiObs} {s s' : Wifi} {i : WifiInput},
      (machine cfg).Reaches log s → s.step cfg i = some (s', out) →
        (machine cfg).Reaches (log ++ out) s' := fun hr hs => Machine.Run.step hr trivial hs
  induction h with
  | gotIp hr hs => exact ⟨_, hstep hr hs⟩
  | staStart hr _ hs => exact ⟨_, hstep hr hs⟩
  | step _ _ hs ih =>
      obtain ⟨log', hr⟩ := ih
      exact ⟨_, hstep hr hs⟩

/-! ## Counting attempts -/

/-- Networks up to the index have been attempted once more in the current round. -/
def inRound (s : Wifi) (j : Nat) : Nat := if j ≤ s.currentWifiIdx then 1 else 0

/-- An attempt counts for its network. -/
theorem count_attempt (e : WifiEvent) (k j : Nat) :
    [WifiObs.handled e, .attempt k].count (.attempt j) = if k = j then 1 else 0 := by
  simp [List.count_cons]

/-- **The balance of attempts.** As long as the rounds are not over, every network was attempted once
for each round since the mark and once for each start of the station at its index, up to what of
the current round and of the round at the mark is before it. -/
theorem attempts_balance {cfg : WifiConfig} {s₁ s : Wifi} {log : List WifiObs} {starts : List Nat}
    (h : Since cfg s₁ log starts s) (hlt : s.retryCount < cfg.maxRetries) {j : Nat}
    (hj : j < cfg.networks.length) :
    log.count (.attempt j) + (s₁.retryCount + s₁.inRound j)
      = starts.count j + (s.retryCount + s.inRound j) := by
  -- along the events since the mark; the mark itself is the base
  induction h with
  | gotIp => rfl
  | staStart _ _ hs =>
      cases turn_of_step hs with
      | start hidx hretry =>
          rw [count_attempt, List.count_singleton, inRound, inRound, hidx, hretry]
          simp only [beq_iff_eq]
      | init hi => exact absurd rfl (hi _)
  | @step log out starts s s' i hsince hi hs ih =>
      obtain ⟨log', hr⟩ := hsince.reaches
      have hbound := currentWifiIdx_lt hr
      have hlost : s.startedAt (.event .staDisconnected) = [] := startedAt_of_ne s nofun
      rw [List.count_append, List.count_append]
      cases turn_of_step hs with
      | start hidx hretry =>
          rw [hretry] at hlt
          have hbal := ih hlt
          rw [count_attempt, startedAt, List.count_singleton, hretry]
          simp only [inRound, hidx, beq_iff_eq] at hbal ⊢
          omega
      | next hnext hidx hretry =>
          rw [hretry] at hlt
          have hbal := ih hlt
          rw [count_attempt, hlost, List.count_nil, hretry]
          simp only [inRound, hidx] at hbal ⊢
          split_ifs at hbal ⊢ <;> omega
      -- the round is complete, and the first network is attempted again
      | wrap hle hmax hidx hretry =>
          rw [hretry] at hlt
          have hbal := ih (Nat.lt_of_succ_lt hlt)
          rw [count_attempt, hlost, List.count_nil, hretry]
          simp only [inRound, hidx] at hbal ⊢
          split_ifs at hbal ⊢ <;> omega
      | gaveUp hle hmax hidx hretry =>
          rw [hretry] at hlt
          exact absurd hlt (Nat.lt_irrefl _)
      | connected => exact absurd rfl hi
      | init hno hidx hretry hout =>
          rw [hretry] at hlt
          have hbal := ih hlt
          have hnone : out.count (.attempt j) = 0 := by rcases hout with rfl | rfl <;> rfl
          rw [hnone, startedAt_of_ne s (hno _), List.count_nil, hretry]
          simp only [inRound, hidx] at hbal ⊢
          exact hbal

/-- **What the attempts come to when the handler gives up.** Each network was attempted in every
round, less the rounds before the mark and the part of the round at the mark that was before it,
and once more for each start of the station at its index. -/
theorem attempts_of_gaveUp {cfg : WifiConfig} {s₁ s s' : Wifi} {log out : List WifiObs}
    {starts : List Nat} {i : WifiInput} (h : Since cfg s₁ log starts s)
    (hs : s.step cfg i = some (s', out)) (hgave : .gaveUp ∈ out) {j : Nat}
    (hj : j < cfg.networks.length) :
    (log ++ out).count (.attempt j) + (s₁.retryCount + s₁.inRound j)
      = starts.count j + cfg.maxRetries := by
  cases turn_of_step hs with
  | gaveUp hle hmax =>
      have hbal := attempts_balance h (by omega) hj
      have hround : s.inRound j = 1 := if_pos (by omega)
      have hnone : [WifiObs.handled .staDisconnected, .gaveUp].count (.attempt j) = 0 := rfl
      rw [List.count_append, hnone]
      omega
  | start => simp at hgave
  | next => simp at hgave
  | wrap => simp at hgave
  | connected => simp at hgave
  | init _ _ _ hout => rcases hout with rfl | rfl <;> simp at hgave

/-- Every configured network was attempted at least `MAX_RETRIES` times. -/
def FullCycles (cfg : WifiConfig) (log : List WifiObs) : Prop :=
  ∀ j < cfg.networks.length, cfg.maxRetries ≤ log.count (.attempt j)

/-- The station was started, since the mark, at least once at the index of every network that the
current round was already past at the mark, and once more for each round there was. -/
def MadeUp (cfg : WifiConfig) (s₁ : Wifi) (starts : List Nat) : Prop :=
  ∀ j < cfg.networks.length, s₁.retryCount + s₁.inRound j ≤ starts.count j

instance (cfg : WifiConfig) (s₁ : Wifi) (starts : List Nat) : Decidable (MadeUp cfg s₁ starts) :=
  inferInstanceAs (Decidable (∀ j < cfg.networks.length, _))

/-- **When the handler gives up only after full cycles.** The index stays below the number of
networks in every state reached. Whenever the handler gives up, every network was attempted
`MAX_RETRIES` times since the last connection or, if there was none, since the station was started,
if and only if the attempts that the round in progress at that point lacks were made up for by
`STA_START`. -/
theorem full_cycles (cfg : WifiConfig) :
    (∀ log s, (machine cfg).Reaches log s → s.currentWifiIdx < cfg.networks.length ∧
      (¬ Unmarked log → ∃ s₁ log₁ starts, log₁ <:+ log ∧ Since cfg s₁ log₁ starts s)) ∧
    ∀ s₁ log starts s, Since cfg s₁ log starts s →
      ∀ i s' out, s.step cfg i = some (s', out) → .gaveUp ∈ out →
        (FullCycles cfg (log ++ out) ↔ MadeUp cfg s₁ starts) := by
  refine ⟨fun log s h => ⟨currentWifiIdx_lt h, exists_since h⟩, ?_⟩
  intro s₁ log starts s hsince i s' out hs hgave
  refine forall₂_congr fun j hj => ?_
  have hbal := attempts_of_gaveUp hsince hs hgave hj
  omega

/-- From boot: the station is started and both networks are tried before the handler gives up. -/
theorem full_cycles_from_boot :
    ∃ log s s' out, Since ⟨[⟨[1], []⟩, ⟨[2], []⟩], 1, by decide, by decide⟩ start log [0] s ∧
      s.step ⟨[⟨[1], []⟩, ⟨[2], []⟩], 1, by decide, by decide⟩ (.event .staDisconnected)
        = some (s', out) ∧ .gaveUp ∈ out ∧
      FullCycles ⟨[⟨[1], []⟩, ⟨[2], []⟩], 1, by decide, by decide⟩ (log ++ out) := by
  have hboot : Since ⟨[⟨[1], []⟩, ⟨[2], []⟩], 1, by decide, by decide⟩ start _ [0] _ :=
    .staStart Machine.Reaches.init nofun rfl
  have hnext := hboot.step (i := .event .staDisconnected) nofun rfl
  refine ⟨_, _, _, _, hnext, rfl, by decide, ?_⟩
  exact ((full_cycles _).2 _ _ _ _ hnext (.event .staDisconnected) _ _ rfl (by decide)).mpr
    (by decide)

/-- **A lost connection costs a round.** Two networks, two rounds: the second network connects and
the connection is lost. The round goes on behind it and ends at once, so that each network is
attempted only once before the handler gives up. -/
theorem first_round_cut_short :
    ∃ s₁ log s s' out,
      Since ⟨[⟨[1], []⟩, ⟨[2], []⟩], 2, by decide, by decide⟩ s₁ log [] s ∧
      s.step ⟨[⟨[1], []⟩, ⟨[2], []⟩], 2, by decide, by decide⟩ (.event .staDisconnected)
        = some (s', out) ∧ .gaveUp ∈ out ∧ (log ++ out).count (.attempt 0) = 1 ∧
      ¬ FullCycles ⟨[⟨[1], []⟩, ⟨[2], []⟩], 2, by decide, by decide⟩ (log ++ out) := by
  have hrun : (machine ⟨[⟨[1], []⟩, ⟨[2], []⟩], 2, by decide, by decide⟩).Reaches _ _ :=
    Machine.Reaches.init.exec [.event .staStart, .event .staDisconnected] rfl
  have hgot : Since ⟨[⟨[1], []⟩, ⟨[2], []⟩], 2, by decide, by decide⟩ _ [] [] _ :=
    .gotIp hrun rfl
  have hfirst := hgot.step (i := .event .staDisconnected) nofun rfl
  have hsecond := hfirst.step (i := .event .staDisconnected) nofun rfl
  refine ⟨_, _, _, _, _, hsecond, rfl, by decide, by decide, ?_⟩
  intro hfull
  exact absurd (hfull 0 (by decide)) (by decide)

end Wifi

end TcpUart
