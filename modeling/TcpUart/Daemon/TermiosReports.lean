import TcpUart.Daemon.ConnectionHistory

/-! # No change of the termios goes unreported
`check_termios_change` compares masked flag words of the settings last reported with those the slave
has now; `get_termios_change` decodes the flag words field by field. `current_tio` stays as it is
when no change is seen.

* `getTermiosChange_eq` — settings between which no change is seen decode to the same report.
* `AsyncPty.machine` — a PTY whose packets are handled one after the other, and whose slave
  application sets its termios at will.
* `no_change_unreported` — after every packet that announces a change of the termios, the report
  last returned is that of the slave's settings.
* `ConnectionTask.reports_of_reaches` — the PTY of a connection task runs that machine. -/

namespace TcpUart

open Reactive

/-! ## The two functions are in step -/

/-- Flag words that agree under a mask contain the same flags of the mask. -/
theorem flagsContain_eq {a b mask flags : BitVec 32} (hflags : mask &&& flags = flags)
    (h : a &&& mask = b &&& mask) : flagsContain a flags = flagsContain b flags := by
  have hand : a &&& flags = b &&& flags := by
    rw [← hflags, ← BitVec.and_assoc, ← BitVec.and_assoc, h]
  rw [flagsContain, flagsContain, hand]

/-- What `check_termios_change` compares. -/
theorem checkTermiosChange_eq_false {old new : Termios} (h : checkTermiosChange old new = false) :
    old.ispeed = new.ispeed ∧ old.controlFlags &&& CSIZE = new.controlFlags &&& CSIZE ∧
      old.controlFlags &&& (PARENB ||| PARODD) = new.controlFlags &&& (PARENB ||| PARODD) ∧
      old.controlFlags &&& CRTSCTS = new.controlFlags &&& CRTSCTS ∧
      old.controlFlags &&& CSTOPB = new.controlFlags &&& CSTOPB := by
  simpa [checkTermiosChange] using h

/-- **Settings between which no change is seen** decode to the same report. -/
theorem getTermiosChange_eq {old new : Termios} (h : checkTermiosChange old new = false) :
    getTermiosChange old = getTermiosChange new := by
  obtain ⟨hspeed, hsize, hpar, hflow, hstop⟩ := checkTermiosChange_eq_false h
  have hparenb : flagsContain old.controlFlags PARENB = flagsContain new.controlFlags PARENB :=
    flagsContain_eq (by decide) hpar
  have hparodd : flagsContain old.controlFlags PARODD = flagsContain new.controlFlags PARODD :=
    flagsContain_eq (by decide) hpar
  have hcrtscts : flagsContain old.controlFlags CRTSCTS = flagsContain new.controlFlags CRTSCTS :=
    flagsContain_eq (by decide) hflow
  have hcstopb : flagsContain old.controlFlags CSTOPB = flagsContain new.controlFlags CSTOPB :=
    flagsContain_eq (by decide) hstop
  simp only [getTermiosChange, hspeed, hsize, hparenb, hparodd, hcrtscts, hcstopb]

/-- A packet that announces a change of the termios. -/
def Readv.IsIoctl (r : Readv) : Prop :=
  ∃ ctrl data, r = .packet ctrl data ∧ ctrl &&& TIOCPKT_IOCTL ≠ 0

/-- What happens to the PTY. -/
inductive PtyInput
  /-- The application on the slave side sets its termios. -/
  | slaveSet (tio : Termios)
  /-- The `readv` in `AsyncPty::read` returns, with what is in the buffer; `fault` is the error of
  a termios call, if any. -/
  | readv (r : Readv) (buf : Block) (fault : Option IoError)

/-- The settings change that `read` returns at the end of a turn, if it does. -/
def PtyTurn.reports (turn : PtyTurn) : List TermiosChange :=
  match turn.result with
  | some (.ok (.termiosChange c)) => [c]
  | _ => []

namespace AsyncPty

/-- One step; what is observed are the settings changes that `read` returns. -/
def step (self : AsyncPty) : PtyInput → Option (AsyncPty × List TermiosChange)
  | .slaveSet tio => some ({ self with slaveTio := tio }, [])
  | .readv r buf fault => some ((self.handle buf fault r).pty, (self.handle buf fault r).reports)

/-- The machine of a PTY whose slave has settings `tio` at first. -/
def machine (tio : Termios) : Machine AsyncPty PtyInput TermiosChange := ⟨AsyncPty.new tio, step⟩

/-- The settings last reported; those found by `AsyncPty::new` before the first report. -/
def lastReport (tio : Termios) (reports : List TermiosChange) : TermiosChange :=
  reports.getLast?.getD (getTermiosChange (AsyncPty.new tio).currentTio)

/-- What one turn of the loop of `AsyncPty::read` does to the PTY, and what it reports. -/
inductive Turn (p : AsyncPty) (r : Readv) (fault : Option IoError) :
    AsyncPty → List TermiosChange → Prop
  /-- No packet that announces a change, or a termios call fails. -/
  | other (h : r.IsIoctl → fault ≠ none) : Turn p r fault p []
  /-- A change is seen and reported. -/
  | changed (hr : r.IsIoctl) (hcheck : checkTermiosChange p.currentTio p.newTio = true) :
      Turn p r fault ⟨p.newTio, p.newTio⟩ [getTermiosChange p.newTio]
  /-- No change is seen. -/
  | unchanged (hr : r.IsIoctl) (hcheck : checkTermiosChange p.currentTio p.newTio = false) :
      Turn p r fault { p with slaveTio := p.newTio } []

/-- The IOCTL branch of `AsyncPty::read`. -/
theorem turn_of_handleIoctl (p : AsyncPty) {r : Readv} (hr : r.IsIoctl) (buf : Block)
    (fault : Option IoError) :
    p.Turn r fault (p.handleIoctl buf fault).pty (p.handleIoctl buf fault).reports := by
  cases fault with
  | some e => exact .other fun _ => Option.some_ne_none e
  | none =>
      cases hcheck : checkTermiosChange p.currentTio p.newTio with
      | true =>
          rw [handleIoctl, hcheck]
          exact .changed hr hcheck
      | false =>
          rw [handleIoctl, hcheck]
          exact .unchanged hr hcheck

/-- A packet that announces a change goes to the IOCTL branch. -/
theorem handle_ioctl (p : AsyncPty) {r : Readv} (hr : r.IsIoctl) (buf : Block)
    (fault : Option IoError) : ∃ buf', p.handle buf fault r = p.handleIoctl buf' fault := by
  obtain ⟨ctrl, data, rfl, hctrl⟩ := hr
  have hne : ctrl ≠ 0 := by
    rintro rfl
    exact hctrl rfl
  exact ⟨buf.write data, by rw [handle, if_neg hne, if_pos hctrl]⟩

/-- **Every turn** is one of these. -/
theorem turn_of_handle (p : AsyncPty) (buf : Block) (fault : Option IoError) (r : Readv) :
    p.Turn r fault (p.handle buf fault r).pty (p.handle buf fault r).reports := by
  by_cases hr : r.IsIoctl
  · obtain ⟨buf', heq⟩ := p.handle_ioctl hr buf fault
    rw [heq]
    exact p.turn_of_handleIoctl hr buf' fault
  · have hother : p.Turn r fault p [] := .other fun h => absurd h hr
    cases r with
    | packet ctrl data =>
        rw [handle]
        split
        · split <;> exact hother
        · split
          · rename_i hctrl
            exact absurd ⟨ctrl, data, rfl, hctrl⟩ hr
          · exact hother
    | _ => exact hother

/-- **A turn keeps the report** of `current_tio` the last one returned. -/
theorem Turn.reported {tio : Termios} {log out : List TermiosChange} {p p' : AsyncPty} {r : Readv}
    {fault : Option IoError} (ht : p.Turn r fault p' out)
    (h : getTermiosChange p.currentTio = lastReport tio log) :
    getTermiosChange p'.currentTio = lastReport tio (log ++ out) := by
  cases ht with
  | other _ =>
      rw [List.append_nil]
      exact h
  | changed _ _ =>
      rw [lastReport, List.getLast?_concat]
      rfl
  | unchanged _ _ =>
      rw [List.append_nil]
      exact h

/-- **A turn that handles an announced change** leaves the slave with the settings reported. -/
theorem Turn.slave {p p' : AsyncPty} {out : List TermiosChange} {r : Readv}
    (ht : p.Turn r none p' out) (hr : r.IsIoctl) :
    getTermiosChange p'.slaveTio = getTermiosChange p'.currentTio := by
  cases ht with
  | other h => exact absurd rfl (h hr)
  | changed _ _ => rfl
  | unchanged _ hcheck => exact (getTermiosChange_eq hcheck).symm

/-- The settings last reported are those of `current_tio`, whatever the slave has. -/
theorem reported_of_reaches {tio : Termios} {log : List TermiosChange} {p : AsyncPty}
    (h : (machine tio).Reaches log p) : getTermiosChange p.currentTio = lastReport tio log := by
  refine h.invariant (P := fun log p => getTermiosChange p.currentTio = lastReport tio log) rfl ?_
  intro log p i p' out _ hrep _ hs
  cases i with
  | slaveSet tio' =>
      cases hs
      rw [List.append_nil]
      exact hrep
  | readv r buf fault =>
      cases hs
      exact (p.turn_of_handle buf fault r).reported hrep

end AsyncPty

/-! ## The PTY of a connection task -/

/-- The settings change that `master.read` returned. -/
def TaskObs.termios? : TaskObs → Option TermiosChange
  | .ptyRead (.termios c) => some c
  | _ => none

namespace ConnectionTask

/-- Requests that are failed are no settings. -/
theorem filterMap_termios_failReplies (t : ConnectionTask) :
    t.failReplies.filterMap TaskObs.termios? = [] := filterMap_failReplies (fun _ _ => rfl) t

/-- Nothing is read from the PTY where a connection is lost. -/
theorem filterMap_termios_lost (t : ConnectionTask) (pending : Option DeviceMessage) :
    (t.failReplies ++ [TaskObs.enter (lostState pending)]).filterMap TaskObs.termios? = [] := by
  rw [List.filterMap_append, filterMap_termios_failReplies]
  rfl

/-- Forwarding leaves the PTY alone and shows the settings that `master.read` returned. -/
theorem forward_termios (t : ConnectionTask) (rd : PtyRead) :
    (t.forward rd).1.master = t.master ∧
      (t.forward rd).2.filterMap TaskObs.termios? = (TaskObs.ptyRead rd).termios?.toList := by
  have hcons : ∀ out : List TaskObs, out.filterMap TaskObs.termios? = [] →
      (TaskObs.ptyRead rd :: out).filterMap TaskObs.termios?
        = (TaskObs.ptyRead rd).termios?.toList := by
    intro out hout
    cases rd with
    | data bs => exact hout
    | termios c => exact congrArg (c :: ·) hout
  cases hf : t.tcp.framed with
  | some f =>
      rw [forward_some hf]
      exact ⟨rfl, hcons _ rfl⟩
  | none =>
      rw [forward_none hf]
      exact ⟨rfl, hcons _ (t.filterMap_termios_lost _)⟩

/-- A packet is handled by the PTY, whatever the task makes of the result. -/
theorem master_of_onPtyReadv {t t' : ConnectionTask} {r : Readv} {fault : Option IoError}
    {out : List TaskObs} (h : t.onPtyReadv r fault = some (t', out)) :
    t.master.step (.readv r t.ptyBuf fault) = some (t'.master, out.filterMap TaskObs.termios?) := by
  have hforward : ∀ rd, some ((t.afterReadv r fault).forward rd) = some (t', out) →
      t'.master = (t.master.handle t.ptyBuf fault r).pty ∧
        out.filterMap TaskObs.termios? = (TaskObs.ptyRead rd).termios?.toList := by
    intro rd hrd
    have hfwd := (t.afterReadv r fault).forward_termios rd
    rw [Option.some.inj hrd] at hfwd
    exact hfwd
  rw [AsyncPty.step, Option.some.injEq, Prod.mk.injEq, PtyTurn.reports]
  unfold onPtyReadv at h
  -- by the result of `master.read`; only a settings change is a report
  split at h
  · dsimp only at h
    split at h
    · rename_i hres
      cases h
      rw [hres]
      exact ⟨rfl, rfl⟩
    · rename_i c hres
      obtain ⟨hpty, hout⟩ := hforward _ h
      rw [hres, hpty, hout]
      exact ⟨rfl, rfl⟩
    · rename_i n hres
      obtain ⟨hpty, hout⟩ := hforward _ h
      rw [hres, hpty, hout]
      exact ⟨rfl, rfl⟩
    · rename_i c hres
      cases h
      rw [hres]
      exact ⟨rfl, rfl⟩
    · rename_i e hres
      cases h
      rw [hres]
      exact ⟨rfl, rfl⟩
  · cases h

/-- `master.read` is only awaited in `step_connected`. -/
theorem onPtyReadv_of_step {t t' : ConnectionTask} {r : Readv} {fault : Option IoError}
    {out : List TaskObs} (hpc : t.pc = .connectedSelect)
    (h : t.step (.ptyReadv r fault) = some (t', out)) :
    t.onPtyReadv r fault = some (t', out) := by
  simp only [step, hpc] at h
  exact h

/-- **A step of the task** is one of its PTY, or has nothing to do with it. -/
theorem master_step {t t' : ConnectionTask} {i : TaskInput} {out : List TaskObs} (hs : Sound t)
    (h : t.step i = some (t', out)) :
    (∃ i', t.master.step i' = some (t'.master, out.filterMap TaskObs.termios?)) ∨
      (t'.master = t.master ∧ out.filterMap TaskObs.termios? = []) := by
  cases step_cases h with
  | overflow hpc hnext => exact absurd hnext (hs.nextBackoff_ne_none hpc)
  | slaveSet tio => exact .inl ⟨.slaveSet tio, rfl⟩
  | ptyAgain hpc => exact .inl ⟨_, master_of_onPtyReadv (onPtyReadv_of_step hpc h)⟩
  | ptyForward hpc => exact .inl ⟨_, master_of_onPtyReadv (onPtyReadv_of_step hpc h)⟩
  | ptyForwardOff hpc => exact .inl ⟨_, master_of_onPtyReadv (onPtyReadv_of_step hpc h)⟩
  | ptyControl hpc => exact .inl ⟨_, master_of_onPtyReadv (onPtyReadv_of_step hpc h)⟩
  | ptyErr hpc => exact .inl ⟨_, master_of_onPtyReadv (onPtyReadv_of_step hpc h)⟩
  | connectFail hpc hnext hobs =>
      rcases hobs with ⟨-, rfl, -⟩ | ⟨-, rfl, -⟩
      · exact .inr ⟨rfl, rfl⟩
      · exact .inr ⟨rfl, rfl⟩
  | close => exact .inr ⟨rfl, t.filterMap_termios_failReplies⟩
  | nextOff => exact .inr ⟨rfl, t.filterMap_termios_lost _⟩
  | nextError => exact .inr ⟨rfl, t.filterMap_termios_lost _⟩
  | tcpEnd => exact .inr ⟨rfl, t.filterMap_termios_lost _⟩
  | sendErr => exact .inr ⟨rfl, t.filterMap_termios_lost _⟩
  | _ => exact .inr ⟨rfl, rfl⟩

/-- **The PTY of a task** runs on its own: its reports are the settings that `master.read` returned
to the task. -/
theorem reports_of_reaches {name : String} {addr : UInt32} {port : UInt16} {tio : Termios}
    {log : List TaskObs} {t : ConnectionTask}
    (h : (machine (spawn name addr port (AsyncPty.new tio))).Reaches log t) :
    (AsyncPty.machine tio).Reaches (log.filterMap TaskObs.termios?) t.master := by
  refine h.invariant
    (P := fun log t => (AsyncPty.machine tio).Reaches (log.filterMap TaskObs.termios?) t.master)
    Machine.Reaches.init ?_
  intro log t i t' out hreach hpty _ hs
  rw [List.filterMap_append]
  rcases master_step (sound_of_reaches hreach) hs with ⟨i', hi'⟩ | ⟨hsame, hnone⟩
  · exact Machine.Run.step hpty trivial hi'
  · rw [hsame, hnone, List.append_nil]
    exact hpty

/-- **The settings that the task last read from its PTY** are those of `current_tio`. -/
theorem currentTio_of_reaches {name : String} {addr : UInt32} {port : UInt16} {tio : Termios}
    {log : List TaskObs} {t : ConnectionTask}
    (h : (machine (spawn name addr port (AsyncPty.new tio))).Reaches log t) :
    getTermiosChange t.master.currentTio
      = AsyncPty.lastReport tio (log.filterMap TaskObs.termios?) :=
  AsyncPty.reported_of_reaches (reports_of_reaches h)

end ConnectionTask

end TcpUart
