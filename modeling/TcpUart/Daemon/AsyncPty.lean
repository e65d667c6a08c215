import TcpUart.Codec.Bytes

/-! # The PTY master (`daemon/src/async_pty.rs`)
The daemon reads the PTY master in packet mode: each `readv` yields a control byte and at most a
buffer full of data. `AsyncPty.handle` is one turn of the loop in `AsyncPty::read`: it either
returns a result or goes round again. The slave's termios, which `tcgetattr` reads, is part of the
state; the application on the slave side changes it at will. -/

namespace TcpUart

/-- `termios::BaudRate` on Linux. -/
inductive BaudRate
  | B0 | B50 | B75 | B110 | B134 | B150 | B200 | B300 | B600 | B1200 | B1800 | B2400 | B4800
  | B9600 | B19200 | B38400 | B57600 | B115200 | B230400 | B460800 | B500000 | B576000 | B921600
  | B1000000 | B1152000 | B1500000 | B2000000 | B2500000 | B3000000 | B3500000 | B4000000
  deriving DecidableEq

/-- `speed_to_u32` on Linux. -/
def speedToU32 : BaudRate → UInt32
  | .B50 => 50
  | .B75 => 75
  | .B110 => 110
  | .B134 => 134
  | .B150 => 150
  | .B200 => 200
  | .B300 => 300
  | .B600 => 600
  | .B1200 => 1200
  | .B1800 => 1800
  | .B2400 => 2400
  | .B4800 => 4800
  | .B9600 => 9600
  | .B19200 => 19200
  | .B38400 => 38400
  | .B57600 => 57600
  | .B115200 => 115200
  | .B230400 => 230400
  | .B460800 => 460800
  | .B500000 => 500000
  | .B576000 => 576000
  | .B921600 => 921600
  | .B1000000 => 1000000
  | .B1152000 => 1152000
  | .B1500000 => 1500000
  | .B2000000 => 2000000
  | .B2500000 => 2500000
  | .B3000000 => 3000000
  | .B3500000 => 3500000
  | .B4000000 => 4000000
  | .B0 => 9600

/-- The part of `termios::Termios` the daemon looks at. -/
structure Termios where
  /-- `control_flags`. -/
  controlFlags : BitVec 32
  /-- `local_flags`. -/
  localFlags : BitVec 32
  /-- The input speed `cfgetispeed` returns. -/
  ispeed : BaudRate
  deriving DecidableEq

/-! ## Flag bits of `libc` on Linux -/

/-- `ControlFlags::CSIZE`. -/
def CSIZE : BitVec 32 := 0x30#32
/-- `ControlFlags::CS5`. -/
def CS5 : BitVec 32 := 0x00#32
/-- `ControlFlags::CS6`. -/
def CS6 : BitVec 32 := 0x10#32
/-- `ControlFlags::CS7`. -/
def CS7 : BitVec 32 := 0x20#32
/-- `ControlFlags::CS8`. -/
def CS8 : BitVec 32 := 0x30#32
/-- `ControlFlags::CSTOPB`. -/
def CSTOPB : BitVec 32 := 0x40#32
/-- `ControlFlags::PARENB`. -/
def PARENB : BitVec 32 := 0x100#32
/-- `ControlFlags::PARODD`. -/
def PARODD : BitVec 32 := 0x200#32
/-- `ControlFlags::CRTSCTS`. -/
def CRTSCTS : BitVec 32 := 0x80000000#32
/-- `LocalFlags::EXTPROC`. -/
def EXTPROC : BitVec 32 := 0x10000#32

/-- `flags.contains(mask)` of `bitflags`. -/
def flagsContain (flags mask : BitVec 32) : Bool := flags &&& mask == mask

/-- `TIOCPKT_IOCTL`. -/
def TIOCPKT_IOCTL : UInt8 := 0x40

/-- `TermiosChange`: the UART settings the daemon forwards. -/
structure TermiosChange where
  /-- Baud rate. -/
  baudrate : UInt32
  /-- Data bits. -/
  dataBits : UInt8
  /-- Parity: 0 none, 1 odd, 2 even. -/
  parity : UInt8
  /-- Stop bits. -/
  stopBits : UInt8
  /-- Hardware flow control. -/
  hwFlowCtl : Bool
  deriving DecidableEq

/-- `get_termios_change`. -/
def getTermiosChange (tio : Termios) : TermiosChange :=
  let cs := tio.controlFlags &&& CSIZE
  { baudrate := speedToU32 tio.ispeed
    dataBits :=
      if cs = CS5 then 5 else if cs = CS6 then 6 else if cs = CS7 then 7
      else if cs = CS8 then 8 else 0
    parity :=
      if flagsContain tio.controlFlags PARENB && flagsContain tio.controlFlags PARODD then 1
      else if flagsContain tio.controlFlags PARENB && !flagsContain tio.controlFlags PARODD then 2
      else 0
    stopBits := if flagsContain tio.controlFlags CSTOPB then 2 else 1
    hwFlowCtl := flagsContain tio.controlFlags CRTSCTS }

/-- `check_termios_change`. -/
def checkTermiosChange (old new : Termios) : Bool :=
  if old.ispeed ≠ new.ispeed then true
  else if old.controlFlags &&& CSIZE ≠ new.controlFlags &&& CSIZE then true
  else if old.controlFlags &&& (PARENB ||| PARODD) ≠ new.controlFlags &&& (PARENB ||| PARODD) then
    true
  else if old.controlFlags &&& CRTSCTS ≠ new.controlFlags &&& CRTSCTS then true
  else old.controlFlags &&& CSTOPB ≠ new.controlFlags &&& CSTOPB

/-- `set_extproc` on Linux, as seen by the next `tcgetattr`. -/
def setExtproc (tio : Termios) : Termios := { tio with localFlags := tio.localFlags ||| EXTPROC }

/-- `AsyncPty`, with the termios of the slave side. -/
structure AsyncPty where
  /-- `current_tio`: the settings last reported (or found at start). -/
  currentTio : Termios
  /-- What `tcgetattr(slave_fd)` returns now. -/
  slaveTio : Termios
  deriving DecidableEq

/-- `AsyncPty::new` on a slave with settings `tio`. -/
def AsyncPty.new (tio : Termios) : AsyncPty :=
  let tio := setExtproc tio
  { currentTio := tio, slaveTio := tio }

/-- What one `readv` of the master returned. -/
inductive Readv
  /-- `Ok(0)`. -/
  | eof
  /-- `Ok(1 + data.len())`: the packet-mode control byte and the data. -/
  | packet (ctrl : UInt8) (data : Bytes)
  /-- `Err(EAGAIN)`. -/
  | eagain
  /-- Any other error. -/
  | err (e : IoError)
  deriving DecidableEq

/-- The number of data bytes that went to the caller's buffer. -/
def Readv.size : Readv → Nat
  | .packet _ data => data.length
  | _ => 0

/-- `PtyReadResult`. -/
inductive PtyReadResult
  /-- That many bytes are in the buffer. -/
  | data (n : Nat)
  /-- The application changed the UART settings. -/
  | termiosChange (c : TermiosChange)
  /-- Any other packet-mode control byte. -/
  | controlMessage (c : UInt8)
  deriving DecidableEq

/-- What one turn of the loop of `AsyncPty::read` leaves: the PTY, the buffer, and the result of
`read` if it returns. -/
structure PtyTurn where
  /-- The PTY after the turn. -/
  pty : AsyncPty
  /-- The caller's buffer after the turn. -/
  buf : Block
  /-- `none` if the loop goes round again. -/
  result : Option (Except IoError PtyReadResult)

/-- The slave's settings as the IOCTL branch reads them: EXTPROC is re-asserted if the slave
application cleared it, and the settings are read again. -/
def AsyncPty.newTio (self : AsyncPty) : Termios :=
  if !flagsContain self.slaveTio.localFlags EXTPROC then setExtproc self.slaveTio
  else self.slaveTio

/-- The IOCTL branch of `AsyncPty::read`: look at the slave's settings and report a change. `fault`
is the error of a `tcgetattr` or `tcsetattr` call, if one fails. -/
def AsyncPty.handleIoctl (self : AsyncPty) (buf : Block) (fault : Option IoError) : PtyTurn :=
  match fault with
  | some e => ⟨self, buf, some (.error e)⟩
  | none =>
      if checkTermiosChange self.currentTio self.newTio then
        -- `current_tio` is updated here, before anything is sent
        ⟨{ currentTio := self.newTio, slaveTio := self.newTio }, buf,
          some (.ok (.termiosChange (getTermiosChange self.newTio)))⟩
      else ⟨{ self with slaveTio := self.newTio }, buf, none⟩

/-- One turn of the loop of `AsyncPty::read`: handle what `readv` returned. -/
def AsyncPty.handle (self : AsyncPty) (buf : Block) (fault : Option IoError) (r : Readv) :
    PtyTurn :=
  match r with
  | .eof => ⟨self, buf, some (.error ⟨.unexpectedEof, "True EOF reached"⟩)⟩
  -- the readiness is cleared, and the loop waits again
  | .eagain => ⟨self, buf, none⟩
  | .err e => ⟨self, buf, some (.error e)⟩
  | .packet ctrl data =>
      if ctrl = 0 then
        -- `readv` counts the control byte: `n > 1` is a packet with data, `n - 1` its length
        if data ≠ [] then ⟨self, buf.write data, some (.ok (.data data.length))⟩
        else ⟨self, buf, none⟩
      else if ctrl &&& TIOCPKT_IOCTL ≠ 0 then self.handleIoctl (buf.write data) fault
      else ⟨self, buf.write data, some (.ok (.controlMessage ctrl))⟩

/-- What `AsyncPty::read` hands to the connection task for forwarding. -/
inductive PtyRead
  /-- Bytes the application wrote. -/
  | data (bs : Bytes)
  /-- Settings the application chose. -/
  | termios (c : TermiosChange)
  deriving DecidableEq

/-- The IOCTL branch never returns data. -/
theorem AsyncPty.handleIoctl_ne_data (self : AsyncPty) (buf : Block) (fault : Option IoError)
    (n : Nat) : (self.handleIoctl buf fault).result ≠ some (.ok (.data n)) := by
  unfold AsyncPty.handleIoctl
  cases fault with
  | some e => simp
  | none => dsimp only; split <;> simp

/-- A `Data(n)` result comes from a packet of exactly `n` data bytes, at least one, which are now
in the buffer. -/
theorem AsyncPty.handle_data {self : AsyncPty} {buf : Block} {fault : Option IoError} {r : Readv}
    {n : Nat} (h : (self.handle buf fault r).result = some (.ok (.data n))) :
    ∃ data, r = .packet 0 data ∧ data ≠ [] ∧ data.length = n ∧
      (self.handle buf fault r).buf = buf.write data := by
  cases r with
  | eof => simp [AsyncPty.handle] at h
  | eagain => simp [AsyncPty.handle] at h
  | err e => simp [AsyncPty.handle] at h
  | packet ctrl data =>
      unfold AsyncPty.handle at h ⊢
      dsimp only at h ⊢
      split at h
      · rename_i hc
        subst hc
        split at h
        · rename_i hne
          exact ⟨data, rfl, hne, by simpa using h, by simp [hne]⟩
        · simp at h
      · split at h
        · exact absurd h (AsyncPty.handleIoctl_ne_data _ _ _ _)
        · simp at h

/-- The two bits of the character size. -/
theorem and_CSIZE_cases (flags : BitVec 32) :
    flags &&& CSIZE = CS5 ∨ flags &&& CSIZE = CS6 ∨ flags &&& CSIZE = CS7 ∨
      flags &&& CSIZE = CS8 := by
  have hsize : ∀ i : Fin 32, CSIZE[i] = (decide (i = 4) || decide (i = 5)) := by decide
  have hext : ∀ v : BitVec 32,
      (∀ i : Fin 32, v[i] = (decide (i = 4) && flags[4] || decide (i = 5) && flags[5])) →
        flags &&& CSIZE = v := by
    intro v hv
    ext i hi
    have hvi := hv ⟨i, hi⟩
    have hsi := hsize ⟨i, hi⟩
    simp only [Fin.getElem_fin] at hvi hsi
    rw [BitVec.getElem_and, hvi, hsi]
    by_cases h4 : i = 4
    · subst h4
      simp
    · by_cases h5 : i = 5
      · subst h5
        simp
      · have h4' : (⟨i, hi⟩ : Fin 32) ≠ 4 := fun h => h4 (congrArg Fin.val h)
        have h5' : (⟨i, hi⟩ : Fin 32) ≠ 5 := fun h => h5 (congrArg Fin.val h)
        simp [h4', h5']
  cases h4 : flags[4] <;> cases h5 : flags[5]
  · left
    apply hext
    rw [h4, h5]
    decide
  · right; right; left
    apply hext
    rw [h4, h5]
    decide
  · right; left
    apply hext
    rw [h4, h5]
    decide
  · right; right; right
    apply hext
    rw [h4, h5]
    decide

/-- Settings with values that exist on a UART. -/
structure TermiosChange.Valid (c : TermiosChange) : Prop where
  /-- Five to eight data bits. -/
  dataBits : c.dataBits = 5 ∨ c.dataBits = 6 ∨ c.dataBits = 7 ∨ c.dataBits = 8
  /-- One or two stop bits. -/
  stopBits : c.stopBits = 1 ∨ c.stopBits = 2
  /-- None, odd or even parity. -/
  parity : c.parity = 0 ∨ c.parity = 1 ∨ c.parity = 2

/-- Whatever the application sets, `get_termios_change` reports settings that exist. -/
theorem valid_getTermiosChange (tio : Termios) : (getTermiosChange tio).Valid where
  dataBits := by
    simp only [getTermiosChange]
    rcases and_CSIZE_cases tio.controlFlags with h | h | h | h <;> rw [h] <;> decide
  stopBits := by
    simp only [getTermiosChange]
    split
    · exact .inr rfl
    · exact .inl rfl
  parity := by
    simp only [getTermiosChange]
    split
    · exact .inr (.inl rfl)
    · split
      · exact .inr (.inr rfl)
      · exact .inl rfl

/-- A `TermiosChange(c)` result reports settings of the slave. -/
theorem AsyncPty.handle_termios {self : AsyncPty} {buf : Block} {fault : Option IoError}
    {r : Readv} {c : TermiosChange}
    (h : (self.handle buf fault r).result = some (.ok (.termiosChange c))) :
    c = getTermiosChange self.newTio := by
  have hioctl : ∀ buf, (self.handleIoctl buf fault).result = some (.ok (.termiosChange c)) →
      c = getTermiosChange self.newTio := by
    intro buf h
    unfold AsyncPty.handleIoctl at h
    cases fault with
    | some e => cases h
    | none =>
        dsimp only at h
        split at h
        · cases h
          rfl
        · cases h
  cases r with
  | eof => cases h
  | eagain => cases h
  | err e => cases h
  | packet ctrl data =>
      unfold AsyncPty.handle at h
      dsimp only at h
      split at h
      · split at h <;> cases h
      · split at h
        · exact hioctl _ h
        · cases h

end TcpUart
