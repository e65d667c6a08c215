import TcpUart.Codec.Bytes

/-! # Addresses as text (`std::net::Ipv4Addr`)
The CLI reads the address of a device with `addr.parse()`, sends it as a `u32` and prints the
addresses of a list with `{}`. In between an address is a number.

* `readNumber`, `readIpv4Addr`, `parse` — the parser of the standard library: four decimal numbers
  of up to three digits, none with a zero in front.
* `display` — the text of an address.
* `display_of_parse` — what is parsed is displayed as the text it was. -/

namespace TcpUart

namespace Ipv4Addr

/-- `c.to_digit(10)`. -/
def toDigit (c : Char) : Option Nat :=
  if c.isDigit then some (c.toNat - '0'.toNat) else none

/-- The loop of `Parser::read_number`: the number so far, how many digits it has, and the text. -/
def readDigits (maxDigits : Nat) : Nat → Nat → List Char → Option (Nat × Nat × List Char)
  | result, count, [] => some (result, count, [])
  | result, count, c :: cs =>
      match toDigit c with
      | some digit =>
          if count + 1 > maxDigits then none
          else readDigits maxDigits (result * 10 + digit) (count + 1) cs
      | none => some (result, count, c :: cs)

/-- `Parser::read_number`, for a `u8` in decimal. -/
def readNumber (maxDigits : Nat) (allowZeroPrefix : Bool) (cs : List Char) :
    Option (UInt8 × List Char) :=
  match readDigits maxDigits 0 0 cs with
  | none => none
  | some (result, count, rest) =>
      if count = 0 then none
      else if allowZeroPrefix = false ∧ cs.head? = some '0' ∧ count > 1 then none
      else if result ≤ 255 then some (UInt8.ofNat result, rest)
      else none

/-- `Parser::read_separator`: every group but the first one follows a separator. -/
def readSeparator (sep : Char) (index : Nat) (cs : List Char) : Option (List Char) :=
  if index > 0 then
    match cs with
    | c :: rest => if c = sep then some rest else none
    | [] => none
  else some cs

/-- The loop of `Parser::read_ipv4_addr` over the groups. -/
def readGroups : Nat → Nat → List Char → Option (List UInt8 × List Char)
  | 0, _, cs => some ([], cs)
  | n + 1, index, cs =>
      match readSeparator '.' index cs with
      | none => none
      | some cs =>
          match readNumber 3 false cs with
          | none => none
          | some (group, rest) =>
              (readGroups n (index + 1) rest).map fun r => (group :: r.1, r.2)

/-- `addr.parse::<Ipv4Addr>()` and `u32::from(addr)`. -/
def parse (s : String) : Option UInt32 :=
  -- the longest address is "255.255.255.255"
  if s.utf8ByteSize > 15 then none
  else
    match readGroups 4 0 s.toList with
    | some ([a, b, c, d], []) => some (u32OfBytes a b c d)
    | _ => none

/-- `Ipv4Addr::from(addr)`, as it is displayed. -/
def display (addr : UInt32) : String :=
  match putU32 addr with
  | [a, b, c, d] => s!"{a}.{b}.{c}.{d}"
  | _ => ""

/-! ## Numbers -/

/-- The characters of the digits. -/
theorem digitChar_of_lt : ∀ digit < 10, Nat.digitChar digit = Char.ofNat (48 + digit) := by
  decide

/-- A digit is the character of its value. -/
theorem toDigit_some {c : Char} {digit : Nat} (h : toDigit c = some digit) :
    digit < 10 ∧ digit.digitChar = c := by
  unfold toDigit at h
  split at h
  · rename_i hc
    cases h
    obtain ⟨hlo, hhi⟩ := Char.isDigit_iff_toNat.mp hc
    have hlo' : 48 ≤ c.toNat := hlo
    have hhi' : c.toNat ≤ 57 := hhi
    have hlt : c.toNat - '0'.toNat < 10 := by
      show c.toNat - 48 < 10
      omega
    refine ⟨hlt, ?_⟩
    rw [digitChar_of_lt _ hlt]
    show Char.ofNat (48 + (c.toNat - 48)) = c
    rw [Nat.add_sub_cancel' hlo', Char.ofNat_toNat]
  · cases h

/-- The loop, once the number is not zero: what it takes are the digits that follow. -/
theorem readDigits_pos {maxDigits result count result' count' : Nat} {cs rest : List Char}
    (h : readDigits maxDigits result count cs = some (result', count', rest)) (hpos : 0 < result) :
    ∃ ds, cs = ds ++ rest ∧ Nat.toDigits 10 result ++ ds = Nat.toDigits 10 result' := by
  induction cs generalizing result count with
  | nil =>
      cases h
      exact ⟨[], rfl, List.append_nil _⟩
  | cons c cs ih =>
      rw [readDigits] at h
      cases hc : toDigit c with
      | none =>
          rw [hc] at h
          cases h
          exact ⟨[], rfl, List.append_nil _⟩
      | some digit =>
          obtain ⟨hlt, hchar⟩ := toDigit_some hc
          simp only [hc] at h
          split at h
          · cases h
          · obtain ⟨ds, rfl, hds⟩ := ih h (by omega)
            refine ⟨c :: ds, rfl, ?_⟩
            rw [← hds, Nat.mul_comm, ← Nat.toDigits_append_toDigits (by decide) hpos hlt,
              Nat.toDigits_of_lt_base hlt, hchar, List.append_assoc]
            rfl

/-- The loop only counts up. -/
theorem le_of_readDigits {maxDigits result count result' count' : Nat} {cs rest : List Char}
    (h : readDigits maxDigits result count cs = some (result', count', rest)) :
    count ≤ count' := by
  induction cs generalizing result count with
  | nil =>
      cases h
      exact Nat.le_refl _
  | cons c cs ih =>
      rw [readDigits] at h
      split at h
      · split at h
        · cases h
        · exact Nat.le_of_succ_le (ih h)
      · cases h
        exact Nat.le_refl _

/-- The loop that counts nothing takes nothing. -/
theorem readDigits_none {maxDigits result count result' : Nat} {cs rest : List Char}
    (h : readDigits maxDigits result count cs = some (result', count, rest)) :
    result' = result ∧ rest = cs := by
  cases cs with
  | nil =>
      cases h
      exact ⟨rfl, rfl⟩
  | cons c cs =>
      rw [readDigits] at h
      split at h
      · split at h
        · cases h
        · exact absurd (le_of_readDigits h) (Nat.not_succ_le_self count)
      · cases h
        exact ⟨rfl, rfl⟩

/-- **A number is read from its decimal digits**, without a zero in front. -/
theorem readNumber_some {maxDigits : Nat} {cs rest : List Char} {n : UInt8}
    (h : readNumber maxDigits false cs = some (n, rest)) :
    cs = Nat.toDigits 10 n.toNat ++ rest := by
  unfold readNumber at h
  split at h
  · cases h
  · rename_i result count rest' hread
    split_ifs at h with hcount hzero hle
    cases h
    have hn : (UInt8.ofNat result).toNat = result := by
      rw [UInt8.toNat_ofNat']
      exact Nat.mod_eq_of_lt (Nat.lt_succ_of_le hle)
    rw [hn]
    cases cs with
    | nil =>
        cases hread
        exact absurd rfl hcount
    | cons c cs =>
        rw [readDigits] at hread
        cases hc : toDigit c with
        | none =>
            rw [hc] at hread
            cases hread
            exact absurd rfl hcount
        | some digit =>
            obtain ⟨hlt, hchar⟩ := toDigit_some hc
            simp only [hc, Nat.zero_mul, Nat.zero_add] at hread
            split at hread
            · cases hread
            · by_cases hdigit : digit = 0
              · -- a zero in front is the only digit
                subst hdigit
                have hone : count = 1 := by
                  have hle := le_of_readDigits hread
                  have hgt : ¬ count > 1 := fun hgt => hzero ⟨rfl, by rw [← hchar]; rfl, hgt⟩
                  omega
                subst hone
                obtain ⟨rfl, rfl⟩ := readDigits_none hread
                rw [← hchar]
                rfl
              · obtain ⟨ds, rfl, hds⟩ := readDigits_pos hread (by omega)
                rw [← hds, Nat.toDigits_of_lt_base hlt, hchar]
                rfl

/-! ## Addresses -/

/-- The octets of an address are those it was made of. -/
theorem putU32_u32OfBytes (a b c d : UInt8) : putU32 (u32OfBytes a b c d) = [a, b, c, d] := by
  have ha := a.toNat_lt
  have hb := b.toNat_lt
  have hc := c.toNat_lt
  have hd := d.toNat_lt
  have hval : (u32OfBytes a b c d).toNat
      = a.toNat * 16777216 + b.toNat * 65536 + c.toNat * 256 + d.toNat := by
    rw [u32OfBytes, UInt32.toNat_ofNat']
    exact Nat.mod_eq_of_lt (by omega)
  simp only [putU32, hval, List.cons.injEq, and_true, ← UInt8.toNat_inj, UInt8.toNat_ofNat']
  omega

/-- The text of an octet is its decimal digits. -/
theorem toList_toString (n : UInt8) : (toString n).toList = Nat.toDigits 10 n.toNat :=
  String.toList_ofList

/-- A group after the first one is read from a separator and its decimal digits. -/
theorem readGroups_succ {n index : Nat} {cs rest : List Char} {groups : List UInt8}
    (h : readGroups (n + 1) (index + 1) cs = some (groups, rest)) :
    ∃ (g : UInt8) (gs : List UInt8) (cs' : List Char), groups = g :: gs ∧
      cs = '.' :: (Nat.toDigits 10 g.toNat ++ cs') ∧
      readGroups n (index + 2) cs' = some (gs, rest) := by
  rw [readGroups] at h
  split at h
  · cases h
  · rename_i cs₁ hsep
    split at h
    · cases h
    · rename_i g cs' hnum
      obtain ⟨⟨gs, rest'⟩, hrest, heq⟩ := Option.map_eq_some_iff.mp h
      cases heq
      refine ⟨g, gs, cs', rfl, ?_, hrest⟩
      unfold readSeparator at hsep
      rw [if_pos (Nat.succ_pos index)] at hsep
      split at hsep
      · split at hsep
        · rename_i hc
          cases hsep
          rw [hc, readNumber_some hnum]
        · cases hsep
      · cases hsep

/-- **An address is displayed as the text it was parsed from.** -/
theorem display_of_parse {s : String} {addr : UInt32} (h : parse s = some addr) :
    display addr = s := by
  unfold parse at h
  split at h
  · cases h
  · split at h
    · rename_i a b c d hgroups
      cases h
      rw [readGroups] at hgroups
      split at hgroups
      · cases hgroups
      · rename_i cs hsep
        cases hsep
        split at hgroups
        · cases hgroups
        · rename_i g rest hnum
          obtain ⟨⟨gs, rest'⟩, hrest, heq⟩ := Option.map_eq_some_iff.mp hgroups
          cases heq
          obtain ⟨_, _, cs₁, heq, rfl, h₁⟩ := readGroups_succ hrest
          cases heq
          obtain ⟨_, _, cs₂, heq, rfl, h₂⟩ := readGroups_succ h₁
          cases heq
          obtain ⟨_, _, cs₃, heq, rfl, h₃⟩ := readGroups_succ h₂
          cases heq
          cases h₃
          rw [display, putU32_u32OfBytes]
          apply String.toList_inj.mp
          rw [readNumber_some hnum]
          have hdot : (toString ".").toList = ['.'] := rfl
          simp [toList_toString, hdot]
    · cases h

end Ipv4Addr

end TcpUart
