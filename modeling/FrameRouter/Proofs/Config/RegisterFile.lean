import FrameRouter.Config.Register
import Mathlib.Data.List.Induction

/-!
# The register file

Seven registers show the whole configuration, each of them a part of its own.
What a register reads is therefore settled by the last adjustment that
concerned it, however many others there have been, accepted or refused.
-/

namespace FrameRouter

namespace Register

/-- The value as which an accepted one reads back. -/
def canonical (register : Register) (value : UInt32) : UInt32 :=
  if register = .icmpNoForward ∧ value.toNat.testBit 16 = false then 0 else value

/-- The bytes of a value, the most significant one first. -/
def octets (value : UInt32) : List UInt8 :=
  [(value >>> 24).toUInt8, (value >>> 16).toUInt8, (value >>> 8).toUInt8, value.toUInt8]

@[simp]
theorem at?_address (register : Register) : at? register.address = some register := by
  cases register <;> rfl

theorem address_of_at? {address : UInt8} {register : Register}
    (found : at? address = some register) : register.address = address := by
  simpa using List.find?_some found

theorem lookup_address (register : Register) : lookup register.address = .ok register := by
  simp only [lookup, at?_address]

/-- Seven addresses have a register. -/
theorem at?_eq_none_iff {address : UInt8} : at? address = none ↔ 6 < address := by
  have places : at? address = none ↔ ∀ register ∈ all, register.address ≠ address := by
    simp [at?]
  rw [places, UInt8.lt_iff_toNat_lt]
  simp only [all, List.forall_mem_cons, List.not_mem_nil, false_implies, implies_true, and_true,
    Register.address, ne_eq, ← UInt8.toNat_inj, UInt8.reduceToNat]
  omega

/-- An address has a register or lies behind all of them. -/
theorem exists_of_address (address : UInt8) :
    (∃ register : Register, register.address = address) ∨ 6 < address := by
  cases found : at? address with
  | none => exact Or.inr (at?_eq_none_iff.mp found)
  | some register => exact Or.inl ⟨register, address_of_at? found⟩

theorem address_le (register : Register) : ¬6 < register.address := by
  rw [← at?_eq_none_iff, at?_address]
  simp

theorem address_inj {register other : Register} (same : register.address = other.address) :
    register = other := by
  have found := at?_address register
  rw [same, at?_address] at found
  exact (Option.some.inj found).symm

end Register

namespace Config

theorem write_address (config : Config) (register : Register) (value : UInt32) :
    config.write register.address value =
      if register.maximum < value then .error (.invalidRegisterValue register.address value)
      else .ok (config.apply value register) := by
  simp only [write, Register.lookup_address, bind, Except.bind]
  split <;> rfl

theorem write_of_unknown (config : Config) {address : UInt8} (value : UInt32)
    (unknown : 6 < address) : config.write address value = .error (.unknownRegister address) := by
  simp only [write, Register.lookup, Register.at?_eq_none_iff.mpr unknown]
  rfl

/-- A write is accepted when its address has a register that can hold the value. -/
theorem write_eq_ok_iff {config next : Config} {address : UInt8} {value : UInt32} :
    config.write address value = .ok next ↔
      ∃ register : Register, register.address = address ∧ value ≤ register.maximum ∧
        next = config.apply value register := by
  constructor
  · intro accepted
    rcases Register.exists_of_address address with ⟨register, rfl⟩ | unknown
    · rw [write_address] at accepted
      split at accepted
      · cases accepted
      · rename_i within
        cases accepted
        exact ⟨register, rfl, UInt32.not_lt.mp within, rfl⟩
    · rw [write_of_unknown config value unknown] at accepted
      cases accepted
  · rintro ⟨register, rfl, within, rfl⟩
    rw [write_address, if_neg (UInt32.not_lt.mpr within)]

/-- A write is refused for its address, or for a value that the register cannot hold. -/
theorem write_eq_error_iff {config : Config} {address : UInt8} {value : UInt32} {fault : Fault} :
    config.write address value = .error fault ↔
      (6 < address ∧ fault = .unknownRegister address) ∨
        ∃ register : Register, register.address = address ∧ register.maximum < value ∧
          fault = .invalidRegisterValue address value := by
  rcases Register.exists_of_address address with ⟨register, rfl⟩ | unknown
  · have known : ¬6 < register.address := register.address_le
    rw [write_address]
    constructor
    · intro refused
      split at refused
      · rename_i beyond
        cases refused
        exact Or.inr ⟨register, rfl, beyond, rfl⟩
      · cases refused
    · rintro (⟨unknown, _⟩ | ⟨other, same, beyond, rfl⟩)
      · exact absurd unknown known
      · rw [Register.address_inj same] at beyond
        rw [if_pos beyond]
  · rw [write_of_unknown config value unknown]
    constructor
    · intro refused
      cases refused
      exact Or.inl ⟨unknown, rfl⟩
    · rintro (⟨_, rfl⟩ | ⟨register, rfl, _, _⟩)
      · rfl
      · exact absurd unknown register.address_le

theorem readAt_address (config : Config) (register : Register) :
    config.readAt register.address = .ok (config.read register) := by
  simp only [readAt, Register.lookup_address]
  rfl

/-- A write touches the part of its register alone. -/
theorem read_apply_of_ne (config : Config) (value : UInt32) {register other : Register}
    (different : other ≠ register) :
    (config.apply value register).read other = config.read other := by
  cases register <;> cases other <;> first | rfl | exact absurd rfl different

theorem toUInt32_toUInt16 {value : UInt32} (within : value ≤ 0xffff) :
    value.toUInt16.toUInt32 = value := by
  have bound : value.toNat ≤ 0xffff := UInt32.le_iff_toNat_le.mp within
  apply UInt32.toNat_inj.mp
  rw [UInt16.toNat_toUInt32, UInt32.toNat_toUInt16]
  omega

/-- Two bits make up the value of the forwarding register. -/
theorem read_forwardControl {value : UInt32} (within : value ≤ 3) (config : Config) :
    (config.apply value .forwardControl).read .forwardControl = value := by
  have bound : value.toNat ≤ 3 := UInt32.le_iff_toNat_le.mp within
  simp only [apply, read, decide_eq_true_eq]
  apply UInt32.toNat_inj.mp
  rw [UInt32.toNat_add]
  split <;> split <;> simp only [UInt32.reduceToNat] <;> omega

/-- A pattern is read back with the bit that switches it on. -/
theorem read_icmpNoForward {value : UInt32} (within : value ≤ 0x1ffff) (config : Config) :
    (config.apply value .icmpNoForward).read .icmpNoForward =
      Register.canonical .icmpNoForward value := by
  have bound : value.toNat ≤ 0x1ffff := UInt32.le_iff_toNat_le.mp within
  have bit : value.toNat.testBit 16 = decide (value.toNat / 0x10000 % 2 = 1) :=
    Nat.testBit_eq_decide_div_mod_eq
  simp only [apply, read, Register.canonical, bit, true_and, decide_eq_false_iff_not]
  by_cases enabled : value.toNat / 0x10000 % 2 = 1
  · have type : (value >>> 8).toUInt8.toNat = value.toNat / 2 ^ 8 % 2 ^ 8 := by
      rw [UInt32.toNat_toUInt8, UInt32.toNat_shiftRight, Nat.shiftRight_eq_div_pow]
      rfl
    have code : value.toUInt8.toNat = value.toNat % 2 ^ 8 := UInt32.toNat_toUInt8 _
    simp only [enabled, if_true, not_true, if_false]
    apply UInt32.toNat_inj.mp
    rw [UInt32.toNat_add, UInt16.toNat_toUInt32, IcmpPattern.typeCode, UInt16.toNat_ofNat',
      type, code]
    simp only [Register.suppressBit, UInt32.reduceToNat]
    omega
  · simp only [enabled, if_false, not_false_iff, if_true]

/-- A register reads back what it was given, in canonical form. -/
theorem read_apply_self (config : Config) {register : Register} {value : UInt32}
    (within : value ≤ register.maximum) :
    (config.apply value register).read register = register.canonical value := by
  cases register with
  | macHigh => exact toUInt32_toUInt16 within
  | macLow => rfl
  | localIp => rfl
  | servicePort0 => exact toUInt32_toUInt16 within
  | servicePort1 => exact toUInt32_toUInt16 within
  | forwardControl => exact read_forwardControl within config
  | icmpNoForward => exact read_icmpNoForward within config

/-- Two registers show the address, one its first two bytes and one its last four. -/
theorem bytes_mac (config : Config) :
    config.mac.bytes =
      (Register.octets (config.read .macHigh)).drop 2 ++
        Register.octets (config.read .macLow) := by
  obtain ⟨⟨high, low⟩, _⟩ := config
  have first : (high.toUInt32 >>> 8).toUInt8 = (high >>> 8).toUInt8 := by
    apply UInt8.toNat_inj.mp
    rw [UInt32.toNat_toUInt8, UInt32.toNat_shiftRight, UInt16.toNat_toUInt32,
      UInt16.toNat_toUInt8, UInt16.toNat_shiftRight]
    rfl
  have second : high.toUInt32.toUInt8 = high.toUInt8 := by
    apply UInt8.toNat_inj.mp
    rw [UInt32.toNat_toUInt8, UInt16.toNat_toUInt32, UInt16.toNat_toUInt8]
  simp only [Mac.bytes, read, Register.octets, List.drop_succ_cons, List.drop_zero, first, second,
    List.cons_append, List.nil_append]

/-- A write that is accepted replaces the first two bytes of the address, its last four or none. -/
theorem bytes_mac_of_write {config next : Config} {register : Register} {value : UInt32}
    (accepted : config.write register.address value = .ok next) :
    next.mac.bytes =
      match register with
      | .macHigh => (Register.octets value).drop 2 ++ config.mac.bytes.drop 2
      | .macLow => config.mac.bytes.take 2 ++ Register.octets value
      | _ => config.mac.bytes := by
  obtain ⟨written, same, within, rfl⟩ := write_eq_ok_iff.mp accepted
  obtain rfl := Register.address_inj same
  have others {other : Register} (different : other ≠ written) :=
    config.read_apply_of_ne value different
  rw [bytes_mac, bytes_mac config]
  cases written with
  | macHigh =>
      rw [config.read_apply_self within, others (by decide)]
      rfl
  | macLow =>
      rw [config.read_apply_self within, others (by decide)]
      rfl
  | _ => rw [others (by decide), others (by decide)]

theorem forwardControl_inj : ∀ nonLocal broadcast otherNonLocal otherBroadcast : Bool,
    (if nonLocal then 1 else 0 : UInt32) + (if broadcast then 2 else 0) =
        (if otherNonLocal then 1 else 0) + (if otherBroadcast then 2 else 0) →
      nonLocal = otherNonLocal ∧ broadcast = otherBroadcast := by
  decide

/-- The type above the code gives every pattern a number of its own. -/
theorem typeCode_inj {first second : IcmpPattern} (same : first.typeCode = second.typeCode) :
    first = second := by
  obtain ⟨type, code⟩ := first
  obtain ⟨otherType, otherCode⟩ := second
  have value := congrArg UInt16.toNat same
  have typeBound := type.toNat_lt
  have codeBound := code.toNat_lt
  have otherTypeBound := otherType.toNat_lt
  have otherCodeBound := otherCode.toNat_lt
  simp only [IcmpPattern.typeCode, UInt16.toNat_ofNat'] at value
  congr 1
  · apply UInt8.toNat_inj.mp
    omega
  · apply UInt8.toNat_inj.mp
    omega

theorem suppressBit_add_ne_zero (pattern : IcmpPattern) :
    Register.suppressBit + pattern.typeCode.toUInt32 ≠ 0 := by
  intro zero
  have value := congrArg UInt32.toNat zero
  have bound := pattern.typeCode.toNat_lt
  rw [UInt32.toNat_add, UInt16.toNat_toUInt32] at value
  simp only [Register.suppressBit, UInt32.reduceToNat] at value
  omega

/-- The registers show the whole configuration. -/
theorem ext_read {first second : Config}
    (same : ∀ register, first.read register = second.read register) : first = second := by
  obtain ⟨⟨high, low⟩, ⟨bits⟩, ⟨port, otherPort⟩, nonLocal, broadcast, suppressed⟩ := first
  obtain ⟨⟨high', low'⟩, ⟨bits'⟩, ⟨port', otherPort'⟩, nonLocal', broadcast', suppressed'⟩ := second
  have sameHigh : high = high' := UInt16.toUInt32_inj.mp (same .macHigh)
  have sameLow : low = low' := same .macLow
  have sameBits : bits = bits' := same .localIp
  have samePort : port = port' := UInt16.toUInt32_inj.mp (same .servicePort0)
  have sameOther : otherPort = otherPort' := UInt16.toUInt32_inj.mp (same .servicePort1)
  have sameForward : nonLocal = nonLocal' ∧ broadcast = broadcast' :=
    forwardControl_inj _ _ _ _ (same .forwardControl)
  have sameSuppressed : suppressed = suppressed' := by
    have pattern := same .icmpNoForward
    simp only [read] at pattern
    cases suppressed with
    | none =>
        cases suppressed' with
        | none => rfl
        | some other => exact absurd pattern.symm (suppressBit_add_ne_zero other)
    | some one =>
        cases suppressed' with
        | none => exact absurd pattern (suppressBit_add_ne_zero one)
        | some other =>
            have typeCode := UInt16.toUInt32_inj.mp ((UInt32.add_right_inj _).mp pattern)
            rw [typeCode_inj typeCode]
  rw [sameHigh, sameLow, sameBits, samePort, sameOther, sameForward.1, sameForward.2,
    sameSuppressed]

/-- What can happen to a configuration that is in force. -/
inductive Adjustment where
  | write (address : UInt8) (value : UInt32)
  | replace (config : Config)

/-- The configuration behind an adjustment; a refused write leaves it as it is. -/
def adjust (config : Config) : Adjustment → Config
  | .write address value => (config.write address value).toOption.getD config
  | .replace next => next

/-- The configuration behind several adjustments, one after the other. -/
def adjusted (config : Config) (history : List Adjustment) : Config := history.foldl adjust config

/-- The value that an adjustment gives to a register, if it concerns the register. -/
def Adjustment.setting? (register : Register) : Adjustment → Option UInt32
  | .write address value =>
      if address = register.address ∧ value ≤ register.maximum then
        some (register.canonical value)
      else
        none
  | .replace config => some (config.read register)

/-- What a register reads behind a history: the last value given to it, or the first of all. -/
def settled (config : Config) (history : List Adjustment) (register : Register) : UInt32 :=
  (history.reverse.findSome? (Adjustment.setting? register)).getD (config.read register)

/-- One adjustment gives a register a value, or leaves it as it is. -/
theorem read_adjust (config : Config) (adjustment : Adjustment) (register : Register) :
    (config.adjust adjustment).read register =
      (adjustment.setting? register).getD (config.read register) := by
  cases adjustment with
  | replace next => rfl
  | write address value =>
      rcases Register.exists_of_address address with ⟨written, rfl⟩ | unknown
      · simp only [adjust, write_address, Adjustment.setting?]
        by_cases beyond : written.maximum < value
        · have refused : ¬(written.address = register.address ∧ value ≤ register.maximum) := by
            rintro ⟨same, within⟩
            rw [← Register.address_inj same] at within
            exact UInt32.not_le.mpr beyond within
          rw [if_pos beyond, if_neg refused]
          rfl
        · rw [if_neg beyond]
          by_cases same : written = register
          · subst same
            have within := UInt32.not_lt.mp beyond
            rw [if_pos ⟨rfl, within⟩]
            exact config.read_apply_self within
          · rw [if_neg fun given => same (Register.address_inj given.1)]
            exact config.read_apply_of_ne value (Ne.symm same)
      · have elsewhere : address ≠ register.address := by
          rintro rfl
          exact register.address_le unknown
        simp only [adjust, config.write_of_unknown value unknown, Adjustment.setting?,
          elsewhere, false_and, if_false]
        rfl

/-- Behind any history a register reads what was settled last. -/
theorem read_adjusted (config : Config) (history : List Adjustment) (register : Register) :
    (config.adjusted history).read register = config.settled history register := by
  induction history using List.reverseRecOn with
  | nil => rfl
  | append_singleton history adjustment ih =>
      have step : config.adjusted (history ++ [adjustment]) =
          (config.adjusted history).adjust adjustment := by
        simp only [adjusted, List.foldl_append, List.foldl_cons, List.foldl_nil]
      rw [step, read_adjust, ih, settled, settled, List.reverse_append]
      cases given : adjustment.setting? register <;> simp [given]

/-- A refused write does not settle what a register reads. -/
example :
    Config.default.settled [.write 3 7777, .write 3 0x10000, .write 4 80] .servicePort0 = 7777 := by
  decide

/-- Two writes to different registers come out the same in either order. -/
theorem apply_comm (config : Config) {register other : Register} {value otherValue : UInt32}
    (different : register ≠ other) (within : value ≤ register.maximum)
    (otherWithin : otherValue ≤ other.maximum) :
    (config.apply value register).apply otherValue other =
      (config.apply otherValue other).apply value register := by
  apply ext_read
  intro shown
  by_cases isOther : shown = other
  · subst isOther
    rw [read_apply_self _ otherWithin, read_apply_of_ne _ value (Ne.symm different),
      read_apply_self _ otherWithin]
  · rw [read_apply_of_ne _ otherValue isOther]
    by_cases isFirst : shown = register
    · subst isFirst
      rw [read_apply_self _ within, read_apply_self _ within]
    · rw [read_apply_of_ne _ value isFirst, read_apply_of_ne _ value isFirst,
        read_apply_of_ne _ otherValue isOther]

/-- Which writes the registers refuse behind a history, and what they read. -/
structure Governed (config : Config) (history : List Adjustment) : Prop where
  refused : ∀ address value fault,
    (config.adjusted history).write address value = .error fault ↔
      (6 < address ∧ fault = .unknownRegister address) ∨
        ∃ register : Register, register.address = address ∧ register.maximum < value ∧
          fault = .invalidRegisterValue address value
  unchanged : ∀ address value fault,
    (config.adjusted history).write address value = .error fault →
      config.adjusted (history ++ [.write address value]) = config.adjusted history
  reads : ∀ register : Register,
    (config.adjusted history).readAt register.address = .ok (config.settled history register)
  /-- An accepted write changes its own register alone. -/
  alone : ∀ (register other : Register) value next,
    (config.adjusted history).write register.address value = .ok next → other ≠ register →
      next.read other = (config.adjusted history).read other
  /-- Accepted writes to different registers commute. -/
  commutes : ∀ address value other otherValue first second, address ≠ other →
    (config.adjusted history).write address value = .ok first →
      (config.adjusted history).write other otherValue = .ok second →
        ∃ both, first.write other otherValue = .ok both ∧ second.write address value = .ok both

/-- The registers of every configuration are governed by the adjustments made to it. -/
theorem governed_adjusted (config : Config) (history : List Adjustment) :
    config.Governed history := by
  refine ⟨?_, ?_, ?_, ?_, ?_⟩
  · exact fun address value fault => write_eq_error_iff
  · intro address value fault refused
    simp only [adjusted, List.foldl_append, List.foldl_cons, List.foldl_nil, adjust] at refused ⊢
    rw [refused]
    rfl
  · intro register
    rw [readAt_address, read_adjusted]
  · intro register other value next accepted different
    obtain ⟨written, same, _, rfl⟩ := write_eq_ok_iff.mp accepted
    rw [Register.address_inj same]
    exact read_apply_of_ne _ value different
  · intro address value other otherValue first second different accepted otherAccepted
    obtain ⟨register, rfl, within, rfl⟩ := write_eq_ok_iff.mp accepted
    obtain ⟨register', rfl, within', rfl⟩ := write_eq_ok_iff.mp otherAccepted
    have apart : register ≠ register' := fun same => different (congrArg Register.address same)
    refine ⟨_, write_eq_ok_iff.mpr ⟨register', rfl, within', rfl⟩,
      write_eq_ok_iff.mpr ⟨register, rfl, within, ?_⟩⟩
    exact apply_comm _ apart within within'

end Config

end FrameRouter
