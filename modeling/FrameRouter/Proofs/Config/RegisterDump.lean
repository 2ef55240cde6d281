import FrameRouter.Proofs.Config.RegisterFile

/-!
# Register dumps

A dump lists what registers read, each value under the address of its register.
Writing a dump back gives every register that was visited the value it had; a
dump in which no register is left out therefore carries the whole configuration
from one register file to another.
-/

namespace FrameRouter

namespace Config

/-- What the visited registers read, in the order of the visit. -/
def dump (config : Config) (order : List Register) : List (UInt8 × UInt32) :=
  order.map fun register => (register.address, config.read register)

/-- Write the entries one after the other, up to the first that is refused. -/
def writeAll (config : Config) (entries : List (UInt8 × UInt32)) : Except Fault Config :=
  entries.foldlM (fun config entry => config.write entry.1 entry.2) config

variable (start target config : Config)

theorem toUInt32_le (value : UInt16) : value.toUInt32 ≤ 0xffff := by
  apply UInt32.le_iff_toNat_le.mpr
  rw [UInt16.toNat_toUInt32]
  exact Nat.le_of_lt_succ value.toNat_lt

/-- A pattern reads as its type and code above the bit that switches it on. -/
theorem toNat_read_suppressed {pattern : IcmpPattern} (enabled : config.suppressed = some pattern) :
    (config.read .icmpNoForward).toNat = 0x10000 + pattern.typeCode.toNat := by
  have bound := pattern.typeCode.toNat_lt
  simp only [read, enabled]
  rw [UInt32.toNat_add, UInt16.toNat_toUInt32]
  simp only [Register.suppressBit, UInt32.reduceToNat]
  omega

theorem forwardControl_le : ∀ nonLocal broadcast : Bool,
    (if nonLocal then 1 else 0 : UInt32) + (if broadcast then 2 else 0) ≤ 3 := by
  decide

/-- A register reads nothing that it would not accept. -/
theorem read_le_maximum (register : Register) : config.read register ≤ register.maximum := by
  cases register with
  | macHigh => exact toUInt32_le _
  | macLow => exact UInt32.le_iff_toNat_le.mpr (Nat.le_of_lt_succ (UInt32.toNat_lt _))
  | localIp => exact UInt32.le_iff_toNat_le.mpr (Nat.le_of_lt_succ (UInt32.toNat_lt _))
  | servicePort0 => exact toUInt32_le _
  | servicePort1 => exact toUInt32_le _
  | forwardControl => exact forwardControl_le _ _
  | icmpNoForward =>
      cases enabled : config.suppressed with
      | none =>
          simp only [read, enabled]
          exact UInt32.le_iff_toNat_le.mpr (Nat.zero_le _)
      | some pattern =>
          have bound := pattern.typeCode.toNat_lt
          apply UInt32.le_iff_toNat_le.mpr
          rw [toNat_read_suppressed config enabled]
          simp only [Register.maximum, UInt32.reduceToNat]
          omega

/-- What a register reads is in canonical form. -/
theorem canonical_read (register : Register) :
    register.canonical (config.read register) = config.read register := by
  cases register with
  | icmpNoForward =>
      cases enabled : config.suppressed with
      | none =>
          simp only [read, enabled, Register.canonical]
          split <;> rfl
      | some pattern =>
          have bound := pattern.typeCode.toNat_lt
          have bit : (config.read .icmpNoForward).toNat.testBit 16 = true := by
            rw [toNat_read_suppressed config enabled, Nat.testBit_eq_decide_div_mod_eq,
              decide_eq_true_eq]
            omega
          rw [Register.canonical, bit, if_neg]
          rintro ⟨_, clear⟩
          cases clear
  | _ => rfl

/-- Writing back what a register reads is accepted, whatever the registers hold. -/
theorem write_read (register : Register) :
    start.write register.address (target.read register) =
      .ok (start.apply (target.read register) register) := by
  rw [write_address, if_neg (UInt32.not_lt.mpr (target.read_le_maximum register))]

/-- One entry of a dump gives its register the value and leaves the others as they are. -/
theorem read_apply_read (register shown : Register) :
    (start.apply (target.read register) register).read shown =
      if shown = register then target.read shown else start.read shown := by
  by_cases written : shown = register
  · rw [if_pos written, written, read_apply_self _ (target.read_le_maximum register),
      canonical_read]
  · rw [if_neg written, read_apply_of_ne _ _ written]

/-- A dump is accepted as a whole, and settles what the visited registers read. -/
theorem exists_writeAll_dump (order : List Register) :
    ∃ reached, start.writeAll (target.dump order) = .ok reached ∧
      ∀ register, reached.read register =
        if register ∈ order then target.read register else start.read register := by
  induction order generalizing start with
  | nil => exact ⟨start, rfl, fun _ => rfl⟩
  | cons visited order ih =>
      obtain ⟨reached, accepted, reads⟩ := ih (start.apply (target.read visited) visited)
      refine ⟨reached, ?_, ?_⟩
      · simp only [writeAll, dump, List.map_cons, List.foldlM_cons, write_read] at accepted ⊢
        exact accepted
      · intro register
        rw [reads register, read_apply_read]
        by_cases later : register ∈ order
        · rw [if_pos later, if_pos (List.mem_cons_of_mem _ later)]
        · rw [if_neg later]
          simp only [List.mem_cons, later, or_false]

/--
Whatever the registers hold, writing back a dump in which no register is left
out is never refused and restores the configuration, in any order and however
often a register is visited.  Seven values tell configurations apart, and every
value that is read at an address is accepted there.
-/
theorem dump_restores (order : List Register) (visited : ∀ register, register ∈ order) :
    start.writeAll (target.dump order) = .ok target ∧
      (start.readAll = target.readAll → start = target) ∧
      ∀ address value, target.readAt address = .ok value →
        ∃ next, start.write address value = .ok next := by
  refine ⟨?_, ?_, ?_⟩
  · obtain ⟨reached, accepted, reads⟩ := exists_writeAll_dump start target order
    have restored : reached = target := by
      apply ext_read
      intro register
      rw [reads register, if_pos (visited register)]
    rw [accepted, restored]
  · intro same
    apply ext_read
    intro register
    have listed : register ∈ Register.all := by cases register <;> decide
    exact List.map_inj_left.mp same register listed
  · intro address value shown
    rcases Register.exists_of_address address with ⟨register, rfl⟩ | unknown
    · rw [readAt_address] at shown
      cases shown
      exact ⟨_, write_read start target register⟩
    · simp only [readAt, Register.lookup, Register.at?_eq_none_iff.mpr unknown] at shown
      cases shown

/-- A dump restores a configuration with a pattern, one register in it twice. -/
theorem dump_restores_twice :
    let target : Config :=
      ⟨⟨0x0200, 0xaabbcc⟩, ⟨0x0a000001⟩, (7777, 0), true, false, some ⟨3, 1⟩⟩
    let order : List Register :=
      [.icmpNoForward, .servicePort1, .macLow, .icmpNoForward, .macHigh, .forwardControl,
        .localIp, .servicePort0]
    (∀ register, register ∈ order) ∧ default.writeAll (target.dump order) = .ok target ∧
      ∃ next, default.write 6 0x10301 = .ok next := by
  intro target order
  have visited : ∀ register, register ∈ order := by
    intro register
    cases register <;> decide
  obtain ⟨restored, _, accepted⟩ := dump_restores default target order visited
  exact ⟨visited, restored, accepted 6 0x10301 rfl⟩

end Config

end FrameRouter
