import FrameRouter.Proofs.Config.RoundTrip

/-!
# Which objects describe a configuration

An object describes a configuration if its members are fields of one, each at
most once and with a value of its type, and both addresses are among them.
Fields that are left out have their defaults.  The order of the members does
not count, and neither does the way in which the object is spelled.
-/

namespace FrameRouter

open Json

namespace IcmpPattern

/--
The tree describes the pattern: an object with the type and the code once each,
whatever else is in it, or a list of the two.
-/
inductive Described (pattern : IcmpPattern) : Tree → Prop where
  | object {members : List (Option String × Tree)} (named : none ∉ members.map Prod.fst)
      (type : (some "type", .number (.natural pattern.type.toNat)) ∈ members)
      (code : (some "code", .number (.natural pattern.code.toNat)) ∈ members)
      (once : ∀ key ∈ ["type", "code"], (members.map Prod.fst).count (some key) ≤ 1) :
      Described pattern (.object members)
  | list : Described pattern
      (.list [.number (.natural pattern.type.toNat), .number (.natural pattern.code.toNat)])

theorem complete_eq_ok_iff {draft : Draft} {pattern : IcmpPattern} :
    format.complete draft = .ok pattern ↔ draft = ⟨some pattern.type, some pattern.code⟩ := by
  obtain ⟨type, code⟩ := draft
  cases type with
  | none => exact ⟨nofun, nofun⟩
  | some type =>
      cases code with
      | none => exact ⟨nofun, nofun⟩
      | some code =>
          constructor
          · intro completed
            cases completed
            rfl
          · intro same
            cases same
            rfl

theorem forall_mem_slots {motive : Slot Draft → Prop} :
    (∀ slot ∈ slots, motive slot) ↔ motive typeSlot ∧ motive codeSlot := by
  simp [slots]

/-- A pattern is read from the objects that describe it. -/
theorem absorbed_iff_described {pattern : IcmpPattern} {members : List (Option String × Tree)} :
    members.foldlM (RecordFormat.absorb false slots) format.blank =
        some ⟨some pattern.type, some pattern.code⟩ ↔ pattern.Described (.object members) := by
  rw [RecordFormat.foldlM_absorb_eq_some_iff independent_slots
    (forall_mem_slots.mpr ⟨rfl, rfl⟩), forall_mem_slots]
  constructor
  · rintro ⟨named, _, ⟨onceType, filledType⟩, onceCode, filledCode⟩
    obtain ⟨type, typeListed, typeMeans⟩ := (Slot.filled_iff_of_set rfl).mp filledType
    obtain ⟨code, codeListed, codeMeans⟩ := (Slot.filled_iff_of_set rfl).mp filledCode
    cases Tree.uint8?_eq_some_iff.mp typeMeans
    cases Tree.uint8?_eq_some_iff.mp codeMeans
    exact .object named typeListed codeListed
      (List.forall_mem_cons.mpr ⟨onceType, List.forall_mem_cons.mpr ⟨onceCode, nofun⟩⟩)
  · rintro ⟨named, type, code, once⟩
    obtain ⟨onceType, others⟩ := List.forall_mem_cons.mp once
    exact ⟨named, nofun, ⟨onceType, .given type (Tree.uint8?_number _) rfl⟩,
      others _ List.mem_cons_self, .given code (Tree.uint8?_number _) rfl⟩

/-- A pattern is read from the list of its type and its code. -/
theorem arranged_iff_described {pattern : IcmpPattern} {trees : List Tree} :
    RecordFormat.arrange slots format.blank trees =
        some ⟨some pattern.type, some pattern.code⟩ ↔ pattern.Described (.list trees) := by
  constructor
  · intro arranged
    rcases trees with _ | ⟨type, trees⟩
    · cases arranged
    · obtain ⟨value, typeMeans, further⟩ := RecordFormat.arrange_cons_eq_some_iff.mp arranged
      rcases trees with _ | ⟨code, trees⟩
      · cases further
      · obtain ⟨other, codeMeans, last⟩ := RecordFormat.arrange_cons_eq_some_iff.mp further
        rcases trees with _ | ⟨tree, trees⟩
        · cases last
          cases Tree.uint8?_eq_some_iff.mp typeMeans
          cases Tree.uint8?_eq_some_iff.mp codeMeans
          exact .list
        · cases last
  · rintro ⟨⟩
    exact RecordFormat.arrange_cons_eq_some_iff.mpr ⟨_, Tree.uint8?_number pattern.type,
      RecordFormat.arrange_cons_eq_some_iff.mpr ⟨_, Tree.uint8?_number pattern.code, rfl⟩⟩

/-- A pattern is read from what describes it, and from nothing else. -/
theorem meaning_eq_some_iff {tree : Tree} {pattern : IcmpPattern} :
    meaning tree = some pattern ↔ pattern.Described tree := by
  have drafted : meaning tree = some pattern ↔
      format.draft? slots tree = some ⟨some pattern.type, some pattern.code⟩ := by
    rw [meaning, RecordFormat.meaning, Option.bind_eq_some_iff]
    constructor
    · rintro ⟨draft, found, completed⟩
      rw [found, complete_eq_ok_iff.mp (Except.toOption_eq_some_iff.mp completed)]
    · intro found
      exact ⟨_, found, Except.toOption_eq_some_iff.mpr (complete_eq_ok_iff.mpr rfl)⟩
  rw [drafted]
  cases tree with
  | object members => exact absorbed_iff_described
  | list trees => exact arranged_iff_described
  | _ =>
      constructor <;> intro impossible <;> cases impossible

end IcmpPattern

namespace Config

/-- The parts of a configuration, each with a field of its own. -/
inductive Part where
  | mac
  | ip
  | servicePorts
  | forwardNonLocal
  | forwardBroadcast
  | suppressed
deriving DecidableEq, Repr

namespace Part

def key : Part → String
  | .mac => "local_mac"
  | .ip => "local_ip"
  | .servicePorts => "service_ports"
  | .forwardNonLocal => "forward_non_local"
  | .forwardBroadcast => "forward_broadcast"
  | .suppressed => "icmp_suppress"

def slot : Part → Slot Draft
  | .mac => macSlot
  | .ip => ipSlot
  | .servicePorts => portsSlot
  | .forwardNonLocal => nonLocalSlot
  | .forwardBroadcast => broadcastSlot
  | .suppressed => suppressedSlot

theorem key_slot (part : Part) : part.slot.key = part.key := by
  cases part <;> rfl

theorem slot_mem (part : Part) : part.slot ∈ slots := by
  cases part <;> simp [slot, slots]

theorem exists_slot {slot : Slot Draft} (known : slot ∈ slots) :
    ∃ part : Part, slot = part.slot := by
  simp only [slots, List.mem_cons, List.not_mem_nil, or_false] at known
  rcases known with rfl | rfl | rfl | rfl | rfl | rfl
  · exact ⟨.mac, rfl⟩
  · exact ⟨.ip, rfl⟩
  · exact ⟨.servicePorts, rfl⟩
  · exact ⟨.forwardNonLocal, rfl⟩
  · exact ⟨.forwardBroadcast, rfl⟩
  · exact ⟨.suppressed, rfl⟩

theorem get_blank (part : Part) : part.slot.get format.blank = none := by
  cases part <;> rfl

end Part

/-- The tree has the type of the part, and its value is that of the configuration. -/
inductive Tells (config : Config) : Part → Tree → Prop where
  | mac {text : String} (accepted : Mac.parse? text = some config.mac) :
      Tells config .mac (.text (some text))
  | ip : Tells config .ip (.text (some config.ip.render))
  | servicePorts : Tells config .servicePorts
      (.list [.number (.natural config.servicePorts.1.toNat),
        .number (.natural config.servicePorts.2.toNat)])
  | forwardNonLocal : Tells config .forwardNonLocal (.boolean config.forwardNonLocal)
  | forwardBroadcast : Tells config .forwardBroadcast (.boolean config.forwardBroadcast)
  | unsuppressed (nothing : config.suppressed = none) : Tells config .suppressed .null
  | suppressed {pattern : IcmpPattern} {tree : Tree} (something : config.suppressed = some pattern)
      (described : pattern.Described tree) : Tells config .suppressed tree

/-- Members that describe some configuration. -/
structure Legible (members : List (Option String × Tree)) : Prop where
  distinct : (members.map Prod.fst).Nodup
  typed : ∀ member ∈ members, ∃ (part : Part) (config : Config),
    member.1 = some part.key ∧ config.Tells part member.2
  mac : some Part.mac.key ∈ members.map Prod.fst
  ip : some Part.ip.key ∈ members.map Prod.fst

/-- Each part has the value that its member says, or its default if it is left out. -/
structure DescribedBy (config : Config) (members : List (Option String × Tree)) : Prop where
  tells : ∀ (part : Part) (tree : Tree), (some part.key, tree) ∈ members → config.Tells part tree
  servicePorts : some Part.servicePorts.key ∉ members.map Prod.fst → config.servicePorts = (0, 0)
  forwardNonLocal : some Part.forwardNonLocal.key ∉ members.map Prod.fst →
    config.forwardNonLocal = false
  forwardBroadcast : some Part.forwardBroadcast.key ∉ members.map Prod.fst →
    config.forwardBroadcast = false
  suppressed : some Part.suppressed.key ∉ members.map Prod.fst → config.suppressed = none

/-- The draft in which all parts of the configuration are set. -/
def draft (config : Config) : Draft :=
  ⟨some config.mac, some config.ip, some config.servicePorts, some config.forwardNonLocal,
    some config.forwardBroadcast, some config.suppressed⟩

theorem suppressed_tells_iff {config : Config} {tree : Tree} :
    Tree.optional? IcmpPattern.meaning tree = some config.suppressed ↔
      config.Tells .suppressed tree := by
  constructor
  · intro means
    by_cases isNull : tree = .null
    · subst isNull
      exact .unsuppressed (Option.some.inj means).symm
    · rw [Tree.optional?_of_ne _ isNull] at means
      obtain ⟨pattern, described, something⟩ := Option.map_eq_some_iff.mp means
      exact .suppressed something.symm (IcmpPattern.meaning_eq_some_iff.mp described)
  · intro tells
    cases tells with
    | unsuppressed nothing => exact congrArg some nothing.symm
    | suppressed something described =>
        have other : tree ≠ .null := by
          rintro rfl
          cases described
        rw [Tree.optional?_of_ne _ other, IcmpPattern.meaning_eq_some_iff.mpr described, something]
        rfl

/-- A tree says of a part what its slot takes from it. -/
theorem meaning_eq_get_iff {config : Config} {part : Part} {tree : Tree} :
    part.slot.meaning tree = part.slot.get config.draft ↔ config.Tells part tree := by
  cases part with
  | mac =>
      refine Mac.meaning_eq_some_iff.trans ⟨?_, ?_⟩
      · rintro ⟨text, rfl, accepted⟩
        exact .mac accepted
      · rintro ⟨accepted⟩
        exact ⟨_, rfl, accepted⟩
  | ip =>
      refine Ipv4.meaning_eq_some_iff.trans ⟨?_, ?_⟩
      · rintro rfl
        exact .ip
      · rintro ⟨⟩
        rfl
  | servicePorts =>
      refine Tree.pair?_eq_some_iff.trans ⟨?_, ?_⟩
      · rintro ⟨left, right, rfl, first, second⟩
        rw [Tree.uint16?_eq_some_iff.mp first, Tree.uint16?_eq_some_iff.mp second]
        exact .servicePorts
      · rintro ⟨⟩
        exact ⟨_, _, rfl, Tree.uint16?_number _, Tree.uint16?_number _⟩
  | forwardNonLocal =>
      refine Tree.boolean?_eq_some_iff.trans ⟨?_, ?_⟩
      · rintro rfl
        exact .forwardNonLocal
      · rintro ⟨⟩
        rfl
  | forwardBroadcast =>
      refine Tree.boolean?_eq_some_iff.trans ⟨?_, ?_⟩
      · rintro rfl
        exact .forwardBroadcast
      · rintro ⟨⟩
        rfl
  | suppressed => exact suppressed_tells_iff

/-- A draft with both addresses is complete; what else is missing has its default. -/
theorem complete_eq_ok_iff {draft : Draft} {config : Config} :
    format.complete draft = .ok config ↔ draft.mac = some config.mac ∧ draft.ip = some config.ip ∧
      draft.servicePorts.getD (0, 0) = config.servicePorts ∧
      draft.forwardNonLocal.getD false = config.forwardNonLocal ∧
      draft.forwardBroadcast.getD false = config.forwardBroadcast ∧
      draft.suppressed.getD none = config.suppressed := by
  obtain ⟨mac, ip, ports, nonLocal, broadcast, suppressed⟩ := draft
  obtain ⟨_, _, _, _, _, _⟩ := config
  cases mac with
  | none => exact ⟨nofun, nofun⟩
  | some mac =>
      cases ip with
      | none => exact ⟨nofun, nofun⟩
      | some ip =>
          constructor
          · intro completed
            cases completed
            exact ⟨rfl, rfl, rfl, rfl, rfl, rfl⟩
          · rintro ⟨sameMac, sameIp, others⟩
            exact congrArg Except.ok
              (Config.mk.injEq .. ▸ ⟨Option.some.inj sameMac, Option.some.inj sameIp, others⟩)

section Objects

variable {members : List (Option String × Tree)} {final : Draft} {config : Config}

theorem eq_some_of_getD {α : Type} {field : Option α} {content default value : α}
    (set : field = some content) (result : field.getD default = value) : field = some value := by
  subst set
  exact congrArg some result

/-- What is set in a complete draft is part of the configuration. -/
theorem get_of_complete (completed : format.complete final = .ok config) (part : Part)
    (set : part.slot.get final ≠ none) : part.slot.get final = part.slot.get config.draft := by
  obtain ⟨mac, ip, ports, nonLocal, broadcast, suppressed⟩ := complete_eq_ok_iff.mp completed
  obtain ⟨content, full⟩ := Option.ne_none_iff_exists'.mp set
  cases part with
  | mac => exact mac
  | ip => exact ip
  | servicePorts => exact eq_some_of_getD full ports
  | forwardNonLocal => exact eq_some_of_getD full nonLocal
  | forwardBroadcast => exact eq_some_of_getD full broadcast
  | suppressed => exact eq_some_of_getD full suppressed

/-- What the slot of a part holds when all members are read. -/
theorem holds_part (absorbed : members.foldlM (RecordFormat.absorb true slots) format.blank =
    some final) (part : Part) : part.slot.Holds format.blank final members :=
  RecordFormat.holds_of_absorbed independent_slots absorbed part.slot_mem

/-- The members from which a configuration is read tell its parts. -/
theorem tells_of_absorbed (absorbed : members.foldlM (RecordFormat.absorb true slots)
    format.blank = some final) (completed : format.complete final = .ok config) {part : Part}
    {tree : Tree} (listed : (some part.key, tree) ∈ members) : config.Tells part tree := by
  have acceptable := (RecordFormat.exists_absorbed_iff independent_slots members).mp ⟨_, absorbed⟩
  have typed := acceptable.typed _ listed part.slot part.slot_mem (congrArg some part.key_slot.symm)
  have given := (holds_part absorbed part).given tree (part.key_slot ▸ listed)
  refine meaning_eq_get_iff.mp ?_
  rw [← given] at typed ⊢
  exact get_of_complete completed part typed

/-- A part that is not among the members is not set. -/
theorem get_of_absent (absorbed : members.foldlM (RecordFormat.absorb true slots) format.blank =
    some final) {part : Part} (absent : some part.key ∉ members.map Prod.fst) :
    part.slot.get final = none :=
  ((holds_part absorbed part).kept (part.key_slot ▸ absent)).trans part.get_blank

/-- A configuration that is read from members is described by them. -/
theorem describedBy_of_absorbed (absorbed : members.foldlM (RecordFormat.absorb true slots)
    format.blank = some final) (completed : format.complete final = .ok config) :
    config.DescribedBy members := by
  obtain ⟨_, _, ports, nonLocal, broadcast, suppressed⟩ := complete_eq_ok_iff.mp completed
  refine ⟨fun part tree listed => tells_of_absorbed absorbed completed listed, ?_, ?_, ?_, ?_⟩
  · intro absent
    have unset : final.servicePorts = none := get_of_absent absorbed absent
    rw [← ports, unset]
    rfl
  · intro absent
    have unset : final.forwardNonLocal = none := get_of_absent absorbed absent
    rw [← nonLocal, unset]
    rfl
  · intro absent
    have unset : final.forwardBroadcast = none := get_of_absent absorbed absent
    rw [← broadcast, unset]
    rfl
  · intro absent
    have unset : final.suppressed = none := get_of_absent absorbed absent
    rw [← suppressed, unset]
    rfl

/-- Members from which a configuration is read are legible. -/
theorem legible_of_absorbed (absorbed : members.foldlM (RecordFormat.absorb true slots)
    format.blank = some final) (completed : format.complete final = .ok config) :
    Legible members := by
  have acceptable := (RecordFormat.exists_absorbed_iff independent_slots members).mp ⟨_, absorbed⟩
  have known := acceptable.known rfl
  obtain ⟨mac, ip, _⟩ := complete_eq_ok_iff.mp completed
  have present (part : Part) (set : part.slot.get final ≠ none) :
      some part.key ∈ members.map Prod.fst := by
    by_contra absent
    exact set (get_of_absent absorbed absent)
  refine ⟨(once_iff_nodup known).mp acceptable.once, ?_, ?_, ?_⟩
  · rintro ⟨key, tree⟩ listed
    obtain ⟨slot, inside, same⟩ := known _ listed
    obtain ⟨part, rfl⟩ := Part.exists_slot inside
    rw [part.key_slot] at same
    cases same
    exact ⟨part, config, rfl, tells_of_absorbed absorbed completed listed⟩
  · refine present .mac fun unset => ?_
    cases mac.symm.trans unset
  · refine present .ip fun unset => ?_
    cases ip.symm.trans unset

/-- A configuration is read from legible members. -/
theorem exists_absorbed (legible : Legible members) : ∃ final config,
    members.foldlM (RecordFormat.absorb true slots) format.blank = some final ∧
      format.complete final = .ok config := by
  have known : ∀ member ∈ members, Known slots member.1 := by
    intro member listed
    obtain ⟨part, _, key, _⟩ := legible.typed member listed
    exact ⟨part.slot, part.slot_mem, key.trans (congrArg some part.key_slot.symm)⟩
  have typed : ∀ member ∈ members, ∀ slot ∈ slots, member.1 = some slot.key →
      slot.meaning member.2 ≠ none := by
    intro member listed slot inside same
    obtain ⟨part, config, key, tells⟩ := legible.typed member listed
    have slotKey : part.slot.key = slot.key :=
      part.key_slot.trans (Option.some.inj (key.symm.trans same))
    cases independent_slots.eq_of_key part.slot_mem inside slotKey
    rw [meaning_eq_get_iff.mpr tells]
    cases part <;> exact nofun
  have acceptable : Acceptable true slots format.blank members := by
    refine ⟨?_, fun _ => known, (once_iff_nodup known).mpr legible.distinct, typed, ?_⟩
    · intro member listed same
      obtain ⟨slot, _, key⟩ := known member listed
      cases same.symm.trans key
    · intro _ _ slot inside _
      obtain ⟨part, rfl⟩ := Part.exists_slot inside
      exact part.get_blank
  obtain ⟨final, absorbed⟩ := (RecordFormat.exists_absorbed_iff independent_slots members).mpr
    acceptable
  have set {part : Part} (present : some part.key ∈ members.map Prod.fst) :
      ∃ content, part.slot.get final = some content := by
    obtain ⟨⟨key, tree⟩, listed, same⟩ := List.mem_map.mp present
    cases same
    rw [(holds_part absorbed part).given tree (part.key_slot ▸ listed)]
    exact Option.ne_none_iff_exists'.mp
      (typed _ listed part.slot part.slot_mem (congrArg some part.key_slot.symm))
  obtain ⟨mac, mac'⟩ := set legible.mac
  obtain ⟨ip, ip'⟩ := set legible.ip
  exact ⟨final, ⟨mac, ip, _, _, _, _⟩, absorbed,
    complete_eq_ok_iff.mpr ⟨mac', ip', rfl, rfl, rfl, rfl⟩⟩

end Objects

/-- A configuration is read if a complete draft is. -/
theorem ofDocument_eq_ok_iff {text : String} {members : List (Option String × Tree)}
    (represents : Represents text (.object members)) {config : Config} :
    ofDocument text = .ok config ↔
      ∃ final, members.foldlM (RecordFormat.absorb true slots) format.blank = some final ∧
        format.complete final = .ok config := by
  rw [← Except.toOption_eq_some_iff, ofDocument_toOption represents, meaning,
    RecordFormat.meaning, Option.bind_eq_some_iff]
  exact exists_congr fun final => and_congr_right' Except.toOption_eq_some_iff

/--
A text that spells an object describes a configuration exactly if its members
are legible.  The configuration is then the one that the members tell, with
defaults for what is left out, and any text that spells the same members in
another order describes it too.
-/
theorem object_describes {text : String} {members : List (Option String × Tree)}
    (represents : Represents text (.object members)) :
    ((∃ config, ofDocument text = .ok config) ↔ Legible members) ∧
      (∀ config, ofDocument text = .ok config → config.DescribedBy members) ∧
      ∀ other permuted, Represents other (.object permuted) → members.Perm permuted →
        ∀ config, ofDocument text = .ok config ↔ ofDocument other = .ok config := by
  refine ⟨⟨?_, ?_⟩, ?_, ?_⟩
  · rintro ⟨config, read⟩
    obtain ⟨final, absorbed, completed⟩ := (ofDocument_eq_ok_iff represents).mp read
    exact legible_of_absorbed absorbed completed
  · intro legible
    obtain ⟨final, config, absorbed, completed⟩ := exists_absorbed legible
    exact ⟨config, (ofDocument_eq_ok_iff represents).mpr ⟨final, absorbed, completed⟩⟩
  · intro config read
    obtain ⟨final, absorbed, completed⟩ := (ofDocument_eq_ok_iff represents).mp read
    exact describedBy_of_absorbed absorbed completed
  · intro other permuted represents' same config
    rw [ofDocument_eq_ok_iff represents, ofDocument_eq_ok_iff represents',
      RecordFormat.foldlM_absorb_perm independent_slots same]

/-- Members in an order of their own, one of them with a member that nobody knows. -/
def reordered : List (String × Value) := [
  ("icmp_suppress", .object [
    ("code", .number 0), ("note", .list [.boolean true, .null]), ("type", .number 8)]),
  ("local_ip", .text "10.0.0.1"),
  ("local_mac", .text "02:00:00:00:00:01")]

/-- The order of the members does not count, and neither do the blanks between them. -/
theorem object_describes_reordered :
    Represents (Value.object reordered).renderIndented (.object (Value.entries reordered)) ∧
      Legible (Value.entries reordered) ∧
      DescribedBy ⟨⟨0x0200, 1⟩, ⟨0x0a000001⟩, (0, 0), false, false, some ⟨8, 0⟩⟩
        (Value.entries reordered) ∧
      ofDocument (Value.object reordered.reverse).render =
        .ok ⟨⟨0x0200, 1⟩, ⟨0x0a000001⟩, (0, 0), false, false, some ⟨8, 0⟩⟩ := by
  have represents : Represents (Value.object reordered).renderIndented
      (.object (Value.entries reordered)) := (Value.object reordered).represents_renderIndented
  have read : ofDocument (Value.object reordered).renderIndented =
      .ok ⟨⟨0x0200, 1⟩, ⟨0x0a000001⟩, (0, 0), false, false, some ⟨8, 0⟩⟩ := by
    refine Except.toOption_eq_some_iff.mp ((ofDocument_toOption represents).trans ?_)
    decide +kernel
  obtain ⟨accepted, described, permuted⟩ := object_describes represents
  have reversed : (Value.entries reordered).Perm (Value.entries reordered.reverse) := by
    rw [Value.entries_eq_map, Value.entries_eq_map, List.map_reverse]
    exact (List.reverse_perm _).symm
  exact ⟨represents, accepted.mp ⟨_, read⟩, described _ read,
    (permuted _ _ (Value.object reordered.reverse).represents_render reversed _).mp read⟩

end Config

end FrameRouter
