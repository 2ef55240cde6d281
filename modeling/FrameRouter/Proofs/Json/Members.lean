import FrameRouter.Proofs.Json.Records
import Mathlib.Data.List.Nodup

/-!
# Members in any order

Which members an object may have does not depend on their order, and neither
does what they leave in the slots: each slot holds what the one member with its
key means.
-/

namespace FrameRouter.Json

variable {δ : Type}

/--
Slots with keys of their own; filling one leaves the others as they are.  A
draft has nothing but its slots.
-/
structure Independent (slots : List (Slot δ)) : Prop where
  keys : (slots.map Slot.key).Nodup
  get_set : ∀ slot ∈ slots, ∀ draft content, slot.get (slot.set draft content) = some content
  get_set_of_ne : ∀ slot ∈ slots, ∀ other ∈ slots, slot.key ≠ other.key →
    ∀ draft content, other.get (slot.set draft content) = other.get draft
  determined : ∀ draft other, (∀ slot ∈ slots, slot.get draft = slot.get other) → draft = other

namespace Independent

variable {slots : List (Slot δ)} {slot other : Slot δ}

/-- A slot is known by its key. -/
theorem eq_of_key (independent : Independent slots) (known : slot ∈ slots) (listed : other ∈ slots)
    (same : slot.key = other.key) : slot = other :=
  List.inj_on_of_nodup_map independent.keys known listed same

/-- The slot of a known key is found. -/
theorem find? (independent : Independent slots) (known : slot ∈ slots) :
    (slots.find? fun other => other.key = slot.key) = some slot := by
  cases found : slots.find? fun other => other.key = slot.key with
  | none =>
      have missing := List.find?_eq_none.mp found slot known
      exact absurd (decide_eq_true rfl) missing
  | some other =>
      have same : other.key = slot.key := by simpa using List.find?_some found
      rw [independent.eq_of_key (List.mem_of_find?_eq_some found) known same]

end Independent

/-- The key is that of a slot. -/
def Known (slots : List (Slot δ)) (key : Option String) : Prop :=
  ∃ slot ∈ slots, key = some slot.key

/-- Members that may stand behind what the draft holds. -/
structure Acceptable (closed : Bool) (slots : List (Slot δ)) (draft : δ)
    (members : List (Option String × Tree)) : Prop where
  /-- No key escapes half of a surrogate pair alone. -/
  named : ∀ member ∈ members, member.1 ≠ none
  known : closed = true → ∀ member ∈ members, Known slots member.1
  once : ∀ slot ∈ slots, (members.map Prod.fst).count (some slot.key) ≤ 1
  typed : ∀ member ∈ members, ∀ slot ∈ slots, member.1 = some slot.key →
    slot.meaning member.2 ≠ none
  fresh : ∀ member ∈ members, ∀ slot ∈ slots, member.1 = some slot.key → slot.get draft = none

/-- If all keys are known, that known keys stand only once means that all keys do. -/
theorem once_iff_nodup {slots : List (Slot δ)} {members : List (Option String × Tree)}
    (known : ∀ member ∈ members, Known slots member.1) :
    (∀ slot ∈ slots, (members.map Prod.fst).count (some slot.key) ≤ 1) ↔
      (members.map Prod.fst).Nodup := by
  rw [List.nodup_iff_count_le_one]
  constructor
  · intro once key
    by_cases listed : key ∈ members.map Prod.fst
    · obtain ⟨member, membership, rfl⟩ := List.mem_map.mp listed
      obtain ⟨slot, inside, same⟩ := known member membership
      rw [same]
      exact once slot inside
    · rw [List.count_eq_zero_of_not_mem listed]
      exact Nat.zero_le 1
  · exact fun once slot _ => once (some slot.key)

/-- A key that stands once has one value. -/
theorem eq_of_count_le_one {members : List (Option String × Tree)} {key : Option String}
    {first second : Tree} (once : (members.map Prod.fst).count key ≤ 1)
    (listed : (key, first) ∈ members) (again : (key, second) ∈ members) : first = second := by
  induction members with
  | nil => cases listed
  | cons member members ih =>
      have absent {tree : Tree} (here : member.1 = key) : (key, tree) ∉ members := by
        intro further
        have positive : 0 < (members.map Prod.fst).count key :=
          List.count_pos_iff.mpr (List.mem_map_of_mem (f := Prod.fst) further)
        rw [List.map_cons, here, List.count_cons_self] at once
        omega
      rcases List.mem_cons.mp listed with rfl | behind
      · rcases List.mem_cons.mp again with same | behind
        · cases same
          rfl
        · exact absurd behind (absent rfl)
      · rcases List.mem_cons.mp again with rfl | behind'
        · exact absurd behind (absent rfl)
        · exact ih (Nat.le_trans List.count_le_count_cons once) behind behind'

/-- The slot holds what the member with its key means, or what it held without one. -/
structure Slot.Holds (slot : Slot δ) (start final : δ) (members : List (Option String × Tree)) :
    Prop where
  given : ∀ tree, (some slot.key, tree) ∈ members → slot.get final = slot.meaning tree
  kept : some slot.key ∉ members.map Prod.fst → slot.get final = slot.get start

/-- Which members may stand in an object does not depend on their order. -/
theorem Acceptable.of_perm {closed : Bool} {slots : List (Slot δ)} {draft : δ}
    {members permuted : List (Option String × Tree)} (same : members.Perm permuted)
    (acceptable : Acceptable closed slots draft members) :
    Acceptable closed slots draft permuted where
  named := fun member membership => acceptable.named member (same.mem_iff.mpr membership)
  known := fun isClosed member membership =>
    acceptable.known isClosed member (same.mem_iff.mpr membership)
  once := fun slot known => (same.map Prod.fst).count_eq _ ▸ acceptable.once slot known
  typed := fun member membership => acceptable.typed member (same.mem_iff.mpr membership)
  fresh := fun member membership => acceptable.fresh member (same.mem_iff.mpr membership)

/-- No further member has the key of a slot that is set. -/
theorem Acceptable.absent_of_set {closed : Bool} {slots : List (Slot δ)} {draft : δ}
    {members : List (Option String × Tree)} (acceptable : Acceptable closed slots draft members)
    {slot : Slot δ} (known : slot ∈ slots) {content : slot.Content}
    (set : slot.get draft = some content) :
    some slot.key ∉ members.map Prod.fst := by
  intro listed
  obtain ⟨member, membership, same⟩ := List.mem_map.mp listed
  rw [acceptable.fresh member membership slot known same] at set
  cases set

/-- What a slot holds does not depend on the order of the members. -/
theorem Slot.Holds.of_perm {slot : Slot δ} {start final : δ}
    {members permuted : List (Option String × Tree)} (same : members.Perm permuted)
    (holds : slot.Holds start final members) : slot.Holds start final permuted where
  given := fun tree membership => holds.given tree (same.mem_iff.mpr membership)
  kept := fun absent => holds.kept fun membership =>
    absent ((same.map Prod.fst).mem_iff.mp membership)

/-- What a slot holds that held nothing comes from a member. -/
theorem Slot.Holds.exists_of_some {slot : Slot δ} {start final : δ}
    {members : List (Option String × Tree)} (holds : slot.Holds start final members)
    (empty : slot.get start = none) {content : slot.Content}
    (full : slot.get final = some content) :
    ∃ tree, (some slot.key, tree) ∈ members ∧ slot.meaning tree = some content := by
  by_cases listed : some slot.key ∈ members.map Prod.fst
  · obtain ⟨⟨key, tree⟩, membership, same⟩ := List.mem_map.mp listed
    cases same
    exact ⟨tree, membership, (holds.given tree membership).symm.trans full⟩
  · rw [holds.kept listed, empty] at full
    cases full

/-- The members tell what the slot holds. -/
theorem Slot.Holds.unique {slot : Slot δ} {start final other : δ}
    {members : List (Option String × Tree)} (holds : slot.Holds start final members)
    (again : slot.Holds start other members) : slot.get final = slot.get other := by
  by_cases listed : some slot.key ∈ members.map Prod.fst
  · obtain ⟨⟨key, tree⟩, membership, same⟩ := List.mem_map.mp listed
    cases same
    rw [holds.given tree membership, again.given tree membership]
  · rw [holds.kept listed, again.kept listed]

/-- The slot holds what a member gives it, or nothing if there is no such member. -/
inductive Slot.Filled (slot : Slot δ) (final : δ) (members : List (Option String × Tree)) :
    Prop where
  | given {tree : Tree} {content : slot.Content} (listed : (some slot.key, tree) ∈ members)
      (means : slot.meaning tree = some content) (set : slot.get final = some content) :
      Filled slot final members
  | left (absent : some slot.key ∉ members.map Prod.fst) (unset : slot.get final = none) :
      Filled slot final members

/-- What is in a slot stands among the members. -/
theorem Slot.filled_iff_of_set {slot : Slot δ} {final : δ}
    {members : List (Option String × Tree)} {content : slot.Content}
    (set : slot.get final = some content) : slot.Filled final members ↔
      ∃ tree, (some slot.key, tree) ∈ members ∧ slot.meaning tree = some content := by
  constructor
  · intro filled
    cases filled with
    | given listed means same =>
        rw [set] at same
        cases same
        exact ⟨_, listed, means⟩
    | left absent unset =>
        rw [set] at unset
        cases unset
  · rintro ⟨tree, listed, means⟩
    exact .given listed means set

namespace RecordFormat

variable {closed : Bool} {slots : List (Slot δ)} {draft next final : δ}

/-- A member fills the slot of its key, or is passed over. -/
inductive Absorbs (closed : Bool) (slots : List (Slot δ)) (draft : δ) :
    Option String × Tree → δ → Prop where
  | fill (slot : Slot δ) {tree : Tree} {content : slot.Content} (known : slot ∈ slots)
      (unset : slot.get draft = none) (means : slot.meaning tree = some content) :
      Absorbs closed slots draft (some slot.key, tree) (slot.set draft content)
  | pass {key : String} {tree : Tree} (isOpen : closed = false)
      (unknown : ¬Known slots (some key)) : Absorbs closed slots draft (some key, tree) draft

theorem absorb_eq_some_iff (independent : Independent slots) (member : Option String × Tree) :
    absorb closed slots draft member = some next ↔ Absorbs closed slots draft member next := by
  obtain ⟨key, tree⟩ := member
  constructor
  · intro absorbed
    cases key with
    | none => cases absorbed
    | some key =>
        rw [absorb] at absorbed
        split at absorbed
        · rename_i slot found
          split at absorbed
          · cases absorbed
          · rename_i unset
            obtain ⟨content, means, rfl⟩ := Option.map_eq_some_iff.mp absorbed
            have same : slot.key = key := by simpa using List.find?_some found
            subst same
            exact .fill slot (List.mem_of_find?_eq_some found) (by simpa using unset) means
        · rename_i missing
          split at absorbed
          · cases absorbed
          · rename_i isOpen
            cases absorbed
            refine .pass (Bool.eq_false_iff.mpr isOpen) ?_
            rintro ⟨slot, membership, same⟩
            cases same
            rw [independent.find? membership] at missing
            cases missing
  · intro absorbs
    cases absorbs with
    | fill slot known unset means =>
        simp [absorb, independent.find? known, unset, Slot.fill, means]
    | @pass key tree isOpen unknown =>
        have missing : (slots.find? fun slot => slot.key = key) = none := by
          refine List.find?_eq_none.mpr fun slot membership same => unknown ⟨slot, membership, ?_⟩
          rw [of_decide_eq_true same]
        simp [absorb, missing, isOpen]

/-- An acceptable member is absorbed, and the others stay acceptable behind it. -/
theorem exists_absorbs (independent : Independent slots) {member : Option String × Tree}
    {members : List (Option String × Tree)}
    (acceptable : Acceptable closed slots draft (member :: members)) :
    ∃ next, Absorbs closed slots draft member next ∧ Acceptable closed slots next members := by
  obtain ⟨key, tree⟩ := member
  obtain ⟨named, others⟩ := List.forall_mem_cons.mp acceptable.named
  have once : ∀ slot ∈ slots, (members.map Prod.fst).count (some slot.key) ≤ 1 :=
    fun slot known => Nat.le_trans List.count_le_count_cons (acceptable.once slot known)
  obtain ⟨typed, typed'⟩ := List.forall_mem_cons.mp acceptable.typed
  obtain ⟨fresh, fresh'⟩ := List.forall_mem_cons.mp acceptable.fresh
  have known' (isClosed : closed = true) := List.forall_mem_cons.mp (acceptable.known isClosed)
  obtain ⟨key, rfl⟩ := Option.ne_none_iff_exists'.mp named
  by_cases known : Known slots (some key)
  · obtain ⟨slot, membership, same⟩ := known
    cases same
    obtain ⟨content, means⟩ := Option.ne_none_iff_exists'.mp (typed slot membership rfl)
    refine ⟨_, .fill slot membership (fresh slot membership rfl) means, others,
      fun isClosed => (known' isClosed).2, once, typed', ?_⟩
    intro member listed other membership' same
    have different : slot.key ≠ other.key := by
      intro equal
      have single := acceptable.once slot membership
      have again : 0 < (members.map Prod.fst).count (some slot.key) :=
        List.count_pos_iff.mpr (equal ▸ same ▸ List.mem_map_of_mem listed)
      rw [List.map_cons, List.count_cons_self] at single
      omega
    rw [independent.get_set_of_ne slot membership other membership' different]
    exact fresh' member listed other membership' same
  · have isOpen : closed = false := Bool.eq_false_iff.mpr fun isClosed =>
      known (known' isClosed).1
    exact ⟨draft, .pass isOpen known, others, fun isClosed => (known' isClosed).2, once, typed',
      fresh'⟩

/-- An absorbed member is acceptable in front of members that are so behind it. -/
theorem Absorbs.acceptable (independent : Independent slots) {member : Option String × Tree}
    {members : List (Option String × Tree)} (absorbs : Absorbs closed slots draft member next)
    (acceptable : Acceptable closed slots next members) :
    Acceptable closed slots draft (member :: members) := by
  cases absorbs with
  | @fill slot tree content known unset means =>
      have absent := acceptable.absent_of_set known (independent.get_set slot known draft content)
      have again {member} (listed : member ∈ members) : member.1 ≠ some slot.key := fun same =>
        absent (same ▸ List.mem_map_of_mem listed)
      have only {other : Slot δ} (listed : other ∈ slots) (same : some slot.key = some other.key) :
          slot = other := independent.eq_of_key known listed (Option.some.inj same)
      refine ⟨?_, ?_, ?_, ?_, ?_⟩
      · exact List.forall_mem_cons.mpr ⟨nofun, acceptable.named⟩
      · exact fun isClosed =>
          List.forall_mem_cons.mpr ⟨⟨slot, known, rfl⟩, acceptable.known isClosed⟩
      · intro other listed
        rw [List.map_cons, List.count_cons]
        split
        · rename_i same
          have equal : slot = other := only listed (eq_of_beq same)
          have none := List.count_eq_zero_of_not_mem absent
          exact equal ▸ Nat.le_of_eq (congrArg (· + 1) none)
        · exact acceptable.once other listed
      · refine List.forall_mem_cons.mpr ⟨?_, acceptable.typed⟩
        intro other listed same
        cases only listed same
        rw [means]
        nofun
      · refine List.forall_mem_cons.mpr ⟨?_, ?_⟩
        · intro other listed same
          cases only listed same
          exact unset
        · intro member listed other membership same
          have different : slot.key ≠ other.key := fun equal =>
            again listed (same.trans (congrArg some equal.symm))
          have fresh := acceptable.fresh member listed other membership same
          rwa [independent.get_set_of_ne slot known other membership different] at fresh
  | @pass key tree isOpen unknown =>
      have foreign : ∀ slot ∈ slots, some key ≠ some slot.key := fun slot membership same =>
        unknown ⟨slot, membership, same⟩
      refine ⟨?_, ?_, ?_, ?_, ?_⟩
      · exact List.forall_mem_cons.mpr ⟨nofun, acceptable.named⟩
      · intro isClosed
        rw [isOpen] at isClosed
        cases isClosed
      · intro slot listed
        rw [List.map_cons, List.count_cons_of_ne (foreign slot listed)]
        exact acceptable.once slot listed
      · exact List.forall_mem_cons.mpr
          ⟨fun slot membership same => absurd same (foreign slot membership), acceptable.typed⟩
      · exact List.forall_mem_cons.mpr
          ⟨fun slot membership same => absurd same (foreign slot membership), acceptable.fresh⟩

/-- Members are absorbed one after the other. -/
theorem absorbed_cons (independent : Independent slots) {member : Option String × Tree}
    {members : List (Option String × Tree)} (absorbs : Absorbs closed slots draft member next)
    (further : members.foldlM (absorb closed slots) next = some final) :
    (member :: members).foldlM (absorb closed slots) draft = some final := by
  rw [List.foldlM_cons, (absorb_eq_some_iff independent member).mpr absorbs]
  exact further

/-- Members are absorbed if they are acceptable, whatever their order. -/
theorem exists_absorbed_iff (independent : Independent slots)
    (members : List (Option String × Tree)) :
    (∃ final, members.foldlM (absorb closed slots) draft = some final) ↔
      Acceptable closed slots draft members := by
  induction members generalizing draft with
  | nil => exact ⟨fun _ => ⟨nofun, nofun, by simp, nofun, nofun⟩, fun _ => ⟨draft, rfl⟩⟩
  | cons member members ih =>
      constructor
      · rintro ⟨final, absorbed⟩
        rw [List.foldlM_cons] at absorbed
        obtain ⟨next, first, further⟩ := Option.bind_eq_some_iff.mp absorbed
        exact ((absorb_eq_some_iff independent member).mp first).acceptable independent
          (ih.mp ⟨final, further⟩)
      · intro acceptable
        obtain ⟨next, first, others⟩ := exists_absorbs independent acceptable
        obtain ⟨final, further⟩ := ih.mpr others
        exact ⟨final, absorbed_cons independent first further⟩

/-- What a member leaves in a slot. -/
theorem Absorbs.holds (independent : Independent slots) {member : Option String × Tree}
    (absorbs : Absorbs closed slots draft member next) {slot : Slot δ} (listed : slot ∈ slots) :
    slot.Holds draft next [member] := by
  cases absorbs with
  | @fill other tree content known unset means =>
      by_cases same : other.key = slot.key
      · cases independent.eq_of_key known listed same
        refine ⟨?_, fun missing => absurd List.mem_cons_self missing⟩
        intro tree' only
        cases List.mem_singleton.mp only
        rw [independent.get_set slot known, means]
      · refine ⟨?_, fun _ => independent.get_set_of_ne other known slot listed same draft content⟩
        intro tree' only
        have equal := congrArg Prod.fst (List.mem_singleton.mp only)
        exact absurd (Option.some.inj equal).symm same
  | @pass key tree isOpen unknown =>
      refine ⟨?_, fun _ => rfl⟩
      intro tree' only
      cases List.mem_singleton.mp only
      exact absurd ⟨slot, listed, rfl⟩ unknown

/-- What absorbed members leave in the slots. -/
theorem holds_of_absorbed (independent : Independent slots)
    {members : List (Option String × Tree)}
    (absorbed : members.foldlM (absorb closed slots) draft = some final) {slot : Slot δ}
    (membership : slot ∈ slots) : slot.Holds draft final members := by
  induction members generalizing draft with
  | nil =>
      cases absorbed
      exact ⟨nofun, fun _ => rfl⟩
  | cons member members ih =>
      rw [List.foldlM_cons] at absorbed
      obtain ⟨next, first, further⟩ := Option.bind_eq_some_iff.mp absorbed
      have holds := ih further
      have absorbs := (absorb_eq_some_iff independent member).mp first
      have here := absorbs.holds independent membership
      refine ⟨?_, ?_⟩
      · intro tree listed
        rcases List.mem_cons.mp listed with rfl | behind
        · -- The slot is set now, so no further member changes it.
          have others := (exists_absorbed_iff independent members).mp ⟨final, further⟩
          have typed := (absorbs.acceptable independent others).typed _ List.mem_cons_self
          obtain ⟨content, means⟩ := Option.ne_none_iff_exists'.mp (typed slot membership rfl)
          have set := (here.given tree List.mem_cons_self).trans means
          rw [holds.kept (others.absent_of_set membership set), set, means]
        · exact holds.given tree behind
      · intro missing
        rw [List.map_cons] at missing
        rw [List.mem_cons, not_or] at missing
        rw [holds.kept missing.2]
        exact here.kept (by simpa using missing.1)

/--
Which draft the members leave: no key is half a surrogate pair, known keys
stand once at most, and each slot is filled from its member.
-/
theorem foldlM_absorb_eq_some_iff (independent : Independent slots)
    (blank : ∀ slot ∈ slots, slot.get draft = none) (members : List (Option String × Tree)) :
    members.foldlM (absorb closed slots) draft = some final ↔
      none ∉ members.map Prod.fst ∧
        (closed = true → ∀ member ∈ members, Known slots member.1) ∧
        ∀ slot ∈ slots, (members.map Prod.fst).count (some slot.key) ≤ 1 ∧
          slot.Filled final members := by
  constructor
  · intro absorbed
    have acceptable := (exists_absorbed_iff independent members).mp ⟨final, absorbed⟩
    refine ⟨?_, acceptable.known, fun slot known => ⟨acceptable.once slot known, ?_⟩⟩
    · intro listed
      obtain ⟨member, membership, same⟩ := List.mem_map.mp listed
      exact acceptable.named member membership same
    · have holds := holds_of_absorbed independent absorbed known
      cases set : slot.get final with
      | none =>
          refine .left (fun listed => ?_) set
          obtain ⟨⟨key, tree⟩, membership, same⟩ := List.mem_map.mp listed
          cases same
          exact acceptable.typed _ membership slot known rfl ((holds.given tree membership) ▸ set)
      | some content =>
          obtain ⟨tree, listed, means⟩ := holds.exists_of_some (blank slot known) set
          exact .given listed means set
  · rintro ⟨named, known, each⟩
    have acceptable : Acceptable closed slots draft members := by
      refine ⟨?_, known, fun slot inside => (each slot inside).1, ?_,
        fun _ _ slot inside _ => blank slot inside⟩
      · exact fun member membership same => named (same ▸ List.mem_map_of_mem membership)
      · rintro ⟨key, tree⟩ membership slot inside rfl
        obtain ⟨once, filled⟩ := each slot inside
        cases filled with
        | given listed means _ =>
            rw [eq_of_count_le_one once membership listed, means]
            nofun
        | left absent _ => exact absurd (List.mem_map_of_mem (f := Prod.fst) membership) absent
    obtain ⟨other, absorbed⟩ := (exists_absorbed_iff independent members).mpr acceptable
    have same : other = final := by
      refine independent.determined other final fun slot inside => ?_
      have holds := holds_of_absorbed independent absorbed inside
      cases (each slot inside).2 with
      | given listed means set => rw [holds.given _ listed, means, set]
      | left absent unset => rw [holds.kept absent, blank slot inside, unset]
    rw [absorbed, same]

/-- The draft of members does not depend on their order. -/
theorem foldlM_absorb_perm (independent : Independent slots)
    {members permuted : List (Option String × Tree)} (same : members.Perm permuted) :
    members.foldlM (absorb closed slots) draft = permuted.foldlM (absorb closed slots) draft := by
  have either {first second : List (Option String × Tree)} (same : first.Perm second) (final : δ)
      (absorbed : first.foldlM (absorb closed slots) draft = some final) :
      second.foldlM (absorb closed slots) draft = some final := by
    have acceptable := (exists_absorbed_iff independent first).mp ⟨final, absorbed⟩
    obtain ⟨other, absorbed'⟩ := (exists_absorbed_iff independent second).mpr
      (acceptable.of_perm same)
    have equal : final = other := independent.determined final other fun slot membership =>
      ((holds_of_absorbed independent absorbed membership).of_perm same).unique
        (holds_of_absorbed independent absorbed' membership)
    rw [absorbed', equal]
  exact Option.ext fun final => ⟨either same final, either same.symm final⟩

end RecordFormat

end FrameRouter.Json
