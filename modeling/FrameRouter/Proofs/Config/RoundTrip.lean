import FrameRouter.Config.Document
import FrameRouter.Proofs.Address.Notation
import FrameRouter.Proofs.Json.Members
import FrameRouter.Proofs.Json.Writing

/-!
# Configurations and their documents

A configuration is read from the document that it is written to.  The addresses
go through their texts and the control messages through an object of their own.
-/

namespace FrameRouter

open Json

/-- What a tree says of a value that was written as a text. -/
def Mac.meaning (tree : Tree) : Option Mac := tree.text?.bind Mac.parse?

def Ipv4.meaning (tree : Tree) : Option Ipv4 := tree.text?.bind Ipv4.parse?

theorem Mac.meaning_eq_some_iff {tree : Tree} {mac : Mac} :
    meaning tree = some mac ↔ ∃ text, tree = .text (some text) ∧ parse? text = some mac := by
  rw [meaning, Option.bind_eq_some_iff]
  exact exists_congr fun text => and_congr_left' Tree.text?_eq_some_iff

theorem Ipv4.meaning_eq_some_iff {tree : Tree} {address : Ipv4} :
    meaning tree = some address ↔ tree = .text (some address.render) := by
  rw [meaning, Option.bind_eq_some_iff]
  constructor
  · rintro ⟨text, tree, read⟩
    rw [Tree.text?_eq_some_iff.mp tree, parse?_eq_some_iff.mp read]
  · rintro rfl
    exact ⟨_, rfl, address.parse?_render⟩

theorem Mac.meaning_render (mac : Mac) : meaning (.text (some mac.render)) = some mac :=
  meaning_eq_some_iff.mpr ⟨_, rfl, mac.parse?_render⟩

theorem Ipv4.meaning_render (address : Ipv4) :
    meaning (.text (some address.render)) = some address :=
  meaning_eq_some_iff.mpr rfl

theorem Mac.understands_reader : Understands Mac.reader Mac.meaning := by
  refine (understands_text "a string").andThen fun input => ?_
  rw [Mac.reader, Except.toOption_bind]
  congr 1
  funext ⟨text, rest⟩
  dsimp only
  cases Mac.parse? text <;> rfl

theorem Ipv4.understands_reader : Understands Ipv4.reader Ipv4.meaning := by
  refine (understands_text "IPv4 address").andThen fun input => ?_
  rw [Ipv4.reader, Except.toOption_bind]
  congr 1
  funext ⟨text, rest⟩
  dsimp only
  cases Ipv4.parse? text <;> rfl

namespace IcmpPattern

def typeSlot : Slot Draft :=
  ⟨"type", UInt8, Draft.type, fun draft value => { draft with type := some value }, uint8,
    Tree.uint8?, understands_uint8⟩

def codeSlot : Slot Draft :=
  ⟨"code", UInt8, Draft.code, fun draft value => { draft with code := some value }, uint8,
    Tree.uint8?, understands_uint8⟩

def slots : List (Slot Draft) := [typeSlot, codeSlot]

theorem independent_slots : Independent slots where
  keys := by decide
  get_set := by simp [slots, typeSlot, codeSlot]
  get_set_of_ne := by simp [slots, typeSlot, codeSlot]
  determined := by
    rintro ⟨type, code⟩ ⟨type', code'⟩ same
    simpa [slots, typeSlot, codeSlot] using same

def meaning (tree : Tree) : Option IcmpPattern := format.meaning slots tree

theorem understands_format : Understands format.read meaning := RecordFormat.understands rfl

/-- A pattern means itself as it is written. -/
theorem meaning_toValue (pattern : IcmpPattern) : meaning pattern.toValue.tree = some pattern := by
  have type := Tree.uint8?_number pattern.type
  have code := Tree.uint8?_number pattern.code
  have draft : format.draft? slots pattern.toValue.tree =
      some ⟨some pattern.type, some pattern.code⟩ := by
    refine RecordFormat.absorbed_cons independent_slots
      (.fill typeSlot (by simp [slots]) rfl type) ?_
    refine RecordFormat.absorbed_cons independent_slots
      (.fill codeSlot (by simp [slots]) rfl code) ?_
    rfl
  rw [meaning, RecordFormat.meaning, draft]
  rfl

end IcmpPattern

namespace Config

def macSlot : Slot Draft :=
  ⟨"local_mac", Mac, Draft.mac, fun draft value => { draft with mac := some value }, Mac.reader,
    Mac.meaning, Mac.understands_reader⟩

def ipSlot : Slot Draft :=
  ⟨"local_ip", Ipv4, Draft.ip, fun draft value => { draft with ip := some value }, Ipv4.reader,
    Ipv4.meaning, Ipv4.understands_reader⟩

def portsSlot : Slot Draft :=
  ⟨"service_ports", UInt16 × UInt16, Draft.servicePorts,
    fun draft value => { draft with servicePorts := some value }, pair uint16,
    Tree.pair? Tree.uint16?, understands_uint16.pair⟩

def nonLocalSlot : Slot Draft :=
  ⟨"forward_non_local", Bool, Draft.forwardNonLocal,
    fun draft value => { draft with forwardNonLocal := some value }, boolean, Tree.boolean?,
    understands_boolean⟩

def broadcastSlot : Slot Draft :=
  ⟨"forward_broadcast", Bool, Draft.forwardBroadcast,
    fun draft value => { draft with forwardBroadcast := some value }, boolean, Tree.boolean?,
    understands_boolean⟩

def suppressedSlot : Slot Draft :=
  ⟨"icmp_suppress", Option IcmpPattern, Draft.suppressed,
    fun draft value => { draft with suppressed := some value }, optional IcmpPattern.format.read,
    Tree.optional? IcmpPattern.meaning, IcmpPattern.understands_format.optional⟩

def slots : List (Slot Draft) :=
  [macSlot, ipSlot, portsSlot, nonLocalSlot, broadcastSlot, suppressedSlot]

theorem independent_slots : Independent slots where
  keys := by decide
  get_set := by
    simp [slots, macSlot, ipSlot, portsSlot, nonLocalSlot, broadcastSlot, suppressedSlot]
  get_set_of_ne := by
    simp [slots, macSlot, ipSlot, portsSlot, nonLocalSlot, broadcastSlot, suppressedSlot]
  determined := by
    rintro ⟨mac, ip, ports, nonLocal, broadcast, suppressed⟩
      ⟨mac', ip', ports', nonLocal', broadcast', suppressed'⟩ same
    simpa [slots, macSlot, ipSlot, portsSlot, nonLocalSlot, broadcastSlot, suppressedSlot]
      using same

def meaning (tree : Tree) : Option Config := format.meaning slots tree

theorem understands_format : Understands format.read meaning := RecordFormat.understands rfl

/-- What is written of the messages that must stay on the slow path. -/
def suppressedTree : Option IcmpPattern → Tree
  | some pattern => .object [
      (some "type", .number (.natural pattern.type.toNat)),
      (some "code", .number (.natural pattern.code.toNat))]
  | none => .null

theorem optional?_suppressedTree (suppressed : Option IcmpPattern) :
    Tree.optional? IcmpPattern.meaning (suppressedTree suppressed) = some suppressed := by
  cases suppressed with
  | none => rfl
  | some pattern => exact congrArg (Option.map some) pattern.meaning_toValue

/-- What is written of a configuration. -/
def document (config : Config) : Tree :=
  .object [
    (some "local_mac", .text (some config.mac.render)),
    (some "local_ip", .text (some config.ip.render)),
    (some "service_ports", .list [.number (.natural config.servicePorts.1.toNat),
      .number (.natural config.servicePorts.2.toNat)]),
    (some "forward_non_local", .boolean config.forwardNonLocal),
    (some "forward_broadcast", .boolean config.forwardBroadcast),
    (some "icmp_suppress", suppressedTree config.suppressed)]

theorem tree_toValue (config : Config) : config.toValue.tree = config.document := by
  obtain ⟨mac, ip, ports, nonLocal, broadcast, suppressed⟩ := config
  cases suppressed <;> rfl

/-- A configuration means itself as it is written. -/
theorem meaning_document (config : Config) : meaning config.document = some config := by
  have mac : macSlot.meaning (.text (some config.mac.render)) = some config.mac := by
    rw [show macSlot.meaning = Mac.meaning from rfl, config.mac.meaning_render]
  have ip : ipSlot.meaning (.text (some config.ip.render)) = some config.ip := by
    rw [show ipSlot.meaning = Ipv4.meaning from rfl, config.ip.meaning_render]
  have ports : portsSlot.meaning (.list [.number (.natural config.servicePorts.1.toNat),
      .number (.natural config.servicePorts.2.toNat)]) = some config.servicePorts :=
    Tree.pair?_eq_some_iff.mpr ⟨_, _, rfl, Tree.uint16?_number config.servicePorts.1,
      Tree.uint16?_number config.servicePorts.2⟩
  have suppressed : suppressedSlot.meaning (suppressedTree config.suppressed) =
      some config.suppressed := optional?_suppressedTree config.suppressed
  have draft : format.draft? slots config.document = some ⟨some config.mac, some config.ip,
      some config.servicePorts, some config.forwardNonLocal, some config.forwardBroadcast,
      some config.suppressed⟩ := by
    refine RecordFormat.absorbed_cons independent_slots
      (.fill macSlot (by simp [slots]) rfl mac) ?_
    refine RecordFormat.absorbed_cons independent_slots
      (.fill ipSlot (by simp [slots]) rfl ip) ?_
    refine RecordFormat.absorbed_cons independent_slots
      (.fill portsSlot (by simp [slots]) rfl ports) ?_
    refine RecordFormat.absorbed_cons independent_slots
      (.fill nonLocalSlot (by simp [slots]) rfl rfl) ?_
    refine RecordFormat.absorbed_cons independent_slots
      (.fill broadcastSlot (by simp [slots]) rfl rfl) ?_
    refine RecordFormat.absorbed_cons independent_slots
      (.fill suppressedSlot (by simp [slots]) rfl suppressed) ?_
    rfl
  rw [meaning, RecordFormat.meaning, draft]
  rfl

theorem ofDocument_toOption {text : String} {tree : Tree} (represents : Represents text tree) :
    (ofDocument text).toOption = meaning tree :=
  understands_format.document represents

theorem load_ok (text : String) :
    load (.ok text) = (ofDocument text).mapError Fault.document := rfl

/-- A configuration is read from any text that says what is written of it. -/
theorem ofDocument_of_represents {config : Config} {text : String}
    (represents : Represents text config.document) : ofDocument text = .ok config := by
  refine Except.toOption_eq_some_iff.mp ?_
  rw [ofDocument_toOption represents, meaning_document]

/--
A configuration is written to a document with all its parts, and it is read
from the document, in either form.  Its addresses are read from their texts.
-/
theorem written_document_describes (config : Config) :
    Represents config.toValue.render config.document ∧
      ofDocument config.toValue.render = .ok config ∧
      ofDocument config.toValue.renderIndented = .ok config ∧
      load (.ok config.toValue.render) = .ok config ∧
      Mac.parse? config.mac.render = some config.mac ∧
      Ipv4.parse? config.ip.render = some config.ip := by
  have written : Represents config.toValue.render config.document :=
    config.tree_toValue ▸ config.toValue.represents_render
  have indented : Represents config.toValue.renderIndented config.document :=
    config.tree_toValue ▸ config.toValue.represents_renderIndented
  have read := ofDocument_of_represents written
  have loaded : load (.ok config.toValue.render) = .ok config := by
    rw [load_ok, read]
    rfl
  exact ⟨written, read, ofDocument_of_represents indented, loaded, config.mac.parse?_render,
    config.ip.parse?_render⟩

end Config

end FrameRouter
