import Mathlib.Data.List.Nodup
import SwitchAgent.Proofs.Bytes.Codec
import SwitchAgent.Proofs.Telemetry.Reporting

/-!
# Nodes of a report

The metadata of a node as they are documented: what stands under which key, and on how many bytes.
Every field of the hop that is present is found there and can be read back, and nothing else is
there. So nodes differ wherever their hops do, but for a node or an AS that is absent or zero.
-/

namespace SwitchAgent.Telemetry

open Bytes

/-- A line of the key to the metadata of a node: a number, the word that stands under it, and what a
hop has recorded of it. -/
structure Legend where
  key : UInt32
  word : Word
  recorded : Hop → Option Nat

namespace Legend

def all : List Legend :=
  [⟨1, .u32, fun hop => hop.l1Interface.map UInt32.toNat⟩,
    ⟨2, .u32, fun hop => hop.hopLatency.map UInt32.toNat⟩,
    ⟨3, .u32, fun hop => hop.queueOccupancy.map UInt32.toNat⟩,
    ⟨4, .u64, fun hop => hop.ingressTimestamp.map UInt64.toNat⟩,
    ⟨5, .u64, fun hop => hop.egressTimestamp.map UInt64.toNat⟩,
    ⟨6, .u64, fun hop => hop.l2Interface.map UInt64.toNat⟩,
    ⟨7, .u32, fun hop => hop.egressUtilization.map UInt32.toNat⟩,
    ⟨8, .u32, fun hop => hop.bufferOccupancy.map UInt32.toNat⟩]

/-- Bytes that are a number in a word of their own: as many as the word has, the most significant
first, from which the number is read back. -/
structure Holds (line : Legend) (n : Nat) (bytes : List UInt8) : Prop where
  length : bytes.length = line.word.bytes
  written : line.word.encode line.word.bytes n = some bytes
  digits : value bytes = n
  read : line.word.decode line.word.bytes bytes = some n

/-- A line of the key is about a field that has this key and this width. -/
structure About (line : Legend) (f : Hop.Field) : Prop where
  key : f.metadataKey? = some line.key
  width : f.width = line.word.bytes
  recorded : ∀ hop : Hop, hop.get f = line.recorded hop

theorem exists_field {line : Legend} (listed : line ∈ all) : ∃ f, line.About f := by
  simp only [all, List.mem_cons, List.not_mem_nil, or_false] at listed
  rcases listed with rfl | rfl | rfl | rfl | rfl | rfl | rfl | rfl
  · exact ⟨.l1Interface, rfl, rfl, fun _ => rfl⟩
  · exact ⟨.hopLatency, rfl, rfl, fun _ => rfl⟩
  · exact ⟨.queueOccupancy, rfl, rfl, fun _ => rfl⟩
  · exact ⟨.ingressTimestamp, rfl, rfl, fun _ => rfl⟩
  · exact ⟨.egressTimestamp, rfl, rfl, fun _ => rfl⟩
  · exact ⟨.l2Interface, rfl, rfl, fun _ => rfl⟩
  · exact ⟨.egressUtilization, rfl, rfl, fun _ => rfl⟩
  · exact ⟨.bufferOccupancy, rfl, rfl, fun _ => rfl⟩

theorem keys_nodup : (all.map key).Nodup := by
  decide

theorem eq_of_metadataKey {f g : Hop.Field} {key : UInt32} (keyed : f.metadataKey? = some key)
    (keyed' : g.metadataKey? = some key) : f = g := by
  cases f <;> cases keyed <;> cases g <;> first | rfl | cases keyed'

theorem exists_line {f : Hop.Field} {key : UInt32} (keyed : f.metadataKey? = some key) :
    ∃ line ∈ all, line.key = key ∧ line.About f := by
  have listed : key ∈ all.map Legend.key := by
    cases f <;> cases keyed <;> decide
  obtain ⟨line, among, rfl⟩ := List.mem_map.mp listed
  obtain ⟨g, about⟩ := exists_field among
  obtain rfl := eq_of_metadataKey about.key keyed
  exact ⟨line, among, rfl, about⟩

theorem eq_of_key {line other : Legend} (listed : line ∈ all) (listed' : other ∈ all)
    (same : line.key = other.key) : line = other :=
  List.inj_on_of_nodup_map keys_nodup listed listed' same

theorem holds_encode {line : Legend} {f : Hop.Field} {hop : Hop} {n : Nat} (about : line.About f)
    (has : line.recorded hop = some n) : line.Holds n (Bitstring.encode f.width n) := by
  have fits : n < 256 ^ f.width := Hop.get_lt ((about.recorded hop).trans has)
  rw [about.width] at fits ⊢
  constructor
  · exact Bitstring.length_encode _ _
  · rw [Word.encode, if_pos (Nat.le_refl _)]
  · rw [value_encode, Nat.mod_eq_of_lt fits]
  · rw [Word.decode, if_pos (Nat.le_refl _), Bitstring.decode_encode_mod, Nat.mod_eq_of_lt fits]

theorem Holds.eq_number {line : Legend} {m n : Nat} {bytes : List UInt8} (one : line.Holds m bytes)
    (other : line.Holds n bytes) : m = n :=
  one.digits.symm.trans other.digits

theorem Holds.eq_bytes {line : Legend} {n : Nat} {bytes bytes' : List UInt8}
    (one : line.Holds n bytes) (other : line.Holds n bytes') : bytes = bytes' :=
  Option.some.inj (one.written.symm.trans other.written)

end Legend

namespace Hop

theorem metadataEntry?_eq_some_iff {hop : Hop} {f : Field} {key : UInt32} {bytes : List UInt8} :
    hop.metadataEntry? f = some (key, bytes) ↔
      f.metadataKey? = some key ∧ ∃ n, hop.get f = some n ∧ bytes = Bitstring.encode f.width n := by
  cases keyed : f.metadataKey? <;> cases has : hop.get f <;>
    simp [keyed, has, metadataEntry?, eq_comm]

theorem mem_metadata_iff {hop : Hop} {key : UInt32} {bytes : List UInt8} :
    (key, bytes) ∈ hop.toNode.metadata.entries ↔
      ∃ line ∈ Legend.all, line.key = key ∧ ∃ n, line.recorded hop = some n ∧
        line.Holds n bytes := by
  rw [hop.metadata_perm.mem_iff, List.mem_filterMap]
  constructor
  · rintro ⟨f, -, made⟩
    obtain ⟨keyed, n, has, rfl⟩ := metadataEntry?_eq_some_iff.mp made
    obtain ⟨line, listed, same, about⟩ := Legend.exists_line keyed
    have recorded : line.recorded hop = some n := (about.recorded hop).symm.trans has
    exact ⟨line, listed, same, n, recorded, Legend.holds_encode about recorded⟩
  · rintro ⟨line, listed, rfl, n, recorded, holds⟩
    obtain ⟨f, about⟩ := Legend.exists_field listed
    have every : f ∈ Field.all := by cases f <;> decide
    have same := holds.eq_bytes (Legend.holds_encode about recorded)
    have has : hop.get f = some n := (about.recorded hop).trans recorded
    exact ⟨f, every, metadataEntry?_eq_some_iff.mpr ⟨about.key, n, has, same⟩⟩

/-- What a hop has recorded can be read off its node. -/
theorem recorded_eq_some_iff {hop : Hop} {line : Legend} (listed : line ∈ Legend.all) {n : Nat} :
    line.recorded hop = some n ↔
      ∃ bytes, (line.key, bytes) ∈ hop.toNode.metadata.entries ∧ line.Holds n bytes := by
  constructor
  · intro recorded
    obtain ⟨f, about⟩ := Legend.exists_field listed
    have holds := Legend.holds_encode about recorded
    exact ⟨_, mem_metadata_iff.mpr ⟨line, listed, rfl, n, recorded, holds⟩, holds⟩
  · rintro ⟨bytes, among, holds⟩
    obtain ⟨other, listed', same, m, recorded, holds'⟩ := mem_metadata_iff.mp among
    obtain rfl := Legend.eq_of_key listed' listed same
    rwa [holds.eq_number holds']

/-- Two hops that say the same of a packet, where an absent node or AS says as much as zero. -/
structure SaysSame (one other : Hop) : Prop where
  l1Interface : one.l1Interface = other.l1Interface
  hopLatency : one.hopLatency = other.hopLatency
  queueOccupancy : one.queueOccupancy = other.queueOccupancy
  ingressTimestamp : one.ingressTimestamp = other.ingressTimestamp
  egressTimestamp : one.egressTimestamp = other.egressTimestamp
  l2Interface : one.l2Interface = other.l2Interface
  egressUtilization : one.egressUtilization = other.egressUtilization
  bufferOccupancy : one.bufferOccupancy = other.bufferOccupancy
  nodeId : one.nodeId.getD 0 = other.nodeId.getD 0
  asn : one.asn.getD 0 = other.asn.getD 0

theorem recorded_eq_of_toNode_eq {one other : Hop} (same : one.toNode = other.toNode)
    {line : Legend} (listed : line ∈ Legend.all) : line.recorded one = line.recorded other := by
  apply Option.ext
  intro n
  rw [recorded_eq_some_iff listed, recorded_eq_some_iff listed, same]

theorem saysSame_of_toNode_eq {one other : Hop} (same : one.toNode = other.toNode) :
    SaysSame one other := by
  have each : ∀ line ∈ Legend.all, line.recorded one = line.recorded other :=
    fun _ listed => recorded_eq_of_toNode_eq same listed
  have each := List.forall_mem_iff_forall_getElem.mp each
  exact
    { l1Interface := eq_of_map_toNat32 (each 0 (by decide))
      hopLatency := eq_of_map_toNat32 (each 1 (by decide))
      queueOccupancy := eq_of_map_toNat32 (each 2 (by decide))
      ingressTimestamp := eq_of_map_toNat64 (each 3 (by decide))
      egressTimestamp := eq_of_map_toNat64 (each 4 (by decide))
      l2Interface := eq_of_map_toNat64 (each 5 (by decide))
      egressUtilization := eq_of_map_toNat32 (each 6 (by decide))
      bufferOccupancy := eq_of_map_toNat32 (each 7 (by decide))
      nodeId := congrArg Node.nodeId same
      asn := congrArg Node.asn same }

theorem toNode_eq_of_saysSame {one other : Hop} (same : SaysSame one other) :
    one.toNode = other.toNode := by
  have entries (f : Field) : one.metadataEntry? f = other.metadataEntry? f := by
    cases f <;> simp [get, metadataEntry?, Field.metadataKey?, same.l1Interface, same.hopLatency,
      same.queueOccupancy, same.ingressTimestamp, same.egressTimestamp, same.l2Interface,
      same.egressUtilization, same.bufferOccupancy]
  simp only [toNode, same.nodeId, same.asn, funext entries]

/-- Under a documented key stands the field of that key if it is present, in a word of its own, and
under no other key stands anything; the node and the AS stand in places of their own, an absent one
as zero. So hops become one node if and only if they say the same. -/
theorem node_tells_hop_but_absent_from_zero :
    (∀ hop : Hop,
      (∀ key bytes, (key, bytes) ∈ hop.toNode.metadata.entries ↔
        ∃ line ∈ Legend.all, line.key = key ∧ ∃ n, line.recorded hop = some n ∧
          line.Holds n bytes) ∧
      (∀ line ∈ Legend.all, ∀ n, line.recorded hop = some n ↔
        ∃ bytes, (line.key, bytes) ∈ hop.toNode.metadata.entries ∧ line.Holds n bytes) ∧
      (hop.toNode.metadata.entries.map Prod.fst).Nodup ∧
      hop.toNode.nodeId = hop.nodeId.getD 0 ∧ hop.toNode.asn = hop.asn.getD 0) ∧
    ∀ one other : Hop, one.toNode = other.toNode ↔ SaysSame one other := by
  constructor
  · intro hop
    refine ⟨fun _ _ => mem_metadata_iff, ?_, hop.toNode.metadata.nodup_keys, rfl, rfl⟩
    intro line listed n
    exact recorded_eq_some_iff listed
  · intro one other
    exact ⟨saysSame_of_toNode_eq, toNode_eq_of_saysSame⟩

/-- It has the first and the widest of the fields, and node and AS are zero. -/
def sparseHop : Hop where
  nodeId := some 0
  l1Interface := some 0x102
  l2Interface := some 0x1020304050607
  asn := some 0

theorem sparse_hop_read_off_its_node :
    (∃ bytes, (1, bytes) ∈ sparseHop.toNode.metadata.entries ∧ value bytes = 0x102) ∧
    (∃ bytes, (6, bytes) ∈ sparseHop.toNode.metadata.entries ∧ value bytes = 0x1020304050607) ∧
    (¬ ∃ bytes, (2, bytes) ∈ sparseHop.toNode.metadata.entries ∧ value bytes = 0) ∧
    sparseHop.toNode = { sparseHop with nodeId := none, asn := none : Hop }.toNode ∧
    sparseHop.toNode ≠ { sparseHop with hopLatency := some 0 : Hop }.toNode := by
  obtain ⟨tells, same⟩ := node_tells_hop_but_absent_from_zero
  obtain ⟨entries, lines, -⟩ := tells sparseHop
  have l1 : ⟨1, .u32, fun hop => hop.l1Interface.map UInt32.toNat⟩ ∈ Legend.all :=
    List.mem_of_getElem? (i := 0) rfl
  have l2 : ⟨6, .u64, fun hop => hop.l2Interface.map UInt64.toNat⟩ ∈ Legend.all :=
    List.mem_of_getElem? (i := 5) rfl
  have latency : ⟨2, .u32, fun hop => hop.hopLatency.map UInt32.toNat⟩ ∈ Legend.all :=
    List.mem_of_getElem? (i := 1) rfl
  refine ⟨?_, ?_, ?_, ?_, ?_⟩
  · obtain ⟨bytes, among, holds⟩ := (lines _ l1 0x102).mp rfl
    exact ⟨bytes, among, holds.digits⟩
  · obtain ⟨bytes, among, holds⟩ := (lines _ l2 0x1020304050607).mp rfl
    exact ⟨bytes, among, holds.digits⟩
  · rintro ⟨bytes, among, -⟩
    obtain ⟨line, listed, key, n, recorded, -⟩ := (entries 2 bytes).mp among
    obtain rfl := Legend.eq_of_key listed latency key
    cases recorded
  · exact (same _ _).mpr ⟨rfl, rfl, rfl, rfl, rfl, rfl, rfl, rfl, rfl, rfl⟩
  · intro equal
    exact nomatch ((same _ _).mp equal).hopLatency

end Hop

end SwitchAgent.Telemetry
