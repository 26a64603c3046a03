import Mathlib.Data.List.Forall2
import Mathlib.Data.List.Permutation
import SwitchAgent.Proofs.Protobuf.Fields
import SwitchAgent.Telemetry.Report

/-!
# Reports on the wire

A message is read back from its encoding, whatever order the entries of its maps are written in.
So no encoding belongs to two messages.
-/

namespace SwitchAgent.Telemetry

open Protobuf

namespace Metadata

variable {key : UInt32} {value : List UInt8} {entries : List (UInt32 × List UInt8)}

theorem insertSorted_perm (fresh : key ∉ entries.map Prod.fst) :
    (insertSorted key value entries).Perm ((key, value) :: entries) := by
  induction entries with
  | nil => exact List.Perm.refl _
  | cons head rest ih =>
    obtain ⟨k, v⟩ := head
    rw [List.map_cons, List.mem_cons, not_or] at fresh
    obtain ⟨other, fresh⟩ := fresh
    rw [insertSorted, if_neg (show key ≠ k from other)]
    split
    · exact List.Perm.refl _
    · exact ((ih fresh).cons (k, v)).trans (List.Perm.swap _ _ rest)

theorem nodup_keys (m : Metadata) : (m.entries.map Prod.fst).Nodup := by
  rw [List.Nodup, List.pairwise_map]
  exact m.sorted.imp fun {a b} less => UInt32.ne_of_lt less

/-- Entries with keys of their own are all kept. -/
theorem insertAll_perm (m : Metadata)
    (apart : ((m.entries ++ entries).map Prod.fst).Nodup) :
    (m.insertAll entries).entries.Perm (m.entries ++ entries) := by
  induction entries generalizing m with
  | nil => rw [List.append_nil]; exact List.Perm.refl _
  | cons entry rest ih =>
    have moved : (entry :: (m.entries ++ rest)).Perm (m.entries ++ entry :: rest) :=
      List.perm_middle.symm
    have fresh : entry.1 ∉ m.entries.map Prod.fst := by
      have apart' := (moved.map Prod.fst).nodup_iff.mpr apart
      rw [List.map_cons, List.nodup_cons, List.map_append, List.mem_append, not_or] at apart'
      exact apart'.1.1
    have put : (m.insert entry.1 entry.2).entries.Perm (entry :: m.entries) :=
      insertSorted_perm fresh
    have together := (put.append_right rest).trans moved
    exact (ih _ ((together.map Prod.fst).nodup_iff.mpr apart)).trans together

/-- Whatever order its entries come in, the map is the same. -/
theorem ofList_of_perm {m : Metadata} (perm : entries.Perm m.entries) : ofList entries = m := by
  have apart : ((empty.entries ++ entries).map Prod.fst).Nodup :=
    (perm.map Prod.fst).nodup_iff.mpr m.nodup_keys
  have same : (ofList entries).entries.Perm m.entries := (insertAll_perm empty apart).trans perm
  have equal : (ofList entries).entries = m.entries := by
    refine List.Perm.eq_of_pairwise ?_ (ofList entries).sorted m.sorted same
    intro a b _ _ less more
    exact absurd more (UInt32.lt_asymm less)
  obtain ⟨_, _⟩ := m
  revert equal
  generalize ofList entries = other
  rintro rfl
  rfl

end Metadata

theorem reads_word32 {α : Type} {merge : Merge α} {a b : α} {number : Nat} {word : UInt32}
    (valid : Key.Valid ⟨number, .varint⟩) (default : word = 0 → b = a)
    (taken : ∀ bytes rest, Varint.decode bytes = some (word.toNat, rest) →
      merge a ⟨number, .varint⟩ bytes = some (b, rest)) :
    Reads merge (varintField number word.toNat) a b := by
  have fits : word.toNat < 2 ^ 64 := Nat.lt_trans word.toNat_lt (by decide)
  exact Reads.varintField valid fits (fun zero => default (UInt32.toNat_inj.mp zero)) taken

theorem FlowKey.decode_encode (key : FlowKey) : decode key.encode = some key := by
  obtain ⟨flowId⟩ := key
  refine (reads_word32 ⟨by decide, by decide⟩ (congrArg FlowKey.mk) ?_).readMessage
  intro bytes rest read
  simp [merge, readVarint, read, word32]

namespace Node

/-- A message of a node. The entries of its map may stand in any order. -/
def IsEncoding (node : Node) (bytes : List UInt8) : Prop :=
  ∃ entries : List (UInt32 × List UInt8), entries.Perm node.metadata.entries ∧
    bytes = varintField 1 node.nodeId.toNat ++ varintField 2 node.asn.toNat ++
      entries.flatMap encodeEntry

theorem encode_isEncoding (node : Node) : node.IsEncoding node.encode :=
  ⟨node.metadata.entries, List.Perm.refl _, rfl⟩

/-- Neither a key of zero nor a value with no bytes is written, and both are read back. -/
theorem readMessage_entry (depth : Nat) {entry : UInt32 × List UInt8}
    (fits : entry.2.length < 2 ^ 64) :
    readMessage (mergeEntry depth) (0, [])
      (varintField 1 entry.1.toNat ++ bytesField 2 entry.2) = some entry := by
  obtain ⟨key, value⟩ := entry
  have keyRead : Reads (mergeEntry depth) (varintField 1 key.toNat) (0, []) (key, []) := by
    refine reads_word32 ⟨by decide, by decide⟩ (congrArg (·, [])) ?_
    intro bytes rest read
    simp [mergeEntry, readVarint, read, word32]
  have valueRead : Reads (mergeEntry depth) (bytesField 2 value) (key, []) (key, value) := by
    refine Reads.bytesField ⟨by decide, by decide⟩ fits (congrArg (key, ·)) ?_
    intro bytes rest read
    simp [mergeEntry, readBytes, read]
  exact (keyRead.append valueRead).readMessage

theorem reads_entry (depth : Nat) (node : Node) {entry : UInt32 × List UInt8}
    (fits : (encodeEntry entry).length < 2 ^ 64) :
    Reads (merge depth) (encodeEntry entry) node
      { node with metadata := node.metadata.insert entry.1 entry.2 } := by
  have inner := length_le_delimitedField 3 (varintField 1 entry.1.toNat ++ bytesField 2 entry.2)
  have value := length_le_bytesField 2 entry.2
  have entryFits : entry.2.length < 2 ^ 64 := by
    rw [List.length_append] at inner
    rw [encodeEntry] at fits
    omega
  refine Reads.delimitedField ⟨by decide, by decide⟩ (Nat.lt_of_le_of_lt inner fits) ?_
  intro bytes rest read
  simp [merge, read, readMessage_entry (depth - 1) entryFits]

theorem foldl_insert (entries : List (UInt32 × List UInt8)) (node : Node) :
    entries.foldl (fun node entry =>
      { node with metadata := node.metadata.insert entry.1 entry.2 }) node =
    { node with metadata := node.metadata.insertAll entries } := by
  induction entries generalizing node with
  | nil => rfl
  | cons entry rest ih => exact ih _

theorem decodeWithin_of_isEncoding (depth : Nat) {node : Node} {bytes : List UInt8}
    (written : node.IsEncoding bytes) (fits : bytes.length < 2 ^ 64) :
    decodeWithin depth bytes = some node := by
  obtain ⟨entries, perm, rfl⟩ := written
  rw [List.length_append] at fits
  have idRead : Reads (merge depth) (varintField 1 node.nodeId.toNat) empty
      { empty with nodeId := node.nodeId } := by
    refine reads_word32 ⟨by decide, by decide⟩ ?_ ?_
    · intro zero
      rw [zero]
      rfl
    · intro bytes rest read
      simp [merge, readVarint, read, word32]
  have asnRead : Reads (merge depth) (varintField 2 node.asn.toNat)
      { empty with nodeId := node.nodeId }
      { empty with nodeId := node.nodeId, asn := node.asn } := by
    refine Reads.varintField ⟨by decide, by decide⟩ node.asn.toNat_lt ?_ ?_
    · intro zero
      have same : node.asn = 0 := UInt64.toNat_inj.mp zero
      rw [same]
      rfl
    · intro bytes rest read
      simp [merge, readVarint, read]
  have entriesFit : ∀ entry ∈ entries, (encodeEntry entry).length < 2 ^ 64 := by
    intro entry among
    have inner := length_le_flatMap encodeEntry among
    omega
  have entriesRead := Reads.flatMap entries
    (fun entry among node => reads_entry depth node (entriesFit entry among))
    { empty with nodeId := node.nodeId, asn := node.asn }
  have whole := ((idRead.append asnRead).append entriesRead).readMessage
  rw [foldl_insert] at whole
  have map : empty.metadata.insertAll entries = node.metadata := Metadata.ofList_of_perm perm
  rw [decodeWithin, whole]
  dsimp only
  rw [map]

end Node

namespace Report

/-- A message of a report. The entries of the maps in its nodes may stand in any order. -/
def IsEncoding (report : Report) (bytes : List UInt8) : Prop :=
  ∃ contents : List (List UInt8), List.Forall₂ Node.IsEncoding report.hops contents ∧
    bytes = varintField 1 report.packetType.toInt64.toUInt64.toNat ++
      bytesField 2 report.truncatedPacket ++ contents.flatMap (delimitedField 3)

theorem encoded_hops (hops : List Node) :
    List.Forall₂ Node.IsEncoding hops (hops.map Node.encode) := by
  rw [List.forall₂_map_right_iff, List.forall₂_same]
  exact fun node _ => node.encode_isEncoding

theorem encode_eq (report : Report) :
    report.encode = varintField 1 report.packetType.toInt64.toUInt64.toNat ++
      bytesField 2 report.truncatedPacket ++
        (report.hops.map Node.encode).flatMap (delimitedField 3) := by
  rw [List.flatMap_map]
  rfl

theorem encode_isEncoding (report : Report) : report.IsEncoding report.encode :=
  ⟨_, encoded_hops report.hops, report.encode_eq⟩

/-- A type is read back from the 64 bits to which its sign was extended. -/
theorem packetType_read (type : Int32) :
    (word32 type.toInt64.toUInt64.toNat).toInt32 = type := by
  apply Int32.toBitVec_inj.mp
  apply BitVec.eq_of_getLsbD_eq
  intro i inside
  simp [word32, BitVec.getLsbD_signExtend, inside]
  omega

theorem reads_hops {hops : List Node} {contents : List (List UInt8)}
    (written : List.Forall₂ Node.IsEncoding hops contents)
    (fits : ∀ content ∈ contents, content.length < 2 ^ 64) (report : Report) :
    Reads merge (contents.flatMap (delimitedField 3)) report
      { report with hops := report.hops ++ hops } := by
  induction written generalizing report with
  | nil =>
    rw [List.append_nil]
    exact Reads.nothing
  | @cons node content hops contents here _ ih =>
    have small := fits content List.mem_cons_self
    have first : Reads merge (delimitedField 3 content) report
        { report with hops := report.hops ++ [node] } := by
      refine Reads.delimitedField ⟨by decide, by decide⟩ small ?_
      intro bytes rest read
      simp [merge, readBytes, read, Node.decodeWithin_of_isEncoding (nesting - 1) here small]
    have later := ih (fun other member => fits other (List.mem_cons_of_mem content member))
      { report with hops := report.hops ++ [node] }
    rw [List.append_assoc] at later
    exact first.append later

theorem decode_of_hops {report : Report} {contents : List (List UInt8)}
    (written : List.Forall₂ Node.IsEncoding report.hops contents)
    (packetFits : report.truncatedPacket.length < 2 ^ 64)
    (fits : ∀ content ∈ contents, content.length < 2 ^ 64) :
    decode (varintField 1 report.packetType.toInt64.toUInt64.toNat ++
      bytesField 2 report.truncatedPacket ++ contents.flatMap (delimitedField 3)) =
        some report := by
  have typeRead : Reads merge (varintField 1 report.packetType.toInt64.toUInt64.toNat)
      ⟨0, [], []⟩ ⟨report.packetType, [], []⟩ := by
    have same := packetType_read report.packetType
    refine Reads.varintField ⟨by decide, by decide⟩ (UInt64.toNat_lt _) ?_ ?_
    · intro zero
      rw [zero] at same
      rw [← same]
      rfl
    · intro bytes rest read
      simp [merge, readVarint, read, same]
  have packetRead : Reads merge (bytesField 2 report.truncatedPacket)
      ⟨report.packetType, [], []⟩ ⟨report.packetType, report.truncatedPacket, []⟩ := by
    refine Reads.bytesField ⟨by decide, by decide⟩ packetFits ?_ ?_
    · intro empty
      rw [empty]
    · intro bytes rest read
      simp [merge, readBytes, read]
  exact ((typeRead.append packetRead).append (reads_hops written fits _)).readMessage

/-- The whole needs no bound where its parts have theirs. -/
theorem decode_encode {report : Report} (packetFits : report.truncatedPacket.length < 2 ^ 64)
    (nodesFit : ∀ node ∈ report.hops, node.encode.length < 2 ^ 64) :
    decode report.encode = some report := by
  rw [report.encode_eq]
  exact decode_of_hops (encoded_hops report.hops) packetFits (List.forall_mem_map.mpr nodesFit)

theorem decode_of_isEncoding {report : Report} {bytes : List UInt8}
    (written : report.IsEncoding bytes) (fits : bytes.length < 2 ^ 64) :
    decode bytes = some report := by
  obtain ⟨contents, hops, rfl⟩ := written
  rw [List.length_append, List.length_append] at fits
  have packet := length_le_bytesField 2 report.truncatedPacket
  refine decode_of_hops hops (by omega) ?_
  intro content among
  have inner := length_le_delimitedField 3 content
  have outer := length_le_flatMap (delimitedField 3) among
  omega

/-- Keys, nodes and reports are read back from every encoding of theirs, so that no encoding belongs
to two messages. Only its length has to fit in 64 bits. -/
theorem messages_read_back_from_any_encoding :
    (∀ key : FlowKey, FlowKey.decode key.encode = some key ∧
      ∀ other : FlowKey, other.encode = key.encode → other = key) ∧
    (∀ (node : Node) bytes, node.IsEncoding bytes → bytes.length < 2 ^ 64 →
      Node.decode bytes = some node ∧ ∀ other : Node, other.IsEncoding bytes → other = node) ∧
    (∀ (report : Report) bytes, report.IsEncoding bytes → bytes.length < 2 ^ 64 →
      decode bytes = some report ∧ ∀ other : Report, other.IsEncoding bytes → other = report) ∧
    (∀ node : Node, node.IsEncoding node.encode) ∧
    ∀ report : Report, report.IsEncoding report.encode := by
  refine ⟨?_, ?_, ?_, Node.encode_isEncoding, encode_isEncoding⟩
  · intro key
    have read := key.decode_encode
    refine ⟨read, fun other same => ?_⟩
    rw [← same, other.decode_encode] at read
    exact Option.some.inj read
  · intro node bytes written fits
    have read := Node.decodeWithin_of_isEncoding nesting written fits
    refine ⟨read, fun other written' => ?_⟩
    have read' := Node.decodeWithin_of_isEncoding nesting written' fits
    exact Option.some.inj (read'.symm.trans read)
  · intro report bytes written fits
    have read := decode_of_isEncoding written fits
    refine ⟨read, fun other written' => ?_⟩
    exact Option.some.inj ((decode_of_isEncoding written' fits).symm.trans read)

/-- A report of unknown type on two nodes, the first with a key of zero and no bytes for it. -/
def sparseReport : Report :=
  ⟨-1, [], [⟨0, 0, .ofList [(0, []), (5, [1])]⟩, Node.empty]⟩

/-- The entry with the higher key comes first. -/
def sparseBytes : List UInt8 :=
  [0x08, 0xff, 0xff, 0xff, 0xff, 0xff, 0xff, 0xff, 0xff, 0xff, 0x01, 0x1a, 0x09, 0x1a, 0x05, 0x08,
    0x05, 0x12, 0x01, 0x01, 0x1a, 0x00, 0x1a, 0x00]

theorem sparse_report_read_back_out_of_order :
    sparseReport.IsEncoding sparseBytes ∧ sparseBytes.length < 2 ^ 64 ∧
    decode sparseBytes = some sparseReport := by
  have written : sparseReport.IsEncoding sparseBytes := by
    refine ⟨[[0x1a, 0x05, 0x08, 0x05, 0x12, 0x01, 0x01, 0x1a, 0x00], []], ?_, by cbv⟩
    refine .cons ⟨[(5, [1]), (0, [])], List.Perm.swap _ _ _, by cbv⟩ (.cons ?_ .nil)
    exact ⟨[], List.Perm.refl _, by cbv⟩
  have fits : sparseBytes.length < 2 ^ 64 := by decide
  obtain ⟨-, -, reports, -⟩ := messages_read_back_from_any_encoding
  exact ⟨written, fits, (reports sparseReport sparseBytes written fits).1⟩

end Report

end SwitchAgent.Telemetry
