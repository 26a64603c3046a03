import SwitchAgent.Control.Script
import SwitchAgent.Proofs.Telemetry.Messages
import SwitchAgent.Proofs.Telemetry.Records
import SwitchAgent.Proofs.Telemetry.Streaming
import SwitchAgent.Telemetry.Controller

/-!
# From packets to reports

What becomes of a packet in the telemetry controller. One that can be decoded is published once and
sent down the stream of reports, published or not; those who read the report find in it what stands
in the packet. Any other packet is left to the controllers further down.
-/

namespace SwitchAgent.Telemetry

open Bytes Device Protobuf

namespace Hop

theorem keys_sublist (hop : Hop) (fields : List Field) :
    ((fields.filterMap hop.metadataEntry?).map Prod.fst).Sublist
      (fields.filterMap Field.metadataKey?) := by
  induction fields with
  | nil => exact List.Sublist.refl _
  | cons f fields ih =>
    cases key : f.metadataKey? with
    | none => simpa [key, metadataEntry?] using ih
    | some k =>
      cases has : hop.get f with
      | none => simpa [key, has, metadataEntry?] using ih.cons k
      | some n => simpa [key, has, metadataEntry?] using ih.cons_cons k

/-- Every field that is present has its own entry in the node. -/
theorem metadata_perm (hop : Hop) :
    hop.toNode.metadata.entries.Perm (Field.all.filterMap hop.metadataEntry?) := by
  have keys : (Field.all.filterMap Field.metadataKey?).Nodup := by decide
  exact Metadata.insertAll_perm .empty ((hop.keys_sublist Field.all).nodup keys)

/-- A field takes eight bytes at most, so its entry is short. -/
theorem length_encodeEntry_le {hop : Hop} {f : Field} {entry : UInt32 × List UInt8}
    (made : hop.metadataEntry? f = some entry) : (Node.encodeEntry entry).length ≤ 100 := by
  have short : entry.2.length ≤ 8 := by
    cases key : f.metadataKey? <;> cases has : hop.get f <;>
      simp only [key, has, metadataEntry?, Option.bind_eq_bind, Option.bind_some, Option.bind_none,
        Option.pure_def, reduceCtorEq, Option.some.injEq] at made
    rw [← made, Bitstring.length_encode]
    exact f.width_le
  have keyFits : entry.1.toNat < 2 ^ 64 := Nat.lt_trans entry.1.toNat_lt (by decide)
  have key := length_varintField_le 1 ⟨by decide, by decide⟩ keyFits
  have value := length_bytesField_le 2 entry.2 ⟨by decide, by decide⟩
    (by omega)
  have content : (varintField 1 entry.1.toNat ++ bytesField 2 entry.2).length ≤ 48 := by
    rw [List.length_append]
    omega
  have whole := length_delimitedField_le 3 _ ⟨by decide, by decide⟩
    (Nat.lt_of_le_of_lt content (by decide))
  rw [Node.encodeEntry]
  omega

theorem length_encode_toNode_le (hop : Hop) : hop.toNode.encode.length ≤ 2000 := by
  have idFits : hop.toNode.nodeId.toNat < 2 ^ 64 :=
    Nat.lt_trans hop.toNode.nodeId.toNat_lt (by decide)
  have id := length_varintField_le 1 ⟨by decide, by decide⟩ idFits
  have asn := length_varintField_le 2 ⟨by decide, by decide⟩ hop.toNode.asn.toNat_lt
  have count : hop.toNode.metadata.entries.length ≤ 10 := by
    rw [hop.metadata_perm.length_eq]
    exact List.length_filterMap_le _ _
  have short : ∀ entry ∈ hop.toNode.metadata.entries, (Node.encodeEntry entry).length ≤ 100 := by
    intro entry among
    obtain ⟨f, -, made⟩ := List.mem_filterMap.mp (hop.metadata_perm.mem_iff.mp among)
    exact length_encodeEntry_le made
  have entries := length_flatMap_le hop.toNode.metadata.entries short
  rw [Node.encode, List.length_append, List.length_append]
  omega

end Hop

namespace Packet

/-- The report of a decoded packet is read back: its headers have a length of 64 bits, and its nodes
are short. -/
theorem ReadFrom.decode_report {payload : List UInt8} {packet : Packet}
    (read : packet.ReadFrom payload) :
    Report.decode packet.toReport.encode = some packet.toReport := by
  have headersFit : packet.toReport.truncatedPacket.length < 2 ^ 64 := by
    have bounded : Framing.headers payload < 2 ^ 64 := numberAt_lt payload 8 0
    have headers : packet.toReport.truncatedPacket =
        (payload.drop 8).take (Framing.headers payload) := read.headers
    rw [headers, List.length_take]
    omega
  refine Report.decode_encode headersFit ?_
  intro node among
  obtain ⟨hop, -, rfl⟩ := List.mem_map.mp among
  exact Nat.lt_of_le_of_lt hop.length_encode_toNode_le (by decide)

/-- What those find who read a report and its key: the flow, the headers, and every hop as a node,
all of them as they stand in the payload. -/
structure Tells (packet : Packet) (payload key report : List UInt8) : Prop where
  flow : ∃ flow, FlowKey.decode key = some flow ∧
    flow.flowId.toNat = numberAt payload 4 8 % 2 ^ 20
  report : Report.decode report = some
    ⟨PacketType.scion.code, (payload.drop 8).take (Framing.headers payload),
      packet.hops.map Hop.toNode⟩

theorem ReadFrom.tells {payload : List UInt8} {packet : Packet}
    (read : packet.ReadFrom payload) :
    packet.Tells payload packet.flowKey.encode packet.toReport.encode := by
  constructor
  · refine ⟨packet.flowKey, FlowKey.decode_encode _, ?_⟩
    rw [← read.flowId]
    exact UInt32.toNat_mod packet.flowId 0x100000
  · rw [read.decode_report, toReport, read.headers]

end Packet

namespace Controller

variable {P C : Type} [Publisher P] [Control.Channel C]

theorem handle_refused {content : PacketIn} {fault : Fault}
    (refused : Packet.decode content.payload = .error fault) (t : Controller P) (channel : C) :
    (Control.Controller.handle t (.packet content) channel).value = (t, .ok false) ∧
    (Control.Controller.handle t (.packet content) channel).state = channel := by
  simp [Control.Controller.handle, refused, Action.warn]

theorem handle_decoded {content : PacketIn} {packet : Packet}
    (decoded : Packet.decode content.payload = .ok packet) (t : Controller P) (channel : C) :
    (Control.Controller.handle t (.packet content) channel).value =
      ({ t with
          publisher := (Publisher.publish (packet.topic t.nodeId) packet.flowKey.encode
            packet.toReport.encode t.publisher).state
          stream := (FrameStream.send packet.toReport.encode t.stream).state }, .ok true) ∧
    (Control.Controller.handle t (.packet content) channel).state = channel := by
  cases result : (Publisher.publish (packet.topic t.nodeId) packet.flowKey.encode
      packet.toReport.encode t.publisher).value <;>
    simp [Control.Controller.handle, decoded, report, result, Action.debug, Action.warn]

/-- A packet that can be decoded is published once, and the stream gets the same bytes, published or
not; any other packet is passed on and nothing changes. No packet fails, and none makes the
controller use the channel. -/
theorem decodable_packet_makes_one_report (t : Controller P) (content : PacketIn) (channel : C) :
    let handled := Control.Controller.handle t (.packet content) channel
    let left := handled.value.1
    handled.state = channel ∧
    (left.host = t.host ∧ left.nodeId = t.nodeId ∧ left.rules = t.rules ∧
      left.profile = t.profile ∧ left.counterId = t.counterId) ∧
    (∃ taken, handled.value.2 = .ok taken) ∧
    (∀ fault, Packet.decode content.payload = .error fault →
      handled.value.2 = .ok false ∧ left.publisher = t.publisher ∧ left.stream = t.stream) ∧
    ∀ packet, Packet.decode content.payload = .ok packet →
      handled.value.2 = .ok true ∧
      let key := packet.flowKey.encode
      let report := packet.toReport.encode
      packet.Tells content.payload key report ∧
      left.publisher =
        (Publisher.publish (packet.topic t.nodeId) key report t.publisher).state ∧
      left.stream = (FrameStream.send report t.stream).state ∧
      (t.stream.active = false → left.stream = t.stream) ∧
      (t.stream.active = true → FrameStream.Fits report →
        t.stream.link.refuses t.stream.link.count = false →
        left.stream.link.delivered = t.stream.link.delivered ++ FrameStream.frame report) := by
  intro handled left
  cases result : Packet.decode content.payload with
  | error fault =>
    obtain ⟨value, state⟩ := handle_refused result t channel
    have same : left = t := congrArg Prod.fst value
    have passed : handled.value.2 = .ok false := congrArg Prod.snd value
    rw [same]
    exact ⟨state, ⟨rfl, rfl, rfl, rfl, rfl⟩, ⟨false, passed⟩, fun _ _ => ⟨passed, rfl, rfl⟩, nofun⟩
  | ok packet =>
    obtain ⟨value, state⟩ := handle_decoded result t channel
    have same := congrArg Prod.fst value
    have taken : handled.value.2 = .ok true := congrArg Prod.snd value
    change left = _ at same
    rw [same]
    refine ⟨state, ⟨rfl, rfl, rfl, rfl, rfl⟩, ⟨true, taken⟩, nofun, ?_⟩
    rintro _ ⟨rfl⟩
    refine ⟨taken, (Packet.decode_readFrom result).tells, rfl, rfl, ?_, ?_⟩
    · intro silent
      exact FrameStream.send_silent silent _
    · intro active fits accepted
      rw [FrameStream.send_accepted active fits accepted, FrameStream.delivered_past]
      simp

end Controller

/-- A publisher that keeps what it is given, and fails. -/
structure RefusingPublisher where
  given : List Publication := []

instance : Publisher RefusingPublisher where
  publish topic key report := do
    Action.modify fun p => { p with given := p.given ++ [⟨topic, key, report⟩] }
    return .error (.stated .transport "no broker")

/-- Its flow id has a bit above the twentieth, and its only hop says no more than its node. -/
def onePacket : PacketIn where
  payload := [0, 0, 0, 0, 0, 0, 0, 20, 0, 0x10, 0, 5, 0, 4, 0, 0, 0, 0, 1, 0, 0x80, 0, 0, 0, 0, 0,
    0, 0, 0, 0, 0, 7]
  metadata := []

def refusedController : Controller RefusingPublisher :=
  ⟨7, ⟨1, 1⟩, 3, [], {}, {}, .ofLink {}⟩

def idleScript : Control.Script where
  deviceId := 1
  electionId := 10

theorem refused_report_goes_down_the_stream :
    let handled := Control.Controller.handle refusedController (.packet onePacket) idleScript
    let empty := Control.Controller.handle refusedController (.packet ⟨[], []⟩) idleScript
    handled.value.2 = .ok true ∧
    (∃ key report, FlowKey.decode key = some ⟨5⟩ ∧
      handled.value.1.publisher.given = [⟨"AS0_0_0-3", key, report⟩] ∧
      handled.value.1.stream.link.delivered = [28, 0, 0, 0] ++ report) ∧
    empty.value.2 = .ok false ∧ empty.value.1.publisher.given = [] := by
  intro handled empty
  have decoded : Packet.decode onePacket.payload = .ok
      ⟨0x00100005, 0x8000000000000000, 0x8000, 0, (onePacket.payload.drop 8).take 20,
        [{ nodeId := some 7 }]⟩ := by rfl
  have refused : Packet.decode [] = .error (.noHeaderLength 0) := by rfl
  obtain ⟨-, -, -, -, taken⟩ :=
    Controller.decodable_packet_makes_one_report refusedController onePacket idleScript
  obtain ⟨-, -, -, passed, -⟩ :=
    Controller.decodable_packet_makes_one_report refusedController ⟨[], []⟩ idleScript
  obtain ⟨claimed, tells, published, -, -, delivered⟩ := taken _ decoded
  obtain ⟨left, unpublished, -⟩ := passed _ refused
  obtain ⟨⟨flowId⟩, flow, low⟩ := tells.flow
  have five : flowId = 5 := UInt32.toNat_inj.mp (low.trans (by decide))
  refine ⟨claimed, ⟨_, _, five ▸ flow, congrArg RefusingPublisher.given published, ?_⟩, left,
    congrArg _ unpublished⟩
  exact (delivered rfl (by decide +kernel) rfl).trans (by decide +kernel)

end SwitchAgent.Telemetry
