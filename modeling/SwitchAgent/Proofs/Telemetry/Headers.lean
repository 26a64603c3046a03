import SwitchAgent.Proofs.Telemetry.Records
import SwitchAgent.Proofs.Telemetry.Topics

/-!
# What the headers decide

Flow, bitmasks and the count of hops are decided by the headers alone. The destination is read where
it stands from the front, whether or not the headers reach that far: behind headers of less than 20
bytes the first bytes of the hops are taken for a part of it, and show in the topic.
-/

namespace SwitchAgent.Telemetry

open Bytes

/-- Payloads with the same length of headers, and the same headers. -/
structure SameHeaders (one other : List UInt8) : Prop where
  length : one.take 8 = other.take 8
  bytes : (one.drop 8).take (Framing.headers one) = (other.drop 8).take (Framing.headers one)

namespace SameHeaders

variable {one other : List UInt8}

theorem front (same : SameHeaders one other) :
    one.take (Framing.stop one) = other.take (Framing.stop one) := by
  rw [Framing.stop, List.take_add, List.take_add, same.length, same.bytes]

theorem headers (same : SameHeaders one other) :
    Framing.headers one = Framing.headers other :=
  numberAt_eq_of_take same.length (by omega)

/-- The numbers in the headers are the same. -/
theorem numberAt (same : SameHeaders one other) {width offset : Nat}
    (inside : offset + width ≤ Framing.stop one) :
    Bytes.numberAt one width offset = Bytes.numberAt other width offset :=
  numberAt_eq_of_take same.front inside

theorem stop (same : SameHeaders one other) : Framing.stop one = Framing.stop other :=
  congrArg (8 + ·) same.headers

section Long

variable (same : SameHeaders one other) (long : 15 ≤ Framing.headers one)
include same long

/-- So are those that stand near the end of the headers. -/
theorem numberAt_back {width back : Nat} (near : back ≤ 15) (inside : width ≤ back) :
    Bytes.numberAt one width (Framing.stop one - back) =
      Bytes.numberAt other width (Framing.stop other - back) := by
  rw [← same.stop]
  exact same.numberAt (by rw [Framing.stop]; omega)

theorem stack : Framing.stack one = Framing.stack other :=
  same.numberAt_back long (by decide) (by decide)

theorem stride : Framing.stride one = Framing.stride other :=
  congrArg (· % 32) (same.numberAt_back long (by decide) (by decide))

theorem intBitmask : Framing.intBitmask one = Framing.intBitmask other :=
  same.numberAt_back long (by decide) (by decide)

theorem scionBitmask : Framing.scionBitmask one = Framing.scionBitmask other :=
  same.numberAt_back long (by decide) (by decide)

theorem hopCount : Framing.hopCount one = Framing.hopCount other := by
  rw [Framing.hopCount, Framing.hopCount, same.stack long, same.stride long]

/-- A payload of the same size with the same headers is framed as well. -/
theorem wellFramed (framed : WellFramed one) (size : one.length = other.length) :
    WellFramed other where
  lengthPresent := size ▸ framed.lengthPresent
  headersPresent := size ▸ same.headers ▸ framed.headersPresent
  headersLong := same.headers ▸ long
  destinationPresent := size ▸ framed.destinationPresent
  stackHeader := same.stack long ▸ framed.stackHeader
  stridePositive := same.stride long ▸ framed.stridePositive
  wholeHops := by
    rw [← same.stack long, ← same.stride long]
    exact framed.wholeHops
  hopsPresent := by
    rw [← size, ← same.stop, Framing.hopsWidth, ← same.hopCount long, ← same.intBitmask long,
      ← same.scionBitmask long]
    exact framed.hopsPresent

end Long

/-- What stands behind the headers may be changed. -/
theorem set (payload : List UInt8) {place : Nat} (behind : Framing.stop payload ≤ place)
    (b : UInt8) : SameHeaders payload (payload.set place b) := by
  have start : 8 ≤ place := Nat.le_trans (Nat.le_add_right 8 _) behind
  have rest : Framing.headers payload ≤ place - 8 := by
    rw [Framing.stop] at behind
    omega
  constructor
  · exact (List.take_set_of_le start).symm
  · rw [List.drop_set, if_neg (by omega), List.take_set_of_le rest]

end SameHeaders

namespace Packet

open Framing (stop)

variable {payload other : List UInt8} {packet p : Packet}

theorem wellFramed_of_decode (decoded : decode payload = .ok packet) : WellFramed payload :=
  (decode_demands payload).isOk_iff.mp (by rw [decoded]; rfl)

/-- All that is read from the headers but the destination. -/
structure SameFlow (p packet : Packet) : Prop where
  flowId : p.flowId = packet.flowId
  flowKey : p.flowKey = packet.flowKey
  intBitmask : p.intBitmask = packet.intBitmask
  scionBitmask : p.scionBitmask = packet.scionBitmask
  headers : p.headers = packet.headers
  hopCount : p.hops.length = packet.hops.length

theorem sameFlow_of_sameHeaders (decoded : decode payload = .ok packet)
    (decodedToo : decode other = .ok p) (same : SameHeaders payload other) :
    SameFlow p packet := by
  have long := (wellFramed_of_decode decoded).headersLong
  have one := decode_readFrom decoded
  have two := decode_readFrom decodedToo
  have flowId : p.flowId = packet.flowId := by
    apply UInt32.toNat_inj.mp
    rw [one.flowId, two.flowId]
    exact (same.numberAt (by rw [stop]; omega)).symm
  constructor
  · exact flowId
  · rw [flowKey, flowKey, flowId]
  · apply UInt16.toNat_inj.mp
    rw [one.intBitmask, two.intBitmask, same.intBitmask long]
  · apply UInt16.toNat_inj.mp
    rw [one.scionBitmask, two.scionBitmask, same.scionBitmask long]
  · rw [one.headers, two.headers, same.bytes, same.headers]
  · rw [one.hopCount, two.hopCount, same.hopCount long]

/-- Where the headers hold the whole destination, it is theirs. -/
theorem destination_of_long_headers (decoded : decode payload = .ok packet)
    (decodedToo : decode other = .ok p) (same : SameHeaders payload other)
    (long : 20 ≤ Framing.headers payload) : p.destination = packet.destination := by
  have one := decode_readFrom decoded
  have two := decode_readFrom decodedToo
  apply UInt64.toNat_inj.mp
  rw [one.destination, two.destination]
  exact (same.numberAt (by rw [stop]; omega)).symm

/-- The AS number stands in the last six bytes of the destination. -/
theorem asNumber_of_decode (decoded : decode payload = .ok packet) :
    packet.destination.toNat % 2 ^ 48 = numberAt payload 6 22 := by
  have room := (wellFramed_of_decode decoded).destinationPresent
  have low : numberAt payload (2 + 6) 20 % 256 ^ 6 = numberAt payload 6 (20 + 2) :=
    numberAt_mod (by omega)
  rw [(decode_readFrom decoded).destination]
  exact low

/-- Behind short headers one byte of the hops makes another topic. -/
theorem exists_other_topic (decoded : decode payload = .ok packet) (short : Framing.headers payload < 20) :
    ∃ b p, SameHeaders payload (payload.set (stop payload) b) ∧
      decode (payload.set (stop payload) b) = .ok p ∧
      ∀ m n, p.topic m ≠ packet.topic n := by
  have framed := wellFramed_of_decode decoded
  have long := framed.headersLong
  have room := framed.destinationPresent
  -- The byte behind the headers stands among the last six of the destination.
  have place : stop payload = 8 + Framing.headers payload := rfl
  have inside : stop payload < payload.length := by omega
  have new : payload[stop payload] + 1 ≠ payload[stop payload] := by
    intro same
    simp at same
  have same := SameHeaders.set payload (Nat.le_refl (stop payload)) (payload[stop payload] + 1)
  have framedToo := same.wellFramed long framed (by simp)
  obtain ⟨p, decodedToo, -⟩ := (decode_demands _).met framedToo
  refine ⟨_, p, same, decodedToo, fun m n topics => ?_⟩
  have numbers := (topic_eq_topic_iff.mp topics).1
  rw [asNumber_of_decode decoded, asNumber_of_decode decodedToo] at numbers
  exact numberAt_set_ne (by omega) (by omega) inside new numbers

/-- Payloads with the same headers agree in everything that the headers hold. The destination is
theirs, and the topic with it, if and only if they have 20 bytes at least: behind shorter headers
the first byte of the hops alone makes another topic, for every node. -/
theorem hops_reach_topic_iff_headers_short (decoded : decode payload = .ok packet) :
    (∀ other p, decode other = .ok p → SameHeaders payload other →
      SameFlow p packet ∧
      (20 ≤ Framing.headers payload →
        p.destination = packet.destination ∧ ∀ nodeId, p.topic nodeId = packet.topic nodeId)) ∧
    (Framing.headers payload < 20 →
      ∃ b p, SameHeaders payload (payload.set (stop payload) b) ∧
        decode (payload.set (stop payload) b) = .ok p ∧ p.destination ≠ packet.destination ∧
        ∀ nodeId, p.topic nodeId ≠ packet.topic nodeId) := by
  constructor
  · intro other p decodedToo same
    refine ⟨sameFlow_of_sameHeaders decoded decodedToo same, fun long => ?_⟩
    have destination := destination_of_long_headers decoded decodedToo same long
    refine ⟨destination, fun nodeId => topic_eq_topic_iff.mpr ⟨?_, rfl⟩⟩
    rw [destination]
  · intro short
    obtain ⟨b, p, same, decodedToo, topics⟩ := exists_other_topic decoded short
    refine ⟨b, p, same, decodedToo, fun equal => ?_, fun nodeId => topics nodeId nodeId⟩
    exact topics 0 0 (topic_eq_topic_iff.mpr ⟨by rw [equal], rfl⟩)

/-- Headers of 15 bytes, and a hop with its node and an interface. -/
def shortPayload (node : UInt8) : List UInt8 :=
  [0, 0, 0, 0, 0, 0, 0, 15, 4, 1, 2, 3, 0, 1, 0, 0xc0, 0, 0, 0, 0, 0, 0, 0, 0, 0, 0, node, 0, 0, 0, 9]

theorem node_of_hop_in_topic :
    ∃ one two, decode (shortPayload 1) = .ok one ∧ decode (shortPayload 2) = .ok two ∧
      SameHeaders (shortPayload 1) (shortPayload 2) ∧ SameFlow two one ∧
      one.topic 3 = "AS0_0_100-3" ∧ two.topic 3 = "AS0_0_200-3" := by
  obtain ⟨one, decoded⟩ : ∃ one, decode (shortPayload 1) = .ok one := ⟨_, rfl⟩
  obtain ⟨two, decodedToo⟩ : ∃ two, decode (shortPayload 2) = .ok two := ⟨_, rfl⟩
  have same : SameHeaders (shortPayload 1) (shortPayload 2) := ⟨rfl, rfl⟩
  obtain ⟨flows, -⟩ := hops_reach_topic_iff_headers_short decoded
  obtain ⟨flow, -⟩ := flows _ two decodedToo same
  refine ⟨one, two, decoded, decodedToo, same, flow, ?_, ?_⟩
  · cases decoded; rfl
  · cases decodedToo; rfl

end Packet

end SwitchAgent.Telemetry
