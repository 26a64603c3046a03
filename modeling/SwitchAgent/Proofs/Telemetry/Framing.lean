import SwitchAgent.Proofs.Bytes.Demand
import SwitchAgent.Telemetry.Packet

/-!
# The framing of telemetry packets

What a payload has to look like: its headers are all there and long enough, the stack is a whole
number of hops, and each hop has room for the fields that the bitmasks ask for. The packet is
decoded exactly then; anything else is malformed.
-/

namespace SwitchAgent.Telemetry

open Bytes

namespace Framing

/-- The length of the headers. -/
def headers (payload : List UInt8) : Nat :=
  numberAt payload 8 0

/-- Where the headers end and the hops begin. -/
def stop (payload : List UInt8) : Nat :=
  8 + headers payload

def stack (payload : List UInt8) : Nat :=
  numberAt payload 1 (stop payload - 15)

def stride (payload : List UInt8) : Nat :=
  numberAt payload 1 (stop payload - 10) % 32

def intBitmask (payload : List UInt8) : Nat :=
  numberAt payload 2 (stop payload - 8)

def scionBitmask (payload : List UInt8) : Nat :=
  numberAt payload 2 (stop payload - 4)

def hopCount (payload : List UInt8) : Nat :=
  (stack payload - 3) / stride payload

/-- The bytes of a hop with the fields that the bitmasks ask for. -/
def hopWidth (intBitmask scionBitmask : Nat) : Nat :=
  4 * [15, 14, 13, 12, 8, 7].countP intBitmask.testBit +
    8 * [11, 10, 9].countP intBitmask.testBit + 8 * [0].countP scionBitmask.testBit

def hopsWidth (payload : List UInt8) : Nat :=
  hopCount payload * hopWidth (intBitmask payload) (scionBitmask payload)

end Framing

/-- The documented framing. -/
structure WellFramed (payload : List UInt8) : Prop where
  lengthPresent : 8 ≤ payload.length
  headersPresent : Framing.headers payload ≤ payload.length - 8
  headersLong : 15 ≤ Framing.headers payload
  destinationPresent : 28 ≤ payload.length
  stackHeader : 3 ≤ Framing.stack payload
  stridePositive : 0 < Framing.stride payload
  wholeHops : Framing.stride payload ∣ Framing.stack payload - 3
  hopsPresent : Framing.stop payload + Framing.hopsWidth payload ≤ payload.length

namespace Hop

theorem Field.width_le (f : Field) : f.width ≤ 8 := by
  cases f <;> decide

/-- The bytes of fields that stand one after the other. -/
def widths (fields : List Field) : Nat :=
  (fields.map Field.width).sum

theorem sum_map_filter {α : Type} (keep : α → Bool) (weight : α → Nat) (l : List α) :
    ((l.filter keep).map weight).sum = (l.map fun a => (keep a).toNat * weight a).sum := by
  induction l with
  | nil => rfl
  | cons a l ih =>
    cases h : keep a <;> simp [h, ih]

theorem countP_cons_toNat {α : Type} (keep : α → Bool) (a : α) (l : List α) :
    (a :: l).countP keep = l.countP keep + (keep a).toNat := by
  rw [List.countP_cons]
  cases keep a <;> rfl

/-- The fields that are read are as wide as the bitmasks say. -/
theorem widths_selected (intBitmask scionBitmask : UInt16) :
    widths (selected intBitmask scionBitmask) =
      Framing.hopWidth intBitmask.toNat scionBitmask.toNat := by
  rw [widths, selected]
  rw [sum_map_filter]
  simp only [Field.all, Field.isSelected, Field.width, Field.bit, Framing.hopWidth, List.map_cons,
    List.map_nil, List.sum_cons, List.sum_nil, countP_cons_toNat, List.countP_nil]
  omega

theorem readFields_takes (fields : List Field) (c : Cursor) :
    c.Takes (widths fields) (readFields fields c) := by
  induction fields generalizing c with
  | nil => exact Cursor.Takes.nothing []
  | cons f fields ih =>
    have total : widths (f :: fields) = f.width + widths fields := List.sum_cons
    rw [total]
    exact (c.takeNumber_takes f.width_le).bind fun n c' =>
      (ih c').map fun readings => (f, n * f.scale) :: readings

theorem read_takes (fields : List Field) (c : Cursor) :
    c.Takes (widths fields) (read fields c) :=
  (readFields_takes fields c).map ofReadings

theorem readMany_takes (fields : List Field) (count : Nat) (c : Cursor) :
    c.Takes (count * widths fields) (readMany fields count c) := by
  induction count generalizing c with
  | zero =>
    rw [Nat.zero_mul]
    exact Cursor.Takes.nothing []
  | succ count ih =>
    rw [Nat.succ_mul, Nat.add_comm]
    exact (read_takes fields c).bind fun hop c' => (ih c').map fun hops => hop :: hops

end Hop

namespace Packet

theorem headerLength_demands (payload : List UInt8) :
    Demands (8 ≤ payload.length ∧ Framing.headers payload ≤ payload.length - 8 ∧
        15 ≤ Framing.headers payload)
      (fun length => length = Framing.headers payload) (headerLength payload) := by
  have first := @Cursor.takeNumber_demands (Cursor.ofBytes payload) lengthBytes (by decide)
  rw [headerLength]
  by_cases present : 8 ≤ payload.length
  · obtain ⟨⟨length, c⟩, taken, number, buffer, position⟩ := first.met (by
      change 0 + 8 ≤ payload.length
      omega)
    have same : length.toNat = Framing.headers payload := number
    have left : c.remaining = payload.length - 8 := by
      dsimp only at buffer position
      rw [Cursor.remaining, buffer, position]
      rfl
    rw [taken]
    dsimp only
    rw [same, left]
    split
    · next beyond => exact Demands.error (by omega) rfl
    · split
      · next short => exact Demands.error (by simp only [stackFromEnd] at short; omega) rfl
      · next inside long =>
        have whole : Demands True (fun length => length = Framing.headers payload)
            (.ok (Framing.headers payload)) := Demands.ok rfl
        exact whole.congr ⟨fun _ => ⟨present, by omega, Nat.not_lt.mp long⟩, fun _ => trivial⟩
  · obtain ⟨fault, failed, -⟩ := first.missed (by
      change ¬ 0 + 8 ≤ payload.length
      omega)
    rw [failed]
    exact Demands.error (fun demand => present demand.1) rfl

theorem hopCount_demands (stack hop : Nat) :
    Demands (3 ≤ stack ∧ 0 < hop ∧ hop ∣ stack - 3) (fun count => count = (stack - 3) / hop)
      (hopCount stack hop) := by
  rw [hopCount]
  rw [show stackHeader = 3 from rfl]
  split
  · next small => exact Demands.error (by omega) rfl
  · next large =>
    split
    · next uneven =>
      refine Demands.error ?_ rfl
      rintro ⟨-, positive, even⟩
      rcases uneven with zero | rest
      · omega
      · exact rest (Nat.mod_eq_zero_of_dvd even)
    · next even =>
      rw [not_or, not_not] at even
      have whole : Demands True (fun count => count = (stack - 3) / hop)
          (.ok ((stack - 3) / hop)) := Demands.ok rfl
      exact whole.congr ⟨fun _ => ⟨by omega, by omega, Nat.dvd_of_mod_eq_zero even.2⟩,
        fun _ => trivial⟩

/-- Sixteen bits are kept of what two bytes hold. -/
theorem toNat_toUInt16 {payload : List UInt8} {n : UInt64} {offset : Nat}
    (same : n.toNat = numberAt payload 2 offset) :
    n.toUInt16.toNat = numberAt payload 2 offset := by
  have bounded := numberAt_lt payload 2 offset
  rw [UInt64.toNat_toUInt16, same]
  exact Nat.mod_eq_of_lt bounded

/-- A packet is decoded from exactly the payloads that are framed well. -/
theorem decode_demands (payload : List UInt8) :
    Demands (WellFramed payload) (fun _ => True) (decode payload) := by
  rw [decode]
  -- Each step adds a demand of its own; that together they are the framing is shown at the end.
  apply Demands.congr
  case h =>
    apply Demands.bind (headerLength_demands payload)
    rintro _ - rfl
    apply Demands.bind ((Cursor.ofBytes payload).slice_demands _ _)
    rintro headers - -
    apply Demands.bind ((Cursor.ofBytes payload).peek_demands _ (by decide))
    rintro flowId - -
    apply Demands.bind ((Cursor.ofBytes payload).peek_demands _ (by decide))
    rintro destination - -
    apply Demands.bind ((Cursor.ofBytes payload).peek_demands _ (by decide))
    rintro intBitmask - intSame
    apply Demands.bind ((Cursor.ofBytes payload).peek_demands _ (by decide))
    rintro scionBitmask - scionSame
    apply Demands.bind ((Cursor.ofBytes payload).peek_demands _ (by decide))
    rintro stack - stackSame
    apply Demands.bind ((Cursor.ofBytes payload).peek_demands _ (by decide))
    rintro hop - hopSame
    rw [stackSame, hopSame]
    apply Demands.bind (hopCount_demands _ _)
    rintro _ - rfl
    apply Demands.bind ((Cursor.ofBytes payload).seek_demands _)
    rintro c - ⟨buffer, position⟩
    have taken := Hop.readMany_takes (Hop.selected intBitmask.toUInt16 scionBitmask.toUInt16)
      ((numberAt payload 1 (lengthBytes + Framing.headers payload - stackFromEnd) - 3) /
        (numberAt payload 1 (lengthBytes + Framing.headers payload - hopFromEnd) % hopSizes)) c
    rw [Cursor.Takes] at taken
    rw [buffer, position, Hop.widths_selected, toNat_toUInt16 intSame,
      toNat_toUInt16 scionSame] at taken
    exact taken.map fun _ _ _ => trivial
  case same =>
    dsimp only [lengthBytes, destinationOffset, stackFromEnd, hopFromEnd, intBitmaskFromEnd,
      scionBitmaskFromEnd, hopSizes, Cursor.ofBytes]
    constructor
    · rintro ⟨⟨lengthPresent, headersPresent, headersLong⟩, -, -, destinationPresent, -, -, -, -,
        ⟨stackHeader, stridePositive, wholeHops⟩, -, hopsPresent⟩
      exact ⟨lengthPresent, headersPresent, headersLong, destinationPresent, stackHeader,
        stridePositive, wholeHops, hopsPresent⟩
    · intro framed
      have inside := framed.headersPresent
      have present := framed.lengthPresent
      have long := framed.headersLong
      have destination := framed.destinationPresent
      refine ⟨⟨present, inside, long⟩, by omega, by omega, by omega, by omega, by omega,
        by omega, by omega, ⟨framed.stackHeader, framed.stridePositive, framed.wholeHops⟩,
        by omega, framed.hopsPresent⟩

end Packet

end SwitchAgent.Telemetry
