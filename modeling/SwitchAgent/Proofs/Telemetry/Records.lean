import Mathlib.Data.List.Nodup
import SwitchAgent.Proofs.Bytes.Numbers
import SwitchAgent.Proofs.Telemetry.Framing

/-!
# Hop records

The documented layout of a hop, field by field. A decoded hop takes each of its fields from bytes
of its own, at an offset that the fields and hops before it decide. So records that are written in
this layout are read back, with their times in nanoseconds.
-/

namespace SwitchAgent.Telemetry

open Bytes

inductive Mask where
  | int
  | scion

/-- A field as it is documented: its width in bytes, the bit that asks for it, and by what its
number is multiplied. -/
structure Slot where
  field : Hop.Field
  width : Nat
  mask : Mask
  bit : Nat
  factor : Nat

namespace Slot

def layout : List Slot :=
  [⟨.nodeId, 4, .int, 15, 1⟩,
    ⟨.l1Interface, 4, .int, 14, 1⟩,
    ⟨.hopLatency, 4, .int, 13, 1⟩,
    ⟨.queueOccupancy, 4, .int, 12, 1⟩,
    ⟨.ingressTimestamp, 8, .int, 11, 1000⟩,
    ⟨.egressTimestamp, 8, .int, 10, 1000⟩,
    ⟨.l2Interface, 8, .int, 9, 1⟩,
    ⟨.egressUtilization, 4, .int, 8, 1⟩,
    ⟨.bufferOccupancy, 4, .int, 7, 1⟩,
    ⟨.asn, 8, .scion, 0, 1⟩]

def isSet (intBitmask scionBitmask : Nat) (slot : Slot) : Bool :=
  match slot.mask with
  | .int => intBitmask.testBit slot.bit
  | .scion => scionBitmask.testBit slot.bit

/-- The bytes that are taken by those slots whose bit is set. -/
def widths (intBitmask scionBitmask : Nat) (slots : List Slot) : Nat :=
  ((slots.filter (isSet intBitmask scionBitmask)).map Slot.width).sum

theorem widths_cons (intBitmask scionBitmask : Nat) (slot : Slot) (slots : List Slot) :
    widths intBitmask scionBitmask (slot :: slots) =
      (if slot.isSet intBitmask scionBitmask then slot.width else 0) +
        widths intBitmask scionBitmask slots := by
  cases set : slot.isSet intBitmask scionBitmask <;> simp [widths, set]

theorem widths_layout (intBitmask scionBitmask : Nat) :
    widths intBitmask scionBitmask layout = Framing.hopWidth intBitmask scionBitmask := by
  rw [widths, Hop.sum_map_filter]
  simp only [layout, isSet, Framing.hopWidth, List.map_cons, List.map_nil, List.sum_cons,
    List.sum_nil, Hop.countP_cons_toNat, List.countP_nil]
  omega

theorem exists_slot (f : Hop.Field) : ∃ slot ∈ layout, slot.field = f := by
  cases f <;> simp [layout]

/-- No field stands twice in a hop. -/
theorem fields_nodup : (layout.map Slot.field).Nodup := by
  decide

theorem field_not_mem_before {before after : List Slot} {slot : Slot}
    (split : layout = before ++ slot :: after) : slot.field ∉ before.map Slot.field := by
  have once := fields_nodup
  rw [split, List.map_append, List.map_cons, List.nodup_append] at once
  exact fun member => once.2.2 _ member _ List.mem_cons_self rfl

theorem eq_of_field {one other : Slot} (listed : one ∈ layout) (listed' : other ∈ layout)
    (same : one.field = other.field) : one = other :=
  List.inj_on_of_nodup_map fields_nodup listed listed' same

theorem width_eq {slot : Slot} (listed : slot ∈ layout) : slot.width = slot.field.width := by
  revert slot
  simp [layout, Hop.Field.width]

theorem factor_eq {slot : Slot} (listed : slot ∈ layout) :
    slot.factor = slot.field.scale.toNat := by
  revert slot
  simp [layout, Hop.Field.scale]

theorem isSet_eq {slot : Slot} (listed : slot ∈ layout) (intBitmask scionBitmask : UInt16) :
    slot.isSet intBitmask.toNat scionBitmask.toNat =
      slot.field.isSelected intBitmask scionBitmask := by
  revert slot
  simp [layout, isSet, Hop.Field.isSelected, Hop.Field.bit]

/-- The fields of those slots whose bit is set. -/
def fields (intBitmask scionBitmask : Nat) (slots : List Slot) : List Hop.Field :=
  (slots.filter (isSet intBitmask scionBitmask)).map Slot.field

theorem fields_layout (intBitmask scionBitmask : UInt16) :
    fields intBitmask.toNat scionBitmask.toNat layout =
      Hop.selected intBitmask scionBitmask := by
  have same : Hop.Field.all = layout.map Slot.field := rfl
  rw [Hop.selected, same, List.filter_map, fields]
  apply congrArg (List.map Slot.field)
  exact List.filter_congr fun slot listed => isSet_eq listed intBitmask scionBitmask

theorem mem_fields {intBitmask scionBitmask : Nat} {slots : List Slot} {f : Hop.Field} :
    f ∈ fields intBitmask scionBitmask slots ↔
      ∃ slot ∈ slots, slot.isSet intBitmask scionBitmask ∧ slot.field = f := by
  simp [fields, and_assoc]

theorem fields_split {intBitmask scionBitmask : Nat} {slot : Slot}
    (set : slot.isSet intBitmask scionBitmask = true) (before after : List Slot) :
    fields intBitmask scionBitmask (before ++ slot :: after) =
      fields intBitmask scionBitmask before ++
        slot.field :: fields intBitmask scionBitmask after := by
  simp [fields, set]

theorem widths_fields (intBitmask scionBitmask : Nat) {slots : List Slot}
    (listed : ∀ slot ∈ slots, slot ∈ layout) :
    Hop.widths (fields intBitmask scionBitmask slots) =
      widths intBitmask scionBitmask slots := by
  rw [Hop.widths, fields, widths, List.map_map]
  congr 1
  apply List.map_congr_left
  intro slot kept
  exact (width_eq (listed slot (List.mem_filter.mp kept).1)).symm

end Slot

namespace Hop

theorem eq_of_map_toNat32 {a b : Option UInt32} (same : a.map UInt32.toNat = b.map UInt32.toNat) :
    a = b :=
  Option.map_injective (fun _ _ => UInt32.toNat_inj.mp) same

theorem eq_of_map_toNat64 {a b : Option UInt64} (same : a.map UInt64.toNat = b.map UInt64.toNat) :
    a = b :=
  Option.map_injective (fun _ _ => UInt64.toNat_inj.mp) same

theorem ext_get {one other : Hop} (same : ∀ f, one.get f = other.get f) : one = other := by
  cases one
  cases other
  congr 1
  · exact eq_of_map_toNat32 (same .nodeId)
  · exact eq_of_map_toNat32 (same .l1Interface)
  · exact eq_of_map_toNat32 (same .hopLatency)
  · exact eq_of_map_toNat32 (same .queueOccupancy)
  · exact eq_of_map_toNat64 (same .ingressTimestamp)
  · exact eq_of_map_toNat64 (same .egressTimestamp)
  · exact eq_of_map_toNat64 (same .l2Interface)
  · exact eq_of_map_toNat32 (same .egressUtilization)
  · exact eq_of_map_toNat32 (same .bufferOccupancy)
  · exact eq_of_map_toNat64 (same .asn)

theorem get_lt {hop : Hop} {f : Field} {n : Nat} (has : hop.get f = some n) :
    n < 256 ^ f.width := by
  cases f <;>
    obtain ⟨word, -, rfl⟩ := Option.map_eq_some_iff.mp has <;>
    exact word.toNat_lt

theorem get_ofReadings (readings : List (Field × UInt64)) (f : Field) :
    (ofReadings readings).get f =
      (readings.lookup f).map fun n => n.toNat % 256 ^ f.width := by
  cases f <;> simp [ofReadings, get, Field.width, Function.comp_def]

/-- The factor does not spoil what fits into a field. -/
theorem scaled (f : Field) {n : Nat} (fits : n < 256 ^ f.width) :
    (UInt64.ofNat n * f.scale).toNat % 256 ^ f.width = n * f.scale.toNat % 2 ^ 64 := by
  cases f <;> simp [Field.scale, Field.width] at fits ⊢ <;> omega

section Reading

variable {before after fields : List Field} {f : Field} {readings : List (Field × UInt64)}
variable {c c' : Cursor}

theorem lookup_readFields (read : readFields (before ++ f :: after) c = .ok (readings, c'))
    (new : f ∉ before) :
    readings.lookup f =
      some (UInt64.ofNat (numberAt c.buffer f.width (c.position + widths before)) * f.scale) := by
  -- Every field in front moves the cursor by its width, and none of them is the one looked up.
  induction before generalizing c readings c' with
  | nil =>
    obtain ⟨⟨n, d⟩, -, ⟨number, -⟩, rest⟩ :=
      (c.takeNumber_demands f.width_le).bind_ok read
    obtain ⟨⟨later, e⟩, -, -, last⟩ := (readFields_takes after d).bind_ok rest
    cases last
    have same : n = UInt64.ofNat (numberAt c.buffer f.width c.position) := by
      apply UInt64.toNat_inj.mp
      rw [toNat_ofNat_numberAt _ _ f.width_le]
      exact number
    simp [widths, same]
  | cons g before ih =>
    obtain ⟨⟨n, d⟩, -, ⟨-, buffer, position⟩, rest⟩ :=
      (c.takeNumber_demands g.width_le).bind_ok read
    obtain ⟨⟨later, e⟩, reads, -, last⟩ :=
      (readFields_takes (before ++ f :: after) d).bind_ok rest
    cases last
    have other : (f == g) = false := beq_false_of_ne fun same => new (same ▸ List.mem_cons_self)
    have found := ih reads fun member => new (List.mem_cons_of_mem g member)
    dsimp only at buffer position
    rw [buffer, position, Nat.add_assoc] at found
    simpa [widths, List.lookup_cons, other] using found

theorem lookup_readFields_none (read : readFields fields c = .ok (readings, c'))
    (absent : f ∉ fields) : readings.lookup f = none := by
  induction fields generalizing c readings c' with
  | nil =>
    cases read
    rfl
  | cons g fields ih =>
    obtain ⟨⟨n, d⟩, -, -, rest⟩ := (c.takeNumber_demands g.width_le).bind_ok read
    obtain ⟨⟨later, e⟩, reads, -, last⟩ := (readFields_takes fields d).bind_ok rest
    cases last
    have other : (f == g) = false :=
      beq_false_of_ne fun same => absent (same ▸ List.mem_cons_self)
    rw [List.lookup_cons, other]
    exact ih reads fun member => absent (List.mem_cons_of_mem g member)

variable {hop : Hop} {hops : List Hop} {count : Nat}

/-- A field is read from its own bytes. -/
theorem get_read (read : Hop.read (before ++ f :: after) c = .ok (hop, c')) (new : f ∉ before) :
    hop.get f =
      some (numberAt c.buffer f.width (c.position + widths before) * f.scale.toNat % 2 ^ 64) := by
  obtain ⟨⟨readings, d⟩, reads, -, last⟩ :=
    (readFields_takes (before ++ f :: after) c).bind_ok read
  cases last
  rw [get_ofReadings, lookup_readFields reads new, Option.map_some,
    scaled f (numberAt_lt _ _ _)]

theorem get_read_none (read : Hop.read fields c = .ok (hop, c')) (absent : f ∉ fields) :
    hop.get f = none := by
  obtain ⟨⟨readings, d⟩, reads, -, last⟩ := (readFields_takes fields c).bind_ok read
  cases last
  rw [get_ofReadings, lookup_readFields_none reads absent, Option.map_none]

/-- Every slot of the layout has its bytes, if its bit is set. -/
theorem get_slot {intBitmask scionBitmask : UInt16}
    (read : Hop.read (selected intBitmask scionBitmask) c = .ok (hop, c'))
    {before after : List Slot} {slot : Slot} (split : Slot.layout = before ++ slot :: after) :
    hop.get slot.field =
      if slot.isSet intBitmask.toNat scionBitmask.toNat then
        some (numberAt c.buffer slot.width
          (c.position + Slot.widths intBitmask.toNat scionBitmask.toNat before) *
            slot.factor % 2 ^ 64)
      else none := by
  have listed : slot ∈ Slot.layout := by simp [split]
  rw [← Slot.fields_layout] at read
  cases set : slot.isSet intBitmask.toNat scionBitmask.toNat with
  | true =>
    rw [split, Slot.fields_split set] at read
    have new : slot.field ∉ Slot.fields intBitmask.toNat scionBitmask.toNat before := by
      intro member
      obtain ⟨other, earlier, -, same⟩ := Slot.mem_fields.mp member
      exact Slot.field_not_mem_before split (List.mem_map.mpr ⟨other, earlier, same⟩)
    have earlier : ∀ other ∈ before, other ∈ Slot.layout := fun other member => by
      simp [split, member]
    rw [get_read read new, Slot.widths_fields _ _ earlier, Slot.width_eq listed,
      Slot.factor_eq listed]
    rfl
  | false =>
    apply get_read_none read
    intro member
    obtain ⟨other, listed', isSet, same⟩ := Slot.mem_fields.mp member
    rw [Slot.eq_of_field listed' listed same, set] at isSet
    cases isSet

/-- As many hops are read as were asked for, each one from where those before it end. -/
theorem readMany_hops (reads : readMany fields count c = .ok (hops, c')) :
    hops.length = count ∧
    ∀ i hop, hops[i]? = some hop → ∃ d d' : Cursor, Hop.read fields d = .ok (hop, d') ∧
      d.buffer = c.buffer ∧ d.position = c.position + i * widths fields := by
  induction count generalizing c hops c' with
  | zero =>
    cases reads
    simp
  | succ count ih =>
    obtain ⟨⟨first, d⟩, read, ⟨buffer, position⟩, rest⟩ := (read_takes fields c).bind_ok reads
    obtain ⟨⟨others, e⟩, later, -, last⟩ := (readMany_takes fields count d).bind_ok rest
    cases last
    obtain ⟨length, places⟩ := ih later
    refine ⟨congrArg Nat.succ length, ?_⟩
    intro i hop found
    cases i with
    | zero =>
      cases found
      exact ⟨c, d, read, rfl, by omega⟩
    | succ i =>
      obtain ⟨d', e', here, buffer', position'⟩ := places i hop found
      dsimp only at buffer position
      refine ⟨d', e', here, buffer'.trans buffer, ?_⟩
      rw [position', position, Nat.succ_mul]
      omega

end Reading

end Hop

namespace Framing

/-- Where a field of the hop with this index stands, if these slots come before it. -/
def place (payload : List UInt8) (index : Nat) (before : List Slot) : Nat :=
  stop payload + index * hopWidth (intBitmask payload) (scionBitmask payload) +
    Slot.widths (intBitmask payload) (scionBitmask payload) before

end Framing

namespace Packet

/-- A packet is made of what stands in a payload: its headers, and hops that take every field from
bytes of its own. -/
structure ReadFrom (payload : List UInt8) (packet : Packet) : Prop where
  flowId : packet.flowId.toNat = numberAt payload 4 8
  destination : packet.destination.toNat = numberAt payload 8 20
  intBitmask : packet.intBitmask.toNat = Framing.intBitmask payload
  scionBitmask : packet.scionBitmask.toNat = Framing.scionBitmask payload
  headers : packet.headers = (payload.drop 8).take (Framing.headers payload)
  hopCount : packet.hops.length = Framing.hopCount payload
  fields : ∀ index hop, packet.hops[index]? = some hop →
    ∀ before slot after, Slot.layout = before ++ slot :: after →
      hop.get slot.field =
        if slot.isSet (Framing.intBitmask payload) (Framing.scionBitmask payload) then
          some (numberAt payload slot.width (Framing.place payload index before) *
            slot.factor % 2 ^ 64)
        else none

theorem decode_readFrom {payload : List UInt8} {packet : Packet}
    (decoded : decode payload = .ok packet) : packet.ReadFrom payload := by
  rw [decode] at decoded
  obtain ⟨_, -, rfl, rest⟩ := (headerLength_demands payload).bind_ok decoded
  dsimp only at rest
  obtain ⟨headers, -, headersSame, rest⟩ :=
    ((Cursor.ofBytes payload).slice_demands _ _).bind_ok rest
  obtain ⟨flowId, -, flowSame, rest⟩ :=
    ((Cursor.ofBytes payload).peek_demands _ (by decide)).bind_ok rest
  obtain ⟨destination, -, destinationSame, rest⟩ :=
    ((Cursor.ofBytes payload).peek_demands _ (by decide)).bind_ok rest
  obtain ⟨intBitmask, -, intSame, rest⟩ :=
    ((Cursor.ofBytes payload).peek_demands _ (by decide)).bind_ok rest
  obtain ⟨scionBitmask, -, scionSame, rest⟩ :=
    ((Cursor.ofBytes payload).peek_demands _ (by decide)).bind_ok rest
  obtain ⟨stack, -, stackSame, rest⟩ :=
    ((Cursor.ofBytes payload).peek_demands _ (by decide)).bind_ok rest
  obtain ⟨hop, -, hopSame, rest⟩ :=
    ((Cursor.ofBytes payload).peek_demands _ (by decide)).bind_ok rest
  obtain ⟨_, -, rfl, rest⟩ := (hopCount_demands _ _).bind_ok rest
  obtain ⟨c, -, ⟨buffer, position⟩, rest⟩ := ((Cursor.ofBytes payload).seek_demands _).bind_ok rest
  obtain ⟨⟨hops, d⟩, reads, -, last⟩ := (Hop.readMany_takes _ _ c).bind_ok rest
  cases last
  have int : intBitmask.toUInt16.toNat = Framing.intBitmask payload := toNat_toUInt16 intSame
  have scion : scionBitmask.toUInt16.toNat = Framing.scionBitmask payload :=
    toNat_toUInt16 scionSame
  obtain ⟨length, places⟩ := Hop.readMany_hops reads
  refine ⟨?_, destinationSame, int, scion, headersSame, ?_, ?_⟩
  · have bounded := numberAt_lt payload 4 8
    rw [UInt64.toNat_toUInt32, flowSame]
    exact Nat.mod_eq_of_lt bounded
  · rw [length, stackSame, hopSame]
    rfl
  · intro index hop found before slot after split
    obtain ⟨d, d', read, here, there⟩ := places index hop found
    have field := Hop.get_slot read split
    rw [here, there, buffer, position, Hop.widths_selected, int, scion] at field
    exact field

end Packet

/-- The bytes of a field, if the hop has it. -/
def Slot.write (hop : Hop) (slot : Slot) : List UInt8 :=
  ((hop.get slot.field).map (Bitstring.encode slot.width)).getD []

namespace Hop

/-- The fields that a hop has, in the order of the layout. -/
def write (hop : Hop) : List UInt8 :=
  Slot.layout.flatMap (Slot.write hop)

/-- A hop has exactly the fields that the bitmasks ask for. -/
def AskedBy (intBitmask scionBitmask : Nat) (hop : Hop) : Prop :=
  ∀ slot ∈ Slot.layout, (hop.get slot.field).isSome = slot.isSet intBitmask scionBitmask

/-- Times are written in microseconds. -/
def inNanoseconds (hop : Hop) : Hop :=
  { hop with
    ingressTimestamp := hop.ingressTimestamp.map (· * 1000)
    egressTimestamp := hop.egressTimestamp.map (· * 1000) }

theorem get_inNanoseconds (hop : Hop) {slot : Slot} (listed : slot ∈ Slot.layout) :
    hop.inNanoseconds.get slot.field =
      (hop.get slot.field).map fun n => n * slot.factor % 2 ^ 64 := by
  have kept (f : Field) : hop.get f = (hop.get f).map fun n => n * 1 % 2 ^ 64 := by
    cases has : hop.get f with
    | none => rfl
    | some n =>
      have word : 256 ^ f.width ≤ 2 ^ 64 := Nat.pow_le_pow_right (by decide) f.width_le
      have fits := Nat.lt_of_lt_of_le (get_lt has) word
      rw [Option.map_some, Nat.mul_one, Nat.mod_eq_of_lt fits]
  have scaled (time : Option UInt64) : (time.map (· * 1000)).map UInt64.toNat =
      (time.map UInt64.toNat).map fun n => n * 1000 % 2 ^ 64 := by
    cases time <;> rfl
  revert slot
  simp only [Slot.layout, List.forall_mem_cons, List.not_mem_nil]
  exact ⟨kept .nodeId, kept .l1Interface, kept .hopLatency, kept .queueOccupancy,
    scaled hop.ingressTimestamp, scaled hop.egressTimestamp, kept .l2Interface,
    kept .egressUtilization, kept .bufferOccupancy, kept .asn, nofun⟩

section Writing

variable {intBitmask scionBitmask : Nat} {hop : Hop}

theorem length_flatMap_write (asked : hop.AskedBy intBitmask scionBitmask) {slots : List Slot}
    (listed : ∀ slot ∈ slots, slot ∈ Slot.layout) :
    (slots.flatMap (Slot.write hop)).length = Slot.widths intBitmask scionBitmask slots := by
  induction slots with
  | nil => rfl
  | cons slot slots ih =>
    have later := ih fun other member => listed other (List.mem_cons_of_mem slot member)
    have presence := asked slot (listed slot List.mem_cons_self)
    rw [List.flatMap_cons, List.length_append, later, Slot.widths_cons, ← presence]
    cases has : hop.get slot.field <;> simp [Slot.write, has, Bitstring.length_encode]

theorem length_write (asked : hop.AskedBy intBitmask scionBitmask) :
    hop.write.length = Framing.hopWidth intBitmask scionBitmask := by
  rw [write, length_flatMap_write asked fun _ listed => listed, Slot.widths_layout]

theorem length_writeAll {records : List Hop}
    (asked : ∀ record ∈ records, record.AskedBy intBitmask scionBitmask) :
    (records.flatMap write).length =
      records.length * Framing.hopWidth intBitmask scionBitmask := by
  induction records with
  | nil => simp
  | cons record records ih =>
    have later := ih fun other member => asked other (List.mem_cons_of_mem record member)
    rw [List.flatMap_cons, List.length_append, later, length_write (asked record List.mem_cons_self),
      List.length_cons, Nat.succ_mul, Nat.add_comm]

end Writing

end Hop

namespace Packet

/-- Headers that announce so many hops with the fields of these bitmasks. -/
structure Announces (headers : List UInt8) (count intBitmask scionBitmask : Nat) : Prop where
  long : 20 ≤ headers.length
  lengthFits : headers.length < 2 ^ 64
  stackHeader : 3 ≤ numberAt headers 1 (headers.length - 15)
  stridePositive : 0 < numberAt headers 1 (headers.length - 10) % 32
  wholeHops : numberAt headers 1 (headers.length - 10) % 32 ∣
    numberAt headers 1 (headers.length - 15) - 3
  count : (numberAt headers 1 (headers.length - 15) - 3) /
    (numberAt headers 1 (headers.length - 10) % 32) = count
  intBitmask : numberAt headers 2 (headers.length - 8) = intBitmask
  scionBitmask : numberAt headers 2 (headers.length - 4) = scionBitmask

/-- A payload: headers behind their length, hops, and whatever follows them. -/
def wire (headers : List UInt8) (records : List Hop) (trailing : List UInt8) : List UInt8 :=
  Bitstring.encode 8 headers.length ++ (headers ++ (records.flatMap Hop.write ++ trailing))

section Wire

variable {headers trailing : List UInt8} {records : List Hop} {intBitmask scionBitmask : Nat}

theorem headers_wire (fits : headers.length < 2 ^ 64) :
    Framing.headers (wire headers records trailing) = headers.length :=
  numberAt_encode [] _ fits

/-- What the headers hold stands in the payload behind the length. -/
theorem numberAt_wire {width offset place : Nat} (inside : offset + width ≤ headers.length)
    (behind : place = 8 + offset) :
    numberAt (wire headers records trailing) width place = numberAt headers width offset := by
  have length := Bitstring.length_encode 8 headers.length
  have here := numberAt_append_right (Bitstring.encode 8 headers.length)
    (headers ++ (records.flatMap Hop.write ++ trailing)) width offset
  rw [length] at here
  rw [behind, wire, here, numberAt_append_left _ _ inside]

/-- A field of a record stands in the payload behind the records and the fields before it. -/
theorem numberAt_wire_field (headers trailing : List UInt8)
    (asked : ∀ record ∈ records, record.AskedBy intBitmask scionBitmask)
    {earlier later : List Hop} {record : Hop} (among : records = earlier ++ record :: later)
    {before after : List Slot} {slot : Slot} (split : Slot.layout = before ++ slot :: after)
    {n : Nat} (has : record.get slot.field = some n) :
    numberAt (wire headers records trailing) slot.width
      (8 + headers.length + earlier.length * Framing.hopWidth intBitmask scionBitmask +
        Slot.widths intBitmask scionBitmask before) = n := by
  have listed : slot ∈ Slot.layout := by simp [split]
  have fits : n < 256 ^ slot.width := by
    rw [Slot.width_eq listed]
    exact Hop.get_lt has
  have bytes : Slot.write record slot = Bitstring.encode slot.width n := by
    rw [Slot.write, has]
    rfl
  have apart : wire headers records trailing =
      (Bitstring.encode 8 headers.length ++ headers ++ earlier.flatMap Hop.write ++
        before.flatMap (Slot.write record)) ++ (Bitstring.encode slot.width n ++
        (after.flatMap (Slot.write record) ++ (later.flatMap Hop.write ++ trailing))) := by
    have whole : record.write = before.flatMap (Slot.write record) ++
        (Bitstring.encode slot.width n ++ after.flatMap (Slot.write record)) := by
      rw [Hop.write, split, List.flatMap_append, List.flatMap_cons, bytes]
    rw [wire, among, List.flatMap_append, List.flatMap_cons, whole]
    simp only [List.append_assoc]
  have front : (Bitstring.encode 8 headers.length ++ headers ++ earlier.flatMap Hop.write ++
      before.flatMap (Slot.write record)).length =
        8 + headers.length + earlier.length * Framing.hopWidth intBitmask scionBitmask +
          Slot.widths intBitmask scionBitmask before := by
    have ahead : ∀ other ∈ earlier, other.AskedBy intBitmask scionBitmask := fun other member =>
      asked other (by simp [among, member])
    have own : record.AskedBy intBitmask scionBitmask := asked record (by simp [among])
    rw [List.length_append, List.length_append, List.length_append, Bitstring.length_encode,
      Hop.length_writeAll ahead,
      Hop.length_flatMap_write own fun other member => by simp [split, member]]
  rw [apart, ← front]
  exact numberAt_encode _ _ fits

theorem length_wire (headers trailing : List UInt8)
    (asked : ∀ record ∈ records, record.AskedBy intBitmask scionBitmask) :
    (wire headers records trailing).length = 8 + headers.length +
      records.length * Framing.hopWidth intBitmask scionBitmask + trailing.length := by
  rw [wire, List.length_append, List.length_append, List.length_append, Bitstring.length_encode,
    Hop.length_writeAll asked]
  omega

/-- What the payload says of itself is what its headers announce. -/
structure Framed (headers payload : List UInt8) (count intBitmask scionBitmask : Nat) : Prop where
  headers : Framing.headers payload = headers.length
  hopCount : Framing.hopCount payload = count
  intBitmask : Framing.intBitmask payload = intBitmask
  scionBitmask : Framing.scionBitmask payload = scionBitmask
  wellFramed : WellFramed payload

theorem wire_framed (trailing : List UInt8)
    (announced : Announces headers records.length intBitmask scionBitmask)
    (asked : ∀ record ∈ records, record.AskedBy intBitmask scionBitmask) :
    Framed headers (wire headers records trailing) records.length intBitmask scionBitmask := by
  have long := announced.long
  have same : Framing.headers (wire headers records trailing) = headers.length :=
    headers_wire announced.lengthFits
  have stop : Framing.stop (wire headers records trailing) = 8 + headers.length :=
    congrArg (8 + ·) same
  have stack : Framing.stack (wire headers records trailing) =
      numberAt headers 1 (headers.length - 15) := numberAt_wire (by omega) (by omega)
  have stride : Framing.stride (wire headers records trailing) =
      numberAt headers 1 (headers.length - 10) % 32 :=
    congrArg (· % 32) (numberAt_wire (by omega) (by omega))
  have int : Framing.intBitmask (wire headers records trailing) = intBitmask :=
    (numberAt_wire (by omega) (by omega)).trans announced.intBitmask
  have scion : Framing.scionBitmask (wire headers records trailing) = scionBitmask :=
    (numberAt_wire (by omega) (by omega)).trans announced.scionBitmask
  have count : Framing.hopCount (wire headers records trailing) = records.length := by
    rw [Framing.hopCount, stack, stride]
    exact announced.count
  have length := length_wire headers trailing asked
  refine ⟨same, count, int, scion, ?_⟩
  constructor
  case stackHeader => rw [stack]; exact announced.stackHeader
  case stridePositive => rw [stride]; exact announced.stridePositive
  case wholeHops => rw [stack, stride]; exact announced.wholeHops
  case hopsPresent =>
    rw [Framing.hopsWidth, stop, count, int, scion, length]
    omega
  all_goals omega

/-- Written records are read back, with their times in nanoseconds. -/
theorem ReadFrom.hops_eq {packet : Packet}
    (read : packet.ReadFrom (wire headers records trailing))
    (framed : Framed headers (wire headers records trailing) records.length intBitmask
      scionBitmask)
    (asked : ∀ record ∈ records, record.AskedBy intBitmask scionBitmask) :
    packet.hops = records.map Hop.inNanoseconds := by
  have length : packet.hops.length = records.length := read.hopCount.trans framed.hopCount
  apply List.ext_getElem (by rw [length, List.length_map])
  intro index inside inside'
  rw [List.getElem_map]
  have short : index < records.length := length ▸ inside
  apply Hop.ext_get
  intro f
  obtain ⟨slot, listed, rfl⟩ := Slot.exists_slot f
  obtain ⟨before, after, split⟩ := List.append_of_mem listed
  have field := read.fields index _ (List.getElem?_eq_getElem inside) before slot after split
  have presence := asked records[index] (List.getElem_mem short) slot listed
  have among : records = records.take index ++ records[index] :: records.drop (index + 1) := by
    simp
  rw [framed.intBitmask, framed.scionBitmask, ← presence] at field
  rw [field, Hop.get_inNanoseconds _ listed]
  cases has : records[index].get slot.field with
  | none => rfl
  | some n =>
    have here := numberAt_wire_field headers trailing asked among split has
    rw [List.length_take, Nat.min_eq_left (Nat.le_of_lt short)] at here
    rw [Framing.place, Framing.stop, framed.headers, framed.intBitmask, framed.scionBitmask, here]
    rfl

end Wire

/-- Every hop of a decoded packet comes from its own bytes. So records behind headers that announce
them are decoded and read back, whatever follows them. -/
theorem hops_from_own_bytes_and_read_back :
    (∀ payload packet, decode payload = .ok packet → packet.ReadFrom payload) ∧
    ∀ headers records trailing intBitmask scionBitmask,
      Announces headers records.length intBitmask scionBitmask →
      (∀ record ∈ records, record.AskedBy intBitmask scionBitmask) →
      ∃ packet, decode (wire headers records trailing) = .ok packet ∧
        packet.headers = headers ∧ packet.hops = records.map Hop.inNanoseconds := by
  refine ⟨fun payload packet decoded => decode_readFrom decoded, ?_⟩
  intro headers records trailing intBitmask scionBitmask announced asked
  have framed := wire_framed trailing announced asked
  obtain ⟨packet, decoded, -⟩ := (decode_demands _).met framed.wellFramed
  have read := decode_readFrom decoded
  refine ⟨packet, decoded, ?_, read.hops_eq framed asked⟩
  rw [read.headers, framed.headers, wire, List.drop_left' (Bitstring.length_encode _ _),
    List.take_left]

/-- Headers that announce two hops with a node, an ingress time and an AS each. -/
def twoHopHeaders : List UInt8 :=
  [0, 0, 0, 7, 0, 5, 0, 0, 0, 0, 1, 0, 0x88, 0, 0, 0, 0, 1, 0, 0]

/-- The second time is the last one that eight bytes can hold. -/
def twoHops : List Hop :=
  [{ nodeId := some 1, ingressTimestamp := some 5, asn := some 9 },
    { nodeId := some 2, ingressTimestamp := some 0xffffffffffffffff, asn := some 9 }]

theorem twoHops_read_back :
    Announces twoHopHeaders twoHops.length 0x8800 1 ∧
    (∀ record ∈ twoHops, record.AskedBy 0x8800 1) ∧
    ∃ packet, decode (wire twoHopHeaders twoHops [0xff]) = .ok packet ∧
      packet.ReadFrom (wire twoHopHeaders twoHops [0xff]) ∧
      packet.hops =
        [{ nodeId := some 1, ingressTimestamp := some 5000, asn := some 9 },
          { nodeId := some 2, ingressTimestamp := some 0xfffffffffffffc18, asn := some 9 }] := by
  have announced : Announces twoHopHeaders twoHops.length 0x8800 1 := by
    constructor <;> decide
  have asked : ∀ record ∈ twoHops, record.AskedBy 0x8800 1 := by
    unfold Hop.AskedBy
    decide
  obtain ⟨reads, writes⟩ := hops_from_own_bytes_and_read_back
  obtain ⟨packet, decoded, -, hops⟩ := writes twoHopHeaders twoHops [0xff] _ _ announced asked
  exact ⟨announced, asked, packet, decoded, reads _ packet decoded, hops⟩

end Packet

end SwitchAgent.Telemetry
