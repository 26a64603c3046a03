import Mathlib.Data.List.TFAE
import Mathlib.Tactic.TFAE
import SwitchAgent.Address.IsdAsForm
import SwitchAgent.Proofs.Address.Representations
import SwitchAgent.Proofs.Json.Forms
import SwitchAgent.Proofs.Json.Records
import SwitchAgent.Proofs.Json.Values

/-!
# Addresses from documents

A document gives the domain and the AS number by name or by place, and both are taken as they stand.
A number of more than 48 bits is no AS number: its high bits reach into the domain when it is
packed, and its text is the text of another address.
-/

namespace SwitchAgent.IsdAs

open Json

/-- The integers that a document gives for the domain and the AS number. -/
inductive GivenBy (isd asn : Int) : Document → Prop
  | byName {members : List (Literal × Document)} {domain number : Document}
      (legible : Legible ["isd", "asn"] members) (isdOnce : valuesOf "isd" members = [domain])
      (asnOnce : valuesOf "asn" members = [number]) (isd_eq : domain.integer? = some isd)
      (asn_eq : number.integer? = some asn) : GivenBy isd asn (.object members)
  | byPlace {domain number : Document} (isd_eq : domain.integer? = some isd)
      (asn_eq : number.integer? = some asn) : GivenBy isd asn (.array [domain, number])

theorem GivenBy.unique {isd asn isd' asn' : Int} {d : Document} (first : GivenBy isd asn d)
    (second : GivenBy isd' asn' d) : isd = isd' ∧ asn = asn' := by
  cases first with
  | byName _ isdOnce asnOnce isd_eq asn_eq =>
    cases second with
    | byName _ isdOnce' asnOnce' isd_eq' asn_eq' =>
      rw [isdOnce] at isdOnce'
      rw [asnOnce] at asnOnce'
      cases isdOnce'
      cases asnOnce'
      exact ⟨Option.some.inj (isd_eq.symm.trans isd_eq'),
        Option.some.inj (asn_eq.symm.trans asn_eq')⟩
  | byPlace isd_eq asn_eq =>
    cases second with
    | byPlace isd_eq' asn_eq' =>
      exact ⟨Option.some.inj (isd_eq.symm.trans isd_eq'),
        Option.some.inj (asn_eq.symm.trans asn_eq')⟩

/-- An address is built from two fields, each of them an integer. -/
theorem decode_stages {scope : Scope} {d : Document} {a : IsdAs} :
    Form.decode scope d = some a ↔ ∃ fields domain number,
      Fields.ofDocument ["isd", "asn"] scope d = some fields ∧
      fields.get? "isd" = some domain ∧ domain.integer? = some (a.isd.toNat : Int) ∧
      fields.get? "asn" = some number ∧ number.integer? = some (a.asn.toNat : Int) := by
  constructor
  · intro decoded
    obtain ⟨fields, opened, built⟩ := Option.bind_eq_some_iff.mp decoded
    obtain ⟨isd, first, built⟩ := Option.bind_eq_some_iff.mp built
    obtain ⟨asn, second, built⟩ := Option.bind_eq_some_iff.mp built
    obtain ⟨domain, here, isd_eq⟩ := Option.bind_eq_some_iff.mp first
    obtain ⟨number, there, asn_eq⟩ := Option.bind_eq_some_iff.mp second
    cases built
    exact ⟨fields, domain, number, opened, here, decode_word16_eq_some_iff.mp isd_eq, there,
      decode_word64_eq_some_iff.mp asn_eq⟩
  · rintro ⟨fields, domain, number, opened, here, isd_eq, there, asn_eq⟩
    have first : fields.required "isd" = some a.isd :=
      Option.bind_eq_some_iff.mpr ⟨domain, here, decode_word16_eq_some_iff.mpr isd_eq⟩
    have second : fields.required "asn" = some a.asn :=
      Option.bind_eq_some_iff.mpr ⟨number, there, decode_word64_eq_some_iff.mpr asn_eq⟩
    change (Fields.ofDocument ["isd", "asn"] scope d).bind (fun fields =>
      (fields.required "isd").bind fun isd => (fields.required "asn").bind fun asn =>
        some (IsdAs.mk isd asn)) = some a
    rw [opened, Option.bind_some, first, Option.bind_some, second, Option.bind_some]

/-- One level of nesting is enough, wherever the document stands. -/
theorem decode_eq_some_iff {depth : Nat} {buffered : Bool} {d : Document} {a : IsdAs} :
    Form.decode ⟨depth + 1, buffered⟩ d = some a ↔ GivenBy a.isd.toNat a.asn.toNat d := by
  rw [decode_stages]
  constructor
  · rintro ⟨fields, domain, number, opened, here, isd_eq, there, asn_eq⟩
    cases d with
    | object members =>
      obtain ⟨found, collected, rfl⟩ := Fields.ofDocument_object_eq_some_iff.mp opened
      have legible := (Fields.exists_collect_iff.mp ⟨found, collected⟩).1
      have isdOnce := (Fields.lookup_eq_some_iff_of_collect collected (by simp)).mp here
      have asnOnce := (Fields.lookup_eq_some_iff_of_collect collected (by simp)).mp there
      exact .byName legible isdOnce asnOnce isd_eq asn_eq
    | array items =>
      obtain ⟨few, rfl⟩ := Fields.ofDocument_array_eq_some_iff.mp opened
      match items, few with
      | [], _ => cases here
      | [_], _ => cases there
      | [_, _], _ =>
        cases here
        cases there
        exact .byPlace isd_eq asn_eq
    | _ => cases opened
  · intro given
    cases given with
    | @byName members domain number legible isdOnce asnOnce isd_eq asn_eq =>
      have once : ∀ name ∈ ["isd", "asn"], (valuesOf name members).length ≤ 1 := by
        simp [isdOnce, asnOnce]
      obtain ⟨found, collected⟩ := Fields.exists_collect_iff.mpr ⟨legible, once⟩
      have here := (Fields.lookup_eq_some_iff_of_collect collected (by simp)).mpr isdOnce
      have there := (Fields.lookup_eq_some_iff_of_collect collected (by simp)).mpr asnOnce
      exact ⟨_, domain, number, Fields.ofDocument_object_eq_some_iff.mpr ⟨found, collected, rfl⟩,
        here, isd_eq, there, asn_eq⟩
    | @byPlace domain number isd_eq asn_eq =>
      exact ⟨_, domain, number, Fields.ofDocument_array_eq_some_iff.mpr ⟨Nat.le_refl 2, rfl⟩,
        rfl, isd_eq, rfl, asn_eq⟩

theorem GivenBy.asn_lt {isd asn : Int} {d : Document} (given : GivenBy isd asn d) :
    asn < 2 ^ 64 := by
  have bounded {number : Document} (integer : number.integer? = some asn) : asn < 2 ^ 64 := by
    cases number with
    | number n => exact (Numeral.range_of_integer? integer).2
    | _ => cases integer
  cases given with
  | byName _ _ _ _ asn_eq => exact bounded asn_eq
  | byPlace _ asn_eq => exact bounded asn_eq

theorem read_eq_some_iff {text : String} {a : IsdAs} :
    Json.read text = some a ↔
      ∃ d, Document.read text = some d ∧ GivenBy a.isd.toNat a.asn.toNat d := by
  rw [Json.read, Option.bind_eq_some_iff]
  exact exists_congr fun d => and_congr_right fun _ => decode_eq_some_iff

/-- The low 48 bits of the packed word are those of the number. -/
theorem asn_unpack_pack (a : IsdAs) : (unpack a.pack).asn = (make a.isd a.asn).asn := by
  have domain : (a.isd.toNat <<< 48) % 2 ^ 48 = 0 := by
    rw [Nat.shiftLeft_eq]
    exact Nat.mul_mod_left _ _
  apply UInt64.toNat_inj.mp
  rw [unpack, make, make, UInt64.toNat_mod, UInt64.toNat_mod, pack, UInt64.toNat_or, toNat_domain]
  change (a.isd.toNat <<< 48 ||| a.asn.toNat) % 2 ^ 48 = a.asn.toNat % 2 ^ 48
  rw [Nat.or_mod_two_pow, domain, Nat.zero_or]

/-- What the number has above them reaches into the domain. -/
theorem isd_unpack_pack (a : IsdAs) :
    (unpack a.pack).isd = a.isd ||| (a.asn >>> 48).toUInt16 := by
  have domain : ((a.isd.toUInt64 <<< 48) >>> 48).toUInt16 = a.isd := by
    apply UInt16.toNat_inj.mp
    rw [UInt64.toNat_toUInt16, UInt64.toNat_shiftRight, toNat_domain]
    change (a.isd.toNat <<< 48) >>> 48 % 2 ^ 16 = a.isd.toNat
    rw [Nat.shiftLeft_shiftRight, Nat.mod_eq_of_lt a.isd.toNat_lt]
  rw [unpack, make, pack, UInt64.shiftRight_or, UInt64.toUInt16_or, domain]

theorem unpack_pack_eq (a : IsdAs) :
    unpack a.pack = make (a.isd ||| (a.asn >>> 48).toUInt16) a.asn :=
  congrArg₂ IsdAs.mk (isd_unpack_pack a) (asn_unpack_pack a)

/-- Nothing but the low 48 bits is written. -/
theorem text_make (a : IsdAs) : (make a.isd a.asn).text = a.text := by
  have same : groups (make a.isd a.asn).asn = groups a.asn := by
    have high : a.asn.toNat % 2 ^ 48 / 2 ^ 32 % 2 ^ 16 = a.asn.toNat / 2 ^ 32 % 2 ^ 16 := by omega
    have middle : a.asn.toNat % 2 ^ 48 / 2 ^ 16 % 2 ^ 16 = a.asn.toNat / 2 ^ 16 % 2 ^ 16 := by
      omega
    have low : a.asn.toNat % 2 ^ 48 % 2 ^ 16 = a.asn.toNat % 2 ^ 16 := by omega
    rw [make, groups, groups, UInt64.toNat_mod]
    exact congrArg₂ List.cons high (congrArg₂ List.cons middle (congrArg₂ List.cons low rfl))
  rw [text, text, same]
  rfl

theorem parse_text_eq (a : IsdAs) : parse a.text = .ok (make a.isd a.asn) := by
  rw [← text_make]
  exact parse_text (asn_make_lt a.isd a.asn)

/-- What holds of every address that was made of a domain and a number. -/
structure Sound (a : IsdAs) : Prop where
  made : make a.isd a.asn = a
  highBits : (a.pack >>> 48).toUInt16 = a.isd
  lowBits : a.pack &&& 0xffffffffffff = a.asn
  unpacked : unpack a.pack = a
  parsed : parse a.text = .ok a

/-- There is no part of it that holds of a number of more than 48 bits, but that its high bits may
happen to stand in the domain. -/
theorem sound_tfae (a : IsdAs) :
    [a.asn.toNat < 2 ^ 48, a.Sound, make a.isd a.asn = a, a.pack &&& 0xffffffffffff = a.asn,
      unpack a.pack = a, parse a.text = .ok a].TFAE := by
  have low : a.pack &&& 0xffffffffffff = (make a.isd a.asn).asn := by
    rw [← asn_unpack_pack, unpack, make_asn]
  tfae_have 3 → 1 := by
    intro made
    rw [← made]
    exact asn_make_lt _ _
  tfae_have 4 → 3 := by
    intro lowBits
    exact congrArg (IsdAs.mk a.isd) (low.symm.trans lowBits)
  tfae_have 5 → 1 := by
    intro unpacked
    rw [← unpacked]
    exact asn_make_lt _ _
  tfae_have 6 → 3 := by
    intro parsed
    exact Except.ok.inj ((parse_text_eq a).symm.trans parsed)
  tfae_have 1 → 2 := by
    intro fits
    have unpacked := unpack_pack fits
    have parsed := parse_text fits
    have made := Except.ok.inj ((parse_text_eq a).symm.trans parsed)
    exact ⟨made, congrArg isd unpacked, low.trans (congrArg asn made), unpacked, parsed⟩
  tfae_have 2 → 4 := Sound.lowBits
  tfae_have 2 → 5 := Sound.unpacked
  tfae_have 2 → 6 := Sound.parsed
  tfae_finish

theorem integer?_encode_word16 (n : UInt16) :
    (encode n).toDocument.integer? = some (n.toNat : Int) :=
  decode_word16_eq_some_iff.mp (Form.Lawful.decode_encode n .outer (Nat.zero_le _))

theorem integer?_encode_word64 (n : UInt64) :
    (encode n).toDocument.integer? = some (n.toNat : Int) :=
  decode_word64_eq_some_iff.mp (Form.Lawful.decode_encode n .outer (Nat.zero_le _))

theorem read_byName (a : IsdAs) : Json.read (Json.write a) = some a := by
  have given : GivenBy a.isd.toNat a.asn.toNat (encode a).toDocument := by
    refine .byName ?_ ?_ ?_ (integer?_encode_word16 a.isd) (integer?_encode_word64 a.asn)
    · simp [Legible, Value.toDocumentMembers, Literal.text?_ofString]
    · simp [valuesOf, Value.toDocumentMembers, Literal.text?_ofString]
    · simp [valuesOf, Value.toDocumentMembers, Literal.text?_ofString]
  have exact : (encode a).Exact :=
    ⟨by simp, Form.Lawful.exact a.isd, Form.Lawful.exact a.asn, trivial⟩
  exact read_write_of_decode exact (decode_eq_some_iff.mpr given)

theorem read_byPlace (a : IsdAs) :
    Json.read (Value.array [encode a.isd, encode a.asn]).text = some a := by
  have given : GivenBy a.isd.toNat a.asn.toNat
      (Value.array [encode a.isd, encode a.asn]).toDocument :=
    .byPlace (integer?_encode_word16 a.isd) (integer?_encode_word64 a.asn)
  have exact : (Value.array [encode a.isd, encode a.asn]).Exact :=
    ⟨Form.Lawful.exact a.isd, Form.Lawful.exact a.asn, trivial⟩
  rw [read_text_eq exact]
  exact decode_eq_some_iff.mpr given

/-- Given integers are read unless one of them is no word. -/
theorem isSome_read_iff {text : String} {d : Document} {isd asn : Int}
    (known : Document.read text = some d) (given : GivenBy isd asn d) :
    (Json.read text : Option IsdAs).isSome ↔ 0 ≤ isd ∧ isd < 2 ^ 16 ∧ 0 ≤ asn := by
  rw [Option.isSome_iff_exists]
  constructor
  · rintro ⟨a, read⟩
    obtain ⟨d', known', given'⟩ := read_eq_some_iff.mp read
    cases known.symm.trans known'
    obtain ⟨rfl, rfl⟩ := given.unique given'
    have small := a.isd.toNat_lt
    omega
  · intro range
    have bounded := given.asn_lt
    have isd_eq : ((UInt16.ofNat isd.toNat).toNat : Int) = isd := by
      rw [UInt16.toNat_ofNat_of_lt' (by rw [UInt16.size]; omega)]
      omega
    have asn_eq : ((UInt64.ofNat asn.toNat).toNat : Int) = asn := by
      rw [UInt64.toNat_ofNat_of_lt' (by rw [UInt64.size]; omega)]
      omega
    refine ⟨⟨.ofNat isd.toNat, .ofNat asn.toNat⟩, read_eq_some_iff.mpr ⟨d, known, ?_⟩⟩
    rwa [isd_eq, asn_eq]

/-- An address is read if and only if integers are given for it that are words, in an object or in
an array, and is read as they stand. What holds of every address that was made then holds of it if
and only if its number has no more than 48 bits: of any other one the high bits are or-ed into the
domain when it is packed, and its text is read as the address without them. -/
theorem read_as_given_and_sound_iff_asn_fits (text : String) (a : IsdAs) :
    (Json.read text = some a ↔
      ∃ d, Document.read text = some d ∧ GivenBy a.isd.toNat a.asn.toNat d) ∧
    (∀ d isd asn, Document.read text = some d → GivenBy isd asn d →
      ((Json.read text : Option IsdAs).isSome ↔ 0 ≤ isd ∧ isd < 2 ^ 16 ∧ 0 ≤ asn)) ∧
    [a.asn.toNat < 2 ^ 48, a.Sound, make a.isd a.asn = a, a.pack &&& 0xffffffffffff = a.asn,
      unpack a.pack = a, parse a.text = .ok a].TFAE ∧
    unpack a.pack = make (a.isd ||| (a.asn >>> 48).toUInt16) a.asn ∧
    parse a.text = .ok (make a.isd a.asn) ∧
    Json.read (Json.write a) = some a ∧
    Json.read (Value.array [encode a.isd, encode a.asn]).text = some a :=
  ⟨read_eq_some_iff, fun _ _ _ => isSome_read_iff, sound_tfae a, unpack_pack_eq a, parse_text_eq a,
    read_byName a, read_byPlace a⟩

/-- Its number takes 50 bits. -/
def wide : IsdAs :=
  ⟨1, 0x2ff0000000110⟩

theorem wide_address_packed_and_written_as_others :
    Json.read "\x7b\"isd\":1,\"asn\":843325418504464\x7d" = some wide ∧ ¬ wide.Sound ∧
    unpack wide.pack = ⟨3, 0xff0000000110⟩ ∧ parse wide.text = .ok ⟨1, 0xff0000000110⟩ ∧
    (Json.read (Value.array [.integer 0x10000, .integer 1]).text : Option IsdAs) = none := by
  have text : Json.write wide = "\x7b\"isd\":1,\"asn\":843325418504464\x7d" := by decide +kernel
  have exact : (Value.array [.integer 0x10000, .integer 1]).Exact := by
    refine ⟨⟨?_, ?_⟩, ⟨?_, ?_⟩, trivial⟩ <;> decide
  obtain ⟨-, reads, same, packed, parsed, written, -⟩ := read_as_given_and_sound_iff_asn_fits
    (Value.array [.integer 0x10000, .integer 1]).text wide
  rw [text] at written
  refine ⟨written, ?_, packed.trans (by decide), parsed.trans (by decide), ?_⟩
  · intro sound
    exact absurd ((same.out 0 1).mpr sound) (by decide)
  · have refused := reads _ 0x10000 1 (Value.read_text _ exact) (.byPlace rfl rfl)
    rw [← Option.not_isSome_iff_eq_none, refused]
    decide

end SwitchAgent.IsdAs
