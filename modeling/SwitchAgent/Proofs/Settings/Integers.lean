import SwitchAgent.Proofs.Settings.Sources
import SwitchAgent.Proofs.Toml.Preamble

/-!
# Integers given for settings

An integer that is given for a setting, in the file or by a variable, is refused if it is below
zero. Of any other only the low 32 bits are kept where there is room for no more.
-/

namespace SwitchAgent.Settings

open Text

/-- In the text of an integer there are no letters. -/
theorem lower_of_writes {numeral : List Char} {v : Int} (written : Writes numeral v) :
    lower numeral = numeral := by
  obtain ⟨cs, n, ⟨-, ds, digits, -⟩, forms⟩ := written
  have all : ∀ d < 10, (Nat.digitChar d).toLower = Nat.digitChar d := by decide
  have same : lower cs = cs := by
    refine (List.map_congr_left (forall_mem_of_forall₂ digits ?_)).trans (List.map_id' cs)
    intro c d known
    obtain ⟨low, rfl⟩ := decimal_of_digitValue known
    exact all d low
  rcases forms with ⟨rfl, -⟩ | ⟨rfl, -⟩ | ⟨rfl, -⟩
  · exact same
  · exact congrArg (List.cons '+') same
  · exact congrArg (List.cons '-') same

/-- A variable gives an integer if its text is one. -/
theorem ofUntyped_eq_integer_iff {text : String} {v : Int} :
    Scalar.ofUntyped text = .integer v ↔ Writes text.toList v ∧ Toml.Fits v := by
  have read : readInteger 0x8000000000000000 text.toList = .ok v ↔
      Writes text.toList v ∧ Toml.Fits v := readInteger_eq_ok_iff (by decide)
  rw [← read]
  constructor
  · intro integer
    unfold Scalar.ofUntyped at integer
    split at integer
    · cases integer
    · cases integer
    · split at integer
      · rename_i known
        cases integer
        exact known
      · split at integer <;> cases integer
  · intro known
    have low := lower_of_writes (read.mp known).1
    unfold Scalar.ofUntyped
    rw [low, String.ofList_toList]
    split
    · cases known
    · cases known
    · rw [known]

/-- The integer `v` is given for a setting: by its variable, or else by its key in the file. -/
def Gives (layer : Layer) (environment : Environment) (f : Field) (v : Int) : Prop :=
  (∃ text, environment.value? f = some text ∧ Writes text.toList v) ∨
  (environment.value? f = none ∧ layer.lookup f.name = some (.scalar (.integer v)))

theorem winning_of_gives {layer : Layer} {environment : Environment} {f : Field} {v : Int}
    (given : Gives layer environment f v) (fits : Toml.Fits v) :
    winning layer environment f = .scalar (.integer v) := by
  rcases given with ⟨text, set, written⟩ | ⟨unset, key⟩
  · simp only [winning, set, ofUntyped_eq_integer_iff.mpr ⟨written, fits⟩]
  · simp only [winning, unset, key]
    rfl

theorem coerce_integer {f : Field} (narrow : f ≠ .connectTimeout) {v : Int} (fits : Toml.Fits v) :
    f.coerce (.scalar (.integer v)) = if 0 ≤ v then some (v % 2 ^ 32).toNat else none := by
  have room : f.room = 2 ^ 32 := by
    cases f
    case connectTimeout => exact absurd rfl narrow
    all_goals rfl
  obtain ⟨-, below⟩ := fits
  by_cases sign : 0 ≤ v
  · obtain ⟨n, rfl⟩ := Int.eq_ofNat_of_zero_le sign
    have small : n < UInt64.size := by
      have size : UInt64.size = 2 ^ 64 := rfl
      omega
    have count : Entry.count? (.scalar (.integer n)) = some (UInt64.ofNat n) := by
      rw [Entry.count?, Scalar.count?, if_pos ⟨sign, Int.ofNat_lt.mpr small⟩, Int.toNat_natCast]
    have kept : (UInt64.ofNat n).toNat = n := UInt64.toNat_ofNat_of_lt' small
    rw [if_pos sign, Field.coerce, count, Option.map_some, kept, room]
    congr 1
  · have count : Entry.count? (.scalar (.integer v)) = none := by
      rw [Entry.count?, Scalar.count?, if_neg fun both => sign both.1]
    rw [if_neg sign, Field.coerce, count, Option.map_none]

/-- Nothing but the setting itself keeps settings from being loaded. -/
def RestValid (layer : Layer) (environment : Environment) (f : Field) : Prop :=
  (∀ g, ¬ LedInto layer environment g) ∧
    ∀ g, g ≠ f → (Field.coerce g (winning layer environment g)).isSome

section Load

variable {reader : Reader} {files : Files} {path : Option String} {layer : Layer}
  {environment : Environment} {f : Field} {v : Int}

theorem get_of_gives (said : Says reader files path layer) (distinct : environment.Distinct)
    (narrow : f ≠ .connectTimeout) (fits : Toml.Fits v) (given : Gives layer environment f v)
    {s : Settings} (loaded : load files path environment reader = some s) :
    0 ≤ v ∧ (s.get f : Int) = v % 2 ^ 32 := by
  have kept := coerce_of_load distinct said loaded f
  rw [winning_of_gives given fits, coerce_integer narrow fits] at kept
  split at kept
  · rename_i sign
    have value := Option.some.inj kept
    refine ⟨sign, ?_⟩
    rw [← value]
    omega
  · cases kept

theorem exists_load_of_gives (said : Says reader files path layer)
    (distinct : environment.Distinct) (narrow : f ≠ .connectTimeout) (fits : Toml.Fits v)
    (given : Gives layer environment f v) (sign : 0 ≤ v) (rest : RestValid layer environment f) :
    ∃ s, load files path environment reader = some s := by
  obtain ⟨free, coerced⟩ := rest
  refine exists_load said distinct free ?_
  intro g
  by_cases own : g = f
  · subst own
    rw [winning_of_gives given fits, coerce_integer narrow fits, if_pos sign]
    rfl
  · exact coerced g own

end Load

/-- Lines at the start of a document give their integers, however the document goes on. -/
theorem lookup_of_lines {text : String} {v : Toml.Value} {lines : List Toml.Assignment}
    (parsed : Toml.read text = some v) (apart : (lines.map Toml.Assignment.key).Nodup)
    (starts : lines.flatMap Toml.Assignment.line <+: text.toList) :
    ∀ a ∈ lines, (layerOf v.topLevel).lookup a.key = some (.scalar (.integer a.value)) := by
  intro a among
  have distinct := Toml.distinct_read parsed
  obtain ⟨more, rfl⟩ := Toml.read_of_lines apart (List.ne_nil_of_mem among) starts parsed
  have member : (a.key, Toml.Value.integer a.value) ∈
      lines.map Toml.Assignment.member ++ more :=
    List.mem_append_left more (List.mem_map_of_mem among)
  rw [lookup_layerOf]
  exact congrArg (Option.map Change.ofToml) ((lookup_eq_some_iff_mem distinct).mpr member)

/-- What becomes of an integer that is given for a setting of 32 bits. -/
structure CutTo32Bits (reader : Reader) (files : Files) (path : Option String) (layer : Layer)
    (environment : Environment) (f : Field) (v : Int) : Prop where
  keptOrRefused : RestValid layer environment f →
    ((if 0 ≤ v ∧ v < 2 ^ 32 then
        ∃ s, load files path environment reader = some s ∧ (s.get f : Int) = v
      else load files path environment reader = none) ↔ v < 2 ^ 32)
  refused : v < 0 → load files path environment reader = none
  taken : 0 ≤ v → RestValid layer environment f →
    ∃ s, load files path environment reader = some s
  cut : ∀ s, load files path environment reader = some s → (s.get f : Int) = v % 2 ^ 32
  /-- Two integers make the same setting if their low 32 bits are the same. -/
  confused : ∀ reader' files' path' layer' (environment' : Environment) v' s s',
    Says reader' files' path' layer' → environment'.Distinct → Toml.Fits v' →
    Gives layer' environment' f v' → load files path environment reader = some s →
    load files' path' environment' reader' = some s' →
      (s.get f = s'.get f ↔ v % 2 ^ 32 = v' % 2 ^ 32)

/-- How an integer comes to be given: by a literal wherever a term stands, by a line that a TOML
file starts with, or by the text of a variable. -/
structure GivenByText (v : Int) : Prop where
  literal : ∀ cs, Toml.Literal cs v → ∀ rest, Toml.Ends rest → ∀ fuel,
    Toml.readTerm (fuel + 1) (cs ++ rest) = some (.integer v, rest)
  line : ∀ (reader : Reader) (files : Files) path found text document
    (lines : List Toml.Assignment) (environment : Environment) (f : Field),
    LeadsTo reader files path .toml found → files.text found = .ok text →
    Toml.read text = some document → (lines.map Toml.Assignment.key).Nodup →
    lines.flatMap Toml.Assignment.line <+: text.toList →
    (∃ a ∈ lines, a.key = f.name ∧ a.value = v) → environment.value? f = none →
      ∃ layer, Says reader files (some path) layer ∧ Gives layer environment f v
  untyped : ∀ text, Scalar.ofUntyped text = .integer v ↔ Writes text.toList v

theorem cutTo32Bits {reader : Reader} {files : Files} {path : Option String} {layer : Layer}
    {environment : Environment} {f : Field} {v : Int} (said : Says reader files path layer)
    (distinct : environment.Distinct) (narrow : f ≠ .connectTimeout) (fits : Toml.Fits v)
    (given : Gives layer environment f v) :
    CutTo32Bits reader files path layer environment f v := by
  have refused : v < 0 → load files path environment reader = none := by
    intro below
    refine Option.eq_none_iff_forall_ne_some.mpr fun s loaded => ?_
    obtain ⟨sign, -⟩ := get_of_gives said distinct narrow fits given loaded
    omega
  have taken (sign : 0 ≤ v) := exists_load_of_gives said distinct narrow fits given sign
  have cut (s : Settings) (loaded : load files path environment reader = some s) :=
    (get_of_gives said distinct narrow fits given loaded).2
  constructor
  case refused => exact refused
  case taken => exact taken
  case cut => exact cut
  case keptOrRefused =>
    intro rest
    constructor
    · intro settled
      by_contra large
      obtain ⟨s, loaded⟩ := taken (by omega) rest
      rw [if_neg (by omega)] at settled
      cases settled.symm.trans loaded
    · intro below
      by_cases sign : 0 ≤ v
      · obtain ⟨s, loaded⟩ := taken sign rest
        have value := cut s loaded
        rw [if_pos ⟨sign, below⟩]
        exact ⟨s, loaded, by omega⟩
      · rw [if_neg fun both => sign both.1]
        exact refused (by omega)
  case confused =>
    intro reader' files' path' layer' environment' v' s s' said' distinct' fits' given' loaded
      loaded'
    have value := cut s loaded
    obtain ⟨-, value'⟩ := get_of_gives said' distinct' narrow fits' given' loaded'
    rw [← value, ← value']
    exact Int.ofNat_inj.symm

theorem givenByText {v : Int} (fits : Toml.Fits v) : GivenByText v where
  literal cs literal rest ends fuel := Toml.readTerm_of_literal literal fits ends fuel
  line reader files path found text document lines environment f leads read parsed apart starts
      stands unset := by
    obtain ⟨a, among, own, rfl⟩ := stands
    have key := lookup_of_lines parsed apart starts a among
    rw [own] at key
    exact ⟨layerOf document.topLevel, .toml leads read parsed, .inr ⟨unset, key⟩⟩
  untyped text := by rw [ofUntyped_eq_integer_iff, and_iff_left fits]

/-- One port number that takes 33 bits. -/
def wideLine : Toml.Assignment :=
  { key := "num_switch_ports"
    literal := ['4', '2', '9', '4', '9', '6', '7', '3', '0', '4']
    value := 4294967304
    named := by decide
    bare := List.all_eq_true.mp (by decide)
    written := .plain ⟨[4, 2, 9, 4, 9, 6, 7, 3, 0, 4],
      .next rfl (.next rfl (.next rfl (.next rfl (.next rfl (.next rfl (.next rfl (.next rfl
        (.next rfl (.last rfl))))))))), by decide, rfl⟩
    fits := by unfold Toml.Fits; decide }

theorem says_wideLine :
    Says .tomlOnly (oneFile "settings.toml" "num_switch_ports = 4294967304\n")
      (some "settings.toml") [("num_switch_ports", .scalar (.integer 4294967304))] := by
  have text : Toml.textOf [wideLine] = "num_switch_ports = 4294967304\n" := by decide +kernel
  have apart : ([wideLine].map Toml.Assignment.key).Nodup := List.nodup_singleton _
  rw [← text]
  exact says_textOf apart (leadsTo_oneFile .tomlOnly (by decide +kernel) _) (text_oneFile _ _)

end SwitchAgent.Settings
