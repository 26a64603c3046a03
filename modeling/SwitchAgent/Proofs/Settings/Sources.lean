import SwitchAgent.Proofs.Settings.Layers
import SwitchAgent.Proofs.Settings.Locations
import SwitchAgent.Proofs.Text.Utf8
import SwitchAgent.Proofs.Toml.Assignments
import SwitchAgent.Settings.Load

/-!
# Where a setting comes from

The five settings by name, and the value that counts for each: that of its variable, else that of
its key in the file, else the built-in one. What is loaded is made of these values alone; other keys
can only spoil it, and only those that lead into a setting.
-/

namespace SwitchAgent.Settings

inductive Field where
  | ports
  | cpuPort
  | cloneSession
  | linkUseEntries
  | connectTimeout
  deriving DecidableEq

namespace Field

def name : Field → String
  | ports => "num_switch_ports"
  | cpuPort => "cpu_port"
  | cloneSession => "clone_session_id"
  | linkUseEntries => "tx_util_entries"
  | connectTimeout => "connect_timeout_secs"

def builtIn : Field → Nat
  | ports => 8
  | cpuPort => 128
  | cloneSession => 1
  | linkUseEntries => 512
  | connectTimeout => 10

/-- How many numbers there is room for. -/
def room : Field → Nat
  | connectTimeout => 2 ^ 64
  | _ => 2 ^ 32

/-- The variable of a setting, as it is spelled where case matters. -/
def variableName (f : Field) : String :=
  "P4CP_" ++ f.name

end Field

def get (s : Settings) : Field → Nat
  | .ports => s.profile.ports.toNat
  | .cpuPort => s.profile.cpuPort.toNat
  | .cloneSession => s.profile.cloneSession.toNat
  | .linkUseEntries => s.profile.linkUseEntries.toNat
  | .connectTimeout => s.connectTimeout.toNat

theorem readPath_name (f : Field) : readPath f.name = (f.name, false) := by
  cases f <;> rfl

theorem lookup_defaults (f : Field) :
    defaults.lookup f.name = some (.scalar (.integer f.builtIn)) := by
  cases f <;> rfl

abbrev Document := List (String × Toml.Value)

abbrev Environment := List (String × String)

/-- What a document says by its keys, in order. -/
def layerOf (document : Document) : Layer :=
  document.map fun m => (m.1, Change.ofToml m.2)

/-- What the file says that a path leads to, or that there is no file. It has to be a text in its
format. -/
inductive Says (reader : Reader) (files : Files) : Option String → Layer → Prop
  | nothing : Says reader files none []
  | toml {path found text : String} {v : Toml.Value}
      (leads : LeadsTo reader files path .toml found) (read : files.text found = .ok text)
      (parsed : Toml.read text = some v) :
      Says reader files (some path) (layerOf v.topLevel)
  | foreign {path found text : String} {format : Format} {layer : Layer} (other : format ≠ .toml)
      (leads : LeadsTo reader files path format found) (read : files.text found = .ok text)
      (parsed : reader.foreign format text = some layer) : Says reader files (some path) layer

def SameButCase (one other : String) : Prop :=
  Text.lower one.toList = Text.lower other.toList

instance (one other : String) : Decidable (SameButCase one other) :=
  inferInstanceAs (Decidable (_ = _))

/-- No two variables have names that differ in case only. -/
def Environment.Distinct (environment : Environment) : Prop :=
  environment.Pairwise fun one other => ¬ SameButCase one.1 other.1

/-- The text that a setting is given in the environment. -/
def Environment.value? (environment : Environment) (f : Field) : Option String :=
  (environment.find? fun v => SameButCase v.1 f.variableName).map Prod.snd

/-- The value that counts for a setting. In a file a table without members gives none. -/
def winning (layer : Layer) (environment : Environment) (f : Field) : Entry :=
  match environment.value? f with
  | some text => .scalar (.ofUntyped text)
  | none => ((layer.lookup f.name).bind Change.outcome?).getD (.scalar (.integer f.builtIn))

def Entry.count? : Entry → Option UInt64
  | .scalar value => value.count?
  | .composite => none

/-- What a setting becomes of an entry. Its count is cut to what there is room for. -/
def Field.coerce (f : Field) (entry : Entry) : Option Nat :=
  entry.count?.map fun n => n.toNat % f.room

/-- A key of the file leads into the setting, or the name of a variable does. -/
def LedInto (layer : Layer) (environment : Environment) (f : Field) : Prop :=
  ∃ change ∈ layer ++ layerOfEnvironment environment, LeadsInto f.name change.1

instance (layer : Layer) (environment : Environment) (f : Field) :
    Decidable (LedInto layer environment f) :=
  inferInstanceAs (Decidable (∃ _ ∈ _, _))

/-- All that file and environment say, in the order in which it is taken. -/
def changes (reader : Reader) (layer : Layer) (environment : Environment) : Layer :=
  reader.arrange layer ++ reader.arrange (layerOfEnvironment environment)

/-- What the last key or variable that concerns a setting makes of it. -/
def settled (reader : Reader) (layer : Layer) (environment : Environment) (f : Field) : Entry :=
  ((changes reader layer environment).filterMap (effect f.name)).getLast?.getD
    (.scalar (.integer f.builtIn))

theorem layerOfDocument_eq (v : Toml.Value) : layerOfDocument v = layerOf v.topLevel := by
  cases v <;> rfl

section Says

variable {reader : Reader} {files : Files}

theorem fileLayer_some_eq_some_iff {path : String} {layer : Layer} :
    fileLayer reader files (some path) = some layer ↔ ∃ format found text,
      LeadsTo reader files path format found ∧ files.text found = .ok text ∧
        reader.layer? format text = some layer := by
  constructor
  · intro made
    obtain ⟨⟨format, found⟩, located, made⟩ := Option.bind_eq_some_iff.mp made
    obtain ⟨text, read, made⟩ := Option.bind_eq_some_iff.mp made
    cases known : files.text found with
    | error fault =>
      rw [known] at read
      cases read
    | ok text' =>
      rw [known] at read
      cases read
      exact ⟨format, found, _, locate_eq_some_iff.mp located, known, made⟩
  · rintro ⟨format, found, text, leads, read, made⟩
    refine Option.bind_eq_some_iff.mpr ⟨(format, found), locate_eq_some_iff.mpr leads, ?_⟩
    refine Option.bind_eq_some_iff.mpr ⟨text, ?_, made⟩
    rw [read]
    rfl

theorem fileLayer_eq_some_iff {path : Option String} {layer : Layer} :
    fileLayer reader files path = some layer ↔ Says reader files path layer := by
  cases path with
  | none =>
    constructor
    · rintro ⟨rfl⟩
      exact .nothing
    · rintro ⟨⟩
      rfl
  | some path =>
    rw [fileLayer_some_eq_some_iff]
    constructor
    · rintro ⟨format, found, text, leads, read, made⟩
      cases format with
      | toml =>
        obtain ⟨v, parsed, rfl⟩ := Option.map_eq_some_iff.mp made
        rw [layerOfDocument_eq]
        exact .toml leads read parsed
      | _ => exact .foreign (by decide) leads read made
    · intro said
      cases said with
      | @toml _ found text v leads read parsed =>
        refine ⟨.toml, found, text, leads, read, ?_⟩
        rw [Reader.layer?, layerOfText, parsed, Option.map_some, layerOfDocument_eq]
      | @foreign _ found text format _ other leads read parsed =>
        refine ⟨format, found, text, leads, read, ?_⟩
        cases format with
        | toml => exact absurd rfl other
        | _ => exact parsed

theorem Says.unique {path : Option String} {layer layer' : Layer}
    (first : Says reader files path layer) (second : Says reader files path layer') :
    layer = layer' :=
  Option.some.inj
    ((fileLayer_eq_some_iff.mpr first).symm.trans (fileLayer_eq_some_iff.mpr second))

/-- No key stands twice in a file. -/
theorem Says.apart {path : Option String} {layer : Layer} (said : Says reader files path layer) :
    (layer.map Prod.fst).Nodup := by
  cases said with
  | nothing => exact List.nodup_nil
  | @toml _ _ _ v leads read parsed =>
    have names : (layerOf v.topLevel).map Prod.fst = v.topLevel.map Prod.fst := by
      simp [layerOf, Function.comp_def]
    rw [names]
    exact Toml.distinct_read parsed
  | foreign other leads read parsed => exact reader.apart parsed

end Says

/-- A file that gives integers only, line by line. -/
theorem says_textOf {reader : Reader} {files : Files} {path found : String}
    {lines : List Toml.Assignment} (apart : (lines.map Toml.Assignment.key).Nodup)
    (leads : LeadsTo reader files path .toml found)
    (read : files.text found = .ok (Toml.textOf lines)) :
    Says reader files (some path) (layerOf (lines.map Toml.Assignment.member)) :=
  .toml leads read (Toml.read_textOf apart)

/-- The only file there is. -/
def oneFile (name text : String) : Files :=
  Files.empty.insert name (Text.Utf8.encode text)

theorem find_oneFile (name text : String) :
    (oneFile name text).find name = some (Text.Utf8.encode text) :=
  if_pos rfl

theorem leadsTo_oneFile (reader : Reader) {name : String}
    (named : Path.extension? name = some "toml") (text : String) :
    LeadsTo reader (oneFile name text) name .toml name :=
  .itself (by rw [find_oneFile]; rfl) named (List.mem_singleton_self _)

theorem text_oneFile (name text : String) : (oneFile name text).text name = .ok text := by
  simp [Files.text, Files.bytes, find_oneFile, Text.Utf8.decode_encode, bind, Except.bind]

theorem lookup_layerOf (document : Document) (name : String) :
    (layerOf document).lookup name = (document.lookup name).map Change.ofToml := by
  induction document with
  | nil => rfl
  | cons member document ih =>
    obtain ⟨key, v⟩ := member
    have first : layerOf ((key, v) :: document) = (key, .ofToml v) :: layerOf document := rfl
    rw [first, List.lookup_cons, List.lookup_cons, ih]
    cases name == key <;> rfl

theorem sameButCase_variableName_iff {f : Field} {name : String} :
    SameButCase name f.variableName ↔ Text.lower name.toList = variablePrefix ++ f.name.toList := by
  have low : Text.lower f.variableName.toList = variablePrefix ++ f.name.toList := by
    cases f <;> decide
  rw [SameButCase, low]

/-- The key that a variable stands for, if it is one of the agent's. -/
def variableChange? (v : String × String) : Option (String × Change) :=
  let name := Text.lower v.1.toList
  if variablePrefix.isPrefixOf name then
    some (String.ofList (name.drop variablePrefix.length), .scalar (.ofUntyped v.2))
  else none

theorem layerOfEnvironment_eq (environment : Environment) :
    layerOfEnvironment environment = environment.filterMap variableChange? :=
  rfl

theorem variableChange?_eq_some_iff {v : String × String} {change : String × Change} :
    variableChange? v = some change ↔
      Text.lower v.1.toList = variablePrefix ++ change.1.toList ∧
        change.2 = .scalar (.ofUntyped v.2) := by
  obtain ⟨key, made⟩ := change
  unfold variableChange?
  constructor
  · intro stands
    dsimp only at stands
    split at stands
    · rename_i isPrefix
      cases stands
      obtain ⟨rest, whole⟩ := List.isPrefixOf_iff_prefix.mp isPrefix
      refine ⟨?_, rfl⟩
      rw [← whole, List.drop_left, String.toList_ofList]
    · cases stands
  · rintro ⟨whole, rfl⟩
    have isPrefix : variablePrefix.isPrefixOf (Text.lower v.1.toList) = true := by
      rw [whole]
      exact List.isPrefixOf_iff_prefix.mpr (List.prefix_append _ _)
    dsimp only
    rw [if_pos isPrefix, whole, List.drop_left, String.ofList_toList]

theorem nodup_layerOfEnvironment {environment : Environment} (distinct : environment.Distinct) :
    ((layerOfEnvironment environment).map Prod.fst).Nodup := by
  rw [layerOfEnvironment_eq, List.Nodup, List.pairwise_map, List.pairwise_filterMap]
  refine distinct.imp ?_
  intro one other differ change stands change' stands' same
  obtain ⟨first, -⟩ := variableChange?_eq_some_iff.mp stands
  obtain ⟨second, -⟩ := variableChange?_eq_some_iff.mp stands'
  exact differ (first.trans (same ▸ second.symm))

theorem lookup_layerOfEnvironment (environment : Environment) (f : Field) :
    (layerOfEnvironment environment).lookup f.name =
      (environment.value? f).map fun text => .scalar (.ofUntyped text) := by
  rw [layerOfEnvironment_eq, Environment.value?]
  induction environment with
  | nil => rfl
  | cons v environment ih =>
    by_cases own : SameButCase v.1 f.variableName
    · have stands : variableChange? v = some (f.name, .scalar (.ofUntyped v.2)) :=
        variableChange?_eq_some_iff.mpr ⟨sameButCase_variableName_iff.mp own, rfl⟩
      rw [List.filterMap_cons_some stands, List.lookup_cons_self,
        List.find?_cons_of_pos (by simpa using own)]
      rfl
    · rw [List.find?_cons_of_neg (by simpa using own), ← ih]
      cases stands : variableChange? v with
      | none => rw [List.filterMap_cons_none stands]
      | some change =>
        have other : f.name ≠ change.1 := by
          intro same
          obtain ⟨whole, -⟩ := variableChange?_eq_some_iff.mp stands
          exact own (sameButCase_variableName_iff.mpr (same ▸ whole))
        rw [List.filterMap_cons_some stands, List.lookup_cons, beq_false_of_ne other]

/-- What the sources make of what is built in. -/
def merged (reader : Reader) (layer : Layer) (environment : Environment) : Entries :=
  defaults.applyAll (changes reader layer environment)

theorem load_eq (reader : Reader) (files : Files) (path : Option String)
    (environment : Environment) :
    load files path environment reader =
      (fileLayer reader files path).bind fun layer =>
        ofEntries (merged reader layer environment) := by
  rw [load]
  cases fileLayer reader files path with
  | none => rfl
  | some layer =>
    exact congrArg ofEntries (Entries.applyAll_append defaults (reader.arrange layer) _).symm

theorem load_eq_some_iff {reader : Reader} {files : Files} {path : Option String}
    {environment : Environment} {s : Settings} :
    load files path environment reader = some s ↔
      ∃ layer, Says reader files path layer ∧
        ofEntries (merged reader layer environment) = some s := by
  rw [load_eq, Option.bind_eq_some_iff]
  exact exists_congr fun _ => and_congr_left fun _ => fileLayer_eq_some_iff

theorem lookup_merged (reader : Reader) (layer : Layer) (environment : Environment) (f : Field) :
    (merged reader layer environment).lookup f.name =
      some (settled reader layer environment f) := by
  have start : (defaults.lookup f.name).isSome := by rw [lookup_defaults]; rfl
  rw [merged, Entries.lookup_applyAll start, lookup_defaults, settled]
  cases ((changes reader layer environment).filterMap (effect f.name)).getLast? <;> rfl

/-- In whatever order keys are taken, the last effect is that of the setting's name, or a key leads
into the setting. -/
theorem last_effect_arranged (reader : Reader) {layer : Layer} (apart : (layer.map Prod.fst).Nodup)
    (f : Field) :
    let last := ((reader.arrange layer).filterMap (effect f.name)).getLast?
    last = (layer.lookup f.name).bind Change.outcome? ∨
    (last = some .composite ∧ ∃ change ∈ layer, LeadsInto f.name change.1) := by
  have same := reader.perm layer
  have apart' : ((reader.arrange layer).map Prod.fst).Nodup :=
    (same.map Prod.fst).nodup_iff.mpr apart
  rcases last_effect (readPath_name f) apart' with plain | ⟨composite, change, among, leads⟩
  · have found := lookup_eq_of_perm apart same f.name
    exact .inl (plain.trans (congrArg (·.bind Change.outcome?) found))
  · exact .inr ⟨composite, change, same.mem_iff.mp among, leads⟩

/-- The value that counts is what is left of a setting, or some key leads into the setting and
leaves no count. -/
theorem settled_cases {layer : Layer} {environment : Environment} (reader : Reader)
    (apart : (layer.map Prod.fst).Nodup) (distinct : environment.Distinct) (f : Field) :
    settled reader layer environment f = winning layer environment f ∨
    (settled reader layer environment f = .composite ∧ LedInto layer environment f) := by
  rw [settled, changes, List.filterMap_append, List.getLast?_append]
  rcases last_effect_arranged reader (nodup_layerOfEnvironment distinct) f with
    plain | ⟨composite, change, among, leads⟩
  · rw [plain, lookup_layerOfEnvironment, winning]
    cases environment.value? f with
    | some text => exact .inl rfl
    | none =>
      rcases last_effect_arranged reader apart f with plain' | ⟨composite, change, among, leads⟩
      · rw [plain']
        exact .inl rfl
      · rw [composite]
        exact .inr ⟨rfl, change, List.mem_append_left _ among, leads⟩
  · rw [composite]
    exact .inr ⟨rfl, change, List.mem_append_right _ among, leads⟩

theorem count?_merged (reader : Reader) (layer : Layer) (environment : Environment) (f : Field) :
    count? (merged reader layer environment) f.name =
      (settled reader layer environment f).count? := by
  rw [count?, lookup_merged]
  cases settled reader layer environment f <;> rfl

theorem get_ofEntries {entries : Entries} {s : Settings} (made : ofEntries entries = some s)
    (f : Field) : ∃ n, count? entries f.name = some n ∧ s.get f = n.toNat % f.room := by
  obtain ⟨ports, first, made⟩ := Option.bind_eq_some_iff.mp made
  obtain ⟨cpuPort, second, made⟩ := Option.bind_eq_some_iff.mp made
  obtain ⟨cloneSession, third, made⟩ := Option.bind_eq_some_iff.mp made
  obtain ⟨linkUseEntries, fourth, made⟩ := Option.bind_eq_some_iff.mp made
  obtain ⟨connectTimeout, fifth, made⟩ := Option.bind_eq_some_iff.mp made
  cases made
  cases f with
  | ports => exact ⟨ports, first, UInt64.toNat_toUInt32 ports⟩
  | cpuPort => exact ⟨cpuPort, second, UInt64.toNat_toUInt32 cpuPort⟩
  | cloneSession => exact ⟨cloneSession, third, UInt64.toNat_toUInt32 cloneSession⟩
  | linkUseEntries => exact ⟨linkUseEntries, fourth, UInt64.toNat_toUInt32 linkUseEntries⟩
  | connectTimeout =>
    exact ⟨connectTimeout, fifth, (Nat.mod_eq_of_lt connectTimeout.toNat_lt).symm⟩

theorem exists_ofEntries {entries : Entries}
    (counted : ∀ f : Field, (count? entries f.name).isSome) : ∃ s, ofEntries entries = some s := by
  obtain ⟨ports, first⟩ := Option.isSome_iff_exists.mp (counted .ports)
  obtain ⟨cpuPort, second⟩ := Option.isSome_iff_exists.mp (counted .cpuPort)
  obtain ⟨cloneSession, third⟩ := Option.isSome_iff_exists.mp (counted .cloneSession)
  obtain ⟨linkUseEntries, fourth⟩ := Option.isSome_iff_exists.mp (counted .linkUseEntries)
  obtain ⟨connectTimeout, fifth⟩ := Option.isSome_iff_exists.mp (counted .connectTimeout)
  simp only [Field.name] at first second third fourth fifth
  simp [ofEntries, first, second, third, fourth, fifth]

section Load

variable {reader : Reader} {files : Files} {path : Option String} {layer : Layer}
  {environment : Environment}

/-- Settings are what becomes of what is left of each. -/
theorem coerce_settled_of_load (said : Says reader files path layer) {s : Settings}
    (loaded : load files path environment reader = some s) (f : Field) :
    f.coerce (settled reader layer environment f) = some (s.get f) := by
  obtain ⟨layer', said', made⟩ := load_eq_some_iff.mp loaded
  obtain rfl := said.unique said'
  obtain ⟨n, counted, kept⟩ := get_ofEntries made f
  rw [count?_merged] at counted
  rw [Field.coerce, counted, Option.map_some, kept]

/-- Settings are loaded whenever a count is left of each. -/
theorem exists_load_iff :
    (∃ s, load files path environment reader = some s) ↔
      ∃ layer, Says reader files path layer ∧
        ∀ f, (Field.coerce f (settled reader layer environment f)).isSome := by
  constructor
  · rintro ⟨s, loaded⟩
    obtain ⟨layer, said, -⟩ := load_eq_some_iff.mp loaded
    refine ⟨layer, said, fun f => ?_⟩
    rw [coerce_settled_of_load said loaded f]
    rfl
  · rintro ⟨layer, said, coerced⟩
    have counted (f : Field) : (count? (merged reader layer environment) f.name).isSome := by
      have left := coerced f
      rwa [Field.coerce, Option.isSome_map, ← count?_merged] at left
    obtain ⟨s, made⟩ := exists_ofEntries counted
    exact ⟨s, load_eq_some_iff.mpr ⟨layer, said, made⟩⟩

theorem load_of_nothing_said (unsaid : ∀ layer, ¬ Says reader files path layer) :
    load files path environment reader = none := by
  refine Option.eq_none_iff_forall_ne_some.mpr fun s loaded => ?_
  obtain ⟨layer, said, -⟩ := load_eq_some_iff.mp loaded
  exact unsaid layer said

theorem Says.leads {path : String} (said : Says reader files (some path) layer) :
    ∃ format found, LeadsTo reader files path format found := by
  cases said with
  | toml leads => exact ⟨_, _, leads⟩
  | foreign _ leads => exact ⟨_, _, leads⟩

theorem load_of_nowhere {path : String}
    (nowhere : ¬ ∃ format found, LeadsTo reader files path format found) :
    load files (some path) environment reader = none :=
  load_of_nothing_said fun _ said => nowhere said.leads

/-- A file that is found may be given by its own name. -/
theorem load_byName {path found : String} {format : Format}
    (leads : LeadsTo reader files path format found) (environment : Environment) :
    load files (some found) environment reader = load files (some path) environment reader := by
  have there := locate_eq_some_iff.mpr leads
  have itself := locate_eq_some_iff.mpr leads.byName
  simp only [load, fileLayer, there, itself]

/-- What is loaded is for every setting what becomes of the value that counts. -/
theorem coerce_of_load (distinct : environment.Distinct) (said : Says reader files path layer)
    {s : Settings} (loaded : load files path environment reader = some s) (f : Field) :
    f.coerce (winning layer environment f) = some (s.get f) := by
  have kept := coerce_settled_of_load said loaded f
  rcases settled_cases reader said.apart distinct f with same | ⟨composite, -⟩
  · rwa [same] at kept
  · rw [composite] at kept
    cases kept

theorem exists_load (said : Says reader files path layer) (distinct : environment.Distinct)
    (free : ∀ f, ¬ LedInto layer environment f)
    (coerced : ∀ f : Field, (f.coerce (winning layer environment f)).isSome) :
    ∃ s, load files path environment reader = some s := by
  refine exists_load_iff.mpr ⟨layer, said, fun f => ?_⟩
  rcases settled_cases reader said.apart distinct f with same | ⟨-, leads⟩
  · rw [same]
    exact coerced f
  · exact absurd leads (free f)

end Load

end SwitchAgent.Settings
