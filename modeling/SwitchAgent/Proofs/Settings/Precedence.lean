import SwitchAgent.Proofs.Settings.Sources

/-!
# Which value counts

A setting is what becomes of the value that counts for it, and no other key changes it. Where there
is no such value to be had, because a file that was asked for cannot be read or because the value is
no count, nothing is loaded at all.
-/

namespace SwitchAgent.Settings

/-- How what is loaded depends on the file that a path leads to and on the environment. -/
structure ByPrecedence (reader : Reader) (files : Files) (path : Option String)
    (environment : Environment) : Prop where
  /-- Each setting comes from its variable, else from its key in the file, else it is built in. -/
  counts : ∀ s, load files path environment reader = some s →
    ∃ layer, Says reader files path layer ∧
      ∀ f, f.coerce (winning layer environment f) = some (s.get f)
  loads : ∀ layer, Says reader files path layer → (∀ f, ¬ LedInto layer environment f) →
    (∀ f, (Field.coerce f (winning layer environment f)).isSome) →
      ∃ s, load files path environment reader = some s
  uncoerced : ∀ layer, Says reader files path layer →
    (∃ f, Field.coerce f (winning layer environment f) = none) →
      load files path environment reader = none
  /-- There is no file of that name, nor one with a known extension added to it. -/
  missing : ∀ p, path = some p → files.find p = none →
    (∀ format, ∀ extension ∈ Format.extensions format, ∀ found,
      Path.extend? p extension = some found → files.find found = none) →
      load files path environment reader = none
  /-- There is a file of that name, but its extension is not known. -/
  formless : ∀ p, path = some p → (files.find p).isSome →
    (∀ extension, Path.extension? p = some extension →
      ∀ format, extension ∉ Format.extensions format) →
      load files path environment reader = none
  unparsed : ∀ p found, path = some p → LeadsTo reader files p .toml found →
    (∀ text, files.text found = .ok text → Toml.read text = none) →
      load files path environment reader = none
  /-- It is the same to give the file that is found. -/
  byName : ∀ p format found, path = some p → LeadsTo reader files p format found →
    load files (some found) environment reader = load files path environment reader
  /-- What is the same for a setting in two files and environments makes the setting the same. -/
  alone : ∀ (f : Field) (s s' : Settings) (reader' : Reader) (files' : Files)
    (path' : Option String) (environment' : Environment) (layer layer' : Layer),
    environment'.Distinct → load files path environment reader = some s →
    load files' path' environment' reader' = some s' → Says reader files path layer →
    Says reader' files' path' layer' → environment.value? f = environment'.value? f →
    layer.lookup f.name = layer'.lookup f.name → s.get f = s'.get f

/-- Settings are loaded by precedence and on their own. Nothing is loaded if the path leads to no
file in a known format, if the file cannot be read, or if a value that counts cannot be coerced. -/
theorem settings_by_precedence_and_on_their_own (reader : Reader) (files : Files)
    (path : Option String) {environment : Environment} (distinct : environment.Distinct) :
    ByPrecedence reader files path environment where
  counts s loaded := by
    obtain ⟨layer, said, -⟩ := load_eq_some_iff.mp loaded
    exact ⟨layer, said, coerce_of_load distinct said loaded⟩
  loads layer said free coerced := exists_load said distinct free coerced
  uncoerced layer said := by
    rintro ⟨f, uncoerced⟩
    refine Option.eq_none_iff_forall_ne_some.mpr fun s loaded => ?_
    cases uncoerced.symm.trans (coerce_of_load distinct said loaded f)
  missing p given absent vain := by
    subst given
    refine load_of_nowhere ?_
    rw [exists_leadsTo_iff, absent, if_neg (by simp)]
    rintro ⟨format, extension, told, found, added, there⟩
    rw [vain format extension told found added] at there
    cases there
  formless p given there unknown := by
    subst given
    refine load_of_nowhere ?_
    rw [exists_leadsTo_iff, if_pos there]
    rintro ⟨extension, format, named, told⟩
    exact unknown extension named format told
  unparsed p found given leads unread := by
    subst given
    refine load_of_nothing_said fun layer said => ?_
    cases said with
    | toml leads' read parsed =>
      obtain ⟨-, rfl⟩ := leads.unique leads'
      rw [unread _ read] at parsed
      cases parsed
    | foreign other leads' => exact other (leads.unique leads').1.symm
  byName p format found given leads := by
    subst given
    exact load_byName leads environment
  alone f s s' reader' files' path' environment' layer layer' distinct' loaded loaded' said said'
      sameVariable sameKey := by
    have sameValue : winning layer environment f = winning layer' environment' f := by
      rw [winning, winning, sameVariable, sameKey]
    have kept := coerce_of_load distinct said loaded f
    rw [sameValue, coerce_of_load distinct' said' loaded' f] at kept
    exact (Option.some.inj kept).symm

/-- Two settings, of which the environment has one too. -/
def mixedLines : List Toml.Assignment :=
  [{ key := "cpu_port"
     literal := ['5']
     value := 5
     named := by decide
     bare := List.all_eq_true.mp (by decide)
     written := .plain ⟨[5], .last rfl, by decide, rfl⟩
     fits := by unfold Toml.Fits; decide },
   { key := "clone_session_id"
     literal := ['1', '6']
     value := 16
     named := by decide
     bare := List.all_eq_true.mp (by decide)
     written := .plain ⟨[1, 6], .next rfl (.last rfl), by decide, rfl⟩
     fits := by unfold Toml.Fits; decide }]

def mixedFile : Files :=
  oneFile "settings.toml" "cpu_port = 5\nclone_session_id = 16\n"

/-- One variable is for a setting of the file, one for a setting that the file leaves out, and one
is not for the agent. -/
def mixedEnvironment : Environment :=
  [("P4CP_CPU_PORT", "7"), ("HOME", "/"), ("p4cp_Tx_Util_Entries", "True")]

theorem says_mixedFile : Says .tomlOnly mixedFile (some "settings.toml")
    [("cpu_port", .scalar (.integer 5)), ("clone_session_id", .scalar (.integer 16))] := by
  have text : Toml.textOf mixedLines = "cpu_port = 5\nclone_session_id = 16\n" := by
    decide +kernel
  have apart : (mixedLines.map Toml.Assignment.key).Nodup := by decide
  rw [mixedFile, ← text]
  exact says_textOf apart (leadsTo_oneFile .tomlOnly (by decide +kernel) _) (text_oneFile _ _)

theorem variable_before_key_before_built_in :
    mixedEnvironment.Distinct ∧
    (∃ s, load mixedFile (some "settings.toml") mixedEnvironment = some s ∧
      load mixedFile (some "settings") mixedEnvironment = some s ∧
      s.get .cpuPort = 7 ∧ s.get .cloneSession = 16 ∧ s.get .linkUseEntries = 1 ∧
      s.get .ports = 8 ∧ s.get .connectTimeout = 10) ∧
    load mixedFile (some "settings.toml") [("p4cp_CPU_port", "seven")] = none ∧
    load mixedFile (some "elsewhere.toml") mixedEnvironment = none ∧
    load (oneFile "settings.conf" "cpu_port = 5\n") (some "settings.conf") mixedEnvironment = none ∧
    ∀ s s', load mixedFile (some "settings.toml") mixedEnvironment = some s →
      load .empty none [("P4CP_TX_UTIL_ENTRIES", "True")] = some s' →
      s.get .linkUseEntries = s'.get .linkUseEntries := by
  have distinct : mixedEnvironment.Distinct := by
    unfold mixedEnvironment Environment.Distinct
    decide
  have mixed :=
    settings_by_precedence_and_on_their_own .tomlOnly mixedFile (some "settings.toml") distinct
  refine ⟨distinct, ?_, ?_, ?_, ?_, ?_⟩
  · obtain ⟨s, loaded⟩ := mixed.loads _ says_mixedFile
      (fun f => by cases f <;> decide +kernel) (fun f => by cases f <;> decide +kernel)
    obtain ⟨layer, said, coerced⟩ := mixed.counts s loaded
    obtain rfl := says_mixedFile.unique said
    have leads : LeadsTo .tomlOnly mixedFile "settings" .toml "settings.toml" :=
      locate_eq_some_iff.mp (by decide +kernel)
    have unnamed := (settings_by_precedence_and_on_their_own .tomlOnly mixedFile (some "settings")
      distinct).byName _ _ _ rfl leads
    exact ⟨s, loaded, unnamed.symm.trans loaded,
      Option.some.inj ((coerced .cpuPort).symm.trans (by decide +kernel)),
      Option.some.inj ((coerced .cloneSession).symm.trans (by decide +kernel)),
      Option.some.inj ((coerced .linkUseEntries).symm.trans (by decide +kernel)),
      Option.some.inj ((coerced .ports).symm.trans (by decide +kernel)),
      Option.some.inj ((coerced .connectTimeout).symm.trans (by decide +kernel))⟩
  · exact (settings_by_precedence_and_on_their_own .tomlOnly mixedFile (some "settings.toml")
      (List.pairwise_singleton _ ("p4cp_CPU_port", "seven"))).uncoerced _ says_mixedFile
        ⟨.cpuPort, by decide +kernel⟩
  · refine (settings_by_precedence_and_on_their_own .tomlOnly mixedFile (some "elsewhere.toml")
      distinct).missing _ rfl (by decide +kernel) ?_
    intro format extension told found added
    have vain : ∀ extension ∈ format.extensions,
        (Path.extend? "elsewhere.toml" extension).bind mixedFile.find = none := by
      cases format <;> decide +kernel
    have absent := vain extension told
    rwa [added] at absent
  · refine (settings_by_precedence_and_on_their_own .tomlOnly
      (oneFile "settings.conf" "cpu_port = 5\n") (some "settings.conf") distinct).formless _ rfl
      (by decide +kernel) ?_
    intro extension named format
    have conf : Path.extension? "settings.conf" = some "conf" := by decide +kernel
    cases conf.symm.trans named
    cases format <;> decide
  · intro s s' loaded loaded'
    exact mixed.alone .linkUseEntries s s' .tomlOnly .empty none _ _ []
      (List.pairwise_singleton _ _) loaded loaded' says_mixedFile .nothing (by decide +kernel) rfl

/-- Three ways in which a file comes to less or to more than it seems. A table without members is no
count, and the built-in value is loaded all the same. A file whose first key marks a date is read as
one, so that the keys after it are lost. A file that is not there may be found with an extension. -/
theorem empty_table_date_mark_and_missing_extension :
    (∃ layer s,
      Says .tomlOnly (oneFile "settings.toml" "[num_switch_ports]\n") (some "settings.toml") layer ∧
      layer.lookup "num_switch_ports" = some (.ofToml (.table [])) ∧
      (∀ value, Change.ofToml (.table []) ≠ .scalar value) ∧
      load (oneFile "settings.toml" "[num_switch_ports]\n") (some "settings.toml") [] = some s ∧
      s.get .ports = 8) ∧
    (∃ s s',
      load (oneFile "settings.toml" "num_switch_ports = 16\n") (some "settings.toml") [] = some s ∧
      s.get .ports = 16 ∧
      load (oneFile "settings.toml"
          "\"$__toml_private_datetime\" = \"1979-05-27\"\nnum_switch_ports = 16\n")
        (some "settings.toml") [] = some s' ∧
      s'.get .ports = 8) ∧
    ∃ s,
      (oneFile "settings.toml" "num_switch_ports = 16\n").find "settings" = none ∧
      load (oneFile "settings.toml" "num_switch_ports = 16\n") (some "settings") [] = some s ∧
      s.get .ports = 16 := by
  refine ⟨?_, ?_, ?_⟩
  · exact ⟨[("num_switch_ports", .touch)], {}, fileLayer_eq_some_iff.mp rfl, rfl, nofun,
      by decide +kernel, rfl⟩
  · exact ⟨{ profile := { ports := 16 } }, {}, by decide +kernel, rfl, by decide +kernel, rfl⟩
  · exact ⟨{ profile := { ports := 16 } }, by decide +kernel, by decide +kernel, rfl⟩

end SwitchAgent.Settings
