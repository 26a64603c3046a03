import Mathlib.Data.List.TakeDrop
import SwitchAgent.Settings.Reader

/-!
# Where settings files are found

A path leads to the file of that very name, or else to the first one that there is with an
extension added to it. Either way the extension of the file that is found tells its format, so that
giving this file by its own name comes to the same.
-/

namespace SwitchAgent

namespace Path

theorem settle_cons {c : Char} (noSlash : c ≠ '/') (noDot : c ≠ '.') (cs : List Char) :
    settle (c :: cs) = c :: cs := by
  unfold settle
  split
  · rename_i same
    exact absurd (List.cons.inj same).1 noSlash
  · rename_i same
    exact absurd (List.cons.inj same).1 noDot
  · rfl

theorem name?_eq_some_iff {path : String} {name : List Char} :
    name? path = some name ↔
      (settle path.toList.reverse).takeWhile (· != '/') = name ∧
        name ≠ [] ∧ name ≠ ['.'] ∧ name ≠ ['.', '.'] := by
  unfold name?
  split
  · rename_i nothing
    simp only [nothing, reduceCtorEq, false_iff, not_and]
    exact fun same other => absurd same.symm other
  · rename_i here
    simp only [here, reduceCtorEq, false_iff, not_and]
    exact fun same _ other => absurd same.symm other
  · rename_i above
    simp only [above, reduceCtorEq, false_iff, not_and]
    exact fun same _ _ other => absurd same.symm other
  · rename_i name' nothing here above
    rw [Option.some_inj]
    constructor
    · rintro rfl
      exact ⟨rfl, nothing, here, above⟩
    · rintro ⟨same, -⟩
      exact same

/-- What stands behind the last dot of a name is its extension. -/
theorem extension?_of_name? {path : String} {ending stem : List Char}
    (named : name? path = some (ending ++ '.' :: stem)) (begins : stem ≠ [])
    (noDot : '.' ∉ ending) :
    extension? path = some (String.ofList ending.reverse) := by
  have cut : (ending ++ '.' :: stem).span (· != '.') = (ending, '.' :: stem) := by
    have others : ∀ c ∈ ending, (c != '.') = true := by
      intro c among
      simpa using ne_of_mem_of_not_mem among noDot
    rw [List.span_eq_takeWhile_dropWhile, List.takeWhile_append_of_pos others,
      List.dropWhile_append_of_pos others]
    simp
  rw [extension?, named]
  simp only [Option.bind_eq_bind, Option.bind_some, cut]
  cases stem with
  | nil => exact absurd rfl begins
  | cons c stem => rfl

/-- An extension that was added is the extension of the path from then on. -/
theorem extension?_extend? {path extension found : String}
    (added : extend? path extension = some found) (begins : extension.toList ≠ [])
    (noSlash : '/' ∉ extension.toList) (noDot : '.' ∉ extension.toList) :
    extension? found = some extension := by
  obtain ⟨name, named, rfl⟩ := Option.map_eq_some_iff.mp added
  obtain ⟨whole, nonempty, -, -⟩ := name?_eq_some_iff.mp named
  obtain ⟨c, cs, parts⟩ : ∃ c cs, extension.toList.reverse = c :: cs :=
    List.exists_cons_of_ne_nil (by simpa using begins)
  have among : c ∈ extension.toList := by
    rw [← List.mem_reverse, parts]
    exact List.mem_cons_self
  have noDotLast : c ≠ '.' := ne_of_mem_of_not_mem among noDot
  have settled : settle (extension.toList.reverse ++ '.' :: settle path.toList.reverse) =
      extension.toList.reverse ++ '.' :: settle path.toList.reverse := by
    rw [parts]
    exact settle_cons (ne_of_mem_of_not_mem among noSlash) noDotLast _
  have last : (extension.toList.reverse ++ '.' :: settle path.toList.reverse).takeWhile (· != '/') =
      extension.toList.reverse ++ '.' :: name := by
    have others : ∀ c ∈ extension.toList.reverse, (c != '/') = true := by
      intro c inside
      simpa using ne_of_mem_of_not_mem (List.mem_reverse.mp inside) noSlash
    rw [List.takeWhile_append_of_pos others, List.takeWhile_cons_of_pos (by decide), whole]
  have ended : name? (String.ofList
      ((settle path.toList.reverse).reverse ++ '.' :: extension.toList)) =
      some (extension.toList.reverse ++ '.' :: name) := by
    rw [name?_eq_some_iff]
    refine ⟨?_, ?_, ?_, ?_⟩
    · simp [settled, last]
    all_goals simp [parts, noDotLast]
  rw [extension?_of_name? ended nonempty (by simpa using noDot), List.reverse_reverse,
    String.ofList_toList]

end Path

namespace Settings

theorem Format.ofExtension?_eq_some_iff {extension : String} {format : Format} :
    Format.ofExtension? extension = some format ↔ extension ∈ format.extensions := by
  constructor
  · intro told
    have has := List.find?_some told
    simpa using has
  · intro among
    cases format <;>
      simp only [Format.extensions, List.mem_cons, List.not_mem_nil, or_false] at among
    case yaml => rcases among with rfl | rfl <;> rfl
    all_goals
      subst among
      rfl

/-- Extensions are words. -/
theorem Format.extension_plain {format : Format} {extension : String}
    (among : extension ∈ format.extensions) :
    extension.toList ≠ [] ∧ '/' ∉ extension.toList ∧ '.' ∉ extension.toList := by
  have plain : ∀ extension ∈ format.extensions,
      extension.toList ≠ [] ∧ '/' ∉ extension.toList ∧ '.' ∉ extension.toList := by
    cases format <;> decide
  exact plain extension among

theorem Reader.mem_candidates_iff {reader : Reader} {path found : String} {format : Format} :
    (format, found) ∈ reader.candidates path ↔
      ∃ extension ∈ format.extensions, Path.extend? path extension = some found := by
  simp only [candidates, List.mem_flatMap, List.mem_filterMap, Option.map_eq_some_iff,
    Prod.mk.injEq]
  constructor
  · rintro ⟨format', -, extension, among, found', added, rfl, rfl⟩
    exact ⟨extension, among, added⟩
  · rintro ⟨extension, among, added⟩
    exact ⟨format, reader.whole format, extension, among, found, added, rfl, rfl⟩

/-- The file that a path leads to, in its format. -/
inductive LeadsTo (reader : Reader) (files : Files) (path : String) : Format → String → Prop
  /-- The file of that very name, if its extension is known. -/
  | itself {format : Format} {extension : String} (there : (files.find path).isSome)
      (named : Path.extension? path = some extension) (told : extension ∈ format.extensions) :
      LeadsTo reader files path format path
  /-- Without one, the first that there is with an extension added. -/
  | added {format : Format} {found : String} {before after : List (Format × String)}
      (absent : files.find path = none)
      (tried : reader.candidates path = before ++ (format, found) :: after)
      (vain : ∀ candidate ∈ before, files.find candidate.2 = none)
      (there : (files.find found).isSome) : LeadsTo reader files path format found

variable {reader : Reader} {files : Files} {path : String}

theorem locate_eq_some_iff {format : Format} {found : String} :
    reader.locate files path = some (format, found) ↔ LeadsTo reader files path format found := by
  unfold Reader.locate
  constructor
  · intro located
    split at located
    · rename_i there
      obtain ⟨_, told, same⟩ := Option.map_eq_some_iff.mp located
      obtain ⟨extension, named, told⟩ := Option.bind_eq_some_iff.mp told
      cases same
      exact .itself there named (Format.ofExtension?_eq_some_iff.mp told)
    · rename_i absent
      obtain ⟨there, before, after, tried, vain⟩ := List.find?_eq_some_iff_append.mp located
      exact .added (by simpa using absent) tried (by simpa using vain) there
  · rintro (⟨there, named, told⟩ | ⟨absent, tried, vain, there⟩)
    · rw [if_pos there, named, Option.bind_some, Format.ofExtension?_eq_some_iff.mpr told]
      rfl
    · rw [absent, if_neg (by simp), List.find?_eq_some_iff_append]
      exact ⟨there, _, _, tried, by simpa using vain⟩

theorem LeadsTo.unique {format format' : Format} {found found' : String}
    (first : LeadsTo reader files path format found)
    (second : LeadsTo reader files path format' found') : format = format' ∧ found = found' := by
  have same := (locate_eq_some_iff.mpr first).symm.trans (locate_eq_some_iff.mpr second)
  exact Prod.mk.inj (Option.some.inj same)

/-- A file that is found may be given by its own name. -/
theorem LeadsTo.byName {format : Format} {found : String}
    (leads : LeadsTo reader files path format found) :
    LeadsTo reader files found format found := by
  cases leads with
  | itself there named told => exact .itself there named told
  | added absent tried vain there =>
    have among : (format, found) ∈ reader.candidates path := by simp [tried]
    obtain ⟨extension, told, added⟩ := Reader.mem_candidates_iff.mp among
    obtain ⟨begins, noSlash, noDot⟩ := Format.extension_plain told
    exact .itself there (Path.extension?_extend? added begins noSlash noDot) told

/-- A path leads nowhere if its extension is not known, or if nothing is there with any. -/
theorem exists_leadsTo_iff :
    (∃ format found, LeadsTo reader files path format found) ↔
      if (files.find path).isSome then
        ∃ extension format, Path.extension? path = some extension ∧
          extension ∈ Format.extensions format
      else ∃ format, ∃ extension ∈ Format.extensions format, ∃ found,
        Path.extend? path extension = some found ∧ (files.find found).isSome := by
  constructor
  · rintro ⟨format, found, leads⟩
    cases leads with
    | itself there named told =>
      rw [if_pos there]
      exact ⟨_, _, named, told⟩
    | added absent tried vain there =>
      have among : (format, found) ∈ reader.candidates path := by simp [tried]
      obtain ⟨extension, told, added⟩ := Reader.mem_candidates_iff.mp among
      rw [absent, if_neg (by simp)]
      exact ⟨format, extension, told, found, added, there⟩
  · intro way
    split at way
    · rename_i there
      obtain ⟨extension, format, named, told⟩ := way
      exact ⟨format, path, .itself there named told⟩
    · rename_i absent
      obtain ⟨format, extension, told, found, added, there⟩ := way
      have among : (format, found) ∈ reader.candidates path :=
        Reader.mem_candidates_iff.mpr ⟨extension, told, added⟩
      have some : (reader.locate files path).isSome := by
        rw [Reader.locate, if_neg absent]
        exact List.find?_isSome.mpr ⟨_, among, there⟩
      obtain ⟨⟨format', found'⟩, located⟩ := Option.isSome_iff_exists.mp some
      exact ⟨format', found', locate_eq_some_iff.mp located⟩

end Settings

end SwitchAgent
