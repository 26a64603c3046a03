import Mathlib.Data.List.Nodup
import Mathlib.Data.List.TakeDrop
import SwitchAgent.Settings.Layers

/-!
# What layers leave behind

The last change that concerns a setting decides what becomes of it. In a layer whose keys all differ
that is the change under the setting's own name, unless another key leads into the setting.
-/

namespace SwitchAgent.Settings

/-- What a change puts in the place of a setting. -/
def Change.outcome? : Change → Option Entry
  | .scalar value => some (.scalar value)
  | .touch => none
  | .composite => some .composite

/-- What a change under some key puts in the place of a setting. -/
def effect (name : String) (change : String × Change) : Option Entry :=
  if (readPath change.1).1 = name then
    if (readPath change.1).2 then some .composite else change.2.outcome?
  else none

/-- A key is a path to something inside a setting. -/
def LeadsInto (name key : String) : Prop :=
  readPath key = (name, true)

instance (name key : String) : Decidable (LeadsInto name key) :=
  inferInstanceAs (Decidable (_ = _))

namespace Entries

theorem lookup_set (entries : Entries) (name other : String) (entry : Entry) :
    (entries.set other entry).lookup name =
      if name = other then some entry else entries.lookup name := by
  induction entries with
  | nil =>
    by_cases here : name = other
    · simp [set, here]
    · simp [set, here, List.lookup_cons, beq_false_of_ne here]
  | cons first rest ih =>
    obtain ⟨n, e⟩ := first
    by_cases found : n = other
    · subst found
      by_cases here : name = n
      · simp [set, here]
      · simp [set, here, List.lookup_cons, beq_false_of_ne here]
    · by_cases here : name = n
      · subst here
        simp [set, found]
      · simp [set, found, List.lookup_cons, beq_false_of_ne here, ih]

/-- A change puts something in the place of a setting, or leaves the setting alone. -/
theorem lookup_apply {entries : Entries} {name : String} (known : (entries.lookup name).isSome)
    (change : String × Change) :
    (entries.apply change.1 change.2).lookup name =
      (effect name change).or (entries.lookup name) := by
  obtain ⟨key, change⟩ := change
  unfold apply effect
  obtain ⟨n, deep⟩ := readPath key
  by_cases own : n = name
  · subst own
    cases deep <;> cases change <;> simp [Change.outcome?, lookup_set, known]
  · have other : name ≠ n := fun same => own same.symm
    cases deep <;> cases change <;> simp [lookup_set, own, other]
    split <;> simp [lookup_set, other]

/-- Of all changes to a setting the last one counts. -/
theorem lookup_applyAll {entries : Entries} {name : String} (known : (entries.lookup name).isSome)
    (layer : Layer) :
    (entries.applyAll layer).lookup name =
      (layer.filterMap (effect name)).getLast?.or (entries.lookup name) := by
  induction layer generalizing entries with
  | nil => rfl
  | cons change layer ih =>
    have step := lookup_apply known change
    have known' : ((entries.apply change.1 change.2).lookup name).isSome := by
      rw [step, Option.isSome_or, known, Bool.or_true]
    have rest := ih known'
    rw [step] at rest
    refine rest.trans ?_
    cases made : effect name change with
    | none => simp [made]
    | some entry =>
      rw [List.filterMap_cons_some made, List.getLast?_cons]
      cases (layer.filterMap (effect name)).getLast? <;> rfl

theorem applyAll_append (entries : Entries) (first second : Layer) :
    entries.applyAll (first ++ second) = (entries.applyAll first).applyAll second :=
  List.foldl_append

end Entries

/-- A key that is no path is a name. -/
theorem eq_of_readPath {key name : String} (plain : readPath key = (name, false)) : key = name := by
  have whole := List.takeWhile_append_dropWhile (p := Key.isNameChar) (l := key.toList)
  simp only [readPath, List.span_eq_takeWhile_dropWhile] at plain
  split at plain
  · exact (Prod.mk.inj plain).1
  · split at plain
    · rename_i parts _
      obtain ⟨rfl, rfl⟩ := Prod.mk.inj parts
      obtain ⟨same, ended⟩ := Prod.mk.inj plain
      have nothing : key.toList.dropWhile Key.isNameChar = [] := by simpa using ended
      rw [nothing, List.append_nil] at whole
      rw [← same, whole, String.ofList_toList]
    · exact (Prod.mk.inj plain).1

theorem effect_own {name : String} (plain : readPath name = (name, false)) (change : Change) :
    effect name (name, change) = change.outcome? := by
  simp [effect, plain]

theorem effect_eq_scalar_iff {name : String} {value : Scalar} {change : String × Change}
    (made : effect name change = some (.scalar value)) :
    change = (name, .scalar value) := by
  obtain ⟨key, change⟩ := change
  unfold effect at made
  split at made
  · rename_i own
    split at made
    · cases made
    · rename_i shallow
      have plain : readPath key = (name, false) := Prod.ext own (by simpa using shallow)
      cases change with
      | scalar value' =>
        cases made
        rw [eq_of_readPath plain]
      | touch => cases made
      | composite => cases made
  · cases made

/-- Of the keys that lead nowhere inside a setting, only its name has an effect on it. -/
theorem effect_other {name : String} {change : String × Change} (other : change.1 ≠ name)
    (shallow : ¬ LeadsInto name change.1) : effect name change = none := by
  unfold effect
  split
  · rename_i own
    cases deep : (readPath change.1).2 with
    | true => exact absurd (Prod.ext own deep) shallow
    | false => exact absurd (eq_of_readPath (Prod.ext own deep)) other
  · rfl

theorem effects_of_shallow {name : String} {layer : Layer} (plain : readPath name = (name, false))
    (apart : (layer.map Prod.fst).Nodup) (shallow : ∀ change ∈ layer, ¬ LeadsInto name change.1) :
    layer.filterMap (effect name) = ((layer.lookup name).bind Change.outcome?).toList := by
  induction layer with
  | nil => rfl
  | cons change layer ih =>
    obtain ⟨key, change⟩ := change
    obtain ⟨fresh, apart⟩ := List.nodup_cons.mp apart
    obtain ⟨here, shallow⟩ := List.forall_mem_cons.mp shallow
    by_cases own : key = name
    · subst own
      have none : layer.filterMap (effect key) = [] := by
        rw [List.filterMap_eq_nil_iff]
        intro other among
        refine effect_other ?_ (shallow other among)
        intro same
        exact fresh (List.mem_map.mpr ⟨other, among, same⟩)
      rw [List.lookup_cons_self, Option.bind_some, ← effect_own plain change]
      cases made : effect key (key, change) with
      | none => rw [List.filterMap_cons_none made, none]; rfl
      | some entry => rw [List.filterMap_cons_some made, none]; rfl
    · have other : name ≠ key := fun same => own same.symm
      rw [List.filterMap_cons_none (effect_other own here), ih apart shallow, List.lookup_cons,
        beq_false_of_ne other]

/-- Where no name stands twice, what is found under a name is what stands under it. -/
theorem lookup_eq_some_iff_mem {α : Type} {name : String} {a : α} {members : List (String × α)}
    (apart : (members.map Prod.fst).Nodup) :
    members.lookup name = some a ↔ (name, a) ∈ members := by
  constructor
  · intro found
    obtain ⟨before, after, rfl, -⟩ := List.lookup_eq_some_iff.mp found
    exact List.mem_append_right before List.mem_cons_self
  · intro among
    induction members with
    | nil => cases among
    | cons first members ih =>
      obtain ⟨fresh, apart⟩ := List.nodup_cons.mp apart
      rcases List.mem_cons.mp among with rfl | among
      · exact List.lookup_cons_self
      · have other : name ≠ first.1 := by
          intro same
          exact fresh (same ▸ List.mem_map_of_mem among)
        rw [List.lookup_cons, beq_false_of_ne other]
        exact ih apart among

theorem lookup_eq_of_perm {α : Type} {one other : List (String × α)}
    (apart : (other.map Prod.fst).Nodup) (same : one.Perm other) (name : String) :
    one.lookup name = other.lookup name := by
  have apart' : (one.map Prod.fst).Nodup := (same.map Prod.fst).nodup_iff.mpr apart
  refine Option.ext fun a => ?_
  rw [lookup_eq_some_iff_mem apart', lookup_eq_some_iff_mem apart, same.mem_iff]

/-- The last effect of a layer is that of the setting's name, or a key leads into the setting and
leaves no count of it. -/
theorem last_effect {name : String} {layer : Layer} (plain : readPath name = (name, false))
    (apart : (layer.map Prod.fst).Nodup) :
    (layer.filterMap (effect name)).getLast? = (layer.lookup name).bind Change.outcome? ∨
    ((layer.filterMap (effect name)).getLast? = some .composite ∧
      ∃ change ∈ layer, LeadsInto name change.1) := by
  by_cases deep : ∃ change ∈ layer, LeadsInto name change.1
  · obtain ⟨change, among, leads⟩ := deep
    have made : effect name change = some .composite := by
      have leads' : readPath change.1 = (name, true) := leads
      simp [effect, leads']
    have some : (layer.filterMap (effect name)) ≠ [] :=
      List.ne_nil_of_mem (List.mem_filterMap.mpr ⟨change, among, made⟩)
    have last := List.getLast?_eq_some_getLast some
    cases entry : (layer.filterMap (effect name)).getLast some with
    | composite => exact .inr ⟨last.trans (congrArg _ entry), change, among, leads⟩
    | scalar value =>
      have inside := List.getLast_mem some
      rw [entry] at inside
      obtain ⟨own, among', made'⟩ := List.mem_filterMap.mp inside
      obtain rfl := effect_eq_scalar_iff made'
      left
      rw [last, entry, (lookup_eq_some_iff_mem apart).mpr among']
      rfl
  · left
    have shallow : ∀ change ∈ layer, ¬ LeadsInto name change.1 := by
      intro change among leads
      exact deep ⟨change, among, leads⟩
    rw [effects_of_shallow plain apart shallow]
    cases (layer.lookup name).bind Change.outcome? <;> rfl

end SwitchAgent.Settings
