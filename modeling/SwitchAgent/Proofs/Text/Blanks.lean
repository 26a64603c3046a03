import Mathlib.Data.List.DropRight
import SwitchAgent.Proofs.Text.Pieces

/-!
# Words between blanks

The fields of a text are its words, whatever blanks stand between and around them. Trimming takes
blanks off both ends and nothing else.
-/

namespace SwitchAgent.Text

def Blank (cs : List Char) : Prop :=
  ∀ c ∈ cs, isBlank c

def Solid (cs : List Char) : Prop :=
  ∀ c ∈ cs, ¬ isBlank c

/-- A text is made of words with blanks between them, and perhaps around them. -/
inductive MadeOf : List (List Char) → List Char → Prop
  | blank {cs : List Char} (blank : Blank cs) : MadeOf [] cs
  | word {lead word cs : List Char} {words : List (List Char)} (blank : Blank lead)
      (some : word ≠ []) (solid : Solid word) (apart : ∀ c ∈ cs.head?, isBlank c)
      (others : MadeOf words cs) : MadeOf (word :: words) (lead ++ (word ++ cs))

theorem isBlank_feed : isBlank '\n' := by decide

theorem isBlank_return : isBlank '\r' := by decide

theorem trimStart_append_of_blank {lead : List Char} (blank : Blank lead) (cs : List Char) :
    trimStart (lead ++ cs) = trimStart cs :=
  List.dropWhile_append_of_pos blank

theorem trimEnd_append_of_blank (cs : List Char) {trail : List Char} (blank : Blank trail) :
    trimEnd (cs ++ trail) = trimEnd cs := by
  have mirrored : Blank trail.reverse := fun c among => blank c (List.mem_reverse.mp among)
  rw [trimEnd, List.reverse_append, trimStart_append_of_blank mirrored]
  rfl

theorem trimStart_blank {cs : List Char} (blank : Blank cs) : trimStart cs = [] :=
  List.dropWhile_eq_nil_iff.mpr blank

theorem trim_append_of_blank {lead : List Char} (blank : Blank lead) (cs : List Char) :
    trim (lead ++ cs) = trim cs := by
  rw [trim, trimStart_append_of_blank blank, trim]

theorem trim_append_blank (cs : List Char) {trail : List Char} (blank : Blank trail) :
    trim (cs ++ trail) = trim cs := by
  rw [trim, trim]
  have split : trimStart (cs ++ trail) = if (trimStart cs).isEmpty then trimStart trail
      else trimStart cs ++ trail := List.dropWhile_append
  by_cases before : trimStart cs = []
  · rw [split, before, trimStart_blank blank]
    rfl
  · have more : ¬ (trimStart cs).isEmpty := by simpa using before
    rw [split, if_neg more, trimEnd_append_of_blank _ blank]

theorem trim_blank {cs : List Char} (blank : Blank cs) : trim cs = [] := by
  rw [trim, trimStart_blank blank]
  rfl

/-- What starts with another character still does. -/
theorem exists_trim_cons {c : Char} (solid : ¬ isBlank c) (cs : List Char) :
    ∃ rest, trim (c :: cs) = c :: rest := by
  have start : trimStart (c :: cs) = c :: cs := List.dropWhile_cons_of_neg solid
  have front : trimEnd (c :: cs) <+: c :: cs := List.rdropWhile_prefix isBlank _
  have some : trimEnd (c :: cs) ≠ [] := fun none =>
    solid (List.rdropWhile_eq_nil_iff.mp none c List.mem_cons_self)
  rw [trim, start]
  cases kept : trimEnd (c :: cs) with
  | nil => exact absurd kept some
  | cons d rest =>
    rw [kept] at front
    exact ⟨rest, congrArg (· :: rest) (List.cons_prefix_cons.mp front).1⟩

/-- What trimming leaves away stands at the ends. -/
theorem exists_around_trim (cs : List Char) :
    ∃ lead trail, Blank lead ∧ Blank trail ∧ cs = lead ++ (trim cs ++ trail) := by
  refine ⟨cs.takeWhile isBlank, (trimStart cs).rtakeWhile isBlank, ?_, ?_, ?_⟩
  · exact fun c among => List.mem_takeWhile_imp among
  · exact fun c among => List.mem_rtakeWhile_imp among
  · have behind : trim cs ++ (trimStart cs).rtakeWhile isBlank = trimStart cs :=
      List.rdropWhile_append_rtakeWhile
    rw [behind]
    exact List.takeWhile_append_dropWhile.symm

/-- A blank ends a field. -/
theorem fields_append_cons {c : Char} (blank : isBlank c) (before after : List Char) :
    fields (before ++ c :: after) = fields before ++ fields after := by
  rw [fields, pieces_append_separator isBlank before after blank, List.filter_append]
  rfl

theorem fields_append_of_blank {lead : List Char} (blank : Blank lead) (cs : List Char) :
    fields (lead ++ cs) = fields cs := by
  induction lead with
  | nil => rfl
  | cons c lead ih =>
    obtain ⟨first, others⟩ := List.forall_mem_cons.mp blank
    exact (fields_append_cons first [] (lead ++ cs)).trans (ih others)

theorem fields_blank {cs : List Char} (blank : Blank cs) : fields cs = [] := by
  have alone := fields_append_of_blank blank []
  rwa [List.append_nil] at alone

theorem fields_append_blank (cs : List Char) {trail : List Char} (blank : Blank trail) :
    fields (cs ++ trail) = fields cs := by
  cases trail with
  | nil => rw [List.append_nil]
  | cons c trail =>
    obtain ⟨first, others⟩ := List.forall_mem_cons.mp blank
    rw [fields_append_cons first, fields_blank others, List.append_nil]

/-- A word ends where the text does, or at a blank. -/
theorem fields_word {word cs : List Char} (some : word ≠ []) (solid : Solid word)
    (apart : ∀ c ∈ cs.head?, isBlank c) : fields (word ++ cs) = word :: fields cs := by
  have alone : fields word = [word] := by
    simp [fields, pieces_without_separator isBlank word solid, some]
  cases cs with
  | nil =>
    rw [List.append_nil, alone]
    rfl
  | cons c cs =>
    have blank : isBlank c := apart c rfl
    have after : fields (c :: cs) = fields cs := fields_append_cons blank [] cs
    rw [fields_append_cons blank, alone, after, List.singleton_append]

theorem fields_trim (cs : List Char) : fields (trim cs) = fields cs := by
  obtain ⟨lead, trail, before, behind, whole⟩ := exists_around_trim cs
  conv_rhs => rw [whole, fields_append_of_blank before, fields_append_blank _ behind]

theorem exists_madeOf (cs : List Char) : ∃ words, MadeOf words cs := by
  induction cs with
  | nil => exact ⟨[], .blank nofun⟩
  | cons c cs ih =>
    obtain ⟨words, made⟩ := ih
    by_cases blank : isBlank c
    · cases made with
      | blank others => exact ⟨[], .blank (List.forall_mem_cons.mpr ⟨blank, others⟩)⟩
      | word lead some solid apart others =>
        have longer : Blank (c :: _) := List.forall_mem_cons.mpr ⟨blank, lead⟩
        exact ⟨_, .word longer some solid apart others⟩
    · -- The character is a word of its own unless it starts the next one.
      have nothing : Blank [] := nofun
      by_cases alone : ∀ d ∈ cs.head?, isBlank d
      · have solid : Solid [c] := List.forall_mem_singleton.mpr blank
        exact ⟨_, .word nothing (List.cons_ne_nil c []) solid alone made⟩
      · cases made with
        | blank others => exact absurd (fun d among => others d (List.mem_of_mem_head? among)) alone
        | @word lead word after _ first some solid apart others =>
          cases lead with
          | cons d lead => exact absurd (fun e among => first e (by simp_all)) alone
          | nil =>
            have joined : Solid (c :: word) := List.forall_mem_cons.mpr ⟨blank, solid⟩
            exact ⟨_, .word nothing (List.cons_ne_nil c word) joined apart others⟩

theorem fields_of_madeOf {words : List (List Char)} {cs : List Char} (made : MadeOf words cs) :
    fields cs = words := by
  induction made with
  | blank blank => exact fields_blank blank
  | word blank some solid apart _ ih =>
    rw [fields_append_of_blank blank, fields_word some solid apart, ih]

theorem fields_eq_iff {cs : List Char} {words : List (List Char)} :
    fields cs = words ↔ MadeOf words cs := by
  constructor
  · rintro rfl
    obtain ⟨words, made⟩ := exists_madeOf cs
    rwa [fields_of_madeOf made]
  · exact fields_of_madeOf

end SwitchAgent.Text
