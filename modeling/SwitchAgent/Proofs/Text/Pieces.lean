import Mathlib.Data.List.TakeDrop
import Mathlib.Data.List.TakeWhile
import SwitchAgent.Text.Blank

/-!
# Pieces and what stands between them

A text is its pieces with the separators between them, and pieces without separators are found
again. A cut is made at the first separator.
-/

namespace SwitchAgent.Text

section Pieces

variable {α : Type} (separates : α → Bool)

theorem pieces_append_separator (before after : List α) {c : α} (hc : separates c) :
    pieces separates (before ++ c :: after) =
      pieces separates before ++ pieces separates after := by
  induction before with
  | nil => simp [pieces, hc]
  | cons b before ih =>
    simp only [List.cons_append, pieces, ih]
    by_cases hb : separates b
    · simp [hb]
    · have nonempty := pieces_ne_nil separates before
      cases hp : pieces separates before with
      | nil => exact absurd hp nonempty
      | cons p ps => simp [hb]

theorem pieces_without_separator (piece : List α) (none : ∀ c ∈ piece, ¬ separates c) :
    pieces separates piece = [piece] := by
  induction piece with
  | nil => rfl
  | cons c piece ih =>
    have hc := none c List.mem_cons_self
    have rest := ih fun d hd => none d (List.mem_cons_of_mem c hd)
    simp [pieces, hc, rest]

theorem not_separates_of_mem_pieces {cs piece : List α} (among : piece ∈ pieces separates cs) :
    ∀ c ∈ piece, ¬ separates c := by
  induction cs generalizing piece with
  | nil =>
    rw [List.mem_singleton.mp among]
    exact nofun
  | cons c cs ih =>
    rw [pieces] at among
    split at among
    · rcases List.mem_cons.mp among with rfl | later
      · exact nofun
      · exact ih later
    · rename_i hc
      split at among
      · rw [List.mem_singleton.mp among]
        exact List.forall_mem_singleton.mpr hc
      · rename_i first others split
        rw [split] at ih
        rcases List.mem_cons.mp among with rfl | later
        · exact List.forall_mem_cons.mpr ⟨hc, ih List.mem_cons_self⟩
        · exact ih (List.mem_cons_of_mem first later)

/-- What has no separator in it belongs to the last piece. -/
theorem exists_pieces_append (cs : List α) {tail : List α} (none : ∀ c ∈ tail, ¬ separates c) :
    ∃ front last, pieces separates cs = front ++ [last] ∧
      pieces separates (cs ++ tail) = front ++ [last ++ tail] := by
  induction cs with
  | nil => exact ⟨[], [], rfl, pieces_without_separator separates tail none⟩
  | cons c cs ih =>
    obtain ⟨front, last, before, after⟩ := ih
    by_cases hc : separates c
    · exact ⟨[] :: front, last, by simp [pieces, hc, before], by simp [pieces, hc, after]⟩
    · cases front with
      | nil => exact ⟨[], c :: last, by simp [pieces, hc, before], by simp [pieces, hc, after]⟩
      | cons first front =>
        exact ⟨(c :: first) :: front, last, by simp [pieces, hc, before],
          by simp [pieces, hc, after]⟩

end Pieces

theorem intercalate_pieces (separator : Char) (cs : List Char) :
    [separator].intercalate (pieces (· == separator) cs) = cs := by
  induction cs with
  | nil => rfl
  | cons c cs ih =>
    cases split : pieces (· == separator) cs with
    | nil => exact absurd split (pieces_ne_nil _ cs)
    | cons piece others =>
      rw [split] at ih
      by_cases same : c = separator
      · subst same
        have parts : pieces (· == c) (c :: cs) = [] :: piece :: others := by
          simp [pieces, split]
        rw [parts, List.intercalate_cons_cons, ih]
        rfl
      · have parts : pieces (· == separator) (c :: cs) = (c :: piece) :: others := by
          simp [pieces, split, same]
        rw [parts]
        cases others with
        | nil => simpa using ih
        | cons second others =>
          rw [List.intercalate_cons_cons] at ih ⊢
          rw [List.cons_append, List.cons_append, ih]

theorem pieces_intercalate {separator : Char} {parts : List (List Char)} (some : parts ≠ [])
    (whole : ∀ part ∈ parts, separator ∉ part) :
    pieces (· == separator) ([separator].intercalate parts) = parts := by
  have alone (part : List Char) (absent : separator ∉ part) :
      pieces (· == separator) part = [part] := by
    refine pieces_without_separator _ part ?_
    intro c inside same
    exact absent (beq_iff_eq.mp same ▸ inside)
  induction parts with
  | nil => exact absurd rfl some
  | cons first others ih =>
    obtain ⟨wholeFirst, wholeOthers⟩ := List.forall_mem_cons.mp whole
    cases others with
    | nil =>
      rw [List.intercalate_singleton]
      exact alone first wholeFirst
    | cons second others =>
      have later := ih (List.cons_ne_nil second others) wholeOthers
      have cut := pieces_append_separator (· == separator) first
        ([separator].intercalate (second :: others)) (beq_self_eq_true separator)
      rw [List.intercalate_cons_cons, List.append_assoc, List.singleton_append, cut,
        alone first wholeFirst, later]
      rfl

theorem eq_or_mem_of_mem_intercalate {separator c : Char} {parts : List (List Char)}
    (among : c ∈ [separator].intercalate parts) : c = separator ∨ ∃ part ∈ parts, c ∈ part := by
  induction parts with
  | nil => cases among
  | cons first others ih =>
    cases others with
    | nil => exact .inr ⟨first, List.mem_cons_self, by simpa using among⟩
    | cons second others =>
      rw [List.intercalate_cons_cons, List.append_assoc] at among
      rcases List.mem_append.mp among with here | behind
      · exact .inr ⟨first, List.mem_cons_self, here⟩
      · rcases List.mem_cons.mp behind with same | later
        · exact .inl same
        · obtain same | ⟨part, listed, inside⟩ := ih later
          · exact .inl same
          · exact .inr ⟨part, List.mem_cons_of_mem first listed, inside⟩

theorem span_append {α : Type} {p : α → Bool} {front rest : List α}
    (all : ∀ c ∈ front, p c = true) (ends : rest.span p = ([], rest)) :
    (front ++ rest).span p = (front, rest) := by
  rw [List.span_eq_takeWhile_dropWhile, Prod.mk.injEq] at ends ⊢
  exact ⟨by rw [List.takeWhile_append_of_pos all, ends.1, List.append_nil],
    by rw [List.dropWhile_append_of_pos all, ends.2]⟩

theorem cutOnce_eq_some_iff {separator : Char} {cs before after : List Char} :
    cutOnce separator cs = some (before, after) ↔
      cs = before ++ separator :: after ∧ separator ∉ before := by
  have parts := List.takeWhile_append_dropWhile (p := (· != separator)) (l := cs)
  rw [cutOnce, List.span_eq_takeWhile_dropWhile]
  constructor
  · intro cut
    cases rest : cs.dropWhile (· != separator) with
    | nil => simp [rest] at cut
    | cons c others =>
      have first : c = separator := by
        have some : cs.dropWhile (· != separator) ≠ [] := by simp [rest]
        have stops := List.head_dropWhile_not (· != separator) some
        simpa [rest] using stops
      simp only [rest, Option.some.injEq, Prod.mk.injEq] at cut
      obtain ⟨rfl, rfl⟩ := cut
      rw [rest, first] at parts
      refine ⟨parts.symm, ?_⟩
      intro inside
      simpa using List.mem_takeWhile_imp inside
  · rintro ⟨rfl, absent⟩
    have goes : ∀ c ∈ before, (c != separator) = true := by
      intro c inside
      exact bne_iff_ne.mpr fun same => absent (same ▸ inside)
    rw [List.takeWhile_append_of_pos goes, List.dropWhile_append_of_pos goes]
    simp

end SwitchAgent.Text
