import Mathlib.Algebra.GroupWithZero.Nat
import Mathlib.Data.List.Induction
import SwitchAgent.Bytes.Cursor

/-!
# What a reading demands

A reading succeeds under one condition and otherwise finds the bytes malformed. One after the
other, readings demand what all of them demand.
-/

namespace SwitchAgent.Bytes

/-- Under the condition the result is a good one, else a fault of the bytes that were read. -/
structure Demands {α : Type} (condition : Prop) (good : α → Prop) (result : Except Fault α) :
    Prop where
  met : condition → ∃ a, result = .ok a ∧ good a
  missed : ¬ condition → ∃ fault, result = .error fault ∧ fault.kind = .malformed

namespace Demands

variable {α β : Type} {condition further : Prop} {good : α → Prop} {result : Except Fault α}

theorem ok {a : α} (h : good a) : Demands True good (Except.ok a) where
  met _ := ⟨a, rfl, h⟩
  missed none := absurd trivial none

theorem error {fault : Fault} (impossible : ¬ condition) (kind : fault.kind = .malformed) :
    Demands condition good (.error fault) where
  met h := absurd h impossible
  missed _ := ⟨fault, rfl, kind⟩

theorem congr (same : condition ↔ further) (h : Demands condition good result) :
    Demands further good result where
  met demand := h.met (same.mpr demand)
  missed demand := h.missed fun other => demand (same.mp other)

theorem mono {better : α → Prop} (implies : ∀ a, condition → better a → good a)
    (h : Demands condition better result) : Demands condition good result where
  met demand := by
    obtain ⟨a, same, ha⟩ := h.met demand
    exact ⟨a, same, implies a demand ha⟩
  missed := h.missed

theorem bind {fine : β → Prop} {next : α → Except Fault β} (h : Demands condition good result)
    (rest : ∀ a, condition → good a → Demands further fine (next a)) :
    Demands (condition ∧ further) fine (result >>= next) := by
  by_cases first : condition
  · obtain ⟨a, rfl, ha⟩ := h.met first
    have later := rest a first ha
    exact later.congr ⟨fun demand => ⟨first, demand⟩, fun both => both.2⟩
  · obtain ⟨fault, rfl, kind⟩ := h.missed first
    exact Demands.error (fun both => first both.1) kind

/-- What comes after the last condition may only choose the value. -/
theorem map {fine : β → Prop} {next : α → β} (h : Demands condition good result)
    (rest : ∀ a, condition → good a → fine (next a)) :
    Demands condition fine (result >>= fun a => pure (next a)) :=
  (h.bind fun a first ha => Demands.ok (rest a first ha)).congr (iff_of_eq (and_true condition))

/-- Where a reading was followed by another one and both succeeded, the first gave a good result. -/
theorem bind_ok {b : β} {next : α → Except Fault β} (h : Demands condition good result)
    (same : (result >>= next) = .ok b) : ∃ a, result = .ok a ∧ good a ∧ next a = .ok b := by
  by_cases demand : condition
  · obtain ⟨a, rfl, ha⟩ := h.met demand
    exact ⟨a, rfl, ha, same⟩
  · obtain ⟨fault, rfl, -⟩ := h.missed demand
    cases same

theorem good_of_ok {a : α} (h : Demands condition good result) (same : result = .ok a) : good a := by
  subst same
  have returned : (Except.ok a >>= pure : Except Fault α) = .ok a := rfl
  obtain ⟨_, here, ha, -⟩ := h.bind_ok returned
  cases here
  exact ha

theorem isOk_iff (h : Demands condition good result) : result.isOk ↔ condition := by
  by_cases demand : condition
  · obtain ⟨a, rfl, -⟩ := h.met demand
    exact ⟨fun _ => demand, fun _ => rfl⟩
  · obtain ⟨fault, rfl, -⟩ := h.missed demand
    exact ⟨fun ok => absurd ok Bool.false_ne_true, fun other => absurd other demand⟩

end Demands

/-- The number that stands in a buffer at an offset. -/
def numberAt (buffer : List UInt8) (width offset : Nat) : Nat :=
  value ((buffer.drop offset).take width)

theorem value_lt (bytes : List UInt8) : value bytes < 256 ^ bytes.length := by
  induction bytes using List.reverseRecOn with
  | nil => decide
  | append_singleton bytes b ih =>
    have digit := b.toNat_lt
    rw [value_append_singleton, List.length_append, List.length_singleton, Nat.pow_succ]
    omega

theorem numberAt_lt (buffer : List UInt8) (width offset : Nat) :
    numberAt buffer width offset < 256 ^ width := by
  have bounded := value_lt ((buffer.drop offset).take width)
  have short : ((buffer.drop offset).take width).length ≤ width := by
    rw [List.length_take]
    exact Nat.min_le_left _ _
  exact Nat.lt_of_lt_of_le bounded (Nat.pow_le_pow_right (by decide) short)

/-- Up to eight bytes fit in the number that is read from them. -/
theorem toNat_ofNat_numberAt (buffer : List UInt8) {width : Nat} (offset : Nat)
    (fits : width ≤ 8) :
    (UInt64.ofNat (numberAt buffer width offset)).toNat = numberAt buffer width offset := by
  have bounded := numberAt_lt buffer width offset
  have word : 256 ^ width ≤ 2 ^ 64 := Nat.pow_le_pow_right (by decide) fits
  rw [UInt64.toNat_ofNat']
  exact Nat.mod_eq_of_lt (Nat.lt_of_lt_of_le bounded word)

namespace Cursor

theorem seek_demands (c : Cursor) (position : Nat) :
    Demands (position ≤ c.buffer.length)
      (fun c' => c'.buffer = c.buffer ∧ c'.position = position) (c.seek position) := by
  rw [seek]
  split
  · next inside => exact (Demands.ok ⟨rfl, rfl⟩).congr ⟨fun _ => inside, fun _ => trivial⟩
  · next outside => exact Demands.error outside rfl

theorem slice_demands (c : Cursor) (offset length : Nat) :
    Demands (offset + length ≤ c.buffer.length)
      (fun bytes => bytes = (c.buffer.drop offset).take length) (c.slice offset length) := by
  rw [slice]
  split
  · next inside =>
    have whole : Demands True (fun bytes => bytes = (c.buffer.drop offset).take length)
        (.ok ((c.buffer.drop offset).take length)) := Demands.ok rfl
    exact whole.congr ⟨fun _ => inside, fun _ => trivial⟩
  · next outside => exact Demands.error outside rfl

theorem take_demands (c : Cursor) (length : Nat) :
    Demands (c.position + length ≤ c.buffer.length)
      (fun taken => taken.1 = (c.buffer.drop c.position).take length ∧
        taken.2.buffer = c.buffer ∧ taken.2.position = c.position + length) (c.take length) := by
  rw [take]
  split
  · next inside => exact (Demands.ok ⟨rfl, rfl, rfl⟩).congr ⟨fun _ => inside, fun _ => trivial⟩
  · next outside => exact Demands.error outside rfl

theorem peek_demands (c : Cursor) {width : Nat} (offset : Nat) (fits : width ≤ 8) :
    Demands (offset + width ≤ c.buffer.length)
      (fun n => n.toNat = numberAt c.buffer width offset) (c.peek width offset) := by
  apply (c.slice_demands offset width).map
  intro bytes _ same
  rw [same]
  exact toNat_ofNat_numberAt c.buffer offset fits

theorem takeNumber_demands (c : Cursor) {width : Nat} (fits : width ≤ 8) :
    Demands (c.position + width ≤ c.buffer.length)
      (fun taken => taken.1.toNat = numberAt c.buffer width c.position ∧
        taken.2.buffer = c.buffer ∧ taken.2.position = c.position + width)
      (c.takeNumber width) := by
  apply (c.take_demands width).map
  rintro ⟨bytes, c'⟩ _ ⟨same, kept⟩
  refine ⟨?_, kept⟩
  dsimp only at same ⊢
  rw [same]
  exact toNat_ofNat_numberAt c.buffer c.position fits

/-- The reading takes so many bytes from where the cursor stands. -/
def Takes {α : Type} (c : Cursor) (width : Nat) (result : Except Fault (α × Cursor)) : Prop :=
  Demands (c.position + width ≤ c.buffer.length)
    (fun read => read.2.buffer = c.buffer ∧ read.2.position = c.position + width) result

theorem takeNumber_takes (c : Cursor) {width : Nat} (fits : width ≤ 8) :
    c.Takes width (c.takeNumber width) :=
  (c.takeNumber_demands fits).mono fun _ _ good => good.2

namespace Takes

variable {α β : Type} {c : Cursor} {width further : Nat} {result : Except Fault (α × Cursor)}

theorem nothing (a : α) : c.Takes 0 (.ok (a, c)) := by
  have here : Demands True (fun read => read.2.buffer = c.buffer ∧ read.2.position = c.position)
      (.ok (a, c)) := Demands.ok ⟨rfl, rfl⟩
  exact here.congr ⟨fun _ => c.inside, fun _ => trivial⟩

theorem bind {next : α × Cursor → Except Fault (β × Cursor)} (h : c.Takes width result)
    (rest : ∀ a (c' : Cursor), c'.Takes further (next (a, c'))) :
    c.Takes (width + further) (result >>= next) := by
  have later : ∀ read, c.position + width ≤ c.buffer.length →
      (read.2.buffer = c.buffer ∧ read.2.position = c.position + width) →
      Demands (c.position + (width + further) ≤ c.buffer.length)
        (fun last => last.2.buffer = c.buffer ∧
          last.2.position = c.position + (width + further)) (next read) := by
    rintro ⟨a, c'⟩ _ ⟨buffer, position⟩
    have taken := rest a c'
    dsimp only at buffer position
    rw [Takes] at taken
    rwa [buffer, position, Nat.add_assoc] at taken
  exact (Demands.bind h later).congr ⟨fun demand => demand.2, fun demand => ⟨by omega, demand⟩⟩

theorem map (next : α → β) (h : c.Takes width result) :
    c.Takes width (result >>= fun read => pure (next read.1, read.2)) :=
  Demands.map h fun _ _ good => good

end Takes

end Cursor

end SwitchAgent.Bytes
