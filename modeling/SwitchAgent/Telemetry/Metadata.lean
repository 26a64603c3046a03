/-!
# Metadata

Byte strings by key. The entries stand in ascending order of their keys, so equal maps are
equal as values.
-/

namespace SwitchAgent.Telemetry

structure Metadata where
  entries : List (UInt32 × List UInt8)
  sorted : entries.Pairwise fun a b => a.1 < b.1
  deriving DecidableEq

namespace Metadata

def empty : Metadata :=
  ⟨[], .nil⟩

/-- Of two values for a key the later one counts. -/
def insertSorted (key : UInt32) (value : List UInt8) :
    List (UInt32 × List UInt8) → List (UInt32 × List UInt8)
  | [] => [(key, value)]
  | (k, v) :: rest =>
    if key < k then (key, value) :: (k, v) :: rest
    else if key = k then (key, value) :: rest
    else (k, v) :: insertSorted key value rest

theorem mem_insertSorted {key : UInt32} {value : List UInt8}
    {entries : List (UInt32 × List UInt8)} {e : UInt32 × List UInt8}
    (h : e ∈ insertSorted key value entries) : e = (key, value) ∨ e ∈ entries := by
  induction entries with
  | nil => simpa [insertSorted] using h
  | cons head rest ih =>
    obtain ⟨k, v⟩ := head
    unfold insertSorted at h
    split at h
    · simpa using h
    · split at h
      · simp only [List.mem_cons] at h ⊢
        rcases h with h | h <;> simp [h]
      · simp only [List.mem_cons] at h ⊢
        rcases h with h | h
        · simp [h]
        · rcases ih h with h | h <;> simp [h]

theorem pairwise_insertSorted {key : UInt32} {value : List UInt8}
    {entries : List (UInt32 × List UInt8)} (h : entries.Pairwise fun a b => a.1 < b.1) :
    (insertSorted key value entries).Pairwise fun a b => a.1 < b.1 := by
  induction entries with
  | nil => simp [insertSorted]
  | cons head rest ih =>
    obtain ⟨k, v⟩ := head
    obtain ⟨above, sorted⟩ := List.pairwise_cons.1 h
    unfold insertSorted
    split
    · rename_i less
      refine List.pairwise_cons.2 ⟨fun e he => ?_, h⟩
      rcases List.mem_cons.1 he with rfl | he
      · exact less
      · exact UInt32.lt_trans less (above e he)
    · split
      · rename_i _ eq
        exact List.pairwise_cons.2 ⟨fun e he => eq ▸ above e he, sorted⟩
      · rename_i notLess ne
        refine List.pairwise_cons.2 ⟨fun e he => ?_, ih sorted⟩
        rcases mem_insertSorted he with rfl | he
        · exact UInt32.lt_of_le_of_ne (UInt32.not_lt.1 notLess) fun eq => ne eq.symm
        · exact above e he

def insert (m : Metadata) (key : UInt32) (value : List UInt8) : Metadata :=
  ⟨insertSorted key value m.entries, pairwise_insertSorted m.sorted⟩

def insertAll (m : Metadata) (entries : List (UInt32 × List UInt8)) : Metadata :=
  entries.foldl (fun m e => m.insert e.1 e.2) m

def ofList (entries : List (UInt32 × List UInt8)) : Metadata :=
  empty.insertAll entries

end Metadata

end SwitchAgent.Telemetry
