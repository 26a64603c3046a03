import SwitchAgent.Proofs.Telemetry.Framing

/-!
# Decoding on words

The same decoding step by step on 64-bit words, with a machine that stops at a sum that is too
large, a difference below zero, or a division by zero. It never stops, whatever the payload says
about its own lengths.
-/

namespace SwitchAgent.Telemetry

open Bytes

/-- Steps that end with a result or a fault; without either, an operation had no result. -/
abbrev Machine := ExceptT Fault Option

namespace Word

def plus (a b : UInt64) : Option UInt64 :=
  if a.toNat + b.toNat < UInt64.size then some (a + b) else none

def minus (a b : UInt64) : Option UInt64 :=
  if b ≤ a then some (a - b) else none

def quotient (a b : UInt64) : Option UInt64 :=
  if b = 0 then none else some (a / b)

def remainder (a b : UInt64) : Option UInt64 :=
  if b = 0 then none else some (a % b)

/-- A number is put together byte by byte; what is shifted out is lost. -/
def ofBytes (bytes : List UInt8) : UInt64 :=
  bytes.foldl (fun n b => n <<< 8 ||| b.toUInt64) 0

end Word

structure WordCursor where
  buffer : List UInt8
  position : UInt64

namespace WordCursor

def size (c : WordCursor) : UInt64 :=
  .ofNat c.buffer.length

def remaining (c : WordCursor) : Option UInt64 :=
  Word.minus c.size c.position

def seek (c : WordCursor) (position : UInt64) : Machine WordCursor :=
  if c.size < position then throw (.seekBeyond position.toNat c.buffer.length)
  else return { c with position }

/-- A sum that is too large is beyond the end of any buffer. -/
def slice (c : WordCursor) (offset length : UInt64) : Machine (List UInt8) :=
  match (Word.plus offset length).filter (· ≤ c.size) with
  | none => throw (.underflow length.toNat offset.toNat c.buffer.length)
  | some stop => return (c.buffer.take stop.toNat).drop offset.toNat

def take (c : WordCursor) (length : UInt64) : Machine (List UInt8 × WordCursor) := do
  let bytes ← c.slice c.position length
  let position ← Word.plus c.position length
  return (bytes, { c with position })

def peek (c : WordCursor) (width offset : UInt64) : Machine UInt64 :=
  return Word.ofBytes (← c.slice offset width)

def takeNumber (c : WordCursor) (width : UInt64) : Machine (UInt64 × WordCursor) := do
  let (bytes, c) ← c.take width
  return (Word.ofBytes bytes, c)

end WordCursor

namespace Hop

def readFieldsOnWords : List Field → WordCursor → Machine (List (Field × UInt64) × WordCursor)
  | [], c => return ([], c)
  | f :: fs, c => do
    let (n, c) ← c.takeNumber (.ofNat f.width)
    let (readings, c) ← readFieldsOnWords fs c
    return ((f, n * f.scale) :: readings, c)

def readOnWords (fields : List Field) (c : WordCursor) : Machine (Hop × WordCursor) := do
  let (readings, c) ← readFieldsOnWords fields c
  return (ofReadings readings, c)

def readManyOnWords (fields : List Field) : Nat → WordCursor → Machine (List Hop × WordCursor)
  | 0, c => return ([], c)
  | n + 1, c => do
    let (hop, c) ← readOnWords fields c
    let (hops, c) ← readManyOnWords fields n c
    return (hop :: hops, c)

end Hop

namespace Packet

def headerLengthOnWords (payload : List UInt8) : Machine UInt64 := do
  let (length, c) ← ((WordCursor.mk payload 0).takeNumber 8).adapt
    fun _ => Fault.noHeaderLength payload.length
  if (← c.remaining) < length then throw (.headerBeyond length.toNat payload.length)
  else if length < 15 then throw (.headerShort length.toNat)
  else return length

/-- Only a stride other than zero divides. -/
def hopCountOnWords (stack hop : UInt64) : Machine UInt64 :=
  match Word.minus stack 3 with
  | none => throw .stackTooSmall
  | some hops => do
    if hop = 0 then throw (.stackUneven hops.toNat hop.toNat)
    else if (← Word.remainder hops hop) ≠ 0 then throw (.stackUneven hops.toNat hop.toNat)
    else Word.quotient hops hop

def decodeOnWords (payload : List UInt8) : Machine Packet := do
  let length ← headerLengthOnWords payload
  let c := WordCursor.mk payload 0
  let stop ← Word.plus 8 length
  let headers ← c.slice 8 length
  let flowId ← c.peek 4 8
  let destination ← c.peek 8 (← Word.plus 8 12)
  let intBitmask := (← c.peek 2 (← Word.minus stop 8)).toUInt16
  let scionBitmask := (← c.peek 2 (← Word.minus stop 4)).toUInt16
  let stack ← c.peek 1 (← Word.minus stop 15)
  let hop ← c.peek 1 (← Word.minus stop 10)
  let count ← hopCountOnWords stack (hop &&& 0x1f)
  let c ← c.seek stop
  let (hops, _) ← Hop.readManyOnWords (Hop.selected intBitmask scionBitmask) count.toNat c
  return ⟨flowId.toUInt32, destination, intBitmask, scionBitmask, headers, hops⟩

end Packet

/-- The steps never stop, and come to a result like the given one or to the same fault. -/
def Follows {α β : Type} (like : α → β → Prop) (steps : Machine α) (result : Except Fault β) :
    Prop :=
  match result with
  | .ok b => ∃ a, steps = pure a ∧ like a b
  | .error fault => steps = throw fault

namespace Follows

variable {α β γ δ : Type} {like : α → β → Prop} {alike : γ → δ → Prop}

theorem bind {steps : Machine α} {result : Except Fault β} {next : α → Machine γ}
    {following : β → Except Fault δ} (h : Follows like steps result)
    (rest : ∀ a b, like a b → Follows alike (next a) (following b)) :
    Follows alike (steps >>= next) (result >>= following) := by
  cases result with
  | error fault =>
    have failed : steps = throw fault := h
    rw [failed]
    rfl
  | ok b =>
    obtain ⟨a, same, ha⟩ := h
    rw [same, pure_bind]
    exact rest a b ha

/-- What is known of the result may be used further on. -/
theorem and {known : β → Prop} {steps : Machine α} {result : Except Fault β}
    (h : Follows like steps result) (fact : ∀ b, result = .ok b → known b) :
    Follows (fun a b => like a b ∧ known b) steps result := by
  cases result with
  | error fault => exact h
  | ok b =>
    obtain ⟨a, same, ha⟩ := h
    exact ⟨a, same, ha, fact b rfl⟩

/-- An operation that has a result does not stop the machine. -/
theorem step {operation : Option γ} {c : γ} {next : γ → Machine α} {result : Except Fault β}
    (has : operation = some c) (rest : Follows like (next c) result) :
    Follows like (liftM operation >>= next) result := by
  rw [has]
  exact rest

theorem run_eq {steps : Machine α} {result : Except Fault α} (h : Follows Eq steps result) :
    steps.run = some result := by
  cases result with
  | error fault =>
    have failed : steps = throw fault := h
    rw [failed]
    rfl
  | ok a =>
    obtain ⟨_, same, rfl⟩ := h
    rw [same]
    rfl

end Follows

namespace Word

theorem exists_plus {a b : UInt64} (fits : a.toNat + b.toNat < UInt64.size) :
    ∃ c, plus a b = some c ∧ c.toNat = a.toNat + b.toNat := by
  refine ⟨a + b, if_pos fits, ?_⟩
  rw [UInt64.toNat_add]
  exact Nat.mod_eq_of_lt fits

theorem exists_minus {a b : UInt64} (enough : b.toNat ≤ a.toNat) :
    ∃ c, minus a b = some c ∧ c.toNat = a.toNat - b.toNat := by
  have ordered : b ≤ a := UInt64.le_iff_toNat_le.mpr enough
  exact ⟨a - b, if_pos ordered, UInt64.toNat_sub_of_le a b ordered⟩

theorem ne_zero_of_pos {b : UInt64} (positive : 0 < b.toNat) : b ≠ 0 := by
  rintro rfl
  exact absurd positive (by decide)

theorem exists_quotient {a b : UInt64} (positive : 0 < b.toNat) :
    ∃ c, quotient a b = some c ∧ c.toNat = a.toNat / b.toNat :=
  ⟨a / b, if_neg (ne_zero_of_pos positive), UInt64.toNat_div a b⟩

theorem exists_remainder {a b : UInt64} (positive : 0 < b.toNat) :
    ∃ c, remainder a b = some c ∧ c.toNat = a.toNat % b.toNat :=
  ⟨a % b, if_neg (ne_zero_of_pos positive), UInt64.toNat_mod a b⟩

/-- A byte fills what the shift has cleared. -/
theorem shiftLeft_or (n : UInt64) (b : UInt8) :
    n <<< 8 ||| b.toUInt64 = n * 256 + b.toUInt64 := by
  have digit := b.toNat_lt
  have word := n.toNat_lt
  have high : n.toNat * 256 % 2 ^ 64 = (n.toNat % 2 ^ 56) <<< 8 := by
    rw [Nat.shiftLeft_eq]
    omega
  apply UInt64.toNat_inj.mp
  rw [UInt64.toNat_or, UInt64.toNat_shiftLeft, UInt64.toNat_add, UInt64.toNat_mul,
    UInt8.toNat_toUInt64, Nat.shiftLeft_eq]
  change n.toNat * 2 ^ 8 % 2 ^ 64 ||| b.toNat = (n.toNat * 256 % 2 ^ 64 + b.toNat) % 2 ^ 64
  rw [show 2 ^ 8 = 256 from rfl, high, ← Nat.shiftLeft_add_eq_or_of_lt digit, Nat.shiftLeft_eq]
  omega

theorem ofBytes_eq (bytes : List UInt8) : ofBytes bytes = UInt64.ofNat (value bytes) := by
  induction bytes using List.reverseRecOn with
  | nil => rfl
  | append_singleton bytes b ih =>
    have last : ofBytes (bytes ++ [b]) = ofBytes bytes <<< 8 ||| b.toUInt64 := by
      simp [ofBytes]
    rw [last, shiftLeft_or, ih, value_append_singleton, UInt64.ofNat_add, UInt64.ofNat_mul]
    congr 1
    apply UInt64.toNat_inj.mp
    have digit := b.toNat_lt
    rw [UInt8.toNat_toUInt64, UInt64.toNat_ofNat']
    omega

end Word

namespace WordCursor

/-- The cursor stands where the other one does, in a buffer whose length is a word. -/
structure Matches (c : WordCursor) (d : Cursor) : Prop where
  buffer : c.buffer = d.buffer
  position : c.position.toNat = d.position
  fits : d.buffer.length < UInt64.size

theorem start_matches {payload : List UInt8} (fits : payload.length < UInt64.size) :
    Matches ⟨payload, 0⟩ (Cursor.ofBytes payload) where
  buffer := rfl
  position := rfl
  fits := fits

variable {c : WordCursor} {d : Cursor}

theorem Matches.size_toNat (h : c.Matches d) : c.size.toNat = d.buffer.length := by
  rw [size, h.buffer, UInt64.toNat_ofNat']
  exact Nat.mod_eq_of_lt h.fits

theorem Matches.remaining (h : c.Matches d) :
    ∃ n, c.remaining = some n ∧ n.toNat = d.remaining := by
  have inside : c.position.toNat ≤ c.size.toNat := by
    rw [h.position, h.size_toNat]
    exact d.inside
  obtain ⟨n, has, same⟩ := Word.exists_minus inside
  refine ⟨n, has, ?_⟩
  rw [same, h.position, h.size_toNat]
  rfl

theorem Matches.seek (h : c.Matches d) {position : UInt64} {place : Nat}
    (same : position.toNat = place) : Follows Matches (c.seek position) (d.seek place) := by
  subst same
  have size := h.size_toNat
  rw [WordCursor.seek, Cursor.seek]
  by_cases inside : position.toNat ≤ d.buffer.length
  · have within : ¬ c.size < position := by
      rw [UInt64.lt_iff_toNat_lt]
      omega
    rw [if_neg within, dif_pos inside]
    exact ⟨{ c with position }, rfl, h.buffer, rfl, h.fits⟩
  · have beyond : c.size < position := by
      rw [UInt64.lt_iff_toNat_lt]
      omega
    rw [if_pos beyond, dif_neg inside, h.buffer]
    rfl

theorem Matches.slice (h : c.Matches d) {offset length : UInt64} {place width : Nat}
    (here : offset.toNat = place) (wide : length.toNat = width) :
    Follows Eq (c.slice offset length) (d.slice place width) := by
  subst here wide
  have size := h.size_toNat
  rw [WordCursor.slice, Cursor.slice]
  by_cases inside : offset.toNat + length.toNat ≤ d.buffer.length
  · obtain ⟨stop, has, same⟩ := Word.exists_plus (Nat.lt_of_le_of_lt inside h.fits)
    have within : stop ≤ c.size := by
      rw [UInt64.le_iff_toNat_le]
      omega
    rw [has, Option.filter_some, if_pos (by simpa using within), if_pos inside]
    refine ⟨_, rfl, ?_⟩
    rw [same, h.buffer, List.drop_take, Nat.add_sub_cancel_left]
  · rw [if_neg inside, h.buffer]
    have none : (Word.plus offset length).filter (· ≤ c.size) = none := by
      rw [Option.filter_eq_none_iff]
      intro stop has
      rw [Word.plus] at has
      split at has
      · next fits =>
        cases has
        rw [decide_eq_true_eq, UInt64.le_iff_toNat_le, UInt64.toNat_add, Nat.mod_eq_of_lt fits,
          size]
        exact inside
      · cases has
    rw [none]
    rfl

theorem Matches.peek (h : c.Matches d) {width offset : UInt64} {wide place : Nat}
    (fits : width.toNat = wide) (here : offset.toNat = place) :
    Follows Eq (c.peek width offset) (d.peek wide place) := by
  apply (h.slice here fits).bind
  rintro bytes _ rfl
  exact ⟨_, rfl, Word.ofBytes_eq bytes⟩

/-- A number that stands before a given place. -/
theorem Matches.peekBack {γ δ : Type} {alike : γ → δ → Prop} {next : UInt64 → Machine γ}
    {following : UInt64 → Except Fault δ} (h : c.Matches d) {width stop back : UInt64}
    {wide distance : Nat} (fits : width.toNat = wide) (far : back.toNat = distance)
    (enough : distance ≤ stop.toNat) (rest : ∀ n, Follows alike (next n) (following n)) :
    Follows alike (liftM (Word.minus stop back) >>= fun offset => c.peek width offset >>= next)
      (d.peek wide (stop.toNat - distance) >>= following) := by
  subst far
  obtain ⟨offset, has, same⟩ := Word.exists_minus enough
  apply Follows.step has
  apply (h.peek fits same).bind
  rintro n _ rfl
  exact rest n

/-- Where bytes are read from, the position after them is a word too. -/
theorem Matches.take (h : c.Matches d) {length : UInt64} {width : Nat}
    (wide : length.toNat = width) :
    Follows (fun a b => a.1 = b.1 ∧ a.2.Matches b.2) (c.take length) (d.take width) := by
  have read := h.slice h.position wide
  rw [WordCursor.take, Cursor.take]
  rw [Cursor.slice] at read
  by_cases inside : d.position + width ≤ d.buffer.length
  · rw [if_pos inside] at read
    obtain ⟨bytes, same, rfl⟩ := read
    have fits : c.position.toNat + length.toNat < UInt64.size := by
      rw [h.position, wide]
      exact Nat.lt_of_le_of_lt inside h.fits
    obtain ⟨position, has, sum⟩ := Word.exists_plus fits
    rw [dif_pos inside, same, has]
    refine ⟨_, rfl, rfl, h.buffer, ?_, h.fits⟩
    rw [sum, h.position, wide]
  · rw [if_neg inside] at read
    have failed : c.slice c.position length = throw _ := read
    rw [dif_neg inside, failed]
    rfl

theorem Matches.takeNumber (h : c.Matches d) {width : UInt64} {wide : Nat}
    (fits : width.toNat = wide) :
    Follows (fun a b => a.1 = b.1 ∧ a.2.Matches b.2) (c.takeNumber width) (d.takeNumber wide) := by
  apply (h.take fits).bind
  rintro ⟨bytes, c'⟩ ⟨_, d'⟩ ⟨rfl, moved⟩
  exact ⟨_, rfl, Word.ofBytes_eq bytes, moved⟩

end WordCursor

namespace Hop

open WordCursor

theorem readFields_follows (fields : List Field) {c : WordCursor} {d : Cursor}
    (h : c.Matches d) :
    Follows (fun a b => a.1 = b.1 ∧ a.2.Matches b.2) (readFieldsOnWords fields c)
      (readFields fields d) := by
  induction fields generalizing c d with
  | nil => exact ⟨_, rfl, rfl, h⟩
  | cons f fields ih =>
    have width : (UInt64.ofNat f.width).toNat = f.width := by cases f <;> rfl
    apply (h.takeNumber width).bind
    rintro ⟨n, c⟩ ⟨_, d⟩ ⟨rfl, moved⟩
    apply (ih moved).bind
    rintro ⟨readings, c⟩ ⟨_, d⟩ ⟨rfl, moved⟩
    exact ⟨_, rfl, rfl, moved⟩

theorem read_follows (fields : List Field) {c : WordCursor} {d : Cursor} (h : c.Matches d) :
    Follows (fun a b => a.1 = b.1 ∧ a.2.Matches b.2) (readOnWords fields c) (read fields d) := by
  apply (readFields_follows fields h).bind
  rintro ⟨readings, c⟩ ⟨_, d⟩ ⟨rfl, moved⟩
  exact ⟨_, rfl, rfl, moved⟩

theorem readMany_follows (fields : List Field) (count : Nat) {c : WordCursor} {d : Cursor}
    (h : c.Matches d) :
    Follows (fun a b => a.1 = b.1 ∧ a.2.Matches b.2) (readManyOnWords fields count c)
      (readMany fields count d) := by
  induction count generalizing c d with
  | zero => exact ⟨_, rfl, rfl, h⟩
  | succ count ih =>
    apply (read_follows fields h).bind
    rintro ⟨hop, c⟩ ⟨_, d⟩ ⟨rfl, moved⟩
    apply (ih moved).bind
    rintro ⟨hops, c⟩ ⟨_, d⟩ ⟨rfl, moved⟩
    exact ⟨_, rfl, rfl, moved⟩

end Hop

namespace Packet

open WordCursor

theorem headerLength_follows {payload : List UInt8} (fits : payload.length < UInt64.size) :
    Follows (fun a b => a.toNat = b) (headerLengthOnWords payload) (headerLength payload) := by
  have eight : (8 : UInt64).toNat = lengthBytes := rfl
  have first := (start_matches fits).takeNumber eight
  rw [headerLengthOnWords, headerLength]
  cases taken : (Cursor.ofBytes payload).takeNumber lengthBytes with
  | error fault =>
    rw [taken] at first
    have failed : WordCursor.takeNumber ⟨payload, 0⟩ 8 = throw fault := first
    rw [failed]
    rfl
  | ok read =>
    obtain ⟨length, d⟩ := read
    rw [taken] at first
    obtain ⟨⟨length, c⟩, read, rfl, moved⟩ := first
    obtain ⟨left, has, same⟩ := moved.remaining
    rw [read]
    apply Follows.step has
    dsimp only at same ⊢
    rw [← same]
    by_cases beyond : left.toNat < length.toNat
    · rw [if_pos beyond, if_pos (UInt64.lt_iff_toNat_lt.mpr beyond)]
      rfl
    · rw [if_neg beyond, if_neg fun less => beyond (UInt64.lt_iff_toNat_lt.mp less)]
      by_cases short : length.toNat < stackFromEnd
      · rw [if_pos short, if_pos (UInt64.lt_iff_toNat_lt.mpr short)]
        rfl
      · rw [if_neg short, if_neg fun less => short (UInt64.lt_iff_toNat_lt.mp less)]
        exact ⟨length, rfl, rfl⟩

theorem hopCount_follows (stack hop : UInt64) :
    Follows (fun a b => a.toNat = b) (hopCountOnWords stack hop)
      (hopCount stack.toNat hop.toNat) := by
  rw [hopCountOnWords, hopCount]
  by_cases small : stack.toNat < stackHeader
  · have below : ¬ 3 ≤ stack := by
      rw [UInt64.le_iff_toNat_le]
      exact Nat.not_le.mpr small
    have none : Word.minus stack 3 = none := if_neg below
    rw [none, if_pos small]
    rfl
  · obtain ⟨hops, has, same⟩ := @Word.exists_minus stack 3 (Nat.not_lt.mp small)
    have left : stack.toNat - stackHeader = hops.toNat := same.symm
    rw [has, if_neg small, left]
    dsimp only
    by_cases zero : hop = 0
    · have nothing : hop.toNat = 0 := congrArg UInt64.toNat zero
      rw [if_pos zero, if_pos (Or.inl nothing)]
      rfl
    · have nonzero : hop.toNat ≠ 0 := fun h => zero (UInt64.toNat_inj.mp h)
      have positive := Nat.pos_of_ne_zero nonzero
      obtain ⟨rest, remains, restSame⟩ := @Word.exists_remainder hops hop positive
      obtain ⟨count, whole, countSame⟩ := @Word.exists_quotient hops hop positive
      rw [if_neg zero]
      apply Follows.step remains
      by_cases uneven : rest = 0
      · have even : ¬ (hop.toNat = 0 ∨ hops.toNat % hop.toNat ≠ 0) := by
          rw [not_or, not_not, ← restSame, uneven]
          exact ⟨nonzero, rfl⟩
        rw [if_neg (not_not.mpr uneven), if_neg even, whole]
        exact ⟨count, rfl, countSame⟩
      · have odd : hop.toNat = 0 ∨ hops.toNat % hop.toNat ≠ 0 := by
          rw [← restSame]
          exact Or.inr fun h => uneven (UInt64.toNat_inj.mp h)
        rw [if_pos uneven, if_pos odd]
        rfl

/-- The low five bits of a number. -/
theorem toNat_and_mask (n : UInt64) : (n &&& 0x1f).toNat = n.toNat % hopSizes := by
  rw [UInt64.toNat_and]
  exact Nat.and_two_pow_sub_one_eq_mod n.toNat 5

theorem headerLength_bounds {payload : List UInt8} {length : Nat}
    (known : headerLength payload = .ok length) : 15 ≤ length ∧ 8 + length ≤ payload.length := by
  have demands := headerLength_demands payload
  have met := demands.isOk_iff.mp (by rw [known]; rfl)
  obtain ⟨_, again, rfl⟩ := demands.met met
  rw [known] at again
  cases again
  omega

theorem decode_follows {payload : List UInt8} (fits : payload.length < UInt64.size) :
    Follows Eq (decodeOnWords payload) (decode payload) := by
  have here := start_matches fits
  have first := (headerLength_follows fits).and fun _ known => headerLength_bounds known
  rw [decodeOnWords, decode]
  apply first.bind
  rintro length _ ⟨rfl, long, inside⟩
  dsimp only
  obtain ⟨stop, stopHas, stopSame⟩ := @Word.exists_plus 8 length
    (Nat.lt_of_le_of_lt inside fits)
  have place : stop.toNat = lengthBytes + length.toNat := stopSame
  have far : stackFromEnd ≤ stop.toNat := by
    rw [place]
    exact Nat.le_trans long (Nat.le_add_left _ _)
  apply Follows.step stopHas
  rw [← place]
  apply (here.slice rfl rfl).bind
  rintro headers _ rfl
  apply (here.peek rfl rfl).bind
  rintro flowId _ rfl
  obtain ⟨offset, offsetHas, offsetSame⟩ := @Word.exists_plus 8 12 (by decide)
  apply Follows.step offsetHas
  apply (here.peek rfl offsetSame).bind
  rintro destination _ rfl
  apply here.peekBack rfl rfl (Nat.le_trans (by decide) far)
  intro intBitmask
  apply here.peekBack rfl rfl (Nat.le_trans (by decide) far)
  intro scionBitmask
  apply here.peekBack rfl rfl (Nat.le_trans (by decide) far)
  intro stack
  apply here.peekBack rfl rfl (Nat.le_trans (by decide) far)
  intro hop
  rw [← toNat_and_mask]
  apply (hopCount_follows _ _).bind
  rintro count _ rfl
  apply (here.seek rfl).bind
  rintro c d moved
  apply (Hop.readMany_follows _ _ moved).bind
  rintro ⟨hops, c⟩ ⟨_, d⟩ ⟨rfl, moved⟩
  exact ⟨_, rfl, rfl⟩

/-- Every payload is decoded if it is framed as documented and is malformed otherwise. No step of
the decoding leaves its words: the machine comes to the same end. -/
theorem decode_iff_wellFramed_on_words (payload : List UInt8) :
    ((decode payload).isOk ↔ WellFramed payload) ∧
    (¬ WellFramed payload →
      ∃ fault, decode payload = .error fault ∧ fault.kind = .malformed) ∧
    (payload.length < UInt64.size → (decodeOnWords payload).run = some (decode payload)) := by
  have demands := decode_demands payload
  exact ⟨demands.isOk_iff, demands.missed, fun fits => (decode_follows fits).run_eq⟩

/-- Twenty bytes of headers, and a hop that holds a node. -/
def oneHop : List UInt8 :=
  [0, 0, 0, 0, 0, 0, 0, 20] ++
    [0, 0, 0, 7, 0, 4, 0, 0, 0, 0, 1, 0, 0x80, 0, 0, 0, 0, 0, 0, 0] ++ [0, 0, 0, 9]

/-- Headers that would end beyond all words. -/
def endless : List UInt8 :=
  List.replicate 40 0xff

theorem oneHop_decoded_endless_malformed :
    (WellFramed oneHop ∧ (decodeOnWords oneHop).run = some (decode oneHop)) ∧
    (∃ fault, decode endless = .error fault ∧ fault.kind = .malformed) ∧
    (decodeOnWords endless).run = some (decode endless) := by
  have good := decode_iff_wellFramed_on_words oneHop
  have bad := decode_iff_wellFramed_on_words endless
  have unframed : ¬ WellFramed endless := fun framed =>
    absurd framed.headersPresent (by decide)
  exact ⟨⟨good.1.mp (by decide), good.2.2 (by decide)⟩, bad.2.1 unframed, bad.2.2 (by decide)⟩

end Packet

end SwitchAgent.Telemetry
