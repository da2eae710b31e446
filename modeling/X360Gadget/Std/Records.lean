import Mathlib.Data.List.Basic

/-!
# Length-prefixed records

A record starts with its own length in bytes. `walk` skips from record to
record and has a result only when no length is zero, none reaches past the end,
and the last record ends exactly at the end. `walk_flatten` walks any
concatenation of well-sized records back into its parts.
-/

namespace X360Gadget.Std.Records

/-- Skip from record to record, at most `fuel` times. -/
def walkFrom : Nat → List UInt8 → Option (List (List UInt8))
  | _, [] => some []
  | 0, _ :: _ => none
  | fuel + 1, length :: rest =>
      if length.toNat = 0 ∨ (length :: rest).length < length.toNat then
        none
      else
        (walkFrom fuel ((length :: rest).drop length.toNat)).map
          ((length :: rest).take length.toNat :: ·)

/-- Walk a byte string from its start; each record takes at least one byte. -/
def walk (bytes : List UInt8) : Option (List (List UInt8)) :=
  walkFrom bytes.length bytes

/-- The first byte of the record is its length. -/
def WellSized (record : List UInt8) : Prop :=
  record.head?.map UInt8.toNat = some record.length

instance (record : List UInt8) : Decidable (WellSized record) :=
  inferInstanceAs (Decidable (_ = _))

/-- A well-sized record is not empty. -/
theorem WellSized.length_pos {record : List UInt8} (sized : WellSized record) :
    0 < record.length := by
  cases record with
  | nil => simp [WellSized] at sized
  | cons length rest => simp

/-- The walk takes one well-sized record off the front. -/
theorem walkFrom_append {fuel : Nat} {record rest : List UInt8} (sized : WellSized record) :
    walkFrom (fuel + 1) (record ++ rest) = (walkFrom fuel rest).map (record :: ·) := by
  cases record with
  | nil => simp [WellSized] at sized
  | cons length body =>
      have size : length.toNat = (length :: body).length := by simpa [WellSized] using sized
      have inRange : ¬(length.toNat = 0 ∨ (length :: (body ++ rest)).length < length.toNat) := by
        simp only [List.length_cons, List.length_append] at size ⊢
        omega
      rw [List.cons_append, walkFrom, if_neg inRange, ← List.cons_append, size]
      simp

/-- More fuel than records is enough. -/
theorem walkFrom_flatten {records : List (List UInt8)} {fuel : Nat}
    (sized : ∀ record ∈ records, WellSized record) (enough : records.length ≤ fuel) :
    walkFrom fuel records.flatten = some records := by
  induction records generalizing fuel with
  | nil => cases fuel <;> rfl
  | cons record rest ih =>
      obtain ⟨remaining, rfl⟩ : ∃ remaining, fuel = remaining + 1 :=
        ⟨fuel - 1, by simp at enough; omega⟩
      have tail := ih (fun other member => sized other (List.mem_cons_of_mem record member))
        (Nat.le_of_succ_le_succ enough)
      rw [List.flatten_cons, walkFrom_append (sized record List.mem_cons_self), tail]
      rfl

/-- Each record contributes at least its length byte. -/
theorem length_le_length_flatten {records : List (List UInt8)}
    (sized : ∀ record ∈ records, WellSized record) : records.length ≤ records.flatten.length := by
  induction records with
  | nil => simp
  | cons record rest ih =>
      have head := (sized record List.mem_cons_self).length_pos
      have tail := ih fun other member => sized other (List.mem_cons_of_mem record member)
      simp only [List.length_cons, List.flatten_cons, List.length_append]
      omega

/-- Concatenated well-sized records walk back into the records. -/
theorem walk_flatten {records : List (List UInt8)}
    (sized : ∀ record ∈ records, WellSized record) : walk records.flatten = some records :=
  walkFrom_flatten sized (length_le_length_flatten sized)

end X360Gadget.Std.Records
