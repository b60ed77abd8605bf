import Mathlib.Data.List.Basic

/-!
# Sparse records addressed by byte offset

A zero-initialised byte record of which a program fills a few aligned,
non-overlapping fields.  Only the fields that were written are kept, newest
first; a field that was never written reads as `none`.
-/

/-- The writes made to a record, newest first. -/
structure Slots (α : Type) where
  writes : List (Nat × α) := []
deriving DecidableEq, Repr

namespace Slots

variable {α : Type}

def write (record : Slots α) (offset : Nat) (value : α) : Slots α :=
  ⟨(offset, value) :: record.writes⟩

def read (record : Slots α) (offset : Nat) : Option α :=
  record.writes.lookup offset

@[simp] theorem read_empty (offset : Nat) :
    (⟨[]⟩ : Slots α).read offset = none := rfl

@[simp] theorem read_write_self
    (record : Slots α) (offset : Nat) (value : α) :
    (record.write offset value).read offset = some value := by
  simp [read, write]

@[simp] theorem read_write_of_ne
    (record : Slots α) {offset other : Nat} (value : α)
    (hne : other ≠ offset) :
    (record.write offset value).read other = record.read other := by
  simp [read, write, List.lookup_cons, beq_false_of_ne hne]

theorem mem_of_read {record : Slots α} {offset : Nat} {value : α}
    (h : record.read offset = some value) :
    (offset, value) ∈ record.writes := by
  obtain ⟨writes⟩ := record
  induction writes with
  | nil => cases h
  | cons head rest ih =>
      obtain ⟨at_, written⟩ := head
      by_cases heq : offset = at_
      · subst heq
        have hvalue : written = value := by simpa [read] using h
        rw [hvalue]
        exact List.mem_cons_self
      · refine List.mem_cons_of_mem _ (ih ?_)
        simpa [read, List.lookup_cons, beq_false_of_ne heq] using h

end Slots
