import Mathlib.Data.List.TakeDrop

/-!
# Fields between separators

A loop that looks for the next separator from a position on reads one field of
the list at each turn.  The search, the two shapes of what is left at a
position, and the induction along the turns of such a loop.
-/

namespace Fields

variable {α : Type} [BEq α] [LawfulBEq α] {x : α} {xs : List α}

/-- The first position of the element from `start` on. -/
def find (x : α) (xs : List α) (start : ℕ) : Option ℕ :=
  ((xs.drop start).idxOf? x).map (start + ·)

theorem find_of_not_mem {start : ℕ} (h : x ∉ xs.drop start) :
    find x xs start = none := by
  rw [find, List.idxOf?_eq_none_iff.mpr h]
  rfl

theorem idxOf?_append_cons {field rest : List α} (hfield : x ∉ field) :
    (field ++ x :: rest).idxOf? x = some field.length := by
  induction field with
  | nil => simp [List.idxOf?_cons]
  | cons y field ih =>
      have hne : (y == x) = false := by
        simp only [List.mem_cons, not_or] at hfield
        simpa using Ne.symm hfield.1
      rw [List.cons_append, List.idxOf?_cons, hne,
        ih (fun h => hfield (List.mem_cons_of_mem y h))]
      rfl

theorem find_of_drop {start : ℕ} {field rest : List α} (hfield : x ∉ field)
    (hdrop : xs.drop start = field ++ x :: rest) :
    find x xs start = some (start + field.length) := by
  rw [find, hdrop, idxOf?_append_cons hfield]
  rfl

theorem le_of_find {start position : ℕ} (h : find x xs start = some position) :
    start ≤ position ∧ position < xs.length := by
  obtain ⟨offset, hoffset, rfl⟩ := Option.map_eq_some_iff.mp h
  obtain ⟨hlt, -⟩ := List.idxOf?_eq_some_iff.mp hoffset
  rw [List.length_drop] at hlt
  omega

omit [BEq α] [LawfulBEq α] in
/-- The list behind a separator. -/
theorem drop_behind {start : ℕ} {field rest : List α}
    (hdrop : xs.drop start = field ++ x :: rest) :
    xs.drop (start + field.length + 1) = rest ∧
      start + field.length < xs.length := by
  constructor
  · rw [Nat.add_assoc, ← List.drop_drop, hdrop]
    simp
  · have hlength := congrArg List.length hdrop
    simp only [List.length_drop, List.length_append, List.length_cons]
      at hlength
    omega

/-- Along the turns of the loop: the last field, or a field and the turn that
starts behind its separator. -/
@[elab_as_elim]
theorem induct (x : α) (xs : List α) {motive : ℕ → Prop}
    (last : ∀ start, x ∉ xs.drop start → motive start)
    (next : ∀ start field rest, x ∉ field →
      xs.drop start = field ++ x :: rest →
      motive (start + field.length + 1) → motive start)
    (start : ℕ) : motive start := by
  by_cases hmem : x ∈ xs.drop start
  · obtain ⟨field, rest, hdrop, hfield⟩ := List.eq_append_cons_of_mem hmem
    have hbehind := (drop_behind hdrop).2
    exact next start field rest hfield hdrop
      (induct x xs last next (start + field.length + 1))
  · exact last start hmem
termination_by xs.length - start

/-- The fields of a list hold no separator. -/
theorem not_mem_of_mem_splitOn {field : List α} (h : field ∈ xs.splitOn x) :
    x ∉ field := by
  suffices hdrop : ∀ start, ∀ field ∈ (xs.drop start).splitOn x, x ∉ field from
    hdrop 0 field h
  intro start
  induction start using induct x xs with
  | last start hlast =>
      rw [List.splitOn_eq_singleton hlast]
      simpa using hlast
  | next start first rest hfirst hrest ih =>
      rw [(drop_behind hrest).1] at ih
      rw [hrest, List.splitOn_append_cons_self_of_not_mem hfirst]
      exact List.forall_mem_cons.mpr ⟨hfirst, ih⟩

end Fields
