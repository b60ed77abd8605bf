import Mathlib.Tactic

/-!
# Probes of a memory

A probe is a program that only reads: a tree whose inner nodes ask for one
cell and whose leaves hold the answer.  Being a tree it can depend on nothing
but the cells that it asked for, so `value_congr` needs no side condition: two
memories that agree on the touched cells give the same answer and touch the
same cells.

The loops of a read-only search are folds and first-hit searches of probes;
their values are the folds and searches of the values.
-/

inductive Probe (Cell Word : Type) (α : Type)
  | done (answer : α)
  | read (cell : Cell) (next : Word → Probe Cell Word α)

namespace Probe

variable {Cell Word α β σ : Type}

def bind : Probe Cell Word α → (α → Probe Cell Word β) → Probe Cell Word β
  | done answer, f => f answer
  | read cell next, f => read cell fun word => (next word).bind f

instance : Monad (Probe Cell Word) where
  pure := done
  bind := bind

def value (memory : Cell → Word) : Probe Cell Word α → α
  | done answer => answer
  | read cell next => (next (memory cell)).value memory

/-- The cells that the probe asks for, in order. -/
def touched (memory : Cell → Word) : Probe Cell Word α → List Cell
  | done _ => []
  | read cell next => cell :: (next (memory cell)).touched memory

section

variable {memory memory' : Cell → Word}

@[simp] theorem value_pure (a : α) :
    (pure a : Probe Cell Word α).value memory = a := rfl

@[simp] theorem touched_pure (a : α) :
    (pure a : Probe Cell Word α).touched memory = [] := rfl

@[simp] theorem value_bind (p : Probe Cell Word α)
    (f : α → Probe Cell Word β) :
    (p >>= f).value memory = (f (p.value memory)).value memory := by
  induction p with
  | done answer => rfl
  | read cell next ih => exact ih (memory cell)

@[simp] theorem touched_bind (p : Probe Cell Word α)
    (f : α → Probe Cell Word β) :
    (p >>= f).touched memory =
      p.touched memory ++ (f (p.value memory)).touched memory := by
  induction p with
  | done answer => rfl
  | read cell next ih =>
      change cell :: _ = cell :: _
      rw [List.cons.injEq]
      exact ⟨rfl, ih (memory cell)⟩

theorem agree_congr {p : Probe Cell Word α}
    (h : ∀ cell ∈ p.touched memory, memory' cell = memory cell) :
    p.value memory' = p.value memory ∧
      p.touched memory' = p.touched memory := by
  induction p with
  | done answer => exact ⟨rfl, rfl⟩
  | read cell next ih =>
      have hcell : memory' cell = memory cell := h cell List.mem_cons_self
      have hnext := ih (memory cell) fun other hother =>
        h other (List.mem_cons_of_mem _ hother)
      simp only [value, touched, hcell]
      exact ⟨hnext.1, by rw [hnext.2]⟩

/-- A probe gives the same answer on every memory that agrees with this one
on the cells it touches. -/
theorem value_congr {p : Probe Cell Word α}
    (h : ∀ cell ∈ p.touched memory, memory' cell = memory cell) :
    p.value memory' = p.value memory :=
  (agree_congr h).1

end

/-! ## Copying cells -/

def copyThen :
    List Cell → (List Word → Probe Cell Word α) → Probe Cell Word α
  | [], next => next []
  | cell :: cells, next =>
      read cell fun word => copyThen cells fun rest => next (word :: rest)

def copy (cells : List Cell) : Probe Cell Word (List Word) :=
  copyThen cells pure

theorem copyThen_run (memory : Cell → Word) (cells : List Cell)
    (next : List Word → Probe Cell Word α) :
    (copyThen cells next).value memory =
        (next (cells.map memory)).value memory ∧
      (copyThen cells next).touched memory =
        cells ++ (next (cells.map memory)).touched memory := by
  induction cells generalizing next with
  | nil => exact ⟨rfl, rfl⟩
  | cons cell cells ih =>
      obtain ⟨hvalue, htouched⟩ := ih fun rest => next (memory cell :: rest)
      simp only [copyThen, value, touched, List.map_cons, List.cons_append]
      exact ⟨hvalue, by rw [htouched]⟩

@[simp] theorem value_copy (memory : Cell → Word) (cells : List Cell) :
    (copy cells).value memory = cells.map memory :=
  (copyThen_run memory cells pure).1

@[simp] theorem touched_copy (memory : Cell → Word) (cells : List Cell) :
    (copy cells).touched memory = cells := by
  rw [copy, (copyThen_run memory cells pure).2, touched_pure,
    List.append_nil]

/-! ## Loops -/

/-- Test the candidates in order, and stop at the first that passes. -/
def anyOf (test : α → Probe Cell Word Bool) :
    List α → Probe Cell Word Bool
  | [] => pure false
  | a :: rest => do
      if ← test a then return true
      anyOf test rest

theorem value_anyOf (memory : Cell → Word) (test : α → Probe Cell Word Bool)
    (candidates : List α) :
    (anyOf test candidates).value memory =
      candidates.any fun a => (test a).value memory := by
  induction candidates with
  | nil => rfl
  | cons a rest ih =>
      rw [anyOf, value_bind, List.any_cons]
      cases (test a).value memory with
      | true => rfl
      | false => simpa using ih

theorem touched_anyOf {memory : Cell → Word}
    {test : α → Probe Cell Word Bool} {candidates : List α} {cell : Cell}
    (h : cell ∈ (anyOf test candidates).touched memory) :
    ∃ a ∈ candidates, cell ∈ (test a).touched memory := by
  induction candidates with
  | nil => cases h
  | cons a rest ih =>
      rw [anyOf, touched_bind, List.mem_append] at h
      rcases h with h | h
      · exact ⟨a, List.mem_cons_self, h⟩
      · cases htest : (test a).value memory with
        | true => simp [htest] at h
        | false =>
            simp only [htest, Bool.false_eq_true, if_false] at h
            obtain ⟨b, hb, hcell⟩ := ih h
            exact ⟨b, List.mem_cons_of_mem _ hb, hcell⟩

/-- Try the candidates in order, up to the first that has an answer. -/
def firstOf (test : α → Probe Cell Word (Option β)) :
    List α → Probe Cell Word (Option β)
  | [] => pure none
  | a :: rest => do
      match ← test a with
      | some b => return some b
      | none => firstOf test rest

theorem value_firstOf (memory : Cell → Word)
    (test : α → Probe Cell Word (Option β)) (candidates : List α) :
    (firstOf test candidates).value memory =
      candidates.findSome? fun a => (test a).value memory := by
  induction candidates with
  | nil => rfl
  | cons a rest ih =>
      rw [firstOf, value_bind, List.findSome?_cons]
      cases (test a).value memory with
      | some b => rfl
      | none => exact ih

theorem touched_firstOf {memory : Cell → Word}
    {test : α → Probe Cell Word (Option β)} {candidates : List α}
    {cell : Cell} (h : cell ∈ (firstOf test candidates).touched memory) :
    ∃ a ∈ candidates, cell ∈ (test a).touched memory := by
  induction candidates with
  | nil => cases h
  | cons a rest ih =>
      rw [firstOf, touched_bind, List.mem_append] at h
      rcases h with h | h
      · exact ⟨a, List.mem_cons_self, h⟩
      · cases htest : (test a).value memory with
        | some b =>
            rw [htest] at h
            cases h
        | none =>
            rw [htest] at h
            obtain ⟨b, hb, hcell⟩ := ih h
            exact ⟨b, List.mem_cons_of_mem _ hb, hcell⟩

def fold (step : σ → α → Probe Cell Word σ) :
    List α → σ → Probe Cell Word σ
  | [], st => pure st
  | a :: rest, st => do
      let next ← step st a
      fold step rest next

theorem value_fold (memory : Cell → Word) (step : σ → α → Probe Cell Word σ)
    (items : List α) (st : σ) :
    (fold step items st).value memory =
      items.foldl (fun st a => (step st a).value memory) st := by
  induction items generalizing st with
  | nil => rfl
  | cons a rest ih => rw [fold, value_bind, List.foldl_cons, ih]

/-- The cells of a loop whose turns touch the same cells from every state. -/
theorem mem_touched_fold {memory : Cell → Word}
    {step : σ → α → Probe Cell Word σ} {cell : Cell} {touches : α → Prop}
    (hstep : ∀ st a, cell ∈ (step st a).touched memory ↔ touches a)
    (items : List α) (st : σ) :
    cell ∈ (fold step items st).touched memory ↔ ∃ a ∈ items, touches a := by
  induction items generalizing st with
  | nil => simp [fold]
  | cons a rest ih =>
      rw [fold, touched_bind, List.mem_append, hstep, ih]
      simp

/-! ## What a probe reads of one memory -/

/-- On this memory the probe reads only cells of the set. -/
def Keeps (memory : Cell → Word) (P : Cell → Prop)
    (p : Probe Cell Word α) : Prop :=
  ∀ cell ∈ p.touched memory, P cell

section

variable {memory : Cell → Word} {P : Cell → Prop}

@[simp] theorem keeps_pure (a : α) :
    Keeps memory P (pure a : Probe Cell Word α) ↔ True := by
  simp [Keeps]

theorem keeps_read (cell : Cell) (next : Word → Probe Cell Word α) :
    Keeps memory P (.read cell next) ↔
      P cell ∧ Keeps memory P (next (memory cell)) := by
  unfold Keeps
  rw [touched, List.forall_mem_cons]

theorem keeps_bind (p : Probe Cell Word α) (f : α → Probe Cell Word β) :
    Keeps memory P (p >>= f) ↔
      Keeps memory P p ∧ Keeps memory P (f (p.value memory)) := by
  unfold Keeps
  rw [touched_bind, List.forall_mem_append]

theorem keeps_copy (cells : List Cell) :
    Keeps memory P (copy cells : Probe Cell Word (List Word)) ↔
      ∀ cell ∈ cells, P cell := by
  unfold Keeps
  rw [touched_copy]

/-- A search over consecutive numbers reads at a number once every number
before it has failed. -/
theorem keeps_anyOf_range' (test : ℕ → Probe Cell Word Bool)
    (start count : ℕ) :
    Keeps memory P (anyOf test (List.range' start count)) ↔
      ∀ p, start ≤ p → p < start + count →
        (∀ q, start ≤ q → q < p → (test q).value memory = false) →
        Keeps memory P (test p) := by
  induction count generalizing start with
  | zero =>
      simp only [List.range'_zero, anyOf, keeps_pure, true_iff]
      intro p hlow hhigh
      omega
  | succ count ih =>
      rw [List.range'_succ, anyOf, keeps_bind]
      constructor
      · rintro ⟨hfirst, hrest⟩ p hlow hhigh hfailed
        rcases Nat.eq_or_lt_of_le hlow with rfl | hlater
        · exact hfirst
        · have hstart : (test start).value memory = false :=
            hfailed start (Nat.le_refl start) hlater
          rw [hstart] at hrest
          apply (ih (start + 1)).mp hrest p hlater (by omega)
          intro q hq hqp
          exact hfailed q (by omega) hqp
      · intro hall
        constructor
        · apply hall start (Nat.le_refl start) (by omega)
          intro q hq hqs
          omega
        · cases hstart : (test start).value memory with
          | true => simp
          | false =>
              apply (ih (start + 1)).mpr
              intro p hlow hhigh hfailed
              apply hall p (by omega) (by omega)
              intro q hq hqp
              rcases Nat.eq_or_lt_of_le hq with rfl | hlater
              · exact hstart
              · exact hfailed q hlater hqp

/-- A loop whose turns read the same from every state. -/
theorem keeps_fold {step : σ → α → Probe Cell Word σ} {Q : α → Prop}
    (hstep : ∀ st a, Keeps memory P (step st a) ↔ Q a)
    (items : List α) (st : σ) :
    Keeps memory P (fold step items st) ↔ ∀ a ∈ items, Q a := by
  induction items generalizing st with
  | nil => simp [fold]
  | cons a rest ih =>
      rw [fold, keeps_bind, hstep, ih, List.forall_mem_cons]

end

/-! ## Probes that stay in a set of cells -/

/-- Whatever it finds there, the probe reads only cells of the set. -/
def Stays (P : Cell → Prop) (p : Probe Cell Word α) : Prop :=
  ∀ memory, ∀ cell ∈ p.touched memory, P cell

section

variable {P : Cell → Prop}

theorem Stays.pure (a : α) : Stays P (pure a : Probe Cell Word α) :=
  fun _ _ h => by cases h

theorem Stays.read {cell : Cell} {next : Word → Probe Cell Word α}
    (hcell : P cell) (hnext : ∀ word, Stays P (next word)) :
    Stays P (.read cell next) := by
  intro memory other h
  rcases List.mem_cons.mp h with rfl | hrest
  · exact hcell
  · exact hnext _ memory other hrest

theorem Stays.bind {p : Probe Cell Word α} {f : α → Probe Cell Word β}
    (hp : Stays P p) (hf : ∀ a, Stays P (f a)) : Stays P (p >>= f) := by
  intro memory cell h
  rw [touched_bind, List.mem_append] at h
  rcases h with h | h
  · exact hp memory cell h
  · exact hf _ memory cell h

theorem Stays.ite {c : Prop} [Decidable c] {p q : Probe Cell Word α}
    (hp : c → Stays P p) (hq : ¬ c → Stays P q) :
    Stays P (if c then p else q) := by
  split
  · exact hp ‹_›
  · exact hq ‹_›

theorem Stays.copy {cells : List Cell} (h : ∀ cell ∈ cells, P cell) :
    Stays P (copy cells : Probe Cell Word (List Word)) := by
  intro memory cell hcell
  rw [touched_copy] at hcell
  exact h cell hcell

theorem Stays.anyOf {test : α → Probe Cell Word Bool} {candidates : List α}
    (h : ∀ a ∈ candidates, Stays P (test a)) :
    Stays P (anyOf test candidates) := by
  intro memory cell hcell
  obtain ⟨a, ha, htouched⟩ := touched_anyOf hcell
  exact h a ha memory cell htouched

end

end Probe
