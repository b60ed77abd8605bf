import Esptool.Lib.Loops
import Esptool.Lib.Probe

/-!
# Checked reads

A program that follows pointers of unknown worth asks before it reads: an
oracle says whether a range may be read, and a refusal ends the attempt.  The
checks and the bytes read are one trace of accesses, in order.  A program is
guarded when, whatever the memory and the oracle, each byte of its trace was
covered by a check that had been approved before it.

Guardedness is closed under the constructions that programs are made of, so a
decoder is guarded as soon as its own raw reads are.
-/

namespace CheckedRead

inductive Access
  | check (start size : ℕ)
  | byte (address : ℕ)
deriving DecidableEq

/-- A memory image with the oracle that approves ranges of it. -/
structure Memory where
  image : ℕ → UInt8
  readable : ℕ → ℕ → Bool

def Memory.answer (m : Memory) : Access → UInt8
  | .check start size => if m.readable start size then 1 else 0
  | .byte address => m.image address

/-- A memory of little-endian words of four bytes. -/
def wordImage (words : ℕ → ℕ) (address : ℕ) : UInt8 :=
  UInt8.ofNat (words (address / 4) / 0x100 ^ (address % 4))

/-- A memory of words, of which everything but null can be read. -/
def wordMemory (words : ℕ → ℕ) : Memory where
  image := wordImage words
  readable start _ := start != 0

abbrev Attempt := Probe Access UInt8

/-- A reading program that may fail. -/
abbrev Reading := OptionT Attempt

variable {α β : Type} {m : Memory}

def run (m : Memory) (p : Attempt α) : α := p.value m.answer

def trace (m : Memory) (p : Attempt α) : List Access := p.touched m.answer

def eval (m : Memory) (p : Reading α) : Option α := run m (OptionT.run p)

/-! ## Constructions -/

/-- Fails unless the oracle approves the range. -/
def check (start size : ℕ) : Reading Unit :=
  OptionT.mk (Probe.read (.check start size) fun approved =>
    pure (if approved = 1 then some () else none))

/-- The bytes of a range, unchecked. -/
def copy (start size : ℕ) : Reading (List UInt8) :=
  OptionT.mk do
    return some (← Probe.copy ((List.range' start size).map .byte))

/-- The bytes of a range that the oracle approves. -/
def readRange (start size : ℕ) : Reading (List UInt8) := do
  check start size
  copy start size

/-- A call whose failure is part of the answer. -/
def attempt (p : Reading α) : Reading (Option α) :=
  OptionT.mk do
    return some (← OptionT.run p)

/-- What is left in a variable after a call that may have written it. -/
def orKeep (p : Reading α) (old : α) : Reading α := do
  return (← attempt p).getD old

def littleEndian : List UInt8 → ℕ
  | [] => 0
  | byte :: rest => byte.toNat + 0x100 * littleEndian rest

def firstOf (test : α → Reading β) : List α → Reading β
  | [] => failure
  | a :: rest => test a <|> firstOf test rest

def fold (step : β → α → Reading β) : List α → β → Reading β
  | [], st => pure st
  | a :: rest, st => do
      let next ← step st a
      fold step rest next

/-! ## Results -/

@[simp] theorem eval_pure (a : α) : eval m (pure a : Reading α) = some a := rfl

@[simp] theorem eval_failure : eval m (failure : Reading α) = none := rfl

@[simp] theorem eval_bind (p : Reading α) (f : α → Reading β) :
    eval m (p >>= f) = (eval m p).bind fun a => eval m (f a) := by
  change run m (OptionT.run p >>= _) = _
  rw [run, Probe.value_bind]
  change _ = (run m (OptionT.run p)).bind _
  rw [run]
  cases (OptionT.run p).value m.answer with
  | none => rfl
  | some a => rfl

@[simp] theorem eval_guard (c : Prop) [Decidable c] :
    eval m (guard c) = if c then some () else none := by
  unfold guard
  split
  · rfl
  · rfl

theorem eval_guard_eq_some (c : Prop) [Decidable c] (u : Unit) :
    eval m (guard c) = some u ↔ c := by
  rw [eval_guard]
  split
  · rename_i hc
    exact ⟨fun _ => hc, fun _ => rfl⟩
  · rename_i hc
    constructor
    · intro h
      cases h
    · intro h
      exact absurd h hc

@[simp] theorem eval_orElse (p q : Reading α) :
    eval m (p <|> q) = (eval m p).or (eval m q) := by
  change run m (OptionT.run p >>= _) = _
  rw [run, Probe.value_bind]
  change _ = (run m (OptionT.run p)).or _
  rw [run]
  cases (OptionT.run p).value m.answer with
  | none => rfl
  | some a => rfl

@[simp] theorem eval_check (start size : ℕ) :
    eval m (check start size) =
      if m.readable start size then some () else none := by
  change (if (if m.readable start size then 1 else 0 : UInt8) = 1 then some ()
    else none) = _
  cases m.readable start size with
  | true => rfl
  | false => rfl

@[simp] theorem eval_copy (start size : ℕ) :
    eval m (copy start size) =
      some ((List.range' start size).map m.image) := by
  change run m (Probe.copy _ >>= _) = _
  rw [run, Probe.value_bind, Probe.value_copy, List.map_map]
  rfl

@[simp] theorem eval_readRange (start size : ℕ) :
    eval m (readRange start size) =
      if m.readable start size then
        some ((List.range' start size).map m.image)
      else none := by
  rw [readRange, eval_bind, eval_check]
  split
  · exact eval_copy start size
  · rfl

@[simp] theorem eval_attempt (p : Reading α) :
    eval m (attempt p) = some (eval m p) := by
  change run m (OptionT.run p >>= _) = _
  rw [run, Probe.value_bind]
  rfl

@[simp] theorem eval_orKeep (p : Reading α) (old : α) :
    eval m (orKeep p old) = some ((eval m p).getD old) := by
  rw [orKeep, eval_bind, eval_attempt]
  rfl

@[simp] theorem eval_firstOf (test : α → Reading β) (candidates : List α) :
    eval m (firstOf test candidates) =
      candidates.findSome? fun a => eval m (test a) := by
  induction candidates with
  | nil => rfl
  | cons a rest ih =>
      rw [firstOf, eval_orElse, ih, List.findSome?_cons]
      cases eval m (test a) with
      | none => rfl
      | some b => rfl

theorem trace_bind (p : Reading α) (f : α → Reading β) :
    trace m (OptionT.run (p >>= f)) =
      trace m (OptionT.run p) ++
        match eval m p with
        | some a => trace m (OptionT.run (f a))
        | none => [] := by
  change trace m (OptionT.run p >>= _) = _
  rw [trace, Probe.touched_bind]
  change _ ++ _ = _ ++ match run m (OptionT.run p) with
    | some a => trace m (OptionT.run (f a))
    | none => []
  rw [run]
  cases (OptionT.run p).value m.answer with
  | none => rfl
  | some a => rfl

theorem trace_check (start size : ℕ) :
    trace m (OptionT.run (check start size)) = [.check start size] := rfl

theorem trace_copy (start size : ℕ) :
    trace m (OptionT.run (copy start size)) =
      (List.range' start size).map .byte := by
  change trace m (Probe.copy _ >>= _) = _
  rw [trace, Probe.touched_bind, Probe.touched_copy, Probe.touched_pure,
    List.append_nil]

/-! ## Guarded programs -/

/-- Some check of the accesses so far approved a range with this address. -/
def Approved (m : Memory) (before : List Access) (address : ℕ) : Prop :=
  ∃ start size, .check start size ∈ before ∧
    m.readable start size = true ∧
    start ≤ address ∧ address < start + size

/-- Every byte of the trace had been approved when it was read. -/
def Covered (m : Memory) (accesses : List Access) : Prop :=
  ∀ before address after, accesses = before ++ .byte address :: after →
    Approved m before address

/-- Each byte that the program reads was approved before it was read,
whatever the memory and its oracle. -/
class Guarded (p : Reading α) : Prop where
  covered : ∀ m, Covered m (trace m (OptionT.run p))

theorem covered_nil : Covered m [] := by
  intro before address after h
  cases before with
  | nil => cases h
  | cons access rest => cases h

theorem Covered.append {first second : List Access}
    (hfirst : Covered m first) (hsecond : Covered m second) :
    Covered m (first ++ second) := by
  intro before address after h
  rcases Loops.split_append h with ⟨rest, hrest⟩ | ⟨middle, hbefore, hrest⟩
  · exact hfirst before address rest hrest
  · obtain ⟨start, size, hcheck, happroved⟩ :=
      hsecond middle address after hrest
    exact ⟨start, size, hbefore ▸ List.mem_append_right _ hcheck, happroved⟩

/-- A covered trace reads only bytes that an honest oracle vouches for. -/
theorem Covered.byte_mem {accesses : List Access} {address : ℕ}
    (h : Covered m accesses) (hbyte : .byte address ∈ accesses)
    {committed : Set ℕ}
    (honest : ∀ start size, m.readable start size = true →
      ∀ address, start ≤ address → address < start + size →
        address ∈ committed) : address ∈ committed := by
  obtain ⟨before, after, hsplit⟩ := List.append_of_mem hbyte
  obtain ⟨start, size, -, hreadable, hstart, hlimit⟩ :=
    h before address after hsplit
  exact honest start size hreadable address hstart hlimit

instance guarded_pure (a : α) : Guarded (pure a : Reading α) :=
  ⟨fun _ => covered_nil⟩

instance guarded_failure : Guarded (failure : Reading α) :=
  ⟨fun _ => covered_nil⟩

instance guarded_bind (p : Reading α) (f : α → Reading β) [hp : Guarded p]
    [hf : ∀ a, Guarded (f a)] : Guarded (p >>= f) := by
  constructor
  intro m
  rw [trace_bind]
  apply (hp.covered m).append
  cases eval m p with
  | none => exact covered_nil
  | some a => exact (hf a).covered m

instance guarded_orElse (p q : Reading α) [hp : Guarded p]
    [hq : Guarded q] : Guarded (p <|> q) := by
  constructor
  intro m
  change Covered m (trace m (OptionT.run p >>= _))
  rw [trace, Probe.touched_bind]
  apply (hp.covered m).append
  cases (OptionT.run p).value m.answer with
  | none => exact hq.covered m
  | some a => exact covered_nil

instance guarded_ite (c : Prop) [Decidable c] (p q : Reading α)
    [hp : Guarded p] [hq : Guarded q] :
    Guarded (if c then p else q) := by
  split
  · exact hp
  · exact hq

instance guarded_guard (c : Prop) [Decidable c] :
    Guarded (guard c : Reading Unit) :=
  guarded_ite c (pure ()) failure

instance guarded_attempt (p : Reading α) [hp : Guarded p] :
    Guarded (attempt p) := by
  constructor
  intro m
  change Covered m (trace m (OptionT.run p >>= _))
  rw [trace, Probe.touched_bind]
  exact (hp.covered m).append covered_nil

/-- A call whose failure is handled: one program for each of its answers. -/
theorem guarded_handle {p : Reading α} {f : Option α → Reading β}
    [Guarded p] (hnone : Guarded (f none)) (hsome : ∀ a, Guarded (f (some a))) :
    Guarded (attempt p >>= f) :=
  have _ (answer : Option α) : Guarded (f answer) := by
    cases answer with
    | none => exact hnone
    | some a => exact hsome a
  guarded_bind (attempt p) f

instance guarded_orKeep (p : Reading α) (old : α) [Guarded p] :
    Guarded (orKeep p old) :=
  guarded_bind (attempt p) fun answer => pure (answer.getD old)

instance guarded_firstOf (test : α → Reading β) (candidates : List α)
    [htest : ∀ a, Guarded (test a)] : Guarded (firstOf test candidates) := by
  induction candidates with
  | nil => exact guarded_failure
  | cons a rest ih => exact guarded_orElse (test a) (firstOf test rest)

instance guarded_fold (step : β → α → Reading β) (items : List α) (st : β)
    [hstep : ∀ st a, Guarded (step st a)] : Guarded (fold step items st) := by
  induction items generalizing st with
  | nil => exact guarded_pure st
  | cons a rest ih =>
      exact guarded_bind (step st a) fun next => fold step rest next

instance guarded_check (start size : ℕ) : Guarded (check start size) := by
  constructor
  intro m before address after h
  rw [trace_check] at h
  cases before with
  | nil => cases h
  | cons access rest =>
      have hrest := (List.cons.inj h).2
      cases rest with
      | nil => cases hrest
      | cons access rest => cases hrest

theorem trace_readRange (start size : ℕ) :
    trace m (OptionT.run (readRange start size)) =
      .check start size ::
        if m.readable start size then
          (List.range' start size).map .byte
        else [] := by
  rw [readRange, trace_bind, eval_check, trace_check]
  cases m.readable start size with
  | true => exact congrArg (List.cons _) (trace_copy start size)
  | false => rfl

instance guarded_readRange (start size : ℕ) :
    Guarded (readRange start size) := by
  constructor
  intro m before address after h
  rw [trace_readRange] at h
  cases before with
  | nil => cases h
  | cons access rest =>
      rw [List.cons_append, List.cons.injEq] at h
      obtain ⟨rfl, hrest⟩ := h
      have hbyte : Access.byte address ∈ rest ++ .byte address :: after := by
        simp
      rw [← hrest] at hbyte
      split at hbyte
      · rename_i happroved
        simp only [List.mem_map, List.mem_range'_1, Access.byte.injEq,
          exists_eq_right] at hbyte
        exact ⟨start, size, List.mem_cons_self, happroved, hbyte⟩
      · cases hbyte

/-! ## Memories of words -/

theorem littleEndian_lt (bytes : List UInt8) :
    littleEndian bytes < 0x100 ^ bytes.length := by
  induction bytes with
  | nil => exact Nat.one_pos
  | cons byte rest ih =>
      have hbyte := byte.toNat_lt
      rw [littleEndian, List.length_cons, Nat.pow_succ]
      omega

theorem littleEndian_append (front rest : List UInt8) :
    littleEndian (front ++ rest) =
      littleEndian front + 0x100 ^ front.length * littleEndian rest := by
  induction front with
  | nil => simp [littleEndian]
  | cons byte front ih =>
      calc
        littleEndian (byte :: front ++ rest) =
            byte.toNat + 0x100 * littleEndian (front ++ rest) := rfl
        _ = byte.toNat + 0x100 *
            (littleEndian front +
              0x100 ^ front.length * littleEndian rest) := by rw [ih]
        _ = byte.toNat + 0x100 * littleEndian front +
            0x100 ^ (front.length + 1) * littleEndian rest := by ring

section

variable {words : ℕ → ℕ}

theorem wordImage_byte (word : ℕ) {offset : ℕ} (h : offset < 4) :
    wordImage words (4 * word + offset) =
      UInt8.ofNat (words word / 0x100 ^ offset) := by
  have hword : (4 * word + offset) / 4 = word := by omega
  have hoffset : (4 * word + offset) % 4 = offset := by omega
  rw [wordImage, hword, hoffset]

/-- The low bytes of a word, from its lowest. -/
theorem littleEndian_word (word : ℕ) {size : ℕ} (h : size ≤ 4) :
    littleEndian ((List.range' (4 * word) size).map (wordImage words)) =
      words word % 0x100 ^ size := by
  induction size with
  | zero => simp [littleEndian, Nat.mod_one]
  | succ size ih =>
      rw [List.range'_concat, List.map_append, littleEndian_append,
        ih (by omega), List.length_map, List.length_range']
      simp only [Nat.one_mul, List.map_cons, List.map_nil, littleEndian,
        wordImage_byte word (show size < 4 by omega), UInt8.toNat_ofNat']
      rw [Nat.mul_zero, Nat.add_zero, Nat.pow_succ]
      exact Nat.mod_mul.symm

theorem littleEndian_twoWords (word : ℕ) :
    littleEndian ((List.range' (4 * word) 8).map (wordImage words)) =
      words word % 2 ^ 32 + 2 ^ 32 * (words (word + 1) % 2 ^ 32) := by
  have hsplit : List.range' (4 * word) 8 =
      List.range' (4 * word) 4 ++ List.range' (4 * (word + 1)) 4 := by
    rw [show 4 * (word + 1) = 4 * word + 1 * 4 by ring,
      List.range'_append]
  rw [hsplit, List.map_append, littleEndian_append,
    littleEndian_word word (by omega),
    littleEndian_word (word + 1) (by omega), List.length_map,
    List.length_range']
  rfl

theorem eval_readRange_word {start size : ℕ} (h : start ≠ 0) :
    eval (wordMemory words) (readRange start size) =
      some ((List.range' start size).map (wordImage words)) := by
  rw [eval_readRange]
  exact if_pos (bne_iff_ne.mpr h)

end

/-! ## Programs that do not fail -/

/-- On every memory the program has an answer. -/
class Total (p : Reading α) : Prop where
  answers : ∀ m, ∃ a, eval m p = some a

instance total_pure (a : α) : Total (pure a : Reading α) :=
  ⟨fun _ => ⟨a, rfl⟩⟩

instance total_bind (p : Reading α) (f : α → Reading β) [hp : Total p]
    [hf : ∀ a, Total (f a)] : Total (p >>= f) := by
  constructor
  intro m
  obtain ⟨a, ha⟩ := hp.answers m
  rw [eval_bind, ha]
  exact (hf a).answers m

instance total_ite (c : Prop) [Decidable c] (p q : Reading α)
    [hp : Total p] [hq : Total q] : Total (if c then p else q) := by
  split
  · exact hp
  · exact hq

instance total_attempt (p : Reading α) : Total (attempt p) :=
  ⟨fun _ => ⟨_, eval_attempt p⟩⟩

theorem total_handle {p : Reading α} {f : Option α → Reading β}
    (hnone : Total (f none)) (hsome : ∀ a, Total (f (some a))) :
    Total (attempt p >>= f) :=
  have _ (answer : Option α) : Total (f answer) := by
    cases answer with
    | none => exact hnone
    | some a => exact hsome a
  total_bind (attempt p) f

instance total_orKeep (p : Reading α) (old : α) : Total (orKeep p old) :=
  ⟨fun _ => ⟨_, eval_orKeep p old⟩⟩

end CheckedRead
