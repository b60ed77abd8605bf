import Mathlib.Data.List.Basic
import Mathlib.Data.List.Induction

/-!
# Journaled interaction with an oracle

A program that calls out to code it cannot inspect is modelled by a state
monad over a journal.  The journal carries the append-only log of every call
together with its reply, the tag the current work is filed under, and a store
of local notes.  The oracle may answer from the whole log, so one oracle
stands for one arbitrary sequence of outcomes.

`Scripted` computations are built from values, notes and allowed calls only.
They all satisfy two properties: `Emits` bounds the calls a computation can
make, and `Uniform` says that against a history-free oracle a computation
makes the same calls and returns the same value wherever it is started.
-/

namespace Interaction

structure Event (Tag Call Reply : Type) where
  tag : Tag
  call : Call
  reply : Reply
deriving DecidableEq, Repr

/-- The outside world answers a call from the full history before it. -/
abbrev Oracle (Tag Call Reply : Type) :=
  List (Event Tag Call Reply) → Call → Reply

/-- The answer depends on the content of the call alone. -/
def Oracle.Stateless {Tag Call Reply : Type}
    (oracle : Oracle Tag Call Reply) : Prop :=
  ∀ log log' call, oracle log call = oracle log' call

structure Journal (Tag Call Reply Notes : Type) where
  tag : Tag
  log : List (Event Tag Call Reply)
  notes : Notes

section

variable {Tag Call Reply Notes : Type} {α β : Type}

/-- Call out, and file the call with its reply under the current tag. -/
def ask (oracle : Oracle Tag Call Reply) (call : Call) :
    StateM (Journal Tag Call Reply Notes) Reply := fun j =>
  (oracle j.log call,
    { j with log := j.log ++ [⟨j.tag, call, oracle j.log call⟩] })

def note (change : Notes → Notes) :
    StateM (Journal Tag Call Reply Notes) Unit := fun j =>
  ((), { j with notes := change j.notes })

theorem bind_run
    (m : StateM (Journal Tag Call Reply Notes) α)
    (f : α → StateM (Journal Tag Call Reply Notes) β)
    (j : Journal Tag Call Reply Notes) :
    (m >>= f) j = f (m j).1 (m j).2 := rfl

theorem pure_run (a : α) (j : Journal Tag Call Reply Notes) :
    (pure a : StateM (Journal Tag Call Reply Notes) α) j = (a, j) := rfl

theorem ask_run (oracle : Oracle Tag Call Reply) (call : Call)
    (j : Journal Tag Call Reply Notes) :
    ask oracle call j =
      (oracle j.log call,
        { j with log := j.log ++ [⟨j.tag, call, oracle j.log call⟩] }) := rfl

theorem note_run (change : Notes → Notes)
    (j : Journal Tag Call Reply Notes) :
    note change j = ((), { j with notes := change j.notes }) := rfl

/-! ## What a computation can emit -/

/-- The log between two journals: `new` is filed under the tag of the first,
and every call of it satisfies `P`. -/
def Grows (P : Call → Reply → Prop)
    (j j' : Journal Tag Call Reply Notes) : Prop :=
  j'.tag = j.tag ∧ ∃ new, j'.log = j.log ++ new ∧
    ∀ e ∈ new, e.tag = j.tag ∧ P e.call e.reply

theorem Grows.refl {P : Call → Reply → Prop}
    (j : Journal Tag Call Reply Notes) : Grows P j j :=
  ⟨rfl, [], by simp, by simp⟩

theorem Grows.trans {P : Call → Reply → Prop}
    {j₁ j₂ j₃ : Journal Tag Call Reply Notes}
    (h₁ : Grows P j₁ j₂) (h₂ : Grows P j₂ j₃) : Grows P j₁ j₃ := by
  obtain ⟨htag₁, new₁, hlog₁, hall₁⟩ := h₁
  obtain ⟨htag₂, new₂, hlog₂, hall₂⟩ := h₂
  refine ⟨htag₂.trans htag₁, new₁ ++ new₂, ?_, ?_⟩
  · rw [hlog₂, hlog₁, List.append_assoc]
  · intro e he
    rcases List.mem_append.mp he with he | he
    · exact hall₁ e he
    · rw [← htag₁]
      exact hall₂ e he

theorem Grows.mono {P Q : Call → Reply → Prop}
    {j j' : Journal Tag Call Reply Notes}
    (h : Grows P j j') (hPQ : ∀ call reply, P call reply → Q call reply) :
    Grows Q j j' := by
  obtain ⟨htag, new, hlog, hall⟩ := h
  exact ⟨htag, new, hlog, fun e he => ⟨(hall e he).1, hPQ _ _ (hall e he).2⟩⟩

/-- Started anywhere, the computation only appends calls satisfying `P`,
filed under the tag it was started with. -/
def Emits (P : Call → Reply → Prop)
    (m : StateM (Journal Tag Call Reply Notes) α) : Prop :=
  ∀ j, Grows P j (m j).2

theorem Emits.pure {P : Call → Reply → Prop} (a : α) :
    Emits P (pure a : StateM (Journal Tag Call Reply Notes) α) :=
  fun j => Grows.refl j

theorem Emits.bind {P : Call → Reply → Prop}
    {m : StateM (Journal Tag Call Reply Notes) α}
    {f : α → StateM (Journal Tag Call Reply Notes) β}
    (hm : Emits P m) (hf : ∀ a, Emits P (f a)) : Emits P (m >>= f) := by
  intro j
  have hfirst := hm j
  have hsecond := hf (m j).1 (m j).2
  exact hfirst.trans hsecond

theorem Emits.ask {P : Call → Reply → Prop}
    {oracle : Oracle Tag Call Reply} {call : Call}
    (h : ∀ log, P call (oracle log call)) :
    Emits P (ask oracle call :
      StateM (Journal Tag Call Reply Notes) Reply) := by
  intro j
  refine ⟨rfl, [⟨j.tag, call, oracle j.log call⟩], rfl, ?_⟩
  intro e he
  rw [List.mem_singleton] at he
  subst he
  exact ⟨rfl, h j.log⟩

theorem Emits.note {P : Call → Reply → Prop} (change : Notes → Notes) :
    Emits P (note change :
      StateM (Journal Tag Call Reply Notes) Unit) :=
  fun j => ⟨rfl, [], by simp [note_run], by simp⟩

/-! ## Computations against a history-free oracle -/

/-- The value returned and the calls made are the same from every journal. -/
def Uniform (m : StateM (Journal Tag Call Reply Notes) α) : Prop :=
  ∃ (a : α) (calls : List (Call × Reply)),
    ∀ j, (m j).1 = a ∧ (m j).2.tag = j.tag ∧
      (m j).2.log = j.log ++ calls.map fun c => ⟨j.tag, c.1, c.2⟩

theorem Uniform.pure (a : α) :
    Uniform (pure a : StateM (Journal Tag Call Reply Notes) α) :=
  ⟨a, [], fun j => ⟨rfl, rfl, by simp [pure_run]⟩⟩

theorem Uniform.bind
    {m : StateM (Journal Tag Call Reply Notes) α}
    {f : α → StateM (Journal Tag Call Reply Notes) β}
    (hm : Uniform m) (hf : ∀ a, Uniform (f a)) : Uniform (m >>= f) := by
  obtain ⟨a, calls, hm⟩ := hm
  obtain ⟨b, calls', hf⟩ := hf a
  refine ⟨b, calls ++ calls', fun j => ?_⟩
  obtain ⟨hval, htag, hlog⟩ := hm j
  obtain ⟨hval', htag', hlog'⟩ := hf (m j).2
  rw [bind_run, hval]
  refine ⟨hval', htag'.trans htag, ?_⟩
  rw [hlog', hlog, htag, List.map_append, List.append_assoc]

theorem Uniform.ask {oracle : Oracle Tag Call Reply}
    (hstateless : oracle.Stateless) (call : Call) :
    Uniform (ask oracle call :
      StateM (Journal Tag Call Reply Notes) Reply) := by
  refine ⟨oracle [] call, [(call, oracle [] call)], fun j => ⟨?_, rfl, ?_⟩⟩
  · exact hstateless j.log [] call
  · simp [ask_run, hstateless j.log [] call]

theorem Uniform.note (change : Notes → Notes) :
    Uniform (note change :
      StateM (Journal Tag Call Reply Notes) Unit) :=
  ⟨(), [], fun j => ⟨rfl, rfl, by simp [note_run]⟩⟩

/-! ## Computations built from allowed calls -/

/-- Built from values, notes and calls that `allowed` admits. -/
inductive Scripted (oracle : Oracle Tag Call Reply) (allowed : Call → Prop) :
    {α : Type} → StateM (Journal Tag Call Reply Notes) α → Prop
  | pure {α : Type} (a : α) : Scripted oracle allowed (pure a)
  | note (change : Notes → Notes) : Scripted oracle allowed (note change)
  | ask (call : Call) (h : allowed call) :
      Scripted oracle allowed (ask oracle call)
  | bind {α β : Type} {m : StateM (Journal Tag Call Reply Notes) α}
      {f : α → StateM (Journal Tag Call Reply Notes) β}
      (hm : Scripted oracle allowed m)
      (hf : ∀ a, Scripted oracle allowed (f a)) :
      Scripted oracle allowed (m >>= f)

variable {oracle : Oracle Tag Call Reply} {allowed : Call → Prop}

theorem Scripted.ite {c : Prop} [Decidable c]
    {m m' : StateM (Journal Tag Call Reply Notes) α}
    (hm : Scripted oracle allowed m) (hm' : Scripted oracle allowed m') :
    Scripted oracle allowed (if c then m else m') := by
  split
  · exact hm
  · exact hm'

theorem Scripted.mono {allowed' : Call → Prop}
    {m : StateM (Journal Tag Call Reply Notes) α}
    (hm : Scripted oracle allowed m)
    (hallowed : ∀ call, allowed call → allowed' call) :
    Scripted oracle allowed' m := by
  induction hm with
  | pure a => exact .pure a
  | note change => exact .note change
  | ask call h => exact .ask call (hallowed call h)
  | bind _ _ ihm ihf => exact .bind ihm ihf

theorem Scripted.emits {m : StateM (Journal Tag Call Reply Notes) α}
    (hm : Scripted oracle allowed m) :
    Emits (fun call _ => allowed call) m := by
  induction hm with
  | pure a => exact Emits.pure a
  | note change => exact Emits.note change
  | ask call h => exact Emits.ask fun _ => h
  | bind _ _ ihm ihf => exact Emits.bind ihm ihf

theorem Scripted.uniform {m : StateM (Journal Tag Call Reply Notes) α}
    (hstateless : oracle.Stateless)
    (hm : Scripted oracle allowed m) : Uniform m := by
  induction hm with
  | pure a => exact Uniform.pure a
  | note change => exact Uniform.note change
  | ask call _ => exact Uniform.ask hstateless call
  | bind _ _ ihm ihf => exact Uniform.bind ihm ihf

/-! ## Computations that make fixed calls -/

/-- Wherever it is started, the computation makes exactly these calls, in
this order. -/
def Makes (calls : List Call)
    (m : StateM (Journal Tag Call Reply Notes) α) : Prop :=
  ∀ j, ∃ new, (m j).2.log = j.log ++ new ∧ new.map Event.call = calls

theorem Makes.of_same_log {m : StateM (Journal Tag Call Reply Notes) α}
    (h : ∀ j, (m j).2.log = j.log) : Makes [] m :=
  fun j => ⟨[], by rw [h j, List.append_nil], rfl⟩

theorem Makes.ask (oracle : Oracle Tag Call Reply) (call : Call) :
    Makes [call] (ask oracle call :
      StateM (Journal Tag Call Reply Notes) Reply) :=
  fun j => ⟨[⟨j.tag, call, oracle j.log call⟩], rfl, rfl⟩

theorem Makes.bind {calls calls' : List Call}
    {m : StateM (Journal Tag Call Reply Notes) α}
    {f : α → StateM (Journal Tag Call Reply Notes) β}
    (hm : Makes calls m) (hf : ∀ a, Makes calls' (f a)) :
    Makes (calls ++ calls') (m >>= f) := by
  intro j
  obtain ⟨new, hlog, hnew⟩ := hm j
  obtain ⟨new', hlog', hnew'⟩ := hf (m j).1 (m j).2
  refine ⟨new ++ new', ?_, ?_⟩
  · rw [bind_run, hlog', hlog, List.append_assoc]
  · rw [List.map_append, hnew, hnew']

/-! ## Relations between journals -/

/-- Started anywhere, the computation ends in a journal that `R` relates to
the one it was started from. -/
def Within (R : Journal Tag Call Reply Notes → Journal Tag Call Reply Notes → Prop)
    (m : StateM (Journal Tag Call Reply Notes) α) : Prop :=
  ∀ j, R j (m j).2

variable {R : Journal Tag Call Reply Notes → Journal Tag Call Reply Notes → Prop}

theorem Within.pure (hrefl : ∀ j, R j j) (a : α) :
    Within R (pure a : StateM (Journal Tag Call Reply Notes) α) :=
  fun j => hrefl j

theorem Within.bind
    (htrans : ∀ j₁ j₂ j₃, R j₁ j₂ → R j₂ j₃ → R j₁ j₃)
    {m : StateM (Journal Tag Call Reply Notes) α}
    {f : α → StateM (Journal Tag Call Reply Notes) β}
    (hm : Within R m) (hf : ∀ a, Within R (f a)) : Within R (m >>= f) :=
  fun j => htrans _ _ _ (hm j) (hf (m j).1 (m j).2)

theorem Within.ite {c : Prop} [Decidable c]
    {m m' : StateM (Journal Tag Call Reply Notes) α}
    (hm : Within R m) (hm' : Within R m') :
    Within R (if c then m else m') := by
  split
  · exact hm
  · exact hm'

end

/-! ## Where the events of a log come from -/

/-- The second log continues the first, and every event it adds satisfies
`origin` with the log before it. -/
inductive Traced {E : Type} (origin : List E → E → Prop) (log : List E) :
    List E → Prop
  | refl : Traced origin log log
  | step {log' : List E} {e : E} (h : Traced origin log log')
      (he : origin log' e) : Traced origin log (log' ++ [e])

section

variable {E : Type} {origin : List E → E → Prop} {log log' log'' : List E}

theorem Traced.trans (h : Traced origin log log')
    (h' : Traced origin log' log'') : Traced origin log log'' := by
  induction h' with
  | refl => exact h
  | step _ he ih => exact ih.step he

theorem Traced.of_at_event {new : List E}
    (h : ∀ before e after, new = before ++ e :: after →
      origin (log ++ before) e) : Traced origin log (log ++ new) := by
  induction new using List.reverseRecOn with
  | nil =>
      rw [List.append_nil]
      exact .refl
  | append_singleton new e ih =>
      rw [← List.append_assoc]
      refine (ih fun before e' after hnew => ?_).step (h new e [] rfl)
      exact h before e' (after ++ [e]) (by simp [hnew])

theorem Traced.mono {origin' : List E → E → Prop}
    (h : Traced origin log log')
    (himp : ∀ log e, origin log e → origin' log e) :
    Traced origin' log log' := by
  induction h with
  | refl => exact .refl
  | step _ he ih => exact ih.step (himp _ _ he)

theorem Traced.at_event (h : Traced origin log log') {before after : List E}
    {e : E} (hlog : log' = log ++ (before ++ e :: after)) :
    origin (log ++ before) e := by
  induction h generalizing after with
  | refl => simp at hlog
  | @step log' last _ he ih =>
      rcases List.eq_nil_or_concat after with rfl | ⟨rest, x, rfl⟩
      · rw [← List.append_assoc] at hlog
        obtain ⟨rfl, hlast⟩ := List.append_inj' hlog rfl
        cases hlast
        exact he
      · have hshape : log ++ (before ++ e :: (rest ++ [x])) =
            (log ++ (before ++ e :: rest)) ++ [x] := by simp
        rw [List.concat_eq_append, hshape] at hlog
        exact ih (List.append_inj' hlog rfl).1

theorem Traced.and_forall {new : List E} {P : E → Prop}
    (h : Traced origin log (log ++ new)) (hP : ∀ e ∈ new, P e) :
    Traced (fun before e => origin before e ∧ P e) log (log ++ new) := by
  refine Traced.of_at_event fun before e after hnew => ⟨?_, ?_⟩
  · exact h.at_event (by rw [hnew])
  · exact hP e (by simp [hnew])

end

end Interaction
