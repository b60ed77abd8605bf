import Mathlib.Data.List.Basic
import Mathlib.Tactic.Common

/-!
# Splitting a command line

The rules by which the Microsoft C runtime splits a command line into
arguments.  The program name comes first and knows quotes only.  In every
other argument a run of backslashes before a quote is halved: an even run
leaves the quote to open or close a quoted part, an odd run makes it a
character of the argument, and a run before anything else stands for itself.
A quote right after a closing one is a character of the argument as well.

The alphabet is a parameter; `Marks` names the characters that matter.
-/

namespace Argv

structure Marks (α : Type) where
  quote : α
  backslash : α
  space : α
  tab : α
  quote_ne_backslash : quote ≠ backslash
  quote_ne_space : quote ≠ space
  space_ne_backslash : space ≠ backslash

variable {α : Type} [DecidableEq α] (m : Marks α)

def Marks.blank (c : α) : Bool := decide (c = m.space) || decide (c = m.tab)

def Marks.backslashes (n : ℕ) : List α := List.replicate n m.backslash

/-- The program name, and the line after the blank that ends it. -/
def programName : Bool → List α → List α × List α
  | _, [] => ([], [])
  | quoted, c :: line =>
      if c = m.quote then programName (!quoted) line
      else if !quoted && m.blank c then ([], line)
      else
        let rest := programName quoted line
        (c :: rest.1, rest.2)

/-- One argument, with the backslashes read since its last other character,
and the line from the blank that ends it. -/
def argument : Bool → ℕ → List α → List α × List α
  | _, slashes, [] => (m.backslashes slashes, [])
  | quoted, slashes, c :: line =>
      if c = m.backslash then argument quoted (slashes + 1) line
      else if c = m.quote then
        if slashes % 2 = 1 then
          let rest := argument quoted 0 line
          (m.backslashes (slashes / 2) ++ c :: rest.1, rest.2)
        else
          match line with
          | [] => (m.backslashes (slashes / 2), [])
          | next :: line =>
              if quoted ∧ next = m.quote then
                let rest := argument quoted 0 line
                (m.backslashes (slashes / 2) ++ next :: rest.1, rest.2)
              else
                let rest := argument (!quoted) 0 (next :: line)
                (m.backslashes (slashes / 2) ++ rest.1, rest.2)
      else if !quoted && m.blank c then (m.backslashes slashes, c :: line)
      else
        let rest := argument quoted 0 line
        (m.backslashes slashes ++ c :: rest.1, rest.2)

/-- The arguments after the program name.  Each of them takes a character at
least, so the length of the line is enough fuel. -/
def arguments : ℕ → List α → List (List α)
  | 0, _ => []
  | fuel + 1, line =>
      match line.dropWhile m.blank with
      | [] => []
      | c :: rest =>
          let next := argument m false 0 (c :: rest)
          next.1 :: arguments fuel next.2

def split (line : List α) : List (List α) :=
  let name := programName m false line
  name.1 :: arguments m name.2.length name.2

variable {m}

omit [DecidableEq α] in
theorem backslashes_succ (n : ℕ) :
    m.backslashes (n + 1) = m.backslashes n ++ [m.backslash] :=
  List.replicate_succ'

theorem argument_nil (quoted : Bool) (slashes : ℕ) :
    argument m quoted slashes [] = (m.backslashes slashes, []) := by
  rw [argument]

theorem argument_cons (quoted : Bool) (slashes : ℕ) (c : α)
    (line : List α) :
    argument m quoted slashes (c :: line) =
      if c = m.backslash then argument m quoted (slashes + 1) line
      else if c = m.quote then
        if slashes % 2 = 1 then
          (m.backslashes (slashes / 2) ++ c :: (argument m quoted 0 line).1,
            (argument m quoted 0 line).2)
        else
          match line with
          | [] => (m.backslashes (slashes / 2), [])
          | next :: line =>
              if quoted ∧ next = m.quote then
                (m.backslashes (slashes / 2) ++
                    next :: (argument m quoted 0 line).1,
                  (argument m quoted 0 line).2)
              else
                (m.backslashes (slashes / 2) ++
                    (argument m (!quoted) 0 (next :: line)).1,
                  (argument m (!quoted) 0 (next :: line)).2)
      else if !quoted && m.blank c then (m.backslashes slashes, c :: line)
      else
        (m.backslashes slashes ++ c :: (argument m quoted 0 line).1,
          (argument m quoted 0 line).2) :=
  argument.eq_def m quoted slashes (c :: line)

theorem argument_backslash (quoted : Bool) (slashes : ℕ) (line : List α) :
    argument m quoted slashes (m.backslash :: line) =
      argument m quoted (slashes + 1) line := by
  rw [argument_cons, if_pos rfl]

theorem blank_space : m.blank m.space = true := by
  simp [Marks.blank]

/-- A line that an argument outside quotes does not reach into. -/
def Ends (m : Marks α) (line : List α) : Prop :=
  ∀ c ∈ line.head?, m.blank c = true ∧ c ≠ m.backslash ∧ c ≠ m.quote

theorem Ends.nil : Ends m [] := by
  intro c hc
  cases hc

theorem Ends.space (line : List α) : Ends m (m.space :: line) := by
  intro c hc
  cases hc
  exact ⟨blank_space, m.space_ne_backslash, m.quote_ne_space.symm⟩

theorem argument_ends {line : List α} (h : Ends m line) (slashes : ℕ) :
    argument m false slashes line = (m.backslashes slashes, line) := by
  cases line with
  | nil => exact argument_nil false slashes
  | cons c line =>
      obtain ⟨hblank, hslash, hquote⟩ := h c rfl
      rw [argument_cons, if_neg hslash, if_neg hquote, hblank]
      rfl

theorem argument_backslashes (quoted : Bool) (slashes n : ℕ)
    (line : List α) :
    argument m quoted slashes (m.backslashes n ++ line) =
      argument m quoted (slashes + n) line := by
  induction n generalizing slashes with
  | zero => rfl
  | succ n ih =>
      have hcons : m.backslashes (n + 1) ++ line =
          m.backslash :: (m.backslashes n ++ line) := rfl
      rw [hcons, argument_backslash, ih, Nat.add_assoc, Nat.add_comm 1 n]

theorem argument_character {quoted : Bool} {c : α}
    (hslash : c ≠ m.backslash) (hquote : c ≠ m.quote)
    (hblank : quoted = true ∨ m.blank c = false) (slashes : ℕ)
    (line : List α) :
    argument m quoted slashes (c :: line) =
      (m.backslashes slashes ++ c :: (argument m quoted 0 line).1,
        (argument m quoted 0 line).2) := by
  have hgoes : ¬((!quoted && m.blank c) = true) := by
    rcases hblank with h | h
    · simp [h]
    · simp [h]
  rw [argument_cons, if_neg hslash, if_neg hquote, if_neg hgoes]

theorem argument_escapedQuote (quoted : Bool) (n : ℕ) (line : List α) :
    argument m quoted (2 * n + 1) (m.quote :: line) =
      (m.backslashes n ++ m.quote :: (argument m quoted 0 line).1,
        (argument m quoted 0 line).2) := by
  have hodd : (2 * n + 1) % 2 = 1 := by omega
  have hhalf : (2 * n + 1) / 2 = n := by omega
  rw [argument_cons, if_neg m.quote_ne_backslash, if_pos rfl, if_pos hodd,
    hhalf]

/-- A quote that opens a quoted part. -/
theorem argument_openQuote (line : List α) (hline : line ≠ []) :
    argument m false 0 (m.quote :: line) = argument m true 0 line := by
  cases line with
  | nil => exact absurd rfl hline
  | cons next line =>
      rw [argument_cons, if_neg m.quote_ne_backslash, if_pos rfl,
        if_neg (by decide)]
      simp [Marks.backslashes]

/-- A quote that closes a quoted part ends the argument when nothing of it
follows. -/
theorem argument_closeQuote {line : List α} (h : Ends m line) (n : ℕ) :
    argument m true (2 * n) (m.quote :: line) =
      (m.backslashes n, line) := by
  have heven : ¬(2 * n) % 2 = 1 := by omega
  have hhalf : 2 * n / 2 = n := by omega
  rw [argument_cons, if_neg m.quote_ne_backslash, if_pos rfl, if_neg heven,
    hhalf]
  cases line with
  | nil => rfl
  | cons next line =>
      have hnext : next ≠ m.quote := (h next rfl).2.2
      have hrest := argument_ends h 0
      simp only [hnext, and_false, if_false, Bool.not_true, hrest]
      simp [Marks.backslashes]

/-- Characters without blanks and quotes are read as they stand. -/
theorem argument_plain {text line : List α} (hline : Ends m line)
    (htext : ∀ c ∈ text, c ≠ m.quote ∧ m.blank c = false) (slashes : ℕ) :
    argument m false slashes (text ++ line) =
      (m.backslashes slashes ++ text, line) := by
  induction text generalizing slashes with
  | nil => rw [List.nil_append, List.append_nil, argument_ends hline]
  | cons c text ih =>
      obtain ⟨hquote, hblank⟩ := htext c List.mem_cons_self
      have htail : ∀ c ∈ text, c ≠ m.quote ∧ m.blank c = false :=
        fun d hd => htext d (List.mem_cons_of_mem c hd)
      by_cases hslash : c = m.backslash
      · rw [List.cons_append, hslash, argument_backslash, ih htail,
          backslashes_succ, List.append_assoc]
        rfl
      · rw [List.cons_append, argument_character hslash hquote (.inr hblank),
          ih htail]
        simp [Marks.backslashes]

theorem programName_nil (quoted : Bool) :
    programName m quoted [] = ([], []) := by
  rw [programName]

theorem programName_cons (quoted : Bool) (c : α) (line : List α) :
    programName m quoted (c :: line) =
      if c = m.quote then programName m (!quoted) line
      else if !quoted && m.blank c then ([], line)
      else
        (c :: (programName m quoted line).1, (programName m quoted line).2) :=
  programName.eq_def m quoted (c :: line)

theorem programName_plain {text : List α}
    (htext : ∀ c ∈ text, c ≠ m.quote ∧ m.blank c = false)
    (line : List α) :
    programName m false (text ++ line) =
      (text ++ (programName m false line).1,
        (programName m false line).2) := by
  induction text with
  | nil => rfl
  | cons c text ih =>
      obtain ⟨hquote, hblank⟩ := htext c List.mem_cons_self
      have htail : ∀ c ∈ text, c ≠ m.quote ∧ m.blank c = false :=
        fun d hd => htext d (List.mem_cons_of_mem c hd)
      rw [List.cons_append, programName_cons, if_neg hquote, hblank,
        ih htail]
      rfl

/-- Quotes protect the blanks of a program name, and are not part of it. -/
theorem programName_quoted {text : List α} (htext : m.quote ∉ text)
    (line : List α) :
    programName m true (text ++ m.quote :: line) =
      (text ++ (programName m false line).1,
        (programName m false line).2) := by
  induction text with
  | nil => rw [List.nil_append, programName_cons, if_pos rfl]; rfl
  | cons c text ih =>
      have hquote : c ≠ m.quote := fun h => htext (h ▸ List.mem_cons_self)
      have htail : m.quote ∉ text := fun h =>
        htext (List.mem_cons_of_mem c h)
      rw [List.cons_append, programName_cons, if_neg hquote, ih htail]
      rfl

theorem programName_space (line : List α) :
    programName m false (m.space :: line) = ([], line) := by
  rw [programName_cons, if_neg m.quote_ne_space.symm, blank_space]
  rfl

/-! ## Lines that were joined -/

/-- `text` is a spelling of `word`: read as an argument it gives `word`,
whatever ends it. -/
structure Spells (m : Marks α) (text word : List α) : Prop where
  starts : ∃ c rest, text = c :: rest ∧ m.blank c = false
  reads : ∀ line, Ends m line →
    argument m false 0 (text ++ line) = (word, line)

section

variable {spell : List α → List α} {words : List (List α)}

/-- The words, each of them spelled behind a space. -/
def joined (m : Marks α) (spell : List α → List α)
    (words : List (List α)) : List α :=
  words.flatMap fun word => m.space :: spell word

theorem joined_ends : Ends m (joined m spell words) := by
  cases words with
  | nil => exact Ends.nil
  | cons word words => exact Ends.space _

omit [DecidableEq α] in
theorem length_le_length_joined :
    words.length ≤ (joined m spell words).length := by
  induction words with
  | nil => exact Nat.zero_le _
  | cons word words ih =>
      rw [joined, List.flatMap_cons, List.length_append]
      change words.length + 1 ≤
        (spell word).length + 1 + (joined m spell words).length
      omega

theorem arguments_spelled {text word line line' : List α}
    (hspells : Spells m text word) (hends : Ends m line)
    (hline : line'.dropWhile m.blank = text ++ line) (fuel : ℕ) :
    arguments m (fuel + 1) line' = word :: arguments m fuel line := by
  obtain ⟨c, rest, htext, -⟩ := hspells.starts
  have hread := hspells.reads line hends
  rw [htext, List.cons_append] at hread hline
  rw [arguments, hline]
  dsimp only
  rw [hread]

theorem Spells.dropWhile_blank {text word : List α} (h : Spells m text word)
    (line : List α) : (text ++ line).dropWhile m.blank = text ++ line := by
  obtain ⟨c, rest, htext, hstart⟩ := h.starts
  rw [htext, List.cons_append,
    List.dropWhile_cons_of_neg (by simp [hstart])]

theorem arguments_joined
    (h : ∀ word ∈ words, Spells m (spell word) word) {fuel : ℕ}
    (hfuel : words.length ≤ fuel) :
    arguments m fuel (joined m spell words) = words := by
  induction words generalizing fuel with
  | nil =>
      cases fuel with
      | zero => rfl
      | succ fuel => rfl
  | cons word words ih =>
      obtain ⟨fuel, rfl⟩ : ∃ k, fuel = k + 1 := by
        rw [List.length_cons] at hfuel
        exact ⟨fuel - 1, by omega⟩
      have hspells := h word List.mem_cons_self
      have hdrop : (joined m spell (word :: words)).dropWhile m.blank =
          spell word ++ joined m spell words := by
        rw [joined, List.flatMap_cons, List.cons_append,
          List.dropWhile_cons_of_pos blank_space]
        exact hspells.dropWhile_blank _
      rw [arguments_spelled hspells joined_ends hdrop]
      rw [ih (fun other hother => h other (List.mem_cons_of_mem _ hother))
        (Nat.le_of_succ_le_succ hfuel)]

/-- A program name and words that are spelled so are split into just these.
The space that ends the name belongs to the first word. -/
theorem split_joined {name spelled : List α}
    (hname : ∀ line, programName m false (spelled ++ line) =
      (name ++ (programName m false line).1, (programName m false line).2))
    (hwords : ∀ word ∈ words, Spells m (spell word) word) :
    split m (spelled ++ joined m spell words) = name :: words := by
  unfold split
  dsimp only
  rw [hname]
  cases words with
  | nil =>
      rw [joined, List.flatMap_nil, programName_nil, List.append_nil]
      rfl
  | cons word words =>
      have hspells := hwords word List.mem_cons_self
      obtain ⟨c, rest, htext, -⟩ := hspells.starts
      have hlength : (spell word ++ joined m spell words).length =
          rest.length + (joined m spell words).length + 1 := by
        rw [List.length_append, htext, List.length_cons]
        omega
      have hrest : ∀ word ∈ words, Spells m (spell word) word :=
        fun other hother => hwords other (List.mem_cons_of_mem _ hother)
      have hcount : words.length ≤ (joined m spell words).length :=
        length_le_length_joined
      have hline : programName m false (joined m spell (word :: words)) =
          ([], spell word ++ joined m spell words) :=
        programName_space _
      rw [hline, List.append_nil]
      dsimp only
      rw [hlength, arguments_spelled hspells joined_ends
        (hspells.dropWhile_blank _), arguments_joined hrest (by omega)]

end

end Argv
