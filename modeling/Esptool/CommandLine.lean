import Esptool.FilterAbi
import Esptool.Lib.Argv
import Esptool.Text
import Mathlib.Data.List.TakeWhile

/-!
# The command line of the worker

`QuoteArgument` and `BuildCommandLine` of the launcher, and the reading of a
command line by the C runtime of the worker.  The runtime is given a
NUL-terminated string.
-/

namespace Esptool.Process

open Esp Argv Text

def kQuote : UInt16 := 0x22
def kBackslash : UInt16 := 0x5C

def crtMarks : Marks UInt16 where
  quote := kQuote
  backslash := kBackslash
  space := 0x20
  tab := 0x09
  quote_ne_backslash := by decide
  quote_ne_space := by decide
  space_ne_backslash := by decide

/-- `argv` of a process that was started with this command line. -/
def crtArguments (commandLine : WString) : List WString :=
  split crtMarks (commandLine.takeWhile (· != 0))

/-- Space, tab, newline, vertical tab and the quote. -/
def kQuotedCharacters : List UInt16 := [0x20, 0x09, 0x0A, 0x0B, kQuote]

def needsQuotes (argument : WString) : Bool :=
  argument.isEmpty || argument.any kQuotedCharacters.contains

/-- The loop of `QuoteArgument`, with the backslashes it holds back. -/
def quoteLoop (backslashes : ℕ) : WString → WString
  | [] => List.replicate (backslashes * 2) kBackslash ++ [kQuote]
  | ch :: rest =>
      if ch = kBackslash then quoteLoop (backslashes + 1) rest
      else if ch = kQuote then
        List.replicate (backslashes * 2 + 1) kBackslash ++
          kQuote :: quoteLoop 0 rest
      else
        List.replicate backslashes kBackslash ++ ch :: quoteLoop 0 rest

def quoteArgument (argument : WString) : WString :=
  if needsQuotes argument then kQuote :: quoteLoop 0 argument else argument

def buildCommandLine (image : WString) (arguments : List WString) :
    WString :=
  quoteArgument image ++
    arguments.flatMap fun argument => 0x20 :: quoteArgument argument

/-! ## One argument -/

theorem plain_of_not_needsQuotes {argument : WString}
    (h : needsQuotes argument = false) :
    argument ≠ [] ∧ ∀ c ∈ argument,
      c ≠ crtMarks.quote ∧ crtMarks.blank c = false := by
  simp only [needsQuotes, Bool.or_eq_false_iff, List.isEmpty_eq_false_iff,
    List.any_eq_false] at h
  refine ⟨h.1, ?_⟩
  intro c hc
  have hnot : c ∉ kQuotedCharacters := by
    simpa using h.2 c hc
  constructor
  · intro hquote
    exact hnot (hquote ▸ by decide)
  · rw [Marks.blank, Bool.or_eq_false_iff, decide_eq_false_iff_not,
      decide_eq_false_iff_not]
    constructor
    · intro hspace
      exact hnot (hspace ▸ by decide)
    · intro htab
      exact hnot (htab ▸ by decide)

/-- The quoted part of an argument is read back with the backslashes that
were held back before it, up to the closing quote. -/
theorem argument_quoteLoop {line : WString} (hline : Ends crtMarks line)
    (backslashes : ℕ) (text : WString) :
    argument crtMarks true 0 (quoteLoop backslashes text ++ line) =
      (crtMarks.backslashes backslashes ++ text, line) := by
  induction text generalizing backslashes with
  | nil =>
      rw [quoteLoop, List.append_assoc, List.append_nil]
      change argument crtMarks true 0
        (crtMarks.backslashes (backslashes * 2) ++ crtMarks.quote :: line) = _
      rw [argument_backslashes, Nat.zero_add, Nat.mul_comm,
        argument_closeQuote hline]
  | cons ch rest ih =>
      rw [quoteLoop]
      split
      · rename_i hslash
        rw [ih, backslashes_succ, List.append_assoc, hslash]
        rfl
      split
      · rename_i hquote
        rw [List.append_assoc, List.cons_append]
        change argument crtMarks true 0
          (crtMarks.backslashes (backslashes * 2 + 1) ++
            crtMarks.quote :: (quoteLoop 0 rest ++ line)) = _
        rw [argument_backslashes, Nat.zero_add, Nat.mul_comm,
          argument_escapedQuote, ih, hquote]
        rfl
      · rename_i hslash hquote
        rw [List.append_assoc, List.cons_append]
        change argument crtMarks true 0
          (crtMarks.backslashes backslashes ++
            ch :: (quoteLoop 0 rest ++ line)) = _
        rw [argument_backslashes, Nat.zero_add,
          argument_character hslash hquote (.inl rfl), ih]
        rfl

theorem quoteLoop_ne_nil (backslashes : ℕ) (text : WString) :
    quoteLoop backslashes text ≠ [] := by
  induction text generalizing backslashes with
  | nil => simp [quoteLoop]
  | cons ch rest ih =>
      rw [quoteLoop]
      split
      · exact ih _
      split
      · simp
      · simp

theorem quoteArgument_spells (word : WString) :
    Spells crtMarks (quoteArgument word) word := by
  cases hquotes : needsQuotes word with
  | false =>
      obtain ⟨hne, hplain⟩ := plain_of_not_needsQuotes hquotes
      rw [quoteArgument, hquotes]
      constructor
      · cases word with
        | nil => exact absurd rfl hne
        | cons c rest =>
            exact ⟨c, rest, rfl, (hplain c List.mem_cons_self).2⟩
      · intro line hline
        exact argument_plain hline hplain 0
  | true =>
      rw [quoteArgument, hquotes]
      constructor
      · exact ⟨kQuote, quoteLoop 0 word, rfl, by decide⟩
      · intro line hline
        have hopen := argument_openQuote (m := crtMarks)
          (quoteLoop 0 word ++ line)
          (List.append_ne_nil_of_left_ne_nil (quoteLoop_ne_nil 0 word) line)
        exact hopen.trans (argument_quoteLoop hline 0 word)

/-! ## The image path -/

/-- Without a quote inside and a backslash at the end, quoting adds the two
quotes and nothing else. -/
theorem quoteLoop_path {backslashes : ℕ} {path : WString}
    (hquote : kQuote ∉ path) (hlast : path.getLast? ≠ some kBackslash)
    (hheld : path = [] → backslashes = 0) :
    quoteLoop backslashes path =
      crtMarks.backslashes backslashes ++ path ++ [kQuote] := by
  induction path generalizing backslashes with
  | nil =>
      rw [hheld rfl]
      rfl
  | cons ch rest ih =>
      have hrest : kQuote ∉ rest := fun h =>
        hquote (List.mem_cons_of_mem ch h)
      have hne : ch ≠ kQuote := fun h => hquote (h ▸ List.mem_cons_self)
      rw [quoteLoop]
      split
      · rename_i hslash
        have hrestne : rest ≠ [] := by
          intro hnil
          exact hlast (by rw [hnil, hslash]; rfl)
        rw [ih hrest (by rwa [List.getLast?_cons_of_ne_nil hrestne] at hlast)
          fun h => absurd h hrestne, backslashes_succ, hslash]
        simp [crtMarks]
      · have hrestlast : rest.getLast? ≠ some kBackslash := by
          cases rest with
          | nil => exact nofun
          | cons next rest =>
              rwa [List.getLast?_cons_of_ne_nil (List.cons_ne_nil _ _)]
                at hlast
        rw [ih hrest hrestlast fun _ => rfl]
        simp [Marks.backslashes, crtMarks]

theorem programName_quoteArgument {image : WString}
    (hquote : kQuote ∉ image) (hlast : image.getLast? ≠ some kBackslash)
    (line : WString) :
    programName crtMarks false (quoteArgument image ++ line) =
      (image ++ (programName crtMarks false line).1,
        (programName crtMarks false line).2) := by
  cases hquotes : needsQuotes image with
  | false =>
      obtain ⟨-, hplain⟩ := plain_of_not_needsQuotes hquotes
      rw [quoteArgument, hquotes]
      exact programName_plain hplain line
  | true =>
      have hopen : programName crtMarks false
          (kQuote :: (image ++ kQuote :: line)) =
            programName crtMarks true (image ++ kQuote :: line) := by
        rw [programName]
        exact if_pos rfl
      rw [quoteArgument, hquotes, if_pos rfl,
        quoteLoop_path hquote hlast fun _ => rfl]
      change programName crtMarks false
        (kQuote :: ((image ++ [kQuote]) ++ line)) = _
      rw [List.append_assoc, List.singleton_append, hopen]
      exact programName_quoted hquote line

/-! ## The whole line -/

theorem mem_quoteLoop {c : UInt16} {backslashes : ℕ} {text : WString}
    (h : c ∈ quoteLoop backslashes text) :
    c = kBackslash ∨ c = kQuote ∨ c ∈ text := by
  induction text generalizing backslashes with
  | nil =>
      rw [quoteLoop, List.mem_append, List.mem_singleton] at h
      rcases h with h | h
      · exact .inl (List.eq_of_mem_replicate h)
      · exact .inr (.inl h)
  | cons ch rest ih =>
      have hrest {n : ℕ} (h : c ∈ quoteLoop n rest) :
          c = kBackslash ∨ c = kQuote ∨ c ∈ ch :: rest :=
        (ih h).imp_right (.imp_right (List.mem_cons_of_mem ch))
      rw [quoteLoop] at h
      split at h
      · exact hrest h
      split at h
      · rw [List.mem_append, List.mem_cons] at h
        rcases h with h | h | h
        · exact .inl (List.eq_of_mem_replicate h)
        · exact .inr (.inl h)
        · exact hrest h
      · rw [List.mem_append, List.mem_cons] at h
        rcases h with h | h | h
        · exact .inl (List.eq_of_mem_replicate h)
        · exact .inr (.inr (h ▸ List.mem_cons_self))
        · exact hrest h

theorem quoteArgument_nulFree {argument : WString} (h : 0 ∉ argument) :
    0 ∉ quoteArgument argument := by
  unfold quoteArgument
  split
  · intro hmem
    rcases List.mem_cons.mp hmem with hzero | hmem
    · exact absurd hzero (by decide)
    · rcases mem_quoteLoop hmem with hzero | hzero | hmem
      · exact absurd hzero (by decide)
      · exact absurd hzero (by decide)
      · exact h hmem
  · exact h

theorem buildCommandLine_nulFree {image : WString}
    {arguments : List WString} (himage : 0 ∉ image)
    (harguments : ∀ argument ∈ arguments, 0 ∉ argument) :
    0 ∉ buildCommandLine image arguments := by
  intro hmem
  rcases List.mem_append.mp hmem with hmem | hmem
  · exact quoteArgument_nulFree himage hmem
  · obtain ⟨argument, harg, hmem⟩ := List.mem_flatMap.mp hmem
    rcases List.mem_cons.mp hmem with hzero | hmem
    · exact absurd hzero (by decide)
    · exact quoteArgument_nulFree (harguments argument harg) hmem

/-- The C runtime of the worker gives its `main` the image and the arguments
that the command line was built from. -/
theorem crtArguments_buildCommandLine {image : WString}
    {arguments : List WString} (hnul : 0 ∉ image) (hquote : kQuote ∉ image)
    (hlast : image.getLast? ≠ some kBackslash)
    (harguments : ∀ argument ∈ arguments, 0 ∉ argument) :
    crtArguments (buildCommandLine image arguments) =
      image :: arguments := by
  have hwhole : (buildCommandLine image arguments).takeWhile (· != 0) =
      buildCommandLine image arguments := by
    rw [List.takeWhile_eq_self_iff]
    intro c hc
    have hne : c ≠ 0 := fun hzero =>
      buildCommandLine_nulFree hnul harguments (hzero ▸ hc)
    simpa using hne
  rw [crtArguments, hwhole]
  exact split_joined (programName_quoteArgument hquote hlast)
    fun word _ => quoteArgument_spells word

theorem crtArguments_buildCommandLine_quoted :
    let image := wide "C:\\Program Files\\esptool.exe"
    let arguments := [wide "say \"hi\\\\\"", [], wide "one two\\"]
    image.getLast? ≠ some kBackslash ∧
      crtArguments (buildCommandLine image arguments) =
        image :: arguments := by
  intro image arguments
  have hlast : image.getLast? ≠ some kBackslash := by
    decide
  refine ⟨hlast, ?_⟩
  exact crtArguments_buildCommandLine (by decide) (by decide) hlast
    (by decide)

end Esptool.Process
