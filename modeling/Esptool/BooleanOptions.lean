import Esptool.OptionSpellings
import Mathlib.Tactic.FinCases

/-!
# Boolean options

A boolean option is looked up by the name in front of an equals sign, so a
token such as `--fresh=0` sets the option as `--fresh` does.  The results
below follow the tokens in option position through the parse: what sets each
field, and when no field is set by such a token.
-/

namespace Esptool.Process

open Esp Cli Text

/-! ## Option position -/

/-- Where the loop stands: at an option, at the value of the flag before it,
or behind a bare `--`. -/
inductive Position
  | option
  | value
  | operands
deriving DecidableEq, Repr

def Position.next : Position → List Char → Position
  | .option, token =>
      if token = ['-', '-'] then .operands
      else if valueFlags.contains token then .value
      else .option
  | .value, _ => .option
  | .operands, _ => .operands

def positionAfter (arguments : List WString) : Position :=
  arguments.foldl (fun position argument => position.next (toUtf8 argument))
    .option

/-- The state of the loop at a position. -/
structure Stands (position : Position) (st : ParseState) : Prop where
  positionalOnly : st.positionalOnly = decide (position = .operands)
  awaiting : st.awaiting.isSome = decide (position = .value)

theorem Stands.atOption {st : ParseState} (h : Stands .option st) :
    AtOption st := by
  refine ⟨?_, h.positionalOnly⟩
  rw [← Option.not_isSome_iff_eq_none, h.awaiting]
  decide

/-- Behind a bare `--`, and at the bare `--` itself. -/
theorem parseStep_operands {st st' : ParseState} {argument : WString}
    (hawaiting : st.awaiting = none)
    (hends : st.positionalOnly = true ∨ toUtf8 argument = ['-', '-'])
    (hparse : parseStep st argument = .ok st') :
    st'.positionalOnly = true ∧ st'.awaiting = none := by
  unfold parseStep at hparse
  dsimp only at hparse
  rw [hawaiting] at hparse
  dsimp only at hparse
  by_cases hpositional : st.positionalOnly = true
  · rw [if_pos hpositional] at hparse
    cases hparse
    obtain ⟨hkept, hnone⟩ := operand_awaits st (toUtf8 argument)
    exact ⟨hkept.trans hpositional, hnone.trans hawaiting⟩
  · rw [if_neg hpositional,
      if_pos (hends.resolve_left hpositional)] at hparse
    cases hparse
    exact ⟨rfl, rfl⟩

theorem Stands.parseStep {position : Position} {st st' : ParseState}
    (h : Stands position st) {argument : WString}
    (hparse : Cli.parseStep st argument = .ok st') :
    Stands (position.next (toUtf8 argument)) st' := by
  cases position with
  | option =>
      rw [Position.next]
      by_cases hdashes : toUtf8 argument = ['-', '-']
      · obtain ⟨hpositional, hnone⟩ := parseStep_operands
          h.atOption.awaiting (.inr hdashes) hparse
        rw [if_pos hdashes]
        exact ⟨hpositional, by rw [hnone]; rfl⟩
      · have hoption := parseStep_option h.atOption hparse
        rw [if_neg hdashes] at hoption ⊢
        by_cases hvalue : valueFlags.contains (toUtf8 argument) = true
        · rw [if_pos hvalue]
          exact ⟨hoption.1, hoption.2.trans hvalue⟩
        · rw [if_neg hvalue]
          rw [Bool.not_eq_true] at hvalue
          exact ⟨hoption.1, hoption.2.trans hvalue⟩
  | value =>
      obtain ⟨entry, hentry⟩ := Option.isSome_iff_exists.mp h.awaiting
      obtain ⟨hkept, hnone⟩ := parseStep_value hentry hparse
      exact ⟨hkept.trans h.positionalOnly, by rw [hnone]; rfl⟩
  | operands =>
      have hawaiting : st.awaiting = none := by
        rw [← Option.not_isSome_iff_eq_none, h.awaiting]
        decide
      obtain ⟨hpositional, hnone⟩ := parseStep_operands hawaiting
        (.inl h.positionalOnly) hparse
      exact ⟨hpositional, by rw [hnone]; rfl⟩

/-! ## The fields -/

structure BoolField where
  get : Options → Bool
  spellings : List String

/-- The boolean fields with their spellings. -/
def kBoolFields : List BoolField := [
  ⟨Options.help, ["--help", "-h"]⟩,
  ⟨Options.verbose, ["--verbose", "-v"]⟩,
  ⟨Options.noProvision, ["--no-provision"]⟩,
  ⟨Options.noAutoProvision, ["--no-auto-provision"]⟩,
  ⟨Options.forceProvision, ["--force-provision"]⟩,
  ⟨Options.forceHop, ["--force-hop"]⟩,
  ⟨Options.noHop, ["--no-hop"]⟩,
  ⟨Options.clearAttribute, ["--clear-attribute"]⟩,
  ⟨Options.isolated, ["--isolated"]⟩,
  ⟨Options.json, ["--json"]⟩,
  ⟨Options.iocp, ["--iocp"]⟩,
  ⟨Options.enforceCompat, ["--enforce-compat"]⟩,
  ⟨Options.bypassEventtype, ["--bypass-eventtype"]⟩,
  ⟨Options.fresh, ["--fresh"]⟩,
  ⟨Options.all, ["--all"]⟩,
  ⟨Options.fromNotify, ["--from-notify"]⟩,
  ⟨Options.duplicate, ["--duplicate"]⟩,
  ⟨Options.contextSet, ["--context-set"]⟩,
  ⟨Options.contextEnum, ["--context-enum"]⟩,
  ⟨Options.enumIds, ["--enum-ids"]⟩,
  ⟨Options.openCollection, ["--open"]⟩,
  ⟨Options.worker, ["--worker"]⟩]

/-- The token has the name of this field. -/
def BoolField.named (field : BoolField) (token : List Char) : Bool :=
  (field.spellings.map String.toList).contains (flagName token)

theorem StringFlag.set_get {entry : StringFlag} (h : entry ∈ kStringFlags)
    {field : BoolField} (hfield : field ∈ kBoolFields) (value : String)
    (o : Options) : field.get (entry.set value o) = field.get o := by
  have hall : ∀ entry ∈ kStringFlags,
      kBoolFields.map (fun field => field.get (entry.set value o)) =
        kBoolFields.map fun field => field.get o := by
    intro entry hentry
    fin_cases hentry <;> rfl
  exact List.map_inj_left.mp (hall entry h) field hfield

theorem CountFlag.set_get {entry : CountFlag} (h : entry ∈ kCountFlags)
    {field : BoolField} (hfield : field ∈ kBoolFields) (count : ℕ)
    (o : Options) : field.get (entry.set count o) = field.get o := by
  have hall : ∀ entry ∈ kCountFlags,
      kBoolFields.map (fun field => field.get (entry.set count o)) =
        kBoolFields.map fun field => field.get o := by
    intro entry hentry
    fin_cases hentry <;> rfl
  exact List.map_inj_left.mp (hall entry h) field hfield

theorem BoolFlag.set_get {entry : BoolFlag} (h : entry ∈ kBoolFlags)
    {field : BoolField} (hfield : field ∈ kBoolFields) (o : Options) :
    field.get (entry.set o) =
      (field.spellings.contains entry.flag || field.get o) := by
  have hall : ∀ entry ∈ kBoolFlags,
      kBoolFields.map (fun field => field.get (entry.set o)) =
        kBoolFields.map fun field =>
          field.spellings.contains entry.flag || field.get o := by
    intro entry hentry
    fin_cases hentry <;> rfl
  exact List.map_inj_left.mp (hall entry h) field hfield

/-! ## What a step sets -/

theorem store_get {st st' : ParseState} {entry : Awaiting} {value : String}
    (hlisted : Awaiting.listed entry) (h : st.store entry value = .ok st')
    {field : BoolField} (hfield : field ∈ kBoolFields) :
    field.get st'.options = field.get st.options := by
  cases entry with
  | string entry =>
      cases h
      exact StringFlag.set_get hlisted hfield value st.options
  | count entry =>
      unfold ParseState.store at h
      dsimp only at h
      split at h
      · cases h
      · cases h
        exact CountFlag.set_get hlisted hfield _ st.options

theorem operand_get (st : ParseState) (token : List Char) {field : BoolField}
    (hfield : field ∈ kBoolFields) :
    field.get (st.operand token).options = field.get st.options := by
  have hall : kBoolFields.map (fun field =>
      field.get (st.operand token).options) =
      kBoolFields.map fun field => field.get st.options := by
    unfold ParseState.operand
    dsimp only
    split
    · rfl
    · rfl
  exact List.map_inj_left.mp hall field hfield

theorem takeValue_get {st st' : ParseState} {entry : Awaiting}
    {token : List Char} (hlisted : Awaiting.listed entry)
    (h : st.takeValue entry token = .ok st') {field : BoolField}
    (hfield : field ∈ kBoolFields) :
    field.get st'.options = field.get st.options := by
  unfold ParseState.takeValue at h
  split at h
  · exact store_get hlisted h hfield
  · cases h
    rfl

theorem BoolField.named_eq {token : List Char} {flag : String}
    (h : flagName token = flag.toList) (field : BoolField) :
    field.named token = field.spellings.contains flag := by
  rw [named, h, Bool.eq_iff_iff, List.contains_iff_mem,
    List.contains_iff_mem, List.mem_map]
  constructor
  · rintro ⟨spelling, hspelling, hsame⟩
    rwa [← String.toList_inj.mp hsame]
  · intro hspelling
    exact ⟨flag, hspelling, rfl⟩

/-- No spelling of a boolean field is a flag with a value. -/
theorem named_valueFlag {token : List Char} {flag : String}
    (hflag : flag ∈ kValueFlags) (h : flagName token = flag.toList)
    {field : BoolField} (hfield : field ∈ kBoolFields) :
    field.named token = false := by
  have hdisjoint : ∀ flag ∈ kValueFlags,
      ∀ spellings ∈ kBoolFields.map BoolField.spellings,
        spellings.contains flag = false := by
    decide
  rw [field.named_eq h]
  exact hdisjoint flag hflag _ (List.mem_map_of_mem hfield)

/-- A token in option position sets the fields it has the name of. -/
theorem parseFlag_get {st st' : ParseState} {token : List Char}
    (h : parseFlag st token = .ok st') {field : BoolField}
    (hfield : field ∈ kBoolFields) :
    field.get st'.options = (field.named token || field.get st.options) := by
  unfold parseFlag at h
  split at h
  · rename_i entry hstring
    have hentry := findFlag_mem hstring
    have hname := (isFlag_iff (kStringFlags_name entry hentry)).mp
      (findFlag_isFlag hstring)
    rw [named_valueFlag (List.mem_append_left _
      (List.mem_map_of_mem hentry)) hname hfield, Bool.false_or]
    have hlisted : Awaiting.listed (.string entry) := hentry
    exact takeValue_get hlisted h hfield
  split at h
  · rename_i entry hbool
    have hentry := findFlag_mem hbool
    have hname := (isFlag_iff (kBoolFlags_name entry hentry)).mp
      (findFlag_isFlag hbool)
    cases h
    rw [field.named_eq hname]
    exact BoolFlag.set_get hentry hfield st.options
  split at h
  · rename_i hworker
    cases h
    have hall : kBoolFields.map (fun field =>
        field.get { st.options with worker := true }) =
        kBoolFields.map fun field =>
          field.named "--worker".toList || field.get st.options := by
      rfl
    rw [hworker]
    exact List.map_inj_left.mp hall field hfield
  split at h
  · rename_i entry hcount
    have hentry := findFlag_mem hcount
    have hname := (isFlag_iff (kCountFlags_name entry hentry)).mp
      (findFlag_isFlag hcount)
    rw [named_valueFlag (List.mem_append_right _
      (List.mem_map_of_mem hentry)) hname hfield, Bool.false_or]
    have hlisted : Awaiting.listed (.count entry) := hentry
    exact takeValue_get hlisted h hfield
  · cases h

/-- The name of a field looks like a flag, with a text behind it too. -/
theorem looksLikeFlag_of_named {token : List Char} {field : BoolField}
    (hfield : field ∈ kBoolFields) (h : field.named token = true) :
    looksLikeFlag token = true ∧ token ≠ ['-', '-'] := by
  have hspelled : ∀ spellings ∈ kBoolFields.map BoolField.spellings,
      ∀ spelling ∈ spellings, looksLikeFlag spelling.toList = true ∧
        spelling.toList ≠ ['-', '-'] := by
    decide
  rw [BoolField.named, List.contains_iff_mem, List.mem_map] at h
  obtain ⟨spelling, hspelling, hname⟩ := h
  obtain ⟨hlooks, hdashes⟩ := hspelled _ (List.mem_map_of_mem hfield)
    spelling hspelling
  rw [hname] at hlooks hdashes
  rcases token_cases token with hexact | ⟨text, hjoined⟩
  · rw [hexact]
    exact ⟨hlooks, hdashes⟩
  · rw [hjoined]
    refine ⟨looksLikeFlag_joined hlooks text, ?_⟩
    intro hsame
    have hmem : '=' ∈ ['-', '-'] := by
      rw [← hsame]
      simp
    revert hmem
    decide

/-- One argument: in option position it sets the fields it has the name of,
anywhere else it sets none. -/
theorem parseStep_get {position : Position} {st st' : ParseState}
    (h : Stands position st)
    (hlisted : ∀ entry ∈ st.awaiting, Awaiting.listed entry)
    {argument : WString} (hparse : parseStep st argument = .ok st')
    {field : BoolField} (hfield : field ∈ kBoolFields) :
    field.get st'.options =
      (decide (position = .option) && field.named (toUtf8 argument) ||
        field.get st.options) := by
  unfold parseStep at hparse
  dsimp only at hparse
  cases position with
  | value =>
      obtain ⟨entry, hentry⟩ := Option.isSome_iff_exists.mp h.awaiting
      rw [hentry] at hparse
      exact store_get (hlisted entry hentry) hparse hfield
  | operands =>
      have hawaiting : st.awaiting = none := by
        rw [← Option.not_isSome_iff_eq_none, h.awaiting]
        decide
      have hpositional : st.positionalOnly = true := h.positionalOnly
      rw [hawaiting] at hparse
      dsimp only at hparse
      rw [if_pos hpositional] at hparse
      cases hparse
      exact operand_get st _ hfield
  | option =>
      rw [h.atOption.awaiting] at hparse
      dsimp only at hparse
      rw [if_neg (by simp [h.atOption.positionalOnly])] at hparse
      rw [decide_eq_true rfl, Bool.true_and]
      split at hparse
      · rename_i hdashes
        cases hparse
        have hunnamed : field.named (toUtf8 argument) = false := by
          rw [← Bool.not_eq_true]
          exact fun hnamed => (looksLikeFlag_of_named hfield hnamed).2 hdashes
        rw [hunnamed]
        rfl
      split at hparse
      · exact parseFlag_get hparse hfield
      · rename_i hlooks
        cases hparse
        have hunnamed : field.named (toUtf8 argument) = false := by
          rw [← Bool.not_eq_true]
          exact fun hnamed => hlooks (looksLikeFlag_of_named hfield hnamed).1
        rw [hunnamed]
        exact operand_get st _ hfield

/-! ## What a run sets -/

def startState (tokens : List WString) : ParseState :=
  { options := { tokens := tokens } }

theorem readArguments_listed {tokens arguments : List WString}
    {st : ParseState}
    (h : readArguments arguments (startState tokens) = .ok st) :
    ∀ entry ∈ st.awaiting, Awaiting.listed entry := by
  obtain ⟨_, _, hfollows⟩ := (follows_start tokens tokens).readArguments h
  exact hfollows.listed

theorem readArguments_snoc {arguments : List WString} {argument : WString}
    {st st' : ParseState}
    (h : readArguments (arguments ++ [argument]) st = .ok st') :
    ∃ middle, readArguments arguments st = .ok middle ∧
      parseStep middle argument = .ok st' := by
  cases hread : readArguments arguments st with
  | error error =>
      rw [readArguments] at h hread
      rw [List.foldlM_append, hread] at h
      cases h
  | ok middle =>
      rw [readArguments_append hread] at h
      obtain ⟨next, hnext, hrest⟩ := readArguments_ok_cons h
      cases hrest
      exact ⟨middle, rfl, hnext⟩

theorem positionAfter_snoc (arguments : List WString) (argument : WString) :
    positionAfter (arguments ++ [argument]) =
      (positionAfter arguments).next (toUtf8 argument) := by
  rw [positionAfter, List.foldl_append]
  rfl

theorem readArguments_stands {tokens arguments : List WString}
    {st : ParseState}
    (h : readArguments arguments (startState tokens) = .ok st) :
    Stands (positionAfter arguments) st := by
  induction arguments using List.reverseRecOn generalizing st with
  | nil =>
      cases h
      exact ⟨rfl, rfl⟩
  | append_singleton arguments argument ih =>
      obtain ⟨middle, hread, hstep⟩ := readArguments_snoc h
      rw [positionAfter_snoc]
      exact (ih hread).parseStep hstep

/-- The token stands in option position behind these arguments. -/
def OptionAt (arguments before : List WString) (token : List Char) : Prop :=
  positionAfter before = .option ∧ ∃ argument after,
    arguments = before ++ argument :: after ∧ toUtf8 argument = token

theorem optionAt_snoc {arguments before : List WString} {argument : WString}
    {token : List Char} :
    OptionAt (arguments ++ [argument]) before token ↔
      OptionAt arguments before token ∨
        before = arguments ∧ positionAfter before = .option ∧
          toUtf8 argument = token := by
  constructor
  · rintro ⟨hposition, found, after, hsplit, htoken⟩
    rcases List.eq_nil_or_concat after with rfl | ⟨rest, last, rfl⟩
    · obtain ⟨rfl, hlast⟩ := List.append_inj' hsplit rfl
      cases hlast
      exact .inr ⟨rfl, hposition, htoken⟩
    · left
      have hshort : arguments ++ [argument] =
          (before ++ found :: rest) ++ [last] := by
        rw [hsplit]
        simp
      exact ⟨hposition, found, rest, List.append_inj_left' hshort rfl, htoken⟩
  · rintro (⟨hposition, found, after, rfl, htoken⟩ |
      ⟨rfl, hposition, htoken⟩)
    · exact ⟨hposition, found, after ++ [argument], by simp, htoken⟩
    · exact ⟨hposition, argument, [], rfl, htoken⟩

/-- A field is set exactly by the tokens in option position that have its
name. -/
theorem readArguments_get {tokens arguments : List WString} {st : ParseState}
    (h : readArguments arguments (startState tokens) = .ok st)
    {field : BoolField} (hfield : field ∈ kBoolFields) :
    field.get st.options = true ↔
      ∃ before token, OptionAt arguments before token ∧
        field.named token = true := by
  induction arguments using List.reverseRecOn generalizing st with
  | nil =>
      cases h
      have hnone : ∀ field ∈ kBoolFields,
          field.get (startState tokens).options = false := by
        intro field hfield
        fin_cases hfield <;> rfl
      rw [hnone field hfield]
      constructor
      · nofun
      · rintro ⟨before, token, ⟨-, argument, after, hsplit, -⟩, -⟩
        exact absurd hsplit.symm (by simp)
  | append_singleton arguments argument ih =>
      obtain ⟨middle, hread, hstep⟩ := readArguments_snoc h
      rw [parseStep_get (readArguments_stands hread)
        (readArguments_listed hread) hstep hfield]
      simp only [Bool.or_eq_true, Bool.and_eq_true, decide_eq_true_eq,
        ih hread, optionAt_snoc]
      constructor
      · rintro (⟨hposition, hnamed⟩ | ⟨before, token, hat, hnamed⟩)
        · exact ⟨arguments, _, .inr ⟨rfl, hposition, rfl⟩, hnamed⟩
        · exact ⟨before, token, .inl hat, hnamed⟩
      · rintro ⟨before, token, hat | ⟨rfl, hposition, rfl⟩, hnamed⟩
        · exact .inr ⟨before, token, hat, hnamed⟩
        · exact .inl ⟨hposition, hnamed⟩

/-! ## Fields and their exact spellings -/

/-- A set field has one of its exact spellings in option position, and a
token `spelling=text` in option position leaves the field as it was. -/
structure SetBySpelling (arguments : List WString) (o : Options) : Prop where
  spelled : ∀ field ∈ kBoolFields, field.get o = true →
    ∃ before, ∃ spelling ∈ field.spellings,
      OptionAt arguments before spelling.toList
  unset : ∀ field ∈ kBoolFields, ∀ spelling ∈ field.spellings,
    ∀ before argument after text,
      arguments = before ++ argument :: after →
      positionAfter before = .option →
      toUtf8 argument = spelling.toList ++ '=' :: text →
      ∀ st st', readArguments before (startState arguments) = .ok st →
        readArguments (before ++ [argument]) (startState arguments) =
          .ok st' →
        field.get st'.options = field.get st.options

/-- Every token `spelling=text` in option position comes behind an exact
spelling of the same field. -/
def GivenBefore (arguments : List WString) : Prop :=
  ∀ field ∈ kBoolFields, ∀ spelling ∈ field.spellings, ∀ before text,
    OptionAt arguments before (spelling.toList ++ '=' :: text) →
    ∃ earlier, ∃ bare ∈ field.spellings,
      OptionAt before earlier bare.toList

section

variable {field : BoolField} {spelling : String}

theorem spelling_name (hfield : field ∈ kBoolFields)
    (hspelling : spelling ∈ field.spellings) : '=' ∉ spelling.toList := by
  have hall : ∀ spellings ∈ kBoolFields.map BoolField.spellings,
      ∀ spelling ∈ spellings, '=' ∉ spelling.toList := by
    decide
  exact hall _ (List.mem_map_of_mem hfield) spelling hspelling

theorem named_exact (hfield : field ∈ kBoolFields)
    (hspelling : spelling ∈ field.spellings) :
    field.named spelling.toList = true := by
  rw [field.named_eq (flagName_self (spelling_name hfield hspelling))]
  exact List.contains_iff_mem.mpr hspelling

theorem named_assigned (hfield : field ∈ kBoolFields)
    (hspelling : spelling ∈ field.spellings) (text : List Char) :
    field.named (spelling.toList ++ '=' :: text) = true := by
  rw [field.named_eq (flagName_joined (spelling_name hfield hspelling) text)]
  exact List.contains_iff_mem.mpr hspelling

/-- A token with the name of a field is an exact spelling of it, or one with
a text behind it. -/
theorem named_cases {token : List Char} (h : field.named token = true) :
    ∃ spelling ∈ field.spellings, token = spelling.toList ∨
      ∃ text, token = spelling.toList ++ '=' :: text := by
  rw [BoolField.named, List.contains_iff_mem, List.mem_map] at h
  obtain ⟨spelling, hspelling, hname⟩ := h
  refine ⟨spelling, hspelling, ?_⟩
  rw [hname]
  exact token_cases token

theorem OptionAt.mono {arguments before earlier after : List WString}
    {argument : WString} {token : List Char}
    (hsplit : arguments = before ++ argument :: after)
    (h : OptionAt before earlier token) : OptionAt arguments earlier token := by
  obtain ⟨hposition, found, rest, rfl, htoken⟩ := h
  refine ⟨hposition, found, rest ++ argument :: after, ?_, htoken⟩
  rw [hsplit]
  simp

theorem readArguments_prefix {arguments before after : List WString}
    {st last : ParseState} (hsplit : arguments = before ++ after)
    (h : readArguments arguments st = .ok last) :
    ∃ middle, readArguments before st = .ok middle := by
  subst hsplit
  cases hread : readArguments before st with
  | ok middle => exact ⟨middle, rfl⟩
  | error error =>
      rw [readArguments] at h hread
      rw [List.foldlM_append, hread] at h
      cases h

end

section

variable {arguments : List WString} {last : ParseState}

theorem GivenBefore.setBySpelling (h : GivenBefore arguments)
    (hread : readArguments arguments (startState arguments) = .ok last) :
    SetBySpelling arguments last.options := by
  constructor
  · intro field hfield hset
    obtain ⟨before, token, hat, hnamed⟩ :=
      (readArguments_get hread hfield).mp hset
    obtain ⟨spelling, hspelling, rfl | ⟨text, rfl⟩⟩ := named_cases hnamed
    · exact ⟨before, spelling, hspelling, hat⟩
    · obtain ⟨earlier, bare, hbare, hearlier⟩ :=
        h field hfield spelling hspelling before text hat
      obtain ⟨-, argument, after, hsplit, -⟩ := hat
      exact ⟨earlier, bare, hbare, hearlier.mono hsplit⟩
  · intro field hfield spelling hspelling before argument after text hsplit
      hposition htoken st st' hst hst'
    obtain ⟨earlier, bare, hbare, hearlier⟩ :=
      h field hfield spelling hspelling before text
        ⟨hposition, argument, after, hsplit, htoken⟩
    have hset : field.get st.options = true :=
      (readArguments_get hst hfield).mpr
        ⟨earlier, _, hearlier, named_exact hfield hbare⟩
    have hset' : field.get st'.options = true :=
      (readArguments_get hst' hfield).mpr
        ⟨earlier, _, hearlier.mono rfl, named_exact hfield hbare⟩
    rw [hset, hset']

/-- The first token that sets a field cannot be one with a text behind it. -/
theorem SetBySpelling.givenBefore {o : Options}
    (h : SetBySpelling arguments o)
    (hread : readArguments arguments (startState arguments) = .ok last) :
    GivenBefore arguments := by
  intro field hfield spelling hspelling before
  induction hlength : before.length using Nat.strong_induction_on
    generalizing before spelling with
  | _ length ih =>
      intro text hat
      obtain ⟨hposition, argument, after, hsplit, htoken⟩ := hat
      have hone : arguments = (before ++ [argument]) ++ after := by
        rw [hsplit]
        simp
      obtain ⟨st, hst⟩ := readArguments_prefix hsplit hread
      obtain ⟨st', hst'⟩ := readArguments_prefix hone hread
      have hset' : field.get st'.options = true :=
        (readArguments_get hst' hfield).mpr
          ⟨before, _, ⟨hposition, argument, [], rfl, htoken⟩,
            named_assigned hfield hspelling text⟩
      rw [h.unset field hfield spelling hspelling before argument after text
        hsplit hposition htoken st st' hst hst'] at hset'
      obtain ⟨earlier, token, hearlier, hnamed⟩ :=
        (readArguments_get hst hfield).mp hset'
      obtain ⟨bare, hbare, rfl | ⟨text', rfl⟩⟩ := named_cases hnamed
      · exact ⟨earlier, bare, hbare, hearlier⟩
      · have hshorter : earlier.length < length := by
          obtain ⟨-, found, rest, rfl, -⟩ := hearlier
          rw [← hlength]
          simp
        obtain ⟨first, bare', hbare', hfirst⟩ := ih earlier.length hshorter
          bare hbare earlier rfl text' (hearlier.mono hsplit)
        obtain ⟨-, found, rest, hsplit', -⟩ := hearlier
        exact ⟨first, bare', hbare', hfirst.mono hsplit'⟩

/-- The boolean options of an accepted command line are set by their own
spellings exactly when every token `spelling=text` comes behind an exact
spelling of the same option. -/
theorem parseOptions_setBySpelling_iff {program : WString} {o : Options}
    (h : parseOptions (program :: arguments) = .ok o) :
    SetBySpelling arguments o ↔ GivenBefore arguments := by
  obtain ⟨st, hread, -, rfl, -⟩ := parseOptions_ok h
  constructor
  · intro hset
    exact hset.givenBefore hread
  · intro hgiven
    exact hgiven.setBySpelling hread

end

theorem setBySpelling_fresh :
    parseOptions [wide "esptool", wide "connect", wide "--fresh"] =
        .ok { command := "connect", fresh := true
              tokens := [wide "connect", wide "--fresh"] } ∧
      SetBySpelling [wide "connect", wide "--fresh"]
        { command := "connect", fresh := true
          tokens := [wide "connect", wide "--fresh"] } := by
  have hparse : parseOptions [wide "esptool", wide "connect",
      wide "--fresh"] =
        .ok { command := "connect", fresh := true
              tokens := [wide "connect", wide "--fresh"] } := by
    rfl
  refine ⟨hparse, (parseOptions_setBySpelling_iff hparse).mpr ?_⟩
  -- no token has an equals sign
  have hplain : ∀ argument ∈ [wide "connect", wide "--fresh"],
      '=' ∉ toUtf8 argument := by
    decide
  intro field hfield spelling hspelling before text hat
  obtain ⟨-, argument, after, hsplit, htoken⟩ := hat
  have hargument := hplain argument (by rw [hsplit]; simp)
  exact absurd (by rw [htoken]; simp) hargument

/-- `--fresh=0` sets the option. -/
theorem setBySpelling_assigned :
    parseOptions [wide "esptool", wide "connect", wide "--fresh=0"] =
        .ok { command := "connect", fresh := true
              tokens := [wide "connect", wide "--fresh=0"] } ∧
      ¬ ∀ (program : WString) (arguments : List WString) (o : Options),
        parseOptions (program :: arguments) = .ok o →
        SetBySpelling arguments o := by
  have hparse : parseOptions [wide "esptool", wide "connect",
      wide "--fresh=0"] =
        .ok { command := "connect", fresh := true
              tokens := [wide "connect", wide "--fresh=0"] } := by
    rfl
  refine ⟨hparse, fun hall => ?_⟩
  have hfield : (⟨Options.fresh, ["--fresh"]⟩ : BoolField) ∈ kBoolFields := by
    simp [kBoolFields]
  obtain ⟨before, spelling, hspelling, -, argument, after, hsplit, htoken⟩ :=
    (hall _ _ _ hparse).spelled _ hfield rfl
  have hspelled : ∀ argument ∈ [wide "connect", wide "--fresh=0"],
      ∀ spelling ∈ ["--fresh"], toUtf8 argument ≠ spelling.toList := by
    decide
  exact hspelled argument (by rw [hsplit]; simp) spelling hspelling htoken

end Esptool.Process
