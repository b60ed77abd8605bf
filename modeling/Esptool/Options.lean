import Esptool.SessionClient

/-!
# Options of the command line

The options record, its parser and the validation at the end of the parse.
The parser is a loop over the arguments in which a flag can take the argument
after it for its value; `awaiting` is that flag.  Texts are converted from
UTF-16 before they are looked at.
-/

namespace Esptool.Cli

open Model Esp

def kDefaultDurationMs : ℕ := 5000
def kDefaultMaxNotifications : ℕ := 10

/-- The parsed command line. -/
structure Options where
  command : String := ""
  positional : List String := []
  dllPath : String := ""
  rulesPath : String := ""
  logPath : String := ""
  pipeName : String := kDefaultClientName
  serviceName : String := kDefaultClientName
  level : String := ""
  target : String := ""
  permission : String := ""
  guid : String := ""
  kind : String := ""
  pid : String := ""
  tid : String := ""
  path : String := ""
  fileId : String := ""
  volume : String := ""
  stream : String := ""
  objectName : String := ""
  eventId : String := ""
  properties : String := ""
  supported : String := ""
  durationMs : ℕ := kDefaultDurationMs
  maxNotifications : ℕ := kDefaultMaxNotifications
  collectionType : ℕ := 2
  collectionLifetime : ℕ := 1
  durationSet : Bool := false
  maxNotificationsSet : Bool := false
  collectionTypeSet : Bool := false
  isolated : Bool := false
  json : Bool := false
  help : Bool := false
  verbose : Bool := false
  noProvision : Bool := false
  noAutoProvision : Bool := false
  forceProvision : Bool := false
  forceHop : Bool := false
  noHop : Bool := false
  clearAttribute : Bool := false
  iocp : Bool := false
  enforceCompat : Bool := false
  bypassEventtype : Bool := false
  fresh : Bool := false
  worker : Bool := false
  all : Bool := false
  fromNotify : Bool := false
  duplicate : Bool := false
  contextSet : Bool := false
  contextEnum : Bool := false
  enumIds : Bool := false
  openCollection : Bool := false
  tokens : List WString := []
deriving DecidableEq

/-! ## Flags -/

structure StringFlag where
  flag : String
  set : String → Options → Options

def kStringFlags : List StringFlag := [
  ⟨"--dll", fun value o => { o with dllPath := value }⟩,
  ⟨"--rules", fun value o => { o with rulesPath := value }⟩,
  ⟨"--log", fun value o => { o with logPath := value }⟩,
  ⟨"--pipe", fun value o => { o with pipeName := value }⟩,
  ⟨"--service", fun value o => { o with serviceName := value }⟩,
  ⟨"--level", fun value o => { o with level := value }⟩,
  ⟨"--target", fun value o => { o with target := value }⟩,
  ⟨"--permission", fun value o => { o with permission := value }⟩,
  ⟨"--guid", fun value o => { o with guid := value }⟩,
  ⟨"--kind", fun value o => { o with kind := value }⟩,
  ⟨"--pid", fun value o => { o with pid := value }⟩,
  ⟨"--tid", fun value o => { o with tid := value }⟩,
  ⟨"--path", fun value o => { o with path := value }⟩,
  ⟨"--file-id", fun value o => { o with fileId := value }⟩,
  ⟨"--volume", fun value o => { o with volume := value }⟩,
  ⟨"--stream", fun value o => { o with stream := value }⟩,
  ⟨"--name", fun value o => { o with objectName := value }⟩,
  ⟨"--event-id", fun value o => { o with eventId := value }⟩,
  ⟨"--properties", fun value o => { o with properties := value }⟩,
  ⟨"--supported", fun value o => { o with supported := value }⟩]

structure BoolFlag where
  flag : String
  set : Options → Options

def kBoolFlags : List BoolFlag := [
  ⟨"--help", fun o => { o with help := true }⟩,
  ⟨"-h", fun o => { o with help := true }⟩,
  ⟨"--verbose", fun o => { o with verbose := true }⟩,
  ⟨"-v", fun o => { o with verbose := true }⟩,
  ⟨"--no-provision", fun o => { o with noProvision := true }⟩,
  ⟨"--no-auto-provision", fun o => { o with noAutoProvision := true }⟩,
  ⟨"--force-provision", fun o => { o with forceProvision := true }⟩,
  ⟨"--force-hop", fun o => { o with forceHop := true }⟩,
  ⟨"--no-hop", fun o => { o with noHop := true }⟩,
  ⟨"--clear-attribute", fun o => { o with clearAttribute := true }⟩,
  ⟨"--isolated", fun o => { o with isolated := true }⟩,
  ⟨"--json", fun o => { o with json := true }⟩,
  ⟨"--iocp", fun o => { o with iocp := true }⟩,
  ⟨"--enforce-compat", fun o => { o with enforceCompat := true }⟩,
  ⟨"--bypass-eventtype", fun o => { o with bypassEventtype := true }⟩,
  ⟨"--fresh", fun o => { o with fresh := true }⟩,
  ⟨"--all", fun o => { o with all := true }⟩,
  ⟨"--from-notify", fun o => { o with fromNotify := true }⟩,
  ⟨"--duplicate", fun o => { o with duplicate := true }⟩,
  ⟨"--context-set", fun o => { o with contextSet := true }⟩,
  ⟨"--context-enum", fun o => { o with contextEnum := true }⟩,
  ⟨"--enum-ids", fun o => { o with enumIds := true }⟩,
  ⟨"--open", fun o => { o with openCollection := true }⟩]

/-- A flag with a number; three of the four also note that it was given. -/
structure CountFlag where
  flag : String
  set : ℕ → Options → Options

def kCountFlags : List CountFlag := [
  ⟨"--duration", fun count o =>
    { o with durationMs := count, durationSet := true }⟩,
  ⟨"--max", fun count o =>
    { o with maxNotifications := count, maxNotificationsSet := true }⟩,
  ⟨"--type", fun count o =>
    { o with collectionType := count, collectionTypeSet := true }⟩,
  ⟨"--lifetime", fun count o => { o with collectionLifetime := count }⟩]

/-- An exact flag, or the `--flag=value` form. -/
def isFlag (token : List Char) (flag : String) : Bool :=
  token == flag.toList || (flag.toList ++ ['=']).isPrefixOf token

def findFlag {Flag : Type} (name : Flag → String) (flags : List Flag)
    (token : List Char) : Option Flag :=
  flags.find? fun entry => isFlag token (name entry)

/-- The value behind the first equals sign of a token. -/
def equalsValue (token : List Char) : Option String :=
  if '=' ∈ token then
    some (String.ofList ((token.dropWhile (· != '=')).drop 1))
  else none

def parseCount (value : String) : Option ℕ :=
  (Text.parseUnsigned value.toList).filter fun parsed => parsed ≤ 2 ^ 32 - 1

def looksLikeFlag (token : List Char) : Bool :=
  token.head? == some '-' && token != ['-']

/-! ## The loop -/

inductive Awaiting
  | string (entry : StringFlag)
  | count (entry : CountFlag)

def Awaiting.flag : Awaiting → String
  | .string entry => entry.flag
  | .count entry => entry.flag

structure ParseState where
  options : Options
  positionalOnly : Bool := false
  awaiting : Option Awaiting := none

/-- Store the value of a flag. -/
def ParseState.store (st : ParseState) (entry : Awaiting) (value : String) :
    Except String ParseState :=
  match entry with
  | .string entry =>
      .ok { st with options := entry.set value st.options, awaiting := none }
  | .count entry =>
      match parseCount value with
      | none =>
          .error ("invalid value for " ++ entry.flag ++ ": " ++ value)
      | some count =>
          .ok
            { st with
              options := entry.set count st.options
              awaiting := none }

/-- `TakeValue`: behind the equals sign, else from the next argument. -/
def ParseState.takeValue (st : ParseState) (entry : Awaiting)
    (token : List Char) : Except String ParseState :=
  match equalsValue token with
  | some value => st.store entry value
  | none => .ok { st with awaiting := some entry }

def ParseState.operand (st : ParseState) (token : List Char) : ParseState :=
  let text := String.ofList token
  if st.options.command = "" ∧ st.positionalOnly = false then
    { st with options := { st.options with command := text } }
  else
    { st with
      options :=
        { st.options with positional := st.options.positional ++ [text] } }

def parseFlag (st : ParseState) (token : List Char) :
    Except String ParseState :=
  match findFlag StringFlag.flag kStringFlags token with
  | some entry => st.takeValue (.string entry) token
  | none =>
      match findFlag BoolFlag.flag kBoolFlags token with
      | some entry => .ok { st with options := entry.set st.options }
      | none =>
          if token = "--worker".toList then
            .ok { st with options := { st.options with worker := true } }
          else
            match findFlag CountFlag.flag kCountFlags token with
            | some entry => st.takeValue (.count entry) token
            | none => .error ("unknown option: " ++ String.ofList token)

def parseStep (st : ParseState) (argument : WString) :
    Except String ParseState :=
  let token := Text.toUtf8 argument
  match st.awaiting with
  | some entry => st.store entry (String.ofList token)
  | none =>
      if st.positionalOnly then .ok (st.operand token)
      else if token = ['-', '-'] then .ok { st with positionalOnly := true }
      else if looksLikeFlag token then parseFlag st token
      else .ok (st.operand token)

/-- The loop over the arguments. -/
def readArguments (arguments : List WString) (st : ParseState) :
    Except String ParseState :=
  arguments.foldlM parseStep st

/-! ## The whole parse -/

def acceptsPermission (permission : String) : Bool :=
  permission == "" ||
    Text.equalsIgnoreCase permission.toList "full".toList ||
    Text.equalsIgnoreCase permission.toList "restricted".toList ||
    Text.equalsIgnoreCase permission.toList "abcd".toList ||
    (parseCount permission).isSome

def checkOptions (o : Options) : Except String Options :=
  if o.noProvision && o.forceProvision then
    .error "cannot specify both --no-provision and --force-provision"
  else if o.noProvision && o.permission != "" then
    .error "cannot specify both --no-provision and --permission"
  else if o.noHop && o.forceHop then
    .error "cannot specify both --no-hop and --force-hop"
  else if !acceptsPermission o.permission then
    .error ("invalid value for --permission: " ++ o.permission)
  else .ok o

def finishParse (st : ParseState) : Except String Options :=
  match st.awaiting with
  | some entry => .error ("missing value for " ++ entry.flag)
  | none => checkOptions st.options

/-- `ParseOptions`; the first element of `argv` is the program. -/
def parseOptions (argv : List WString) : Except String Options := do
  let arguments := argv.drop 1
  let st ← readArguments arguments { options := { tokens := arguments } }
  finishParse st

end Esptool.Cli
