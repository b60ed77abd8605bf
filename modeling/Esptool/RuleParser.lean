import Esptool.EventIds
import Esptool.FilterAbi
import Esptool.RuleDocument
import Esptool.Text

/-!
# The rule parser

An event loop over the nodes that the XML reader delivers.  The reader is
outside the tool: it is given by the nodes it reports and by how it stopped.
An element that is written as empty has no end node.

The rule and the collection that are open are always the last ones of their
lists, so the two pointers of the loop are flags here.  The document of a
failed parse is not kept.
-/

namespace Esptool.Model

open Text Esp

structure XmlTag where
  name : String
  attributes : List (String × String) := []
  line : ℕ := 0
deriving DecidableEq, Repr

inductive XmlEvent
  | element (tag : XmlTag) (isEmpty : Bool)
  | endElement (name : String) (line : ℕ)
  | text (value : String)
  | other
deriving DecidableEq, Repr

/-- What the reader delivers for one text; `finished` when it stopped at the
end of a well-formed document. -/
structure XmlStream where
  events : List XmlEvent
  finished : Bool

def kMaxDepth : ℕ := 16

def makeError (message : String) (line : ℕ) : String :=
  if line = 0 then message
  else message ++ " (line " ++ toString line ++ ")"

/-! ## Attributes -/

abbrev Attributes := List (String × String)

namespace Attributes

/-- Attribute names are compared in lower case. -/
def collect (tag : XmlTag) : Attributes :=
  tag.attributes.map fun item => (toLowerAscii item.1, item.2)

def find (attributes : Attributes) (name : String) : Option String :=
  attributes.lookup name

def get (attributes : Attributes) (name : String) (fallback : String := "") :
    String :=
  (attributes.find name).getD fallback

end Attributes

def parseUnsigned64 (text : String) : Option ℕ :=
  parseUnsigned text.toList

def parseUnsigned32 (text : String) : Option ℕ :=
  match parseUnsigned text.toList with
  | none => none
  | some parsed => if parsed > 2 ^ 32 - 1 then none else some parsed

def parseSigned32 (text : String) : Option ℤ :=
  match text.toList with
  | [] => none
  | '-' :: body =>
      match parseUnsigned body with
      | none => none
      | some parsed => if parsed > 2 ^ 31 then none else some (-parsed)
  | body =>
      match parseUnsigned body with
      | none => none
      | some parsed => if parsed > 2 ^ 31 - 1 then none else some parsed

def sameText (left right : String) : Bool :=
  equalsIgnoreCase left.toList right.toList

def orError {α : Type} (parsed : Option α) (message : String) (line : ℕ) :
    Except String α :=
  match parsed with
  | none => .error (makeError message line)
  | some parsed => .ok parsed

/-- An attribute that may be missing, but has to parse when it is there. -/
def optionalAttribute {α : Type} (parse : String → Option α)
    (attributes : Attributes) (name message : String) (line : ℕ) :
    Except String (Option α) :=
  match attributes.find name with
  | none => .ok none
  | some value => (orError (parse value) message line).map some

/-- Any other event name becomes 0 and is not a parse error. -/
def eventTypeFromName (name : String) : ℕ :=
  if sameText name "processcreate" then kEventProcessCreate
  else if sameText name "filecreate" || sameText name "fo_create" then
    kEventFoCreate
  else if sameText name "regcreatekey" then kEventRegCreateKey
  else 0

def parseLifetime (lifetime : String) : Option RuleLifetime :=
  if lifetime = "" then some .transient
  else if sameText lifetime "persistent" then some .persistent
  else if sameText lifetime "transient" then some .transient
  else none

/-- A numeric action is the raw selector; the two named ones carry
enforcement semantics. -/
def parseAction (value : String) : Option (ℕ × String) :=
  match parseUnsigned64 value with
  | some action => some (action, "")
  | none =>
      if value = "deny" ∨ value = "suppress" then some (0, value) else none

def parseDisposition (value : String) : Option ℕ :=
  if sameText value "access_denied" || sameText value "denied" ||
      sameText value "accessdenied" then some 2
  else if sameText value "not_found" || sameText value "notfound" then some 3
  else if sameText value "virus" || sameText value "virus_infected" then some 1
  else
    match parseUnsigned32 value with
    | none => none
    | some disp => if disp < 1 ∨ disp > 5 then none else some disp

def parseRuleAttributes (attributes : Attributes) (line : ℕ) :
    Except String RuleSpec := do
  let eventName := attributes.get "event"
  let eventType ← optionalAttribute parseUnsigned32 attributes "eventtype"
    "rule eventType is not a number" line
  let lifetime ← orError (parseLifetime (attributes.get "lifetime"))
    "rule lifetime must be persistent or transient" line
  let flags ← optionalAttribute parseUnsigned32 attributes "flags"
    "rule flags is not a number" line
  let action ← optionalAttribute parseAction attributes "action"
    ("rule action is not a number or a known action name " ++
      "(deny, suppress)") line
  let selector ← optionalAttribute parseUnsigned32 attributes "selector"
    "rule selector is not a number" line
  let modifier ← optionalAttribute parseUnsigned32 attributes "modifier"
    "rule modifier is not a number" line
  let modifyKind ← optionalAttribute parseUnsigned32 attributes "modifykind"
    "rule modifyKind is not a number" line
  let disposition ← optionalAttribute parseDisposition attributes
    "disposition"
    ("rule disposition must be access_denied, not_found, virus, or a " ++
      "number 1..5") line
  return {
    name := attributes.get "name"
    eventName := eventName
    eventType := eventType.getD
      (if eventName = "" then 0 else eventTypeFromName eventName)
    lifetime := lifetime
    flags := flags.getD 0
    action := (action.map Prod.fst).getD 0
    actionName := (action.map Prod.snd).getD ""
    selectorOverride := selector
    modifierOverride := modifier
    modifyKindOverride := disposition <|> modifyKind }

def parseLeafAttributes (attributes : Attributes) (line : ℕ) :
    Except String FilterNode := do
  let type ← optionalAttribute parseSigned32 attributes "type"
    "filter type is not a number" line
  let comparand ← optionalAttribute parseSigned32 attributes "comparand"
    "filter comparand is not a number" line
  let operand ← optionalAttribute parseUnsigned64 attributes "operand"
    "filter operand is not a number" line
  let property ← optionalAttribute parseUnsigned32 attributes "property"
    "filter property is not a number" line
  let collectionName := attributes.get "collection"
  return {
    kind := .leaf
    type := type.getD 0
    comparand :=
      if collectionName ≠ "" ∧ comparand.getD 0 = 0 then
        kStringComparandCollection
      else comparand.getD 0
    operand := operand.getD 0
    propertyId := property.getD 0
    propertyName := attributes.get "propertyname"
    opName := attributes.get "op"
    value := attributes.get "value"
    collectionName := collectionName }

def canonicalQueryKind (kind : String) : String :=
  if kind = "process-token" ∨ kind = "thread-token" then "token"
  else if kind = "stream" then "filestream"
  else kind

def supportExports : List (String × String) :=
  [("client", "EspIsClientPropertySupported"),
    ("desktop", "EspIsDesktopPropertySupported"),
    ("disk", "EspIsDiskPropertySupported"),
    ("event", "EspIsEventPropertySupported"),
    ("fileobject", "EspIsFileObjectPropertySupported"),
    ("file", "EspIsFilePropertySupported"),
    ("filestream", "EspIsFileStreamPropertySupported"),
    ("ktm", "EspIsKtmTransactionPropertySupported"),
    ("mailslot", "EspIsMailslotPropertySupported"),
    ("pipe", "EspIsPipePropertySupported"),
    ("process", "EspIsProcessPropertySupported"),
    ("registry-key-object", "EspIsRegistryKeyObjectPropertySupported"),
    ("registry", "EspIsRegistryKeyPropertySupported"),
    ("thread", "EspIsThreadPropertySupported"),
    ("token", "EspIsTokenPropertySupported"),
    ("volume", "EspIsVolumePropertySupported")]

def supportExportForKind (kind : String) : Option String :=
  supportExports.lookup (canonicalQueryKind kind)

def parseCsvUnsigned (text : String) (line : ℕ) : Except String (List ℕ) :=
  (split text.toList ',').mapM fun part =>
    orError (parseUnsigned32 (String.ofList part))
      "query properties must be unsigned integers" line

def parseQueryAttributes (attributes : Attributes) (line : ℕ) :
    Except String QueryRecipe := do
  let kind := toLowerAscii (attributes.get "kind")
  if kind = "" then
    .error (makeError "query kind is required" line)
  else if (supportExportForKind kind).isNone then
    .error (makeError "query kind is not recognized" line)
  else
    let properties ← parseCsvUnsigned (attributes.get "properties") line
    let tokens :=
      split (toLowerAscii (attributes.get "context")).toList ','
    if tokens.all fun token =>
        token == "set".toList || token == "enum".toList then
      return {
        kind := kind
        properties := properties
        contextSet := tokens.any (· == "set".toList)
        contextEnum := tokens.any (· == "enum".toList) }
    else
      .error (makeError "query context must be set, enum, or both" line)

def parseCollectionType (text : String) : Option ℕ :=
  if text = "" ∨ sameText text "string" ∨ text = "2" then some 2
  else if sameText text "integer" ∨ text = "1" then some 1
  else if sameText text "binary" ∨ text = "3" then some 3
  else none

/-- An empty GUID text counts as a missing one. -/
def parseGuidAttribute (attributes : Attributes) (message : String)
    (line : ℕ) : Except String (Option Guid) :=
  let guid := attributes.get "guid"
  if guid = "" then .ok none
  else (orError (parseGuid guid.toList) message line).map some

def parseCollectionAttributes (attributes : Attributes) (line : ℕ) :
    Except String CollectionSpec := do
  let type ← orError (parseCollectionType (attributes.get "type"))
    "collection type must be integer, string, or binary" line
  let openText := toLowerAscii (attributes.get "open")
  let opened := openText == "true" || openText == "1"
  let guid ← parseGuidAttribute attributes
    "collection guid is not a valid GUID" line
  if opened && guid.isNone then
    .error (makeError "open=\"true\" requires guid" line)
  else
    return {
      name := attributes.get "name"
      type := type
      «open» := opened
      guid := guid.getD Guid.null
      hasGuid := guid.isSome }

def parseClient (attributes : Attributes) (client : ClientSpec) (line : ℕ) :
    Except String ClientSpec := do
  let guid ← parseGuidAttribute attributes "client guid is not a valid GUID"
    line
  return {
    name := attributes.get "name" client.name
    altitude := attributes.get "altitude" client.altitude
    guid := guid.getD client.guid
    hasGuid := guid.isSome || client.hasGuid }

/-! ## The event loop -/

inductive ElementKind
  | root
  | client
  | rule
  | collections
  | collection
  | entry
  | query
  | filter
  | combinator (kind : FilterKind)
  | unknown
deriving DecidableEq, Repr

def kDocumentRoot : String := "esptool"

def filterKindFromTag (name : String) : Option FilterKind :=
  if name = "and" then some .and
  else if name = "or" then some .or
  else if name = "xor" then some .xor
  else if name = "not" then some .not
  else none

/-- The kind of an element by its local name, in lower case. -/
def elementKind (localName : String) : ElementKind :=
  let name := toLowerAscii localName
  if name = kDocumentRoot then .root
  else if name = "client" then .client
  else if name = "rule" then .rule
  else if name = "collections" then .collections
  else if name = "collection" then .collection
  else if name = "entry" then .entry
  else if name = "query" then .query
  else if name = "filter" then .filter
  else
    match filterKindFromTag name with
    | some kind => .combinator kind
    | none => .unknown

/-- The combinators that are open, innermost first, and the top-level
predicates of the open rule. -/
structure Predicates where
  stack : List FilterNode := []
  roots : List FilterNode := []

def Predicates.append (predicates : Predicates) (node : FilterNode) :
    Predicates :=
  match predicates.stack with
  | [] => { predicates with roots := predicates.roots ++ [node] }
  | top :: rest =>
      { predicates with
        stack := { top with children := top.children ++ [node] } :: rest }

structure ParserState where
  document : RuleDocument := {}
  predicates : Predicates := {}
  currentRule : Bool := false
  currentCollection : Bool := false
  inEntry : Bool := false
  entryText : String := ""
  sawRoot : Bool := false
  rootClosed : Bool := false

/-- Change the last element, the one a pointer to `back()` denotes. -/
def onLast {α : Type} (change : α → α) : List α → List α
  | [] => []
  | [last] => [change last]
  | head :: next :: rest => head :: onLast change (next :: rest)

def RuleDocument.onRule (document : RuleDocument)
    (change : RuleSpec → RuleSpec) : RuleDocument :=
  { document with rules := onLast change document.rules }

def RuleDocument.addEntry (document : RuleDocument) (entry : String) :
    RuleDocument :=
  { document with
    collections := onLast
      (fun spec => { spec with entries := spec.entries ++ [entry] })
      document.collections }

/-- Several top-level predicates become one conjunction. -/
def finalizeRule (roots : List FilterNode) : FilterNode :=
  match roots with
  | [] => {}
  | [only] => only
  | roots => { kind := .and, children := roots }

def ParserState.finishRule (st : ParserState) : ParserState :=
  { st with
    document := st.document.onRule fun rule =>
      { rule with filter := finalizeRule st.predicates.roots }
    currentRule := false }

def openRule (st : ParserState) (attributes : Attributes) (line : ℕ)
    (isEmpty : Bool) : Except String ParserState :=
  if st.currentRule then
    .error (makeError "<rule> cannot be nested" line)
  else do
    let rule ← parseRuleAttributes attributes line
    let opened : ParserState :=
      { st with
        document :=
          { st.document with rules := st.document.rules ++ [rule] }
        predicates := {}
        currentRule := true }
    return if isEmpty then opened.finishRule else opened

def openCollection (st : ParserState) (attributes : Attributes) (line : ℕ)
    (isEmpty : Bool) : Except String ParserState :=
  if st.currentRule then
    .error (makeError "<collection> cannot appear inside <rule>" line)
  else do
    let spec ← parseCollectionAttributes attributes line
    return { st with
      document :=
        { st.document with collections := st.document.collections ++ [spec] }
      currentCollection := !isEmpty }

def openEntry (st : ParserState) (line : ℕ) (isEmpty : Bool) :
    Except String ParserState :=
  if !st.currentCollection then
    .error (makeError "<entry> must appear inside <collection>" line)
  else if isEmpty then
    .ok { st with
      document := st.document.addEntry ""
      inEntry := false
      entryText := "" }
  else
    .ok { st with inEntry := true, entryText := "" }

def openQuery (st : ParserState) (attributes : Attributes) (line : ℕ) :
    Except String ParserState :=
  if !st.currentRule then
    .error (makeError "<query> must appear inside <rule>" line)
  else do
    let recipe ← parseQueryAttributes attributes line
    return { st with
      document := st.document.onRule fun rule =>
        { rule with queries := rule.queries ++ [recipe] } }

def openFilter (st : ParserState) (attributes : Attributes) (line : ℕ) :
    Except String ParserState :=
  if !st.currentRule then
    .error (makeError "<filter> must appear inside <rule>" line)
  else do
    let leaf ← parseLeafAttributes attributes line
    return { st with predicates := st.predicates.append leaf }

def openCombinator (st : ParserState) (kind : FilterKind) (name : String)
    (line : ℕ) (isEmpty : Bool) : Except String ParserState :=
  if !st.currentRule then
    .error (makeError ("<" ++ name ++ "> must appear inside <rule>") line)
  else if st.predicates.stack.length ≥ kMaxDepth then
    .error (makeError "filter nesting is too deep" line)
  else if isEmpty then
    .ok { st with predicates := st.predicates.append { kind := kind } }
  else
    .ok { st with
      predicates :=
        { st.predicates with
          stack := { kind := kind } :: st.predicates.stack } }

def openElement (st : ParserState) (tag : XmlTag) (isEmpty : Bool) :
    Except String ParserState :=
  let attributes := Attributes.collect tag
  if !st.sawRoot then
    if elementKind tag.name = .root then .ok { st with sawRoot := true }
    else .error (makeError "root element must be <esptool>" tag.line)
  else
    match elementKind tag.name with
    | .client => do
        let client ← parseClient attributes st.document.client tag.line
        return { st with document := { st.document with client := client } }
    | .rule => openRule st attributes tag.line isEmpty
    | .collections =>
        if st.currentRule then
          .error (makeError "<collections> cannot appear inside <rule>"
            tag.line)
        else .ok st
    | .collection => openCollection st attributes tag.line isEmpty
    | .entry => openEntry st tag.line isEmpty
    | .query => openQuery st attributes tag.line
    | .filter => openFilter st attributes tag.line
    | .combinator kind =>
        openCombinator st kind (toLowerAscii tag.name) tag.line isEmpty
    | .root => .ok st
    | .unknown => .ok st

def closeElement (st : ParserState) (name : String) (line : ℕ) :
    Except String ParserState :=
  match elementKind name with
  | .combinator _ =>
      match st.predicates.stack with
      | [] => .error
          (makeError ("mismatched </" ++ toLowerAscii name ++ ">") line)
      | node :: rest =>
          .ok { st with
            predicates := { st.predicates with stack := rest }.append node }
  | .rule =>
      if st.currentRule then
        let finished := st.finishRule
        .ok { finished with
          predicates := { finished.predicates with roots := [] } }
      else .ok st
  | .entry =>
      .ok { st with
        document :=
          if st.currentCollection && st.inEntry then
            st.document.addEntry st.entryText
          else st.document
        inEntry := false
        entryText := "" }
  | .collection => .ok { st with currentCollection := false }
  | .root => .ok { st with rootClosed := true }
  | _ => .ok st

def parserStep (st : ParserState) : XmlEvent → Except String ParserState
  | .element tag isEmpty => openElement st tag isEmpty
  | .endElement name line => closeElement st name line
  | .text value =>
      if st.inEntry then .ok { st with entryText := st.entryText ++ value }
      else .ok st
  | .other => .ok st

def parserRun : List XmlEvent → ParserState → Except String ParserState
  | [], st => .ok st
  | event :: events, st => do
      let next ← parserStep st event
      parserRun events next

def parseStream (stream : XmlStream) : ParseOutcome :=
  match parserRun stream.events {} with
  | .error error => { error := error }
  | .ok st =>
      if !st.sawRoot then { error := "the rule document is empty" }
      else if !stream.finished then
        { error := "the XML document is not well formed" }
      else if !st.rootClosed then
        { error := "the <esptool> root element is not closed" }
      else if st.currentRule then
        { error := "unterminated <rule> element" }
      else { ok := true, document := st.document }

/-- `ParseRuleText`; `xmlReader` is the XML library on the text, or the error
of setting it up. -/
def parseRuleText (xmlReader : List UInt8 → Except String XmlStream)
    (utf8Text : List UInt8) : ParseOutcome :=
  match xmlReader utf8Text with
  | .error error => { error := error }
  | .ok stream => parseStream stream

end Esptool.Model
