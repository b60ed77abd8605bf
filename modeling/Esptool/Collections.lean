import Esptool.FilterBuild

/-!
# Installing the collections of a document

Every collection is opened or created in document order, and every entry of a
created collection is decoded and submitted on its own.  A bad entry or a
failed call does not stop the loop; it only makes the overall result false.
-/

namespace Esptool.Esp

open Model Interaction

def parseHexPairs : List Char → Option (List UInt8)
  | [] => some []
  | [_] => none
  | high :: low :: rest =>
      match Text.parseUnsigned ['0', 'x', high, low] with
      | none => none
      | some byte =>
          if byte > 255 then none
          else (parseHexPairs rest).map (UInt8.ofNat byte :: ·)

def parseHexBytes (text : List Char) : Option (List UInt8) :=
  let hex := text.filter fun ch =>
    !(ch == ' ' || ch == '\t' || ch == '\r' || ch == '\n' || ch == '-')
  if hex = [] ∨ hex.length % 2 ≠ 0 then none else parseHexPairs hex

/-- The update record of one entry text, or the warning its refusal leaves;
an over-long string is refused without one. -/
def collectionEntry (env : Env) (type : ℕ) (text : String) :
    Except (Option String) CollectionEntry :=
  if type = kCollectionTypeInteger then
    match Text.parseUnsigned text.toList with
    | none => .error (some "integer collection entry is not a number")
    | some parsed => .ok (.integer (Int.bmod parsed (2 ^ 64)))
  else if type = kCollectionTypeBinary then
    match parseHexBytes text.toList with
    | none => .error (some "binary collection entry is not hex")
    | some bytes => .ok (.binary (bytes.length % 2 ^ 32) bytes)
  else
    let expanded := env.expandFilterValue text
    if expanded = [] then .error (some "string collection entry is empty")
    else if expanded.length * 2 > kMaxUtf16Bytes then .error none
    else .ok (.string (expanded.length * 2) expanded)

def installEntry (env : Env) (collection : Handle) (type : ℕ)
    (text : String) : JournalM Bool :=
  match collectionEntry env type text with
  | .error none => pure false
  | .error (some message) => do
      warn message
      return false
  | .ok entry => do
      let reply ← ask env.respond (.updateCollection collection entry)
      record "EspUpdateCollection" reply.result
      return succeeded reply.result

def installEntries (env : Env) (collection : Handle) (type : ℕ) :
    List String → JournalM Bool
  | [] => pure true
  | text :: rest => do
      let ok ← installEntry env collection type text
      let restOk ← installEntries env collection type rest
      return ok && restOk

def openNamedCollection (env : Env) (client : Handle) (id : Guid) :
    JournalM (Option Handle) := do
  let resolved ← require env .openCollection
  if !resolved || client == 0 || id == Guid.null then
    return none
  let opened ← adopt env "EspOpenCollection" (.openCollection client id)
  match opened with
  | none => return none
  | some collection =>
      pushCollection collection
      return some collection

/-- One collection of the document: did it install without a failure, and its
handle, null when it was neither opened nor created. -/
def installCollection (env : Env) (client : Handle) (spec : CollectionSpec) :
    JournalM (Bool × Handle) :=
  if spec.open then
    if !spec.hasGuid || spec.guid == Guid.null then do
      warn "open collection requires a guid"
      return (false, 0)
    else do
      let opened ← openNamedCollection env client spec.guid
      return (opened.isSome, opened.getD 0)
  else do
    let created ← adopt env "EspCreateCollection"
      (.createCollection client spec.type kCollectionStringSubtype)
    match created with
    | none => return (false, 0)
    | some collection =>
        pushCollection collection
        let ok ← installEntries env collection spec.type spec.entries
        return (ok, collection)

/-- The loop over the document's collections, with the names it binds. -/
def installCollections (env : Env) (client : Handle) :
    List CollectionSpec → JournalM (Bool × List (String × Handle))
  | [] => pure (true, [])
  | spec :: rest => do
      let installed ← installCollection env client spec
      let others ← installCollections env client rest
      let bound :=
        if installed.2 ≠ 0 ∧ spec.name ≠ "" then [(spec.name, installed.2)]
        else []
      return (installed.1 && others.1, bound ++ others.2)

/-- `InstallDocumentCollections` on the journal: the result and the bindings
added to the named collections. -/
def documentCollections (env : Env) (client : Handle)
    (document : RuleDocument) :
    JournalM (Bool × List (String × Handle)) := do
  let hasCreate ← require env .createCollection
  let hasUpdate ← require env .updateCollection
  if !hasCreate || !hasUpdate || client == 0 then
    return (document.collections.isEmpty, [])
  installCollections env client document.collections

section

variable {env : Env}

theorem installEntries_script (collection : Handle) (type : ℕ)
    (entries : List String) :
    BuildScript env (installEntries env collection type entries) := by
  induction entries with
  | nil => exact .pure _
  | cons text rest ih =>
      refine .bind ?_ fun ok => .bind ih fun restOk => .pure _
      unfold installEntry
      split
      · exact .pure _
      · exact .bind (warn_scripted _) fun _ => .pure _
      · exact .bind (.ask _ rfl) fun _ =>
          .bind (record_scripted _ _) fun _ => .pure _

theorem openNamedCollection_script (client : Handle) (id : Guid) :
    BuildScript env (openNamedCollection env client id) := by
  refine .bind (require_scripted _) fun resolved => .ite (.pure _) ?_
  refine .bind (adopt_scripted _ rfl) fun opened => ?_
  cases opened with
  | none => exact .pure _
  | some collection => exact .bind (.note _) fun _ => .pure _

theorem installCollection_script (client : Handle) (spec : CollectionSpec) :
    BuildScript env (installCollection env client spec) := by
  refine .ite (.ite ?_ ?_) ?_
  · exact .bind (warn_scripted _) fun _ => .pure _
  · exact .bind (openNamedCollection_script _ _) fun _ => .pure _
  · refine .bind (adopt_scripted _ rfl) fun created => ?_
    cases created with
    | none => exact .pure _
    | some collection =>
        exact .bind (.note _) fun _ =>
          .bind (installEntries_script _ _ _) fun _ => .pure _

theorem installCollections_script (client : Handle)
    (specs : List CollectionSpec) :
    BuildScript env (installCollections env client specs) := by
  induction specs with
  | nil => exact .pure _
  | cons spec rest ih =>
      exact .bind (installCollection_script _ _) fun _ =>
        .bind ih fun _ => .pure _

theorem documentCollections_script (client : Handle)
    (document : RuleDocument) :
    BuildScript env (documentCollections env client document) := by
  refine .bind (require_scripted _) fun _ => ?_
  refine .bind (require_scripted _) fun _ => ?_
  exact .ite (.pure _) (installCollections_script _ _)

end

def installDocumentCollections (env : Env) (document : RuleDocument)
    (s : Session) : Bool × Session :=
  let installed := s.run (documentCollections env s.clientHandle document)
  (installed.1.1,
    { installed.2 with
      namedCollections := s.namedCollections ++ installed.1.2 })

end Esptool.Esp
