import Esptool.FilterAttach
import Esptool.Collections
import Esptool.Lib.Loops

/-!
# Installing the rules of a document

`InstallRules` runs in four phases: gates and collections, a loop that builds
a descriptor for every rule and creates it, a loop that submits every created
rule on its own and closes the ones the driver refuses, and a compaction of
the rule ledger.  The three sequences that the loops index together (update
entries, subrule anchors, the tail of the ledger) are kept apart as in the
source; `origins` is not in the source and says for which document position
an entry was made.
-/

namespace Esptool.Esp

open Model Interaction

inductive InstallStatus
  | failed
  | partial_
  | complete
deriving DecidableEq, Repr

/-! ## Selector resolution -/

def namedSelector (spec : RuleSpec) : ℕ :=
  actionSelectorForName spec.actionName (rawSelector spec.action)

def resolvedSelector (spec : RuleSpec) : ℕ :=
  spec.selectorOverride.getD (namedSelector spec)

def selectorConflict (spec : RuleSpec) : Bool :=
  spec.actionName != "" && spec.selectorOverride.isSome &&
    spec.selectorOverride != some (namedSelector spec)

def selectorConflictMessage (spec : RuleSpec) : String :=
  "rule '" ++ spec.label ++ "': selector " ++
    toString (spec.selectorOverride.getD 0) ++ " conflicts with action \"" ++
    spec.actionName ++ "\""

def notifySuppressMessage (spec : RuleSpec) : String :=
  "rule '" ++ spec.label ++
    "': selector 4 suppresses the queued notification and does not deny; " ++
    "use action=\"deny\" for enforcement"

/-- The raw spelling of selector 4 is called out. -/
def warnNotifySuppress (spec : RuleSpec) (s : Session) : Session :=
  if spec.actionName = "" ∧ resolvedSelector spec = kActionNotifySuppress then
    s.warn (notifySuppressMessage spec)
  else s

/-! ## The enforcing selector -/

/-- `EnsureEnforceCompatPatch`: attempted at most once, then cached. -/
def ensureEnforceCompatPatch (env : Env) (s : Session) : Bool × Session :=
  if s.enforceCompatPatchAttempted then (s.enforceCompatPatchOk, s)
  else
    let patched := s.run (ask env.respond .applyFromFfiCompatPatch)
    let ok := succeeded patched.1.result
    let recorded := (patched.2.run
      (record "ApplyFromFfiCompatPatch" (if ok then kOk else kFail))).2
    (ok,
      { recorded with
        enforceCompatPatchAttempted := true
        enforceCompatPatchOk := ok
        enforceCompatError := if ok then "" else env.patchError s.log })

def needsCompatMessage (spec : RuleSpec) : String :=
  "rule '" ++ spec.label ++ "': event type " ++ toString spec.eventType ++
    " needs the espclient.dll enforce-compat patch; re-run with " ++
    "--enforce-compat to install this deny rule"

def patchUnavailableMessage (spec : RuleSpec) (error : String) : String :=
  "rule '" ++ spec.label ++ "': the enforce-compat patch is unavailable (" ++
    error ++ "); refusing the deny rule"

def noModifyKindMessage (spec : RuleSpec) : String :=
  "rule '" ++ spec.label ++ "': event type " ++ toString spec.eventType ++
    " has no event modify kind; the enforcing action is unavailable " ++
    "for this event type"

def noPayloadMessage (spec : RuleSpec) : String :=
  "rule '" ++ spec.label ++
    "': the enforcing action is unavailable for event type " ++
    toString spec.eventType ++
    " (no enforce-capable driver bit or no DENY callback)"

/-- The modify kind of an enforcing rule, or `none` when a gate refuses it:
compat types need the opt-in and a working patch, other types need a kind of
their own. -/
def enforceModifyKind (env : Env) (spec : RuleSpec) (s : Session) :
    Option ℕ × Session :=
  if isEnforceCompatEventType spec.eventType then
    if !s.enforceCompat then (none, s.warn (needsCompatMessage spec))
    else
      let patch := ensureEnforceCompatPatch env s
      if !patch.1 then
        (none, patch.2.warn
          (patchUnavailableMessage spec patch.2.enforceCompatError))
      else (some kEventModifyKindFoCreate, patch.2)
  else if eventModifyKindForEvent spec.eventType = 0 then
    (none, s.warn (noModifyKindMessage spec))
  else (some (eventModifyKindForEvent spec.eventType), s)

def enforceDescriptor (spec : RuleSpec) (kind : ℕ)
    (descriptor : RuleDescriptor) : RuleDescriptor :=
  { descriptor with
    eventQueue := spec.modifyKindOverride.getD kind
    eventModifyCount := kind
    eventModifySize := kEventModifyAccessMaskBytes
    eventModifyPtr := some { entries := [{}] } }

/-! ## Building one rule -/

structure BuildState where
  session : Session
  entries : List RuleUpdateEntry := []
  origins : List ℕ := []
  subruleAnchors : List Handle := []
  allOk : Bool := true

def BuildState.refuse (st : BuildState) (s : Session) : BuildState :=
  { st with session := s, allOk := false }

def baseDescriptor (spec : RuleSpec) : RuleDescriptor :=
  { lifetime := spec.modifierOverride.getD (lifetimeToFfi spec)
    flags := spec.flags
    eventType := spec.eventType
    actionSelector := resolvedSelector spec }

def kEmptySubruleArray : List Handle := [0]

/-- A match-subrules descriptor chains to the newest rule of the session. -/
def subruleDescriptor (rules : List Handle) (descriptor : RuleDescriptor) :
    RuleDescriptor :=
  match rules.getLast? with
  | none =>
      { descriptor with
        eventQueue := 0, subruleArray := some kEmptySubruleArray }
  | some predecessor =>
      { descriptor with eventQueue := 1, subruleArray := some [predecessor] }

/-- The anchor of a match-subrules entry: its predecessor when that was made
by the same call, else null. -/
def subruleAnchor (rulesBefore : ℕ) (st : BuildState) : Handle :=
  if st.session.rules.length > rulesBefore then
    (st.entries.getLast?.map (·.rule)).getD 0
  else 0

/-- The descriptor of a rule up to its filter, and the anchor of its entry;
`none` when an enforcing gate refuses the rule. -/
def describeRule (env : Env) (rulesBefore : ℕ) (st : BuildState)
    (spec : RuleSpec) (s : Session) :
    Option (RuleDescriptor × Handle) × Session :=
  let descriptor := baseDescriptor spec
  let selector := resolvedSelector spec
  if selector = kActionRewrite then
    let gate := enforceModifyKind env spec s
    match gate.1 with
    | none => (none, gate.2)
    | some kind =>
        if !supportsEnforcePayload spec.eventType then
          (none, gate.2.warn (noPayloadMessage spec))
        else (some (enforceDescriptor spec kind descriptor, 0), gate.2)
  else if selector = kActionMatchSubrules then
    (some (subruleDescriptor s.rules descriptor,
      subruleAnchor rulesBefore { st with session := s }), s)
  else if selector = kActionQueueBacked then
    (some ({ descriptor with eventQueue := s.queueHandle }, 0), s)
  else (some (descriptor, 0), s)

def attachRule (env : Env) (spec : RuleSpec) (filter : Handle)
    (descriptor : RuleDescriptor) (s : Session) : RuleDescriptor × Session :=
  s.run (attachFilterToDescriptor env s.filterContext descriptor spec filter)

def createRule (env : Env) (st : BuildState) (index : ℕ) (spec : RuleSpec)
    (filter : Handle) (descriptor : RuleDescriptor) (anchor : Handle)
    (s : Session) : BuildState :=
  let attached := attachRule env spec filter descriptor s
  let reply := attached.2.run (ask env.respond (.createRule attached.1))
  let s := (reply.2.run
    (record ("EspCreateRule:" ++ spec.label) reply.1.result)).2
  if failed reply.1.result || reply.1.out == 0 then st.refuse s
  else
    { st with
      session := { s with rules := s.rules ++ [reply.1.out] }
      entries := st.entries ++ [{ rule := reply.1.out }]
      origins := st.origins ++ [index]
      subruleAnchors := st.subruleAnchors ++ [anchor] }

def filterRule (env : Env) (st : BuildState) (spec : RuleSpec)
    (index : ℕ) : Option Handle × Session :=
  let s := st.session.atRule (some index)
  s.run (tryBuildRuleFilter env s.filterContext spec)

def buildRule (env : Env) (rulesBefore : ℕ) (st : BuildState)
    (rule : RuleSpec × ℕ) : BuildState :=
  let spec := rule.1
  if spec.eventType = 0 then
    st.refuse ((st.session.atRule (some rule.2)).warn
      ("rule has no event type: " ++ spec.label))
  else
    let filtered := filterRule env st spec rule.2
    match filtered.1 with
    | none => st.refuse filtered.2
    | some filter =>
        if selectorConflict spec then
          st.refuse (filtered.2.warn (selectorConflictMessage spec))
        else
          let described := describeRule env rulesBefore st spec
            (warnNotifySuppress spec filtered.2)
          match described.1 with
          | none => st.refuse described.2
          | some (descriptor, anchor) =>
              createRule env st rule.2 spec filter descriptor anchor
                described.2

def buildRules (env : Env) (document : RuleDocument) (s : Session) :
    BuildState :=
  document.rules.zipIdx.foldl (buildRule env s.rules.length) { session := s }

/-! ## Submitting -/

def submitRuleBatch (env : Env) (client : Handle)
    (entries : List RuleUpdateEntry) : JournalM Bool := do
  let resolved ← require env .updateRules
  if !resolved then
    return false
  let reply ← ask env.respond (.updateRules client entries)
  record "EspUpdateRules" reply.result
  return succeeded reply.result

structure SubmitState where
  session : Session
  committed : ℕ := 0
  refusedAtSubmit : ℕ := 0
  rejectedHandles : List Handle := []

structure Pending where
  entry : RuleUpdateEntry
  origin : ℕ
  anchor : Handle
deriving DecidableEq, Repr

/-- The parallel sequences of the build loop, read at the same index. -/
def BuildState.pending (st : BuildState) : List Pending :=
  (st.entries.zip (st.origins.zip st.subruleAnchors)).map
    fun p => ⟨p.1, p.2.1, p.2.2⟩

/-- The submission of one created rule: refused outright when its anchor was
rejected before. -/
def submitPending (env : Env) (client : Handle)
    (rejectedHandles : List Handle) (pending : Pending) : JournalM Bool :=
  if pending.anchor != 0 && rejectedHandles.contains pending.anchor then
    pure false
  else submitRuleBatch env client [pending.entry]

def closeRefused (env : Env) (canClose : Bool) (handle : Handle) :
    JournalM Unit :=
  if handle ≠ 0 ∧ canClose then do
    let _ ← ask env.respond (.closeRule handle)
  else pure ()

def closeLedgerSlot (env : Env) (canClose : Bool) (slot : ℕ) (s : Session) :
    Session :=
  let closed := (s.run (closeRefused env canClose (s.rules.getD slot 0))).2
  { closed with rules := closed.rules.set slot 0 }

def submitEntry (env : Env) (canClose : Bool) (rulesBefore : ℕ)
    (st : SubmitState) (pending : Pending × ℕ) : SubmitState :=
  let s := st.session.atRule (some pending.1.origin)
  let submitted := s.run
    (submitPending env s.clientHandle st.rejectedHandles pending.1)
  if submitted.1 then
    { st with session := submitted.2, committed := st.committed + 1 }
  else
    { session :=
        closeLedgerSlot env canClose (rulesBefore + pending.2) submitted.2
      committed := st.committed
      refusedAtSubmit := st.refusedAtSubmit + 1
      rejectedHandles := st.rejectedHandles ++ [pending.1.entry.rule] }

def submitRules (env : Env) (rulesBefore : ℕ) (pending : List Pending)
    (s : Session) : SubmitState :=
  let resolved := s.run (require env .closeRule)
  pending.zipIdx.foldl (submitEntry env resolved.1 rulesBefore)
    { session := resolved.2 }

def compactRules (rulesBefore : ℕ) (st : SubmitState) : Session :=
  if st.refusedAtSubmit ≠ 0 then
    { st.session with
      rules := Loops.compactFrom (· != 0) rulesBefore st.session.rules }
  else st.session

/-! ## The whole install -/

def proceed (gate : Bool × Session) (next : Session → Bool × Session) :
    Bool × Session :=
  match gate with
  | (false, s) => (false, s)
  | (true, s) => next s

def gate (refuses : Bool) (message : String) (s : Session) :
    Bool × Session :=
  match refuses with
  | true => (false, s.warn message)
  | false => (true, s)

def connectedGate (document : RuleDocument) (s : Session) :
    Bool × Session :=
  gate (s.clientHandle == 0 || document.rules.isEmpty)
    "InstallRules requires a connected client and at least one rule" s

def queueGate (document : RuleDocument) (s : Session) : Bool × Session :=
  gate (document.rules.any (fun spec =>
      resolvedActionNeedsQueue spec.action spec.actionName
        spec.selectorOverride) && s.queueHandle == 0)
    "InstallRules requires a created queue for queue-backed rules" s

def collectionsGate (env : Env) (document : RuleDocument) (s : Session) :
    Bool × Session :=
  let collections := installDocumentCollections env document
    { s with notifyQueries := [], namedCollections := [] }
  match collections.1 with
  | false => (false, collections.2.warn "InstallDocumentCollections failed")
  | true => (true, collections.2)

/-- Gates and collections: may the build loop run. -/
def installPrologue (env : Env) (document : RuleDocument) (s : Session) :
    Bool × Session :=
  proceed (connectedGate document s) fun s =>
  proceed (queueGate document s) fun s =>
  proceed (s.run (require env .createRule)) fun s =>
  proceed (s.run (require env .updateRules)) fun s =>
  proceed (collectionsGate env document s) fun s =>
    (true,
      { s with
        notifyQueries := document.rules.flatMap fun spec =>
          spec.queries.map fun recipe => (spec.eventType, recipe) })

def installVerdict (built : BuildState) (submitted : SubmitState) :
    InstallStatus :=
  if submitted.committed = 0 then .failed
  else if built.allOk && submitted.refusedAtSubmit == 0 then .complete
  else .partial_

def installRules (env : Env) (document : RuleDocument) (s : Session) :
    InstallStatus × Session :=
  let prologue := installPrologue env document (s.atRule none)
  if !prologue.1 then (.failed, prologue.2)
  else
    let built := buildRules env document prologue.2
    if built.entries.isEmpty then (.failed, built.session.atRule none)
    else
      let submitted := submitRules env prologue.2.rules.length built.pending
        (built.session.atRule none)
      (installVerdict built submitted,
        (compactRules prologue.2.rules.length submitted).atRule none)

def installAll (env : Env) (documents : List RuleDocument) (s : Session) :
    Session :=
  documents.foldl (fun s document => (installRules env document s).2) s

def documentRequiresEnforceCompat (document : RuleDocument) : Bool :=
  document.rules.any fun spec =>
    resolvedSelector spec == kActionRewrite &&
      isEnforceCompatEventType spec.eventType

end Esptool.Esp
