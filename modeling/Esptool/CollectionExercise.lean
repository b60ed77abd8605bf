import Esptool.ClientHandles
import Esptool.CollectionLedger
import Esptool.EspRefs

/-!
# The collection exercises and the runs of a session

`ExerciseCollections` closes the collection that it made and then drops the
whole ledger.  Whatever else was filed is lost: `Disconnect` does not find it
any more.  The books of a run keep what was dropped, so that they say exactly
which runs close every collection.
-/

namespace Esptool.Esp

open Model Interaction Custody

def kCollectionLifetimeMin : ℤ := 1
def kCollectionLifetimeMax : ℤ := 3

/-- A wide literal of the source. -/
def wideText (text : String) : WString :=
  text.toList.map fun c => UInt16.ofNat c.toNat

/-- One recorded call on the collection behind a lookup. -/
def exerciseExport (env : Env) (wanted : Export) (call : Call) :
    JournalM (Option Reply) := do
  if ← require env wanted then
    let reply ← ask env.respond call
    record wanted.name reply.result
    return some reply
  else return none

def enumerateCollectionEntries (env : Env) (collection : Handle) :
    JournalM Unit := do
  let listed ← exerciseExport env .enumerateCollectionEntries
    (.enumerateCollectionEntries collection)
  freeEspBuffer env ((listed.map (·.out)).getD 0)

/-- The queries of `ExerciseCollections` on its collection. -/
def exerciseQueries (env : Env) (collection : Handle) : JournalM Unit := do
  enumerateCollectionEntries env collection
  let _ ← exerciseExport env .getCollectionType
    (.getCollectionType collection)
  let _ ← exerciseExport env .getCollectionId (.getCollectionId collection)

/-- The end of `ExerciseCollections`: the collection is closed, and the
ledger is emptied whatever else is in it. -/
def closeExercised (env : Env) (collection : Handle) : JournalM Bool := do
  exerciseQueries env collection
  let closed ← ask env.respond (.closeCollection collection)
  record "EspCloseCollection" closed.result
  note fun n => { n with collections := [] }
  return true

/-- `ExerciseCollections` on the journal. -/
def collectionExercise (env : Env) (client : Handle) : JournalM Bool := do
  if ← require env .closeCollection then
    let created ← createStringCollection env client
      (wideText "*\x7b65535\x7d")
    match created with
    | none => return false
    | some collection => closeExercised env collection
  else return false

/-- The identifiers are only printed: their buffer is freed. -/
def enumerateCollectionIds (env : Env) (client : Handle) (lifetime : ℤ) :
    JournalM Bool := do
  let resolved ← require env .enumerateCollectionIds
  if !resolved || client == 0 then
    return false
  if lifetime < kCollectionLifetimeMin ∨
      lifetime > kCollectionLifetimeMax then
    warn "EspEnumerateCollectionIds lifetime must be 1, 2, or 3"
    return false
  let reply ← ask env.respond (.enumerateCollectionIds client lifetime)
  record "EspEnumerateCollectionIds" reply.result
  freeEspBuffer env reply.out
  return succeeded reply.result

/-- A collection of one entry, as the extended exercise makes integer and
binary ones. -/
def createEntryCollection (env : Env) (client : Handle) (type : ℕ)
    (entry : CollectionEntry) : JournalM (Option Handle) := do
  let hasCreate ← require env .createCollection
  let hasUpdate ← require env .updateCollection
  if !hasCreate || !hasUpdate || client == 0 then
    return none
  let created ← adopt env "EspCreateCollection"
    (.createCollection client type kCollectionStringSubtype)
  match created with
  | none => return none
  | some collection =>
      pushCollection collection
      let reply ← ask env.respond (.updateCollection collection entry)
      record "EspUpdateCollection" reply.result
      return if failed reply.result then none else some collection

def createExercised (env : Env) (client : Handle) (createType : ℕ) :
    JournalM (Option Handle) :=
  if createType = kCollectionTypeInteger then
    createEntryCollection env client kCollectionTypeInteger (.integer 42)
  else if createType = kCollectionTypeBinary then
    createEntryCollection env client kCollectionTypeBinary
      (.binary 3 [0x65, 0x73, 0x70])
  else createStringCollection env client (wideText "esptool-collection-entry")

structure ExtendedExercise where
  lifetime : ℤ
  enumIds : Bool
  doOpen : Bool
  openId : Option Guid
  createType : ℕ

def exerciseIds (env : Env) (client : Handle)
    (exercise : ExtendedExercise) : JournalM Bool :=
  if exercise.enumIds then
    enumerateCollectionIds env client exercise.lifetime
  else pure true

/-- The identifier that is opened is the one the library wrote for the new
collection, whether its call failed or not, unless the caller names
another. -/
def exerciseOpen (env : Env) (client : Handle) (exercise : ExtendedExercise)
    (createdId : Guid) : JournalM Bool :=
  if exercise.doOpen then do
    let opened ← openNamedCollection env client
      (exercise.openId.getD createdId)
    return opened.isSome
  else pure true

/-- `ExerciseCollectionsExtended` on the journal. -/
def collectionExerciseExtended (env : Env) (client : Handle)
    (exercise : ExtendedExercise) : JournalM Bool := do
  let created ← createExercised env client exercise.createType
  match created with
  | none => return false
  | some collection =>
      let identified ← exerciseExport env .getCollectionId
        (.getCollectionId collection)
      let _ ← exerciseExport env .getCollectionType
        (.getCollectionType collection)
      enumerateCollectionEntries env collection
      let listed ← exerciseIds env client exercise
      let opened ← exerciseOpen env client exercise
        (((identified.map (·.ids)).getD []).headD Guid.null)
      return listed && opened

def exerciseCollections (env : Env) (s : Session) : Bool × Session :=
  s.run (collectionExercise env s.clientHandle)

def exerciseCollectionsExtended (env : Env) (exercise : ExtendedExercise)
    (s : Session) : Bool × Session :=
  s.run (collectionExerciseExtended env s.clientHandle exercise)

/-! ## What the exercises file -/

section

variable {env : Env}

theorem closeOne_quiet {closer : Export} {close : Handle → Call}
    (h : ∀ handle, (close handle).handlesFilter = false ∧
      (close handle).handlesCollection = false) (handle : Handle) :
    Quiet (closeOne env closer close handle) := by
  have hasked := ask_quiet env (h handle).1 (h handle).2
  refine .ite (.bind (require_quiet env _) fun _ => ?_) (.pure _)
  exact .ite (.bind hasked fun _ => .pure _) (.pure _)

theorem exerciseExport_quiet (wanted : Export) {call : Call}
    (h : call.handlesFilter = false) (h' : call.handlesCollection = false) :
    Quiet (exerciseExport env wanted call) := by
  have hasked := ask_quiet env h h'
  refine .bind (require_quiet env _) fun _ => .ite ?_ (.pure _)
  refine .bind hasked fun _ => ?_
  exact .bind (record_quiet _ _) fun _ => .pure _

theorem enumerateCollectionEntries_quiet (collection : Handle) :
    Quiet (enumerateCollectionEntries env collection) := by
  refine .bind (exerciseExport_quiet _ rfl rfl) fun _ => ?_
  exact closeOne_quiet (fun _ => ⟨rfl, rfl⟩) _

theorem enumerateCollectionIds_quiet (client : Handle) (lifetime : ℤ) :
    Quiet (enumerateCollectionIds env client lifetime) := by
  refine .bind (require_quiet env _) fun _ => .ite (.pure _) (.ite ?_ ?_)
  · exact .bind (warn_quiet _) fun _ => .pure _
  · refine .bind (ask_quiet env rfl rfl) fun _ => ?_
    refine .bind (record_quiet _ _) fun _ => ?_
    exact .bind (closeOne_quiet (fun _ => ⟨rfl, rfl⟩) _) fun _ => .pure _

theorem createEntryCollection_files (client : Handle) (type : ℕ)
    (entry : CollectionEntry) :
    Files (createEntryCollection env client type entry) := by
  refine .bind (require_quiet env _).files fun _ => ?_
  refine .bind (require_quiet env _).files fun _ => ?_
  refine .ite (.pure _) (adoptCollection_files rfl (.pure _) fun handle =>
    ⟨_, rfl, ?_⟩)
  exact .bind (ask_quiet env rfl rfl).files fun _ =>
    .bind (record_quiet _ _).files fun _ => .pure _

theorem createExercised_files (client : Handle) (createType : ℕ) :
    Files (createExercised env client createType) := by
  refine .ite ?_ (.ite ?_ ?_)
  · exact createEntryCollection_files _ _ _
  · exact createEntryCollection_files _ _ _
  · exact createStringCollection_files _ _

theorem exerciseIds_files (client : Handle) (exercise : ExtendedExercise) :
    Files (exerciseIds env client exercise) :=
  .ite (enumerateCollectionIds_quiet _ _).files (.pure _)

theorem exerciseOpen_files (client : Handle) (exercise : ExtendedExercise)
    (createdId : Guid) :
    Files (exerciseOpen env client exercise createdId) :=
  .ite (.bind (openNamedCollection_files _ _) fun _ => .pure _) (.pure _)

theorem collectionExerciseExtended_files (client : Handle)
    (exercise : ExtendedExercise) :
    Files (collectionExerciseExtended env client exercise) := by
  refine .bind (createExercised_files client exercise.createType)
    fun created => ?_
  cases created with
  | none => exact .pure _
  | some collection =>
      refine .bind (exerciseExport_quiet _ rfl rfl).files fun identified => ?_
      refine .bind (exerciseExport_quiet _ rfl rfl).files fun _ => ?_
      refine .bind (enumerateCollectionEntries_quiet _).files fun _ => ?_
      refine .bind (exerciseIds_files client exercise) fun listed => ?_
      exact .bind (exerciseOpen_files client exercise _) fun _ => .pure _

end

/-! ## What the other operations leave alone -/

section

variable (env : Env) (s : Session)

theorem adopt_quiet (step : String) {call : Call}
    (h : call.handlesFilter = false) (h' : call.handlesCollection = false) :
    Quiet (adopt env step call) := by
  refine .bind (ask_quiet env h h') fun _ => ?_
  exact .bind (record_quiet _ _) fun _ => .pure _

theorem registerAltitudes_quiet (id : Guid) (name : String)
    (base remaining : ℕ) (last : EspResult) :
    Quiet (registerAltitudes env id name base remaining last) := by
  induction remaining generalizing last with
  | zero => exact .pure last
  | succ remaining ih =>
      exact .bind (ask_quiet env rfl rfl) fun _ => .ite (ih _) (.pure _)

theorem chooseClientId_quiet (client : ClientSpec) :
    SparesObjects s.journal (chooseClientId env client s).2.journal := by
  have hgenerated : SparesObjects s.journal
      (ask env.respond .coCreateGuid s.journal).2 :=
    ask_quiet env rfl rfl s.journal
  unfold chooseClientId
  split
  · exact SparesObjects.refl _
  · dsimp only
    split
    · exact (hgenerated.trans (record_quiet _ _ _)).trans (warn_quiet _ _)
    · exact hgenerated

theorem unregisterIfOwned_quiet :
    SparesObjects s.journal (unregisterIfOwned env s).journal := by
  unfold unregisterIfOwned
  split
  · exact (Quiet.bind (require_quiet env .unregisterClient) fun _ => .ite
      (.bind (ask_quiet env rfl rfl) fun _ => record_quiet _ _)
      (.pure _) : Quiet _) s.journal
  · exact SparesObjects.refl _

theorem connect_quiet (client : ClientSpec) :
    SparesObjects s.journal (connect env client s).2.journal := by
  have hlookup := (require_quiet env .connectClient s.journal).trans
    (require_quiet env .registerClient _)
  have hregisters (id : Guid) (name : String) (base : ℕ) : Quiet (do
      let result ← registerAltitudes env id name base
        kAltitudeCollisionTries kFail
      record "EspRegisterClient" result
      return result) :=
    .bind (registerAltitudes_quiet env _ _ _ _ _) fun _ =>
      .bind (record_quiet _ _) fun _ => .pure _
  unfold connect
  dsimp only
  generalize (if client.name = "" then kDefaultClientName
    else client.name) = name
  split
  · exact hlookup
  · have hchosen := hlookup.trans (chooseClientId_quiet env
      ((s.run (require env .connectClient)).2.run
        (require env .registerClient)).2 client)
    split
    · exact hchosen
    · split
      · exact hchosen.trans (hregisters _ _ _ _)
      · split
        · exact (hchosen.trans (hregisters _ _ _ _)).trans
            (adopt_quiet env "EspConnectClient" rfl rfl _)
        · refine SparesObjects.trans ?_ (unregisterIfOwned_quiet env _)
          exact (hchosen.trans (hregisters _ _ _ _)).trans
            (adopt_quiet env "EspConnectClient" rfl rfl _)

theorem connectExisting_quiet (id : Guid) :
    SparesObjects s.journal (connectExisting env id s).2.journal := by
  have hlookup := require_quiet env .connectClient s.journal
  unfold connectExisting
  dsimp only
  split
  · exact hlookup
  · exact hlookup.trans (adopt_quiet env "EspConnectClient" rfl rfl _)

theorem createQueue_quiet :
    SparesObjects s.journal (createQueue env s).2.journal := by
  have hlookup := require_quiet env .createEventQueue s.journal
  unfold createQueue
  dsimp only
  split
  · exact hlookup
  · exact hlookup.trans (adopt_quiet env "EspCreateEventQueue" rfl rfl _)

theorem openQueue_quiet (id : Guid) :
    SparesObjects s.journal (openQueue env id s).2.journal := by
  have hlookup := require_quiet env .openEventQueue s.journal
  unfold openQueue
  dsimp only
  split
  · exact hlookup
  · exact hlookup.trans (adopt_quiet env "EspOpenEventQueue" rfl rfl _)

theorem closeQueue_quiet :
    SparesObjects s.journal (closeQueue env s).journal :=
  closeOne_quiet (fun _ => ⟨rfl, rfl⟩) s.queueHandle s.journal

end

/-! ## One step -/

inductive CollectionOp
  | handles (op : HandleOp)
  | installRules (document : RuleDocument)
  | exerciseCollections
  | exerciseCollectionsExtended (exercise : ExtendedExercise)
  | openNamedCollection (id : Guid)

def CollectionOp.apply (env : Env) (s : Session) : CollectionOp → Session
  | .handles op => (op.apply env s).2
  | .installRules document => (Esp.installRules env document s).2
  | .exerciseCollections => (Esp.exerciseCollections env s).2
  | .exerciseCollectionsExtended exercise =>
      (Esp.exerciseCollectionsExtended env exercise s).2
  | .openNamedCollection id =>
      (s.run (Esp.openNamedCollection env s.clientHandle id)).2

/-- Does the operation come as far as dropping the ledger: the exercise has
its closer and makes its collection. -/
def CollectionOp.drops (env : Env) (s : Session) : CollectionOp → Bool
  | .exerciseCollections => env.available .closeCollection &&
      (createStringCollection env s.clientHandle
        (wideText "*\x7b65535\x7d") s.journal).1.isSome
  | _ => false

/-- A filter is built over a collection that is open. -/
def ComparesOpen (before : List Event) (e : Event) : Prop :=
  ∀ handle ∈ comparedCollection e.call,
    Owned.collection.custody.closed before handle <
      Owned.collection.custody.opened before handle

/-- The books of a ledger, with the collections that were dropped from it. -/
structure Ledger (j : Journal) (lost : Multiset Handle) : Prop where
  nonzero : ∀ handle ∈ j.notes.collections, handle ≠ 0
  books : Owned.collection.custody.Holds [] j.log (heldCollections j + lost)

section

variable {env : Env} {s : Session} {lost : Multiset Handle}

theorem Ledger.files {j j' : Journal} (h : Ledger j lost)
    (hfiles : FilesCollections j j') :
    Ledger j' lost ∧ Traced ComparesOpen j.log j'.log := by
  refine ⟨⟨?_, hfiles.holds h.books⟩, ?_⟩
  · obtain ⟨new, -, hfiled, -⟩ := hfiles
    intro handle hmem
    rw [hfiled] at hmem
    rcases List.mem_append.mp hmem with hmem | hmem
    · exact h.nonzero handle hmem
    · obtain ⟨e, -, hreturned⟩ := List.mem_filterMap.mp hmem
      exact Owned.returned_ne_zero hreturned
  · obtain ⟨new, hlog, -⟩ := id hfiles
    rw [hlog]
    refine Traced.of_at_event fun before e after hnew handle hhandle => ?_
    exact hfiles.compares_open h.nonzero h.books (by rw [hlog, hnew]) hhandle

theorem comparesOpen_of_call {before : List Event} {e : Event}
    (h : comparedCollection e.call = none) : ComparesOpen before e := by
  rw [ComparesOpen, h]
  exact nofun

theorem Ledger.disconnect (h : Ledger s.journal lost)
    (hclose : env.available .closeCollection = true) :
    Ledger (disconnect env s).journal lost ∧
      Traced ComparesOpen s.log (disconnect env s).log := by
  have hempty := (disconnect_released env s).collections
  refine ⟨⟨?_, ?_⟩, ?_⟩
  · rw [hempty]
    exact nofun
  · have hheld : heldCollections (Esp.disconnect env s).journal = 0 := by
      rw [heldCollections, hempty]
      rfl
    have hkind : env.available Owned.collection.closer = true := hclose
    rw [hheld, zero_add]
    exact disconnect_settled hkind h.books
  · obtain ⟨⟨new, hlog, hnew⟩, -⟩ := disconnect_calls env s
    have hcalls : ∀ e ∈ new, comparedCollection e.call = none := by
      refine forall_disconnectCalls
        (P := fun call => comparedCollection call = none) hnew ?_
        fun _ => rfl
      intro call hreleases
      cases call <;> first | rfl | cases hreleases
    rw [hlog]
    exact Traced.of_at_event fun before e after hsplit =>
      comparesOpen_of_call (hcalls e (by simp [hsplit]))

theorem exerciseQueries_quiet (collection : Handle) :
    Quiet (exerciseQueries env collection) := by
  refine .bind (enumerateCollectionEntries_quiet collection) fun _ => ?_
  refine .bind (exerciseExport_quiet _ rfl rfl) fun _ => ?_
  exact .bind (exerciseExport_quiet _ rfl rfl) fun _ => .pure _

/-- The close takes back the collection of the exercise; the others are
dropped. -/
theorem Ledger.close {j : Journal} {collection : Handle}
    {others : Multiset Handle} (h : Ledger j lost)
    (hheld : heldCollections j = {collection} + others)
    (hne : collection ≠ 0) :
    Ledger (closeExercised env collection j).2 (others + lost) ∧
      Traced ComparesOpen j.log (closeExercised env collection j).2.log := by
  let queried := (exerciseQueries env collection j).2
  have hquiet : SparesObjects j queried :=
    exerciseQueries_quiet collection j
  obtain ⟨hledger, htraced⟩ := h.files hquiet.files
  let e : Event := ⟨queried.tag, .closeCollection collection,
    env.respond queried.log (.closeCollection collection)⟩
  have hlog : (Esp.closeExercised env collection j).2.log =
      queried.log ++ [e] := rfl
  have hnotes : (Esp.closeExercised env collection j).2.notes.collections =
      [] := rfl
  have hbooks := hledger.books
  have hsame : heldCollections queried = heldCollections j := by
    rw [heldCollections, hquiet.collections]
    rfl
  rw [hsame, hheld, add_assoc] at hbooks
  refine ⟨⟨?_, ?_⟩, ?_⟩
  · rw [hnotes]
    exact List.forall_mem_nil _
  · have hempty : heldCollections (Esp.closeExercised env collection j).2 =
        0 := by
      rw [heldCollections, hnotes]
      rfl
    rw [hempty, zero_add, hlog]
    exact hbooks.concat_close rfl (if_pos hne)
  · rw [hlog]
    exact htraced.step (comparesOpen_of_call rfl)

/-- The exercise up to the close: its own collection is the last one filed,
and it is all that the close takes back. -/
theorem Ledger.exercise (h : Ledger s.journal lost)
    (hclose : env.available .closeCollection = true) :
    Ledger (exerciseCollections env s).2.journal
        ((if CollectionOp.drops env s .exerciseCollections
          then heldCollections s.journal else 0) + lost) ∧
      Traced ComparesOpen s.log (exerciseCollections env s).2.log := by
  let made := createStringCollection env s.clientHandle
    (wideText "*\x7b65535\x7d") s.journal
  have hfiles : FilesCollections s.journal made.2 :=
    createStringCollection_files s.clientHandle _ s.journal
  have hrequire : require env .closeCollection s.journal =
      (true, s.journal) := by
    rw [require, if_pos hclose]
    rfl
  have hdrops : CollectionOp.drops env s .exerciseCollections =
      made.1.isSome := by
    rw [CollectionOp.drops, hclose, Bool.true_and]
  have hmade := h.files hfiles
  rw [hdrops]
  have hrun : (exerciseCollections env s).2.journal =
      ((match made.1 with
        | none => pure false
        | some collection => closeExercised env collection : JournalM Bool)
        made.2).2 := by
    have hstep : (exerciseCollections env s).2.journal =
        (collectionExercise env s.clientHandle s.journal).2 := rfl
    rw [hstep, collectionExercise, bind_run, hrequire]
    rfl
  change Ledger (exerciseCollections env s).2.journal _ ∧
    Traced ComparesOpen s.journal.log
      (exerciseCollections env s).2.journal.log
  rw [hrun]
  cases hhandle : made.1 with
  | none =>
      rw [Option.isSome_none, if_neg Bool.false_ne_true, zero_add]
      exact hmade
  | some collection =>
      rw [Option.isSome_some, if_pos rfl]
      have hfiled : made.2.notes.collections =
          s.journal.notes.collections ++ [collection] :=
        createStringCollection_filed hhandle
      have hne : collection ≠ 0 :=
        hmade.1.nonzero collection (by simp [hfiled])
      have hheld : heldCollections made.2 =
          {collection} + heldCollections s.journal := by
        rw [heldCollections, hfiled, List.filter_append,
          List.filter_cons_of_pos (by simpa using hne), List.filter_nil,
          ← Multiset.coe_add, add_comm]
        rfl
      obtain ⟨hclosed, htraced⟩ := hmade.1.close hheld hne
      exact ⟨hclosed, hmade.2.trans htraced⟩

theorem Ledger.handles (h : Ledger s.journal lost)
    (hclose : env.available .closeCollection = true) (op : HandleOp) :
    Ledger (op.apply env s).2.journal lost ∧
      Traced ComparesOpen s.log (op.apply env s).2.log := by
  cases op with
  | connect client => exact h.files (connect_quiet env s client).files
  | connectExisting id => exact h.files (connectExisting_quiet env s id).files
  | createQueue => exact h.files (createQueue_quiet env s).files
  | openQueue id => exact h.files (openQueue_quiet env s id).files
  | closeQueue => exact h.files (closeQueue_quiet env s).files
  | disconnect => exact h.disconnect hclose

theorem Ledger.apply (h : Ledger s.journal lost)
    (hclose : env.available .closeCollection = true) (op : CollectionOp) :
    Ledger (op.apply env s).journal
        ((if op.drops env s then heldCollections s.journal else 0) + lost) ∧
      Traced ComparesOpen s.log (op.apply env s).log := by
  cases op with
  | handles op =>
      simp only [CollectionOp.drops, Bool.false_eq_true, if_false, zero_add]
      exact h.handles hclose op
  | installRules document =>
      simp only [CollectionOp.drops, Bool.false_eq_true, if_false, zero_add]
      exact h.files (installRules_files env document s)
  | exerciseCollections => exact h.exercise hclose
  | exerciseCollectionsExtended exercise =>
      simp only [CollectionOp.drops, Bool.false_eq_true, if_false, zero_add]
      exact h.files (collectionExerciseExtended_files s.clientHandle exercise
        s.journal)
  | openNamedCollection id =>
      simp only [CollectionOp.drops, Bool.false_eq_true, if_false, zero_add]
      exact h.files (openNamedCollection_files s.clientHandle id s.journal)

end

/-! ## Runs -/

def runCollections (env : Env) (ops : List CollectionOp) (s : Session) :
    Session :=
  ops.foldl (CollectionOp.apply env) s

/-- The collections that the exercises of a run drop from the ledger. -/
def droppedCollections (env : Env) :
    Session → List CollectionOp → Multiset Handle
  | _, [] => 0
  | s, op :: ops =>
      (if op.drops env s then heldCollections s.journal else 0) +
        droppedCollections env (op.apply env s) ops

/-- Every exercise that drops the ledger finds it empty. -/
def DropsEmpty (env : Env) : Session → List CollectionOp → Prop
  | _, [] => True
  | s, op :: ops =>
      (op.drops env s = true → heldCollections s.journal = 0) ∧
        DropsEmpty env (op.apply env s) ops

instance (env : Env) : ∀ (s : Session) (ops : List CollectionOp),
    Decidable (DropsEmpty env s ops)
  | _, [] => inferInstanceAs (Decidable True)
  | s, op :: ops =>
      have := instDecidableDropsEmpty env (op.apply env s) ops
      inferInstanceAs (Decidable (_ ∧ _))

/-- After the run and a last `Disconnect`: every collection was closed as
often as it was handed out, at no point more often, and every filter was
built over a collection that was open. -/
structure CollectionsSettled (env : Env) (ops : List CollectionOp) :
    Prop where
  once : ∀ handle,
    Owned.collection.custody.closed
        (disconnect env (runCollections env ops .fresh)).log handle =
      Owned.collection.custody.opened
        (disconnect env (runCollections env ops .fresh)).log handle
  sound : ∀ before,
    before <+: (disconnect env (runCollections env ops .fresh)).log →
    ∀ handle, Owned.collection.custody.closed before handle ≤
      Owned.collection.custody.opened before handle
  compares : ∀ before e after,
    (disconnect env (runCollections env ops .fresh)).log =
      before ++ e :: after → ComparesOpen before e

section

variable {env : Env} {s : Session} {lost : Multiset Handle}

theorem Ledger.runCollections (ops : List CollectionOp)
    (h : Ledger s.journal lost)
    (hclose : env.available .closeCollection = true) :
    Ledger (runCollections env ops s).journal
        (droppedCollections env s ops + lost) ∧
      Traced ComparesOpen s.log (runCollections env ops s).log := by
  induction ops generalizing s lost with
  | nil =>
      rw [droppedCollections, zero_add]
      exact ⟨h, .refl⟩
  | cons op ops ih =>
      obtain ⟨hstep, htraced⟩ := h.apply hclose op
      obtain ⟨hrun, htraced'⟩ := ih hstep
      rw [droppedCollections, add_comm (ite _ _ _), add_assoc]
      exact ⟨hrun, htraced.trans htraced'⟩

theorem droppedCollections_eq_zero_iff {ops : List CollectionOp} :
    droppedCollections env s ops = 0 ↔ DropsEmpty env s ops := by
  induction ops generalizing s with
  | nil => exact ⟨fun _ => trivial, fun _ => rfl⟩
  | cons op ops ih =>
      rw [droppedCollections, DropsEmpty, add_eq_zero, ih]
      refine and_congr_left fun _ => ?_
      split
      · rename_i hdrops
        exact ⟨fun h _ => h, fun h => h hdrops⟩
      · rename_i hdrops
        exact ⟨fun _ h => absurd h hdrops, fun _ => rfl⟩

theorem ledger_fresh : Ledger Session.fresh.journal 0 :=
  ⟨nofun, Holds.refl []⟩

end

/-- The collections of a run are settled exactly when every exercise that
drops the ledger finds it empty. -/
theorem runCollections_settled_iff {env : Env} (ops : List CollectionOp)
    (hclose : env.available .closeCollection = true) :
    CollectionsSettled env ops ↔ DropsEmpty env .fresh ops := by
  obtain ⟨hrun, htraced⟩ := ledger_fresh.runCollections ops hclose
  rw [add_zero] at hrun
  have hdisconnected := hrun.disconnect hclose
  have hheld : heldCollections
      (disconnect env (runCollections env ops .fresh)).journal = 0 := by
    rw [heldCollections, (disconnect_released env _).collections]
    rfl
  have hbooks := holds_nil_iff.mp hdisconnected.1.books
  rw [hheld, zero_add] at hbooks
  constructor
  · intro h
    refine droppedCollections_eq_zero_iff.mp ?_
    refine Multiset.eq_zero_of_forall_notMem fun handle hmem => ?_
    have hbalance := hbooks.balance handle
    have honce := h.once handle
    have hpos := Multiset.count_pos.mpr hmem
    rw [Session.log] at honce
    omega
  · intro h
    rw [droppedCollections_eq_zero_iff.mpr h] at hbooks
    refine ⟨fun handle => (hbooks.settled handle).symm, hbooks.sound, ?_⟩
    intro before e after hlog
    exact (htraced.trans hdisconnected.2).at_event hlog

/-- A rule over a named collection. -/
def scannedDocument : RuleDocument :=
  { collections := [{ name := "paths", entries := ["/a"] }]
    rules := [{ eventType := 2000
                actionName := "deny"
                filter :=
                  { type := 6, comparand := 4, propertyId := 1,
                    collectionName := "paths" } }] }

/-- The exercise comes before the collection of a document. -/
theorem runCollections_settled_exercised :
    let ops : List CollectionOp := [.handles (.connect (sampleClient 1)),
      .exerciseCollections, .installRules scannedDocument]
    (∃ e ∈ (runCollections acceptingEnv ops .fresh).log,
      (comparedCollection e.call).isSome) ∧
      CollectionsSettled acceptingEnv ops := by
  intro ops
  have hcompared : ∃ e ∈ (runCollections acceptingEnv ops .fresh).log,
      (comparedCollection e.call).isSome := by
    decide +kernel
  exact ⟨hcompared, (runCollections_settled_iff _ rfl).mpr
    (by decide +kernel)⟩

/-- The exercise comes after a collection was opened: that one is never
closed. -/
theorem runCollections_exercise_leaks :
    let ops : List CollectionOp := [.handles (.connect (sampleClient 1)),
      .openNamedCollection (sampleId 2), .exerciseCollections]
    let log := (disconnect acceptingEnv
      (runCollections acceptingEnv ops .fresh)).log
    (∃ handle, Owned.collection.custody.opened log handle = 1 ∧
      Owned.collection.custody.closed log handle = 0) ∧
      ¬CollectionsSettled acceptingEnv ops := by
  refine ⟨⟨3, by decide +kernel, by decide +kernel⟩, fun h => ?_⟩
  exact absurd (h.once 3) (by decide +kernel)

end Esptool.Esp
