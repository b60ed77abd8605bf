import Esptool.NotifyFormat

/-!
# Decoding is safe and canonical

Whatever the memory holds and whatever the oracle answers, the decoder reads
no byte that has not been approved, the event type is one of the known ones,
and the properties are listed once each, as the first readable slot of their
key has them.
-/

namespace Esptool.Esp

open CheckedRead

/-! ## Every read is checked -/

section

variable (bytes base offset params eventType : ℕ)

instance guarded_readPod (size : ℕ) : Guarded (readPod base offset size) := by
  unfold readPod
  infer_instance

instance guarded_notifyReadU8 : Guarded (notifyReadU8 base offset) :=
  guarded_readPod base offset 1

instance guarded_notifyReadU16 : Guarded (notifyReadU16 base offset) :=
  guarded_readPod base offset 2

instance guarded_notifyReadU32 : Guarded (notifyReadU32 base offset) :=
  guarded_readPod base offset 4

instance guarded_notifyReadU64 : Guarded (notifyReadU64 base offset) :=
  guarded_readPod base offset 8

instance guarded_notifyReadPtr : Guarded (notifyReadPtr base offset) := by
  unfold notifyReadPtr
  infer_instance

instance guarded_tryUnboxPid (boxed : ℕ) : Guarded (tryUnboxPid boxed) := by
  unfold tryUnboxPid tryUnboxU32 unboxTagged
  infer_instance

instance guarded_tryReadQueryBagU32 (minCount : ℕ) :
    Guarded (tryReadQueryBagU32 params offset minCount) := by
  unfold tryReadQueryBagU32
  infer_instance

instance guarded_querySlots (limit : ℕ) :
    Guarded (querySlots limit bytes) := by
  unfold querySlots
  infer_instance

instance guarded_findQuerySlot (matching : ℕ → Reading Unit)
    [∀ cursor, Guarded (matching cursor)] :
    Guarded (findQuerySlot bytes matching) := by
  unfold findQuerySlot
  infer_instance

instance guarded_tryReadNotificationQuerySlot (property : ℕ) :
    Guarded (tryReadNotificationQuerySlot bytes property) := by
  have (cursor : ℕ) : Guarded (slotHasProperty property cursor) := by
    unfold slotHasProperty
    infer_instance
  unfold tryReadNotificationQuerySlot
  infer_instance

instance guarded_tryReadNotificationQueryNameSlot :
    Guarded (tryReadNotificationQueryNameSlot bytes) := by
  have (cursor : ℕ) : Guarded (slotHasName cursor) := by
    unfold slotHasName
    infer_instance
  unfold tryReadNotificationQueryNameSlot
  infer_instance

instance guarded_tryReadNotificationQueryPid :
    Guarded (tryReadNotificationQueryPid bytes) := by
  unfold tryReadNotificationQueryPid
  infer_instance

instance guarded_tryReadPidTidFromParams (vars : KeyVars) :
    Guarded (tryReadPidTidFromParams params vars) := by
  unfold tryReadPidTidFromParams
  infer_instance

instance guarded_scanSparseEventType (data : ℕ) :
    Guarded (scanSparseEventType data) := by
  unfold scanSparseEventType
  infer_instance

instance guarded_tryBindLayout (data typeOff paramsOff : ℕ)
    (primary : Bool) :
    Guarded (tryBindLayout data typeOff paramsOff primary) := by
  unfold tryBindLayout
  infer_instance

instance guarded_bindScanned (data : ℕ) : Guarded (bindScanned data) := by
  refine @guarded_bind _ _ _ _ inferInstance ?_
  rintro ⟨scanned, typeOffset⟩
  refine guarded_handle ?_ fun nearby => guarded_pure _
  exact guarded_handle (guarded_pure _) fun nearby => guarded_pure _

instance guarded_tryBindEventData (data : ℕ) :
    Guarded (tryBindEventData data) := by
  unfold tryBindEventData
  infer_instance

instance guarded_bindNotificationData :
    Guarded (bindNotificationData bytes) := by
  unfold bindNotificationData
  infer_instance

instance guarded_startsNtPath (text : ℕ) : Guarded (startsNtPath text) := by
  unfold startsNtPath
  infer_instance

instance guarded_classifyFoNotificationName :
    Guarded (classifyFoNotificationName eventType bytes) := by
  unfold classifyFoNotificationName foNameUnicodeString foNameInline
  infer_instance

instance guarded_tryReadUnicodeString (us : ℕ) :
    Guarded (tryReadUnicodeString us) := by
  unfold tryReadUnicodeString
  infer_instance

instance guarded_nameDescriptor (boxed : ℕ) :
    Guarded (nameDescriptor boxed) := by
  unfold nameDescriptor
  infer_instance

instance guarded_tryReadNameFromPropertyValue (boxed : ℕ) :
    Guarded (tryReadNameFromPropertyValue boxed) := by
  unfold tryReadNameFromPropertyValue
  infer_instance

instance guarded_tryReadNameFromNotificationQuery :
    Guarded (tryReadNameFromNotificationQuery bytes) := by
  unfold tryReadNameFromNotificationQuery tryReadNameFromQuerySlot
  infer_instance

instance guarded_nameOfBagEntry (bag index : ℕ) :
    Guarded (nameOfBagEntry bag index) := by
  have (boxed : ℕ) : Guarded (do
      match ← attempt (nameDescriptor boxed) with
      | some us => tryReadUnicodeString us
      | none => tryReadNameFromPropertyValue boxed) :=
    guarded_handle (guarded_tryReadNameFromPropertyValue boxed)
      guarded_tryReadUnicodeString
  unfold nameOfBagEntry
  infer_instance

instance guarded_tryReadNameFromQueryBag :
    Guarded (tryReadNameFromQueryBag params) := by
  unfold tryReadNameFromQueryBag
  infer_instance

instance guarded_inlineUnits (text : ℕ) (indices : List ℕ) :
    Guarded (inlineUnits text indices) := by
  induction indices with
  | nil => exact guarded_pure []
  | cons index rest ih =>
      refine guarded_handle (guarded_pure []) fun unit => ?_
      dsimp only
      infer_instance

instance guarded_tryReadInlineNtPath (text : ℕ) :
    Guarded (tryReadInlineNtPath text) := by
  unfold tryReadInlineNtPath
  infer_instance

instance guarded_tryReadFoNotificationName :
    Guarded (tryReadFoNotificationName bytes eventType) := by
  refine @guarded_bind _ _ _ _ inferInstance ?_
  rintro ⟨- | -, source⟩
  · exact guarded_tryReadUnicodeString source
  · exact guarded_tryReadInlineNtPath source

instance guarded_tryReadNamePrimary : Guarded (tryReadNamePrimary params) := by
  unfold tryReadNamePrimary
  infer_instance

instance guarded_tryReadNameAlternate :
    Guarded (tryReadNameAlternate params) := by
  unfold tryReadNameAlternate
  infer_instance

instance guarded_unlessNamed (name : String) (read : Reading String)
    [Guarded read] : Guarded (unlessNamed name read) := by
  unfold unlessNamed
  infer_instance

instance guarded_readNotificationName (name : String) :
    Guarded (readNotificationName params name) := by
  unfold readNotificationName
  infer_instance

instance guarded_formatSlot (slot : PropertySlot) :
    Guarded (formatSlot slot) := by
  unfold formatSlot
  infer_instance

instance guarded_appendSlot (readSlot : ℕ → Reading PropertySlot)
    [∀ cursor, Guarded (readSlot cursor)] (family : Family)
    (out : List DecodedProperty) (cursor : ℕ) :
    Guarded (appendSlot readSlot family out cursor) := by
  refine guarded_handle (guarded_pure out) fun slot => ?_
  dsimp only
  infer_instance

instance guarded_readQuerySlot (cursor : ℕ) :
    Guarded (readQuerySlot cursor) := by
  unfold readQuerySlot
  infer_instance

instance guarded_readBagSlot (cursor : ℕ) : Guarded (readBagSlot cursor) := by
  unfold readBagSlot
  infer_instance

instance guarded_readBag (bagOffset : ℕ) (family : Family)
    (out : List DecodedProperty) :
    Guarded (readBag params bagOffset family out) := by
  unfold readBag bagSlots
  infer_instance

instance guarded_readNotificationProperties (out : List DecodedProperty) :
    Guarded (readNotificationProperties bytes eventType params out) := by
  unfold readNotificationProperties
  infer_instance

instance guarded_readMissingName (vars : KeyVars) :
    Guarded (readMissingName params vars) := by
  unfold readMissingName
  infer_instance

instance guarded_readFromParams (vars : KeyVars) :
    Guarded (readFromParams params vars) := by
  unfold readFromParams
  infer_instance

instance guarded_readFromProcessObjects (eventData : ℕ) (offsets : List ℕ)
    (vars : KeyVars) :
    Guarded (readFromProcessObjects eventData offsets vars) := by
  induction offsets generalizing vars with
  | nil => exact guarded_pure vars
  | cons off rest ih =>
      refine guarded_handle (ih vars) fun processObject => ?_
      dsimp only
      infer_instance

instance guarded_readKeyVars (bound : NotificationBinding) :
    Guarded (readKeyVars bytes bound) := by
  unfold readKeyVars
  infer_instance

instance guarded_readNotificationKeys :
    Guarded (readNotificationKeys bytes) := by
  unfold readNotificationKeys readNotificationHeader
  infer_instance

end

/-- Each byte that the decoder reads was approved before. -/
theorem covered_decodeNotificationKeys (m : Memory) (bytes : ℕ) :
    Covered m (trace m (decodeNotificationKeys bytes)) := by
  have hkeys := (guarded_readNotificationKeys bytes).covered m
  unfold trace decodeNotificationKeys at *
  rw [Probe.touched_bind]
  apply hkeys.append
  cases (OptionT.run (readNotificationKeys bytes)).value m.answer with
  | none => exact covered_nil
  | some keys => exact covered_nil

/-! ## The event type -/

section

variable {m : Memory}

theorem tryBindLayout_sparse {data typeOff paramsOff : ℕ} {primary : Bool}
    {bound : EventBinding}
    (h : eval m (tryBindLayout data typeOff paramsOff primary) = some bound) :
    isSparseEventType bound.eventType = true := by
  simp only [tryBindLayout, eval_bind, eval_guard_eq_some, eval_orKeep,
    eval_pure, Option.bind_eq_some_iff, Option.some.injEq] at h
  obtain ⟨type, -, _, hsparse, _, -, rfl⟩ := h
  exact hsparse

theorem scanSparseEventType_sparse {data : ℕ} {scanned : ℕ × ℕ}
    (h : eval m (scanSparseEventType data) = some scanned) :
    isSparseEventType scanned.1 = true := by
  unfold scanSparseEventType at h
  split at h
  · cases h
  rw [eval_firstOf] at h
  obtain ⟨offset, -, hoffset⟩ := List.exists_of_findSome?_eq_some h
  simp only [eval_bind, eval_guard_eq_some, eval_pure,
    Option.bind_eq_some_iff, Option.some.injEq] at hoffset
  obtain ⟨value, -, _, hscanned, rfl⟩ := hoffset
  exact (Bool.and_eq_true_iff.mp hscanned).1

theorem bindScanned_sparse {data : ℕ} {bound : EventBinding}
    (h : eval m (bindScanned data) = some bound) :
    isSparseEventType bound.eventType = true := by
  simp only [bindScanned, eval_bind, Option.bind_eq_some_iff] at h
  obtain ⟨⟨scanned, typeOffset⟩, hscan, nearby, -, h⟩ := h
  have hsparse := scanSparseEventType_sparse hscan
  cases nearby with
  | some nearby =>
      cases h
      exact hsparse
  | none =>
      rw [eval_bind, Option.bind_eq_some_iff] at h
      obtain ⟨nearby, -, h⟩ := h
      cases nearby with
      | some nearby =>
          cases h
          exact hsparse
      | none =>
          cases h
          exact hsparse

theorem tryBindEventData_sparse {data : ℕ} {bound : EventBinding}
    (h : eval m (tryBindEventData data) = some bound) :
    isSparseEventType bound.eventType = true := by
  unfold tryBindEventData at h
  split at h
  · cases h
  simp only [eval_orElse, Option.or_eq_some_iff] at h
  rcases h with h | ⟨-, h | ⟨-, h | ⟨-, h | ⟨-, h⟩⟩⟩⟩
  · exact tryBindLayout_sparse h
  · exact tryBindLayout_sparse h
  · exact tryBindLayout_sparse h
  · exact tryBindLayout_sparse h
  · exact bindScanned_sparse h

theorem bindNotificationData_sparse {bytes : ℕ} {bound : NotificationBinding}
    (h : eval m (bindNotificationData bytes) = some bound) :
    isSparseEventType bound.eventType = true := by
  simp only [bindNotificationData, eval_orElse, Option.or_eq_some_iff,
    eval_firstOf, eval_bind, eval_pure, Option.bind_eq_some_iff,
    Option.some.injEq] at h
  rcases h with ⟨event, hevent, rfl⟩ | ⟨-, h⟩
  · exact tryBindLayout_sparse hevent
  · obtain ⟨candidate, -, hcandidate⟩ := List.exists_of_findSome?_eq_some h
    simp only [Option.bind_eq_some_iff, Option.some.injEq] at hcandidate
    obtain ⟨data, -, event, hevent, rfl⟩ := hcandidate
    exact tryBindEventData_sparse hevent

end

/-! ## The properties -/

/-- The fields of a slot that the oracle approves as a whole and field by
field. -/
def readableSlot (m : Memory) (cursor : ℕ) : Option PropertySlot :=
  if m.readable cursor 16 then do
    let id ← eval m (notifyReadU32 cursor 0)
    let type ← eval m (notifyReadU32 cursor 4)
    let value ← eval m (notifyReadU64 cursor 8)
    return ⟨id, type, value⟩
  else none

def slotText (m : Memory) (slot : PropertySlot) : String × Bool :=
  if isNameBoxedType slot.type then
    let text := (eval m (tryReadUnicodeString slot.value)).getD ""
    if text ≠ "" then (text, true) else (formatHex slot.value, false)
  else if slot.type = kBoxedTypeU32 ∨ slot.type = kBoxedTypeInt32 then
    (formatNumber (slot.value % 2 ^ 32), false)
  else (formatNumber slot.value, false)

/-- The property of a slot that is listed under this family. -/
def propertyOf (m : Memory) (slot : Family × PropertySlot) :
    DecodedProperty where
  family := slot.1
  id := slot.2.id
  type := slot.2.type
  rawValue := slot.2.value
  name := lookupPropertyName slot.1 slot.2.id
  formattedValue := (slotText m slot.2).1
  isString := (slotText m slot.2).2

def DecodedProperty.key (p : DecodedProperty) : Family × ℕ := (p.family, p.id)

def slotKey (slot : Family × PropertySlot) : Family × ℕ := (slot.1, slot.2.id)

def familySlots (m : Memory) (family : Family)
    (cursors : Option (List ℕ)) : List (Family × PropertySlot) :=
  ((cursors.getD []).filterMap (readableSlot m)).map fun slot =>
    (family, slot)

/-- The readable slots in the order in which the decoder looks at them: the
query array, the process bag, the thread bag, and the object bag, whose
properties are those of the event. -/
def readableSlots (m : Memory) (bytes eventType params : ℕ) :
    List (Family × PropertySlot) :=
  if bytes = 0 then []
  else
    familySlots m (eventFamilyName eventType)
        (eval m (querySlots kQueryPropertiesMax bytes)) ++
      familySlots m .process (eval m (bagSlots params kParamsPidBagOffset)) ++
      familySlots m .thread (eval m (bagSlots params kParamsTidBagOffset)) ++
      familySlots m (eventFamilyName eventType)
        (eval m (bagSlots params kParamsObjectOffset))

section

variable {m : Memory}

theorem eval_readQuerySlot (cursor : ℕ) :
    eval m (readQuerySlot cursor) = readableSlot m cursor := by
  unfold readQuerySlot readableSlot kQuerySlotStride
  rw [eval_bind, eval_check]
  split
  · simp only [eval_bind, eval_pure, Option.bind_some]
    rfl
  · rfl

/-- The other order of reading the fields makes no difference. -/
theorem eval_readBagSlot (cursor : ℕ) :
    eval m (readBagSlot cursor) = readableSlot m cursor := by
  unfold readBagSlot readableSlot kPropertyCollectionStride
  rw [eval_bind, eval_check]
  split
  · simp only [eval_bind, eval_pure, Option.bind_some]
    change ((eval m (notifyReadU32 cursor 4)).bind fun type =>
      (eval m (notifyReadU64 cursor 8)).bind fun value =>
        (eval m (notifyReadU32 cursor 0)).bind fun id => _) = _
    cases eval m (notifyReadU32 cursor 0) with
    | none => simp
    | some id => rfl
  · rfl

theorem eval_formatSlot (slot : PropertySlot) :
    eval m (formatSlot slot) = some (slotText m slot) := by
  unfold formatSlot slotText
  split
  · rw [eval_bind, eval_orKeep, Option.bind_some]
    rfl
  split
  · rfl
  · rfl

theorem eval_appendSlot {readSlot : ℕ → Reading PropertySlot}
    (hslot : ∀ cursor, eval m (readSlot cursor) = readableSlot m cursor)
    (family : Family) (out : List DecodedProperty) (cursor : ℕ) :
    eval m (appendSlot readSlot family out cursor) =
      some (match readableSlot m cursor with
        | none => out
        | some slot =>
            if out.any fun p => p.key == slotKey (family, slot) then out
            else out ++ [propertyOf m (family, slot)]) := by
  unfold appendSlot
  rw [eval_bind, eval_attempt, hslot, Option.bind_some]
  cases readableSlot m cursor with
  | none => rfl
  | some slot =>
      dsimp only
      change eval m (if (out.any fun p => p.key == slotKey (family, slot)) then _ else _) = _
      split
      · rfl
      · rw [eval_bind, eval_formatSlot]
        rfl

/-- The loop over the slots of one array. -/
theorem eval_foldSlots {readSlot : ℕ → Reading PropertySlot}
    (hslot : ∀ cursor, eval m (readSlot cursor) = readableSlot m cursor)
    (family : Family) (out : List DecodedProperty) (cursors : List ℕ) :
    eval m (fold (appendSlot readSlot family) cursors out) =
      some (Loops.keepFirst DecodedProperty.key out
        ((familySlots m family (some cursors)).map (propertyOf m))) := by
  induction cursors generalizing out with
  | nil => rfl
  | cons cursor rest ih =>
      rw [fold, eval_bind, eval_appendSlot hslot, Option.bind_some, ih]
      unfold familySlots
      rw [Option.getD_some, Option.getD_some, List.filterMap_cons]
      cases readableSlot m cursor with
      | none => rfl
      | some slot => rfl

theorem eval_readBag (params bagOffset : ℕ) (family : Family)
    (out : List DecodedProperty) :
    eval m (readBag params bagOffset family out) =
      some (Loops.keepFirst DecodedProperty.key out
        ((familySlots m family (eval m (bagSlots params bagOffset))).map
          (propertyOf m))) := by
  rw [readBag, eval_bind, eval_orKeep, Option.bind_some,
    eval_foldSlots eval_readBagSlot]
  rfl

theorem eval_bagSlots_null (bagOffset : ℕ) :
    eval m (bagSlots 0 bagOffset) = none := by
  simp [bagSlots, notifyReadPtr, readPod]

/-- The properties are those of the readable slots, in their order, each
unless its key is listed already. -/
theorem eval_readNotificationProperties (bytes eventType params : ℕ)
    (out : List DecodedProperty) :
    eval m (readNotificationProperties bytes eventType params out) =
      some (Loops.keepFirst DecodedProperty.key out
        ((readableSlots m bytes eventType params).map (propertyOf m))) := by
  unfold readNotificationProperties readableSlots
  split
  · rfl
  rw [eval_bind, eval_orKeep, Option.bind_some, eval_bind,
    eval_foldSlots eval_readQuerySlot, Option.bind_some]
  simp only [List.map_append, Loops.keepFirst_append]
  split
  · rename_i hparams
    simp only [hparams, eval_bagSlots_null]
    rfl
  · simp only [eval_bind, eval_readBag, Option.bind_some]
    rfl

/-- The properties list each key of the slots once, and hold what the first
slot of the key has. -/
structure ListsFirst (m : Memory) (slots : List (Family × PropertySlot))
    (properties : List DecodedProperty) : Prop where
  distinct : (properties.map DecodedProperty.key).Nodup
  first : ∀ p ∈ properties, ∃ slot,
    (slots.find? fun s => slotKey s == p.key) = some slot ∧
      p = propertyOf m slot
  complete : ∀ slot ∈ slots, ∃ p ∈ properties, p.key = slotKey slot

theorem listsFirst_keepFirst (slots : List (Family × PropertySlot)) :
    ListsFirst m slots (Loops.keepFirst DecodedProperty.key []
      (slots.map (propertyOf m))) := by
  have hdistinct : ((Loops.keepFirst DecodedProperty.key []
      (slots.map (propertyOf m))).map DecodedProperty.key).Nodup := by
    apply Loops.keepFirst_keys_nodup
    exact List.nodup_nil
  refine ⟨hdistinct, ?_, ?_⟩
  · intro p hp
    have hfind := Loops.find?_of_keys_nodup hdistinct hp
    rw [Loops.find?_keepFirst, List.nil_append, List.find?_map,
      Option.map_eq_some_iff] at hfind
    obtain ⟨slot, hslot, rfl⟩ := hfind
    exact ⟨slot, hslot, rfl⟩
  · intro slot hslot
    have hfound : ((Loops.keepFirst DecodedProperty.key []
        (slots.map (propertyOf m))).find? fun p =>
          p.key == slotKey slot).isSome := by
      rw [Loops.find?_keepFirst, List.nil_append, List.find?_isSome]
      exact ⟨propertyOf m slot, List.mem_map_of_mem hslot,
        beq_self_eq_true _⟩
    obtain ⟨p, hp⟩ := Option.isSome_iff_exists.mp hfound
    have hkey := List.find?_some hp
    exact ⟨p, List.mem_of_find?_eq_some hp, eq_of_beq hkey⟩

/-! ## The keys -/

def boundNotification (m : Memory) (bytes : ℕ) : NotificationBinding :=
  (eval m (bindNotificationData bytes)).getD {}

/-- The readable slots of a notification whose header can be read. -/
def notificationSlots (m : Memory) (bytes : ℕ) :
    List (Family × PropertySlot) :=
  match eval m (readNotificationHeader bytes) with
  | none => []
  | some _ =>
      readableSlots m bytes (boundNotification m bytes).eventType
        (boundNotification m bytes).params

/-- The keys of the answer. -/
def decodedKeys (m : Memory) (bytes : ℕ) : DecodedKeys :=
  (run m (decodeNotificationKeys bytes)).2

theorem decodedKeys_eq (bytes : ℕ) :
    decodedKeys m bytes = (eval m (readNotificationKeys bytes)).getD {} := by
  unfold decodedKeys decodeNotificationKeys run
  rw [Probe.value_bind]
  change _ = ((OptionT.run (readNotificationKeys bytes)).value m.answer).getD _
  cases (OptionT.run (readNotificationKeys bytes)).value m.answer with
  | none => rfl
  | some keys => rfl

end

instance total_tryReadPidTidFromParams (params : ℕ) (vars : KeyVars) :
    Total (tryReadPidTidFromParams params vars) := by
  unfold tryReadPidTidFromParams
  infer_instance

instance total_readMissingName (params : ℕ) (vars : KeyVars) :
    Total (readMissingName params vars) := by
  unfold readMissingName readNotificationName unlessNamed
  infer_instance

instance total_readFromProcessObjects (eventData : ℕ) (offsets : List ℕ)
    (vars : KeyVars) :
    Total (readFromProcessObjects eventData offsets vars) := by
  induction offsets generalizing vars with
  | nil => exact total_pure vars
  | cons off rest ih =>
      refine total_handle (ih vars) fun processObject => ?_
      dsimp only
      infer_instance

/-- Reading the variables always comes to an end. -/
instance total_readKeyVars (bytes : ℕ) (bound : NotificationBinding) :
    Total (readKeyVars bytes bound) := by
  unfold readKeyVars readFromParams unlessNamed
  infer_instance

section

variable {m : Memory}

def keyVars (m : Memory) (bytes : ℕ) (bound : NotificationBinding) :
    KeyVars :=
  (eval m (readKeyVars bytes bound)).getD {}

theorem eval_readKeyVars (bytes : ℕ) (bound : NotificationBinding) :
    eval m (readKeyVars bytes bound) = some (keyVars m bytes bound) := by
  obtain ⟨vars, hvars⟩ := (total_readKeyVars bytes bound).answers m
  rw [keyVars, hvars, Option.getD_some]

theorem readNotificationHeader_null :
    eval m (readNotificationHeader 0) = none := by
  simp [readNotificationHeader, notifyReadU32, readPod]

theorem decodedKeys_unreadable {bytes : ℕ}
    (h : eval m (readNotificationHeader bytes) = none) :
    decodedKeys m bytes = {} := by
  rw [decodedKeys_eq, readNotificationKeys, eval_bind, eval_guard]
  split
  · rw [Option.bind_some, eval_bind, h]
    rfl
  · rfl

def listedProperties (m : Memory) (bytes : ℕ) : List DecodedProperty :=
  Loops.keepFirst DecodedProperty.key []
    ((readableSlots m bytes (boundNotification m bytes).eventType
      (boundNotification m bytes).params).map (propertyOf m))

/-- The variables after the loop over the listed properties. -/
def finalVars (m : Memory) (bytes : ℕ) : KeyVars :=
  (listedProperties m bytes).foldl
    (takeFromProperty (boundNotification m bytes).eventType)
    (keyVars m bytes (boundNotification m bytes))

theorem decodedKeys_readable {bytes : ℕ} {header : NotificationHeader}
    (h : eval m (readNotificationHeader bytes) = some header) :
    decodedKeys m bytes =
      { eventType := (boundNotification m bytes).eventType
        pid := (finalVars m bytes).pid
        name := (finalVars m bytes).name
        tid := (finalVars m bytes).tid
        properties := listedProperties m bytes } := by
  have hbytes : bytes ≠ 0 := by
    rintro rfl
    rw [readNotificationHeader_null] at h
    cases h
  rw [decodedKeys_eq, readNotificationKeys, eval_bind, eval_guard,
    if_pos hbytes, Option.bind_some, eval_bind, h, Option.bind_some,
    eval_bind, eval_orKeep, Option.bind_some]
  change (eval m (readKeyVars bytes (boundNotification m bytes) >>= _)).getD _
    = _
  rw [eval_bind, eval_readKeyVars, Option.bind_some, eval_bind,
    eval_readNotificationProperties]
  rfl

theorem boundNotification_sparse (m : Memory) (bytes : ℕ) :
    (boundNotification m bytes).eventType = 0 ∨
      isSparseEventType (boundNotification m bytes).eventType = true := by
  unfold boundNotification
  cases hbound : eval m (bindNotificationData bytes) with
  | none => exact .inl rfl
  | some bound => exact .inr (bindNotificationData_sparse hbound)

theorem decodedKeys_eventType (m : Memory) (bytes : ℕ) :
    (decodedKeys m bytes).eventType = 0 ∨
      isSparseEventType (decodedKeys m bytes).eventType = true := by
  cases hheader : eval m (readNotificationHeader bytes) with
  | none =>
      rw [decodedKeys_unreadable hheader]
      exact .inl rfl
  | some header =>
      rw [decodedKeys_readable hheader]
      exact boundNotification_sparse m bytes

theorem decodedKeys_properties (m : Memory) (bytes : ℕ) :
    ListsFirst m (notificationSlots m bytes)
      (decodedKeys m bytes).properties := by
  unfold notificationSlots
  cases hheader : eval m (readNotificationHeader bytes) with
  | none =>
      rw [decodedKeys_unreadable hheader]
      exact listsFirst_keepFirst []
  | some header =>
      rw [decodedKeys_readable hheader]
      exact listsFirst_keepFirst _

/-! ## Where the slots stand -/

theorem eval_readPod_eq_some {base offset size value : ℕ} :
    eval m (readPod base offset size) = some value ↔
      base ≠ 0 ∧ m.readable (atOffset base offset) size = true ∧
        value = littleEndian
          ((List.range' (atOffset base offset) size).map m.image) := by
  simp only [readPod, eval_bind, eval_guard_eq_some, eval_readRange,
    eval_pure, Option.bind_eq_some_iff, Option.ite_none_right_eq_some,
    Option.some.injEq]
  constructor
  · rintro ⟨_, hbase, bytes, ⟨hreadable, rfl⟩, rfl⟩
    exact ⟨hbase, hreadable, rfl⟩
  · rintro ⟨hbase, hreadable, rfl⟩
    exact ⟨(), hbase, _, ⟨hreadable, rfl⟩, rfl⟩

/-- A number of `size` bytes stands behind an address, and may be read
there. -/
structure NumberAt (m : Memory) (base offset size value : ℕ) : Prop where
  nonNull : base ≠ 0
  readable : m.readable ((base + offset) % 2 ^ 64) size = true
  value : value = littleEndian
    ((List.range' ((base + offset) % 2 ^ 64) size).map m.image)

theorem eval_readPod_iff {base offset size value : ℕ} :
    eval m (readPod base offset size) = some value ↔
      NumberAt m base offset size value := by
  rw [eval_readPod_eq_some]
  constructor
  · rintro ⟨hbase, hreadable, hvalue⟩
    exact ⟨hbase, hreadable, hvalue⟩
  · rintro ⟨hbase, hreadable, hvalue⟩
    exact ⟨hbase, hreadable, hvalue⟩

theorem eval_notifyReadPtr_iff {base offset value : ℕ} :
    eval m (notifyReadPtr base offset) = some value ↔
      NumberAt m base offset 8 value ∧ value ≠ 0 := by
  simp only [notifyReadPtr, eval_bind, eval_guard_eq_some, eval_pure,
    Option.bind_eq_some_iff, Option.some.injEq, eval_readPod_iff]
  constructor
  · rintro ⟨found, hfound, _, hsome, rfl⟩
    exact ⟨hfound, hsome⟩
  · rintro ⟨hvalue, hsome⟩
    exact ⟨value, hvalue, (), hsome, rfl⟩

/-- The query array: its length at 0x120, its address at 0x128, and slots of
sixteen bytes. -/
theorem querySlots_layout {limit bytes : ℕ} {cursors : List ℕ} :
    eval m (querySlots limit bytes) = some cursors ↔
      ∃ count array, NumberAt m bytes 0x120 4 count ∧
        (count ≠ 0 ∧ count ≤ limit) ∧
        (NumberAt m bytes 0x128 8 array ∧ array ≠ 0) ∧
        cursors = (List.range count).map fun index =>
          (array + index * 16) % 2 ^ 64 := by
  simp only [querySlots, notifyReadU32, eval_bind, eval_guard_eq_some,
    eval_pure, Option.bind_eq_some_iff, Option.some.injEq, eval_readPod_iff,
    eval_notifyReadPtr_iff]
  constructor
  · rintro ⟨count, hcount, _, hlimit, array, harray, rfl⟩
    exact ⟨count, array, hcount, hlimit, harray, rfl⟩
  · rintro ⟨count, array, hcount, hlimit, harray, rfl⟩
    exact ⟨count, hcount, (), hlimit, array, harray, rfl⟩

/-- A bag of the parameters: its address at an offset of theirs, its length at
8, the address of its items at 16, and items of sixteen bytes. -/
theorem bagSlots_layout {params bagOffset : ℕ} {cursors : List ℕ} :
    eval m (bagSlots params bagOffset) = some cursors ↔
      ∃ bag count items,
        (NumberAt m params bagOffset 8 bag ∧ bag ≠ 0) ∧
        NumberAt m bag 8 4 count ∧ (count ≠ 0 ∧ count ≤ 64) ∧
        (NumberAt m bag 16 8 items ∧ items ≠ 0) ∧
        cursors = (List.range count).map fun index =>
          (items + index * 16) % 2 ^ 64 := by
  simp only [bagSlots, notifyReadU32, eval_bind, eval_guard_eq_some,
    eval_pure, Option.bind_eq_some_iff, Option.some.injEq, eval_readPod_iff,
    eval_notifyReadPtr_iff]
  constructor
  · rintro ⟨bag, hbag, count, hcount, _, hlimit, items, hitems, rfl⟩
    exact ⟨bag, count, items, hbag, hcount, hlimit, hitems, rfl⟩
  · rintro ⟨bag, count, items, hbag, hcount, hlimit, hitems, rfl⟩
    exact ⟨bag, hbag, count, hcount, (), hlimit, items, hitems, rfl⟩

/-- A slot: the property number, the type of the value, and the value. -/
theorem readableSlot_layout {cursor : ℕ} {slot : PropertySlot} :
    readableSlot m cursor = some slot ↔
      m.readable cursor 16 = true ∧ NumberAt m cursor 0 4 slot.id ∧
        NumberAt m cursor 4 4 slot.type ∧ NumberAt m cursor 8 8 slot.value := by
  unfold readableSlot
  split
  · rename_i hreadable
    simp only [notifyReadU32, notifyReadU64, Option.bind_eq_bind,
      Option.bind_eq_some_iff, Option.pure_def, Option.some.injEq,
      eval_readPod_iff]
    constructor
    · rintro ⟨id, hid, type, htype, value, hvalue, rfl⟩
      exact ⟨hreadable, hid, htype, hvalue⟩
    · rintro ⟨-, hid, htype, hvalue⟩
      exact ⟨_, hid, _, htype, _, hvalue, rfl⟩
  · rename_i hreadable
    constructor
    · nofun
    · rintro ⟨hother, -⟩
      exact absurd hother hreadable

theorem querySlots_length {limit notification : ℕ} {cursors : List ℕ}
    (h : eval m (querySlots limit notification) = some cursors) :
    cursors.length ≤ limit := by
  obtain ⟨count, array, -, ⟨-, hcount⟩, -, rfl⟩ := querySlots_layout.mp h
  rw [List.length_map, List.length_range]
  exact hcount

theorem bagSlots_length {params bagOffset : ℕ} {cursors : List ℕ}
    (h : eval m (bagSlots params bagOffset) = some cursors) :
    cursors.length ≤ kBagPropertiesMax := by
  obtain ⟨bag, count, items, -, -, ⟨-, hcount⟩, -, rfl⟩ :=
    bagSlots_layout.mp h
  rw [List.length_map, List.length_range]
  exact hcount

end

/-! ## The results -/

/-- An oracle that approves only committed memory keeps the decoder within
it. -/
theorem decodeNotificationKeys_committed {m : Memory} {committed : Set ℕ}
    (honest : ∀ start size, m.readable start size = true →
      ∀ address, start ≤ address → address < start + size →
        address ∈ committed) (bytes : ℕ) :
    ∀ address, .byte address ∈ trace m (decodeNotificationKeys bytes) →
      address ∈ committed := by
  intro address hbyte
  have hcovered := covered_decodeNotificationKeys m bytes
  exact hcovered.byte_mem hbyte honest

/-- On every memory, with every oracle, decoding reads approved bytes only,
gives no event type or a known one, and lists the first readable slot of each
key; and so does the reading of the properties, for any event type and
parameters, from arrays of bounded length. -/
theorem decodeNotificationKeys_canonical (m : Memory) (bytes : ℕ) :
    Covered m (trace m (decodeNotificationKeys bytes)) ∧
    ((decodedKeys m bytes).eventType = 0 ∨
      isSparseEventType (decodedKeys m bytes).eventType = true) ∧
    ListsFirst m (notificationSlots m bytes)
      (decodedKeys m bytes).properties ∧
    (∀ eventType params, ∃ properties,
      eval m (readNotificationProperties bytes eventType params []) =
        some properties ∧
      Covered m (trace m (OptionT.run
        (readNotificationProperties bytes eventType params []))) ∧
      ListsFirst m (readableSlots m bytes eventType params) properties) ∧
    (∀ cursors, eval m (querySlots kQueryPropertiesMax bytes) = some cursors →
      cursors.length ≤ 256) ∧
    ∀ params bagOffset cursors,
      eval m (bagSlots params bagOffset) = some cursors →
        cursors.length ≤ 64 := by
  refine ⟨covered_decodeNotificationKeys m bytes,
    decodedKeys_eventType m bytes, decodedKeys_properties m bytes, ?_,
    fun _ => querySlots_length, fun _ _ _ => bagSlots_length⟩
  intro eventType params
  refine ⟨_, eval_readNotificationProperties bytes eventType params [], ?_,
    listsFirst_keepFirst _⟩
  exact (guarded_readNotificationProperties bytes params eventType []).covered m

/-- A process notification with three slots, two of them for the process
id. -/
def listedMemory : Memory :=
  wordMemory fun word =>
    if word = (0x1000 + 224) / 4 then kEventProcessCreate
    else if word = (0x1000 + 0x120) / 4 then 3
    else if word = (0x1000 + 0x128) / 4 then 0x2000
    else if word = 0x2000 / 4 then 6
    else if word = 0x2004 / 4 then kBoxedTypeU32
    else if word = 0x2008 / 4 then 4321
    else if word = 0x2010 / 4 then 2
    else if word = 0x2014 / 4 then kBoxedTypeU32
    else if word = 0x2018 / 4 then 17
    else if word = 0x2020 / 4 then 6
    else if word = 0x2024 / 4 then kBoxedTypeU32
    else if word = 0x2028 / 4 then 99
    else 0

/-- The first slot of the process id is listed, and the other property. -/
theorem decodeNotificationKeys_canonical_listed :
    ((decodedKeys listedMemory 0x1000).properties.map fun p =>
        (p.key, p.rawValue)) =
      [((.process, 6), 4321), ((.process, 2), 17)] ∧
    Covered listedMemory
      (trace listedMemory (decodeNotificationKeys 0x1000)) ∧
    ListsFirst listedMemory (notificationSlots listedMemory 0x1000)
      (decodedKeys listedMemory 0x1000).properties := by
  have hcanonical := decodeNotificationKeys_canonical listedMemory 0x1000
  exact ⟨by decide +kernel, hcanonical.1, hcanonical.2.2.1⟩

end Esptool.Esp
