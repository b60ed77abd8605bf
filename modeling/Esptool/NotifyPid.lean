import Esptool.NotifySafety

/-!
# Where the process id comes from

The decoder takes a process id from the query array twice: once from the first
slot with the property number 6, whatever family the event has, and once from
the listed property 6 of the family of processes.  Only the second asks what
the number means.
-/

namespace Esptool.Esp

open CheckedRead

variable {m : Memory}

/-! ## The first reader -/

/-- The byte at an address is the low byte of the number there. -/
theorem notifyReadU8_low {base offset byte value : ℕ}
    (hbyte : eval m (notifyReadU8 base offset) = some byte)
    (hvalue : eval m (notifyReadU32 base offset) = some value) :
    byte = value % 0x100 := by
  have hlowByte := (eval_readPod_eq_some.mp hbyte).2.2
  have hbytes := (eval_readPod_eq_some.mp hvalue).2.2
  rw [hbytes, hlowByte]
  simp only [List.range'_succ, List.range'_zero, List.map_cons, List.map_nil,
    littleEndian]
  have hlow := (m.image (atOffset base offset)).toNat_lt
  omega

theorem tryUnboxU32_eq_some {boxed expectType value : ℕ} :
    eval m (tryUnboxU32 boxed expectType) = some value ↔
      eval m (notifyReadU32 boxed 4) = some expectType ∧
        eval m (notifyReadU32 boxed 8) = some value := by
  simp only [tryUnboxU32, eval_bind, eval_guard_eq_some,
    Option.bind_eq_some_iff, kBoxedTypeOffset, kBoxedPayloadOffset]
  constructor
  · rintro ⟨_, -, type, htype, _, rfl, hvalue⟩
    exact ⟨htype, hvalue⟩
  · rintro ⟨htype, hvalue⟩
    exact ⟨(), (eval_readPod_eq_some.mp htype).1, _, htype, (), rfl, hvalue⟩

/-- A slot boxes a 32-bit number. -/
def BoxesU32 (m : Memory) (slot value : ℕ) : Prop :=
  (eval m (notifyReadU32 slot kBoxedTypeOffset) = some kBoxedTypeU32 ∨
    eval m (notifyReadU32 slot kBoxedTypeOffset) = some kBoxedTypeInt32) ∧
  eval m (notifyReadU32 slot kBoxedPayloadOffset) = some value

theorem tryUnboxPid_of_boxes {slot value : ℕ} (h : BoxesU32 m slot value) :
    eval m (tryUnboxPid slot) = some value := by
  obtain ⟨htype | htype, hvalue⟩ := h
  · rw [tryUnboxPid, eval_orElse, tryUnboxU32_eq_some.mpr ⟨htype, hvalue⟩]
    rfl
  · have hother : eval m (tryUnboxU32 slot kBoxedTypeU32) = none := by
      rw [Option.eq_none_iff_forall_ne_some]
      intro other hsome
      have hfour : eval m (notifyReadU32 slot kBoxedTypeOffset) =
          some kBoxedTypeU32 := (tryUnboxU32_eq_some.mp hsome).1
      rw [htype] at hfour
      cases hfour
    rw [tryUnboxPid, eval_orElse, eval_orElse, hother,
      tryUnboxU32_eq_some.mpr ⟨htype, hvalue⟩]
    rfl

theorem tryReadNotificationQuerySlot_property {notification property slot : ℕ}
    (h : eval m (tryReadNotificationQuerySlot notification property) =
      some slot) :
    eval m (notifyReadU32 slot 0) = some property := by
  simp only [tryReadNotificationQuerySlot, findQuerySlot, eval_bind,
    eval_firstOf, Option.bind_eq_some_iff] at h
  obtain ⟨_, -, cursors, -, h⟩ := h
  obtain ⟨cursor, -, hcursor⟩ := List.exists_of_findSome?_eq_some h
  simp only [slotHasProperty, eval_bind, eval_guard_eq_some, eval_pure,
    Option.bind_eq_some_iff, Option.some.injEq] at hcursor
  obtain ⟨_, ⟨found, hfound, rfl⟩, rfl⟩ := hcursor
  exact hfound

/-- The slot with the property number 6 has no tag of a property value, so
only a boxed number gives a process id. -/
theorem tryReadNotificationQueryPid_eq_some {bytes pid : ℕ} :
    eval m (tryReadNotificationQueryPid bytes) = some pid ↔
      ∃ slot, eval m (tryReadNotificationQuerySlot bytes
          kProcessQueryPropertyPid) = some slot ∧
        BoxesU32 m slot pid := by
  rw [tryReadNotificationQueryPid, eval_bind, Option.bind_eq_some_iff]
  constructor
  · rintro ⟨slot, hslot, hpid⟩
    refine ⟨slot, hslot, ?_⟩
    simp only [tryUnboxPid, eval_orElse, Option.or_eq_some_iff,
      tryUnboxU32_eq_some] at hpid
    rcases hpid with ⟨htype, hvalue⟩ | ⟨-, ⟨htype, hvalue⟩ | ⟨-, htagged⟩⟩
    · exact ⟨.inl htype, hvalue⟩
    · exact ⟨.inr htype, hvalue⟩
    · simp only [unboxTagged, eval_bind, eval_guard_eq_some,
        Option.bind_eq_some_iff] at htagged
      obtain ⟨tag, htag, _, rfl, -⟩ := htagged
      have hlow := notifyReadU8_low htag
        (tryReadNotificationQuerySlot_property hslot)
      cases hlow
  · rintro ⟨slot, hslot, hboxes⟩
    exact ⟨slot, hslot, tryUnboxPid_of_boxes hboxes⟩

/-! ## A process id stays -/

theorem readMissingName_pid {params : ℕ} {vars vars' : KeyVars}
    (h : eval m (readMissingName params vars) = some vars') :
    vars'.pid = vars.pid := by
  unfold readMissingName at h
  split at h
  · simp only [eval_bind, eval_pure, Option.bind_eq_some_iff,
      Option.some.injEq] at h
    obtain ⟨name, -, rfl⟩ := h
    rfl
  · cases h
    rfl

theorem readFromParams_pid {params : ℕ} {vars vars' : KeyVars}
    (hpid : vars.pid ≠ 0)
    (h : eval m (readFromParams params vars) = some vars') :
    vars'.pid = vars.pid := by
  unfold readFromParams at h
  split at h
  · cases h
    rfl
  · rw [eval_bind, eval_pure, Option.bind_some] at h
    exact readMissingName_pid h

/-- What the first reader takes from the query array is not read again from
the parameters or the process objects. -/
theorem keyVars_pid (bound : NotificationBinding) {bytes pid : ℕ}
    (h : eval m (tryReadNotificationQueryPid bytes) = some pid)
    (hpid : pid ≠ 0) : (keyVars m bytes bound).pid = pid := by
  have hvars := eval_readKeyVars (m := m) bytes bound
  simp only [readKeyVars, eval_bind, eval_orKeep, h, Option.getD_some,
    Option.bind_some] at hvars
  rw [Option.bind_eq_some_iff] at hvars
  obtain ⟨name, -, hvars⟩ := hvars
  rw [Option.bind_eq_some_iff] at hvars
  obtain ⟨vars, hparams, hvars⟩ := hvars
  have hkept : vars.pid = pid := readFromParams_pid hpid hparams
  rw [if_neg (fun hzero => hpid (hkept ▸ hzero.1)), eval_pure,
    Option.some.injEq] at hvars
  rw [← hvars, hkept]

section

variable {eventType : ℕ} {vars : KeyVars} {props : List DecodedProperty}

theorem foldl_takeFromProperty_keeps (hpid : vars.pid ≠ 0) :
    (props.foldl (takeFromProperty eventType) vars).pid = vars.pid := by
  induction props generalizing vars with
  | nil => rfl
  | cons p props ih =>
      have hstep : (takeFromProperty eventType vars p).pid = vars.pid := by
        simp [takeFromProperty, hpid]
      rw [List.foldl_cons, ih (hstep ▸ hpid), hstep]

/-- A process id that was missing comes from a listed process property. -/
theorem foldl_takeFromProperty_takes (hvars : vars.pid = 0)
    (hpid : (props.foldl (takeFromProperty eventType) vars).pid ≠ 0) :
    ∃ p ∈ props, p.family = .process ∧ p.id = 6 ∧
      (props.foldl (takeFromProperty eventType) vars).pid =
        p.rawValue % 2 ^ 32 := by
  induction props generalizing vars with
  | nil => exact absurd hvars hpid
  | cons p props ih =>
      rw [List.foldl_cons] at hpid ⊢
      by_cases hstep : (takeFromProperty eventType vars p).pid = 0
      · obtain ⟨q, hq, htakes⟩ := ih hstep hpid
        exact ⟨q, List.mem_cons_of_mem p hq, htakes⟩
      · rw [foldl_takeFromProperty_keeps hstep]
        have htaken : vars.pid = 0 ∧ p.family = .process ∧ p.id = 6 := by
          by_contra hnot
          exact hstep ((if_neg hnot).trans hvars)
        refine ⟨p, List.mem_cons_self, htaken.2.1, htaken.2.2, ?_⟩
        exact if_pos htaken

end

/-! ## The results -/

/-- The slots of the query array that the properties are read from. -/
def queryArraySlots (m : Memory) (bytes : ℕ) : List (Family × PropertySlot) :=
  familySlots m (eventFamilyName (boundNotification m bytes).eventType)
    (eval m (querySlots kQueryPropertiesMax bytes))

def pidKey : Family × ℕ := (.process, 6)

/-- The process id of the keys was read from the query array: by the first
reader, or, when there was none yet, from a listed property whose slot stands
there. -/
def PidFromQueryArray (m : Memory) (bytes : ℕ) : Prop :=
  (eval m (readNotificationHeader bytes)).isSome = true ∧
  ((∃ pid, eval m (tryReadNotificationQueryPid bytes) = some pid ∧
      pid ≠ 0) ∨
    (keyVars m bytes (boundNotification m bytes)).pid = 0 ∧
      (decodedKeys m bytes).pid ≠ 0 ∧
      ∃ slot ∈ queryArraySlots m bytes, slotKey slot = pidKey)

/-- The event is one of a process, and the process id is the one listed. -/
def PidIsListed (m : Memory) (bytes : ℕ) : Prop :=
  eventFamilyName (decodedKeys m bytes).eventType = .process ∧
  ∃ p ∈ (decodedKeys m bytes).properties, p.key = pidKey ∧
    (decodedKeys m bytes).pid = p.rawValue % 2 ^ 32

/-- The first slot with the property number 6 boxes no number but zero, or
the event is one of a process and the first readable slot of the process id
has the same number. -/
def PidSlotAgrees (m : Memory) (bytes : ℕ) : Prop :=
  ∀ slot pid,
    eval m (tryReadNotificationQuerySlot bytes kProcessQueryPropertyPid) =
      some slot →
    BoxesU32 m slot pid → pid ≠ 0 →
    eventFamilyName (boundNotification m bytes).eventType = .process ∧
      ∃ listed, ((notificationSlots m bytes).find? fun s =>
          slotKey s == pidKey) = some listed ∧
        listed.2.value % 2 ^ 32 = pid

/-- What the first reader takes is the process id of the keys. -/
theorem decodedKeys_pid {bytes pid : ℕ} {header : NotificationHeader}
    (hheader : eval m (readNotificationHeader bytes) = some header)
    (h : eval m (tryReadNotificationQueryPid bytes) = some pid)
    (hpid : pid ≠ 0) : (decodedKeys m bytes).pid = pid := by
  have hvars := keyVars_pid (boundNotification m bytes) h hpid
  rw [decodedKeys_readable hheader, ← hvars]
  exact foldl_takeFromProperty_keeps (hvars ▸ hpid)

theorem pidFromQueryArray_listed {bytes : ℕ}
    (hagrees : PidSlotAgrees m bytes) (h : PidFromQueryArray m bytes) :
    PidIsListed m bytes := by
  obtain ⟨hheader, hsource⟩ := h
  obtain ⟨header, hheader⟩ := Option.isSome_iff_exists.mp hheader
  have hproperties := decodedKeys_properties m bytes
  have hkeys := decodedKeys_readable hheader
  unfold PidIsListed
  rcases hsource with ⟨pid, hread, hpid⟩ | ⟨hzero, hpid, slot, hslot, hkey⟩
  · obtain ⟨slot, hslot, hboxes⟩ :=
      tryReadNotificationQueryPid_eq_some.mp hread
    obtain ⟨hfamily, listed, hlisted, hvalue⟩ :=
      hagrees slot pid hslot hboxes hpid
    have hset := decodedKeys_pid hheader hread hpid
    refine ⟨by rw [hkeys]; exact hfamily, ?_⟩
    obtain ⟨p, hp, hkey⟩ :=
      hproperties.complete listed (List.mem_of_find?_eq_some hlisted)
    have hfound := List.find?_some hlisted
    have hlistedKey : slotKey listed = pidKey := eq_of_beq hfound
    obtain ⟨first, hfirst, rfl⟩ := hproperties.first p hp
    rw [hkey, hlistedKey, hlisted] at hfirst
    cases hfirst
    exact ⟨_, hp, hkey.trans hlistedKey, hset.trans hvalue.symm⟩
  · have hfamily : slot.1 =
        eventFamilyName (boundNotification m bytes).eventType := by
      obtain ⟨found, -, rfl⟩ := List.mem_map.mp hslot
      rfl
    rw [hkeys] at hpid ⊢
    obtain ⟨p, hp, hprocess, hid, hvalue⟩ :=
      foldl_takeFromProperty_takes hzero hpid
    refine ⟨?_, p, hp, ?_, hvalue⟩
    · rw [← hfamily]
      exact congrArg Prod.fst hkey
    · exact Prod.ext hprocess hid

/-! ## Process events -/

/-- A larger limit finds the same slots. -/
theorem querySlots_of_le {limit bound bytes : ℕ} {cursors : List ℕ}
    (hle : limit ≤ bound)
    (h : eval m (querySlots limit bytes) = some cursors) :
    eval m (querySlots bound bytes) = some cursors := by
  obtain ⟨count, array, hcount, ⟨hsome, hlimit⟩, harray, hcursors⟩ :=
    querySlots_layout.mp h
  exact querySlots_layout.mpr
    ⟨count, array, hcount, ⟨hsome, hlimit.trans hle⟩, harray, hcursors⟩

/-- The number in the low half of a number of eight bytes. -/
theorem notifyReadU64_low {base offset low value : ℕ}
    (hlow : eval m (notifyReadU32 base offset) = some low)
    (hvalue : eval m (notifyReadU64 base offset) = some value) :
    value % 2 ^ 32 = low := by
  have hlowBytes := (eval_readPod_eq_some.mp hlow).2.2
  have hbytes := (eval_readPod_eq_some.mp hvalue).2.2
  rw [hbytes, hlowBytes]
  simp only [List.range'_succ, List.range'_zero, List.map_cons, List.map_nil,
    littleEndian]
  have hfirst := (m.image (atOffset base offset)).toNat_lt
  have hsecond := (m.image (atOffset base offset + 1)).toNat_lt
  have hthird := (m.image (atOffset base offset + 1 + 1)).toNat_lt
  have hfourth := (m.image (atOffset base offset + 1 + 1 + 1)).toNat_lt
  omega

/-- The slots before the first one with a property number have another one,
wherever they can be read. -/
theorem tryReadNotificationQuerySlot_first {bytes property cursor : ℕ}
    (h : eval m (tryReadNotificationQuerySlot bytes property) =
      some cursor) :
    bytes ≠ 0 ∧ ∃ before after,
      eval m (querySlots kNotificationQueryCountMax bytes) =
        some (before ++ cursor :: after) ∧
      ∀ other ∈ before, ∀ slot, readableSlot m other = some slot →
        slot.id ≠ property := by
  simp only [tryReadNotificationQuerySlot, findQuerySlot, eval_bind,
    eval_guard_eq_some, eval_firstOf, Option.bind_eq_some_iff] at h
  obtain ⟨_, hbytes, cursors, hcursors, hfirst⟩ := h
  obtain ⟨before, found, after, rfl, hfound, hbefore⟩ :=
    List.findSome?_eq_some_iff.mp hfirst
  simp only [slotHasProperty, eval_bind, eval_guard_eq_some, eval_pure,
    Option.bind_eq_some_iff, Option.some.injEq] at hfound
  obtain ⟨_, -, rfl⟩ := hfound
  refine ⟨hbytes, before, after, hcursors, ?_⟩
  intro other hother slot hslot hid
  have hread : eval m (notifyReadU32 other 0) = some slot.id :=
    eval_readPod_iff.mpr (readableSlot_layout.mp hslot).2.1
  have hnone := hbefore other hother
  rw [hid] at hread
  simp [slotHasProperty, hread] at hnone

/-- A process event agrees with its first slot 6 once all of that slot can be
read: it is listed, and with the number that it boxes. -/
theorem pidSlotAgrees_of_readable {bytes : ℕ}
    (hheader : (eval m (readNotificationHeader bytes)).isSome = true)
    (hfamily : eventFamilyName (boundNotification m bytes).eventType =
      .process)
    (hreadable : ∀ cursor,
      eval m (tryReadNotificationQuerySlot bytes kProcessQueryPropertyPid) =
        some cursor → (readableSlot m cursor).isSome = true) :
    PidSlotAgrees m bytes := by
  intro cursor pid hcursor hboxes _
  obtain ⟨slot, hslot⟩ :=
    Option.isSome_iff_exists.mp (hreadable cursor hcursor)
  obtain ⟨-, hidAt, -, hvalueAt⟩ := readableSlot_layout.mp hslot
  have hid : eval m (notifyReadU32 cursor 0) = some slot.id :=
    eval_readPod_iff.mpr hidAt
  have hvalue : eval m (notifyReadU64 cursor 8) = some slot.value :=
    eval_readPod_iff.mpr hvalueAt
  obtain ⟨hbytes, before, after, hslots, hbefore⟩ :=
    tryReadNotificationQuerySlot_first hcursor
  have hall : eval m (querySlots kQueryPropertiesMax bytes) =
      some (before ++ cursor :: after) :=
    querySlots_of_le (by decide) hslots
  have hsix : slot.id = kProcessQueryPropertyPid := by
    have hproperty := tryReadNotificationQuerySlot_property hcursor
    rw [hid] at hproperty
    exact Option.some.inj hproperty
  refine ⟨hfamily, (.process, slot), ?_, notifyReadU64_low hboxes.2 hvalue⟩
  obtain ⟨header, hheader⟩ := Option.isSome_iff_exists.mp hheader
  -- no slot before it in the query array has its key
  have hfront : ((before.filterMap (readableSlot m)).map fun slot =>
      (Family.process, slot)).find? (fun s => slotKey s == pidKey) = none := by
    rw [List.find?_eq_none]
    intro listed hlisted hkey
    obtain ⟨other, hother, rfl⟩ := List.mem_map.mp hlisted
    obtain ⟨position, hposition, hread⟩ := List.mem_filterMap.mp hother
    have hsame : slotKey (Family.process, other) = pidKey := eq_of_beq hkey
    exact hbefore position hposition other hread (Prod.mk.inj hsame).2
  have hhit : (slotKey (Family.process, slot) == pidKey) = true := by
    simp [slotKey, pidKey, hsix]
  unfold notificationSlots
  rw [hheader]
  dsimp only
  unfold readableSlots
  rw [if_neg hbytes, hfamily, hall, familySlots, Option.getD_some,
    List.filterMap_append, List.filterMap_cons_some hslot, List.map_append,
    List.map_cons, List.append_assoc, List.append_assoc, List.append_assoc,
    List.find?_append, hfront, Option.none_or, List.cons_append]
  exact List.find?_cons_of_pos hhit

/-- A process id from the query array is the listed one of a process event
exactly when the first slot with that property number agrees with what is
listed. -/
theorem pidFromQueryArray_isListed_iff (m : Memory) (bytes : ℕ) :
    (PidFromQueryArray m bytes → PidIsListed m bytes) ↔
      ((eval m (readNotificationHeader bytes)).isSome = true →
        PidSlotAgrees m bytes) := by
  constructor
  · intro hclaim hheader slot pid hslot hboxes hpid
    have hread := tryReadNotificationQueryPid_eq_some.mpr
      ⟨slot, hslot, hboxes⟩
    obtain ⟨hfamily, p, hp, hkey, hvalue⟩ :=
      hclaim ⟨hheader, .inl ⟨pid, hread, hpid⟩⟩
    obtain ⟨header, hheader⟩ := Option.isSome_iff_exists.mp hheader
    obtain ⟨listed, hlisted, rfl⟩ :=
      (decodedKeys_properties m bytes).first p hp
    rw [hkey] at hlisted
    rw [decodedKeys_pid hheader hread hpid] at hvalue
    rw [decodedKeys_readable hheader] at hfamily
    exact ⟨hfamily, listed, hlisted, hvalue.symm⟩
  · intro hagrees hsource
    exact pidFromQueryArray_listed (hagrees hsource.1) hsource

/-- A registry notification with one slot in its query array: the title
index, a 32-bit number. -/
def titleIndexMemory : Memory :=
  wordMemory fun word =>
    if word = (0x1000 + 224) / 4 then kEventRegCreateKey
    else if word = (0x1000 + 0x120) / 4 then 1
    else if word = (0x1000 + 0x128) / 4 then 0x2000
    else if word = 0x2000 / 4 then 6
    else if word = 0x2004 / 4 then kBoxedTypeU32
    else if word = 0x2008 / 4 then 4321
    else 0

/-- The title index is taken for a process id. -/
theorem titleIndex_isNotProcess :
    ¬ (PidFromQueryArray titleIndexMemory 0x1000 →
      PidIsListed titleIndexMemory 0x1000) := by
  intro hclaim
  have hheader : eval titleIndexMemory (readNotificationHeader 0x1000) =
      some ⟨0, 0, 0⟩ := by
    decide
  have hread : eval titleIndexMemory (tryReadNotificationQueryPid 0x1000) =
      some 4321 := by
    decide
  have hbound : (boundNotification titleIndexMemory 0x1000).eventType =
      kEventRegCreateKey := by
    decide
  have hfamily := (hclaim ⟨by rw [hheader]; rfl,
    .inl ⟨4321, hread, by decide⟩⟩).1
  rw [decodedKeys_readable hheader, hbound] at hfamily
  cases hfamily

end Esptool.Esp
