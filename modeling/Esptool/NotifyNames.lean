import Esptool.NotifyPid

/-!
# Two readers of the process bag

The properties of a bag are the slots of the array that its header points to.
The reader of the name takes that pointer for its first slot too, but looks for
the others behind the header of the bag, so that the two readers agree on
slot 0 only.
-/

namespace Esptool.Esp

open CheckedRead

/-- A notification without query array, and a process bag of readable slots
with distinct property numbers, of which the first with a string is `k`. -/
structure NamedBag (m : Memory) (bytes params : ℕ)
    (slots : List PropertySlot) (k : ℕ) : Prop where
  notNull : bytes ≠ 0
  noQueryArray : eval m (querySlots kQueryPropertiesMax bytes) = none
  slots_read : ∃ cursors,
    eval m (bagSlots params kParamsPidBagOffset) = some cursors ∧
      cursors.map (readableSlot m) = slots.map some
  distinct : (slots.map PropertySlot.id).Nodup
  named : ∃ slot, slots[k]? = some slot ∧ (slotText m slot).2 = true
  first : ∀ i < k, ∀ slot, slots[i]? = some slot →
    (slotText m slot).2 = false

/-- The reader of the name finds the first string that the properties list. -/
def ReadersAgree (m : Memory) (bytes params : ℕ) : Prop :=
  ∀ eventType properties p,
    eval m (readNotificationProperties bytes eventType params []) =
      some properties →
    properties.find? (·.isString) = some p →
    eval m (tryReadNameFromQueryBag params) = some p.formattedValue

section

variable {m : Memory} {bytes params k : ℕ} {slots : List PropertySlot}

/-! ## The string that is listed first -/

theorem filterMap_readableSlot {cursors : List ℕ}
    (h : cursors.map (readableSlot m) = slots.map some) :
    cursors.filterMap (readableSlot m) = slots := by
  have hjoin := congrArg (List.filterMap id) h
  rwa [List.filterMap_map, List.filterMap_map, Function.id_comp,
    Function.id_comp, List.filterMap_some] at hjoin

/-- The properties of the bag come first, in the order of its slots. -/
theorem NamedBag.listed (h : NamedBag m bytes params slots k)
    {eventType : ℕ} {properties : List DecodedProperty}
    (hread : eval m (readNotificationProperties bytes eventType params []) =
      some properties) :
    slots.map (fun slot => propertyOf m (.process, slot)) <+: properties := by
  obtain ⟨cursors, hcursors, hslots⟩ := h.slots_read
  have hbag : familySlots m .process (some cursors) =
      slots.map fun slot => (Family.process, slot) := by
    rw [familySlots, Option.getD_some, filterMap_readableSlot hslots]
  have hkeys : ((slots.map fun slot =>
      propertyOf m (.process, slot)).map DecodedProperty.key).Nodup := by
    have hinjective := h.distinct.map
      (Prod.mk_right_injective Family.process)
    rwa [List.map_map] at hinjective ⊢
  rw [eval_readNotificationProperties, Option.some.injEq, readableSlots,
    if_neg h.notNull, h.noQueryArray, hcursors, hbag, List.append_assoc,
    List.append_assoc, List.map_append, List.map_append,
    Loops.keepFirst_append, Loops.keepFirst_append] at hread
  have hfirst : Loops.keepFirst DecodedProperty.key []
      (slots.map fun slot => propertyOf m (.process, slot)) =
        slots.map fun slot => propertyOf m (.process, slot) :=
    Loops.keepFirst_of_nodup hkeys
  rw [← hread, List.map_map]
  change _ <+: Loops.keepFirst _ (Loops.keepFirst _ []
    (slots.map fun slot => propertyOf m (.process, slot))) _
  rw [hfirst]
  exact Loops.prefix_keepFirst _ _

/-- The first listed string is that of slot `k`. -/
theorem NamedBag.find?_string (h : NamedBag m bytes params slots k)
    {slot : PropertySlot} (hslot : slots[k]? = some slot)
    (hstring : (slotText m slot).2 = true)
    {properties : List DecodedProperty}
    (hlisted : slots.map (fun slot => propertyOf m (.process, slot)) <+:
      properties) :
    properties.find? (·.isString) =
      some (propertyOf m (.process, slot)) := by
  obtain ⟨rest, rfl⟩ := hlisted
  obtain ⟨hk, hget⟩ := List.getElem?_eq_some_iff.mp hslot
  rw [List.find?_eq_some_iff_getElem]
  refine ⟨hstring, k, by simp; omega, ?_, ?_⟩
  · rw [List.getElem_append_left (by simpa using hk), List.getElem_map, hget]
  · intro i hi
    have hlt : i < slots.length := by omega
    rw [List.getElem_append_left (by simpa using hlt), List.getElem_map]
    have hplain := h.first i hi slots[i] (List.getElem?_eq_getElem hlt)
    simpa [propertyOf] using hplain

/-! ## Slot 0 -/

theorem notifyReadPtr_lt {base offset value : ℕ}
    (h : eval m (notifyReadPtr base offset) = some value) :
    value < 2 ^ 64 := by
  simp only [notifyReadPtr, eval_bind, eval_guard_eq_some, eval_pure,
    Option.bind_eq_some_iff, Option.some.injEq] at h
  obtain ⟨value, hread, _, -, rfl⟩ := h
  have hlt := littleEndian_lt
    ((List.range' (atOffset base offset) 8).map m.image)
  rw [← (eval_readPod_eq_some.mp hread).2.2, List.length_map,
    List.length_range'] at hlt
  exact hlt

theorem slotText_string {slot : PropertySlot}
    (h : (slotText m slot).2 = true) :
    isNameBoxedType slot.type = true ∧
      eval m (tryReadUnicodeString slot.value) =
        some (slotText m slot).1 := by
  unfold slotText at h ⊢
  split at h
  · rename_i hname
    dsimp only at h
    split at h
    · rename_i htext
      rw [if_pos hname, if_pos htext]
      refine ⟨hname, ?_⟩
      cases hread : eval m (tryReadUnicodeString slot.value) with
      | none =>
          rw [hread] at htext
          exact absurd rfl htext
      | some text => rfl
    · cases h
  split at h
  · cases h
  · cases h

/-- A string slot is read alike by its address. -/
theorem nameOfBagEntry_slot {bag index boxed : ℕ} {slot : PropertySlot}
    (hboxed : eval m (notifyReadPtr bag
      (kObjectQueryPtrOffset + index * kPropertyCollectionStride)) =
        some boxed)
    (hslot : readableSlot m boxed = some slot)
    (hstring : (slotText m slot).2 = true) :
    eval m (nameOfBagEntry bag index) = some (slotText m slot).1 := by
  obtain ⟨hname, hread⟩ := slotText_string hstring
  unfold readableSlot at hslot
  split at hslot
  · simp only [Option.bind_eq_bind, Option.bind_eq_some_iff] at hslot
    obtain ⟨id, -, type, htype, value, hvalue, hpure⟩ := hslot
    cases hpure
    have hnotNull : value ≠ 0 := by
      rintro rfl
      simp [tryReadUnicodeString] at hread
    have hdescriptor : eval m (nameDescriptor boxed) = some value := by
      rw [nameDescriptor, eval_bind]
      change (eval m (notifyReadU32 boxed 4)).bind _ = _
      rw [htype, Option.bind_some, eval_bind, eval_guard, if_pos hname,
        Option.bind_some, notifyReadPtr, eval_bind]
      change (eval m (notifyReadU64 boxed 8)).bind _ = _
      rw [hvalue, Option.bind_some, eval_bind, eval_guard, if_pos hnotNull]
      rfl
    rw [nameOfBagEntry, eval_bind, eval_orKeep, hboxed, Option.getD_some,
      Option.bind_some, eval_bind, eval_attempt, hdescriptor]
    exact hread
  · cases hslot

theorem nameOfBagEntry_none {bag index : ℕ} (boxed : ℕ)
    (hboxed : (eval m (notifyReadPtr bag (kObjectQueryPtrOffset +
      index * kPropertyCollectionStride))).getD 0 = boxed)
    (hdescriptor : eval m (nameDescriptor boxed) = none)
    (hvalue : eval m (tryReadNameFromPropertyValue boxed) = none) :
    eval m (nameOfBagEntry bag index) = none := by
  rw [nameOfBagEntry, eval_bind, eval_orKeep, hboxed, Option.bind_some,
    eval_bind, eval_attempt, hdescriptor]
  exact hvalue

/-- A string in slot 0 is found by both readers. -/
theorem NamedBag.readersAgree (h : NamedBag m bytes params slots 0) :
    ReadersAgree m bytes params := by
  intro eventType properties p hread hp
  obtain ⟨slot, hslot, hstring⟩ := h.named
  rw [h.find?_string hslot hstring (h.listed hread)] at hp
  cases hp
  change _ = some (slotText m slot).1
  obtain ⟨cursors, hcursors, hslots⟩ := h.slots_read
  simp only [bagSlots, eval_bind, eval_guard_eq_some, eval_pure,
    Option.bind_eq_some_iff, Option.some.injEq] at hcursors
  obtain ⟨bag, hbag, count, hcount, _, ⟨hpositive, -⟩, items, hitems, rfl⟩ :=
    hcursors
  obtain ⟨rest, hrange⟩ : ∃ rest, List.range count = 0 :: rest := by
    cases count with
    | zero => exact absurd rfl hpositive
    | succ count => exact ⟨_, List.range_succ_eq_map⟩
  have hfirst : readableSlot m items = some slot := by
    obtain ⟨later, rfl⟩ : ∃ later, slots = slot :: later := by
      cases slots with
      | nil => cases hslot
      | cons first later => exact ⟨later, by rw [Option.some.inj hslot]⟩
    rw [hrange, List.map_map, List.map_cons, List.map_cons,
      List.cons.injEq] at hslots
    have haddress : atOffset items (0 * kPropertyCollectionStride) = items := by
      rw [atOffset, Nat.zero_mul, Nat.add_zero,
        Nat.mod_eq_of_lt (notifyReadPtr_lt hitems)]
    rw [← haddress]
    exact hslots.1
  have hentry : eval m (nameOfBagEntry bag 0) = some (slotText m slot).1 :=
    nameOfBagEntry_slot hitems hfirst hstring
  rw [tryReadNameFromQueryBag, eval_bind, hbag, Option.bind_some, eval_bind,
    hcount, Option.bind_some, eval_bind, eval_guard, if_pos hpositive,
    Option.bind_some, eval_firstOf, hrange, List.findSome?_cons, hentry]

end

/-! ## A string in another slot -/

section

variable {words : ℕ → ℕ} {base offset : ℕ} (word : ℕ)

theorem readPod_word (hbase : base ≠ 0) (haddress : base + offset = 4 * word)
    (hlt : 4 * word < 2 ^ 64) (size : ℕ) :
    eval (wordMemory words) (readPod base offset size) =
      some (littleEndian
        ((List.range' (4 * word) size).map (wordImage words))) := by
  have hoffset : atOffset base offset = 4 * word := by
    rw [atOffset, haddress, Nat.mod_eq_of_lt hlt]
  rw [readPod, eval_bind, eval_guard, if_pos hbase, Option.bind_some,
    eval_bind, hoffset, eval_readRange_word (by omega)]
  rfl

theorem readPod_low (hbase : base ≠ 0) (haddress : base + offset = 4 * word)
    (hlt : 4 * word < 2 ^ 64) {size : ℕ} (hsize : size ≤ 4) :
    eval (wordMemory words) (readPod base offset size) =
      some (words word % 0x100 ^ size) := by
  rw [readPod_word word hbase haddress hlt, littleEndian_word word hsize]

theorem notifyReadU32_word (hbase : base ≠ 0)
    (haddress : base + offset = 4 * word) (hlt : 4 * word < 2 ^ 64) :
    eval (wordMemory words) (notifyReadU32 base offset) =
      some (words word % 2 ^ 32) :=
  readPod_low word hbase haddress hlt (by omega)

theorem notifyReadU64_word (hbase : base ≠ 0)
    (haddress : base + offset = 4 * word) (hlt : 4 * word < 2 ^ 64)
    (hhigh : words (word + 1) = 0) :
    eval (wordMemory words) (notifyReadU64 base offset) =
      some (words word % 2 ^ 32) := by
  rw [notifyReadU64, readPod_word word hbase haddress hlt,
    littleEndian_twoWords, hhigh]
  rfl

theorem notifyReadPtr_word (hbase : base ≠ 0)
    (haddress : base + offset = 4 * word) (hlt : 4 * word < 2 ^ 64)
    (hhigh : words (word + 1) = 0) :
    eval (wordMemory words) (notifyReadPtr base offset) =
      if words word % 2 ^ 32 ≠ 0 then some (words word % 2 ^ 32)
      else none := by
  have hread := notifyReadU64_word word hbase haddress hlt hhigh
  rw [notifyReadU64] at hread
  rw [notifyReadPtr, eval_bind, hread, Option.bind_some, eval_bind,
    eval_guard]
  split
  · rfl
  · rfl

end

/-- The fields of slot `i` of the bag: a number, or a string in slot `k`. -/
def slotWord (k i : ℕ) : ℕ → ℕ
  | 0 => 100 + i
  | 1 => if i = k then kBoxedTypeUnicodeString else kBoxedTypeU32
  | 2 => if i = k then 0x3000 else 0
  | _ => 0

/-- The parameters at 0x1000, the header of the bag at 0x1100, its `n` slots
at 0x2000, and a string of one letter at 0x3000. -/
def bagWords (n k word : ℕ) : ℕ :=
  if word = 0x1010 / 4 then 0x1100
  else if word = 0x1108 / 4 then n
  else if word = 0x1110 / 4 then 0x2000
  else if 0x2000 / 4 ≤ word ∧ word < 0x2000 / 4 + 4 * n then
    slotWord k ((word - 0x2000 / 4) / 4) (word % 4)
  else if word = 0x3000 / 4 then 2
  else if word = 0x3008 / 4 then 0x4000
  else if word = 0x4000 / 4 then 0x41
  else 0

def bagSlot (k i : ℕ) : PropertySlot :=
  ⟨slotWord k i 0, slotWord k i 1, slotWord k i 2⟩

section

variable {n k : ℕ}

theorem bagWords_slot {i field : ℕ} (hn : n ≤ 64) (hi : i < n)
    (hfield : field < 4) :
    bagWords n k (0x800 + 4 * i + field) = slotWord k i field := by
  have hindex : (0x800 + 4 * i + field - 0x2000 / 4) / 4 = i := by omega
  have hrest : (0x800 + 4 * i + field) % 4 = field := by omega
  rw [bagWords, if_neg (by omega), if_neg (by omega), if_neg (by omega),
    if_pos (by omega), hindex, hrest]

/-- Elsewhere there are zeros. -/
theorem bagWords_zero {word : ℕ} (hn : n ≤ 64)
    (h : word ∉ [0x404, 0x442, 0x444, 0xC00, 0xC02, 0x1000])
    (hslots : word < 0x800 ∨ 0x900 ≤ word) : bagWords n k word = 0 := by
  simp only [List.mem_cons, List.not_mem_nil, or_false, not_or] at h
  unfold bagWords
  split_ifs
  all_goals omega

def bagMemory (n k : ℕ) : Memory := wordMemory (bagWords n k)

theorem bagMemory_header (hn : n ≤ 64) :
    eval (bagMemory n k) (notifyReadPtr 0x1000 kParamsPidBagOffset) =
        some 0x1100 ∧
      eval (bagMemory n k) (notifyReadU32 0x1100 kObjectQueryCountOffset) =
        some n ∧
      eval (bagMemory n k) (notifyReadPtr 0x1100 kObjectQueryPtrOffset) =
        some 0x2000 := by
  refine ⟨?_, ?_, ?_⟩
  · exact notifyReadPtr_word 0x404 (by simp) (by simp) (by simp)
      (bagWords_zero hn (by simp) (by simp))
  · have hcount : n % 2 ^ 32 = n := by omega
    rw [bagMemory, notifyReadU32_word 0x442 (by simp) (by simp) (by simp)]
    exact congrArg some hcount
  · exact notifyReadPtr_word 0x444 (by simp) (by simp) (by simp)
      (bagWords_zero hn (by simp) (by simp))

theorem bagSlots_words (hpositive : n ≠ 0) (hn : n ≤ 64) :
    eval (bagMemory n k) (bagSlots 0x1000 kParamsPidBagOffset) =
      some ((List.range n).map fun i => 0x2000 + 16 * i) := by
  obtain ⟨hbag, hcount, hitems⟩ := bagMemory_header (k := k) hn
  rw [bagSlots, eval_bind, hbag, Option.bind_some, eval_bind, hcount,
    Option.bind_some, eval_bind, eval_guard, if_pos ⟨hpositive, hn⟩,
    Option.bind_some, eval_bind, hitems, Option.bind_some, eval_pure]
  rw [Option.some.injEq]
  apply List.map_congr_left
  intro i hi
  rw [List.mem_range] at hi
  rw [atOffset, Nat.mod_eq_of_lt (by simp; omega)]
  simp [Nat.mul_comm]

theorem slotWord_lt {i : ℕ} (hi : i < 64) (field : ℕ) :
    slotWord k i field < 2 ^ 32 := by
  unfold slotWord kBoxedTypeUnicodeString kBoxedTypeU32
  split
  all_goals try split
  all_goals omega

theorem readableSlot_words {i : ℕ} (hn : n ≤ 64) (hi : i < n) :
    readableSlot (bagMemory n k) (0x2000 + 16 * i) = some (bagSlot k i) := by
  have hfield (field : ℕ) (h : field < 4) :
      bagWords n k (0x800 + 4 * i + field) % 2 ^ 32 = slotWord k i field := by
    rw [bagWords_slot hn hi h, Nat.mod_eq_of_lt (slotWord_lt (by omega) field)]
  have hid : eval (bagMemory n k) (notifyReadU32 (0x2000 + 16 * i) 0) =
      some (slotWord k i 0) := by
    rw [← hfield 0 (by omega)]
    exact notifyReadU32_word _ (by omega) (by omega) (by omega)
  have htype : eval (bagMemory n k) (notifyReadU32 (0x2000 + 16 * i) 4) =
      some (slotWord k i 1) := by
    rw [← hfield 1 (by omega)]
    exact notifyReadU32_word _ (by omega) (by omega) (by omega)
  have hhigh : bagWords n k (0x800 + 4 * i + 2 + 1) = 0 :=
    bagWords_slot hn hi (show 3 < 4 by omega)
  have hvalue : eval (bagMemory n k) (notifyReadU64 (0x2000 + 16 * i) 8) =
      some (slotWord k i 2) := by
    rw [← hfield 2 (by omega)]
    exact notifyReadU64_word _ (by omega) (by omega) (by omega) hhigh
  have hreadable : (bagMemory n k).readable (0x2000 + 16 * i) 16 = true :=
    bne_iff_ne.mpr (by omega)
  rw [readableSlot, if_pos hreadable, hid, htype, hvalue]
  rfl

theorem tryReadUnicodeString_words (hn : n ≤ 64) :
    eval (bagMemory n k) (tryReadUnicodeString 0x3000) = some "A" := by
  have hword (word : ℕ) (h : word = 0xC00 ∨ word = 0xC02 ∨ word = 0x1000) :
      bagWords n k word =
        if word = 0xC00 then 2 else if word = 0xC02 then 0x4000 else 0x41 := by
    unfold bagWords
    split_ifs
    all_goals omega
  have hlength : eval (bagMemory n k)
      (notifyReadU16 0x3000 kUnicodeStringLengthOffset) = some 2 := by
    have hread : eval (bagMemory n k) (readPod 0x3000 0 2) =
        some (bagWords n k 0xC00 % 0x100 ^ 2) :=
      readPod_low 0xC00 (by simp) (by simp) (by simp) (by omega)
    rwa [hword 0xC00 (by simp)] at hread
  have hbuffer : eval (bagMemory n k)
      (notifyReadPtr 0x3000 kUnicodeStringBufferOffset) = some 0x4000 := by
    rw [bagMemory, notifyReadPtr_word 0xC02 (by simp) (by simp) (by simp)
      (bagWords_zero hn (by simp) (by simp)), hword 0xC02 (by simp)]
    rfl
  have htext : eval (bagMemory n k) (readRange 0x4000 2) =
      some [0x41, 0] := by
    have hlow : wordImage (bagWords n k) (4 * 0x1000 + 0) = _ :=
      wordImage_byte 0x1000 (by omega)
    have hhigh : wordImage (bagWords n k) (4 * 0x1000 + 1) = _ :=
      wordImage_byte 0x1000 (by omega)
    rw [hword 0x1000 (by simp)] at hlow hhigh
    rw [bagMemory, eval_readRange_word (by simp)]
    change some [wordImage (bagWords n k) (4 * 0x1000 + 0),
      wordImage (bagWords n k) (4 * 0x1000 + 1)] = _
    rw [hlow, hhigh]
    rfl
  rw [tryReadUnicodeString, eval_bind, eval_guard, if_pos (by simp),
    Option.bind_some, eval_bind, hlength, Option.bind_some, eval_bind,
    hbuffer, Option.bind_some, eval_bind, eval_guard, if_pos (by simp),
    Option.bind_some, eval_bind, htext]
  rfl

theorem slotText_words {i : ℕ} (hn : n ≤ 64) :
    (slotText (bagMemory n k) (bagSlot k i)).2 = decide (i = k) := by
  by_cases hik : i = k
  · have htype : isNameBoxedType (bagSlot k i).type = true := by
      simp [bagSlot, slotWord, isNameBoxedType, hik]
    have hvalue : (bagSlot k i).value = 0x3000 := by
      simp [bagSlot, slotWord, hik]
    rw [slotText, if_pos htype, hvalue, tryReadUnicodeString_words hn]
    simp [hik]
  · have htype : (bagSlot k i).type = kBoxedTypeU32 := by
      simp [bagSlot, slotWord, hik]
    rw [slotText, htype]
    simp [isNameBoxedType, hik]

/-- The reader of the name finds no string: slot 0 has none, and behind the
header of the bag there are zeros. -/
theorem tryReadNameFromQueryBag_words (hk : 1 ≤ k) (hkn : k < n)
    (hn : n ≤ 64) :
    eval (bagMemory n k) (tryReadNameFromQueryBag 0x1000) = none := by
  obtain ⟨hbag, hcount, hitems⟩ := bagMemory_header (k := k) hn
  rw [tryReadNameFromQueryBag, eval_bind, hbag, Option.bind_some, eval_bind,
    hcount, Option.bind_some, eval_bind, eval_guard, if_pos (by omega),
    Option.bind_some, eval_firstOf, List.findSome?_eq_none_iff]
  have hfirst (field : ℕ) (h : field < 4) :
      bagWords n k (0x800 + field) = slotWord k 0 field :=
    bagWords_slot hn (show 0 < n by omega) h
  intro index hindex
  rw [List.mem_range] at hindex
  by_cases hzero : index = 0
  · refine nameOfBagEntry_none 0x2000 ?_ ?_ ?_
    · rw [hzero, Nat.zero_mul, Nat.add_zero, hitems]
      rfl
    · have htype : eval (bagMemory n k)
          (notifyReadU32 0x2000 kBoxedTypeOffset) = some kBoxedTypeU32 := by
        rw [bagMemory, notifyReadU32_word 0x801 (by simp) (by simp) (by simp),
          hfirst 1 (by omega), slotWord, if_neg (by omega)]
        rfl
      rw [nameDescriptor, eval_bind, htype]
      rfl
    · have htag : eval (bagMemory n k)
          (notifyReadU8 0x2000 kPropertyValueTagOffset) = some 100 := by
        have hread : eval (bagMemory n k) (readPod 0x2000 0 1) =
            some (bagWords n k 0x800 % 0x100 ^ 1) :=
          readPod_low 0x800 (by simp) (by simp) (by simp) (by omega)
        rwa [hfirst 0 (by omega)] at hread
      rw [tryReadNameFromPropertyValue, eval_bind, htag]
      rfl
  · refine nameOfBagEntry_none 0 ?_ ?_ ?_
    · have hlow : bagWords n k (0x444 + 4 * index) = 0 :=
        bagWords_zero hn (by simp; omega) (by omega)
      have hhigh : bagWords n k (0x444 + 4 * index + 1) = 0 :=
        bagWords_zero hn (by simp; omega) (by omega)
      rw [bagMemory, notifyReadPtr_word (0x444 + 4 * index) (by simp)
        (by simp; omega) (by omega) hhigh, hlow]
      rfl
    · simp [nameDescriptor, notifyReadU32, readPod]
    · simp [tryReadNameFromPropertyValue, notifyReadU8, readPod]

theorem namedBag_words (hkn : k < n) (hn : n ≤ 64) :
    NamedBag (bagMemory n k) 0x5000 0x1000 ((List.range n).map (bagSlot k))
      k where
  notNull := by simp
  noQueryArray := by
    have hcount : eval (bagMemory n k)
        (notifyReadU32 0x5000 kNotificationQueryCountOffset) = some 0 := by
      rw [bagMemory, notifyReadU32_word 0x1448 (by simp) (by simp) (by simp),
        bagWords_zero hn (by simp) (by simp)]
      rfl
    rw [querySlots, eval_bind, hcount]
    rfl
  slots_read := by
    refine ⟨_, bagSlots_words (by omega) hn, ?_⟩
    rw [List.map_map, List.map_map]
    apply List.map_congr_left
    intro i hi
    exact readableSlot_words hn (List.mem_range.mp hi)
  distinct := by
    rw [List.map_map]
    refine List.nodup_range.map ?_
    intro i j hij
    exact Nat.add_left_cancel hij
  named := by
    refine ⟨bagSlot k k, by simp [hkn], ?_⟩
    rw [slotText_words hn]
    simp
  first := by
    intro i hi slot hslot
    rw [List.getElem?_map, List.getElem?_range (by omega),
      Option.map_some, Option.some.injEq] at hslot
    rw [← hslot, slotText_words hn]
    simp
    omega

theorem not_readersAgree_words (hk : 1 ≤ k) (hkn : k < n) (hn : n ≤ 64) :
    ¬ ReadersAgree (bagMemory n k) 0x5000 0x1000 := by
  intro hagree
  have hbag := namedBag_words hkn hn
  obtain ⟨slot, hslot, hstring⟩ := hbag.named
  have hread := eval_readNotificationProperties (m := bagMemory n k) 0x5000 0
    0x1000 []
  have hname := hagree 0 _ _ hread
    (hbag.find?_string hslot hstring (hbag.listed hread))
  rw [tryReadNameFromQueryBag_words hk hkn hn] at hname
  cases hname

end

/-! ## The results -/

/-- In a bag of `n` slots whose first string is in slot `k` the two readers
agree, whatever else the memory holds, exactly when `k` is 0. -/
theorem readersAgree_iff {n k : ℕ} (hkn : k < n) (hn : n ≤ 64) :
    (∀ m bytes params slots, slots.length = n →
      NamedBag m bytes params slots k → ReadersAgree m bytes params) ↔
      k = 0 := by
  constructor
  · intro hagree
    by_contra hk
    exact not_readersAgree_words (by omega) hkn hn
      (hagree _ _ _ _ (by simp) (namedBag_words hkn hn))
  · rintro rfl m bytes params slots - hbag
    exact hbag.readersAgree

theorem readersAgree_three :
    (∀ m bytes params slots, slots.length = 3 →
      NamedBag m bytes params slots 1 → ReadersAgree m bytes params) ↔
      1 = 0 :=
  readersAgree_iff (by omega) (by omega)

/-- A name in slot 1 of two is listed but not found. -/
theorem secondSlot_notFound :
    NamedBag (bagMemory 2 1) 0x5000 0x1000 ((List.range 2).map (bagSlot 1))
        1 ∧
      ¬ ReadersAgree (bagMemory 2 1) 0x5000 0x1000 := by
  have hbag : NamedBag (bagMemory 2 1) 0x5000 0x1000
      ((List.range 2).map (bagSlot 1)) 1 :=
    namedBag_words (by omega) (by omega)
  exact ⟨hbag, not_readersAgree_words (by omega) (by omega) (by omega)⟩

end Esptool.Esp
