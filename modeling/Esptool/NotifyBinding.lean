import Esptool.NotifyNames

/-!
# Binding the process layout

The process layout is tried at two parameter locations one after the other,
but an attempt succeeds on the event type alone.  The two attempts read the
type at the same offset, so the second is never reached: where the first
location holds nothing, the parameters are lost.
-/

namespace Esptool.Esp

open CheckedRead

/-- The event data of a process notification that holds its parameters at the
second location: no event type where the other layouts have it, nothing at the
first location. -/
structure SecondLocation (m : Memory) (data params : ℕ) : Prop where
  primary : ∀ type,
    eval m (notifyReadU32 data kEventDataTypeOffsetPrimary) = some type →
      isSparseEventType type = false
  alternate : ∀ type,
    eval m (notifyReadU32 data kEventDataTypeOffsetAlternate) = some type →
      isSparseEventType type = false
  process : ∃ type,
    eval m (notifyReadU32 data kEventDataTypeOffsetProcess) = some type ∧
      isSparseEventType type = true
  first : eval m (notifyReadPtr data kNotificationProcessObjectOffset) = none
  second :
    eval m (notifyReadPtr data kEventDataParamsOffsetPrimary) = some params

section

variable {m : Memory} {data typeOff paramsOff params : ℕ} {primary : Bool}

theorem tryBindLayout_none
    (h : ∀ type, eval m (notifyReadU32 data typeOff) = some type →
      isSparseEventType type = false) :
    eval m (tryBindLayout data typeOff paramsOff primary) = none := by
  rw [tryBindLayout, eval_bind, Option.bind_eq_none_iff]
  intro type htype
  rw [eval_bind, eval_guard, if_neg (by rw [h type htype]; decide)]
  rfl

/-- A layout with a sparse event type is bound, whatever its parameters. -/
theorem tryBindLayout_some {type : ℕ}
    (htype : eval m (notifyReadU32 data typeOff) = some type)
    (hsparse : isSparseEventType type = true) :
    eval m (tryBindLayout data typeOff paramsOff primary) =
      some ⟨type, (eval m (notifyReadPtr data paramsOff)).getD 0, primary,
        typeOff⟩ := by
  rw [tryBindLayout, eval_bind, htype, Option.bind_some, eval_bind,
    eval_guard, if_pos hsparse, Option.bind_some, eval_bind, eval_orKeep]
  rfl

theorem notifyReadPtr_ne_zero {base offset value : ℕ}
    (h : eval m (notifyReadPtr base offset) = some value) : value ≠ 0 := by
  simp only [notifyReadPtr, eval_bind, eval_guard_eq_some, eval_pure,
    Option.bind_eq_some_iff, Option.some.injEq] at h
  obtain ⟨word, -, _, hword, rfl⟩ := h
  exact hword

/-- The event data is bound by the first location alone, without parameters. -/
theorem SecondLocation.bound (h : SecondLocation m data params) :
    ∃ type, isSparseEventType type = true ∧
      eval m (tryBindEventData data) =
        some ⟨type, 0, true, kEventDataTypeOffsetProcess⟩ := by
  obtain ⟨type, htype, hsparse⟩ := h.process
  have hdata : data ≠ 0 := by
    rintro rfl
    simp [notifyReadU32, readPod] at htype
  refine ⟨type, hsparse, ?_⟩
  rw [tryBindEventData, if_neg hdata, eval_orElse,
    tryBindLayout_none h.primary, eval_orElse,
    tryBindLayout_none h.alternate, eval_orElse,
    tryBindLayout_some htype hsparse, h.first]
  rfl

/-- The parameters at the second location are never bound. -/
theorem tryBindEventData_secondLocation (h : SecondLocation m data params) :
    ¬ ∃ bound, eval m (tryBindEventData data) = some bound ∧
      bound.params = params := by
  obtain ⟨type, -, htype⟩ := h.bound
  rintro ⟨bound, hbound, rfl⟩
  rw [htype, Option.some.injEq] at hbound
  exact notifyReadPtr_ne_zero h.second (by rw [← hbound])

end

/-- A process creation with its parameters at the second location. -/
def processWords (word : ℕ) : ℕ :=
  if word = 0x438 then kEventProcessCreate
  else if word = 0x428 then 0x2000
  else 0

theorem secondLocation_processWords :
    SecondLocation (wordMemory processWords) 0x1000 0x2000 := by
  have hprimary : eval (wordMemory processWords)
      (notifyReadU32 0x1000 kEventDataTypeOffsetPrimary) = some 0 :=
    notifyReadU32_word 0x41E (by decide) (by decide) (by decide)
  have halternate : eval (wordMemory processWords)
      (notifyReadU32 0x1000 kEventDataTypeOffsetAlternate) = some 0 :=
    notifyReadU32_word 0x422 (by decide) (by decide) (by decide)
  have hprocess : eval (wordMemory processWords)
      (notifyReadU32 0x1000 kEventDataTypeOffsetProcess) =
        some kEventProcessCreate :=
    notifyReadU32_word 0x438 (by decide) (by decide) (by decide)
  have hfirst : eval (wordMemory processWords)
      (notifyReadPtr 0x1000 kNotificationProcessObjectOffset) = none :=
    notifyReadPtr_word 0x414 (by decide) (by decide) (by decide) rfl
  have hsecond : eval (wordMemory processWords)
      (notifyReadPtr 0x1000 kEventDataParamsOffsetPrimary) = some 0x2000 :=
    notifyReadPtr_word 0x428 (by decide) (by decide) (by decide) rfl
  constructor
  · intro type htype
    rw [hprimary] at htype
    cases htype
    rfl
  · intro type htype
    rw [halternate] at htype
    cases htype
    rfl
  · exact ⟨kEventProcessCreate, hprocess, rfl⟩
  · exact hfirst
  · exact hsecond

theorem tryBindEventData_secondLocation_processWords :
    ¬ ∃ bound,
      eval (wordMemory processWords) (tryBindEventData 0x1000) = some bound ∧
        bound.params = 0x2000 :=
  tryBindEventData_secondLocation secondLocation_processWords

/-- The pointer to `0x2000` is there, and null is bound. -/
theorem processWords_lost :
    SecondLocation (wordMemory processWords) 0x1000 0x2000 ∧
      (eval (wordMemory processWords) (tryBindEventData 0x1000)).map
        (·.params) = some 0 := by
  obtain ⟨type, -, hbound⟩ := secondLocation_processWords.bound
  exact ⟨secondLocation_processWords, by rw [hbound]; rfl⟩

end Esptool.Esp
