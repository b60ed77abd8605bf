import Esptool.Notifications

/-!
# Result codes

The result codes the tool knows and their names.  A result code is a signed
32-bit number.
-/

namespace Esptool.Esp

def kAccessDenied : EspResult := 0x80070005 - 2 ^ 32
def kInsufficientBuffer : EspResult := 0x8007007A - 2 ^ 32
def kModNotFound : EspResult := 0x8007007E - 2 ^ 32
def kNoMoreItems : EspResult := 0x80070103 - 2 ^ 32
def kNotFound : EspResult := 0x80070490 - 2 ^ 32
def kTimeout : EspResult := 0x800705B4 - 2 ^ 32
def kInvalidState : EspResult := 0x8007139F - 2 ^ 32
def kStatusAccessDenied : EspResult := 0xC0000022 - 2 ^ 32
def kStatusInvalidParameter : EspResult := 0xC000000D - 2 ^ 32
def kStatusEntrypointNotFound : EspResult := 0xC0000139 - 2 ^ 32
def kStatusAccessViolation : EspResult := 0xC0000005 - 2 ^ 32
def kStatusStackBufferOverrun : EspResult := 0xC0000409 - 2 ^ 32
def kStatusCancelled : EspResult := 0xC0000120 - 2 ^ 32

def kNtStatusErrorMask : BitVec 32 := 0xC0000000

def kResultNames : List (EspResult × String) := [
  (kOk, "S_OK"),
  (kFail, "E_FAIL"),
  (kAccessDenied, "E_ACCESSDENIED"),
  (kOutOfMemory, "E_OUTOFMEMORY"),
  (kInvalidArg, "E_INVALIDARG"),
  (kInsufficientBuffer, "ERROR_INSUFFICIENT_BUFFER"),
  (kModNotFound, "ERROR_MOD_NOT_FOUND"),
  (kAlreadyExists, "ERROR_ALREADY_EXISTS"),
  (kNoMoreItems, "ERROR_NO_MORE_ITEMS"),
  (kIoPending, "ERROR_IO_PENDING"),
  (kNotFound, "ERROR_NOT_FOUND"),
  (kTimeout, "ERROR_TIMEOUT"),
  (kInvalidState, "ERROR_INVALID_STATE"),
  (kStatusAccessDenied, "STATUS_ACCESS_DENIED"),
  (kStatusInvalidParameter, "STATUS_INVALID_PARAMETER"),
  (kStatusEntrypointNotFound, "STATUS_ENTRYPOINT_NOT_FOUND"),
  (kStatusAccessViolation, "STATUS_ACCESS_VIOLATION"),
  (kStatusStackBufferOverrun, "STATUS_STACK_BUFFER_OVERRUN"),
  (kStatusCancelled, "STATUS_CANCELLED")]

def describeResult (result : EspResult) : String :=
  ((kResultNames.find? fun entry => entry.1 == result).map
    Prod.snd).getD "HRESULT"

/-- The cast of a raw return value to a result code. -/
def toResult (raw : ℤ) : EspResult := raw.bmod (2 ^ 32)

/-- The 32 bits of a result code, as an exit code carries them. -/
def resultBits (result : ℤ) : BitVec 32 := BitVec.ofInt 32 result

/-- An exception code arrives as a negative result. -/
def isFault (result : ℤ) : Bool :=
  resultBits result &&& kNtStatusErrorMask == kNtStatusErrorMask

theorem toResult_idem (raw : ℤ) : toResult (toResult raw) = toResult raw :=
  Int.bmod_bmod

theorem mask_iff (bits : BitVec 32) :
    bits &&& kNtStatusErrorMask = kNtStatusErrorMask ↔
      bits.getLsbD 31 = true ∧ bits.getLsbD 30 = true := by
  have hmask : ∀ i < 32,
      kNtStatusErrorMask.getLsbD i = (i == 31 || i == 30) := by
    decide
  constructor
  · intro h
    have hbit (i : ℕ) := congrArg (fun x : BitVec 32 => x.getLsbD i) h
    simp only [BitVec.getLsbD_and] at hbit
    have hhigh := hbit 31
    have hlow := hbit 30
    rw [hmask 31 (by decide)] at hhigh
    rw [hmask 30 (by decide)] at hlow
    exact ⟨by simpa using hhigh, by simpa using hlow⟩
  · rintro ⟨hhigh, hlow⟩
    refine BitVec.eq_of_getLsbD_eq fun i hi => ?_
    rw [BitVec.getLsbD_and, hmask i hi]
    by_cases hi31 : i = 31
    · simp [hi31, hhigh]
    · by_cases hi30 : i = 30
      · simp [hi30, hlow]
      · simp [hi31, hi30]

/-- An exception code is a failure. -/
theorem isFault_failed {result : EspResult} (h : toResult result = result)
    (hfault : isFault result = true) : result < 0 := by
  rw [isFault, beq_iff_eq, mask_iff] at hfault
  have hsign : (resultBits result).msb = true :=
    (BitVec.msb_eq_getLsbD_last _).trans hfault.1
  have hvalue : (resultBits result).toInt = result := by
    rw [resultBits, BitVec.toInt_ofInt]
    exact h
  rw [← hvalue]
  exact BitVec.toInt_neg_of_msb_true hsign

end Esptool.Esp
