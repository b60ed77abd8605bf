import Esptool.Lib.Transfer
import Mathlib.Tactic

/-!
# The service pipe

Requests and responses travel over a byte-mode named pipe as a 32-bit length,
a 32-bit kind or status and the payload, all little-endian.  The length
counts the kind or status and the payload, not itself.

What the operating system does with a call on the pipe is a list of transfer
outcomes for each direction and each party.
-/

namespace Esptool.Ipc

open Transfer

abbrev Bytes := List UInt8

def utf8 (text : String) : Bytes :=
  text.toList.flatMap String.utf8EncodeChar

def kPipeBufferSize : ℕ := 64 * 1024
def kFrameTagBytes : ℕ := 4
def kConnectAttempts : ℕ := 5

/-! ## Frames -/

def appendUint32 (value : BitVec 32) : Bytes :=
  [0, 8, 16, 24].map fun shift =>
    UInt8.ofBitVec (((value >>> shift) &&& 0xFF#32).setWidth 8)

def readUint32 : Bytes → Option (BitVec 32 × Bytes)
  | b₀ :: b₁ :: b₂ :: b₃ :: remaining =>
      some (b₀.toBitVec.setWidth 32 ||| b₁.toBitVec.setWidth 32 <<< 8 |||
        b₂.toBitVec.setWidth 32 <<< 16 ||| b₃.toBitVec.setWidth 32 <<< 24,
        remaining)
  | _ => none

def encodeFrame (tag : BitVec 32) (payload : Bytes) : Bytes :=
  appendUint32 (BitVec.ofNat 32 (payload.length + kFrameTagBytes)) ++
    appendUint32 tag ++ payload

def decodeFrame (body : Bytes) : Option (BitVec 32 × Bytes) :=
  readUint32 body

/-- `RequestKind`: an enumeration over 32 bits.  The server casts the bits it
reads without a check, so a kind can be any value. -/
abbrev RequestKind := BitVec 32

namespace RequestKind

def ping : RequestKind := 1
def status : RequestKind := 2
def exports : RequestKind := 3
def exercise : RequestKind := 4
def rules : RequestKind := 5

def named : List RequestKind := [ping, status, exports, exercise, rules]

end RequestKind

structure Request where
  kind : RequestKind := .ping
  payload : Bytes := []
deriving DecidableEq, Repr

/-- The status is a signed 32-bit integer. -/
structure Response where
  status : BitVec 32 := 0
  payload : Bytes := []
deriving DecidableEq, Repr

def encodeRequest (request : Request) : Bytes :=
  encodeFrame request.kind request.payload

def encodeResponse (response : Response) : Bytes :=
  encodeFrame response.status response.payload

/-! ## Whole reads and writes -/

/-- The `DWORD` that one call is given for the outstanding bytes. -/
def dword (size : ℕ) : ℕ := size % 2 ^ 32

abbrev PipeCall := Transfer.Call String

def readError : Failure String → String
  | .reported error => error
  | .closed => "the pipe connection closed"
  | .timedOut => "pipe read timed out"

def writeError : Failure String → String
  | .reported error => error
  | .closed => "the pipe connection closed while writing"
  | .timedOut => "pipe write timed out"

/-- `WriteExactly`: the error, if any, and the bytes that got through. -/
def writeExactly (calls : List PipeCall) (buffer : Bytes) :
    Option String × Bytes :=
  let sent := send dword calls buffer
  (sent.1.map writeError, sent.2)

def readExactly (calls : List PipeCall) (size : ℕ) (stream : Bytes) :
    Except String Bytes × List PipeCall × Bytes :=
  let received := receive dword calls size stream
  (received.1.mapError readError, received.2)

def acceptsLength (length : ℕ) : Bool :=
  !(decide (length < kFrameTagBytes) || decide (length > kPipeBufferSize))

/-- Read one frame: its length, through the gate, then its body.  `what`
names the frame in the errors. -/
def readFrame (what : String) (calls : List PipeCall) (stream : Bytes) :
    Except String (BitVec 32 × Bytes) :=
  let head := readExactly calls kFrameTagBytes stream
  match head.1 with
  | .error error => .error error
  | .ok bytes =>
      let length := ((readUint32 bytes).map (·.1.toNat)).getD 0
      if acceptsLength length then
        match (readExactly head.2.1 length head.2.2).1 with
        | .error error => .error error
        | .ok body =>
            match decodeFrame body with
            | none => .error ("truncated " ++ what ++ " frame")
            | some frame => .ok frame
      else .error ("invalid " ++ what ++ " frame length")

/-! ## The server -/

/-- How opening the pipe instance and waiting for a client ended.  A wait
that timed out goes on to the read, as one that found a client does. -/
inductive Accept
  | refused (error : String)
  | stopped
  | waited

structure Served (σ : Type) where
  result : Bool
  error : String
  answered : Option (Request × Response)
  outgoing : Bytes
  state : σ

def serveOne {σ : Type} (handler : Request → σ → Response × σ)
    (accept : Accept) (reads writes : List PipeCall) (incoming : Bytes)
    (state : σ) : Served σ :=
  match accept with
  | .refused error => ⟨false, error, none, [], state⟩
  | .stopped => ⟨false, "", none, [], state⟩
  | .waited =>
      match readFrame "request" reads incoming with
      | .error error => ⟨true, error, none, [], state⟩
      | .ok (kind, payload) =>
          let request : Request := ⟨kind, payload⟩
          let handled := handler request state
          let written := writeExactly writes (encodeResponse handled.1)
          let error := match written.1 with
            | none => ""
            | some "" => "the response could not be written"
            | some error => error
          ⟨true, error, some (request, handled.1), written.2, handled.2⟩

/-! ## The client -/

inductive OpenAttempt
  | opened
  | busy
  | failed (error : String)

def connectPipe (attempts : ℕ → OpenAttempt) : ℕ → Option String
  | 0 => some "the service pipe is busy"
  | remaining + 1 =>
      match attempts (kConnectAttempts - (remaining + 1)) with
      | .opened => none
      | .failed error => some error
      | .busy => connectPipe attempts remaining

/-- `Exchange`; `peer` is what the bytes that got through make the other side
put on the pipe. -/
def exchange (request : Request) (writes reads : List PipeCall)
    (peer : Bytes → Bytes) : Except String Response :=
  let written := writeExactly writes (encodeRequest request)
  match written.1 with
  | some error => .error error
  | none =>
      match readFrame "response" reads (peer written.2) with
      | .error error => .error error
      | .ok (status, payload) => .ok ⟨status, payload⟩

/-! ## Frames round trip -/

theorem maskedByte_eq (value : BitVec 32) :
    (value &&& 0xFF#32).setWidth 8 = value.setWidth 8 := by
  apply BitVec.eq_of_toNat_eq
  have hmask := Nat.and_two_pow_sub_one_eq_mod value.toNat 8
  simp only [BitVec.toNat_setWidth, BitVec.toNat_and, BitVec.toNat_ofNat]
  rw [show 255 % 2 ^ 32 = 2 ^ 8 - 1 by decide, hmask, Nat.mod_mod]

theorem readUint32_appendUint32 (value : BitVec 32) (remaining : Bytes) :
    readUint32 (appendUint32 value ++ remaining) = some (value, remaining) := by
  simp only [appendUint32, List.map_cons, List.map_nil, List.cons_append,
    List.nil_append, readUint32, maskedByte_eq]
  congr 2
  ext i hi
  simp only [BitVec.ushiftRight_zero, BitVec.getElem_or,
    BitVec.getElem_setWidth, BitVec.getLsbD_setWidth,
    BitVec.getElem_shiftLeft, BitVec.getLsbD_ushiftRight]
  have hbit := BitVec.getLsbD_eq_getElem hi (x := value)
  -- one case for each of the bytes that the bit can lie in
  by_cases h8 : i < 8
  · simp [hbit, h8, show i < 16 by omega, show i < 24 by omega]
  by_cases h16 : i < 16
  · simp [hbit, h8, h16, show i < 24 by omega, show i - 8 < 8 by omega,
      show 8 + (i - 8) = i by omega]
  by_cases h24 : i < 24
  · simp [hbit, h8, h16, h24, show ¬ i - 8 < 8 by omega,
      show i - 16 < 8 by omega, show 16 + (i - 16) = i by omega]
  · simp [hbit, h8, h16, h24, show ¬ i - 8 < 8 by omega,
      show ¬ i - 16 < 8 by omega, show i - 24 < 8 by omega,
      show 24 + (i - 24) = i by omega]

theorem length_appendUint32 (value : BitVec 32) :
    (appendUint32 value).length = kFrameTagBytes := rfl

theorem acceptsLength_iff (length : ℕ) :
    acceptsLength length = true ↔
      kFrameTagBytes ≤ length ∧ length ≤ kPipeBufferSize := by
  unfold acceptsLength
  simp only [Bool.not_or, Bool.and_eq_true, Bool.not_eq_true',
    decide_eq_false_iff_not, Nat.not_lt]

theorem mapError_eq_ok {ε ε' α : Type} {f : ε → ε'} {result : Except ε α}
    {a : α} (h : result.mapError f = .ok a) : result = .ok a := by
  cases result with
  | error e => simp [Except.mapError] at h
  | ok b => simpa [Except.mapError] using h

theorem readExactly_ok {calls : List PipeCall} {size : ℕ}
    {stream bytes : Bytes}
    (h : (readExactly calls size stream).1 = .ok bytes) :
    bytes.length = size ∧
      stream = bytes ++ (readExactly calls size stream).2.2 := by
  have hcut : ∀ n, n % 2 ^ 32 ≤ n := fun n => Nat.mod_le n (2 ^ 32)
  exact receive_ok hcut calls size stream bytes (mapError_eq_ok h)

/-- A buffer of `2 ^ 32` bytes or more never gets out whole: at a remainder of
exactly that many bytes the count of the call is zero. -/
theorem writeExactly_ok {calls : List PipeCall} {buffer : Bytes}
    (h : (writeExactly calls buffer).1 = none) :
    (writeExactly calls buffer).2 = buffer ∧ buffer.length < 2 ^ 32 := by
  have hsent : (send dword calls buffer).1 = none := by
    simpa [writeExactly] using h
  refine ⟨send_delivers calls buffer hsent, ?_⟩
  refine send_length_lt (by decide) ?_ calls buffer hsent
  intro n hn
  unfold dword
  omega

/-- What a party accepts from a stream that starts as a frame does. -/
theorem readFrame_ok {what : String} {calls : List PipeCall}
    {stream payload payload' : Bytes} {length tag tag' : BitVec 32}
    (more : Bytes)
    (hstream : stream ++ more =
      appendUint32 length ++ (appendUint32 tag ++ payload))
    (h : readFrame what calls stream = .ok (tag', payload')) :
    tag' = tag ∧ payload'.length + kFrameTagBytes = length.toNat ∧
      ∃ rest, payload = payload' ++ rest := by
  unfold readFrame at h
  cases hhead : (readExactly calls kFrameTagBytes stream).1 with
  | error error => simp [hhead] at h
  | ok bytes =>
      obtain ⟨hbytes, hleft⟩ := readExactly_ok hhead
      generalize readExactly calls kFrameTagBytes stream = head
        at h hleft hhead
      rw [hleft, List.append_assoc] at hstream
      obtain ⟨rfl, hbody⟩ := List.append_inj hstream hbytes
      have hlength := readUint32_appendUint32 length []
      rw [List.append_nil] at hlength
      simp only [hhead, hlength, Option.map_some, Option.getD_some] at h
      split at h
      · rename_i hgate
        have hfits := ((acceptsLength_iff _).mp hgate).1
        cases hread : (readExactly head.2.1 length.toNat head.2.2).1 with
        | error error => simp [hread] at h
        | ok body =>
            obtain ⟨hsize, hrest⟩ := readExactly_ok hread
            rw [hrest, List.append_assoc] at hbody
            -- the body covers the tag, so it ends inside the payload
            obtain ⟨payload'', rfl, hpayload⟩ :
                ∃ payload'', body = appendUint32 tag ++ payload'' ∧
                  ∃ rest, payload = payload'' ++ rest := by
              rcases List.append_eq_append_iff.mp hbody with
                ⟨middle, htag, hmore⟩ | ⟨middle, hbody, hpayload⟩
              · have hcount := congrArg List.length htag
                rw [length_appendUint32, List.length_append, hsize] at hcount
                have hmiddle : middle = [] := by
                  apply List.eq_nil_of_length_eq_zero
                  omega
                subst hmiddle
                exact ⟨[], by rw [htag, List.append_nil, List.append_nil],
                  payload, rfl⟩
              · exact ⟨middle, hbody, _, hpayload⟩
            simp only [hread, decodeFrame, readUint32_appendUint32,
              Except.ok.injEq, Prod.mk.injEq] at h
            obtain ⟨rfl, rfl⟩ := h
            refine ⟨rfl, ?_, hpayload⟩
            rw [List.length_append, length_appendUint32] at hsize
            omega
      · simp at h

theorem readFrame_nil {what : String} {calls : List PipeCall}
    {frame : BitVec 32 × Bytes} :
    readFrame what calls [] ≠ .ok frame := by
  intro h
  unfold readFrame at h
  cases hhead : (readExactly calls kFrameTagBytes []).1 with
  | error error => simp [hhead] at h
  | ok bytes =>
      obtain ⟨hbytes, hstream⟩ := readExactly_ok hhead
      have hcount := congrArg List.length hstream
      rw [List.length_append, hbytes] at hcount
      simp only [kFrameTagBytes, List.length_nil] at hcount
      omega

/-- A response that `Exchange` returns was put on the pipe by the other side
after the whole request had reached it. -/
theorem exchange_ok {request : Request} {writes reads : List PipeCall}
    {peer : Bytes → Bytes} {response : Response}
    (h : exchange request writes reads peer = .ok response) :
    (encodeRequest request).length < 2 ^ 32 ∧
      readFrame "response" reads (peer (encodeRequest request)) =
        .ok (response.status, response.payload) := by
  unfold exchange at h
  cases hwritten : (writeExactly writes (encodeRequest request)).1 with
  | some error => simp [hwritten] at h
  | none =>
      obtain ⟨hwhole, hshort⟩ := writeExactly_ok hwritten
      refine ⟨hshort, ?_⟩
      simp only [hwritten, hwhole] at h
      cases hframe : readFrame "response" reads
          (peer (encodeRequest request)) with
      | error error => simp [hframe] at h
      | ok frame =>
          simp only [hframe, Except.ok.injEq] at h
          subst h
          rfl

theorem readFrame_encodeRequest {reads : List PipeCall} {request : Request}
    {kind : RequestKind} {payload : Bytes}
    (hshort : (encodeRequest request).length < 2 ^ 32)
    (h : readFrame "request" reads (encodeRequest request) =
      .ok (kind, payload)) : request = ⟨kind, payload⟩ := by
  have hstream : encodeRequest request ++ [] =
      appendUint32 (BitVec.ofNat 32 (request.payload.length + kFrameTagBytes))
        ++ (appendUint32 request.kind ++ request.payload) := by
    rw [List.append_nil, encodeRequest, encodeFrame, List.append_assoc]
  obtain ⟨hkind, hlength, rest, hrest⟩ := readFrame_ok [] hstream h
  simp only [encodeRequest, encodeFrame, List.length_append,
    length_appendUint32] at hshort
  rw [BitVec.toNat_ofNat, Nat.mod_eq_of_lt (by omega)] at hlength
  have hempty : rest = [] := by
    have hcount := congrArg List.length hrest
    rw [List.length_append] at hcount
    apply List.eq_nil_of_length_eq_zero
    omega
  rw [hempty, List.append_nil] at hrest
  cases request
  simp only [Request.mk.injEq]
  exact ⟨hkind.symm, hrest⟩

/-- What the client reads as a response carries the status that the handler
gave, for the very request that was sent. -/
theorem exchange_serveOne {σ : Type}
    {handler : Request → σ → Response × σ} {accept : Accept}
    {request : Request} {response : Response} {state : σ}
    {writes reads serverReads serverWrites : List PipeCall}
    (h : exchange request writes reads (fun delivered =>
      (serveOne handler accept serverReads serverWrites delivered
        state).outgoing) = .ok response) :
    response.status = (handler request state).1.status ∧
      (serveOne handler accept serverReads serverWrites
        (encodeRequest request) state).answered =
          some (request, (handler request state).1) := by
  obtain ⟨hshort, hread⟩ := exchange_ok h
  cases accept with
  | refused error => exact absurd hread readFrame_nil
  | stopped => exact absurd hread readFrame_nil
  | waited =>
      unfold serveOne at hread ⊢
      cases hframe : readFrame "request" serverReads
          (encodeRequest request) with
      | error error =>
          simp only [hframe] at hread
          exact absurd hread readFrame_nil
      | ok frame =>
          have hrequest := readFrame_encodeRequest hshort hframe
          simp only [hframe, ← hrequest] at hread ⊢
          obtain ⟨rest, hrest⟩ := send_initial dword serverWrites
            (encodeResponse (handler request state).1)
          obtain ⟨hstatus, -, -⟩ := readFrame_ok rest (by
            rw [← List.append_assoc]
            exact hrest.symm) hread
          exact ⟨hstatus, trivial⟩

end Esptool.Ipc
