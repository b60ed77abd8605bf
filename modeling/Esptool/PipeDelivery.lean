import Esptool.PipeChannel

/-!
# Whole frames or nothing

What the two parties of the pipe get from a stream of bytes, however the
transport cuts it, and what the server makes of a stream that is no frame.
The handler is run with a record of the requests it was called with.
-/

namespace Esptool.Ipc

open Transfer

/-! ## Frames and byte streams -/

theorem ofBitVec_shifted {value : BitVec 32} {b : UInt8} {shift : ℕ}
    (h : ∀ i < 8, value.getLsbD (shift + i) = b.toBitVec.getLsbD i) :
    UInt8.ofBitVec ((value >>> shift).setWidth 8) = b := by
  refine UInt8.toBitVec_inj.mp (BitVec.eq_of_getLsbD_eq fun i hi => ?_)
  simp [hi, h i hi]

theorem getLsbD_moved_in (b : UInt8) {shift i : ℕ} (hi : i < 8)
    (hshift : shift + i < 32) :
    (b.toBitVec.setWidth 32 <<< shift).getLsbD (shift + i) =
      b.toBitVec.getLsbD i := by
  simp [hi, hshift]

theorem getLsbD_moved_out (b : UInt8) {shift i : ℕ}
    (h : i < shift ∨ shift + 8 ≤ i) :
    (b.toBitVec.setWidth 32 <<< shift).getLsbD i = false := by
  rcases h with hbelow | hbeyond
  · simp [hbelow]
  · have hoff : b.toBitVec.getLsbD (i - shift) = false :=
      BitVec.getLsbD_of_ge b.toBitVec (i - shift) (by omega)
    simp only [BitVec.getLsbD_shiftLeft, BitVec.getLsbD_setWidth, hoff,
      Bool.and_false]

/-- Four bytes are the encoding of the number that is read from them. -/
theorem appendUint32_readUint32 {bytes : Bytes} (h : bytes.length = 4) :
    ∃ value, readUint32 bytes = some (value, []) ∧
      appendUint32 value = bytes := by
  match bytes, h with
  | [b₀, b₁, b₂, b₃], _ =>
      refine ⟨_, rfl, ?_⟩
      have hzero : b₀.toBitVec.setWidth 32 =
          b₀.toBitVec.setWidth 32 <<< 0 := by
        simp
      rw [hzero]
      simp only [appendUint32, List.map_cons, List.map_nil, maskedByte_eq]
      rw [ofBitVec_shifted, ofBitVec_shifted, ofBitVec_shifted,
        ofBitVec_shifted]
      -- in each byte of the number only the byte moved there has a bit
      all_goals
        intro i hi
        simp (disch := omega) only [BitVec.getLsbD_or, getLsbD_moved_in,
          getLsbD_moved_out, Bool.or_false, Bool.false_or]

/-! ## What a party accepts -/

/-- A frame that was accepted stands whole at the front of the stream. -/
theorem readFrame_sound {what : String} {calls : List PipeCall}
    {stream payload : Bytes} {tag : BitVec 32}
    (h : readFrame what calls stream = .ok (tag, payload)) :
    payload.length + kFrameTagBytes ≤ kPipeBufferSize ∧
      ∃ rest, stream = encodeFrame tag payload ++ rest := by
  unfold readFrame at h
  cases hhead : (readExactly calls kFrameTagBytes stream).1 with
  | error error => simp [hhead] at h
  | ok bytes =>
      obtain ⟨hbytes, hleft⟩ := readExactly_ok hhead
      generalize readExactly calls kFrameTagBytes stream = head
        at h hleft hhead
      obtain ⟨length, hlength, happend⟩ := appendUint32_readUint32 hbytes
      simp only [hhead, hlength, Option.map_some, Option.getD_some] at h
      split at h
      · rename_i hgate
        obtain ⟨hleast, hmost⟩ := (acceptsLength_iff _).mp hgate
        cases hread : (readExactly head.2.1 length.toNat head.2.2).1 with
        | error error => simp [hread] at h
        | ok body =>
            obtain ⟨hsize, hrest⟩ := readExactly_ok hread
            generalize readExactly head.2.1 length.toNat head.2.2 = read
              at h hrest hread
            -- the body is the tag and the payload
            have hcut : body = body.take 4 ++ body.drop 4 :=
              (List.take_append_drop 4 body).symm
            have htag : (body.take 4).length = 4 := by
              rw [List.length_take, hsize]
              exact Nat.min_eq_left hleast
            obtain ⟨tag', -, htag'⟩ := appendUint32_readUint32 htag
            rw [← htag'] at hcut
            simp only [hread, decodeFrame] at h
            rw [hcut, readUint32_appendUint32] at h
            obtain ⟨rfl, rfl⟩ := Prod.mk.inj (Except.ok.inj h)
            have hpayload : (body.drop 4).length + kFrameTagBytes =
                length.toNat := by
              rw [List.length_drop, hsize]
              exact Nat.sub_add_cancel hleast
            have hframe : encodeFrame tag' (body.drop 4) = bytes ++ body := by
              rw [encodeFrame, hpayload, BitVec.ofNat_toNat,
                BitVec.setWidth_eq, happend, List.append_assoc, ← hcut]
            refine ⟨hpayload ▸ hmost, read.2.2, ?_⟩
            rw [hframe, List.append_assoc, ← hrest]
            exact hleft
      · simp at h

/-- A frame whose length is too large is not accepted, however much of it
arrives. -/
theorem readFrame_oversized {what : String} {calls : List PipeCall}
    {stream more payload : Bytes} {tag : BitVec 32}
    (hstream : stream ++ more = encodeFrame tag payload)
    (hlarge : kPipeBufferSize < payload.length + kFrameTagBytes)
    (hlength : payload.length + kFrameTagBytes < 2 ^ 32) :
    ∃ error, readFrame what calls stream = .error error := by
  cases hread : readFrame what calls stream with
  | error error => exact ⟨error, rfl⟩
  | ok frame =>
      rw [encodeFrame, List.append_assoc] at hstream
      obtain ⟨-, hcount, -⟩ := readFrame_ok more hstream hread
      obtain ⟨hsmall, -⟩ := readFrame_sound hread
      rw [BitVec.toNat_ofNat, Nat.mod_eq_of_lt hlength] at hcount
      omega

theorem dword_positive {n : ℕ} (hpos : 0 < n) (hbound : n ≤ 2 ^ 32 - 1) :
    0 < dword n ∧ dword n ≤ n := by
  have hmod : dword n = n := Nat.mod_eq_of_lt (by omega)
  omega

theorem readExactly_chunked (bytes rest : Bytes) {more : ℕ}
    {calls : List PipeCall} (hsize : bytes.length ≤ 2 ^ 32 - 1)
    (h : Chunked calls (bytes.length + more)) :
    ∃ calls', readExactly calls bytes.length (bytes ++ rest) =
        (.ok bytes, calls', rest) ∧ Chunked calls' more := by
  obtain ⟨calls', hreceive, hchunked⟩ :=
    receive_chunked (fun _ => dword_positive) more calls bytes.length
      (bytes ++ rest) hsize (by simp) h
  refine ⟨calls', ?_, hchunked⟩
  rw [readExactly, hreceive, List.take_left, List.drop_left]
  rfl

theorem writeExactly_chunked {calls : List PipeCall} {buffer : Bytes}
    (hsize : buffer.length ≤ 2 ^ 32 - 1)
    (h : Chunked calls buffer.length) :
    writeExactly calls buffer = (none, buffer) := by
  have hsent : (send dword calls buffer).1 = none :=
    send_chunked (fun _ hpos hbound => (dword_positive hpos hbound).1) calls
      buffer hsize h
  rw [writeExactly, hsent, send_delivers calls buffer hsent]
  rfl

theorem length_encodeFrame (tag : BitVec 32) (payload : Bytes) :
    (encodeFrame tag payload).length =
      kFrameTagBytes + (payload.length + kFrameTagBytes) := by
  simp only [encodeFrame, List.length_append, length_appendUint32]
  omega

/-- A frame that passes the gate is read whole from a channel that keeps
moving. -/
theorem readFrame_encodeFrame (what : String) {calls : List PipeCall}
    {tag : BitVec 32} {payload : Bytes}
    (hsmall : payload.length + kFrameTagBytes ≤ kPipeBufferSize)
    (h : Chunked calls (encodeFrame tag payload).length) :
    readFrame what calls (encodeFrame tag payload) = .ok (tag, payload) := by
  have hbound : kPipeBufferSize ≤ 2 ^ 32 - 1 := by
    decide
  have hlength : (BitVec.ofNat 32 (payload.length + kFrameTagBytes)).toNat =
      payload.length + kFrameTagBytes := by
    rw [BitVec.toNat_ofNat, Nat.mod_eq_of_lt]
    omega
  have hbody : (appendUint32 tag ++ payload).length =
      payload.length + kFrameTagBytes := by
    rw [List.length_append, length_appendUint32, Nat.add_comm]
  have hgate : acceptsLength (payload.length + kFrameTagBytes) = true :=
    (acceptsLength_iff _).mpr ⟨Nat.le_add_left _ _, hsmall⟩
  rw [length_encodeFrame] at h
  rw [encodeFrame, List.append_assoc]
  generalize BitVec.ofNat 32 (payload.length + kFrameTagBytes) = length
    at hlength ⊢
  obtain ⟨calls', hhead, hmore⟩ := readExactly_chunked (appendUint32 length)
    (appendUint32 tag ++ payload)
    (by rw [length_appendUint32]; decide) h
  rw [length_appendUint32] at hhead
  have hchunked : Chunked calls' ((appendUint32 tag ++ payload).length + 0) :=
    hbody ▸ hmore
  obtain ⟨calls'', hread, -⟩ := readExactly_chunked
    (appendUint32 tag ++ payload) [] (hbody.le.trans (hsmall.trans hbound))
    hchunked
  rw [hbody, List.append_nil] at hread
  have hword := readUint32_appendUint32 length []
  rw [List.append_nil] at hword
  unfold readFrame
  simp only [hhead, hword, Option.map_some, Option.getD_some, hlength,
    if_pos hgate, hread, decodeFrame, readUint32_appendUint32]

/-! ## The server -/

section

variable {σ : Type}

/-- A handler that also keeps the requests it was called with. -/
def recorded (handler : Request → σ → Response × σ) (request : Request)
    (state : List Request × σ) : Response × (List Request × σ) :=
  let handled := handler request state.2
  (handled.1, (state.1 ++ [request], handled.2))

variable {handler : Request → σ → Response × σ}
variable {reads writes : List PipeCall}

/-- The server calls its handler for the frame it could read. -/
theorem serveOne_read {incoming : Bytes} {calls : List Request} {state : σ}
    (request : Request)
    (h : readFrame "request" reads incoming =
      .ok (request.kind, request.payload)) :
    let handled := handler request state
    let served := serveOne (recorded handler) .waited reads writes incoming
      (calls, state)
    served.result = true ∧
      served.answered = some (request, handled.1) ∧
      served.outgoing = (writeExactly writes (encodeResponse handled.1)).2 ∧
      served.state = (calls ++ [request], handled.2) := by
  intro handled served
  have hserved : served = serveOne (recorded handler) .waited reads writes
    incoming (calls, state) := rfl
  unfold serveOne at hserved
  rw [h] at hserved
  rw [hserved]
  exact ⟨rfl, rfl, rfl, rfl⟩

theorem serveOne_unread {incoming : Bytes} {calls : List Request} {state : σ}
    {error : String}
    (h : readFrame "request" reads incoming = .error error) :
    serveOne (recorded handler) .waited reads writes incoming
      (calls, state) = ⟨true, error, none, [], (calls, state)⟩ := by
  unfold serveOne
  rw [h]

/-- From whatever bytes a client sends, the server calls its handler at most
once, for a complete frame at the front of them, and goes on serving. -/
theorem serveOne_contained (incoming : Bytes) (state : σ) :
    let served := serveOne (recorded handler) .waited reads writes incoming
      ([], state)
    served.result = true ∧
      (served.state = ([], state) ∨
        ∃ request rest,
          request.payload.length + kFrameTagBytes ≤ kPipeBufferSize ∧
          incoming = encodeRequest request ++ rest ∧
          served.state = ([request], (handler request state).2)) := by
  intro served
  cases hread : readFrame "request" reads incoming with
  | error error =>
      have hserved : served = ⟨true, error, none, [], ([], state)⟩ :=
        serveOne_unread hread
      rw [hserved]
      exact ⟨rfl, .inl rfl⟩
  | ok frame =>
      obtain ⟨kind, payload⟩ := frame
      obtain ⟨hsmall, rest, hrest⟩ := readFrame_sound hread
      obtain ⟨hresult, -, -, hstate⟩ := serveOne_read ⟨kind, payload⟩ hread
      exact ⟨hresult, .inr ⟨⟨kind, payload⟩, rest, hsmall, hrest, hstate⟩⟩

end

/-! ## Both parties -/

section

variable {σ : Type} {handler : Request → σ → Response × σ}
variable {request : Request} {state : σ}
variable {writes reads serverReads serverWrites : List PipeCall}

/-- What the handler gets of the bytes that reach the server. -/
def servedRequests (handler : Request → σ → Response × σ)
    (writes serverReads serverWrites : List PipeCall) (request : Request)
    (state : σ) : List Request × σ :=
  (serveOne (recorded handler) .waited serverReads serverWrites
    (writeExactly writes (encodeRequest request)).2 ([], state)).state

/-- The exchange of a client with a server of that handler. -/
def exchanged (handler : Request → σ → Response × σ)
    (writes reads serverReads serverWrites : List PipeCall)
    (request : Request) (state : σ) : Except String Response :=
  exchange request writes reads fun delivered =>
    (serveOne (recorded handler) .waited serverReads serverWrites delivered
      ([], state)).outgoing

theorem encodeFrame_short {tag : BitVec 32} {payload : Bytes}
    (h : payload.length + kFrameTagBytes ≤ kPipeBufferSize) :
    (encodeFrame tag payload).length ≤ 2 ^ 32 - 1 := by
  rw [length_encodeFrame]
  exact (Nat.add_le_add_left h _).trans (by decide)

theorem servedRequests_whole
    (hsmall : request.payload.length + kFrameTagBytes ≤ kPipeBufferSize)
    (hwrites : Chunked writes (encodeRequest request).length)
    (hserverReads : Chunked serverReads (encodeRequest request).length) :
    servedRequests handler writes serverReads serverWrites request state =
      ([request], (handler request state).2) := by
  have hsent : writeExactly writes (encodeRequest request) =
      (none, encodeRequest request) :=
    writeExactly_chunked (encodeFrame_short hsmall) hwrites
  have hread := readFrame_encodeFrame "request" hsmall hserverReads
  rw [servedRequests, hsent]
  exact (serveOne_read request hread).2.2.2

theorem exchanged_whole
    (hsmall : request.payload.length + kFrameTagBytes ≤ kPipeBufferSize)
    (hreply : (handler request state).1.payload.length + kFrameTagBytes ≤
      kPipeBufferSize)
    (hwrites : Chunked writes (encodeRequest request).length)
    (hserverReads : Chunked serverReads (encodeRequest request).length)
    (hserverWrites : Chunked serverWrites
      (encodeResponse (handler request state).1).length)
    (hreads : Chunked reads
      (encodeResponse (handler request state).1).length) :
    exchanged handler writes reads serverReads serverWrites request state =
      .ok (handler request state).1 := by
  have hsent : writeExactly writes (encodeRequest request) =
      (none, encodeRequest request) :=
    writeExactly_chunked (encodeFrame_short hsmall) hwrites
  have hanswered : writeExactly serverWrites
      (encodeResponse (handler request state).1) =
        (none, encodeResponse (handler request state).1) :=
    writeExactly_chunked (encodeFrame_short hreply) hserverWrites
  have hread := readFrame_encodeFrame "request" hsmall hserverReads
  have houtgoing : (serveOne (recorded handler) .waited serverReads
      serverWrites (encodeRequest request) ([], state)).outgoing =
        encodeResponse (handler request state).1 :=
    (serveOne_read request hread).2.2.1.trans (congrArg Prod.snd hanswered)
  unfold exchanged exchange
  rw [hsent]
  dsimp only
  rw [houtgoing, encodeResponse, readFrame_encodeFrame "response" hreply hreads]

theorem servedRequests_oversized
    (hlarge : kPipeBufferSize < request.payload.length + kFrameTagBytes)
    (hlength : request.payload.length + kFrameTagBytes < 2 ^ 32) :
    servedRequests handler writes serverReads serverWrites request state =
      ([], state) := by
  obtain ⟨rest, hrest⟩ := send_initial dword writes (encodeRequest request)
  obtain ⟨error, hread⟩ := readFrame_oversized hrest.symm hlarge hlength
  rw [servedRequests]
  exact congrArg Served.state (serveOne_unread hread)

/-- The exchange fails when one of the two frames is too large, whatever the
transport does. -/
theorem exchanged_oversized
    (hlength : request.payload.length + kFrameTagBytes < 2 ^ 32)
    (hreply : (handler request state).1.payload.length + kFrameTagBytes <
      2 ^ 32)
    (hlarge : kPipeBufferSize < request.payload.length + kFrameTagBytes ∨
      kPipeBufferSize <
        (handler request state).1.payload.length + kFrameTagBytes) :
    ∃ error, exchanged handler writes reads serverReads serverWrites request
      state = .error error := by
  cases hexchanged : exchanged handler writes reads serverReads serverWrites
      request state with
  | error error => exact ⟨error, rfl⟩
  | ok response =>
      obtain ⟨hshort, hread⟩ := exchange_ok hexchanged
      cases hserver : readFrame "request" serverReads
          (encodeRequest request) with
      | error error =>
          rw [serveOne_unread hserver] at hread
          exact absurd hread readFrame_nil
      | ok frame =>
          -- the server took the request, so the response is the large frame
          obtain ⟨kind, payload⟩ := frame
          obtain ⟨hsmall, -⟩ := readFrame_sound hserver
          cases readFrame_encodeRequest hshort hserver
          have hlargeReply := hlarge.resolve_left (Nat.not_lt.mpr hsmall)
          rw [(serveOne_read ⟨kind, payload⟩ hserver).2.2.1] at hread
          obtain ⟨rest, hrest⟩ := send_initial dword serverWrites
            (encodeResponse (handler ⟨kind, payload⟩ state).1)
          have hrejected : ∃ error, readFrame "response" reads
              (writeExactly serverWrites
                (encodeResponse (handler ⟨kind, payload⟩ state).1)).2 =
                .error error :=
            readFrame_oversized hrest.symm hlargeReply hreply
          obtain ⟨error, herror⟩ := hrejected
          rw [herror] at hread
          cases hread

/-- Small frames arrive whole over every transport that keeps moving, and
large ones never do; a server takes any bytes for at most one request. -/
theorem pipe_wholeFrames (handler : Request → σ → Response × σ)
    (request : Request) (state : σ)
    (writes reads serverReads serverWrites : List PipeCall)
    (hrequest : request.payload.length + kFrameTagBytes < 2 ^ 32)
    (hresponse : (handler request state).1.payload.length + kFrameTagBytes <
      2 ^ 32) :
    let response := (handler request state).1
    let served :=
      servedRequests handler writes serverReads serverWrites request state
    let obtained :=
      exchanged handler writes reads serverReads serverWrites request state
    (request.payload.length + kFrameTagBytes ≤ kPipeBufferSize →
      Chunked writes (encodeRequest request).length →
      Chunked serverReads (encodeRequest request).length →
        served = ([request], (handler request state).2) ∧
        (response.payload.length + kFrameTagBytes ≤ kPipeBufferSize →
          Chunked serverWrites (encodeResponse response).length →
          Chunked reads (encodeResponse response).length →
            obtained = .ok response)) ∧
    (kPipeBufferSize < request.payload.length + kFrameTagBytes →
      served = ([], state)) ∧
    (kPipeBufferSize < request.payload.length + kFrameTagBytes ∨
      kPipeBufferSize < response.payload.length + kFrameTagBytes →
        ∃ error, obtained = .error error) ∧
    ∀ incoming : Bytes,
      let garbled := serveOne (recorded handler) .waited serverReads
        serverWrites incoming ([], state)
      garbled.result = true ∧
        (garbled.state = ([], state) ∨
          ∃ sent rest,
            sent.payload.length + kFrameTagBytes ≤ kPipeBufferSize ∧
            incoming = encodeRequest sent ++ rest ∧
            garbled.state = ([sent], (handler sent state).2)) := by
  intro response served obtained
  refine ⟨?_, ?_, ?_, fun incoming => serveOne_contained incoming state⟩
  · intro hsmall hwrites hserverReads
    refine ⟨servedRequests_whole hsmall hwrites hserverReads, ?_⟩
    intro hreply hserverWrites hreads
    exact exchanged_whole hsmall hreply hwrites hserverReads hserverWrites
      hreads
  · intro hlarge
    exact servedRequests_oversized hlarge hrequest
  · intro hlarge
    exact exchanged_oversized hrequest hresponse hlarge

/-- A ping that travels one byte at a time. -/
theorem pipe_wholeFrames_ping :
    let handler : Request → Unit → Response × Unit :=
      fun request state => (⟨7, request.payload⟩, state)
    let bytewise : List PipeCall := List.replicate 10 ⟨1, none⟩
    exchanged handler bytewise bytewise bytewise bytewise
      ⟨.ping, [104, 105]⟩ () = .ok ⟨7, [104, 105]⟩ := by
  intro handler bytewise
  have hchunked : Chunked bytewise 10 := by
    refine ⟨fun call hcall => ?_, Nat.le_refl 10⟩
    rw [(List.mem_replicate.mp hcall).2]
    exact ⟨rfl, Nat.one_pos⟩
  have hwhole := pipe_wholeFrames handler ⟨.ping, [104, 105]⟩ () bytewise
    bytewise bytewise bytewise (by decide) (by decide)
  exact (hwhole.1 (by decide) hchunked hchunked).2 (by decide) hchunked
    hchunked

end

end Esptool.Ipc
