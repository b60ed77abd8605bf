import Esptool.Lib.Retry
import Esptool.SessionCalls

/-!
# The altitudes a connection tries

On a collision `Connect` registers again ten altitudes up, computed in an
unsigned 32-bit word.  The run of the loop is the library's retry loop, so its
altitudes are those of one number of attempts.  They are the exact sums until
the service has refused every altitude below `2 ^ 32`, and from there on they
wrap.
-/

namespace Esptool.Esp

open Model Interaction

/-! ## The loop as a retry -/

/-- `EspRegisterClient` at the altitude of one attempt. -/
def registerCall (id : Guid) (name : String) (altitude : ℕ → ℕ)
    (attempt : ℕ) : Call :=
  .registerClient id name (altitude attempt)

def collided (reply : Reply) : Prop :=
  reply.result = kAlreadyExists

instance : DecidablePred collided :=
  fun reply => inferInstanceAs (Decidable (reply.result = kAlreadyExists))

theorem registerAltitudes_eq_retry (env : Env) (id : Guid) (name : String)
    (base attempt remaining : ℕ) (last : Reply)
    (h : attempt + remaining = kAltitudeCollisionTries) (j : Journal) :
    registerAltitudes env id name base remaining last.result j =
      let retried := retry env.respond
        (registerCall id name (altitudeAt base)) collided attempt remaining
        last j
      (retried.1.result, retried.2) := by
  induction remaining generalizing attempt last j with
  | zero => rfl
  | succ remaining ih =>
      have hattempt : kAltitudeCollisionTries - (remaining + 1) = attempt := by
        omega
      rw [registerAltitudes, retry, hattempt, bind_run, bind_run]
      dsimp only
      by_cases hcollided : collided (ask env.respond
          (registerCall id name (altitudeAt base) attempt) j).1
      · have hnext := ih (attempt + 1) (ask env.respond
          (registerCall id name (altitudeAt base) attempt) j).1 (by omega)
          (ask env.respond (registerCall id name (altitudeAt base) attempt) j).2
        rw [if_pos hcollided]
        rw [← hnext]
        exact congrFun (if_pos hcollided) _
      · rw [if_neg hcollided]
        exact congrFun (if_neg hcollided) _

theorem altitudeAt_eq {base : ℕ} (hpos : base ≠ 0) (hlt : base < 2 ^ 32)
    (attempt : ℕ) :
    altitudeAt base attempt =
      (base + attempt * kAltitudeCollisionStep) % 2 ^ 32 := by
  rw [altitudeAt, if_neg hpos]
  split
  · rfl
  · rename_i hzero
    rw [Nat.eq_zero_of_not_pos hzero, Nat.zero_mul, Nat.add_zero,
      Nat.mod_eq_of_lt hlt]

/-! ## The attempts of a connection -/

/-- The altitude and the result of a call of `EspRegisterClient`. -/
def registerAttempt (e : Event) : Option (ℕ × EspResult) :=
  match e.call with
  | .registerClient _ _ altitude => some (altitude, e.reply.result)
  | _ => none

def Call.registers : Call → Bool
  | .registerClient .. => true
  | _ => false

/-- Between the two sessions the altitudes `tried` were tried, with these
results. -/
def Tries (tried : List (ℕ × EspResult)) (s t : Session) : Prop :=
  ∃ new, t.log = s.log ++ new ∧ new.filterMap registerAttempt = tried

section

variable {s t u : Session} {tried tried' : List (ℕ × EspResult)}

theorem Tries.trans (h : Tries tried s t) (h' : Tries tried' t u) :
    Tries (tried ++ tried') s u := by
  obtain ⟨new, hlog, htried⟩ := h
  obtain ⟨new', hlog', htried'⟩ := h'
  refine ⟨new ++ new', ?_, ?_⟩
  · rw [hlog', hlog, List.append_assoc]
  · rw [List.filterMap_append, htried, htried']

theorem Calls.tries (h : Calls (fun call => call.registers = false) s t) :
    Tries [] s t := by
  obtain ⟨new, hlog, hnew⟩ := h
  refine ⟨new, hlog, ?_⟩
  rw [List.filterMap_eq_nil_iff]
  intro e he
  have hcall := hnew e he
  unfold registerAttempt
  split
  · rename_i hregister
    rw [hregister] at hcall
    cases hcall
  · rfl

theorem Tries.drop (h : Tries tried s t) :
    (t.log.drop s.log.length).filterMap registerAttempt = tried := by
  obtain ⟨new, hlog, htried⟩ := h
  rw [hlog, List.drop_left, htried]

end

theorem unregisterIfOwned_tries (env : Env) (s : Session) :
    Tries [] s (unregisterIfOwned env s) := by
  obtain ⟨-, new, hlog, hnew⟩ := unregisterIfOwned_frame env s
  refine Calls.tries ⟨new, hlog, fun e he => ?_⟩
  have hmem : e.call ∈ unregisterCalls env s := by
    rw [← hnew]
    exact List.mem_map_of_mem he
  unfold unregisterCalls at hmem
  split at hmem
  · rw [List.mem_singleton] at hmem
    rw [hmem]
    rfl
  · cases hmem

/-- `Connect` comes to its registration loop. -/
def EntersLoop (env : Env) (client : ClientSpec) (s : Session) : Prop :=
  env.available .connectClient = true ∧
    env.available .registerClient = true ∧
    (chooseClientId env client s).1 = true

instance (env : Env) (client : ClientSpec) (s : Session) :
    Decidable (EntersLoop env client s) :=
  inferInstanceAs (Decidable (_ ∧ _ ∧ _))

def registrationName (client : ClientSpec) : String :=
  if client.name = "" then kDefaultClientName else client.name

/-- The answers at the altitudes `altitude 0`, `altitude 1`, … in turn, from
the session at the head of the loop. -/
def answerAt (env : Env) (client : ClientSpec) (s : Session)
    (altitude : ℕ → ℕ) (attempt : ℕ) : Reply :=
  let entry := (chooseClientId env client s).2
  (turn env.respond entry.journal.tag entry.log
    (registerCall entry.clientId (registrationName client) altitude)
    attempt).reply

/-- The altitudes one call of `Connect` tried, with their results. -/
def altitudesTried (env : Env) (client : ClientSpec) (s : Session) :
    List (ℕ × EspResult) :=
  ((connect env client s).2.log.drop s.log.length).filterMap registerAttempt

/-- The registration of `Connect`, from the session at the head of the
loop. -/
def registrationOutcome (env : Env) (client : ClientSpec) (entry : Session) :
    EspResult × Session :=
  entry.run do
    let result ← registerAltitudes env entry.clientId
      (registrationName client) (altitudeBase client)
      kAltitudeCollisionTries kFail
    record "EspRegisterClient" result
    return result

theorem registrationOutcome_tries (env : Env) (client : ClientSpec)
    (s : Session) :
    let entry := (chooseClientId env client s).2
    let answer := answerAt env client s (altitudeAt (altitudeBase client))
    ∃ n, StopsAfter collided answer kAltitudeCollisionTries n ∧
      Tries ((List.range n).map fun attempt =>
          (altitudeAt (altitudeBase client) attempt, (answer attempt).result))
        entry (registrationOutcome env client entry).2 := by
  intro entry answer
  let callAt := registerCall entry.clientId (registrationName client)
    (altitudeAt (altitudeBase client))
  let last : Reply := { result := kFail }
  obtain ⟨n, hjournal, hstops⟩ := retry_run_start env.respond callAt collided
    kAltitudeCollisionTries last entry.journal
  have hloop := registerAltitudes_eq_retry env entry.clientId
    (registrationName client) (altitudeBase client) 0
    kAltitudeCollisionTries last (Nat.zero_add _) entry.journal
  refine ⟨n, hstops, turns env.respond entry.journal.tag entry.log callAt n,
    ?_, ?_⟩
  · change (registerAltitudes env entry.clientId (registrationName client)
      (altitudeBase client) kAltitudeCollisionTries last.result
      entry.journal).2.log = _
    rw [hloop]
    dsimp only
    rw [hjournal]
    rfl
  · rw [turns_eq_map, List.filterMap_map, ← List.filterMap_eq_map]
    rfl

theorem connect_eq (env : Env) (client : ClientSpec) (s : Session)
    (hloop : EntersLoop env client s) :
    connect env client s =
      let registered := registrationOutcome env client
        (chooseClientId env client s).2
      if registered.1 ≠ kOk then (false, registered.2)
      else
        let adopted := adoptClient env
          { registered.2 with registeredThisSession := true }
        if adopted.1 then (true, adopted.2)
        else (false, unregisterIfOwned env adopted.2) := by
  obtain ⟨hconnect, hregister, hid⟩ := hloop
  rw [connect, require_run_of_available env s hconnect]
  dsimp only
  rw [require_run_of_available env s hregister]
  dsimp only
  rw [hid]
  rfl

/-- One connection makes the attempts of its loop and no other. -/
theorem connect_tries (env : Env) (client : ClientSpec) (s : Session)
    (hloop : EntersLoop env client s) :
    let answer := answerAt env client s (altitudeAt (altitudeBase client))
    ∃ n, StopsAfter collided answer kAltitudeCollisionTries n ∧
      altitudesTried env client s = (List.range n).map fun attempt =>
        (altitudeAt (altitudeBase client) attempt,
          (answer attempt).result) := by
  intro answer
  obtain ⟨n, hstops, htried⟩ := registrationOutcome_tries env client s
  refine ⟨n, hstops, Tries.drop ?_⟩
  have hchosen : Tries [] s (chooseClientId env client s).2 :=
    (chooseClientId_calls (P := fun call => call.registers = false) env rfl
      client s).tries
  have hregistered := hchosen.trans htried
  let registered := registrationOutcome env client (chooseClientId env client s).2
  let adopted := adoptClient env
    { registered.2 with registeredThisSession := true }
  have hadopted : Tries [] registered.2 adopted.2 :=
    (adoptClient_calls (P := fun call => call.registers = false) env
      { registered.2 with registeredThisSession := true } rfl).tries
  rw [List.nil_append] at hregistered
  rw [connect_eq env client s hloop]
  dsimp only
  split
  · exact hregistered
  · have hconnected := hregistered.trans hadopted
    rw [List.append_nil] at hconnected
    split
    · exact hconnected
    · have hreleased := hconnected.trans (unregisterIfOwned_tries env adopted.2)
      rw [List.append_nil] at hreleased
      exact hreleased

/-- Without its exports or a client identity `Connect` tries no altitude. -/
theorem altitudesTried_of_not_enters (env : Env) (client : ClientSpec)
    (s : Session) (hloop : ¬ EntersLoop env client s) :
    altitudesTried env client s = [] := by
  refine Tries.drop ?_
  let connectFn := s.run (require env .connectClient)
  have hlookup : Calls (fun call => call.registers = false) s
      (connectFn.2.run (require env .registerClient)).2 :=
    (require_calls env .connectClient s).trans
      (require_calls env .registerClient connectFn.2)
  by_cases hboth : env.available .connectClient = true ∧
      env.available .registerClient = true
  · have hid : (chooseClientId env client s).1 = false := by
      rw [Bool.eq_false_iff]
      exact fun hid => hloop ⟨hboth.1, hboth.2, hid⟩
    have hchosen : Tries [] s (chooseClientId env client s).2 :=
      (chooseClientId_calls (P := fun call => call.registers = false) env rfl
        client s).tries
    rw [connect, require_run_of_available env s hboth.1]
    dsimp only
    rw [require_run_of_available env s hboth.2]
    dsimp only
    rw [hid]
    exact hchosen
  · unfold connect
    dsimp only
    rw [if_pos]
    · exact hlookup.tries
    · rw [require_run_fst, require_run_fst]
      rw [← Bool.and_eq_true_iff, Bool.not_eq_true] at hboth
      rw [hboth]
      rfl

/-! ## Exact altitudes -/

/-- The altitude text that `Connect` accepts, with its value. -/
def AcceptedAltitude (client : ClientSpec) (base : ℕ) : Prop :=
  client.altitude ≠ "" ∧
    Text.parseUnsigned client.altitude.toList = some base ∧
    1 ≤ base ∧ base ≤ 2 ^ 32 - 1

theorem AcceptedAltitude.altitudeBase {client : ClientSpec} {base : ℕ}
    (h : AcceptedAltitude client base) : altitudeBase client = base := by
  obtain ⟨hne, hparsed, hpos, hmax⟩ := h
  rw [Esp.altitudeBase, hparsed]
  exact if_pos ⟨hne, Nat.pos_iff_ne_zero.mp hpos, hmax⟩

def exactAltitude (base attempt : ℕ) : ℕ :=
  base + attempt * kAltitudeCollisionStep

/-- The loop never revisits or wraps: it tried `base` and the steps above it
as exact integers, in increasing order and up to the first result other than
a collision. -/
structure ExactRun (base : ℕ) (tried : List (ℕ × EspResult)) : Prop where
  started : tried ≠ []
  bounded : tried.length ≤ kAltitudeCollisionTries
  exact : tried.map Prod.fst =
    (List.range tried.length).map (exactAltitude base)
  increasing : (tried.map Prod.fst).Pairwise (· < ·)
  collided : ∀ attempt ∈ tried.dropLast, attempt.2 = kAlreadyExists
  stopped : tried.length < kAltitudeCollisionTries →
    ∀ attempt ∈ tried.getLast?, attempt.2 ≠ kAlreadyExists

/-- A connection that comes to its loop makes an exact run of it, and one
that does not tries nothing. -/
def AltitudesExact (env : Env) (client : ClientSpec) (s : Session)
    (base : ℕ) : Prop :=
  if EntersLoop env client s then ExactRun base (altitudesTried env client s)
  else altitudesTried env client s = []

/-- Before an altitude that leaves 32 bits comes an exact altitude at which
the service answers something other than a collision. -/
def FreeBeforeWrap (env : Env) (client : ClientSpec) (s : Session)
    (base : ℕ) : Prop :=
  EntersLoop env client s → ∀ attempt < kAltitudeCollisionTries,
    2 ^ 32 ≤ exactAltitude base attempt →
      ∃ earlier < attempt,
        (answerAt env client s (exactAltitude base) earlier).result ≠
          kAlreadyExists

section

variable {env : Env} {client : ClientSpec} {s : Session} {base n : ℕ}

theorem answerAt_congr {altitude altitude' : ℕ → ℕ} {attempt : ℕ}
    (h : ∀ k ≤ attempt, altitude k = altitude' k) :
    answerAt env client s altitude attempt =
      answerAt env client s altitude' attempt := by
  have hcalls : ∀ k ≤ attempt,
      registerCall (chooseClientId env client s).2.clientId
          (registrationName client) altitude k =
        registerCall (chooseClientId env client s).2.clientId
          (registrationName client) altitude' k :=
    fun k hk => by rw [registerCall, registerCall, h k hk]
  rw [answerAt, answerAt, turn_congr hcalls]

theorem altitudeAt_eq_exact_iff (hpos : 1 ≤ base) (hmax : base ≤ 2 ^ 32 - 1)
    (attempt : ℕ) :
    altitudeAt base attempt = exactAltitude base attempt ↔
      exactAltitude base attempt < 2 ^ 32 := by
  rw [altitudeAt_eq (by omega) (by omega), exactAltitude]
  constructor
  · intro h
    rw [← h]
    exact Nat.mod_lt _ (by decide)
  · exact Nat.mod_eq_of_lt

/-- A stopped loop made an exact run if and only if each of its altitudes was
exact. -/
theorem exactRun_iff {answer : ℕ → Reply} {altitude : ℕ → ℕ}
    (h : StopsAfter Esp.collided answer kAltitudeCollisionTries n) :
    ExactRun base ((List.range n).map fun attempt =>
        (altitude attempt, (answer attempt).result)) ↔
      ∀ attempt < n, altitude attempt = exactAltitude base attempt := by
  constructor
  · intro hrun attempt hattempt
    have hexact := hrun.exact
    rw [List.map_map, List.length_map, List.length_range] at hexact
    exact List.map_inj_left.mp hexact attempt (List.mem_range.mpr hattempt)
  · intro haltitude
    have hfst : ((List.range n).map fun attempt =>
        (altitude attempt, (answer attempt).result)).map Prod.fst =
          (List.range n).map (exactAltitude base) := by
      rw [List.map_map]
      exact List.map_inj_left.mpr fun attempt hattempt =>
        haltitude attempt (List.mem_range.mp hattempt)
    have hsome : 0 < n := by
      rcases Nat.lt_or_ge n kAltitudeCollisionTries with hlt | hle
      · exact (h.stopped hlt).1
      · exact lt_of_lt_of_le (by decide) hle
    obtain ⟨m, rfl⟩ := Nat.exists_eq_add_one.mpr hsome
    refine ⟨?_, ?_, ?_, ?_, ?_, ?_⟩
    · rw [List.range_succ, List.map_append]
      exact List.append_ne_nil_of_right_ne_nil _ (List.cons_ne_nil _ _)
    · rw [List.length_map, List.length_range]
      exact h.bounded
    · rw [hfst, List.length_map, List.length_range]
    · rw [hfst, List.pairwise_map]
      refine List.pairwise_lt_range.imp ?_
      intro earlier later hlt
      exact Nat.add_lt_add_left (Nat.mul_lt_mul_of_pos_right hlt (by decide)) _
    · intro attempt hattempt
      rw [List.range_succ, List.map_append, List.map_singleton,
        List.dropLast_concat, List.mem_map] at hattempt
      obtain ⟨k, hk, rfl⟩ := hattempt
      exact h.repeated k (Nat.succ_lt_succ (List.mem_range.mp hk))
    · intro hlt attempt hattempt
      rw [List.length_map, List.length_range] at hlt
      rw [List.range_succ, List.map_append, List.map_singleton,
        List.getLast?_concat, Option.mem_some_iff] at hattempt
      subst hattempt
      exact (h.stopped hlt).2

/-- The altitudes of a stopped loop are exact if and only if the service is
free at one of them before they leave 32 bits. -/
theorem altitudes_exact_iff (hpos : 1 ≤ base) (hmax : base ≤ 2 ^ 32 - 1)
    (h : StopsAfter Esp.collided (answerAt env client s (altitudeAt base))
      kAltitudeCollisionTries n) :
    (∀ attempt < n, altitudeAt base attempt = exactAltitude base attempt) ↔
      ∀ attempt < kAltitudeCollisionTries,
        2 ^ 32 ≤ exactAltitude base attempt →
          ∃ earlier < attempt,
            (answerAt env client s (exactAltitude base) earlier).result ≠
              kAlreadyExists := by
  constructor
  · intro hexact attempt hattempt hwrap
    -- the loop stopped before it came to this altitude
    have hle : n ≤ attempt := by
      by_contra hlt
      have hfits := (altitudeAt_eq_exact_iff hpos hmax attempt).mp
        (hexact attempt (not_le.mp hlt))
      omega
    obtain ⟨hsome, hfree⟩ := h.stopped (lt_of_le_of_lt hle hattempt)
    refine ⟨n - 1, by omega, ?_⟩
    rw [answerAt_congr fun k hk => hexact k (by omega)] at hfree
    exact hfree
  · intro hfree attempt hattempt
    -- the first altitude that wraps would follow collisions at exact ones
    induction attempt using Nat.strong_induction_on with
    | _ attempt ih =>
        rw [altitudeAt_eq_exact_iff hpos hmax]
        by_contra hwrap
        obtain ⟨earlier, hlt, hanswer⟩ := hfree attempt
          (lt_of_lt_of_le hattempt h.bounded) (not_lt.mp hwrap)
        refine hanswer ?_
        rw [← answerAt_congr fun k hk => ih k (by omega) (by omega)]
        exact h.repeated earlier (by omega)

end

theorem altitudeAt_inj {client : ClientSpec} {base first second : ℕ}
    (htext : AcceptedAltitude client base)
    (hfirst : first < kAltitudeCollisionTries)
    (hsecond : second < kAltitudeCollisionTries)
    (h : altitudeAt base first = altitudeAt base second) : first = second := by
  obtain ⟨-, -, hpos, hmax⟩ := htext
  rw [altitudeAt_eq (by omega) (by omega),
    altitudeAt_eq (by omega) (by omega)] at h
  have hsteps : first * kAltitudeCollisionStep =
      second * kAltitudeCollisionStep := by
    refine (Nat.ModEq.add_left_cancel' base h).eq_of_lt_of_lt ?_ ?_
    · exact (Nat.mul_lt_mul_of_pos_right hfirst (by decide)).trans (by decide)
    · exact (Nat.mul_lt_mul_of_pos_right hsecond (by decide)).trans (by decide)
  exact Nat.eq_of_mul_eq_mul_right (by decide) hsteps

/-- Even when they wrap, no altitude is tried twice. -/
theorem altitudesTried_nodup (env : Env) (client : ClientSpec) (s : Session)
    {base : ℕ} (htext : AcceptedAltitude client base) :
    ((altitudesTried env client s).map Prod.fst).Nodup := by
  by_cases hloop : EntersLoop env client s
  · obtain ⟨n, hstops, htried⟩ := connect_tries env client s hloop
    rw [htried, htext.altitudeBase, List.map_map]
    refine List.Nodup.map_on ?_ List.nodup_range
    intro first hfirst second hsecond heq
    rw [List.mem_range] at hfirst hsecond
    exact altitudeAt_inj htext (lt_of_lt_of_le hfirst hstops.bounded)
      (lt_of_lt_of_le hsecond hstops.bounded) heq
  · rw [altitudesTried_of_not_enters env client s hloop]
    exact List.nodup_nil

/-- The altitudes of a connection are exact if and only if the service is
free at one of them before they leave 32 bits. -/
theorem altitudesExact_iff (env : Env) (client : ClientSpec) (s : Session)
    {base : ℕ} (htext : AcceptedAltitude client base) :
    AltitudesExact env client s base ↔ FreeBeforeWrap env client s base := by
  unfold AltitudesExact FreeBeforeWrap
  by_cases hloop : EntersLoop env client s
  · obtain ⟨n, hstops, htried⟩ := connect_tries env client s hloop
    rw [htext.altitudeBase] at hstops htried
    obtain ⟨-, -, hpos, hmax⟩ := htext
    rw [if_pos hloop, htried, exactRun_iff hstops,
      altitudes_exact_iff hpos hmax hstops]
    exact ⟨fun h _ => h, fun h => h hloop⟩
  · rw [if_neg hloop]
    exact ⟨fun _ h => absurd h hloop,
      fun _ => altitudesTried_of_not_enters env client s hloop⟩

/-- A service that has the altitude `taken`, and accepts everything else. -/
def takenEnv (taken : ℕ) : Env where
  available _ := true
  respond log call :=
    if let .registerClient _ _ altitude := call then
      if altitude = taken then { result := kAlreadyExists }
      else { result := kOk }
    else { result := kOk, out := log.length + 1 }
  expandFilterValue value := value.toList.map fun c => UInt16.ofNat c.toNat
  patchError _ := ""

theorem altitudesExact_default :
    AltitudesExact (takenEnv 385000) { guid := Vector.replicate 16 1 } Session.fresh
      385000 := by
  refine (altitudesExact_iff _ _ _ ⟨by decide, by decide, by decide,
    by decide⟩).mpr ?_
  intro _ attempt hattempt hwrap
  have hlt : attempt < 32 := hattempt
  have hle : 2 ^ 32 ≤ 385000 + attempt * 10 := hwrap
  omega

/-- With the highest altitude taken, the next one tried is 9. -/
theorem altitudes_wrap :
    altitudesTried (takenEnv 4294967295)
        { altitude := "4294967295", guid := Vector.replicate 16 1 } Session.fresh =
      [(4294967295, kAlreadyExists), (9, kOk)] ∧
    ¬ ∀ (env : Env) (client : ClientSpec) (s : Session) (base : ℕ),
      AcceptedAltitude client base → AltitudesExact env client s base := by
  have htried : altitudesTried (takenEnv 4294967295)
      { altitude := "4294967295", guid := Vector.replicate 16 1 } Session.fresh =
        [(4294967295, kAlreadyExists), (9, kOk)] := by
    decide
  refine ⟨htried, fun h => ?_⟩
  have hexact := h (takenEnv 4294967295)
    { altitude := "4294967295", guid := Vector.replicate 16 1 } Session.fresh
    4294967295 ⟨by decide, by decide, by decide, by decide⟩
  rw [AltitudesExact, if_pos (by decide), htried] at hexact
  have hfirst := hexact.exact
  revert hfirst
  decide

end Esptool.Esp
