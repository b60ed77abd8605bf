import Esptool.Notifications

/-!
# The notification pumps

`PumpNotifications` and `PumpNotificationsIocp` are the same loop over two
transports.  A pump is a small protocol between the loop, the driver, which
delivers an armed notification at some later time, and, for the first
transport, the callback, which stores the notification and sets an event.
Every action below is one step of one of the three, and a run is any order of
them.

The books are kept by an automaton over the calls of the pump: it accepts
exactly the traces in which every notification is completed once before the
next arm and nothing is armed after the last one.
-/

namespace Esptool.Esp

open Model Interaction

/-! ## The protocol -/

inductive Transport
  | callback
  | iocp
deriving DecidableEq, Repr

/-- What one pump is started with. -/
structure PumpJob where
  transport : Transport
  maxNotifications : ℕ
  host : NotifyHost

/-- Where the loop stands; a phase is left by one call at most. -/
inductive Phase
  | starting
  | connecting
  | opening
  | arming
  | looping
  | waiting
  | emitting
  | querying
  | completing
  | capping
  | stopped
deriving DecidableEq, Repr

/-- A pump with its surroundings: the notifications that the driver was armed
with and did not deliver yet, the callbacks that stored theirs and did not set
the event yet, the event, and the packets of the port. -/
structure Pump where
  phase : Phase := .starting
  session : Session
  outstanding : List Handle := []
  signalling : ℕ := 0
  pumpEvent : Bool := false
  event : Bool := false
  packets : List Handle := []
  trace : List PumpEvent := []

def Pump.start (s : Session) : Pump :=
  { session := { s with notificationsReceived := 0 } }

/-- The pump goes on with a session, whose new calls are put on the trace. -/
def Pump.observe (p : Pump) (s : Session) : Pump :=
  { p with
    session := s
    trace := p.trace ++
      (s.log.drop p.session.log.length).filterMap PumpEvent.ofCall }

def Pump.stop (p : Pump) : Pump :=
  { p with phase := .stopped, pumpEvent := false }

/-- The loop's own next step; none while it has nothing to wait for.  The
wait is that of `ConsumeNotification` or of the port, and from there on to the
next arm the loop is in `EmitCompleteAndRearm`. -/
def Pump.advance (env : Env) (job : PumpJob) (p : Pump) : Option Pump :=
  let s := p.session
  match p.phase with
  | .starting =>
      if s.queueHandle = 0 then
        let message := match job.transport with
          | .callback => "PumpNotifications has no created event queue; " ++
              "holding without pumping"
          | .iocp => "PumpNotificationsIocp requires a created event queue"
        some { p with session := s.warn message }.stop
      else some { p with phase := .connecting }
  | .connecting =>
      match job.transport with
      | .callback =>
          let connected := connectQueueToCallback env s
          some (if connected.1
            then { p.observe connected.2 with phase := .opening }
            else (p.observe connected.2).stop)
      | .iocp =>
          let connected := createIocpQueue env s
          some (if connected.1
            then { p.observe connected.2 with phase := .arming }
            else (p.observe connected.2).stop)
  | .opening =>
      some { p with pumpEvent := true, event := false, phase := .arming }
  | .arming =>
      let armed := armNotification env s
      some (if armed.1
        then
          { p.observe armed.2 with
            outstanding := p.outstanding ++ [armed.2.notification]
            phase := .looping }
        else (p.observe armed.2).stop)
  | .looping =>
      some (if s.notificationsReceived < job.maxNotifications
        then { p with phase := .waiting } else p.stop)
  | .waiting =>
      match job.transport, p.event, p.packets with
      | .callback, true, _ => some { p with event := false, phase := .emitting }
      | .iocp, _, packet :: packets =>
          some
            { p with
              packets := packets
              session := if s.notification = 0
                then { s with notification := packet } else s
              phase := .emitting }
      | _, _, _ => none
  | .emitting =>
      let counted :=
        { s with notificationsReceived := s.notificationsReceived + 1 }
      some
        { p with
          session := (counted.run (record "notification" kOk)).2
          trace := p.trace ++ [.counted]
          phase := .querying }
  | .querying =>
      let queried := if s.notifyQueries.isEmpty then s
        else (queryFromNotification env job.host s).2
      some { p.observe queried with phase := .completing }
  | .completing =>
      let completed := completeNotification env s
      some (if completed.1
        then { p.observe completed.2 with phase := .capping }
        else (p.observe completed.2).stop)
  | .capping =>
      some (if s.notificationsReceived ≥ job.maxNotifications then p.stop
        else { p with phase := .arming })
  | .stopped => none

inductive PumpAction
  | advance
  /-- `CreateEventW` fails. -/
  | eventFails
  /-- The deadline passes, or the wait ends without a notification. -/
  | timeout
  /-- The port hands out a packet of a failed operation. -/
  | packetFails
  /-- The driver delivers one of the notifications it was armed with. -/
  | deliver (index : ℕ)
  /-- A callback comes to `SetEvent`. -/
  | signal
deriving DecidableEq, Repr

/-- The driver's side of a delivery: the callback runs up to `SetEvent`, or
the port gets a packet. -/
def Pump.deliver (job : PumpJob) (p : Pump) (index : ℕ) : Option Pump :=
  match p.outstanding[index]? with
  | none => none
  | some notification =>
      let left := p.outstanding.eraseIdx index
      match job.transport with
      | .callback =>
          some
            { p with
              outstanding := left
              session := handleQueueNotification notification p.session
              signalling := if notification = 0 then p.signalling
                else p.signalling + 1 }
      | .iocp =>
          some
            { p with
              outstanding := left
              packets := p.packets ++ [notification] }

def Pump.step (env : Env) (job : PumpJob) (p : Pump) :
    PumpAction → Option Pump
  | .advance => p.advance env job
  | .eventFails =>
      if p.phase = .opening then
        let message := "could not create the notification wait event"
        some { p with session := p.session.warn message }.stop
      else none
  | .timeout => if p.phase = .waiting then some p.stop else none
  | .packetFails =>
      if p.phase = .waiting ∧ p.packets ≠ [] then
        some { p with packets := p.packets.tail }.stop
      else none
  | .deliver index => p.deliver job index
  | .signal =>
      match p.signalling with
      | 0 => none
      | signalling + 1 =>
          some
            { p with
              signalling := signalling
              event := p.event || p.pumpEvent }

def Pump.run (env : Env) (job : PumpJob) (actions : List PumpAction)
    (p : Pump) : Option Pump :=
  actions.foldlM (Pump.step env job) p

/-! ## The accounts of a trace -/

/-- How a trace stands, with the notifications counted so far: an arm may
follow, an arm was made, a notification is owed its completion, or nothing
may follow any more. -/
inductive Account
  | ready (received : ℕ)
  | armed (received : ℕ)
  | owed (received : ℕ)
  | closed (received : ℕ)
deriving DecidableEq, Repr

namespace Account

def received : Account → ℕ
  | ready n => n
  | armed n => n
  | owed n => n
  | closed n => n

/-- The rules of the accounts: everything else is out of order. -/
def post (limit : ℕ) : Account → PumpEvent → Option Account
  | ready n, .armed ok =>
      if n < limit then some (if ok then armed n else closed n) else none
  | armed n, .counted => some (owed (n + 1))
  | owed n, .completed ok => some (if ok then ready n else closed n)
  | _, _ => none

def posts (limit : ℕ) (account : Account) (trace : List PumpEvent) :
    Option Account :=
  trace.foldlM (post limit) account

def ofTrace (limit : ℕ) (trace : List PumpEvent) : Option Account :=
  posts limit (ready 0) trace

section

variable {limit n : ℕ} {account next final : Account} {event : PumpEvent}
  {trace before middle after : List PumpEvent} {ok : Bool}

theorem posts_append (h : posts limit account before = some next) :
    posts limit account (before ++ after) = posts limit next after := by
  have hbefore : before.foldlM (post limit) account = some next := h
  unfold posts
  rw [List.foldlM_append, hbefore]
  rfl

theorem posts_append_cases
    (h : posts limit account (before ++ after) = some final) :
    ∃ next, posts limit account before = some next ∧
      posts limit next after = some final := by
  cases hbefore : posts limit account before with
  | none =>
      have hfold : before.foldlM (post limit) account = none := hbefore
      unfold posts at h
      rw [List.foldlM_append, hfold] at h
      cases h
  | some next =>
      rw [posts_append hbefore] at h
      exact ⟨next, rfl, h⟩

theorem posts_cons_cases
    (h : posts limit account (event :: after) = some final) :
    ∃ next, post limit account event = some next ∧
      posts limit next after = some final := by
  cases hpost : post limit account event with
  | none =>
      unfold posts at h
      rw [List.foldlM_cons, hpost] at h
      cases h
  | some next =>
      unfold posts at h
      rw [List.foldlM_cons, hpost] at h
      exact ⟨next, rfl, h⟩

theorem post_cases (h : post limit account event = some next) :
    (∃ n ok, account = ready n ∧ event = .armed ok ∧ n < limit ∧
        next = if ok then armed n else closed n) ∨
      (∃ n, account = armed n ∧ event = .counted ∧ next = owed (n + 1)) ∨
      ∃ n ok, account = owed n ∧ event = .completed ok ∧
        next = if ok then ready n else closed n := by
  unfold post at h
  split at h
  · rename_i n ok
    split at h
    · rename_i hbelow
      exact .inl ⟨n, ok, rfl, rfl, hbelow, (Option.some.inj h).symm⟩
    · cases h
  · exact .inr (.inl ⟨_, rfl, rfl, (Option.some.inj h).symm⟩)
  · exact .inr (.inr ⟨_, _, rfl, rfl, (Option.some.inj h).symm⟩)
  · cases h

theorem post_armed (h : post limit account (.armed ok) = some next) :
    ∃ n, account = ready n ∧ n < limit := by
  obtain ⟨n, _, haccount, _, hbelow, _⟩ | ⟨_, _, hevent, _⟩ |
    ⟨_, _, _, hevent, _⟩ := post_cases h
  · exact ⟨n, haccount, hbelow⟩
  · cases hevent
  · cases hevent

theorem post_counted (h : post limit account .counted = some next) :
    ∃ n, next = owed n := by
  obtain ⟨_, _, _, hevent, _⟩ | ⟨n, _, _, hnext⟩ |
    ⟨_, _, _, hevent, _⟩ := post_cases h
  · cases hevent
  · exact ⟨n + 1, hnext⟩
  · cases hevent

/-- What an account says about its trace. -/
structure Sound (limit : ℕ) (trace : List PumpEvent) (account : Account) :
    Prop where
  counted : trace.count .counted = account.received
  received_le : account.received ≤ limit
  armed_lt : ∀ n, account = armed n → n < limit
  /-- Only a closed account has a failed completion. -/
  completed : (∀ n, account ≠ closed n) → .completed false ∉ trace

theorem Sound.post (h : Sound limit trace account)
    (hpost : post limit account event = some next) :
    Sound limit (trace ++ [event]) next := by
  obtain ⟨n, ok, rfl, rfl, hbelow, rfl⟩ | ⟨n, rfl, rfl, rfl⟩ |
    ⟨n, ok, rfl, rfl, rfl⟩ := post_cases hpost
  · have hclean := h.completed (fun _ => nofun)
    have hcount : trace.count .counted = n := h.counted
    cases ok
    · exact ⟨by simpa [received] using hcount, hbelow.le, nofun,
        fun hopen => absurd rfl (hopen n)⟩
    · refine ⟨by simpa [received] using hcount, hbelow.le, ?_,
        fun _ => by simpa using hclean⟩
      intro m hm
      cases hm
      exact hbelow
  · have hclean := h.completed (fun _ => nofun)
    have hcount : trace.count .counted = n := h.counted
    exact ⟨by simpa [received] using hcount, h.armed_lt n rfl, nofun,
      fun _ => by simpa using hclean⟩
  · have hclean := h.completed (fun _ => nofun)
    have hcount : trace.count .counted = n := h.counted
    cases ok
    · exact ⟨by simpa [received] using hcount, h.received_le, nofun,
        fun hopen => absurd rfl (hopen n)⟩
    · exact ⟨by simpa [received] using hcount, h.received_le, nofun,
        fun _ => by simpa using hclean⟩

theorem Sound.posts (hsound : Sound limit before account)
    (h : posts limit account after = some final) :
    Sound limit (before ++ after) final := by
  induction after generalizing before account with
  | nil =>
      cases h
      simpa using hsound
  | cons event after ih =>
      obtain ⟨next, hpost, hrest⟩ := posts_cons_cases h
      have hnext := ih (hsound.post hpost) hrest
      simpa using hnext

theorem ofTrace_sound (h : ofTrace limit trace = some account) :
    Sound limit trace account := by
  have hempty : Sound limit [] (ready 0) :=
    ⟨rfl, Nat.zero_le _, nofun, fun _ => List.not_mem_nil⟩
  exact hempty.posts h

/-- An arm finds a clean account below the limit. -/
theorem sound_of_armed
    (h : ofTrace limit (before ++ .armed ok :: after) = some final) :
    before.count .counted < limit ∧ .completed false ∉ before := by
  obtain ⟨account, hbefore, hrest⟩ := posts_append_cases h
  obtain ⟨next, hpost, _⟩ := posts_cons_cases hrest
  obtain ⟨n, rfl, hbelow⟩ := post_armed hpost
  have hsound := ofTrace_sound hbefore
  refine ⟨?_, hsound.completed fun _ => nofun⟩
  rw [hsound.counted]
  exact hbelow

/-- Without an arm an owed account gets its completion and nothing else. -/
theorem posts_owed (h : posts limit (owed n) middle = some final)
    (harms : ∀ ok, .armed ok ∉ middle) :
    (middle = [] ∧ final = owed n) ∨
      ∃ ok, middle = [.completed ok] ∧
        final = if ok then ready n else closed n := by
  cases middle with
  | nil =>
      cases h
      exact .inl ⟨rfl, rfl⟩
  | cons event rest =>
      obtain ⟨next, hpost, hrest⟩ := posts_cons_cases h
      obtain ⟨_, _, haccount, _⟩ | ⟨_, haccount, _⟩ |
        ⟨m, ok, haccount, rfl, rfl⟩ := post_cases hpost
      · cases haccount
      · cases haccount
      · cases haccount
        cases rest with
        | nil =>
            cases hrest
            exact .inr ⟨ok, rfl, rfl⟩
        | cons event rest =>
            -- only an arm could follow a completion
            obtain ⟨next, hpost, _⟩ := posts_cons_cases hrest
            obtain ⟨_, again, _, rfl, _⟩ | ⟨_, haccount, _⟩ |
              ⟨_, _, haccount, _⟩ := post_cases hpost
            · exact absurd (by simp) (harms again)
            · cases ok <;> cases haccount
            · cases ok <;> cases haccount

theorem posts_counted
    (h : ofTrace limit (before ++ .counted :: middle) = some final)
    (harms : ∀ ok, .armed ok ∉ middle) :
    ∃ n, (middle = [] ∧ final = owed n) ∨
      ∃ ok, middle = [.completed ok] ∧
        final = if ok then ready n else closed n := by
  obtain ⟨account, _, hrest⟩ := posts_append_cases h
  obtain ⟨next, hpost, hmiddle⟩ := posts_cons_cases hrest
  obtain ⟨n, rfl⟩ := post_counted hpost
  exact ⟨n, posts_owed hmiddle harms⟩

/-- Between a counted notification and the next arm stands its completion. -/
theorem completed_before_arm
    (h : ofTrace limit (before ++ .counted :: (middle ++ .armed ok :: after)) =
      some final)
    (harms : ∀ ok, .armed ok ∉ middle) : middle = [.completed true] := by
  have hsplit : before ++ .counted :: (middle ++ .armed ok :: after) =
      (before ++ .counted :: middle) ++ .armed ok :: after := by simp
  rw [hsplit] at h
  obtain ⟨account, hmiddle, hrest⟩ := posts_append_cases h
  obtain ⟨next, hpost, _⟩ := posts_cons_cases hrest
  obtain ⟨m, rfl, _⟩ := post_armed hpost
  obtain ⟨n, ⟨_, haccount⟩ | ⟨ok, hcompleted, haccount⟩⟩ :=
    posts_counted hmiddle harms
  · cases haccount
  · cases ok
    · cases haccount
    · exact hcompleted

/-- At the end only an owed account lacks a completion. -/
theorem completed_at_end
    (h : ofTrace limit (before ++ .counted :: middle) = some final)
    (harms : ∀ ok, .armed ok ∉ middle) (hpaid : ∀ n, final ≠ owed n) :
    ∃ ok, middle = [.completed ok] := by
  obtain ⟨n, ⟨_, haccount⟩ | ⟨ok, hcompleted, _⟩⟩ := posts_counted h harms
  · exact absurd haccount (hpaid n)
  · exact ⟨ok, hcompleted⟩

end

end Account

/-! ## The invariant -/

/-- What was armed and is not taken by the loop yet, wherever it is. -/
def Pump.inFlight (p : Pump) : ℕ :=
  p.outstanding.length + p.signalling + p.event.toNat + p.packets.length

/-- How the accounts stand in every phase. -/
def Phase.Expects (limit : ℕ) (account : Account) : Phase → Prop
  | .starting => ∃ n, account = .ready n ∧ n < limit
  | .connecting => ∃ n, account = .ready n ∧ n < limit
  | .opening => ∃ n, account = .ready n ∧ n < limit
  | .arming => ∃ n, account = .ready n ∧ n < limit
  | .looping => ∃ n, account = .armed n
  | .waiting => ∃ n, account = .armed n
  | .emitting => ∃ n, account = .armed n
  | .querying => ∃ n, account = .owed n
  | .completing => ∃ n, account = .owed n
  | .capping => ∃ n, account = .ready n
  | .stopped => ∀ n, account ≠ .owed n

/-- Only these phases leave something in flight. -/
def Phase.inFlight : Phase → ℕ
  | .looping => 1
  | .waiting => 1
  | .stopped => 1
  | _ => 0

/-- From an arm to its completion the session has a notification. -/
def Phase.holds : Phase → Bool
  | .looping => true
  | .waiting => true
  | .emitting => true
  | .querying => true
  | .completing => true
  | _ => false

structure Pump.Inv (job : PumpJob) (start : Session) (p : Pump)
    (account : Account) : Prop where
  books : Account.ofTrace job.maxNotifications p.trace = some account
  expects : p.phase.Expects job.maxNotifications account
  received : account.received = p.session.notificationsReceived
  inFlight : p.inFlight ≤ p.phase.inFlight
  notification : p.phase.holds = true → p.session.notification ≠ 0
  /-- The trace leaves no call of the pump out. -/
  calls : PumpCalls (p.trace.filter (· ≠ .counted)) start p.session

section

variable {env : Env} {job : PumpJob} {start : Session} {p q : Pump}
  {account next : Account} {calls : List PumpEvent} {s : Session}

theorem Pump.observe_trace (h : PumpCalls calls p.session s) :
    (p.observe s).trace = p.trace ++ calls := by
  obtain ⟨new, hlog, hnew⟩ := h
  unfold Pump.observe
  dsimp only
  rw [hlog, List.drop_left, hnew]

theorem Pump.start_inv (s : Session) (hmax : 1 ≤ job.maxNotifications) :
    (Pump.start s).Inv job s (.ready 0) where
  books := rfl
  expects := ⟨0, rfl, hmax⟩
  received := rfl
  inFlight := le_rfl
  notification := nofun
  calls := PumpCalls.of_log rfl

/-- The invariant after a step with these events. -/
theorem Pump.Inv.after (h : p.Inv job start account) (events : List PumpEvent)
    (htrace : q.trace = p.trace ++ events)
    (hposts : account.posts job.maxNotifications events = some next)
    (hcalls : PumpCalls (events.filter (· ≠ .counted)) p.session q.session)
    (hexpects : q.phase.Expects job.maxNotifications next)
    (hreceived : next.received = q.session.notificationsReceived)
    (hinFlight : q.inFlight ≤ q.phase.inFlight)
    (hnotification : q.phase.holds = true → q.session.notification ≠ 0) :
    q.Inv job start next where
  books := by
    have hbooks := h.books
    unfold Account.ofTrace at hbooks ⊢
    rw [htrace, Account.posts_append hbooks]
    exact hposts
  expects := hexpects
  received := hreceived
  inFlight := hinFlight
  notification := hnotification
  calls := by
    rw [htrace, List.filter_append]
    exact h.calls.trans hcalls

/-- A step without an event. -/
theorem Pump.Inv.silent (h : p.Inv job start account)
    (htrace : q.trace = p.trace) (hcalls : PumpCalls [] p.session q.session)
    (hreceived : q.session.notificationsReceived =
      p.session.notificationsReceived)
    (hexpects : q.phase.Expects job.maxNotifications account)
    (hinFlight : q.inFlight ≤ q.phase.inFlight)
    (hnotification : q.phase.holds = true → q.session.notification ≠ 0) :
    q.Inv job start account := by
  have hevents : q.trace = p.trace ++ [] := by
    rw [htrace, List.append_nil]
  have hcount := h.received.trans hreceived.symm
  exact h.after [] hevents rfl hcalls hexpects hcount hinFlight hnotification

/-- The loop may stop wherever no completion is owed. -/
theorem Phase.expects_stopped {phase : Phase} {limit : ℕ}
    (h : phase.Expects limit account)
    (hquerying : phase ≠ .querying) (hcompleting : phase ≠ .completing) :
    Phase.stopped.Expects limit account := by
  intro n haccount
  cases phase with
  | querying => exact hquerying rfl
  | completing => exact hcompleting rfl
  | starting | connecting | opening | arming =>
      obtain ⟨m, hready, _⟩ := h
      rw [haccount] at hready
      cases hready
  | looping | waiting | emitting | capping =>
      obtain ⟨m, hother⟩ := h
      rw [haccount] at hother
      cases hother
  | stopped => exact h n haccount

theorem Phase.inFlight_le (phase : Phase) : phase.inFlight ≤ 1 := by
  cases phase <;> decide

/-- A stop that only looks at where the loop stands. -/
theorem Pump.Inv.stop (h : p.Inv job start account)
    (hquerying : p.phase ≠ .querying) (hcompleting : p.phase ≠ .completing) :
    p.stop.Inv job start account := by
  have hexpects := Phase.expects_stopped h.expects hquerying hcompleting
  have hinFlight := h.inFlight.trans (Phase.inFlight_le p.phase)
  exact h.silent rfl (PumpCalls.refl _) rfl hexpects hinFlight nofun

theorem Pump.Inv.warn (h : p.Inv job start account) (message : String) :
    { p with session := p.session.warn message }.Inv job start account := by
  have hcalls : PumpCalls [] p.session (p.session.warn message) :=
    PumpCalls.of_log rfl
  exact h.silent rfl hcalls rfl h.expects h.inFlight h.notification

/-- The loop goes on to a phase that expects what it found. -/
theorem Pump.Inv.enter (h : p.Inv job start account) (phase : Phase)
    (hexpects : phase.Expects job.maxNotifications account)
    (hinFlight : p.phase.inFlight ≤ phase.inFlight)
    (hholds : phase.holds = true → p.phase.holds = true) :
    { p with phase := phase }.Inv job start account := by
  have hflight := h.inFlight.trans hinFlight
  refine h.silent rfl (PumpCalls.refl _) rfl hexpects hflight ?_
  intro hholding
  exact h.notification (hholds hholding)

/-- Calls of another kind that leave the notification alone. -/
theorem Pump.Inv.observe (h : p.Inv job start account)
    (hcalls : PumpCalls [] p.session s)
    (hreceived : s.notificationsReceived = p.session.notificationsReceived)
    (hnotification : s.notification = p.session.notification) :
    (p.observe s).Inv job start account := by
  have htrace : (p.observe s).trace = p.trace := by
    simpa using Pump.observe_trace hcalls
  exact h.silent htrace hcalls hreceived h.expects h.inFlight
    fun hholds => hnotification ▸ h.notification hholds

/-! ### The loop's own steps -/

/-- The two ways on from a connect. -/
theorem Pump.Inv.connected (h : p.Inv job start account)
    (hphase : p.phase = .connecting) {ok : Bool} {opened : Phase}
    (hopened : opened = .opening ∨ opened = .arming)
    (hframe : s = { p.session with journal := s.journal })
    (hcalls : PumpCalls [] p.session s) :
    (if ok = true then { p.observe s with phase := opened }
      else (p.observe s).stop).Inv job start account := by
  have hexpects := h.expects
  rw [hphase] at hexpects
  have hquiet : p.phase.inFlight ≤ 0 := by rw [hphase]; rfl
  have hobserved := h.observe hcalls (by rw [hframe]) (by rw [hframe])
  split
  · obtain rfl | rfl := hopened
    · exact hobserved.enter .opening hexpects hquiet nofun
    · exact hobserved.enter .arming hexpects hquiet nofun
  · exact hobserved.stop (by simp [Pump.observe, hphase])
      (by simp [Pump.observe, hphase])

theorem Pump.Inv.connecting (h : p.Inv job start account)
    (hphase : p.phase = .connecting)
    (hstep : p.advance env job = some q) : q.Inv job start account := by
  simp only [Pump.advance, hphase] at hstep
  cases htransport : job.transport with
  | callback =>
      obtain ⟨hframe, hcalls⟩ := connectQueueToCallback_pump env p.session
      rw [htransport] at hstep
      cases hstep
      exact h.connected hphase (.inl rfl) hframe hcalls
  | iocp =>
      obtain ⟨hframe, hcalls⟩ := createIocpQueue_pump env p.session
      rw [htransport] at hstep
      cases hstep
      exact h.connected hphase (.inr rfl) hframe hcalls

/-- An arm is made below the limit with nothing in flight. -/
theorem Pump.Inv.arming (h : p.Inv job start account)
    (hphase : p.phase = .arming) (hstep : p.advance env job = some q) :
    ∃ account, q.Inv job start account := by
  have hexpects := h.expects
  have hquiet := h.inFlight
  rw [hphase] at hexpects hquiet
  obtain ⟨n, rfl, hbelow⟩ := hexpects
  obtain ⟨hframe, calls, hcalls, hok, hfailed⟩ :=
    armNotification_pump env p.session
  have hreceived : (armNotification env p.session).2.notificationsReceived =
      n := by
    rw [hframe]
    exact h.received.symm
  have htrace := Pump.observe_trace hcalls
  simp only [Pump.advance, hphase] at hstep
  split at hstep
  · rename_i harmed
    cases hstep
    obtain ⟨hnotification, rfl⟩ := hok harmed
    refine ⟨.armed n, h.after [.armed true] htrace ?_ hcalls ⟨n, rfl⟩
      hreceived.symm ?_ fun _ => hnotification⟩
    · simp [Account.posts, Account.post, hbelow]
    · simp only [Pump.inFlight, Phase.inFlight, Pump.observe] at hquiet ⊢
      rw [List.length_append, List.length_singleton]
      omega
  · rename_i harmed
    cases hstep
    obtain rfl | rfl := hfailed (by simpa using harmed)
    · exact ⟨.ready n, h.after [] htrace rfl hcalls nofun hreceived.symm
        (Nat.le_succ_of_le hquiet) nofun⟩
    · refine ⟨.closed n, h.after [.armed false] htrace ?_ hcalls nofun
        hreceived.symm (Nat.le_succ_of_le hquiet) nofun⟩
      simp [Account.posts, Account.post, hbelow]

theorem Pump.Inv.waiting (h : p.Inv job start account)
    (hphase : p.phase = .waiting) (hstep : p.advance env job = some q) :
    q.Inv job start account := by
  have hexpects := h.expects
  have hflight := h.inFlight
  have hnotification := h.notification (by rw [hphase]; rfl)
  rw [hphase] at hexpects hflight
  simp only [Pump.advance, hphase] at hstep
  split at hstep
  · rename_i hevent
    cases hstep
    refine h.silent rfl (PumpCalls.refl _) rfl hexpects ?_
      fun _ => hnotification
    simp only [Pump.inFlight, Phase.inFlight, hevent, Bool.toNat_true,
      Bool.toNat_false] at hflight ⊢
    omega
  · rename_i packet packets _ hpackets
    cases hstep
    rw [if_neg hnotification]
    refine h.silent rfl (PumpCalls.refl _) rfl hexpects ?_
      fun _ => hnotification
    simp only [Pump.inFlight, Phase.inFlight, hpackets,
      List.length_cons] at hflight ⊢
    omega
  · cases hstep

theorem Pump.Inv.emitting (h : p.Inv job start account)
    (hphase : p.phase = .emitting) (hstep : p.advance env job = some q) :
    ∃ account, q.Inv job start account := by
  have hexpects := h.expects
  have hquiet := h.inFlight
  have hnotification := h.notification (by rw [hphase]; rfl)
  rw [hphase] at hexpects hquiet
  obtain ⟨n, rfl⟩ := hexpects
  have hreceived : n = p.session.notificationsReceived := h.received
  simp only [Pump.advance, hphase] at hstep
  cases hstep
  refine ⟨.owed (n + 1), h.after [.counted] rfl rfl ?_ ⟨n + 1, rfl⟩ ?_ hquiet
    fun _ => hnotification⟩
  · exact PumpCalls.of_log rfl
  · exact congrArg (· + 1) hreceived

theorem Pump.Inv.querying (h : p.Inv job start account)
    (hphase : p.phase = .querying) (hstep : p.advance env job = some q) :
    q.Inv job start account := by
  have hexpects := h.expects
  have hquiet : p.phase.inFlight ≤ 0 := by rw [hphase]; rfl
  have hholds : p.phase.holds = true := by rw [hphase]; rfl
  rw [hphase] at hexpects
  let queried := if p.session.notifyQueries.isEmpty then p.session
    else (queryFromNotification env job.host p.session).2
  have hqueries : Queries p.session queried := by
    by_cases hempty : p.session.notifyQueries.isEmpty = true
    · rw [show queried = _ from if_pos hempty]
      exact Queries.refl _
    · rw [show queried = _ from if_neg hempty]
      exact queryFromNotification_queries job.host p.session
  have hframe := hqueries.frame
  have hobserved := h.observe hqueries.calls.pumpCalls (by rw [hframe])
    (by rw [hframe])
  simp only [Pump.advance, hphase] at hstep
  cases hstep
  exact hobserved.enter .completing hexpects hquiet fun _ => hholds

/-- A counted notification is completed by one call. -/
theorem Pump.Inv.completing
    (hresolved : env.available .completeEventNotification = true)
    (h : p.Inv job start account) (hphase : p.phase = .completing)
    (hstep : p.advance env job = some q) :
    ∃ account, q.Inv job start account := by
  have hexpects := h.expects
  have hquiet := h.inFlight
  have hnotification := h.notification (by rw [hphase]; rfl)
  rw [hphase] at hexpects hquiet
  obtain ⟨n, rfl⟩ := hexpects
  obtain ⟨hframe, hcalls⟩ :=
    completeNotification_pump env p.session hresolved hnotification
  have hreceived : n =
      (completeNotification env p.session).2.notificationsReceived := by
    rw [hframe]
    exact h.received
  have htrace := Pump.observe_trace hcalls
  simp only [Pump.advance, hphase] at hstep
  split at hstep
  · rename_i hcompleted
    cases hstep
    rw [hcompleted] at hcalls htrace
    exact ⟨.ready n, h.after [.completed true] htrace rfl hcalls ⟨n, rfl⟩
      hreceived hquiet nofun⟩
  · rename_i hcompleted
    cases hstep
    rw [Bool.eq_false_of_not_eq_true hcompleted] at hcalls htrace
    exact ⟨.closed n, h.after [.completed false] htrace rfl hcalls nofun
      hreceived (Nat.le_succ_of_le hquiet) nofun⟩

theorem Pump.Inv.capping (h : p.Inv job start account)
    (hphase : p.phase = .capping) (hstep : p.advance env job = some q) :
    q.Inv job start account := by
  have hexpects := h.expects
  rw [hphase] at hexpects
  obtain ⟨n, rfl⟩ := hexpects
  have hreceived : n = p.session.notificationsReceived := h.received
  simp only [Pump.advance, hphase] at hstep
  split at hstep
  · cases hstep
    exact h.stop (by rw [hphase]; nofun) (by rw [hphase]; nofun)
  · rename_i hbelow
    cases hstep
    exact h.enter .arming ⟨n, rfl, by omega⟩ (by rw [hphase]; rfl) nofun

theorem Pump.Inv.advance
    (hresolved : env.available .completeEventNotification = true)
    (h : p.Inv job start account) (hstep : p.advance env job = some q) :
    ∃ account, q.Inv job start account := by
  have hexpects := h.expects
  cases hphase : p.phase with
  | connecting => exact ⟨account, h.connecting hphase hstep⟩
  | arming => exact h.arming hphase hstep
  | waiting => exact ⟨account, h.waiting hphase hstep⟩
  | emitting => exact h.emitting hphase hstep
  | querying => exact ⟨account, h.querying hphase hstep⟩
  | completing => exact h.completing hresolved hphase hstep
  | capping => exact ⟨account, h.capping hphase hstep⟩
  | starting =>
      rw [hphase] at hexpects
      simp only [Pump.advance, hphase] at hstep
      split at hstep
      · cases hstep
        exact ⟨account, (h.warn _).stop (by simp [hphase]) (by simp [hphase])⟩
      · cases hstep
        exact ⟨account, h.enter .connecting hexpects (by rw [hphase]; rfl)
          nofun⟩
  | opening =>
      rw [hphase] at hexpects
      have hquiet := h.inFlight
      rw [hphase] at hquiet
      simp only [Pump.advance, hphase] at hstep
      cases hstep
      refine ⟨account, h.silent rfl (PumpCalls.refl _) rfl hexpects ?_ nofun⟩
      simp only [Pump.inFlight, Phase.inFlight, Bool.toNat_false] at hquiet ⊢
      omega
  | looping =>
      rw [hphase] at hexpects
      simp only [Pump.advance, hphase] at hstep
      split at hstep
      · cases hstep
        exact ⟨account, h.enter .waiting hexpects (by rw [hphase]; rfl)
          fun _ => by rw [hphase]; rfl⟩
      · cases hstep
        exact ⟨account, h.stop (by rw [hphase]; nofun) (by rw [hphase]; nofun)⟩
  | stopped =>
      simp only [Pump.advance, hphase] at hstep
      cases hstep

/-! ### The steps of the others -/

theorem Pump.Inv.deliver {index : ℕ} (h : p.Inv job start account)
    (hstep : p.deliver job index = some q) : q.Inv job start account := by
  have hflight := h.inFlight
  unfold Pump.deliver at hstep
  split at hstep
  · cases hstep
  · rename_i notification hfound
    have hlength : (p.outstanding.eraseIdx index).length + 1 =
        p.outstanding.length := by
      obtain ⟨hindex, _⟩ := List.getElem?_eq_some_iff.mp hfound
      rw [List.length_eraseIdx_of_lt hindex]
      omega
    dsimp only at hstep
    split at hstep
    · cases hstep
      have hlog : (handleQueueNotification notification p.session).log =
          p.session.log := by
        unfold handleQueueNotification
        split <;> rfl
      have hreceived : (handleQueueNotification notification
          p.session).notificationsReceived =
            p.session.notificationsReceived := by
        unfold handleQueueNotification
        split <;> rfl
      refine h.silent rfl (PumpCalls.of_log hlog) hreceived h.expects ?_ ?_
      · simp only [Pump.inFlight] at hflight ⊢
        split <;> omega
      · intro hholds
        have hnotification := h.notification hholds
        unfold handleQueueNotification
        split
        · exact hnotification
        · assumption
    · cases hstep
      refine h.silent rfl (PumpCalls.refl _) rfl h.expects ?_ h.notification
      simp only [Pump.inFlight, List.length_append,
        List.length_singleton] at hflight ⊢
      omega

theorem Pump.Inv.signal (h : p.Inv job start account)
    (hstep : p.step env job .signal = some q) : q.Inv job start account := by
  have hflight := h.inFlight
  simp only [Pump.step] at hstep
  split at hstep
  · cases hstep
  · rename_i signalling hsignalling
    cases hstep
    refine h.silent rfl (PumpCalls.refl _) rfl h.expects ?_ h.notification
    have hset : (p.event || p.pumpEvent).toNat ≤ p.event.toNat + 1 := by
      cases p.event <;> cases p.pumpEvent <;> decide
    simp only [Pump.inFlight, hsignalling] at hflight ⊢
    omega

theorem Pump.Inv.step
    (hresolved : env.available .completeEventNotification = true)
    (h : p.Inv job start account) (action : PumpAction)
    (hstep : p.step env job action = some q) :
    ∃ account, q.Inv job start account := by
  cases action with
  | advance => exact h.advance hresolved hstep
  | deliver index => exact ⟨account, h.deliver hstep⟩
  | signal => exact ⟨account, h.signal hstep⟩
  | eventFails =>
      simp only [Pump.step] at hstep
      split at hstep
      · rename_i hphase
        cases hstep
        exact ⟨account, (h.warn _).stop (by simp [hphase]) (by simp [hphase])⟩
      · cases hstep
  | timeout =>
      simp only [Pump.step] at hstep
      split at hstep
      · rename_i hphase
        cases hstep
        exact ⟨account, h.stop (by rw [hphase]; nofun) (by rw [hphase]; nofun)⟩
      · cases hstep
  | packetFails =>
      simp only [Pump.step] at hstep
      split at hstep
      · rename_i hfailed
        cases hstep
        have hphase := hfailed.1
        have hflight := h.inFlight
        have htaken : { p with packets := p.packets.tail }.Inv job start
            account := by
          refine h.silent rfl (PumpCalls.refl _) rfl h.expects ?_
            h.notification
          simp only [Pump.inFlight, List.length_tail] at hflight ⊢
          omega
        exact ⟨account, htaken.stop (by simp [hphase]) (by simp [hphase])⟩
      · cases hstep

theorem Pump.Inv.run
    (hresolved : env.available .completeEventNotification = true)
    (actions : List PumpAction) (h : p.Inv job start account)
    (hrun : p.run env job actions = some q) :
    ∃ account, q.Inv job start account := by
  induction actions generalizing p account with
  | nil =>
      cases hrun
      exact ⟨account, h⟩
  | cons action actions ih =>
      unfold Pump.run at hrun
      rw [List.foldlM_cons] at hrun
      cases hstep : p.step env job action with
      | none =>
          rw [hstep] at hrun
          cases hrun
      | some moved =>
          rw [hstep] at hrun
          obtain ⟨settled, hmoved⟩ := h.step hresolved action hstep
          exact ih hmoved hrun

end

/-! ## The accounts of a run -/

/-- The accounts of a pump that was started with this session. -/
structure Pump.KeepsAccounts (job : PumpJob) (start : Session) (p : Pump) :
    Prop where
  /-- At most one arm is outstanding, its delivery included until the loop
  takes it. -/
  one_armed : p.inFlight ≤ 1
  received_le : p.session.notificationsReceived ≤ job.maxNotifications
  counted : p.trace.count .counted = p.session.notificationsReceived
  /-- The trace has the arms and the completions of the session, in order. -/
  calls : PumpCalls (p.trace.filter (· ≠ .counted)) start p.session
  /-- From a counted notification to the next arm. -/
  completed_before_arm : ∀ (before middle after : List PumpEvent) (ok : Bool),
    p.trace = before ++ .counted :: (middle ++ .armed ok :: after) →
      (∀ ok, .armed ok ∉ middle) → middle = [.completed true]
  /-- From a counted notification to the end, when no arm follows. -/
  completed_at_end : p.phase = .stopped →
    ∀ before middle : List PumpEvent, p.trace = before ++ .counted :: middle →
      (∀ ok, .armed ok ∉ middle) → ∃ ok, middle = [.completed ok]
  armed_below_max : ∀ (before after : List PumpEvent) (ok : Bool),
    p.trace = before ++ .armed ok :: after →
      before.count .counted < job.maxNotifications
  armed_after_success : ∀ (before after : List PumpEvent) (ok : Bool),
    p.trace = before ++ .armed ok :: after → .completed false ∉ before

theorem Pump.Inv.keepsAccounts {job : PumpJob} {start : Session} {p : Pump}
    {account : Account} (h : p.Inv job start account) :
    p.KeepsAccounts job start := by
  have hbooks := h.books
  have hsound := Account.ofTrace_sound hbooks
  have hreceived := h.received
  refine ⟨?_, ?_, ?_, h.calls, ?_, ?_, ?_, ?_⟩
  · exact h.inFlight.trans (Phase.inFlight_le _)
  · rw [← hreceived]
    exact hsound.received_le
  · rw [← hreceived]
    exact hsound.counted
  · intro before middle after ok htrace harms
    rw [htrace] at hbooks
    exact Account.completed_before_arm hbooks harms
  · intro hphase before middle htrace harms
    have hexpects := h.expects
    rw [hphase] at hexpects
    rw [htrace] at hbooks
    exact Account.completed_at_end hbooks harms hexpects
  · intro before after ok htrace
    rw [htrace] at hbooks
    exact (Account.sound_of_armed hbooks).1
  · intro before after ok htrace
    rw [htrace] at hbooks
    exact (Account.sound_of_armed hbooks).2

/-- In every order of the loop, the deliveries and the failures, both pumps
keep their accounts. -/
theorem Pump.run_keepsAccounts (env : Env) (job : PumpJob) (s : Session)
    (actions : List PumpAction) (p : Pump)
    (hresolved : env.available .completeEventNotification = true)
    (hmax : 1 ≤ job.maxNotifications)
    (hrun : (Pump.start s).run env job actions = some p) :
    p.KeepsAccounts job s := by
  obtain ⟨account, hinv⟩ :=
    (Pump.start_inv s hmax).run hresolved actions hrun
  exact hinv.keepsAccounts

def lateJob : PumpJob where
  transport := .callback
  maxNotifications := 2
  host :=
    { decodeNotificationKeys := fun _ => none
      toUtf16 := fun _ => []
      fallbackPath := []
      fallbackPid := 0 }

def lateSession : Session := { clientHandle := 7, queueHandle := 8 }

/-- The second notification is delivered after the deadline. -/
def lateActions : List PumpAction :=
  [.advance, .advance, .advance, .advance, .advance, .deliver 0, .signal,
    .advance, .advance, .advance, .advance, .advance, .advance, .advance,
    .timeout, .deliver 0, .signal]

theorem Pump.run_keepsAccounts_late :
    ∃ p, (Pump.start lateSession).run acceptingEnv lateJob lateActions =
        some p ∧
      p.trace = [.armed true, .counted, .completed true, .armed true] ∧
      p.KeepsAccounts lateJob lateSession := by
  have htrace : ((Pump.start lateSession).run acceptingEnv lateJob
      lateActions).map Pump.trace =
        some [.armed true, .counted, .completed true, .armed true] := by
    decide
  obtain ⟨p, hrun, hevents⟩ := Option.map_eq_some_iff.mp htrace
  exact ⟨p, hrun, hevents, Pump.run_keepsAccounts acceptingEnv lateJob
    lateSession lateActions p rfl (by decide) hrun⟩

end Esptool.Esp
