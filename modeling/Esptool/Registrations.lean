import Esptool.Lib.Lifecycle
import Esptool.SessionCalls

/-!
# What a session registers and what it unregisters

`registered_this_session_` says that the session owns a registration, and
`client_id_` is all it remembers of which one.  `Connect` and
`ConnectExisting` write the two at different points, so the link between
them is an invariant of the runs in which the session is not made to forget
the client that it owns.
-/

namespace Esptool.Esp

open Model Interaction

/-- A successful registration, up to the next call that gives it up. -/
def registrations : Lifecycle Event Guid where
  opens := registeredId
  submits _ := none
  grants _ := false
  closes := unregisteredId
  parent _ := none

def releasedId (e : Event) : Option Guid :=
  if succeeded e.reply.result then unregisteredId e else none

/-- The same for the driver, which forgets a client only when the call
succeeds. -/
def driverRegistrations : Lifecycle Event Guid :=
  { registrations with closes := releasedId }

section

variable {s t : Session} {ids : List Guid}

theorem ClientCalls.live_registered (h : ClientCalls ids [] s t)
    (id : Guid) :
    registrations.live t.log id = true ↔
      registrations.live s.log id = true ∨ id ∈ ids := by
  obtain ⟨new, hlog, hregistered, hunregistered⟩ := h
  rw [hlog, ← hregistered]
  exact Lifecycle.live_append_of_opens hunregistered s.log id

theorem ClientCalls.live_unregistered (h : ClientCalls [] ids s t)
    (id : Guid) :
    registrations.live t.log id = true ↔
      registrations.live s.log id = true ∧ id ∉ ids := by
  obtain ⟨new, hlog, hregistered, hunregistered⟩ := h
  rw [hlog, ← hunregistered]
  exact Lifecycle.live_append_of_closes hregistered s.log id

theorem ClientCalls.closesLive_registered (h : ClientCalls ids [] s t)
    (hclosed : registrations.ClosesLive s.log) :
    registrations.ClosesLive t.log := by
  obtain ⟨new, hlog, -, hunregistered⟩ := h
  rw [hlog]
  exact hclosed.append_opens hunregistered

theorem ClientCalls.closesLive_unregistered (h : ClientCalls [] ids s t)
    (hclosed : registrations.ClosesLive s.log) (hnodup : ids.Nodup)
    (hlive : ∀ id ∈ ids, registrations.live s.log id = true) :
    registrations.ClosesLive t.log := by
  obtain ⟨new, hlog, hregistered, hunregistered⟩ := h
  rw [← hunregistered] at hnodup hlive
  rw [hlog]
  exact hclosed.append_closes hregistered hnodup hlive

end

/-! ## One step -/

/-- The session owns the registration it claims to own, and, when it can
unregister, no other. -/
structure Registered (env : Env) (s : Session) : Prop where
  closes : registrations.ClosesLive s.log
  owned : s.registeredThisSession = true →
    registrations.live s.log s.clientId = true
  only : env.available .unregisterClient = true →
    ∀ id, registrations.live s.log id = true →
      s.registeredThisSession = true ∧ id = s.clientId

section

variable {env : Env} {s t : Session}

theorem Registered.same (h : Registered env s) (hcalls : ClientCalls [] [] s t)
    (hregistered : t.registeredThisSession = s.registeredThisSession)
    (hid : s.registeredThisSession = true → t.clientId = s.clientId) :
    Registered env t := by
  have hlive (id : Guid) : registrations.live t.log id = true ↔
      registrations.live s.log id = true := by
    rw [hcalls.live_registered]
    simp
  refine ⟨hcalls.closesLive_registered h.closes, ?_, ?_⟩
  · intro howned
    rw [hregistered] at howned
    rw [hlive, hid howned]
    exact h.owned howned
  · intro havailable id hid'
    rw [hlive] at hid'
    obtain ⟨howned, heq⟩ := h.only havailable id hid'
    rw [hregistered, hid howned]
    exact ⟨howned, heq⟩

/-- A registration, which must not put another one out of sight. -/
theorem Registered.register (h : Registered env s)
    (hcalls : ClientCalls [t.clientId] [] s t)
    (hregistered : t.registeredThisSession = true)
    (hid : s.registeredThisSession = true → t.clientId = s.clientId) :
    Registered env t := by
  refine ⟨hcalls.closesLive_registered h.closes, ?_, ?_⟩
  · intro _
    rw [hcalls.live_registered]
    exact .inr (List.mem_singleton.mpr rfl)
  · intro havailable id hlive
    rw [hcalls.live_registered, List.mem_singleton] at hlive
    refine ⟨hregistered, ?_⟩
    rcases hlive with hlive | hlive
    · obtain ⟨howned, heq⟩ := h.only havailable id hlive
      rw [hid howned]
      exact heq
    · exact hlive

/-- `UnregisterIfOwned`, and with it `Disconnect`. -/
theorem Registered.release (h : Registered env s)
    (hcalls : ClientCalls [] (ownedIds env s) s t)
    (hregistered : t.registeredThisSession =
      (s.registeredThisSession && !s.unregisterOnDisconnect))
    (hid : t.clientId = s.clientId) : Registered env t := by
  have hnodup : (ownedIds env s).Nodup := by
    unfold ownedIds
    split
    · exact List.nodup_singleton _
    · exact List.nodup_nil
  have hlive : ∀ id ∈ ownedIds env s,
      registrations.live s.log id = true := by
    intro id hmem
    unfold ownedIds at hmem
    split at hmem
    · rename_i howned
      rw [List.mem_singleton] at hmem
      rw [hmem]
      exact h.owned howned.1
    · cases hmem
  refine ⟨hcalls.closesLive_unregistered h.closes hnodup hlive, ?_, ?_⟩
  · intro howned
    rw [hregistered, Bool.and_eq_true, Bool.not_eq_true'] at howned
    rw [hcalls.live_unregistered, hid, ownedIds,
      if_neg (by simp [howned.2])]
    exact ⟨h.owned howned.1, List.not_mem_nil⟩
  · intro havailable id hlive'
    rw [hcalls.live_unregistered] at hlive'
    obtain ⟨howned, heq⟩ := h.only havailable id hlive'.1
    have hflag : s.unregisterOnDisconnect = false := by
      by_contra hset
      have hmem : id ∈ ownedIds env s := by
        rw [ownedIds, if_pos ⟨howned, by simpa using hset, havailable⟩, heq]
        exact List.mem_singleton.mpr rfl
      exact hlive'.2 hmem
    rw [hregistered, hid, howned, hflag]
    exact ⟨rfl, heq⟩

end

/-! ## Runs -/

inductive ClientOp
  | connect (client : ClientSpec)
  | connectExisting (id : Guid)
  | setUnregisterOnDisconnect (value : Bool)
  | disconnect

def ClientOp.apply (env : Env) (s : Session) : ClientOp → Session
  | .connect client => (Esp.connect env client s).2
  | .connectExisting id => (Esp.connectExisting env id s).2
  | .setUnregisterOnDisconnect value => s.setUnregisterOnDisconnect value
  | .disconnect => Esp.disconnect env s

def runClient (env : Env) (ops : List ClientOp) (s : Session) : Session :=
  ops.foldl (ClientOp.apply env) s

/-- The step does not make the session forget a client that it owns. -/
def ClientOp.Orderly (env : Env) (s : Session) : ClientOp → Prop
  | .connect client =>
      s.registeredThisSession = true →
        env.available .connectClient = true ∧
          env.available .registerClient = true →
        client.guid ≠ Guid.null ∧ client.guid = s.clientId
  | .connectExisting id =>
      env.available .connectClient = true ∧ id ≠ Guid.null →
        s.registeredThisSession = false
  | .setUnregisterOnDisconnect _ => True
  | .disconnect => True

def OrderlyRun (env : Env) : Session → List ClientOp → Prop
  | _, [] => True
  | s, op :: ops => op.Orderly env s ∧ OrderlyRun env (op.apply env s) ops

section

variable {env : Env} {s : Session}

theorem Registered.unregisterIfOwned (h : Registered env s) :
    Registered env (unregisterIfOwned env s) := by
  obtain ⟨hframe, -⟩ := unregisterIfOwned_frame env s
  refine h.release (unregisterIfOwned_client env s) ?_ ?_
  · rw [hframe]
  · rw [hframe]

theorem Registered.disconnect (h : Registered env s) :
    Registered env (disconnect env s) := by
  obtain ⟨-, hregistered, -, hid⟩ := disconnect_calls env s
  exact h.release (disconnect_client env s) hregistered hid

theorem Registered.connect {client : ClientSpec} (h : Registered env s)
    (horderly : (ClientOp.connect client).Orderly env s) :
    Registered env (connect env client s).2 := by
  have hkept {t : Session}
      (hresolved : env.available .connectClient = true ∧
        env.available .registerClient = true)
      (hid : client.guid ≠ Guid.null → t.clientId = client.guid) :
      s.registeredThisSession = true → t.clientId = s.clientId := by
    intro howned
    obtain ⟨hnull, hsame⟩ := horderly howned hresolved
    rw [hid hnull, hsame]
  have hconnects := connect_connects env client s
  generalize Esp.connect env client s = connected at hconnects ⊢
  cases hconnects with
  | unresolved hcalls hregistered _ hid =>
      exact h.same hcalls hregistered fun _ => hid
  | refused hcalls hregistered _ hresolved hid =>
      exact h.same hcalls hregistered (hkept hresolved hid)
  | connected hcalls hregistered _ hresolved hid =>
      exact h.register hcalls hregistered (hkept hresolved hid)
  | unconnected hcalls hregistered _ hresolved hid =>
      exact (h.register hcalls hregistered
        (hkept hresolved hid)).unregisterIfOwned

theorem Registered.connectExisting {id : Guid} (h : Registered env s)
    (horderly : (ClientOp.connectExisting id).Orderly env s) :
    Registered env (connectExisting env id s).2 := by
  obtain ⟨hcalls, -, hfields⟩ := connectExisting_client env id s
  split at hfields
  · rename_i hready
    refine h.same hcalls ?_ ?_
    · rw [hfields.1, horderly hready]
    · intro howned
      rw [horderly hready] at howned
      cases howned
  · exact h.same hcalls hfields.1 fun _ => hfields.2

theorem Registered.apply {op : ClientOp} (h : Registered env s)
    (horderly : op.Orderly env s) : Registered env (op.apply env s) := by
  cases op with
  | connect client => exact h.connect horderly
  | connectExisting id => exact h.connectExisting horderly
  | setUnregisterOnDisconnect value => exact ⟨h.closes, h.owned, h.only⟩
  | disconnect => exact h.disconnect

theorem Registered.runClient {ops : List ClientOp} (h : Registered env s)
    (hrun : OrderlyRun env s ops) : Registered env (runClient env ops s) := by
  induction ops generalizing s with
  | nil => exact h
  | cons op ops ih => exact ih (h.apply hrun.1) hrun.2

end

theorem registered_fresh (env : Env) : Registered env Session.fresh :=
  ⟨Lifecycle.closesLive_nil, nofun, nofun⟩

/-- The driver's view, where every call that unregisters a client succeeds. -/
theorem driverRegistrations_live {log : List Event}
    (h : ∀ e ∈ log, ∀ id, e.call = .unregisterClient id →
      succeeded e.reply.result = true) (id : Guid) :
    driverRegistrations.live log id = registrations.live log id := by
  induction log using List.reverseRecOn with
  | nil => rfl
  | append_singleton log e ih =>
      have hsame : releasedId e = unregisteredId e := by
        unfold releasedId unregisteredId
        split
        · rfl
        · rename_i hfailed
          split
          · rename_i other hcall
            exact absurd (h e (by simp) other hcall) hfailed
          · rfl
      have hbefore := ih fun e' he' => h e' (by simp [he'])
      rw [Lifecycle.live_concat, Lifecycle.live_concat, hbefore,
        Lifecycle.liveStep, Lifecycle.liveStep]
      rw [show driverRegistrations.closes e = registrations.closes e from
        hsame]
      rfl

/-- In every run whose steps do not make the session forget a client that it
owns, every unregistration is of a client that the session registered and
did not unregister since; and where unregistering is possible and succeeds,
a disconnect with the flag set leaves no client of the session behind. -/
theorem runClient_registrations {env : Env} {ops : List ClientOp}
    (hrun : OrderlyRun env Session.fresh ops) :
    let s := runClient env ops Session.fresh
    registrations.ClosesLive s.log ∧
      (env.available .unregisterClient = true →
        s.unregisterOnDisconnect = true →
        (∀ e ∈ (disconnect env s).log, ∀ id,
          e.call = .unregisterClient id →
            succeeded e.reply.result = true) →
        ∀ id, driverRegistrations.live (disconnect env s).log id = false) := by
  intro s
  have hregistered := (registered_fresh env).runClient hrun
  refine ⟨hregistered.closes, ?_⟩
  intro havailable hflag hsucceeds id
  rw [driverRegistrations_live hsucceeds]
  by_contra hlive
  obtain ⟨howned, -⟩ := hregistered.disconnect.only havailable id
    (by simpa using hlive)
  rw [(disconnect_calls env s).2.1, hflag] at howned
  simp at howned

def sampleId (n : UInt8) : Guid := Vector.replicate 16 n

def sampleClient (n : UInt8) : ClientSpec :=
  { guid := sampleId n, hasGuid := true }

/-- Two clients, one after the other, and a second connect of the one that is
registered. -/
theorem runClient_registrations_once :
    let s := runClient acceptingEnv
      [.connect (sampleClient 1), .disconnect, .connect (sampleClient 2),
        .connect (sampleClient 2)] Session.fresh
    s.log.filterMap registeredId = [sampleId 1, sampleId 2, sampleId 2] ∧
      s.log.filterMap unregisteredId = [sampleId 1] ∧
      registrations.ClosesLive s.log ∧
      ∀ id, driverRegistrations.live (disconnect acceptingEnv s).log id =
        false := by
  intro s
  have hagain : ∀ t : Session, t.clientId = sampleId 2 →
      (ClientOp.connect (sampleClient 2)).Orderly acceptingEnv t := by
    intro t hid _ _
    refine ⟨?_, hid.symm⟩
    decide
  have hrun : OrderlyRun acceptingEnv Session.fresh
      [.connect (sampleClient 1), .disconnect, .connect (sampleClient 2),
        .connect (sampleClient 2)] :=
    ⟨nofun, trivial, nofun, hagain _ rfl, trivial⟩
  obtain ⟨hcloses, hreleased⟩ := runClient_registrations hrun
  refine ⟨by decide +kernel, by decide +kernel, hcloses,
    hreleased rfl rfl ?_⟩
  have hsucceeds : ∀ e ∈ (disconnect acceptingEnv s).log,
      succeeded e.reply.result = true := by
    decide +kernel
  exact fun e he _ _ => hsucceeds e he

/-- The driver knows the client already, under every altitude. -/
def occupiedEnv (taken : Guid) : Env :=
  { acceptingEnv with
    respond := fun log call =>
      match call with
      | .registerClient id _ _ =>
          if id = taken then { result := kAlreadyExists }
          else { result := kOk }
      | call => acceptingEnv.respond log call }

/-- A refused registration of a second client leaves the flag of the first
one standing over the second identity: the disconnect unregisters the client
of somebody else, and the session's own one stays. -/
theorem runClient_unregisters_other :
    let s := runClient (occupiedEnv (sampleId 2))
      [.connect (sampleClient 1), .connect (sampleClient 2), .disconnect]
      Session.fresh
    s.unregisterOnDisconnect = true ∧
      s.log.filterMap registeredId = [sampleId 1] ∧
      s.log.filterMap unregisteredId = [sampleId 2] ∧
      ¬ registrations.ClosesLive s.log ∧
      driverRegistrations.live s.log (sampleId 1) = true := by
  decide +kernel

end Esptool.Esp
