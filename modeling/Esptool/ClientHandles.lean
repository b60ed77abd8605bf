import Esptool.HandleCustody
import Esptool.Registrations

/-!
# The client and the queue of a session

`Connect`, `ConnectExisting`, `CreateQueue` and `OpenQueue` end in `Adopt`,
which replaces what its slot held by the outcome of the call.  A handle that
stood in the slot is lost then.  The books of a run therefore have two
columns: the handles that the session still owns, and the handles that a
step replaced.
-/

namespace Esptool.Esp

open Model Interaction Custody

inductive HandleOp
  | connect (client : ClientSpec)
  | connectExisting (id : Guid)
  | createQueue
  | openQueue (id : Guid)
  | closeQueue
  | disconnect

/-- An operation with its answer; the two that return nothing answer true. -/
def HandleOp.apply (env : Env) (s : Session) : HandleOp → Bool × Session
  | .connect client => Esp.connect env client s
  | .connectExisting id => Esp.connectExisting env id s
  | .createQueue => Esp.createQueue env s
  | .openQueue id => Esp.openQueue env id s
  | .closeQueue => (true, Esp.closeQueue env s)
  | .disconnect => (true, Esp.disconnect env s)

def runHandles (env : Env) (ops : List HandleOp) (s : Session) : Session :=
  ops.foldl (fun s op => (op.apply env s).2) s

/-- Does `Connect` come as far as `EspConnectClient`: both exports are
resolved, there is an identity, and the registration is accepted. -/
def connectRegisters (env : Env) (client : ClientSpec) (s : Session) :
    Bool :=
  env.available .connectClient && env.available .registerClient &&
    let chosen := chooseClientId env client s
    let name := if client.name = "" then kDefaultClientName else client.name
    chosen.1 && (registerAltitudes env chosen.2.clientId name
      (altitudeBase client) kAltitudeCollisionTries kFail
      chosen.2.journal).1 == kOk

/-- Does the operation call an export that hands out a handle of the kind:
the conditions that come before `Adopt`. -/
def HandleOp.adopts (env : Env) (s : Session) : HandleOp → Owned → Bool
  | .connect client, .client => connectRegisters env client s
  | .connectExisting id, .client =>
      env.available .connectClient && id != Guid.null
  | .createQueue, .queue =>
      env.available .createEventQueue && s.clientHandle != 0
  | .openQueue _, .queue =>
      env.available .openEventQueue && s.clientHandle != 0
  | _, _ => false

/-! ## One step -/

/-- A call that neither hands out nor takes back a handle of the kind. -/
def Owned.Ignores (kind : Owned) (call : Call) : Prop :=
  kind.opens call = false ∧ kind.closedBy call = none

/-- What a step does to the slot of a kind: nothing, or one call that hands
out a handle and whose outcome replaces what the slot held, or giving the
handle back. -/
inductive SlotStep (kind : Owned) (s : Session) :
    Bool → Bool × Session → Prop
  | spared {ok : Bool} {t : Session} (hcalls : Calls kind.Ignores s t)
      (hkept : kind.kept t = kind.kept s) : SlotStep kind s false (ok, t)
  | adopted {ok : Bool} {r u t : Session} {e : Event}
      (hbefore : Calls kind.Ignores s r) (hlog : u.log = r.log ++ [e])
      (hafter : Calls kind.Ignores u t) (hopens : kind.opens e.call = true)
      (hok : ok = (kind.returned e).isSome)
      (hkept : kind.kept t = [(kind.returned e).getD 0]) :
      SlotStep kind s true (ok, t)
  | released {t : Session}
      (hcloses : ∀ base lost,
        kind.custody.Holds base s.log (kind.held s + lost) →
        kind.custody.Holds base t.log lost)
      (hkept : kind.kept t = [0]) : SlotStep kind s false (true, t)

section

variable {kind : Owned} {s t : Session} {adopts ok : Bool}

theorem Owned.closedBy_of_opens {call : Call}
    (h : kind.opens call = true) : kind.closedBy call = none := by
  cases kind <;> cases call <;> first | rfl | cases h

theorem Owned.held_of_kept (h : kind.kept t = kind.kept s) :
    kind.held t = kind.held s := by
  rw [Owned.held, h]
  rfl

theorem Calls.holds {base : List Event} {held : Multiset Handle}
    (h : Calls kind.Ignores s t) (hholds : kind.custody.Holds base s.log held) :
    kind.custody.Holds base t.log held := by
  obtain ⟨new, hlog, hnew⟩ := h
  rw [hlog]
  exact Owned.append_ignored hholds (fun e he => (hnew e he).1)
    fun e he => (hnew e he).2

theorem Owned.held_getD {e : Event}
    (h : kind.kept t = [(kind.returned e).getD 0]) :
    kind.held t = (kind.returned e).elim 0 fun handle => {handle} := by
  rw [Owned.held, h]
  cases hreturned : kind.returned e with
  | none => rfl
  | some handle =>
      simp [Owned.returned_ne_zero hreturned]

/-- The handles that the step replaced are those that its slot held. -/
theorem SlotStep.holds {base : List Event} {lost : Multiset Handle}
    (h : SlotStep kind s adopts (ok, t))
    (hholds : kind.custody.Holds base s.log (kind.held s + lost)) :
    kind.custody.Holds base t.log
      (kind.held t + ((if adopts then kind.held s else 0) + lost)) := by
  cases h with
  | spared hcalls hkept =>
      rw [Owned.held_of_kept hkept, if_neg Bool.false_ne_true, zero_add]
      exact hcalls.holds hholds
  | adopted hbefore hlog hafter hopens hok hkept =>
      rename_i r u e
      rw [if_pos rfl]
      refine hafter.holds ?_
      have hbase := hbefore.holds hholds
      rw [hlog, Owned.held_getD hkept]
      cases hreturned : kind.returned e with
      | none =>
          rw [Option.elim_none, zero_add]
          exact hbase.concat_ignore hreturned
            (Owned.closedBy_of_opens hopens)
      | some handle =>
          rw [Option.elim_some]
          exact hbase.concat_open hreturned (Owned.closedBy_of_opens hopens)
  | released hcloses hkept =>
      have hheld : kind.held t = 0 := by
        rw [Owned.held, hkept]
        rfl
      rw [hheld, if_neg Bool.false_ne_true, zero_add, zero_add]
      exact hcloses base lost hholds

/-- A step that answers false keeps what its slot held, if nothing stood
where it adopted. -/
theorem SlotStep.keeps (h : SlotStep kind s adopts (false, t))
    (hempty : adopts = true → kind.held s = 0) :
    ∀ handle ∈ kind.held s, handle ∈ kind.held t := by
  intro handle hmem
  cases h with
  | spared hcalls hkept => rwa [Owned.held_of_kept hkept]
  | adopted =>
      rw [hempty rfl] at hmem
      cases hmem

end

/-! ## The operations -/

/-- Calls about the identity of a client. -/
def Call.identifies : Call → Bool
  | .coCreateGuid => true
  | .registerClient .. => true
  | .unregisterClient _ => true
  | _ => false

section

variable (env : Env) (s : Session) {kind : Owned}

theorem Owned.ignores_of_identifies {call : Call}
    (h : call.identifies = true) : kind.Ignores call := by
  cases call <;> first
    | cases kind <;> exact ⟨rfl, rfl⟩
    | cases h

theorem Owned.ignores_of_opens {call : Call} {other : Owned}
    (h : other.opens call = true) (hne : kind ≠ other) :
    kind.Ignores call := by
  cases other <;> cases call <;> first
    | cases kind <;> first | exact ⟨rfl, rfl⟩ | exact absurd rfl hne
    | cases h

/-- A lookup and a guard, and then `Adopt` into the queue slot. -/
theorem queue_slotStep (wanted : Export) (step : String) (call : Call)
    (hopens : Owned.queue.opens call = true) {t : Bool × Session}
    (ht : t = if !(s.run (require env wanted)).1 || s.clientHandle == 0 then
        (false, (s.run (require env wanted)).2)
      else
        let adopted := (s.run (require env wanted)).2.run
          (adopt env step call)
        (adopted.1.isSome,
          { adopted.2 with queueHandle := adopted.1.getD 0 })) :
    SlotStep .queue s (env.available wanted && s.clientHandle != 0) t ∧
      SlotStep .client s false t := by
  have hlookup (kind : Owned) :
      Calls kind.Ignores s (s.run (require env wanted)).2 :=
    require_calls env wanted s
  by_cases hready : (env.available wanted && s.clientHandle != 0) = true
  · have hgo : ¬(!(s.run (require env wanted)).1 ||
        s.clientHandle == 0) = true := by
      rw [require_run_fst]
      simpa using hready
    obtain ⟨e, hcall, hlog, hvalue⟩ := adopt_event env step call
      (s.run (require env wanted)).2
    have hreturned : ((s.run (require env wanted)).2.run
        (adopt env step call)).1 = Owned.queue.returned e := by
      rw [hvalue, Owned.returned, hcall, hopens]
      simp only [true_and]
    rw [if_neg hgo] at ht
    rw [hready, ht]
    refine ⟨.adopted (hlookup .queue) hlog (Calls.of_log rfl) ?_ ?_ ?_,
      .spared ((hlookup .client).trans ?_) rfl⟩
    · rw [hcall, hopens]
    · rw [hreturned]
    · exact congrArg (fun adopted => [adopted.getD 0]) hreturned
    · refine ⟨[e], hlog, fun e' he' => ?_⟩
      rw [List.mem_singleton.mp he', hcall]
      exact Owned.ignores_of_opens hopens (by decide)
  · have hstop : (!(s.run (require env wanted)).1 ||
        s.clientHandle == 0) = true := by
      rw [require_run_fst]
      simpa [or_iff_not_imp_left] using hready
    rw [if_pos hstop] at ht
    rw [Bool.eq_false_iff.mpr hready, ht]
    exact ⟨.spared (hlookup .queue) rfl, .spared (hlookup .client) rfl⟩

theorem adoptClient_slotStep :
    ∃ e : Event, Owned.client.opens e.call = true ∧
      (adoptClient env s).2.log = s.log ++ [e] ∧
      (adoptClient env s).1 = (Owned.client.returned e).isSome ∧
      Owned.client.kept (adoptClient env s).2 =
        [(Owned.client.returned e).getD 0] := by
  obtain ⟨e, hcall, hlog, hvalue⟩ := adopt_event env "EspConnectClient"
    (.connectClient s.clientId) s
  have hreturned : (s.run (adopt env "EspConnectClient"
      (.connectClient s.clientId))).1 = Owned.client.returned e := by
    rw [hvalue, Owned.returned, hcall, Owned.opens]
    simp only [true_and]
  refine ⟨e, by rw [hcall]; rfl, hlog, ?_, ?_⟩
  · exact congrArg Option.isSome hreturned
  · exact congrArg (fun adopted => [adopted.getD 0]) hreturned

theorem adoptClient_queue :
    Calls Owned.queue.Ignores s (adoptClient env s).2 := by
  have hopens : Owned.client.opens (.connectClient s.clientId) = true := rfl
  exact adoptClient_calls env s (Owned.ignores_of_opens hopens (by decide))

/-- `Connect` up to `EspConnectClient`: calls about the identity, which leave
the handles alone. -/
theorem connect_registers (client : ClientSpec) :
    if connectRegisters env client s = true then
      ∃ r, Calls (fun call => call.identifies = true) s r ∧
        r.queueHandle = s.queueHandle ∧
        connect env client s =
          if (adoptClient env r).1 then (true, (adoptClient env r).2)
          else (false, unregisterIfOwned env (adoptClient env r).2)
    else
      (connect env client s).1 = false ∧
        Calls (fun call => call.identifies = true) s
          (connect env client s).2 ∧
        (connect env client s).2.clientHandle = s.clientHandle ∧
        (connect env client s).2.queueHandle = s.queueHandle := by
  have hconnect : Calls (fun call => call.identifies = true) s
      (s.run (require env .connectClient)).2 := require_calls env _ s
  have hlookup : Calls (fun call => call.identifies = true) s
      ((s.run (require env .connectClient)).2.run
        (require env .registerClient)).2 :=
    hconnect.trans (require_calls env _ _)
  by_cases hresolved : env.available .connectClient = true ∧
      env.available .registerClient = true
  · have hfn := require_run_of_available env s hresolved.1
    have hfn' := require_run_of_available env s hresolved.2
    let chosen := chooseClientId env client s
    have hframe := (chooseClientId_frame env client s).1
    have hclient : chosen.2.clientHandle = s.clientHandle := by
      rw [hframe]
    have hqueue : chosen.2.queueHandle = s.queueHandle := by
      rw [hframe]
    have hchosen : Calls (fun call => call.identifies = true) s chosen.2 :=
      chooseClientId_calls (P := fun call => call.identifies = true) env rfl
        client s
    let name := if client.name = "" then kDefaultClientName else client.name
    let registering : JournalM EspResult := do
      let result ← registerAltitudes env chosen.2.clientId name
        (altitudeBase client) kAltitudeCollisionTries kFail
      record "EspRegisterClient" result
      return result
    have hscript : Scripted env.respond (fun call => call.identifies = true)
        registering :=
      .bind (registerAltitudes_scripted env (fun _ => rfl) _ _ _) fun _ =>
        .bind (record_scripted _ _) fun _ => .pure _
    have hregistering : Calls (fun call => call.identifies = true) s
        (chosen.2.run registering).2 :=
      hchosen.trans (Calls.of_run hscript chosen.2)
    have hreaches : connectRegisters env client s =
        (chosen.1 && (chosen.2.run registering).1 == kOk) := by
      rw [connectRegisters, hresolved.1, hresolved.2]
      rfl
    have heq : connect env client s =
        if !chosen.1 then (false, chosen.2)
        else if (chosen.2.run registering).1 ≠ kOk then
          (false, (chosen.2.run registering).2)
        else
          let adopted := adoptClient env
            { (chosen.2.run registering).2 with registeredThisSession := true }
          if adopted.1 then (true, adopted.2)
          else (false, unregisterIfOwned env adopted.2) := by
      unfold connect
      dsimp only
      rw [hfn]
      dsimp only
      rw [hfn']
      rfl
    rw [hreaches, heq]
    by_cases hidentity : chosen.1 = true
    · by_cases hok : (chosen.2.run registering).1 = kOk
      · rw [if_pos (by simp [hidentity, hok]), if_neg (by simp [hidentity]),
          if_neg (by simp [hok])]
        exact ⟨{ (chosen.2.run registering).2 with
          registeredThisSession := true }, hregistering, hqueue, rfl⟩
      · rw [if_neg (by simp [hok]), if_neg (by simp [hidentity]), if_pos hok]
        exact ⟨rfl, hregistering, hclient, hqueue⟩
    · rw [if_neg (by simp [hidentity]), if_pos (by simp [hidentity])]
      exact ⟨rfl, hchosen, hclient, hqueue⟩
  · have hreaches : connectRegisters env client s = false := by
      rw [connectRegisters]
      cases hconnectFn : env.available .connectClient with
      | false => rfl
      | true =>
          cases hregisterFn : env.available .registerClient with
          | false => rfl
          | true => exact absurd ⟨hconnectFn, hregisterFn⟩ hresolved
    have hmissing : (!((s.run (require env .connectClient)).1 &&
        ((s.run (require env .connectClient)).2.run
          (require env .registerClient)).1)) = true := by
      rw [require_run_fst, require_run_fst, Bool.not_eq_true', ←
        Bool.not_eq_true, Bool.and_eq_true]
      exact hresolved
    rw [if_neg (by simp [hreaches]), connect, if_pos hmissing]
    exact ⟨rfl, hlookup, rfl, rfl⟩

theorem unregisterIfOwned_identifies :
    Calls (fun call => call.identifies = true) s (unregisterIfOwned env s) := by
  obtain ⟨-, new, hlog, hnew⟩ := unregisterIfOwned_frame env s
  refine ⟨new, hlog, fun e he => ?_⟩
  have hmem : e.call ∈ unregisterCalls env s := by
    rw [← hnew]
    exact List.mem_map_of_mem he
  unfold unregisterCalls at hmem
  split at hmem
  · rw [List.mem_singleton.mp hmem]
    rfl
  · cases hmem

theorem connect_slotStep (client : ClientSpec) :
    SlotStep .client s (connectRegisters env client s)
        (connect env client s) ∧
      SlotStep .queue s false (connect env client s) := by
  have hcases := connect_registers env s client
  split at hcases
  · rename_i hreaches
    obtain ⟨r, hcalls, hqueue, heq⟩ := hcases
    obtain ⟨e, hopens, hlog, hok, hkept⟩ := adoptClient_slotStep env r
    have hbefore {kind : Owned} : Calls kind.Ignores s r :=
      hcalls.mono fun _ => Owned.ignores_of_identifies
    have hafter {kind : Owned} : Calls kind.Ignores (adoptClient env r).2
        (unregisterIfOwned env (adoptClient env r).2) :=
      (unregisterIfOwned_identifies env _).mono fun _ =>
        Owned.ignores_of_identifies
    have hframe := (unregisterIfOwned_frame env (adoptClient env r).2).1
    have hadopted := adoptClient_queue env r
    have hqueueKept : Owned.queue.kept (adoptClient env r).2 =
        Owned.queue.kept s := congrArg (fun handle => [handle]) hqueue
    rw [hreaches, heq]
    split
    · rename_i hdone
      exact ⟨.adopted hbefore hlog (Calls.refl _) hopens
        (hdone.symm.trans hok) hkept,
        .spared (hbefore.trans hadopted) hqueueKept⟩
    · rename_i hfailed
      refine ⟨.adopted hbefore hlog hafter hopens
        ((Bool.eq_false_iff.mpr hfailed).symm.trans hok) ?_,
        .spared ((hbefore.trans hadopted).trans hafter) ?_⟩
      · rw [hframe]
        exact hkept
      · rw [hframe]
        exact hqueueKept
  · rename_i hstop
    obtain ⟨-, hcalls, hclient, hqueue⟩ := hcases
    have hspared {kind : Owned} : Calls kind.Ignores s
        (connect env client s).2 :=
      hcalls.mono fun _ => Owned.ignores_of_identifies
    rw [Bool.eq_false_iff.mpr hstop]
    exact ⟨.spared hspared (congrArg (fun handle => [handle]) hclient),
      .spared hspared (congrArg (fun handle => [handle]) hqueue)⟩

theorem connectExisting_slotStep (id : Guid) :
    SlotStep .client s (env.available .connectClient && id != Guid.null)
        (connectExisting env id s) ∧
      SlotStep .queue s false (connectExisting env id s) := by
  have hlookup (kind : Owned) :
      Calls kind.Ignores s (s.run (require env .connectClient)).2 :=
    require_calls env _ s
  unfold connectExisting
  dsimp only
  rw [require_run_fst]
  by_cases hready : (env.available .connectClient && id != Guid.null) = true
  · let r := { (s.run (require env .connectClient)).2 with
      clientId := id, registeredThisSession := false }
    obtain ⟨e, hopens, hlog, hok, hkept⟩ := adoptClient_slotStep env r
    rw [hready, if_neg (by simpa using hready)]
    exact ⟨.adopted (r := r) (hlookup .client) hlog (Calls.refl _) hopens hok
      hkept, .spared (Calls.trans (t := r) (hlookup .queue)
        (adoptClient_queue env r)) rfl⟩
  · rw [Bool.eq_false_iff.mpr hready,
      if_pos (by simpa [or_iff_not_imp_left] using hready)]
    exact ⟨.spared (hlookup .client) rfl, .spared (hlookup .queue) rfl⟩

theorem closeQueue_slotStep
    (hclose : env.available .closeEventQueue = true) :
    SlotStep .queue s false (true, closeQueue env s) ∧
      SlotStep .client s false (true, closeQueue env s) := by
  obtain ⟨new, hlog, hnew⟩ := closeOne_makes env .closeEventQueue
    .closeEventQueue s.queueHandle s.journal
  have hqueue (call : Call) (hcall : call ∈ new.map Event.call) :
      ∃ handle, call = .closeEventQueue handle := by
    rw [hnew] at hcall
    exact forall_closeCalls
      (P := fun call => ∃ handle, call = .closeEventQueue handle) env _ _
      (fun handle => ⟨handle, rfl⟩) _ call hcall
  refine ⟨.released (fun base lost hholds => ?_) rfl,
    .spared ⟨new, hlog, fun e he => ?_⟩ rfl⟩
  · have hcloses : new.filterMap Owned.queue.custody.closes =
        (Owned.queue.kept s).filter (· != 0) := by
      have hread : new.filterMap Owned.queue.custody.closes =
          (new.map Event.call).filterMap Owned.queue.closedBy := by
        rw [List.filterMap_map]
        rfl
      rw [hread, hnew]
      exact (filterMap_closeCalls_kind env s .queue .queue).trans
        (if_pos ⟨rfl, hclose⟩)
    refine Eq.mpr (congrArg (Owned.queue.custody.Holds base · lost) hlog)
      (Holds.append_closes ?_ ?_)
    · rw [hcloses]
      exact hholds
    · refine List.filterMap_eq_nil_iff.mpr fun e he =>
        Owned.returned_none .queue ?_
      obtain ⟨handle, hcall⟩ := hqueue e.call (List.mem_map_of_mem he)
      rw [hcall]
      rfl
  · obtain ⟨handle, hcall⟩ := hqueue e.call (List.mem_map_of_mem he)
    rw [hcall]
    exact ⟨rfl, rfl⟩

end

/-- The kinds with a slot of their own. -/
def Owned.slots : List Owned := [.client, .queue]

section

variable {env : Env} {s : Session} {kind : Owned}

theorem Owned.forall_slots {P : Owned → Prop} (hclient : P .client)
    (hqueue : P .queue) : ∀ kind ∈ Owned.slots, P kind := by
  intro kind hkind
  simp only [Owned.slots, List.mem_cons, List.not_mem_nil, or_false] at hkind
  rcases hkind with rfl | rfl
  · exact hclient
  · exact hqueue

theorem HandleOp.apply_slotStep (op : HandleOp)
    (hqueue : env.available .closeEventQueue = true)
    (hclient : env.available .disconnectClient = true) :
    ∀ kind ∈ Owned.slots,
      SlotStep kind s (op.adopts env s kind) (op.apply env s) := by
  refine Owned.forall_slots ?_ ?_
  · cases op with
    | connect client => exact (connect_slotStep env s client).1
    | connectExisting id => exact (connectExisting_slotStep env s id).1
    | createQueue =>
        exact (queue_slotStep env s .createEventQueue "EspCreateEventQueue"
          (.createEventQueue s.clientHandle) rfl rfl).2
    | openQueue id =>
        exact (queue_slotStep env s .openEventQueue "EspOpenEventQueue"
          (.openEventQueue s.clientHandle id) rfl rfl).2
    | closeQueue => exact (closeQueue_slotStep env s hqueue).2
    | disconnect =>
        exact .released
          (fun _ _ hholds => disconnect_settled hclient hholds)
          (congrArg (fun handle => [handle])
            (disconnect_released env s).client)
  · cases op with
    | connect client => exact (connect_slotStep env s client).2
    | connectExisting id => exact (connectExisting_slotStep env s id).2
    | createQueue =>
        exact (queue_slotStep env s .createEventQueue "EspCreateEventQueue"
          (.createEventQueue s.clientHandle) rfl rfl).1
    | openQueue id =>
        exact (queue_slotStep env s .openEventQueue "EspOpenEventQueue"
          (.openEventQueue s.clientHandle id) rfl rfl).1
    | closeQueue => exact (closeQueue_slotStep env s hqueue).1
    | disconnect =>
        exact .released
          (fun _ _ hholds => disconnect_settled hqueue hholds)
          (congrArg (fun handle => [handle])
            (disconnect_released env s).queue)

end

/-! ## Runs -/

/-- The handles of a kind that the steps of a run replace. -/
def replaced (env : Env) (kind : Owned) :
    Session → List HandleOp → Multiset Handle
  | _, [] => 0
  | s, op :: ops =>
      (if op.adopts env s kind then kind.held s else 0) +
        replaced env kind (op.apply env s).2 ops

/-- No step of the run calls an export for a handle of a kind of which the
session owns one. -/
def AdoptsIntoEmpty (env : Env) : Session → List HandleOp → Prop
  | _, [] => True
  | s, op :: ops =>
      (∀ kind ∈ Owned.slots, op.adopts env s kind = true →
        kind.held s = 0) ∧ AdoptsIntoEmpty env (op.apply env s).2 ops

instance (env : Env) : ∀ (s : Session) (ops : List HandleOp),
    Decidable (AdoptsIntoEmpty env s ops)
  | _, [] => inferInstanceAs (Decidable True)
  | s, op :: ops =>
      have := instDecidableAdoptsIntoEmpty env (op.apply env s).2 ops
      inferInstanceAs (Decidable (_ ∧ _))

/-- After the run and a last `Disconnect`: every client and queue handle was
closed as often as it was handed out, at no point more often, and no step
that answered false gave up a handle that was owned before it. -/
structure HandlesSettled (env : Env) (ops : List HandleOp) : Prop where
  once : ∀ kind ∈ Owned.slots, ∀ handle,
    kind.custody.closed
        (disconnect env (runHandles env ops .fresh)).log handle =
      kind.custody.opened
        (disconnect env (runHandles env ops .fresh)).log handle
  sound : ∀ kind ∈ Owned.slots, ∀ before,
    before <+: (disconnect env (runHandles env ops .fresh)).log →
    ∀ handle, kind.custody.closed before handle ≤
      kind.custody.opened before handle
  kept : ∀ before op after, ops = before ++ op :: after →
    (op.apply env (runHandles env before .fresh)).1 = false →
    ∀ kind ∈ Owned.slots, ∀ handle ∈
      kind.held (runHandles env before .fresh), handle ∈
        kind.held (op.apply env (runHandles env before .fresh)).2

section

variable {env : Env} {s : Session} {kind : Owned}

theorem runHandles_holds (ops : List HandleOp) {lost : Multiset Handle}
    (hkind : kind ∈ Owned.slots)
    (hqueue : env.available .closeEventQueue = true)
    (hclient : env.available .disconnectClient = true)
    (h : kind.custody.Holds [] s.log (kind.held s + lost)) :
    kind.custody.Holds [] (runHandles env ops s).log
      (kind.held (runHandles env ops s) +
        (replaced env kind s ops + lost)) := by
  induction ops generalizing s lost with
  | nil =>
      rw [replaced, zero_add]
      exact h
  | cons op ops ih =>
      have hstep := (op.apply_slotStep (s := s) hqueue hclient kind
        hkind).holds h
      rw [replaced, add_comm (ite _ _ _), add_assoc]
      exact ih hstep

theorem replaced_eq_zero_iff {ops : List HandleOp} :
    (∀ kind ∈ Owned.slots, replaced env kind s ops = 0) ↔
      AdoptsIntoEmpty env s ops := by
  induction ops generalizing s with
  | nil => exact ⟨fun _ => trivial, fun _ _ _ => rfl⟩
  | cons op ops ih =>
      have hsplit (kind : Owned) : replaced env kind s (op :: ops) = 0 ↔
          (op.adopts env s kind = true → kind.held s = 0) ∧
            replaced env kind (op.apply env s).2 ops = 0 := by
        rw [replaced, add_eq_zero]
        refine and_congr_left fun _ => ?_
        split
        · rename_i hadopts
          exact ⟨fun h _ => h, fun h => h hadopts⟩
        · rename_i hadopts
          exact ⟨fun _ h => absurd h hadopts, fun _ => rfl⟩
      simp only [hsplit]
      rw [AdoptsIntoEmpty, ← ih]
      exact ⟨fun h => ⟨fun kind hkind => (h kind hkind).1,
          fun kind hkind => (h kind hkind).2⟩,
        fun h kind hkind => ⟨h.1 kind hkind, h.2 kind hkind⟩⟩

theorem AdoptsIntoEmpty.at_step {before after : List HandleOp}
    {op : HandleOp}
    (h : AdoptsIntoEmpty env s (before ++ op :: after)) :
    ∀ kind ∈ Owned.slots,
      op.adopts env (runHandles env before s) kind = true →
      kind.held (runHandles env before s) = 0 := by
  induction before generalizing s with
  | nil => exact h.1
  | cons first before ih => exact ih h.2

end

/-- With both closers resolved, the handles of a run are settled exactly when
no step calls an export for a handle of a kind of which the session owns
one. -/
theorem runHandles_settled_iff {env : Env} (ops : List HandleOp)
    (hqueue : env.available .closeEventQueue = true)
    (hclient : env.available .disconnectClient = true) :
    HandlesSettled env ops ↔ AdoptsIntoEmpty env .fresh ops := by
  have hbooks : ∀ kind ∈ Owned.slots,
      kind.custody.Balanced (disconnect env (runHandles env ops .fresh)).log
        (replaced env kind .fresh ops) := by
    intro kind hkind
    have hcloser : env.available kind.closer = true :=
      Owned.forall_slots (P := fun kind => env.available kind.closer = true)
        hclient hqueue kind hkind
    have hfresh : kind.custody.Holds [] Session.fresh.log
        (kind.held .fresh + 0) := by
      refine Owned.forall_slots (P := fun kind => kind.custody.Holds []
        Session.fresh.log (kind.held .fresh + 0)) ?_ ?_ kind hkind
      · exact Holds.refl []
      · exact Holds.refl []
    have hrun := runHandles_holds ops hkind hqueue hclient hfresh
    rw [add_zero] at hrun
    exact holds_nil_iff.mp (disconnect_settled hcloser hrun)
  constructor
  · intro h
    refine replaced_eq_zero_iff.mp fun kind hkind => ?_
    refine Multiset.eq_zero_of_forall_notMem fun handle hmem => ?_
    have hbalance := (hbooks kind hkind).balance handle
    rw [h.once kind hkind handle] at hbalance
    have hpos := Multiset.count_pos.mpr hmem
    omega
  · intro h
    have hzero := replaced_eq_zero_iff.mpr h
    refine ⟨?_, fun kind hkind => (hbooks kind hkind).sound, ?_⟩
    · intro kind hkind handle
      have hsettled := hbooks kind hkind
      rw [hzero kind hkind] at hsettled
      exact (hsettled.settled handle).symm
    · intro before op after hops hfalse kind hkind
      subst hops
      have hstep := op.apply_slotStep
        (s := runHandles env before .fresh) hqueue hclient kind hkind
      generalize hout : op.apply env (runHandles env before .fresh) = out
        at hstep hfalse ⊢
      obtain ⟨ok, t⟩ := out
      cases hfalse
      exact hstep.keeps (h.at_step kind hkind)

/-- A queue is closed before the next one is opened. -/
theorem runHandles_settled_reopened :
    HandlesSettled acceptingEnv [.connect (sampleClient 1), .createQueue,
      .closeQueue, .openQueue (sampleId 2)] :=
  (runHandles_settled_iff _ rfl rfl).mpr (by decide)

/-- A queue that is opened on a session that created one: the created queue
is never closed. -/
theorem runHandles_reopened_leaks :
    let ops : List HandleOp :=
      [.connect (sampleClient 1), .createQueue, .openQueue (sampleId 2)]
    let log := (disconnect acceptingEnv
      (runHandles acceptingEnv ops .fresh)).log
    (∃ handle, Owned.queue.custody.opened log handle = 1 ∧
      Owned.queue.custody.closed log handle = 0) ∧
      ¬HandlesSettled acceptingEnv ops := by
  refine ⟨⟨3, by decide, by decide +kernel⟩, fun h => ?_⟩
  exact absurd (h.once .queue (by decide) 3) (by decide)

end Esptool.Esp
