import Esptool.EspSession
import Esptool.Text

/-!
# Client identity, queue and enumeration

The operations of a session that register and connect its client, create its
queue, list what the driver holds and remove the rules of the client.
-/

namespace Esptool.Esp

open Model Interaction

def kDefaultClientName : String := "esptool"
def kDefaultClientAltitudeValue : ℕ := 385000
def kAltitudeCollisionTries : ℕ := 32
def kAltitudeCollisionStep : ℕ := 10

def altitudeBase (client : ClientSpec) : ℕ :=
  match Text.parseUnsigned client.altitude.toList with
  | some parsed =>
      if client.altitude ≠ "" ∧ parsed ≠ 0 ∧ parsed ≤ 2 ^ 32 - 1 then parsed
      else kDefaultClientAltitudeValue
  | none => kDefaultClientAltitudeValue

def altitudeAt (base attempt : ℕ) : ℕ :=
  if attempt > 0 then
    ((if base = 0 then kDefaultClientAltitudeValue else base) +
      attempt * kAltitudeCollisionStep) % 2 ^ 32
  else base

/-- The registration loop, with the attempts that remain: only a collision is
tried again. -/
def registerAltitudes (env : Env) (id : Guid) (name : String) (base : ℕ) :
    ℕ → EspResult → JournalM EspResult
  | 0, last => pure last
  | remaining + 1, _ => do
      let attempt := kAltitudeCollisionTries - (remaining + 1)
      let reply ← ask env.respond
        (.registerClient id name (altitudeAt base attempt))
      if reply.result = kAlreadyExists then
        registerAltitudes env id name base remaining reply.result
      else return reply.result

/-- The client identity of `Connect`: the document's, or a generated one. -/
def chooseClientId (env : Env) (client : ClientSpec) (s : Session) :
    Bool × Session :=
  if client.guid ≠ Guid.null then (true, { s with clientId := client.guid })
  else
    let generated :=
      { s with clientId := client.guid }.run (ask env.respond .coCreateGuid)
    if failed generated.1.result then
      let recorded :=
        (generated.2.run (record "EspConnectClient" generated.1.result)).2
      (false, recorded.warn "could not generate a client GUID")
    else
      (true,
        { generated.2 with clientId := generated.1.ids.headD Guid.null })

/-- The tail of `Connect` and of `ConnectExisting`: `Adopt` the client
handle. -/
def adoptClient (env : Env) (s : Session) : Bool × Session :=
  let adopted :=
    s.run (adopt env "EspConnectClient" (.connectClient s.clientId))
  (adopted.1.isSome, { adopted.2 with clientHandle := adopted.1.getD 0 })

def connect (env : Env) (client : ClientSpec) (s : Session) :
    Bool × Session :=
  -- both exports are looked up before either is missed
  let connectFn := s.run (require env .connectClient)
  let registerFn := connectFn.2.run (require env .registerClient)
  if !(connectFn.1 && registerFn.1) then (false, registerFn.2)
  else
    let chosen := chooseClientId env client registerFn.2
    if !chosen.1 then (false, chosen.2)
    else
      let name := if client.name = "" then kDefaultClientName else client.name
      let registered := chosen.2.run do
        let result ← registerAltitudes env chosen.2.clientId name
          (altitudeBase client) kAltitudeCollisionTries kFail
        record "EspRegisterClient" result
        return result
      if registered.1 ≠ kOk then (false, registered.2)
      else
        let adopted := adoptClient env
          { registered.2 with registeredThisSession := true }
        if adopted.1 then (true, adopted.2)
        else (false, unregisterIfOwned env adopted.2)

def connectExisting (env : Env) (id : Guid) (s : Session) : Bool × Session :=
  let connectFn := s.run (require env .connectClient)
  if !connectFn.1 || id == Guid.null then (false, connectFn.2)
  else
    adoptClient env
      { connectFn.2 with clientId := id, registeredThisSession := false }

def Session.setUnregisterOnDisconnect (s : Session) (value : Bool) :
    Session :=
  { s with unregisterOnDisconnect := value }

def createQueue (env : Env) (s : Session) : Bool × Session :=
  let resolved := s.run (require env .createEventQueue)
  if !resolved.1 || s.clientHandle == 0 then (false, resolved.2)
  else
    let adopted := resolved.2.run
      (adopt env "EspCreateEventQueue" (.createEventQueue s.clientHandle))
    (adopted.1.isSome, { adopted.2 with queueHandle := adopted.1.getD 0 })

def openQueue (env : Env) (id : Guid) (s : Session) : Bool × Session :=
  let resolved := s.run (require env .openEventQueue)
  if !resolved.1 || s.clientHandle == 0 then (false, resolved.2)
  else
    let adopted := resolved.2.run
      (adopt env "EspOpenEventQueue" (.openEventQueue s.clientHandle id))
    (adopted.1.isSome, { adopted.2 with queueHandle := adopted.1.getD 0 })

def closeQueue (env : Env) (s : Session) : Session :=
  let closed := (s.run (closeOne env .closeEventQueue .closeEventQueue
    s.queueHandle)).2
  { closed with queueHandle := 0 }

/-- The shape that `EnumerateClients`, `EnumerateRuleIds` and
`RemoveAllRules` share: one recorded call behind a lookup and a guard. -/
def callExport (env : Env) (wanted : Export) (ready : Bool) (call : Call)
    (s : Session) : Option Reply × Session :=
  let resolved := s.run (require env wanted)
  if !resolved.1 || !ready then (none, resolved.2)
  else
    let replied := resolved.2.run do
      let reply ← ask env.respond call
      record wanted.name reply.result
      return reply
    (some replied.1, replied.2)

def replySucceeded (reply : Option Reply) : Bool :=
  reply.any fun reply => succeeded reply.result

def enumerateClients (env : Env) (s : Session) :
    (Bool × List Guid) × Session :=
  let listed := callExport env .enumerateRegisteredClients true
    .enumerateRegisteredClients s
  let ids := listed.1.elim [] fun reply =>
    if succeeded reply.result && decide (reply.count > 0) then reply.ids
    else []
  ((replySucceeded listed.1, ids), listed.2)

def unregisterClientId (env : Env) (id : Guid) (s : Session) :
    Bool × Session :=
  let called := callExport env .unregisterClient true (.unregisterClient id) s
  (replySucceeded called.1, called.2)

/-- `EnumerateRuleIds`: the caller's count, zero unless the call went out. -/
def enumerateRuleIds (env : Env) (lifetime : ℕ) (s : Session) :
    (Bool × ℤ) × Session :=
  let listed := callExport env .enumerateRuleIds (s.clientHandle != 0)
    (.enumerateRuleIds s.clientHandle lifetime) s
  ((replySucceeded listed.1, (listed.1.map (·.count)).getD 0), listed.2)

def removeAllRules (env : Env) (s : Session) : Bool × Session :=
  let removed := callExport env .removeAllRulesForClient
    (s.clientHandle != 0) (.removeAllRulesForClient s.clientHandle) s
  (replySucceeded removed.1, removed.2)

end Esptool.Esp
