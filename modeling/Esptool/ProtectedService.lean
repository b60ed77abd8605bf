import Esptool.PipeChannel
import Esptool.RuleInstall

/-!
# The request handler of the service

The service holds one session and answers one request at a time.  What the
answers read from the rest of the process is given by a `ServiceHost`: the
exports and their outcomes, the parser, the texts of the status answer and
the sweep over the exports.

The handler presets the status to zero and leaves it there in every branch
that does not overwrite it.
-/

namespace Esptool.Ppl

open Model Esp Ipc

structure ExportOutcome where
  invoked : Bool
  result : ℤ

structure ServiceHost where
  env : Env
  parseRuleText : Bytes → ParseOutcome
  processText : String
  attributeText : String
  connected : Bool
  resolvedCount : ℕ
  exportCount : ℕ
  runInProcess : Session → List ExportOutcome × Session

def wireStatus (result : EspResult) : BitVec 32 := BitVec.ofInt 32 result

def statusText (host : ServiceHost) : String :=
  host.processText ++ "\naccount=SYSTEM tcb=enabled\nattribute=" ++
    host.attributeText ++ "\nconnect=" ++
    if host.connected then "ok" else "pending_or_failed"

def exportsText (host : ServiceHost) : String :=
  "resolved " ++ toString host.resolvedCount ++ " of " ++
    toString host.exportCount

/-- The 64-bit result of an outcome is cut to a result code first. -/
def exerciseText (outcomes : List ExportOutcome) : String :=
  let succeededCount := outcomes.countP fun outcome =>
    outcome.invoked && succeeded (outcome.result.bmod (2 ^ 32))
  "exercised " ++ toString outcomes.length ++ ", succeeded " ++
    toString succeededCount

def installWord : InstallStatus → String
  | .complete => "succeeded"
  | .partial_ => "partial"
  | .failed => "failed"

def rulesText (document : RuleDocument) (installed : InstallStatus) :
    String :=
  "parsed " ++ toString document.rules.length ++ " rules, install " ++
    installWord installed

def noCompatText : String :=
  "enforce-compat is unavailable from the service host; use the " ++
    "standalone rules --enforce-compat client"

def handleRules (host : ServiceHost) (payload : Bytes) (s : Session) :
    Response × Session :=
  let parsed := host.parseRuleText payload
  if !parsed.ok then
    (⟨wireStatus kInvalidArg, utf8 ("parse error: " ++ parsed.error)⟩, s)
  else if documentRequiresEnforceCompat parsed.document then
    (⟨wireStatus kInvalidArg, utf8 noCompatText⟩, s)
  else
    let installed := installRules host.env parsed.document s
    (⟨if installed.1 ≠ .complete then wireStatus kFail else 0,
      utf8 (rulesText parsed.document installed.1)⟩, installed.2)

def handle (host : ServiceHost) (request : Request) (s : Session) :
    Response × Session :=
  if request.kind = .ping then (⟨0, utf8 "pong"⟩, s)
  else if request.kind = .status then (⟨0, utf8 (statusText host)⟩, s)
  else if request.kind = .exports then (⟨0, utf8 (exportsText host)⟩, s)
  else if request.kind = .exercise then
    let swept := host.runInProcess s
    (⟨0, utf8 (exerciseText swept.1)⟩, swept.2)
  else if request.kind = .rules then handleRules host request.payload s
  -- the switch has no default case: status and payload stay as preset
  else (⟨0, []⟩, s)

/-- Everything that has to go well before a rule document is armed in the
service. -/
structure ArmsPayload (host : ServiceHost) (payload : Bytes) (s : Session) :
    Prop where
  parsed : (host.parseRuleText payload).ok = true
  noCompat :
    documentRequiresEnforceCompat (host.parseRuleText payload).document =
      false
  complete :
    (installRules host.env (host.parseRuleText payload).document s).1 =
      .complete

/-- The answer claims no more than was done: status zero only for a named
kind, and for rules only when the document is armed; any other kind is
refused. -/
structure AnswersHonestly (host : ServiceHost) (request : Request)
    (s : Session) (response : Response) : Prop where
  named : response.status = 0 → request.kind ∈ RequestKind.named
  armed : response.status = 0 → request.kind = .rules →
    ArmsPayload host request.payload s
  refused : request.kind ∉ RequestKind.named → response.status ≠ 0

theorem handleRules_status_eq_zero_iff (host : ServiceHost) (payload : Bytes)
    (s : Session) :
    (handleRules host payload s).1.status = 0 ↔
      ArmsPayload host payload s := by
  have hinvalid : wireStatus kInvalidArg ≠ 0 := by decide
  have hfail : wireStatus kFail ≠ 0 := by decide
  unfold handleRules
  dsimp only
  cases hok : (host.parseRuleText payload).ok with
  | false =>
      constructor
      · intro h
        exact absurd h hinvalid
      · intro h
        exact absurd (hok.symm.trans h.parsed) (by decide)
  | true =>
      cases hcompat : documentRequiresEnforceCompat
          (host.parseRuleText payload).document with
      | true =>
          constructor
          · intro h
            exact absurd h hinvalid
          · intro h
            exact absurd (hcompat.symm.trans h.noCompat) (by decide)
      | false =>
          simp only [Bool.not_true, Bool.false_eq_true, if_false]
          by_cases hinstall : (installRules host.env
              (host.parseRuleText payload).document s).1 = .complete
          · rw [if_neg (not_not.mpr hinstall)]
            exact iff_of_true rfl ⟨hok, hcompat, hinstall⟩
          · rw [if_pos hinstall]
            refine iff_of_false hfail ?_
            intro h
            exact hinstall h.complete

theorem handle_rules (host : ServiceHost) (payload : Bytes) (s : Session) :
    handle host ⟨.rules, payload⟩ s = handleRules host payload s := by
  rfl

theorem handle_of_not_named (host : ServiceHost) {request : Request}
    (s : Session) (h : request.kind ∉ RequestKind.named) :
    handle host request s = (⟨0, []⟩, s) := by
  simp only [RequestKind.named, List.mem_cons, List.not_mem_nil, or_false,
    not_or] at h
  obtain ⟨hping, hstatus, hexports, hexercise, hrules⟩ := h
  unfold handle
  rw [if_neg hping, if_neg hstatus, if_neg hexports, if_neg hexercise,
    if_neg hrules]

theorem handle_honest_iff (host : ServiceHost) (request : Request)
    (s : Session) :
    AnswersHonestly host request s (handle host request s).1 ↔
      request.kind ∈ RequestKind.named := by
  constructor
  · intro h
    by_contra hnamed
    have hrefused := h.refused hnamed
    rw [handle_of_not_named host s hnamed] at hrefused
    exact hrefused rfl
  · intro hnamed
    refine ⟨fun _ => hnamed, ?_, fun hother => absurd hnamed hother⟩
    intro hzero hrules
    obtain ⟨kind, payload⟩ := request
    subst hrules
    rw [handle_rules] at hzero
    exact (handleRules_status_eq_zero_iff host payload s).mp hzero

theorem serveOne_answered {σ : Type} {handler : Request → σ → Response × σ}
    {accept : Accept} {reads writes : List PipeCall} {incoming : Bytes}
    {state : σ} {request : Request} {response : Response}
    (h : (serveOne handler accept reads writes incoming state).answered =
      some (request, response)) : response = (handler request state).1 := by
  unfold serveOne at h
  cases accept with
  | refused error => simp at h
  | stopped => simp at h
  | waited =>
      cases hframe : readFrame "request" reads incoming with
      | error error => simp [hframe] at h
      | ok frame =>
          simp only [hframe, Option.some.injEq, Prod.mk.injEq] at h
          obtain ⟨rfl, rfl⟩ := h
          rfl

/-- Whatever arrives on the pipe and however it is delivered: the answer to a
frame that the server took in is honest for the named kinds and for no
other. -/
theorem serveOne_honest_iff_named (host : ServiceHost) (s : Session)
    (accept : Accept) (reads writes : List PipeCall) (incoming : Bytes)
    (request : Request) (response : Response)
    (h : (serveOne (handle host) accept reads writes incoming s).answered =
      some (request, response)) :
    AnswersHonestly host request s response ↔
      request.kind ∈ RequestKind.named := by
  rw [serveOne_answered h]
  exact handle_honest_iff host request s

/-- A document with one cancelling rule, which needs no queue. -/
def cancelText : Bytes :=
  utf8 "<esptool><rule eventType=\"2000\" action=\"6\"/></esptool>"

def cancelRules : RuleDocument :=
  { rules := [{ eventType := 2000, action := kActionCancel }] }

def acceptingHost : ServiceHost where
  env := acceptingEnv
  parseRuleText text :=
    if text = cancelText then { ok := true, document := cancelRules }
    else { error := "the rule document is empty" }
  processText := "unprotected"
  attributeText := "absent"
  connected := true
  resolvedCount := 24
  exportCount := 24
  runInProcess s := ([], s)

/-- A frame of kind 6, which the enumeration does not name, is acknowledged
with status zero. -/
theorem serveOne_acknowledges_unnamed_kind :
    let served := serveOne (handle acceptingHost) .waited
      [⟨4, none⟩, ⟨4, none⟩] [⟨8, none⟩] (encodeRequest ⟨6, []⟩) {}
    served.answered = some (⟨6, []⟩, ⟨0, []⟩) ∧
      served.outgoing = encodeResponse ⟨0, []⟩ ∧
      ¬ AnswersHonestly acceptingHost ⟨6, []⟩ {} ⟨0, []⟩ := by
  intro served
  refine ⟨by decide, by decide, fun h => ?_⟩
  exact h.refused (by decide) rfl

/-- A rules request in two chunks whose document is armed, and the answer
that says so. -/
theorem serveOne_honest_cancelRules :
    let s : Session := { clientHandle := 7 }
    let request : Request := ⟨.rules, cancelText⟩
    let served := serveOne (handle acceptingHost) .waited
      [⟨4, none⟩, ⟨20, none⟩, ⟨100, none⟩] [⟨100, none⟩]
      (encodeRequest request) s
    ∃ response, served.answered = some (request, response) ∧
      response.status = 0 ∧
      AnswersHonestly acceptingHost request s response := by
  intro s request served
  have hanswered : served.answered = some (request,
      ⟨0, utf8 "parsed 1 rules, install succeeded"⟩) := by decide
  exact ⟨_, hanswered, rfl,
    (serveOne_honest_iff_named acceptingHost s .waited _ _ _ _ _
      hanswered).mpr (by decide)⟩

end Esptool.Ppl
