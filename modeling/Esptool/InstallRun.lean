import Esptool.InstallSteps

/-!
# Whole installs

The invariants of the build loop and of the submit loop, and what they leave
at the end: an install is a list of created rules in document order, each
judged by its own submission.  Every result about the verdict, the ledger and
the log of `InstallRules` reads these lists.
-/

namespace Esptool.Esp

open Model Interaction

/-! ## Gates and collections -/

/-- What the gates and the collections can change before the build loop. -/
structure PrologueStep (s t : Session) (new : List Event) : Prop where
  log : t.log = s.log ++ new
  tag : t.journal.tag = s.journal.tag
  rules : t.rules = s.rules
  client : t.clientHandle = s.clientHandle
  queue : t.queueHandle = s.queueHandle
  enforceCompat : t.enforceCompat = s.enforceCompat
  attempted : t.enforceCompatPatchAttempted = s.enforceCompatPatchAttempted
  applied : t.enforceCompatPatchOk = s.enforceCompatPatchOk
  builds : ∀ e ∈ new,
    e.tag = s.journal.tag ∧ e.call.buildsObjects = true

theorem PrologueStep.refl (s : Session) : PrologueStep s s [] := by
  have hlog : s.log = s.log ++ [] := (List.append_nil s.log).symm
  have hnone : ∀ e ∈ ([] : List Event),
      e.tag = s.journal.tag ∧ e.call.buildsObjects = true :=
    fun e he => absurd he List.not_mem_nil
  exact ⟨hlog, rfl, rfl, rfl, rfl, rfl, rfl, rfl, hnone⟩

theorem PrologueStep.trans {s t u : Session} {new new' : List Event}
    (h : PrologueStep s t new) (h' : PrologueStep t u new') :
    PrologueStep s u (new ++ new') := by
  refine ⟨?_, h'.tag.trans h.tag, h'.rules.trans h.rules,
    h'.client.trans h.client, h'.queue.trans h.queue,
    h'.enforceCompat.trans h.enforceCompat,
    h'.attempted.trans h.attempted, h'.applied.trans h.applied, ?_⟩
  · rw [h'.log, h.log, List.append_assoc]
  · intro e he
    rcases List.mem_append.mp he with he | he
    · exact h.builds e he
    · rw [← h.tag]
      exact h'.builds e he

theorem PrologueStep.of_script {α : Type} {env : Env} {m : JournalM α}
    (hm : BuildScript env m) (s : Session) :
    ∃ new, PrologueStep s (s.run m).2 new := by
  obtain ⟨htag, new, hlog, hnew⟩ := hm.emits s.journal
  exact ⟨new, hlog, htag, rfl, rfl, rfl, rfl, rfl, rfl, hnew⟩

theorem PrologueStep.of_warn (s : Session) (message : String) :
    PrologueStep s (s.warn message) [] := by
  refine ⟨?_, rfl, rfl, rfl, rfl, rfl, rfl, rfl, by simp⟩
  simp [Session.log, Session.warn, Session.run, Esp.warn, note_run]

theorem PrologueStep.rebind {s t : Session} {new : List Event}
    (h : PrologueStep s t new) (queries : List (ℕ × QueryRecipe))
    (named : List (String × Handle)) :
    PrologueStep s
      { t with notifyQueries := queries, namedCollections := named } new :=
  ⟨h.log, h.tag, h.rules, h.client, h.queue, h.enforceCompat,
    h.attempted, h.applied, h.builds⟩

theorem PrologueStep.patchCached {s t : Session} {new : List Event}
    (h : PrologueStep s t new) (hs : PatchCached s) : PatchCached t := by
  refine hs.extend h.log (fun e he hcall => ?_) h.attempted h.applied
  have hbuilds := (h.builds e he).2
  rw [hcall] at hbuilds
  cases hbuilds

theorem require_step (env : Env) (wanted : Export) (s : Session) :
    ∃ new, PrologueStep s (s.run (require env wanted)).2 new :=
  PrologueStep.of_script (require_scripted wanted) s

theorem installDocumentCollections_step (env : Env)
    (document : RuleDocument) (s : Session) :
    ∃ new, PrologueStep s
      (installDocumentCollections env document s).2 new := by
  obtain ⟨new, hstep⟩ := PrologueStep.of_script
    (documentCollections_script s.clientHandle document) s
  exact ⟨new, hstep.rebind (s.run (documentCollections env s.clientHandle
    document)).2.notifyQueries _⟩

theorem proceed_step {s : Session} {gate : Bool × Session}
    {next : Session → Bool × Session}
    (hgate : ∃ new, PrologueStep s gate.2 new)
    (hnext : ∀ t, ∃ new, PrologueStep t (next t).2 new) :
    ∃ new, PrologueStep s (proceed gate next).2 new := by
  obtain ⟨ok, t⟩ := gate
  obtain ⟨new, hgate⟩ := hgate
  cases ok with
  | false => exact ⟨new, hgate⟩
  | true =>
      obtain ⟨new', hstep⟩ := hnext t
      exact ⟨new ++ new', hgate.trans hstep⟩

theorem proceed_true {gate : Bool × Session}
    {next : Session → Bool × Session}
    (h : (proceed gate next).1 = true) :
    gate.1 = true ∧ (next gate.2).1 = true := by
  obtain ⟨ok, t⟩ := gate
  cases ok with
  | false => cases h
  | true => exact ⟨rfl, h⟩

theorem gate_step (refuses : Bool) (message : String) (s : Session) :
    ∃ new, PrologueStep s (gate refuses message s).2 new := by
  cases refuses with
  | true => exact ⟨[], PrologueStep.of_warn _ _⟩
  | false => exact ⟨[], PrologueStep.refl s⟩

theorem gate_true {refuses : Bool} {message : String} {s : Session}
    (h : (gate refuses message s).1 = true) : refuses = false := by
  cases refuses with
  | true => cases h
  | false => rfl

theorem collectionsGate_step (env : Env) (document : RuleDocument)
    (s : Session) :
    ∃ new, PrologueStep s (collectionsGate env document s).2 new := by
  obtain ⟨new, hcollections⟩ := installDocumentCollections_step env document
    { s with notifyQueries := [], namedCollections := [] }
  have hall := ((PrologueStep.refl s).rebind [] []).trans hcollections
  unfold collectionsGate
  dsimp only
  split
  · exact ⟨_, hall.trans (PrologueStep.of_warn _ _)⟩
  · exact ⟨_, hall⟩

theorem installPrologue_step (env : Env) (document : RuleDocument)
    (s : Session) :
    (∃ new, PrologueStep s (installPrologue env document s).2 new) ∧
      ((installPrologue env document s).1 = true →
        s.clientHandle ≠ 0 ∧ document.rules ≠ []) := by
  constructor
  · exact proceed_step (gate_step _ _ _) fun s =>
      proceed_step (gate_step _ _ s) fun s =>
      proceed_step (require_step env .createRule s) fun s =>
      proceed_step (require_step env .updateRules s) fun s =>
      proceed_step (collectionsGate_step env document s) fun s =>
      ⟨[], (PrologueStep.refl s).rebind _ s.namedCollections⟩
  · intro htrue
    have hgate := gate_true (proceed_true htrue).1
    simpa using hgate

/-! ## The build loop -/

def Pending.rule (p : Pending) : Handle := p.entry.rule

def filedUnder (read : Event → Option Handle) (e : Event) :
    Option (Option ℕ × Handle) :=
  (read e).map fun rule => (e.tag, rule)

/-- The predecessor of a chained rule is older than the call and the anchor
is null, or it was made before it in the same call and is the anchor. -/
def AnchorsTo (old : List Handle) (before : List Pending) (p : Pending)
    (predecessor : Handle) : Prop :=
  (p.anchor = 0 ∧ predecessor ∈ old) ∨
    (p.anchor = predecessor ∧ predecessor ∈ before.map Pending.rule)

/-- After `k` iterations `made` lists the created rules in document order. -/
structure Built (s : Session) (k : ℕ) (st : BuildState)
    (new : List Event) (made : List Pending) : Prop where
  log : st.session.log = s.log ++ new
  client : st.session.clientHandle = s.clientHandle
  entries : st.entries = made.map Pending.entry
  origins : st.origins = made.map Pending.origin
  anchors : st.subruleAnchors = made.map Pending.anchor
  rules : st.session.rules = s.rules ++ made.map Pending.rule
  count : made.length ≤ k
  allOk : st.allOk = decide (made.length = k)
  sorted : made.Pairwise fun p q => p.origin < q.origin
  bounded : ∀ p ∈ made, p.origin < k
  entry : ∀ p ∈ made, p.entry = { rule := p.rule }
  tagged : ∀ e ∈ new, ∃ i < k, e.tag = some i
  quiet : ∀ e ∈ new, acceptedRule e = none ∧ closedRule e = none ∧
    ∀ client entries, e.call ≠ .updateRules client entries
  created : new.filterMap (filedUnder createdRule) =
    made.map fun p => (some p.origin, p.rule)
  chained : ∀ before p after, made = before ++ p :: after →
    ∀ e ∈ new, e.tag = some p.origin → createdRule e = some p.rule →
      ∀ predecessor ∈ subrulePredecessor e,
        AnchorsTo s.rules before p predecessor
  cached : PatchCached s → PatchCached st.session

/-- Before the first iteration nothing is made, and nothing is filed. -/
theorem Built.init (s : Session) : Built s 0 { session := s } [] [] := by
  have hlog : s.log = s.log ++ [] := (List.append_nil s.log).symm
  have hrules : s.rules = s.rules ++ [] := (List.append_nil s.rules).symm
  have hmade : ∀ p : Pending, p ∉ ([] : List Pending) :=
    fun p => List.not_mem_nil
  have hnew : ∀ e : Event, e ∉ ([] : List Event) :=
    fun e => List.not_mem_nil
  have hsplit : ∀ (before : List Pending) (p : Pending)
      (after : List Pending), [] ≠ before ++ p :: after := by
    intro before p after hempty
    have happend : before ++ p :: after ≠ [] :=
      List.append_ne_nil_of_right_ne_nil before (List.cons_ne_nil p after)
    exact happend hempty.symm
  exact
    { log := hlog
      client := rfl
      entries := rfl
      origins := rfl
      anchors := rfl
      rules := hrules
      count := Nat.le_refl 0
      allOk := rfl
      sorted := List.Pairwise.nil
      bounded := fun p hp => absurd hp (hmade p)
      entry := fun p hp => absurd hp (hmade p)
      tagged := fun e he => absurd he (hnew e)
      quiet := fun e he => absurd he (hnew e)
      created := rfl
      chained := fun before p after hempty =>
        absurd hempty (hsplit before p after)
      cached := id }

theorem filterMap_filedUnder {read : Event → Option Handle}
    {new : List Event} {tag : Option ℕ} (htag : ∀ e ∈ new, e.tag = tag) :
    new.filterMap (filedUnder read) =
      (new.filterMap read).map fun rule => (tag, rule) := by
  induction new with
  | nil => rfl
  | cons e rest ih =>
      have hrest := ih fun e' he' => htag e' (List.mem_cons_of_mem e he')
      have he : e.tag = tag := htag e List.mem_cons_self
      rw [List.filterMap_cons, List.filterMap_cons, hrest]
      cases hread : read e with
      | none => simp [filedUnder, hread]
      | some rule => simp [filedUnder, hread, he]

theorem Built.anchorsTo {s : Session} {k : ℕ} {st : BuildState}
    {new : List Event} {made : List Pending} (h : Built s k st new made)
    {p : Pending} {predecessor : Handle}
    (hlast : st.session.rules.getLast? = some predecessor)
    (hanchor : p.anchor = subruleAnchor s.rules.length st) :
    AnchorsTo s.rules made p predecessor := by
  rw [h.rules] at hlast
  unfold subruleAnchor at hanchor
  rw [h.rules, h.entries] at hanchor
  rcases List.eq_nil_or_concat made with rfl | ⟨older, newest, rfl⟩
  · left
    have hnone : ¬(s.rules ++ List.map Pending.rule []).length >
        s.rules.length := by simp
    rw [if_neg hnone] at hanchor
    exact ⟨hanchor, List.mem_of_getLast? (by simpa using hlast)⟩
  · right
    have hmore : (s.rules ++ (older.concat newest).map Pending.rule).length >
        s.rules.length := by simp
    rw [if_pos hmore] at hanchor
    simp only [List.concat_eq_append, List.map_append, List.map_cons,
      List.map_nil, ← List.append_assoc, List.getLast?_concat,
      Option.some.injEq, Option.map_some, Option.getD_some] at hlast hanchor
    refine ⟨hanchor.trans hlast, ?_⟩
    simp [← hlast]

theorem Built.tag_ne {s : Session} {k : ℕ} {st : BuildState}
    {new : List Event} {made : List Pending} (h : Built s k st new made)
    {e : Event} (he : e ∈ new) : e.tag ≠ some k := by
  intro htag
  obtain ⟨i, hi, hei⟩ := h.tagged e he
  rw [htag, Option.some.injEq] at hei
  omega

theorem Built.step {s : Session} {k : ℕ} {st st' : BuildState}
    {new new' : List Event} {made : List Pending} {made' : Option Pending}
    (h : Built s k st new made)
    {spec : RuleSpec}
    (hstep : BuildStep s.rules.length spec st st' k new' made') :
    Built s (k + 1) st' (new ++ new') (made ++ made'.toList) := by
  have horigin : ∀ p ∈ made'.toList, p.origin = k := by
    intro p hp
    exact (hstep.entry p (by simpa using hp)).1
  refine
    { log := by rw [hstep.log, h.log, List.append_assoc]
      client := hstep.client.trans h.client
      entries := by rw [hstep.entries, h.entries, List.map_append]
      origins := by rw [hstep.origins, h.origins, List.map_append]
      anchors := by rw [hstep.anchors, h.anchors, List.map_append]
      rules := by
        rw [hstep.rules, h.rules, List.append_assoc, List.map_append]
        rfl
      count := ?_
      allOk := ?_
      sorted := ?_
      bounded := ?_
      entry := ?_
      tagged := ?_
      quiet := ?_
      created := ?_
      chained := ?_
      cached := fun hs => hstep.cached (h.cached hs) }
  · have hcount := h.count
    cases made' with
    | none => simpa using Nat.le_succ_of_le hcount
    | some p => simpa using hcount
  · have hcount := h.count
    rw [hstep.allOk, h.allOk]
    cases made' with
    | none =>
        have hshort : made.length ≠ k + 1 := by omega
        simp [hshort]
    | some p => simp
  · rw [List.pairwise_append]
    refine ⟨h.sorted, ?_, ?_⟩
    · cases made' with
      | none => exact List.Pairwise.nil
      | some p => exact List.pairwise_singleton _ p
    · intro p hp q hq
      rw [horigin q hq]
      exact h.bounded p hp
  · intro p hp
    rcases List.mem_append.mp hp with hp | hp
    · exact Nat.lt_succ_of_lt (h.bounded p hp)
    · rw [horigin p hp]
      exact Nat.lt_succ_self k
  · intro p hp
    rcases List.mem_append.mp hp with hp | hp
    · exact h.entry p hp
    · exact (hstep.entry p (by simpa using hp)).2
  · intro e he
    rcases List.mem_append.mp he with he | he
    · obtain ⟨i, hi, htag⟩ := h.tagged e he
      exact ⟨i, Nat.lt_succ_of_lt hi, htag⟩
    · exact ⟨k, Nat.lt_succ_self k, hstep.tagged e he⟩
  · intro e he
    rcases List.mem_append.mp he with he | he
    · exact h.quiet e he
    · exact hstep.quiet e he
  · rw [List.filterMap_append, h.created,
      filterMap_filedUnder hstep.tagged, hstep.created, List.map_append]
    congr 1
    rw [List.map_map]
    apply List.map_congr_left
    intro p hp
    rw [horigin p hp]
    rfl
  · intro before p after hsplit e he htag hrule predecessor hpredecessor
    rcases Loops.split_append hsplit with
      ⟨rest, hmade⟩ | ⟨middle, hbefore, hmade'⟩
    · rcases List.mem_append.mp he with he | he
      · exact h.chained before p rest hmade e he htag hrule
          predecessor hpredecessor
      · rw [hstep.tagged e he, Option.some.injEq] at htag
        have hbound := h.bounded p (by simp [hmade])
        omega
    · -- `p` was made by this iteration
      have hp : p ∈ made' := by
        have hmem : p ∈ made'.toList := by simp [hmade']
        simpa using hmem
      have hfirst : middle = [] := by
        have hlength := congrArg List.length hmade'
        cases made' with
        | none => simp at hp
        | some q =>
            simp only [Option.toList_some, List.length_append,
              List.length_cons, List.length_nil] at hlength
            exact List.length_eq_zero_iff.mp (by omega)
      rw [hbefore, hfirst, List.append_nil]
      rcases List.mem_append.mp he with he | he
      · rw [horigin p (by simpa using hp)] at htag
        exact absurd htag (h.tag_ne he)
      · obtain ⟨hlast, hanchor⟩ := hstep.chained p hp e he hrule
          predecessor hpredecessor
        exact h.anchorsTo hlast hanchor

theorem buildRules_built (env : Env) (document : RuleDocument)
    (s : Session) :
    ∃ new made, Built s document.rules.length
      (buildRules env document s) new made := by
  unfold buildRules
  refine Loops.foldl_zipIdx_invariant
    (motive := fun k st => ∃ new made, Built s k st new made)
    ⟨[], [], Built.init s⟩ ?_
  rintro k st spec _ ⟨new, made, hbuilt⟩
  obtain ⟨new', made', hstep⟩ :=
    buildRule_step env s.rules.length st spec k
  exact ⟨new ++ new', made ++ made'.toList, hbuilt.step hstep⟩

theorem Built.pending {s : Session} {k : ℕ} {st : BuildState}
    {new : List Event} {made : List Pending} (h : Built s k st new made) :
    st.pending = made := by
  have hzipped : (made.map Pending.entry).zip ((made.map Pending.origin).zip
        (made.map Pending.anchor)) =
      made.map fun p => (p.entry, p.origin, p.anchor) := by
    rw [List.zip_map', List.zip_map']
  unfold BuildState.pending
  rw [h.entries, h.origins, h.anchors, hzipped, List.map_map]
  exact List.map_id made

theorem Built.rule_ne_zero {s : Session} {k : ℕ} {st : BuildState}
    {new : List Event} {made : List Pending} (h : Built s k st new made)
    {p : Pending} (hp : p ∈ made) : p.rule ≠ 0 := by
  have hmem : (some p.origin, p.rule) ∈
      new.filterMap (filedUnder createdRule) := by
    rw [h.created]
    exact List.mem_map.mpr ⟨p, hp, rfl⟩
  obtain ⟨e, _, hfiled⟩ := List.mem_filterMap.mp hmem
  obtain ⟨rule, hrule, heq⟩ := Option.map_eq_some_iff.mp hfiled
  have hruleEq : rule = p.rule := congrArg Prod.snd heq
  rw [← hruleEq]
  exact createdRule_ne_zero hrule

/-! ## The submit loop -/

abbrev Judged := Pending × Bool

def armedRules (judged : List Judged) : List Handle :=
  (judged.filter fun v => v.2).map fun v => v.1.rule

def refusedRules (judged : List Judged) : List Handle :=
  (judged.filter fun v => !v.2).map fun v => v.1.rule

def Judged.slot (v : Judged) : Handle := if v.2 then v.1.rule else 0

theorem armedRules_concat (judged : List Judged) (p : Pending) (ok : Bool) :
    armedRules (judged ++ [(p, ok)]) =
      armedRules judged ++ if ok then [p.rule] else [] := by
  cases ok with
  | true => simp [armedRules]
  | false => simp [armedRules]

theorem refusedRules_concat (judged : List Judged) (p : Pending)
    (ok : Bool) :
    refusedRules (judged ++ [(p, ok)]) =
      refusedRules judged ++ if ok then [] else [p.rule] := by
  cases ok with
  | true => simp [refusedRules]
  | false => simp [refusedRules]

/-- After `m` iterations `judged` lists the first `m` created rules with
their verdicts. -/
structure Submitted (canClose : Bool) (s : Session) (old : List Handle)
    (made : List Pending) (m : ℕ) (st : SubmitState) (new : List Event)
    (judged : List Judged) : Prop where
  judges : judged.map Prod.fst = made.take m
  log : st.session.log = s.log ++ new
  client : st.session.clientHandle = s.clientHandle
  committed : st.committed = (armedRules judged).length
  refused : st.refusedAtSubmit = (refusedRules judged).length
  rejected : st.rejectedHandles = refusedRules judged
  rules : st.session.rules =
    old ++ (judged.map Judged.slot ++ (made.drop m).map Pending.rule)
  accepted : new.filterMap (filedUnder acceptedRule) =
    (judged.filter fun v => v.2).map fun v => (some v.1.origin, v.1.rule)
  closed : new.filterMap closedRule =
    if canClose then refusedRules judged else []
  calls : ∀ e ∈ new, (∃ p ∈ made, e.tag = some p.origin ∧
      e.call = .updateRules s.clientHandle [p.entry]) ∨
    ((∃ p ∈ made, e.tag = some p.origin) ∧ ∃ rule, e.call = .closeRule rule)
  cached : PatchCached s → PatchCached st.session

theorem Submitted.init (canClose : Bool) (s : Session) (old : List Handle)
    (made : List Pending)
    (hrules : s.rules = old ++ made.map Pending.rule) :
    Submitted canClose s old made 0 { session := s } [] [] where
  judges := rfl
  log := (List.append_nil _).symm
  client := rfl
  committed := rfl
  refused := rfl
  rejected := rfl
  rules := hrules
  accepted := rfl
  closed := by
    cases canClose with
    | true => rfl
    | false => rfl
  calls := by simp
  cached := id

theorem Submitted.length {canClose : Bool} {s : Session}
    {old : List Handle} {made : List Pending} {m : ℕ} {st : SubmitState}
    {new : List Event} {judged : List Judged}
    (h : Submitted canClose s old made m st new judged)
    (hm : m ≤ made.length) : judged.length = m := by
  have hlength := congrArg List.length h.judges
  rw [List.length_map, List.length_take] at hlength
  omega

theorem Submitted.slot_at {canClose : Bool} {s : Session}
    {old : List Handle} {made : List Pending} {m : ℕ} {st : SubmitState}
    {new : List Event} {judged : List Judged}
    (h : Submitted canClose s old made m st new judged)
    {p : Pending} (hp : made[m]? = some p) :
    st.session.rules =
        (old ++ judged.map Judged.slot) ++
          p.rule :: (made.drop (m + 1)).map Pending.rule ∧
      old.length + m = (old ++ judged.map Judged.slot).length := by
  obtain ⟨hm, hget⟩ := List.getElem?_eq_some_iff.mp hp
  constructor
  · rw [h.rules, List.drop_eq_getElem_cons hm, hget, List.map_cons,
      List.append_assoc]
  · rw [List.length_append, List.length_map, h.length (Nat.le_of_lt hm)]

theorem Submitted.slotToClose_eq {canClose : Bool} {s : Session}
    {old : List Handle} {made : List Pending} {m : ℕ} {st : SubmitState}
    {new : List Event} {judged : List Judged}
    (h : Submitted canClose s old made m st new judged)
    {p : Pending} (hp : made[m]? = some p) (hnonzero : p.rule ≠ 0) :
    slotToClose canClose (old.length + m) st.session.rules =
      if canClose then [p.rule] else [] := by
  obtain ⟨hslot, hposition⟩ := h.slot_at hp
  have hhandle : st.session.rules.getD (old.length + m) 0 = p.rule := by
    rw [hslot, hposition]
    simp
  unfold slotToClose
  rw [hhandle]
  cases canClose with
  | true => simp [hnonzero]
  | false => simp

theorem mem_submits {client : Handle} {p : Pending} {tried : List Event}
    (h : Submits client p tried) {e : Event} (he : e ∈ tried) :
    e.tag = some p.origin ∧ e.call = .updateRules client [p.entry] := by
  rcases h with rfl | ⟨reply, rfl⟩
  · simp at he
  · rw [List.mem_singleton] at he
    subst he
    exact ⟨rfl, rfl⟩

theorem Submitted.step {canClose : Bool} {s : Session} {old : List Handle}
    {made : List Pending} {m : ℕ} {st st' : SubmitState}
    {new tried closing : List Event} {judged : List Judged} {p : Pending}
    {ok : Bool}
    (h : Submitted canClose s old made m st new judged)
    (hp : made[m]? = some p) (hnonzero : p.rule ≠ 0)
    (hstep : SubmitStep canClose (old.length + m) p st st' tried closing
      ok) :
    Submitted canClose s old made (m + 1) st' (new ++ (tried ++ closing))
      (judged ++ [(p, ok)]) := by
  obtain ⟨hm, hget⟩ := List.getElem?_eq_some_iff.mp hp
  obtain ⟨hslot, hposition⟩ := h.slot_at hp
  have hmem : p ∈ made := hget ▸ List.getElem_mem hm
  have hcloses := h.slotToClose_eq hp hnonzero
  have hquietTried : tried.filterMap closedRule = [] := by
    rw [List.filterMap_eq_nil_iff]
    intro e he
    unfold closedRule
    rw [(mem_submits hstep.submits he).2]
  have hquietClosing : closing.filterMap (filedUnder acceptedRule) = [] := by
    rw [List.filterMap_eq_nil_iff]
    intro e he
    obtain ⟨_, rule, hcall⟩ := hstep.closes e he
    unfold filedUnder acceptedRule
    rw [hcall]
    rfl
  refine
    { judges := ?_
      log := by rw [hstep.log, h.log, List.append_assoc]
      client := hstep.client.trans h.client
      committed := ?_
      refused := ?_
      rejected := by
        rw [hstep.rejected, h.rejected, refusedRules_concat]
        rfl
      rules := ?_
      accepted := ?_
      closed := ?_
      calls := ?_
      cached := fun hs => hstep.cached (h.cached hs) }
  · rw [List.map_append, h.judges, List.take_succ_eq_append_getElem hm, hget]
    rfl
  · rw [hstep.committed, h.committed, armedRules_concat]
    cases ok with
    | true => simp
    | false => simp
  · rw [hstep.refused, h.refused, refusedRules_concat]
    cases ok with
    | true => simp
    | false => simp
  · rw [hstep.rules, List.map_append]
    cases ok with
    | true =>
        rw [if_pos rfl, hslot]
        simp [Judged.slot]
    | false =>
        rw [if_neg Bool.false_ne_true, hslot, hposition]
        simp [Judged.slot]
  · have htried : tried.filterMap (filedUnder acceptedRule) =
        (if ok then [p.rule] else []).map fun rule =>
          (some p.origin, rule) := by
      rw [filterMap_filedUnder fun e he =>
        (mem_submits hstep.submits he).1, hstep.accepted]
      rfl
    rw [List.filterMap_append, List.filterMap_append, h.accepted, htried,
      hquietClosing, List.filter_append, List.map_append]
    cases ok with
    | true => simp
    | false => simp
  · rw [List.filterMap_append, List.filterMap_append, h.closed, hquietTried,
      hstep.closed, hcloses, refusedRules_concat]
    cases ok with
    | true => simp
    | false =>
        cases canClose with
        | true => simp
        | false => simp
  · intro e he
    rcases List.mem_append.mp he with he | he
    · exact h.calls e he
    · rcases List.mem_append.mp he with he | he
      · obtain ⟨htag, hcall⟩ := mem_submits hstep.submits he
        rw [h.client] at hcall
        exact .inl ⟨p, hmem, htag, hcall⟩
      · obtain ⟨htag, hrule⟩ := hstep.closes e he
        exact .inr ⟨⟨p, hmem, htag⟩, hrule⟩

theorem require_run_fst (env : Env) (wanted : Export) (s : Session) :
    (s.run (require env wanted)).1 = env.available wanted := by
  unfold Session.run require
  dsimp only
  cases env.available wanted with
  | true => rfl
  | false => rfl

theorem require_run_log (env : Env) (wanted : Export) (s : Session) :
    (s.run (require env wanted)).2.log = s.log := by
  unfold Session.run Session.log require
  dsimp only
  cases env.available wanted with
  | true => rfl
  | false => rfl

theorem submitRules_submitted (env : Env) (old : List Handle)
    (made : List Pending) (s : Session)
    (hrules : s.rules = old ++ made.map Pending.rule)
    (hnonzero : ∀ p ∈ made, p.rule ≠ 0) :
    ∃ new judged, Submitted (env.available .closeRule)
      (s.run (require env .closeRule)).2 old made made.length
      (submitRules env old.length made s) new judged := by
  unfold submitRules
  dsimp only
  rw [require_run_fst]
  refine Loops.foldl_zipIdx_invariant
    (motive := fun m st => ∃ new judged,
      Submitted (env.available .closeRule)
        (s.run (require env .closeRule)).2 old made m st new judged)
    ⟨[], [], Submitted.init _ _ old made hrules⟩ ?_
  rintro m st p hp ⟨new, judged, hsubmitted⟩
  obtain ⟨tried, closing, ok, hstep⟩ :=
    submitEntry_step env (env.available .closeRule) old.length st p m
  exact ⟨_, _, hsubmitted.step hp
    (hnonzero p (List.mem_of_getElem? hp)) hstep⟩

/-! ## The ledger after the submit loop -/

theorem filter_slots (judged : List Judged)
    (hnonzero : ∀ v ∈ judged, v.1.rule ≠ 0) :
    (judged.map Judged.slot).filter (· != 0) = armedRules judged := by
  induction judged with
  | nil => rfl
  | cons v rest ih =>
      have hrest := ih fun w hw => hnonzero w (List.mem_cons_of_mem v hw)
      have hv : v.1.rule ≠ 0 := hnonzero v List.mem_cons_self
      unfold armedRules at hrest ⊢
      rw [List.map_cons, List.filter_cons, List.filter_cons, hrest]
      obtain ⟨p, ok⟩ := v
      cases ok with
      | true => simpa [Judged.slot] using hv
      | false => simp [Judged.slot]

theorem slots_of_none_refused (judged : List Judged)
    (h : refusedRules judged = []) :
    judged.map Judged.slot = armedRules judged := by
  have hall : ∀ v ∈ judged, v.2 = true := by
    intro v hv
    by_contra hfalse
    have hmem : v.1.rule ∈ refusedRules judged :=
      List.mem_map.mpr ⟨v, List.mem_filter.mpr ⟨hv, by simpa using hfalse⟩,
        rfl⟩
    rw [h] at hmem
    cases hmem
  unfold armedRules
  rw [List.filter_eq_self.mpr hall]
  apply List.map_congr_left
  intro v hv
  simp [Judged.slot, hall v hv]

theorem compactRules_rules {canClose : Bool} {s : Session}
    {old : List Handle} {made : List Pending} {st : SubmitState}
    {new : List Event} {judged : List Judged}
    (h : Submitted canClose s old made made.length st new judged)
    (hnonzero : ∀ p ∈ made, p.rule ≠ 0) :
    (compactRules old.length st).rules = old ++ armedRules judged := by
  have hrules : st.session.rules = old ++ judged.map Judged.slot := by
    rw [h.rules, List.drop_length, List.map_nil, List.append_nil]
  have hjudged : ∀ v ∈ judged, v.1.rule ≠ 0 := by
    intro v hv
    apply hnonzero
    rw [← List.take_length (l := made), ← h.judges]
    exact List.mem_map_of_mem hv
  unfold compactRules
  by_cases hrefused : st.refusedAtSubmit ≠ 0
  · rw [if_pos hrefused]
    dsimp only
    rw [Loops.compactFrom_eq _ (by simp [hrules]), hrules,
      List.take_left, List.drop_left, filter_slots judged hjudged]
  · rw [if_neg hrefused, hrules]
    rw [not_not, h.refused, List.length_eq_zero_iff] at hrefused
    rw [slots_of_none_refused judged hrefused]

/-! ## The whole install -/

/-- The verdict on a document of `n` rules, from the judged rules alone. -/
def verdictOf (n : ℕ) (judged : List Judged) : InstallStatus :=
  if armedRules judged = [] then .failed
  else if judged.length = n ∧ refusedRules judged = [] then .complete
  else .partial_

/-- An install of `n` rules that takes `s` to `t`: every created rule is
judged once, in document order, and the log, the ledger and the verdict say
the same about it. -/
structure InstallRun (canClose : Bool) (n : ℕ) (s t : Session)
    (status : InstallStatus) (new : List Event) (judged : List Judged) :
    Prop where
  log : t.log = s.log ++ new
  client : t.clientHandle = s.clientHandle
  sorted : (judged.map Prod.fst).Pairwise fun p q => p.origin < q.origin
  bounded : ∀ v ∈ judged, v.1.origin < n
  nonzero : ∀ v ∈ judged, v.1.rule ≠ 0
  created : new.filterMap (filedUnder createdRule) =
    judged.map fun v => (some v.1.origin, v.1.rule)
  accepted : new.filterMap (filedUnder acceptedRule) =
    (judged.filter fun v => v.2).map fun v => (some v.1.origin, v.1.rule)
  closed : new.filterMap closedRule =
    if canClose then refusedRules judged else []
  updates : ∀ e ∈ new, ∀ client entries,
    e.call = .updateRules client entries → ∃ entry, entries = [entry]
  rules : t.rules = s.rules ++ armedRules judged
  status : status = verdictOf n judged
  cached : PatchCached s → PatchCached t

theorem filterMap_opening {s t : Session} {opening : List Event}
    (h : PrologueStep s t opening) {α : Type} {read : Event → Option α}
    (hread : ∀ e, SparesRules e → read e = none) :
    opening.filterMap read = [] := by
  rw [List.filterMap_eq_nil_iff]
  intro e he
  have hspares : SparesRules e :=
    sparesRules_of_buildsObjects (h.builds e he).2
  exact hread e hspares

theorem SparesRules.filedUnder_created {e : Event} (h : SparesRules e) :
    filedUnder createdRule e = none := by
  rw [filedUnder, h.1]
  rfl

theorem SparesRules.filedUnder_accepted {e : Event} (h : SparesRules e) :
    filedUnder acceptedRule e = none := by
  rw [filedUnder, h.2.1]
  rfl

theorem InstallRun.of_none {canClose : Bool} {n : ℕ} {s t : Session}
    {new : List Event}
    (hlog : t.log = s.log ++ new) (hclient : t.clientHandle = s.clientHandle)
    (hrules : t.rules = s.rules)
    (hcreated : new.filterMap (filedUnder createdRule) = [])
    (hquiet : ∀ e ∈ new, acceptedRule e = none ∧ closedRule e = none ∧
      ∀ client entries, e.call ≠ .updateRules client entries)
    (hcached : PatchCached s → PatchCached t) :
    InstallRun canClose n s t .failed new [] where
  log := hlog
  client := hclient
  sorted := List.Pairwise.nil
  bounded := by simp
  nonzero := by simp
  created := hcreated
  accepted := by
    refine List.filterMap_eq_nil_iff.mpr fun e he => ?_
    rw [filedUnder, (hquiet e he).1]
    rfl
  closed := by
    have hnone : new.filterMap closedRule = [] :=
      List.filterMap_eq_nil_iff.mpr fun e he => (hquiet e he).2.1
    rw [hnone]
    cases canClose with
    | true => rfl
    | false => rfl
  updates := by
    intro e he client entries hcall
    exact absurd hcall ((hquiet e he).2.2 client entries)
  rules := hrules.trans (List.append_nil _).symm
  status := rfl
  cached := hcached

theorem installVerdict_eq {canClose : Bool} {s s' : Session}
    {old : List Handle} {k : ℕ} {built : BuildState} {made : List Pending}
    {st : SubmitState} {new new' : List Event} {judged : List Judged}
    (hbuilt : Built s k built new made)
    (hsubmitted : Submitted canClose s' old made made.length st new' judged) :
    installVerdict built st = verdictOf k judged := by
  have hlength : judged.length = made.length :=
    hsubmitted.length (Nat.le_refl _)
  unfold installVerdict verdictOf
  rw [hsubmitted.committed, hsubmitted.refused, hbuilt.allOk, hlength]
  by_cases hnone : armedRules judged = []
  · rw [if_pos hnone, if_pos (by rw [hnone]; rfl)]
  · rw [if_neg hnone, if_neg (by rwa [List.length_eq_zero_iff])]
    simp [List.length_eq_zero_iff]

theorem compactRules_log (rulesBefore : ℕ) (st : SubmitState) :
    (compactRules rulesBefore st).log = st.session.log := by
  unfold compactRules
  split
  · rfl
  · rfl

theorem compactRules_client (rulesBefore : ℕ) (st : SubmitState) :
    (compactRules rulesBefore st).clientHandle =
      st.session.clientHandle := by
  unfold compactRules
  split
  · rfl
  · rfl

theorem PatchCached.compactRules {rulesBefore : ℕ} {st : SubmitState}
    (h : PatchCached st.session) :
    PatchCached (compactRules rulesBefore st) := by
  unfold Esp.compactRules
  split
  · exact ⟨h.untried, h.once, h.applied⟩
  · exact h

theorem Submitted.filterMap_created {canClose : Bool} {s : Session}
    {old : List Handle} {made : List Pending} {m : ℕ} {st : SubmitState}
    {new : List Event} {judged : List Judged}
    (h : Submitted canClose s old made m st new judged) :
    new.filterMap (filedUnder createdRule) = [] := by
  rw [List.filterMap_eq_nil_iff]
  intro e he
  unfold filedUnder createdRule
  rcases h.calls e he with ⟨p, _, _, hcall⟩ | ⟨_, rule, hcall⟩
  · rw [hcall]
    rfl
  · rw [hcall]
    rfl

theorem InstallRun.of_phases (env : Env) {n : ℕ} {s t : Session}
    {built : BuildState} {opening building : List Event}
    {made : List Pending}
    (hopening : PrologueStep (s.atRule none) t opening)
    (hbuilt : Built t n built building made) :
    ∃ new judged, InstallRun (env.available .closeRule) n s
      ((compactRules t.rules.length (submitRules env t.rules.length made
        (built.session.atRule none))).atRule none)
      (installVerdict built (submitRules env t.rules.length made
        (built.session.atRule none))) new judged := by
  have hnonzero : ∀ p ∈ made, p.rule ≠ 0 :=
    fun p hp => hbuilt.rule_ne_zero hp
  obtain ⟨submitting, judged, hsubmitted⟩ :=
    submitRules_submitted env t.rules made (built.session.atRule none)
      hbuilt.rules hnonzero
  have hjudged : judged.map Prod.fst = made := by
    rw [hsubmitted.judges, List.take_length]
  have hmem (v : Judged) (hv : v ∈ judged) : v.1 ∈ made := by
    rw [← hjudged]
    exact List.mem_map_of_mem hv
  obtain ⟨_, hrequire⟩ := require_step env .closeRule
    (built.session.atRule none)
  refine ⟨opening ++ building ++ submitting, judged, ?_⟩
  refine
    { log := ?_
      client := ?_
      sorted := hjudged ▸ hbuilt.sorted
      bounded := fun v hv => hbuilt.bounded v.1 (hmem v hv)
      nonzero := fun v hv => hnonzero v.1 (hmem v hv)
      created := ?_
      accepted := ?_
      closed := ?_
      updates := ?_
      rules := ?_
      status := installVerdict_eq hbuilt hsubmitted
      cached := ?_ }
  · rw [atRule_log, compactRules_log, hsubmitted.log, require_run_log,
      atRule_log, hbuilt.log, hopening.log, atRule_log]
    simp only [List.append_assoc]
  · change (compactRules t.rules.length _).clientHandle = _
    rw [compactRules_client, hsubmitted.client, hrequire.client]
    exact hbuilt.client.trans hopening.client
  · rw [List.filterMap_append, List.filterMap_append, hbuilt.created,
      filterMap_opening hopening fun e he => he.filedUnder_created,
      hsubmitted.filterMap_created, List.nil_append, List.append_nil,
      ← hjudged, List.map_map]
    rfl
  · have hbuilding :
        building.filterMap (filedUnder acceptedRule) = [] := by
      refine List.filterMap_eq_nil_iff.mpr fun e he => ?_
      rw [filedUnder, (hbuilt.quiet e he).1]
      rfl
    rw [List.filterMap_append, List.filterMap_append, hbuilding,
      filterMap_opening hopening fun e he => he.filedUnder_accepted,
      hsubmitted.accepted]
    rfl
  · have hbuilding : building.filterMap closedRule = [] :=
      List.filterMap_eq_nil_iff.mpr fun e he => (hbuilt.quiet e he).2.1
    rw [List.filterMap_append, List.filterMap_append, hbuilding,
      filterMap_opening hopening fun e he => he.2.2.1, hsubmitted.closed]
    rfl
  · intro e he client entries hcall
    rcases List.mem_append.mp he with he | he
    · rcases List.mem_append.mp he with he | he
      · have hquiet :=
          (sparesRules_of_buildsObjects (hopening.builds e he).2).quiet
        exact absurd hcall (hquiet.2.2 client entries)
      · exact absurd hcall ((hbuilt.quiet e he).2.2 client entries)
    · rcases hsubmitted.calls e he with ⟨p, _, _, hp⟩ | ⟨_, rule, hrule⟩
      · rw [hcall] at hp
        cases hp
        exact ⟨p.entry, rfl⟩
      · rw [hcall] at hrule
        cases hrule
  · rw [atRule_rules, compactRules_rules hsubmitted hnonzero,
      hopening.rules]
    rfl
  · intro hs
    have hbuiltCached := hbuilt.cached
      (hopening.patchCached (hs.atRule none))
    exact (hsubmitted.cached
      (hrequire.patchCached (hbuiltCached.atRule none))).compactRules.atRule
      none

section Ends

variable {env : Env} {document : RuleDocument} {s : Session}

theorem installRules_of_refused
    (h : (installPrologue env document (s.atRule none)).1 = false) :
    installRules env document s =
      (.failed, (installPrologue env document (s.atRule none)).2) := by
  unfold installRules
  exact if_pos (by rw [h]; rfl)

theorem installRules_of_no_entries
    (h : (installPrologue env document (s.atRule none)).1 = true)
    (hempty : (buildRules env document
      (installPrologue env document (s.atRule none)).2).entries = []) :
    installRules env document s =
      (.failed, (buildRules env document
        (installPrologue env document (s.atRule none)).2).session.atRule
          none) := by
  unfold installRules
  refine (if_neg (by rw [h]; nofun)).trans ?_
  exact if_pos (List.isEmpty_iff.mpr hempty)

theorem installRules_of_entries
    (h : (installPrologue env document (s.atRule none)).1 = true)
    (hsome : (buildRules env document
      (installPrologue env document (s.atRule none)).2).entries ≠ []) :
    let prologue := installPrologue env document (s.atRule none)
    let built := buildRules env document prologue.2
    let submitted := submitRules env prologue.2.rules.length built.pending
      (built.session.atRule none)
    installRules env document s =
      (installVerdict built submitted,
        (compactRules prologue.2.rules.length submitted).atRule none) := by
  unfold installRules
  refine (if_neg (by rw [h]; nofun)).trans ?_
  exact if_neg (by rwa [List.isEmpty_iff])

end Ends

theorem installRules_cases (env : Env) (document : RuleDocument)
    (s : Session) :
    let prologue := installPrologue env document (s.atRule none)
    let built := buildRules env document prologue.2
    let submitted := submitRules env prologue.2.rules.length built.pending
      (built.session.atRule none)
    (prologue.1 = false ∧
      installRules env document s = (.failed, prologue.2)) ∨
    (prologue.1 = true ∧ built.entries = [] ∧
      installRules env document s = (.failed, built.session.atRule none)) ∨
    (prologue.1 = true ∧ built.entries ≠ [] ∧
      installRules env document s =
        (installVerdict built submitted,
          (compactRules prologue.2.rules.length submitted).atRule none)) := by
  intro prologue built submitted
  by_cases hprologue : prologue.1 = true
  · right
    by_cases hempty : built.entries = []
    · exact .inl ⟨hprologue, hempty,
        installRules_of_no_entries hprologue hempty⟩
    · exact .inr ⟨hprologue, hempty,
        installRules_of_entries hprologue hempty⟩
  · rw [Bool.not_eq_true] at hprologue
    exact .inl ⟨hprologue, installRules_of_refused hprologue⟩

theorem installRules_run (env : Env) (document : RuleDocument)
    (s : Session) :
    ∃ new judged, InstallRun (env.available .closeRule)
      document.rules.length s (installRules env document s).2
      (installRules env document s).1 new judged := by
  obtain ⟨⟨opening, hopening⟩, _⟩ :=
    installPrologue_step env document (s.atRule none)
  obtain ⟨building, made, hbuilt⟩ := buildRules_built env document
    (installPrologue env document (s.atRule none)).2
  have hcachedOpening : PatchCached s →
      PatchCached (installPrologue env document (s.atRule none)).2 :=
    fun hs => hopening.patchCached (hs.atRule none)
  have hcreatedOpening : opening.filterMap (filedUnder createdRule) = [] :=
    filterMap_opening hopening fun e he => he.filedUnder_created
  have hquietOpening : ∀ e ∈ opening, acceptedRule e = none ∧
      closedRule e = none ∧
      ∀ client entries, e.call ≠ .updateRules client entries :=
    fun e he =>
      (sparesRules_of_buildsObjects (hopening.builds e he).2).quiet
  rcases installRules_cases env document s with
    ⟨_, heq⟩ | ⟨_, hempty, heq⟩ | ⟨_, _, heq⟩
  · rw [heq]
    exact ⟨opening, [], InstallRun.of_none hopening.log hopening.client
      hopening.rules hcreatedOpening hquietOpening hcachedOpening⟩
  · rw [heq]
    have hmade : made = [] := by
      rw [hbuilt.entries] at hempty
      exact List.map_eq_nil_iff.mp hempty
    subst hmade
    refine ⟨opening ++ building, [], InstallRun.of_none ?_ ?_ ?_ ?_ ?_ ?_⟩
    · rw [atRule_log, hbuilt.log, hopening.log, List.append_assoc]
      rfl
    · exact hbuilt.client.trans hopening.client
    · rw [atRule_rules, hbuilt.rules, hopening.rules, List.map_nil,
        List.append_nil]
      rfl
    · rw [List.filterMap_append, hcreatedOpening, hbuilt.created]
      rfl
    · intro e he
      rcases List.mem_append.mp he with he | he
      · exact hquietOpening e he
      · exact hbuilt.quiet e he
    · exact fun hs => (hbuilt.cached (hcachedOpening hs)).atRule none
  · rw [heq, hbuilt.pending]
    exact InstallRun.of_phases env hopening hbuilt

end Esptool.Esp
