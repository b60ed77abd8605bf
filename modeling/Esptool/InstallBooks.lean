import Esptool.CollectionExercise
import Esptool.FilterOwnership
import Esptool.HandleBooks
import Esptool.SubruleChains

/-!
# The handles of an install

An install hands out filters, rules and collections, and keeps the books of
all three: a rule that is refused at its submission is closed at once and
leaves the ledger with it.  The handles of every other kind are left alone.
-/

namespace Esptool.Esp

open Model Interaction Custody

/-- The kinds that an install hands out. -/
def Owned.installed : Owned → Bool
  | filter => true
  | rule => true
  | collection => true
  | _ => false

section

variable {kind : Owned} {env : Env} {s t u : Session}

/-! ## The other kinds -/

theorem Owned.ignores_of_installs {call : Call}
    (h : call.installs = true) (hkind : kind.installed = false) :
    kind.Ignores call := by
  cases call <;> first
    | exact Owned.ignores_of_neutral rfl kind
    | (cases h; done)
    | (cases kind <;> first | exact ⟨rfl, rfl⟩ | cases hkind)

theorem Installs.untouched (h : Installs s t)
    (hkind : kind.installed = false) : Untouched kind s t := by
  refine ⟨h.calls.mono fun _ hcall =>
    Owned.ignores_of_installs hcall hkind, ?_⟩
  rw [h.frame]
  cases kind with
  | filter => cases hkind
  | rule => cases hkind
  | collection => cases hkind
  | _ => rfl

/-! ## Rules -/

theorem returned_rule (e : Event) :
    Owned.rule.returned e = createdRule e := by
  unfold createdRule Owned.returned
  cases e.call <;> simp only [Owned.opens, false_and, if_false, true_and,
    reduceCtorEq, failed_eq_not_succeeded]
  cases succeeded e.reply.result <;> by_cases hout : e.reply.out = 0 <;>
    simp [hout]

theorem filterMap_closes_rule (new : List Event) :
    new.filterMap Owned.rule.custody.closes =
      (new.filterMap closedRule).filter (· != 0) := by
  rw [List.filter_filterMap]
  refine List.filterMap_congr fun e _ => ?_
  change Owned.rule.closedBy e.call = _
  unfold closedRule
  cases e.call <;>
    simp [Owned.closedBy, Owned.closedBy.nonNull, Option.filter]

theorem filter_handles {α : Type} {handle : α → Handle} {as : List α}
    (hnonzero : ∀ a ∈ as, handle a ≠ 0) :
    (as.map handle).filter (· != 0) = as.map handle := by
  rw [List.filter_eq_self]
  intro value hvalue
  obtain ⟨a, ha, rfl⟩ := List.mem_map.mp hvalue
  simpa using hnonzero a ha

/-- The judged rules are those that were armed and those that were not. -/
theorem judged_rules (judged : List Judged) :
    (↑(armedRules judged) + ↑(refusedRules judged) : Multiset Handle) =
      ↑((judged.map Prod.fst).map Pending.rule) := by
  have hsplit := List.filter_append_perm (fun v : Judged => v.2) judged
  have hrules := hsplit.map fun v : Judged => v.1.rule
  rw [List.map_append] at hrules
  rw [Multiset.coe_add, List.map_map]
  exact Multiset.coe_eq_coe.mpr hrules

section

variable {base new : List Event} {others : Multiset Handle}

theorem PrologueStep.holds_rules (h : PrologueStep s t new)
    (hholds : Owned.rule.custody.Holds base s.log
      (Owned.rule.held s + others)) :
    Owned.rule.custody.Holds base t.log (Owned.rule.held t + others) := by
  have hquiet : ∀ e ∈ new, SparesRules e :=
    fun e he => sparesRules_of_buildsObjects (h.builds e he).2
  have hheld : Owned.rule.held t = Owned.rule.held s :=
    Owned.held_of_kept h.rules
  rw [hheld, h.log]
  refine hholds.append_ignored ?_ ?_
  · refine List.filterMap_eq_nil_iff.mpr fun e he => ?_
    exact (returned_rule e).trans (hquiet e he).1
  · rw [filterMap_closes_rule, List.filterMap_eq_nil_iff.mpr
      fun e he => (hquiet e he).2.2.1]
    rfl

theorem Built.holds_rules {k : ℕ} {st : BuildState} {made : List Pending}
    (h : Built s k st new made)
    (hholds : Owned.rule.custody.Holds base s.log
      (Owned.rule.held s + others)) :
    Owned.rule.custody.Holds base st.session.log
      (Owned.rule.held st.session + others) := by
  have hcloses : ∀ e ∈ new, Owned.rule.custody.closes e = none := by
    refine List.filterMap_eq_nil_iff.mp ?_
    rw [filterMap_closes_rule, List.filterMap_eq_nil_iff.mpr
      fun e he => (h.quiet e he).2.1]
    rfl
  have hopens : new.filterMap Owned.rule.custody.opens =
      made.map Pending.rule := by
    rw [← h.createdRules]
    exact List.filterMap_congr fun e _ => returned_rule e
  have hheld : Owned.rule.held st.session =
      ↑(made.map Pending.rule) + Owned.rule.held s := by
    change (↑(st.session.rules.filter (· != 0)) : Multiset Handle) = _
    rw [h.rules, List.filter_append,
      filter_handles fun p hp => h.rule_ne_zero hp, ← Multiset.coe_add,
      add_comm]
    rfl
  have hafter := hholds.append_opens hcloses
  rw [hopens, ← add_assoc, ← hheld] at hafter
  rwa [h.log]

/-- The refused rules are taken back, and the ledger drops them. -/
theorem Submitted.holds_rules {old : List Handle} {made : List Pending}
    {st : SubmitState} {judged : List Judged}
    (h : Submitted true s old made made.length st new judged)
    (hnonzero : ∀ p ∈ made, p.rule ≠ 0)
    (hrules : s.rules = old ++ made.map Pending.rule)
    (hholds : Owned.rule.custody.Holds base s.log
      (Owned.rule.held s + others)) :
    Owned.rule.custody.Holds base (compactRules old.length st).log
      (Owned.rule.held (compactRules old.length st) + others) := by
  have hjudged : judged.map Prod.fst = made := by
    rw [h.judges, List.take_length]
  have hjudgedNonzero : ∀ v ∈ judged, v.1.rule ≠ 0 := by
    intro v hv
    refine hnonzero v.1 ?_
    rw [← hjudged]
    exact List.mem_map_of_mem hv
  have hrefused : new.filterMap Owned.rule.custody.closes =
      refusedRules judged := by
    rw [filterMap_closes_rule, h.closed, if_pos rfl]
    exact filter_handles fun v hv =>
      hjudgedNonzero v (List.mem_filter.mp hv).1
  have harmed : (armedRules judged).filter (· != 0) = armedRules judged :=
    filter_handles fun v hv => hjudgedNonzero v (List.mem_filter.mp hv).1
  have hopens : new.filterMap Owned.rule.custody.opens = [] := by
    have hcreated := h.filterMap_created
    rw [List.filterMap_eq_nil_iff] at hcreated ⊢
    intro e he
    have hfiled := hcreated e he
    rw [filedUnder, Option.map_eq_none_iff] at hfiled
    exact (returned_rule e).trans hfiled
  have hbefore : Owned.rule.held s =
      ↑(refusedRules judged) +
        (↑(old.filter (· != 0)) + ↑(armedRules judged)) := by
    change (↑(s.rules.filter (· != 0)) : Multiset Handle) = _
    rw [hrules, List.filter_append, filter_handles hnonzero, ← hjudged,
      ← Multiset.coe_add, ← judged_rules]
    abel
  have hafter : Owned.rule.held (compactRules old.length st) =
      ↑(old.filter (· != 0)) + ↑(armedRules judged) := by
    change (↑((compactRules old.length st).rules.filter (· != 0)) :
      Multiset Handle) = _
    rw [compactRules_rules h hnonzero, List.filter_append, harmed,
      Multiset.coe_add]
  rw [hafter, compactRules_log, h.log]
  refine Holds.append_closes ?_ hopens
  rw [hrefused, ← add_assoc, ← hbefore]
  exact hholds

end

theorem installRules_keepsRules (document : RuleDocument)
    (hclose : env.available .closeRule = true) (s : Session) :
    KeepsHeld .rule s (installRules env document s).2 := by
  have hlog : s.log <+: (installRules env document s).2.log :=
    (installRules_installs env document s).calls.log_extends
  obtain ⟨⟨opening, hopening⟩, -⟩ :=
    installPrologue_step env document (s.atRule none)
  obtain ⟨building, made, hbuilt⟩ := buildRules_built env document
    (installPrologue env document (s.atRule none)).2
  refine ⟨hlog, fun base others hholds => ?_⟩
  have hopened := hopening.holds_rules (s := s.atRule none) hholds
  have hmade := hbuilt.holds_rules hopened
  rcases installRules_cases env document s with
    ⟨-, heq⟩ | ⟨-, -, heq⟩ | ⟨-, -, heq⟩
  · rw [heq]
    exact hopened
  · rw [heq]
    exact hmade
  · rw [heq, hbuilt.pending]
    have hnonzero : ∀ p ∈ made, p.rule ≠ 0 :=
      fun p hp => hbuilt.rule_ne_zero hp
    obtain ⟨submitting, judged, hsubmitted⟩ := submitRules_submitted env
      (installPrologue env document (s.atRule none)).2.rules made
      ((buildRules env document
        (installPrologue env document (s.atRule none)).2).session.atRule none)
      hbuilt.rules hnonzero
    rw [hclose] at hsubmitted
    have hlookup : Skips .rule (require env .closeRule) :=
      require_skips .closeRule
    have hresolved := hlookup.untouched ((buildRules env document
        (installPrologue env document (s.atRule none)).2).session.atRule none)
    exact hsubmitted.holds_rules hnonzero hbuilt.rules
      (hresolved.keepsHeld.holds base others hmade)

/-! ## The whole install -/

/-- An install keeps the books of every kind.  The combinators of its filters
have to be there: without one of them the operands are lost. -/
theorem installRules_keepsBooks (document : RuleDocument)
    (hclose : env.available kind.closer = true)
    (hresolved : kind = .filter → ∀ spec ∈ document.rules,
      combinatorsResolved env spec.filter = true) (s : Session) :
    KeepsBooks kind s (installRules env document s).2 := by
  have hinstalls := installRules_installs env document s
  have hlog : s.log <+: (installRules env document s).2.log :=
    hinstalls.calls.log_extends
  cases kind with
  | rule => exact (installRules_keepsRules document hclose s).keepsBooks
  | filter =>
      refine ⟨hlog, fun _ hbalanced => ?_⟩
      have hafter := (filterSteps_keepsCustody hclose
        (hresolved rfl)).installRules s []
      rw [filterCustody_eq] at hafter
      exact holds_nil_iff.mp (hafter (holds_nil_iff.mpr hbalanced))
  | collection =>
      refine ⟨hlog, fun _ hbalanced => ?_⟩
      have hfiles := installRules_files env document s
      have hbefore : Owned.collection.custody.Holds [] s.journal.log
          (heldCollections s.journal + 0) := by
        rw [add_zero]
        exact holds_nil_iff.mpr hbalanced
      have hafter := hfiles.holds hbefore
      rw [add_zero] at hafter
      exact holds_nil_iff.mp hafter
  | _ => exact (hinstalls.untouched rfl).keepsBooks

end

end Esptool.Esp
