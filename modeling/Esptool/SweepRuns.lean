import Esptool.EspExercise

/-!
# Runs of the sweep

The sweep in the own process is a loop over the table.  What one turn does is
one of two things: the export is passed over, or it is called once.  Of the
record that the calls share, the client's id, the count and the two handles are
set again for each call; everything else, the slot `type` and the buffers, a
call finds as the call before left it.
-/

namespace Esptool.Esp

open Model Interaction

/-- The exports that the sweep calls. -/
def sweepable (descriptor : ExportDescriptor) : Bool :=
  !isExcluded descriptor.name && descriptor.address != 0 &&
    descriptor.name != kSkippedExport

/-- The outcome tells the truth about its export. -/
structure Reports (descriptor : ExportDescriptor) (outcome : ExportOutcome) :
    Prop where
  name : outcome.name = descriptor.name
  arity : outcome.arity = descriptor.arity
  resolved : outcome.resolved = (descriptor.address != 0)
  invoked : outcome.invoked = sweepable descriptor
  passed : outcome.invoked = false →
    outcome.result = 0 ∧ outcome.detail ≠ ""

/-- The argument vector depends on the export alone, and the id, the count
and the handles that it points at are set for this call. -/
structure Prepared (clientId : Guid) (call : RawCall) : Prop where
  arguments : call.arguments = buildArguments call.descriptor
  guid : call.scratch.guid = clientId
  count : call.scratch.count = 0
  handle : call.scratch.handle = 0
  handle2 : call.scratch.handle2 = 0

/-- What a call finds of the record as an earlier call left it. -/
structure HandedOn (left : Scratch) (call : RawCall) : Prop where
  type : call.scratch.type = left.type
  properties : call.scratch.properties = left.properties
  context : call.scratch.context = left.context
  blob : call.scratch.blob = left.blob
  widePath : call.scratch.widePath = left.widePath
  wideName : call.scratch.wideName = left.wideName
  registerDesc : call.descriptor.name ≠ "EspRegisterClient" →
    call.scratch.registerDesc = left.registerDesc
  ruleDesc : call.descriptor.name ≠ "EspCreateRule" →
    call.scratch.ruleDesc = left.ruleDesc

def stepsOf (calls : List (RawCall × RawReply)) : List StepResult :=
  calls.map fun call =>
    let result := toResult call.2.value
    ⟨"call:" ++ call.1.descriptor.name, result, succeeded result⟩

def Session.withSteps (s : Session) (steps : List StepResult) : Session :=
  { s with
    journal := { s.journal with
      notes := { s.journal.notes with
        steps := s.journal.notes.steps ++ steps } } }

theorem Session.withSteps_nil (s : Session) : s.withSteps [] = s := by
  rw [withSteps, List.append_nil]

theorem Session.withSteps_withSteps (s : Session)
    (first second : List StepResult) :
    (s.withSteps first).withSteps second = s.withSteps (first ++ second) := by
  simp only [withSteps, List.append_assoc]

theorem resetScratch_prepared (descriptor : ExportDescriptor)
    (clientId : Guid) (scratch : Scratch) :
    Prepared clientId ⟨descriptor, buildArguments descriptor,
      resetScratch descriptor clientId scratch⟩ := by
  unfold resetScratch
  split
  · exact ⟨rfl, rfl, rfl, rfl, rfl⟩
  split
  · exact ⟨rfl, rfl, rfl, rfl, rfl⟩
  · exact ⟨rfl, rfl, rfl, rfl, rfl⟩

theorem resetScratch_handedOn (descriptor : ExportDescriptor)
    (clientId : Guid) (scratch : Scratch) :
    HandedOn scratch ⟨descriptor, buildArguments descriptor,
      resetScratch descriptor clientId scratch⟩ := by
  unfold resetScratch
  split
  · rename_i hregister
    exact ⟨rfl, rfl, rfl, rfl, rfl, rfl, fun h => absurd hregister h,
      fun _ => rfl⟩
  split
  · rename_i hrule
    exact ⟨rfl, rfl, rfl, rfl, rfl, rfl, fun _ => rfl,
      fun h => absurd hrule h⟩
  · exact ⟨rfl, rfl, rfl, rfl, rfl, rfl, fun _ => rfl, fun _ => rfl⟩

/-! ## One turn -/

section

variable {host : ExerciseHost} {st : Sweep} {descriptor : ExportDescriptor}

/-- What one turn of the loop does. -/
inductive SweepStep (st : Sweep) (descriptor : ExportDescriptor) :
    Sweep → Prop
  | passed {outcome : ExportOutcome} (hpassed : sweepable descriptor = false)
      (hreports : Reports descriptor outcome) :
      SweepStep st descriptor (st.push outcome)
  | called {call : RawCall} {reply : RawReply} {outcome : ExportOutcome}
      (hcalled : sweepable descriptor = true)
      (hdescriptor : call.descriptor = descriptor)
      (hprepared : Prepared st.session.clientId call)
      (hhanded : HandedOn st.scratch call)
      (hreports : Reports descriptor outcome)
      (hresult : outcome.result = toResult reply.value) :
      SweepStep st descriptor
        { session := st.session.withSteps (stepsOf [(call, reply)])
          scratch := reply.scratch
          calls := st.calls ++ [(call, reply)]
          outcomes := st.outcomes ++ [outcome] }

theorem exerciseOne_step (host : ExerciseHost) (st : Sweep)
    (descriptor : ExportDescriptor) :
    SweepStep st descriptor (exerciseOne host st descriptor) := by
  rw [exerciseOne, seedOutcome]
  by_cases hexcluded : isExcluded descriptor.name = true
  · have hnot : sweepable descriptor = false := by
      simp [sweepable, hexcluded]
    have hdetail : "excluded from CallRaw" ≠ "" := by decide
    rw [if_pos hexcluded]
    exact .passed hnot
      ⟨rfl, rfl, rfl, hnot.symm, fun _ => ⟨rfl, hdetail⟩⟩
  rw [if_neg hexcluded]
  by_cases haddress : descriptor.address = 0
  · have hnot : sweepable descriptor = false := by
      simp [sweepable, haddress]
    have hdetail : "not exported by the loaded library" ≠ "" := by decide
    rw [if_pos haddress]
    exact .passed hnot
      ⟨rfl, rfl, rfl, hnot.symm, fun _ => ⟨rfl, hdetail⟩⟩
  rw [if_neg haddress]
  dsimp only
  rw [if_neg (by decide)]
  by_cases hskipped : descriptor.name = kSkippedExport
  · have hnot : sweepable descriptor = false := by
      simp [sweepable, hskipped]
    have hdetail :
        "skipped: unarmed Allocate AVs in Free/teardown" ≠ "" := by decide
    rw [if_pos hskipped]
    exact .passed hnot
      ⟨rfl, rfl, rfl, hnot.symm, fun _ => ⟨rfl, hdetail⟩⟩
  · have hyes : sweepable descriptor = true := by
      simp [sweepable, hexcluded, haddress, hskipped]
    rw [if_neg hskipped, callRaw, invoke]
    dsimp only
    rw [if_neg haddress]
    exact .called hyes rfl (resetScratch_prepared _ _ _)
      (resetScratch_handedOn _ _ _)
      ⟨rfl, rfl, rfl, hyes.symm, nofun⟩ rfl

end

/-! ## The whole loop -/

/-- What the loop over `descriptors` did between two states. -/
structure Swept (st : Sweep) (descriptors : List ExportDescriptor)
    (st' : Sweep) (reported : List ExportOutcome)
    (made : List (RawCall × RawReply)) : Prop where
  outcomes : st'.outcomes = st.outcomes ++ reported
  calls : st'.calls = st.calls ++ made
  reports : List.Forall₂ Reports descriptors reported
  called : made.map (fun call => call.1.descriptor) =
    descriptors.filter sweepable
  results : (reported.filter ExportOutcome.invoked).map
      ExportOutcome.result =
    made.map fun call => toResult call.2.value
  prepared : ∀ call ∈ made, Prepared st.session.clientId call.1
  handedOn : made.IsChain fun earlier later =>
    HandedOn earlier.2.scratch later.1
  /-- The record is as the last call left it. -/
  left : ∀ call ∈ made.getLast?, st'.scratch = call.2.scratch
  session : st'.session = st.session.withSteps (stepsOf made)

theorem Swept.refl (st : Sweep) : Swept st [] st [] [] := by
  refine ⟨(List.append_nil _).symm, (List.append_nil _).symm, .nil, rfl, rfl,
    fun call hcall => ?_, .nil, fun call hcall => ?_,
    st.session.withSteps_nil.symm⟩
  · cases hcall
  · cases hcall

theorem Swept.concat {st mid st' : Sweep} {descriptors : List ExportDescriptor}
    {descriptor : ExportDescriptor} {reported : List ExportOutcome}
    {made : List (RawCall × RawReply)}
    (h : Swept st descriptors mid reported made)
    (hstep : SweepStep mid descriptor st') :
    ∃ reported' made',
      Swept st (descriptors ++ [descriptor]) st' reported' made' := by
  have hclient : mid.session.clientId = st.session.clientId := by
    rw [h.session]
    rfl
  cases hstep with
  | @passed outcome hpassed hreports =>
      have hinvoked : outcome.invoked = false :=
        hreports.invoked.trans hpassed
      refine ⟨reported ++ [outcome], made, ?_, h.calls, ?_, ?_, ?_,
        h.prepared, h.handedOn, h.left, h.session⟩
      · rw [Sweep.push, h.outcomes, List.append_assoc]
      · exact List.rel_append h.reports (.cons hreports .nil)
      · rw [List.filter_append, List.filter_cons_of_neg (by simp [hpassed]),
          List.filter_nil, List.append_nil]
        exact h.called
      · rw [List.filter_append, List.filter_cons_of_neg (by simp [hinvoked]),
          List.filter_nil, List.append_nil]
        exact h.results
  | @called call reply outcome hcalled hdescriptor hprepared hhanded hreports
      hresult =>
      have hinvoked : outcome.invoked = true :=
        hreports.invoked.trans hcalled
      refine ⟨reported ++ [outcome], made ++ [(call, reply)], ?_, ?_, ?_,
        ?_, ?_, ?_, ?_, ?_, ?_⟩
      · rw [← List.append_assoc, ← h.outcomes]
      · rw [← List.append_assoc, ← h.calls]
      · exact List.rel_append h.reports (.cons hreports .nil)
      · rw [List.filter_append, List.filter_cons_of_pos hcalled,
          List.filter_nil, List.map_append, h.called, List.map_singleton,
          hdescriptor]
      · rw [List.filter_append, List.filter_cons_of_pos hinvoked,
          List.filter_nil, List.map_append, List.map_append, h.results,
          List.map_singleton, List.map_singleton, hresult]
      · intro other hother
        rcases List.mem_append.mp hother with hother | hother
        · exact h.prepared other hother
        · rw [List.mem_singleton.mp hother, ← hclient]
          exact hprepared
      · -- the record of this call is the one the last call left
        rw [List.isChain_append]
        refine ⟨h.handedOn, .singleton _, ?_⟩
        intro last hlast next hnext
        have hsame : mid.scratch = last.2.scratch := h.left last hlast
        rw [List.head?_cons, Option.mem_some_iff] at hnext
        subst hnext
        rw [← hsame]
        exact hhanded
      · intro last hlast
        rw [List.getLast?_concat, Option.mem_some_iff] at hlast
        subst hlast
        rfl
      · dsimp only
        rw [h.session, Session.withSteps_withSteps, stepsOf, stepsOf,
          stepsOf, List.map_append]

theorem foldl_exerciseOne (host : ExerciseHost)
    (descriptors : List ExportDescriptor) (st : Sweep) :
    ∃ reported made, Swept st descriptors
      (descriptors.foldl (exerciseOne host) st) reported made := by
  induction descriptors using List.reverseRecOn with
  | nil => exact ⟨[], [], .refl st⟩
  | append_singleton descriptors descriptor ih =>
      obtain ⟨reported, made, h⟩ := ih
      rw [List.foldl_concat]
      exact h.concat (exerciseOne_step host _ descriptor)

/-! ## The sweep in the own process -/

/-- Whether an argument vector suits an export does not depend on where the
export was resolved to. -/
theorem SuitsExport.of_entry {descriptor other : ExportDescriptor}
    (hentry : EspApi.entry descriptor = EspApi.entry other)
    (h : SuitsExport other) : SuitsExport descriptor := by
  obtain ⟨name, arity, address⟩ := descriptor
  obtain ⟨name', arity', address'⟩ := other
  obtain ⟨hname, harity⟩ := Prod.mk.inj hentry
  subst hname harity
  exact ⟨h.slots, h.arity, h.releases, h.creates, h.claimed⟩

theorem EspApi.Linked.suits {api : EspApi} (h : api.Linked) :
    ∀ descriptor ∈ api.exports, SuitsExport descriptor := by
  intro descriptor hmem
  have hlisted : EspApi.entry descriptor ∈ buildCatalog.map EspApi.entry := by
    rw [← h.table]
    exact List.mem_map_of_mem hmem
  obtain ⟨other, hother, hentry⟩ := List.mem_map.mp hlisted
  exact (buildCatalog_suits other hother).of_entry hentry.symm

theorem EspApi.Linked.names_nodup {api : EspApi} (h : api.Linked) :
    (api.exports.map ExportDescriptor.name).Nodup := by
  rw [h.names]
  exact buildCatalog_names_nodup

/-- A sweep over the table of `api` that ended in `st`. -/
structure SweepsTable (api : EspApi) (s : Session) (st : Sweep) : Prop where
  /-- Every export has its outcome, in the order of the table. -/
  reports : List.Forall₂ Reports api.exports st.outcomes
  /-- The calls are those on the exports to be called, in that order. -/
  called : st.calls.map (fun call => call.1.descriptor) =
    api.exports.filter sweepable
  /-- No export is called twice. -/
  once : (st.calls.map fun call => call.1.descriptor.name).Nodup
  /-- What an outcome reports is what its call returned. -/
  results : (st.outcomes.filter ExportOutcome.invoked).map
      ExportOutcome.result =
    st.calls.map fun call => toResult call.2.value
  /-- The id, the count and the handles are set for each call, and none gives
  back anything but null. -/
  arguments : ∀ call ∈ st.calls,
    Prepared s.clientId call.1 ∧ SuitsExport call.1.descriptor
  /-- The rest of the record, `type` included, is passed from call to
  call. -/
  handedOn : st.calls.IsChain fun earlier later =>
    HandedOn earlier.2.scratch later.1
  /-- The session that was prepared keeps its handles. -/
  session : st.session = s.withSteps (stepsOf st.calls)

theorem sweepsTable (host : ExerciseHost) (s : Session) {api : EspApi}
    (hlinked : api.Linked) :
    SweepsTable api (prepareSession host.env s)
      (runInProcess host api s) := by
  obtain ⟨reported, made, h⟩ := foldl_exerciseOne host api.exports
    { session := prepareSession host.env s
      scratch := initialScratch host.windowsDirectory }
  change Swept _ _ (runInProcess host api s) reported made at h
  have houtcomes : (runInProcess host api s).outcomes = reported :=
    h.outcomes.trans (List.nil_append reported)
  have hcalls : (runInProcess host api s).calls = made :=
    h.calls.trans (List.nil_append made)
  have hcalled : made.map (fun call => call.1.descriptor.name) =
      (api.exports.filter sweepable).map ExportDescriptor.name := by
    rw [← h.called, List.map_map]
    rfl
  rw [← houtcomes, ← hcalls] at h
  refine ⟨h.reports, h.called, ?_, h.results, ?_, h.handedOn, h.session⟩
  · rw [hcalls, hcalled]
    exact hlinked.names_nodup.sublist (List.filter_sublist.map _)
  · intro call hcall
    have hlisted : call.1.descriptor ∈ api.exports.filter sweepable := by
      rw [← h.called]
      exact List.mem_map_of_mem (f := fun call => call.1.descriptor) hcall
    exact ⟨h.prepared call hcall,
      hlinked.suits _ (List.mem_of_mem_filter hlisted)⟩

theorem runInProcess_sweepsTable (host : ExerciseHost) (linker : Linker)
    (ops : List ApiOp) (s : Session) :
    SweepsTable (runApi linker ops) (prepareSession host.env s)
      (runInProcess host (runApi linker ops) s) :=
  sweepsTable host s (runApi_invariant linker ops).1

end Esptool.Esp
