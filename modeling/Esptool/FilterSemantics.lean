import Esptool.FilterBuild
import Esptool.Lib.Expression

/-!
# The meaning of a filter tree

A filter tree stands for an expression: every binary combinator is cut to its
first two children and every negation is applied to its one child.  Compiling
the tree evaluates that expression bottom up in the algebra of the constructor
exports and makes exactly the constructor calls of that evaluation; it fails
exactly when a node that survives the cut fails.
-/

namespace Esptool.Esp

open Model Interaction Expression

inductive Combinator
  | and
  | or
  | xor
deriving DecidableEq, Repr

def Combinator.export : Combinator → Export
  | .and => .createAndFilter
  | .or => .createOrFilter
  | .xor => .createXorFilter

/-- The expression a tree stands for, when every node that is read has the
right number of children. -/
def cut : FilterNode → Option (Expr FilterNode Combinator)
  | ⟨.leaf, type, comparand, operand, propertyId, propertyName, opName,
      value, collectionName, children⟩ =>
      some (.leaf ⟨.leaf, type, comparand, operand, propertyId, propertyName,
        opName, value, collectionName, children⟩)
  | ⟨.not, _, _, _, _, _, _, _, _, [operand]⟩ =>
      (cut operand).map .unary
  | ⟨.and, _, _, _, _, _, _, _, _, first :: second :: _⟩ =>
      (cut first).bind fun l => (cut second).map fun r => .binary .and l r
  | ⟨.or, _, _, _, _, _, _, _, _, first :: second :: _⟩ =>
      (cut first).bind fun l => (cut second).map fun r => .binary .or l r
  | ⟨.xor, _, _, _, _, _, _, _, _, first :: second :: _⟩ =>
      (cut first).bind fun l => (cut second).map fun r => .binary .xor l r
  | _ => none

def combinatorOf : FilterKind → Combinator
  | .and => .and
  | .or => .or
  | _ => .xor

theorem cut_leaf {node : FilterNode} (hkind : node.kind = .leaf) :
    cut node = some (.leaf node) := by
  cases node
  cases hkind
  rfl

theorem cut_not {node operand : FilterNode} (hkind : node.kind = .not)
    (hchildren : node.children = [operand]) :
    cut node = (cut operand).map .unary := by
  cases node
  cases hkind
  cases hchildren
  rfl

theorem cut_notArity {node : FilterNode} (hkind : node.kind = .not)
    (harity : node.children.length ≠ 1) : cut node = none := by
  obtain ⟨kind, _, _, _, _, _, _, _, _, children⟩ := node
  cases hkind
  match children, harity with
  | [], _ => rfl
  | _ :: _ :: _, _ => rfl

theorem cut_binary {node first second : FilterNode} {rest : List FilterNode}
    (hkind : node.kind.isBinary = true)
    (hchildren : node.children = first :: second :: rest) :
    cut node = (cut first).bind fun l => (cut second).map fun r =>
      .binary (combinatorOf node.kind) l r := by
  obtain ⟨kind, _, _, _, _, _, _, _, _, children⟩ := node
  cases hchildren
  cases kind with
  | leaf => cases hkind
  | not => cases hkind
  | and => rfl
  | or => rfl
  | xor => rfl

theorem cut_binaryArity {node : FilterNode}
    (hkind : node.kind.isBinary = true)
    (harity : node.children.length < 2) : cut node = none := by
  obtain ⟨kind, _, _, _, _, _, _, _, _, children⟩ := node
  match children, harity with
  | [], _ =>
      cases kind <;> simp [FilterKind.isBinary] at hkind <;>
        rfl
  | [_], _ =>
      cases kind <;> simp [FilterKind.isBinary] at hkind <;>
        rfl

theorem combinator_export {kind : FilterKind}
    (hkind : kind.isBinary = true) :
    (combinatorOf kind).export = binaryFilterExport kind := by
  cases kind with
  | leaf => cases hkind
  | not => cases hkind
  | and => rfl
  | or => rfl
  | xor => rfl

/-! ## The algebra of the constructor exports -/

section

variable (env : Env) (ctx : FilterContext)

def answer (call : Call) : Option Handle :=
  if failed (env.respond [] call).result then none
  else some (env.respond [] call).out

def leafReady (node : FilterNode) : Bool :=
  match typedFilterExportName (constructorSelector node.type) with
  | none => false
  | some constructor =>
      env.available constructor && leafProperty node != 0

/-- The constructor call of a leaf, or `none` for a refused leaf. -/
def leafCall (node : FilterNode) : Option Call :=
  if leafReady env node then
    (leafComparand env ctx node (leafProperty node) ⟨none, [], {}⟩).1.map
      fun comparand =>
        .createTypedFilter (constructorSelector node.type)
          (leafProperty node) comparand.1 comparand.2
  else none

def filterAlgebra : Algebra FilterNode Combinator Handle where
  leaf node := (leafCall env ctx node).bind (answer env)
  unary operand :=
    if env.available .createNotFilter then
      answer env (.createNotFilter operand)
    else none
  binary op left right :=
    if env.available op.export then
      answer env (.createBinaryFilter op.export left right)
    else none

def meaning (node : FilterNode) : Option Handle :=
  (cut node).bind (Expr.eval (filterAlgebra env ctx))

def constructionCall :
    Construction FilterNode Combinator Handle → Option Call
  | .leaf node => leafCall env ctx node
  | .unary operand => some (.createNotFilter operand)
  | .binary op left right =>
      some (.createBinaryFilter op.export left right)

end

def Call.createsLeaf : Call → Bool
  | .createTypedFilter .. => true
  | _ => false

theorem leafCall_createsLeaf {env : Env} {ctx : FilterContext}
    {node : FilterNode} {call : Call}
    (h : leafCall env ctx node = some call) : call.createsLeaf = true := by
  unfold leafCall at h
  split at h
  · obtain ⟨comparand, -, rfl⟩ := Option.map_eq_some_iff.mp h
    rfl
  · cases h

theorem createsFilter_of_createsLeaf {call : Call}
    (h : call.createsLeaf = true) : call.createsFilter = true := by
  cases call <;> first | rfl | cases h

def filterCalls (events : List Event) : List Call :=
  (events.map (·.call)).filter Call.createsFilter

@[simp]
theorem filterCalls_append (before after : List Event) :
    filterCalls (before ++ after) = filterCalls before ++ filterCalls after := by
  simp [filterCalls]

theorem filterCalls_eq_nil {events : List Event}
    (h : ∀ e ∈ events, e.call.createsFilter = false) :
    filterCalls events = [] := by
  rw [filterCalls, List.filter_eq_nil_iff]
  intro call hcall
  obtain ⟨e, he, rfl⟩ := List.mem_map.mp hcall
  simp [h e he]

theorem createsFilter_of_buildsCollections {call : Call}
    (h : call.buildsCollections = true) : call.createsFilter = false := by
  cases call <;> first | rfl | cases h

def resultHandle (result : EspResult × Handle) : Option Handle :=
  if failed result.1 then none else some result.2

theorem resultHandle_kInvalidArg (handle : Handle) :
    resultHandle (kInvalidArg, handle) = none := by
  rw [resultHandle, if_pos failed_kInvalidArg]

theorem require_run {env : Env} {wanted : Export}
    (h : env.available wanted = true) (j : Journal) :
    require env wanted j = (true, j) := by
  rw [require, if_pos h]
  rfl

theorem require_missing {env : Env} {wanted : Export}
    (h : env.available wanted = false) (j : Journal) :
    (require env wanted j).1 = false := by
  rw [require, h]
  rfl

/-! ## One construction -/

section

variable {env : Env} {ctx : FilterContext}

theorem answer_reply (hstateless : env.respond.Stateless) (call : Call)
    (log : List Event) :
    resultHandle ((env.respond log call).result,
      (env.respond log call).out) = answer env call := by
  rw [hstateless log [] call]
  rfl

theorem ask_event (env : Env) (call : Call) (j : Journal) :
    ∃ event : Event, (ask env.respond call j).2.log = j.log ++ [event] ∧
      event.call = call :=
  ⟨_, rfl, rfl⟩

theorem filterAlgebra_leaf (node : FilterNode) :
    (filterAlgebra env ctx).leaf node =
      (leafCall env ctx node).bind (answer env) := rfl

theorem filterAlgebra_unary (operand : Handle) :
    (filterAlgebra env ctx).unary operand =
      if env.available .createNotFilter then
        answer env (.createNotFilter operand)
      else none := rfl

theorem filterAlgebra_binary (op : Combinator) (left right : Handle) :
    (filterAlgebra env ctx).binary op left right =
      if env.available op.export then
        answer env (.createBinaryFilter op.export left right)
      else none := rfl

theorem createNotFilter_run (ctx : FilterContext)
    (hstateless : env.respond.Stateless)
    (child : Handle) (j : Journal) :
    resultHandle (createNotFilter env child j).1 =
        (filterAlgebra env ctx).unary child ∧
      (env.available .createNotFilter = true →
        ∃ new, (createNotFilter env child j).2.log = j.log ++ new ∧
          filterCalls new = [.createNotFilter child]) := by
  cases havailable : env.available .createNotFilter with
  | false =>
      have hmissing := require_missing havailable j
      refine ⟨?_, nofun⟩
      rw [createNotFilter, bind_run, hmissing, filterAlgebra_unary,
        havailable]
      exact resultHandle_kInvalidArg 0
  | true =>
      have hrun : createNotFilter env child j =
          (((env.respond j.log (.createNotFilter child)).result,
            (env.respond j.log (.createNotFilter child)).out),
          (pushFilter child
            (ask env.respond (.createNotFilter child) j).2).2) := by
        rw [createNotFilter, bind_run, require_run havailable]
        rfl
      rw [hrun]
      constructor
      · rw [answer_reply hstateless, filterAlgebra_unary, if_pos havailable]
      · intro _
        exact ⟨_, rfl, rfl⟩

theorem createBinaryFilter_run (ctx : FilterContext)
    (hstateless : env.respond.Stateless)
    {kind : FilterKind} (hkind : kind.isBinary = true)
    (left right : Handle) (j : Journal) :
    resultHandle (createBinaryFilter env kind left right j).1 =
        (filterAlgebra env ctx).binary (combinatorOf kind) left right ∧
      (env.available (combinatorOf kind).export = true →
        ∃ new, (createBinaryFilter env kind left right j).2.log =
            j.log ++ new ∧
          filterCalls new =
            [.createBinaryFilter (combinatorOf kind).export left right]) := by
  have hexport := combinator_export hkind
  cases havailable : env.available (combinatorOf kind).export with
  | false =>
      have hmissing := require_missing (hexport ▸ havailable) j
      refine ⟨?_, nofun⟩
      rw [createBinaryFilter, bind_run, hmissing, filterAlgebra_binary,
        havailable]
      exact resultHandle_kInvalidArg 0
  | true =>
      have hrun : createBinaryFilter env kind left right j =
          (((env.respond j.log (.createBinaryFilter
              (combinatorOf kind).export left right)).result,
            (env.respond j.log (.createBinaryFilter
              (combinatorOf kind).export left right)).out),
          (pushFilter right (pushFilter left (ask env.respond
            (.createBinaryFilter (combinatorOf kind).export left right)
              j).2).2).2) := by
        rw [createBinaryFilter, ← hexport, bind_run,
          require_run havailable]
        rfl
      rw [hrun]
      constructor
      · rw [answer_reply hstateless, filterAlgebra_binary,
          if_pos havailable]
      · intro _
        exact ⟨_, rfl, rfl⟩

theorem createLeafFilter_unready {node : FilterNode}
    (hready : leafReady env node = false) (j : Journal) :
    (createLeafFilter env ctx node j).1 = (kInvalidArg, 0) := by
  unfold leafReady at hready
  unfold createLeafFilter
  cases hname : typedFilterExportName (constructorSelector node.type) with
  | none => rfl
  | some constructor =>
      rw [hname] at hready
      cases havailable : env.available constructor with
      | false =>
          have hmissing := require_missing havailable j
          simp only [bind_run]
          rw [hmissing]
          rfl
      | true =>
          have hproperty : leafProperty node = 0 := by
            simpa [havailable] using hready
          simp only [bind_run]
          rw [require_run havailable, hproperty]
          rfl

theorem createLeafFilter_ready {node : FilterNode}
    (hready : leafReady env node = true) (j : Journal) :
    createLeafFilter env ctx node j =
      (do
        let comparand ← leafComparand env ctx node (leafProperty node)
        match comparand with
        | none => return (kInvalidArg, 0)
        | some (sizeClass, payload) =>
            let reply ← ask env.respond
              (.createTypedFilter (constructorSelector node.type)
                (leafProperty node) sizeClass payload)
            return (reply.result, reply.out) :
        JournalM (EspResult × Handle)) j := by
  unfold leafReady at hready
  unfold createLeafFilter
  cases hname : typedFilterExportName (constructorSelector node.type) with
  | none => rw [hname] at hready; cases hready
  | some constructor =>
      rw [hname] at hready
      obtain ⟨havailable, hproperty⟩ : env.available constructor = true ∧
          leafProperty node ≠ 0 := by simpa using hready
      simp only [bind_run]
      rw [require_run havailable]
      simp only [Bool.not_true, Bool.false_eq_true, if_false, hproperty]
      rfl

theorem createLeafFilter_run (hstateless : env.respond.Stateless)
    (node : FilterNode) (j : Journal) :
    resultHandle (createLeafFilter env ctx node j).1 =
        (filterAlgebra env ctx).leaf node ∧
      (∀ call, leafCall env ctx node = some call →
        ∃ new, (createLeafFilter env ctx node j).2.log = j.log ++ new ∧
          filterCalls new = [call]) := by
  cases hready : leafReady env node with
  | false =>
      have hcall : leafCall env ctx node = none := by
        rw [leafCall, hready]
        rfl
      refine ⟨?_, fun call h => by rw [hcall] at h; cases h⟩
      rw [createLeafFilter_unready hready, resultHandle_kInvalidArg,
        filterAlgebra]
      simp only [hcall, Option.bind_none]
  | true =>
      have hscript : CollectionScript env
          (leafComparand env ctx node (leafProperty node)) :=
        leafComparand_script node (leafProperty node)
      obtain ⟨comparand, calls, hcomparand⟩ := hscript.uniform hstateless
      obtain ⟨hvalue, -, hlog⟩ := hcomparand j
      have hidle := (hcomparand ⟨none, [], {}⟩).1
      have hcall : leafCall env ctx node = comparand.map fun comparand =>
          .createTypedFilter (constructorSelector node.type)
            (leafProperty node) comparand.1 comparand.2 := by
        rw [leafCall, if_pos hready, hidle]
      have hquiet : filterCalls
          (calls.map fun c => (⟨j.tag, c.1, c.2⟩ : Event)) = [] := by
        obtain ⟨-, new, hnew, hall⟩ := hscript.emits j
        have hsame : new = calls.map fun c => (⟨j.tag, c.1, c.2⟩ : Event) :=
          List.append_cancel_left (hnew.symm.trans hlog)
        rw [← hsame]
        exact filterCalls_eq_nil fun e he =>
          createsFilter_of_buildsCollections (hall e he).2
      rw [createLeafFilter_ready hready, bind_run, hvalue, hcall]
      cases comparand with
      | none =>
          refine ⟨?_, nofun⟩
          show resultHandle (kInvalidArg, 0) = _
          rw [resultHandle_kInvalidArg, filterAlgebra_leaf, hcall]
          rfl
      | some comparand =>
          constructor
          · show resultHandle (_, _) = _
            rw [filterAlgebra_leaf, hcall]
            exact answer_reply hstateless _ _
          · intro call h
            cases h
            obtain ⟨event, hask, hevent⟩ := ask_event env
              (.createTypedFilter (constructorSelector node.type)
                (leafProperty node) comparand.1 comparand.2)
              (leafComparand env ctx node (leafProperty node) j).2
            refine ⟨(calls.map fun c => ⟨j.tag, c.1, c.2⟩) ++ [event],
              ?_, ?_⟩
            · rw [← List.append_assoc, ← hlog]
              exact hask
            · rw [filterCalls_append, hquiet, filterCalls]
              simp [hevent, Call.createsFilter]

end

/-! ## The whole tree -/

section

variable {env : Env} {ctx : FilterContext}

theorem resultHandle_eq_none {result : EspResult × Handle} :
    resultHandle result = none ↔ failed result.1 = true := by
  unfold resultHandle
  split <;> simp_all

theorem resultHandle_of_failed {result : EspResult × Handle}
    (h : failed result.1 = true) : resultHandle (result.1, 0) = none :=
  if_pos h

theorem failed_of_resultHandle {result : EspResult × Handle}
    (h : resultHandle result = none) : failed result.1 = true :=
  resultHandle_eq_none.mp h

theorem resultHandle_eq_some {result : EspResult × Handle} {handle : Handle}
    (h : resultHandle result = some handle) :
    failed result.1 = false ∧ result.2 = handle := by
  unfold resultHandle at h
  split at h
  · cases h
  · next hfailed => exact ⟨by simpa using hfailed, Option.some.inj h⟩

theorem meaning_leaf {node : FilterNode} (hkind : node.kind = .leaf) :
    meaning env ctx node = (filterAlgebra env ctx).leaf node := by
  rw [meaning, cut_leaf hkind]
  rfl

theorem meaning_not {node operand : FilterNode} (hkind : node.kind = .not)
    (hchildren : node.children = [operand]) :
    meaning env ctx node =
      (meaning env ctx operand).bind (filterAlgebra env ctx).unary := by
  rw [meaning, meaning, cut_not hkind hchildren]
  cases cut operand with
  | none => rfl
  | some expr => rfl

theorem meaning_binary {node first second : FilterNode}
    {rest : List FilterNode} (hkind : node.kind.isBinary = true)
    (hchildren : node.children = first :: second :: rest) :
    meaning env ctx node = (meaning env ctx first).bind fun l =>
      (meaning env ctx second).bind fun r =>
        (filterAlgebra env ctx).binary (combinatorOf node.kind) l r := by
  rw [meaning, meaning, meaning, cut_binary hkind hchildren]
  cases cut first with
  | none => rfl
  | some left =>
      cases cut second with
      | none =>
          show none = (left.eval (filterAlgebra env ctx)).bind fun _ => none
          rw [Option.bind_fun_none]
      | some right => rfl

theorem createFilterTree_meaning (hstateless : env.respond.Stateless)
    (node : FilterNode) (j : Journal) :
    resultHandle (createFilterTree env ctx node j).1 =
      meaning env ctx node := by
  induction node using FilterNode.compileInduction generalizing j with
  | leaf node hkind =>
      rw [createFilterTree_leaf hkind, meaning_leaf hkind]
      exact (createLeafFilter_run hstateless node j).1
  | not node operand hkind hchildren ih =>
      rw [createFilterTree_not hkind hchildren, bind_run,
        meaning_not hkind hchildren, ← ih j]
      cases hchild : resultHandle (createFilterTree env ctx operand j).1 with
      | none =>
          rw [if_pos (failed_of_resultHandle hchild)]
          exact resultHandle_of_failed (failed_of_resultHandle hchild)
      | some child =>
          obtain ⟨hok, rfl⟩ := resultHandle_eq_some hchild
          rw [if_neg (by simp [hok])]
          exact (createNotFilter_run ctx hstateless _ _).1
  | notArity node hkind harity =>
      rw [createFilterTree_notArity hkind harity, meaning,
        cut_notArity hkind harity]
      exact resultHandle_kInvalidArg 0
  | binary node first second rest hkind hchildren ihFirst ihSecond =>
      rw [createFilterTree_binary hkind hchildren, bind_run,
        meaning_binary hkind hchildren, ← ihFirst j]
      cases hleft : resultHandle (createFilterTree env ctx first j).1 with
      | none =>
          rw [if_pos (failed_of_resultHandle hleft)]
          exact resultHandle_of_failed (failed_of_resultHandle hleft)
      | some left =>
          obtain ⟨hokLeft, rfl⟩ := resultHandle_eq_some hleft
          rw [if_neg (by simp [hokLeft]), bind_run, Option.bind_some,
            ← ihSecond (createFilterTree env ctx first j).2]
          cases hright : resultHandle (createFilterTree env ctx second
              (createFilterTree env ctx first j).2).1 with
          | none =>
              rw [if_pos (failed_of_resultHandle hright), bind_run]
              exact resultHandle_of_failed (failed_of_resultHandle hright)
          | some right =>
              obtain ⟨hokRight, rfl⟩ := resultHandle_eq_some hright
              rw [if_neg (by simp [hokRight])]
              exact (createBinaryFilter_run ctx hstateless hkind _ _ _).1
  | binaryArity node hkind harity =>
      rw [createFilterTree_binaryArity hkind harity, meaning,
        cut_binaryArity hkind harity]
      exact resultHandle_kInvalidArg 0

theorem eval_unary_eq_some {operand : Expr FilterNode Combinator}
    {handle : Handle}
    (h : (Expr.unary operand).eval (filterAlgebra env ctx) = some handle) :
    ∃ child, operand.eval (filterAlgebra env ctx) = some child ∧
      env.available .createNotFilter = true := by
  obtain ⟨child, hchild, hunary⟩ := Option.bind_eq_some_iff.mp h
  rw [filterAlgebra_unary] at hunary
  refine ⟨child, hchild, ?_⟩
  by_contra hmissing
  rw [if_neg hmissing] at hunary
  cases hunary

theorem eval_binary_eq_some {op : Combinator}
    {left right : Expr FilterNode Combinator} {handle : Handle}
    (h : (Expr.binary op left right).eval (filterAlgebra env ctx) =
      some handle) :
    ∃ l r, left.eval (filterAlgebra env ctx) = some l ∧
      right.eval (filterAlgebra env ctx) = some r ∧
      env.available op.export = true := by
  obtain ⟨l, hl, hrest⟩ := Option.bind_eq_some_iff.mp h
  obtain ⟨r, hr, hbinary⟩ := Option.bind_eq_some_iff.mp hrest
  rw [filterAlgebra_binary] at hbinary
  refine ⟨l, r, hl, hr, ?_⟩
  by_contra hmissing
  rw [if_neg hmissing] at hbinary
  cases hbinary

/-- A tree that compiles makes the constructor calls of its evaluation, in
the order of the evaluation, and no others. -/
theorem createFilterTree_constructions (hstateless : env.respond.Stateless)
    (node : FilterNode) (j : Journal)
    {expr : Expr FilterNode Combinator} {handle : Handle}
    (hcut : cut node = some expr)
    (heval : expr.eval (filterAlgebra env ctx) = some handle) :
    ∃ new, (createFilterTree env ctx node j).2.log = j.log ++ new ∧
      (filterCalls new).map some =
        (expr.constructions (filterAlgebra env ctx)).map
          (constructionCall env ctx) := by
  induction node using FilterNode.compileInduction
    generalizing j expr handle with
  | leaf node hkind =>
      rw [cut_leaf hkind] at hcut
      cases hcut
      obtain ⟨call, hcall, -⟩ := Option.bind_eq_some_iff.mp heval
      obtain ⟨new, hlog, hnew⟩ :=
        (createLeafFilter_run hstateless node j).2 call hcall
      refine ⟨new, ?_, ?_⟩
      · rw [createFilterTree_leaf hkind]
        exact hlog
      · simp [hnew, Expr.constructions, constructionCall, hcall]
  | not node operand hkind hchildren ih =>
      rw [cut_not hkind hchildren] at hcut
      obtain ⟨inner, hinner, rfl⟩ := Option.map_eq_some_iff.mp hcut
      obtain ⟨child, hchild, havailable⟩ := eval_unary_eq_some heval
      obtain ⟨new, hlog, hnew⟩ := ih j hinner hchild
      have hvalue : resultHandle (createFilterTree env ctx operand j).1 =
          some child := by
        rw [createFilterTree_meaning hstateless, meaning, hinner]
        exact hchild
      obtain ⟨hok, rfl⟩ := resultHandle_eq_some hvalue
      obtain ⟨last, hlogLast, hlast⟩ :=
        (createNotFilter_run ctx hstateless
          (createFilterTree env ctx operand j).1.2
          (createFilterTree env ctx operand j).2).2 havailable
      refine ⟨new ++ last, ?_, ?_⟩
      · rw [createFilterTree_not hkind hchildren, bind_run,
          if_neg (by simp [hok]), hlogLast, hlog, List.append_assoc]
      · rw [filterCalls_append, List.map_append, hnew, hlast,
          Expr.constructions, hchild]
        simp [constructionCall]
  | notArity node hkind harity =>
      rw [cut_notArity hkind harity] at hcut
      cases hcut
  | binary node first second rest hkind hchildren ihFirst ihSecond =>
      rw [cut_binary hkind hchildren] at hcut
      obtain ⟨left, hleft, hmap⟩ := Option.bind_eq_some_iff.mp hcut
      obtain ⟨right, hright, rfl⟩ := Option.map_eq_some_iff.mp hmap
      obtain ⟨l, r, hl, hr, havailable⟩ := eval_binary_eq_some heval
      obtain ⟨newLeft, hlogLeft, hnewLeft⟩ := ihFirst j hleft hl
      obtain ⟨newRight, hlogRight, hnewRight⟩ :=
        ihSecond (createFilterTree env ctx first j).2 hright hr
      have hvalueLeft :
          resultHandle (createFilterTree env ctx first j).1 = some l := by
        rw [createFilterTree_meaning hstateless, meaning, hleft]
        exact hl
      have hvalueRight : resultHandle (createFilterTree env ctx second
          (createFilterTree env ctx first j).2).1 = some r := by
        rw [createFilterTree_meaning hstateless, meaning, hright]
        exact hr
      obtain ⟨hokLeft, rfl⟩ := resultHandle_eq_some hvalueLeft
      obtain ⟨hokRight, rfl⟩ := resultHandle_eq_some hvalueRight
      obtain ⟨last, hlogLast, hlast⟩ :=
        (createBinaryFilter_run ctx hstateless hkind
          (createFilterTree env ctx first j).1.2
          (createFilterTree env ctx second
            (createFilterTree env ctx first j).2).1.2
          (createFilterTree env ctx second
            (createFilterTree env ctx first j).2).2).2 havailable
      refine ⟨newLeft ++ newRight ++ last, ?_, ?_⟩
      · rw [createFilterTree_binary hkind hchildren, bind_run,
          if_neg (by simp [hokLeft]), bind_run, if_neg (by simp [hokRight]),
          hlogLast, hlogRight, hlogLeft]
        simp only [List.append_assoc]
      · rw [filterCalls_append, filterCalls_append, List.map_append,
          List.map_append, hnewLeft, hnewRight, hlast, Expr.constructions,
          hl, hr]
        simp [constructionCall]
  | binaryArity node hkind harity =>
      rw [cut_binaryArity hkind harity] at hcut
      cases hcut

theorem typedCalls_constructions {calls : List Call}
    {constructions : List (Construction FilterNode Combinator Handle)}
    (h : calls.map some = constructions.map (constructionCall env ctx)) :
    (calls.filter Call.createsLeaf).map some =
      (constructions.filterMap Construction.leaf?).map
        (leafCall env ctx) := by
  induction constructions generalizing calls with
  | nil =>
      rw [List.map_nil, List.map_eq_nil_iff] at h
      rw [h]
      rfl
  | cons construction constructions ih =>
      cases calls with
      | nil => cases h
      | cons call calls =>
          rw [List.map_cons, List.map_cons, List.cons.injEq] at h
          obtain ⟨hcall, hrest⟩ := h
          have htail := ih hrest
          cases construction with
          | leaf node =>
              have hleaf : call.createsLeaf = true := leafCall_createsLeaf hcall.symm
              rw [List.filter_cons_of_pos hleaf, List.map_cons, htail]
              simp [Construction.leaf?, hcall, constructionCall]
          | unary operand =>
              cases hcall
              rw [List.filter_cons_of_neg (by simp [Call.createsLeaf]),
                List.filterMap_cons_none rfl]
              exact htail
          | binary op left right =>
              cases hcall
              rw [List.filter_cons_of_neg (by simp [Call.createsLeaf]),
                List.filterMap_cons_none rfl]
              exact htail

/-! ## When compiling fails -/

/-- `Survives node sub`: the cut of `node` reads `sub`. -/
inductive Survives : FilterNode → FilterNode → Prop
  | refl (node : FilterNode) : Survives node node
  | not {node operand sub : FilterNode} (hkind : node.kind = .not)
      (hchildren : node.children = [operand])
      (h : Survives operand sub) : Survives node sub
  | first {node first second sub : FilterNode} {rest : List FilterNode}
      (hkind : node.kind.isBinary = true)
      (hchildren : node.children = first :: second :: rest)
      (h : Survives first sub) : Survives node sub
  | second {node first second sub : FilterNode} {rest : List FilterNode}
      (hkind : node.kind.isBinary = true)
      (hchildren : node.children = first :: second :: rest)
      (h : Survives second sub) : Survives node sub

/-- What can be wrong with one node, given that its operands compile. -/
inductive FailsAt (env : Env) (ctx : FilterContext) : FilterNode → Prop
  | leafRefused {node : FilterNode} (hkind : node.kind = .leaf)
      (h : leafCall env ctx node = none) : FailsAt env ctx node
  | leafConstructor {node : FilterNode} {call : Call}
      (hkind : node.kind = .leaf) (hcall : leafCall env ctx node = some call)
      (h : answer env call = none) : FailsAt env ctx node
  | notArity {node : FilterNode} (hkind : node.kind = .not)
      (h : node.children.length ≠ 1) : FailsAt env ctx node
  | notMissing {node : FilterNode} (hkind : node.kind = .not)
      (h : env.available .createNotFilter = false) : FailsAt env ctx node
  | notConstructor {node operand : FilterNode} {child : Handle}
      (hkind : node.kind = .not) (hchildren : node.children = [operand])
      (hchild : meaning env ctx operand = some child)
      (h : answer env (.createNotFilter child) = none) :
      FailsAt env ctx node
  | binaryArity {node : FilterNode} (hkind : node.kind.isBinary = true)
      (h : node.children.length < 2) : FailsAt env ctx node
  | binaryMissing {node : FilterNode} (hkind : node.kind.isBinary = true)
      (h : env.available (combinatorOf node.kind).export = false) :
      FailsAt env ctx node
  | binaryConstructor {node first second : FilterNode}
      {rest : List FilterNode} {left right : Handle}
      (hkind : node.kind.isBinary = true)
      (hchildren : node.children = first :: second :: rest)
      (hleft : meaning env ctx first = some left)
      (hright : meaning env ctx second = some right)
      (h : answer env (.createBinaryFilter (combinatorOf node.kind).export
        left right) = none) : FailsAt env ctx node

theorem survives_leaf {node sub : FilterNode} (hkind : node.kind = .leaf) :
    Survives node sub ↔ sub = node := by
  constructor
  · intro h
    cases h with
    | refl => rfl
    | not hnot _ _ => rw [hkind] at hnot; cases hnot
    | first hbinary _ _ => rw [hkind] at hbinary; cases hbinary
    | second hbinary _ _ => rw [hkind] at hbinary; cases hbinary
  · rintro rfl
    exact .refl _

theorem survives_not {node operand sub : FilterNode}
    (hkind : node.kind = .not) (hchildren : node.children = [operand]) :
    Survives node sub ↔ sub = node ∨ Survives operand sub := by
  constructor
  · intro h
    cases h with
    | refl => exact .inl rfl
    | not _ hchildren' h =>
        rw [hchildren] at hchildren'
        cases hchildren'
        exact .inr h
    | first hbinary _ _ => rw [hkind] at hbinary; cases hbinary
    | second hbinary _ _ => rw [hkind] at hbinary; cases hbinary
  · rintro (rfl | h)
    · exact .refl _
    · exact .not hkind hchildren h

theorem survives_binary {node first second sub : FilterNode}
    {rest : List FilterNode} (hkind : node.kind.isBinary = true)
    (hchildren : node.children = first :: second :: rest) :
    Survives node sub ↔
      sub = node ∨ Survives first sub ∨ Survives second sub := by
  constructor
  · intro h
    cases h with
    | refl => exact .inl rfl
    | not hnot _ _ => rw [hnot] at hkind; cases hkind
    | first _ hchildren' h =>
        rw [hchildren] at hchildren'
        cases hchildren'
        exact .inr (.inl h)
    | second _ hchildren' h =>
        rw [hchildren] at hchildren'
        cases hchildren'
        exact .inr (.inr h)
  · rintro (rfl | h | h)
    · exact .refl _
    · exact .first hkind hchildren h
    · exact .second hkind hchildren h

theorem mem_leaves_cut {node sub : FilterNode}
    {expr : Expr FilterNode Combinator} (hcut : cut node = some expr) :
    sub ∈ expr.leaves ↔ Survives node sub ∧ sub.kind = .leaf := by
  induction node using FilterNode.compileInduction generalizing expr with
  | leaf node hkind =>
      rw [cut_leaf hkind] at hcut
      cases hcut
      rw [Expr.leaves, List.mem_singleton, survives_leaf hkind]
      constructor
      · rintro rfl
        exact ⟨rfl, hkind⟩
      · exact fun h => h.1
  | not node operand hkind hchildren ih =>
      rw [cut_not hkind hchildren] at hcut
      obtain ⟨inner, hinner, rfl⟩ := Option.map_eq_some_iff.mp hcut
      rw [Expr.leaves, ih hinner, survives_not hkind hchildren]
      constructor
      · rintro ⟨h, hleaf⟩
        exact ⟨.inr h, hleaf⟩
      · rintro ⟨rfl | h, hleaf⟩
        · rw [hkind] at hleaf; cases hleaf
        · exact ⟨h, hleaf⟩
  | notArity node hkind harity =>
      rw [cut_notArity hkind harity] at hcut
      cases hcut
  | binary node first second rest hkind hchildren ihFirst ihSecond =>
      rw [cut_binary hkind hchildren] at hcut
      obtain ⟨left, hleft, hmap⟩ := Option.bind_eq_some_iff.mp hcut
      obtain ⟨right, hright, rfl⟩ := Option.map_eq_some_iff.mp hmap
      rw [Expr.leaves, List.mem_append, ihFirst hleft, ihSecond hright,
        survives_binary hkind hchildren]
      constructor
      · rintro (⟨h, hleaf⟩ | ⟨h, hleaf⟩)
        · exact ⟨.inr (.inl h), hleaf⟩
        · exact ⟨.inr (.inr h), hleaf⟩
      · rintro ⟨rfl | h | h, hleaf⟩
        · rw [hleaf] at hkind; cases hkind
        · exact .inl ⟨h, hleaf⟩
        · exact .inr ⟨h, hleaf⟩
  | binaryArity node hkind harity =>
      rw [cut_binaryArity hkind harity] at hcut
      cases hcut

theorem failsAt_leaf {node : FilterNode} (hkind : node.kind = .leaf) :
    FailsAt env ctx node ↔ (filterAlgebra env ctx).leaf node = none := by
  rw [filterAlgebra_leaf]
  constructor
  · intro h
    cases h with
    | leafRefused _ hcall => rw [hcall]; rfl
    | leafConstructor _ hcall hanswer => rw [hcall]; exact hanswer
    | notArity hnot _ => rw [hkind] at hnot; cases hnot
    | notMissing hnot _ => rw [hkind] at hnot; cases hnot
    | notConstructor hnot _ _ _ => rw [hkind] at hnot; cases hnot
    | binaryArity hbinary _ => rw [hkind] at hbinary; cases hbinary
    | binaryMissing hbinary _ => rw [hkind] at hbinary; cases hbinary
    | binaryConstructor hbinary _ _ _ _ =>
        rw [hkind] at hbinary; cases hbinary
  · intro h
    cases hcall : leafCall env ctx node with
    | none => exact .leafRefused hkind hcall
    | some call =>
        rw [hcall] at h
        exact .leafConstructor hkind hcall h

theorem failsAt_not {node operand : FilterNode} (hkind : node.kind = .not)
    (hchildren : node.children = [operand]) {child : Handle}
    (hchild : meaning env ctx operand = some child) :
    FailsAt env ctx node ↔ (filterAlgebra env ctx).unary child = none := by
  rw [filterAlgebra_unary]
  constructor
  · intro h
    cases h with
    | leafRefused hleaf _ => rw [hkind] at hleaf; cases hleaf
    | leafConstructor hleaf _ _ => rw [hkind] at hleaf; cases hleaf
    | notArity _ harity => rw [hchildren] at harity; exact absurd rfl harity
    | notMissing _ hmissing => rw [hmissing]; rfl
    | notConstructor _ hchildren' hchild' hanswer =>
        rw [hchildren] at hchildren'
        cases hchildren'
        rw [hchild] at hchild'
        cases hchild'
        rw [hanswer, ite_self]
    | binaryArity hbinary _ => rw [hkind] at hbinary; cases hbinary
    | binaryMissing hbinary _ => rw [hkind] at hbinary; cases hbinary
    | binaryConstructor hbinary _ _ _ _ =>
        rw [hkind] at hbinary; cases hbinary
  · intro h
    split at h
    · exact .notConstructor hkind hchildren hchild h
    · next hmissing => exact .notMissing hkind (by simpa using hmissing)

theorem failsAt_binary {node first second : FilterNode}
    {rest : List FilterNode} (hkind : node.kind.isBinary = true)
    (hchildren : node.children = first :: second :: rest)
    {left right : Handle} (hleft : meaning env ctx first = some left)
    (hright : meaning env ctx second = some right) :
    FailsAt env ctx node ↔ (filterAlgebra env ctx).binary
      (combinatorOf node.kind) left right = none := by
  rw [filterAlgebra_binary]
  constructor
  · intro h
    cases h with
    | leafRefused hleaf _ => rw [hleaf] at hkind; cases hkind
    | leafConstructor hleaf _ _ => rw [hleaf] at hkind; cases hkind
    | notArity hnot _ => rw [hnot] at hkind; cases hkind
    | notMissing hnot _ => rw [hnot] at hkind; cases hkind
    | notConstructor hnot _ _ _ => rw [hnot] at hkind; cases hkind
    | binaryArity _ harity =>
        rw [hchildren, List.length_cons, List.length_cons] at harity
        omega
    | binaryMissing _ hmissing => rw [hmissing]; rfl
    | binaryConstructor _ hchildren' hleft' hright' hanswer =>
        rw [hchildren] at hchildren'
        cases hchildren'
        rw [hleft] at hleft'
        rw [hright] at hright'
        cases hleft'
        cases hright'
        rw [hanswer, ite_self]
  · intro h
    split at h
    · exact .binaryConstructor hkind hchildren hleft hright h
    · next hmissing => exact .binaryMissing hkind (by simpa using hmissing)

/-- A tree has no meaning exactly when some node of its cut fails. -/
theorem meaning_eq_none_iff (node : FilterNode) :
    meaning env ctx node = none ↔
      ∃ sub, Survives node sub ∧ FailsAt env ctx sub := by
  induction node using FilterNode.compileInduction with
  | leaf node hkind =>
      rw [meaning_leaf hkind, ← failsAt_leaf hkind]
      simp only [survives_leaf hkind, exists_eq_left]
  | not node operand hkind hchildren ih =>
      rw [meaning_not hkind hchildren]
      simp only [survives_not hkind hchildren, or_and_right, exists_or,
        exists_eq_left, ← ih]
      cases hchild : meaning env ctx operand with
      | none => simp
      | some child =>
          rw [failsAt_not hkind hchildren hchild]
          simp
  | notArity node hkind harity =>
      rw [meaning, cut_notArity hkind harity]
      exact ⟨fun _ => ⟨node, .refl node, .notArity hkind harity⟩,
        fun _ => rfl⟩
  | binary node first second rest hkind hchildren ihFirst ihSecond =>
      rw [meaning_binary hkind hchildren]
      simp only [survives_binary hkind hchildren, or_and_right, exists_or,
        exists_eq_left, ← ihFirst, ← ihSecond]
      cases hleft : meaning env ctx first with
      | none => simp
      | some left =>
          cases hright : meaning env ctx second with
          | none => simp
          | some right =>
              rw [failsAt_binary hkind hchildren hleft hright]
              simp
  | binaryArity node hkind harity =>
      rw [meaning, cut_binaryArity hkind harity]
      exact ⟨fun _ => ⟨node, .refl node, .binaryArity hkind harity⟩,
        fun _ => rfl⟩

theorem eval_ne_zero
    (hfilled : ∀ call, call.createsFilter = true →
      succeeded (env.respond [] call).result = true →
      (env.respond [] call).out ≠ 0)
    {expr : Expr FilterNode Combinator} {handle : Handle}
    (heval : expr.eval (filterAlgebra env ctx) = some handle) :
    handle ≠ 0 := by
  have hanswer : ∀ call, call.createsFilter = true →
      answer env call = some handle → handle ≠ 0 := by
    intro call hcreates h
    rw [answer, failed_eq_not_succeeded] at h
    split at h
    · cases h
    · next hok =>
        cases h
        exact hfilled call hcreates (by simpa using hok)
  cases expr with
  | leaf node =>
      obtain ⟨call, hcall, h⟩ := Option.bind_eq_some_iff.mp heval
      exact hanswer call
        (createsFilter_of_createsLeaf (leafCall_createsLeaf hcall)) h
  | unary operand =>
      obtain ⟨child, -, h⟩ := Option.bind_eq_some_iff.mp heval
      rw [filterAlgebra_unary] at h
      split at h
      · exact hanswer _ rfl h
      · cases h
  | binary op left right =>
      obtain ⟨l, -, hrest⟩ := Option.bind_eq_some_iff.mp heval
      obtain ⟨r, -, h⟩ := Option.bind_eq_some_iff.mp hrest
      rw [filterAlgebra_binary] at h
      split at h
      · exact hanswer _ rfl h
      · cases h

/-- Against any history-free library whose constructors fill the out-slot on
success: a compiled handle is the value of the cut tree, obtained with exactly
the constructor calls of its evaluation in order, one typed call for each leaf
from left to right; and compiling fails exactly when a node of the cut has a
wrong arity, is a refused leaf, or misses or is failed by its constructor. -/
theorem createFilterTree_faithful (env : Env) (ctx : FilterContext)
    (hstateless : env.respond.Stateless)
    (hfilled : ∀ call, call.createsFilter = true →
      succeeded (env.respond [] call).result = true →
      (env.respond [] call).out ≠ 0)
    (node : FilterNode) (j : Journal) :
    (failed (createFilterTree env ctx node j).1.1 = false →
      ∃ expr new, cut node = some expr ∧
        expr.eval (filterAlgebra env ctx) =
          some (createFilterTree env ctx node j).1.2 ∧
        (createFilterTree env ctx node j).1.2 ≠ 0 ∧
        (createFilterTree env ctx node j).2.log = j.log ++ new ∧
        (filterCalls new).map some =
          (expr.constructions (filterAlgebra env ctx)).map
            (constructionCall env ctx) ∧
        ((filterCalls new).filter Call.createsLeaf).map some =
          expr.leaves.map (leafCall env ctx) ∧
        ∀ sub, sub ∈ expr.leaves ↔
          Survives node sub ∧ sub.kind = .leaf) ∧
    (failed (createFilterTree env ctx node j).1.1 = true ↔
      ∃ sub, Survives node sub ∧ FailsAt env ctx sub) := by
  have hvalue : resultHandle (createFilterTree env ctx node j).1 =
      meaning env ctx node := createFilterTree_meaning hstateless node j
  constructor
  · intro hok
    have hmeaning : meaning env ctx node =
        some (createFilterTree env ctx node j).1.2 := by
      rw [← hvalue, resultHandle, if_neg (by simp [hok])]
    obtain ⟨expr, hcut, heval⟩ := Option.bind_eq_some_iff.mp hmeaning
    obtain ⟨new, hlog, hcalls⟩ :=
      createFilterTree_constructions hstateless node j hcut heval
    refine ⟨expr, new, hcut, heval, eval_ne_zero hfilled heval, hlog, hcalls,
      ?_, fun sub => mem_leaves_cut hcut⟩
    rw [typedCalls_constructions hcalls, Expr.constructions_leaves]
  · rw [← meaning_eq_none_iff, ← hvalue, resultHandle_eq_none]

end

/-- A history-free library: a handle shows the constructor that made it. -/
def shapeEnv : Env where
  available _ := true
  respond _ call :=
    match call with
    | .createTypedFilter selector property _ _ =>
        { result := kOk, out := selector * 100 + property + 1 }
    | .createNotFilter child => { result := kOk, out := child + 10000 }
    | .createBinaryFilter _ left right =>
        { result := kOk, out := left * 100000 + right + 1 }
    | _ => { result := kOk, out := 1 }
  expandFilterValue value := value.toList.map fun c => UInt16.ofNat c.toNat
  patchError _ := ""

/-- `a and not b`, with a third operand that is never read. -/
def andNotTree : FilterNode :=
  { kind := .and
    children :=
      [{ type := 5, propertyId := 17, comparand := 1, value := "a" },
        { kind := .not
          children :=
            [{ type := 5, propertyId := 17, comparand := 1, value := "b" }] },
        { kind := .not }] }

theorem createFilterTree_faithful_andNotTree :
    (createFilterTree shapeEnv ⟨7, []⟩ andNotTree ⟨none, [], {}⟩).1 =
        (kOk, 51810519) ∧
      (∃ expr, cut andNotTree = some expr ∧
        expr.eval (filterAlgebra shapeEnv ⟨7, []⟩) = some 51810519) ∧
      ∃ sub, Survives { kind := .not, children := [andNotTree, {}] } sub ∧
        FailsAt shapeEnv ⟨7, []⟩ sub := by
  have hfilled : ∀ call : Call, call.createsFilter = true →
      succeeded (shapeEnv.respond [] call).result = true →
      (shapeEnv.respond [] call).out ≠ 0 := by
    intro call hcreates _
    unfold Call.createsFilter at hcreates
    split at hcreates
    · exact Nat.succ_ne_zero _
    · exact Nat.succ_ne_zero _
    · exact Nat.ne_of_gt (Nat.add_pos_right _ (by decide))
    · cases hcreates
  have hcompiled := createFilterTree_faithful shapeEnv ⟨7, []⟩
    (fun _ _ _ => rfl) hfilled andNotTree ⟨none, [], {}⟩
  have harity := createFilterTree_faithful shapeEnv ⟨7, []⟩
    (fun _ _ _ => rfl) hfilled
    { kind := .not, children := [andNotTree, {}] } ⟨none, [], {}⟩
  obtain ⟨expr, -, hcut, heval, -⟩ := hcompiled.1 (by decide)
  have hrun : (createFilterTree shapeEnv ⟨7, []⟩ andNotTree
      ⟨none, [], {}⟩).1 = (kOk, 51810519) := by decide
  rw [hrun] at heval
  exact ⟨hrun, ⟨expr, hcut, heval⟩, harity.2.mp (by decide)⟩

end Esptool.Esp
