import Esptool.FilterSemantics
import Esptool.Numerals

/-!
# The operators of a numeric leaf

A leaf on a numeric property takes the operators 1 to 9 and an immediate
decimal number.  The builder looks at the comparand before it looks at the
property: the number that stands for a collection among the string operators
is taken for a collection here too, so the fourth numeric operator cannot be
compiled.
-/

namespace Esptool.Esp

open Model Interaction Text

section

variable {env : Env} {ctx : FilterContext} {node : FilterNode} {j : Journal}

theorem constructor_of_propertyCeiling {type : ℤ}
    (h : propertyCeiling type ≠ 0) : 1 ≤ type ∧ type ≤ 16 := by
  by_contra houtside
  have hother (constructor : ℤ) (hinside : 1 ≤ constructor ∧ constructor ≤ 16) :
      type ≠ constructor := by
    rintro rfl
    exact houtside hinside
  exact h (by simp [propertyCeiling, hother])

/-- A numeric property is a property of one of the typed constructors. -/
theorem isObservedNumericProperty_bounds {type : ℤ} {property : ℕ}
    (h : isObservedNumericProperty type property = true) :
    property ≠ 0 ∧ 1 ≤ type ∧ type ≤ 16 := by
  have hkind : leafPayload type property = .numeric := by
    simpa [isObservedNumericProperty] using h
  have hinside : ¬(property = 0 ∨ property > propertyCeiling type) := by
    intro houtside
    rw [leafPayload, if_pos houtside] at hkind
    cases hkind
  have hceiling : propertyCeiling type ≠ 0 := by omega
  exact ⟨by omega, constructor_of_propertyCeiling hceiling⟩

theorem leafReady_of_numeric
    (hnumeric : isObservedNumericProperty node.type (leafProperty node) = true)
    (havailable : env.available
      (.createTypedFilter (constructorSelector node.type)) = true) :
    leafReady env node = true := by
  obtain ⟨hproperty, hfirst, hlast⟩ :=
    isObservedNumericProperty_bounds hnumeric
  have hselector : constructorSelector node.type = node.type.toNat := by
    unfold constructorSelector
    rw [Int.emod_eq_of_lt (by omega) (by omega)]
  have hlength : kTypedFilterExports.length = 17 := rfl
  have hname : typedFilterExportName (constructorSelector node.type) =
      some (.createTypedFilter (constructorSelector node.type)) := by
    unfold typedFilterExportName
    rw [if_neg]
    rw [hselector, hlength]
    omega
  unfold leafReady
  rw [hname]
  simpa [havailable] using hproperty

/-- The comparand of a numeric leaf: none for the operator that stands for a
collection, whatever the value is. -/
theorem leafComparand_numeric
    (hnumeric : isObservedNumericProperty node.type (leafProperty node) = true)
    (j : Journal) :
    leafComparand env ctx node (leafProperty node) j =
      (if node.comparand = kStringComparandCollection then none
        else (fillNumericComparand node).map fun blob =>
          (kNumericPayloadSizeClass, .numeric blob), j) := by
  have hstring :
      isObservedStringProperty node.type (leafProperty node) = false := by
    have hkind : leafPayload node.type (leafProperty node) = .numeric := by
      simpa [isObservedNumericProperty] using hnumeric
    simp [isObservedStringProperty, hkind]
  unfold leafComparand
  by_cases hcollection : node.comparand = kStringComparandCollection
  · rw [if_pos hcollection, if_pos hcollection, hstring]
    rfl
  · rw [if_neg hcollection, if_neg hcollection, if_pos hnumeric]
    rfl

end

/-- What is asked of a numeric leaf: a decimal value in range makes one
constructor call with the immediate comparand, and any other value makes
none. -/
structure CompilesNumeric (env : Env) (ctx : FilterContext)
    (node : FilterNode) (j : Journal) : Prop where
  compiled : ∀ number, decimalValue node.value.toList = some number →
    number < 2 ^ 64 →
    let call := Call.createTypedFilter (constructorSelector node.type)
      (leafProperty node) 3
      (.numeric
        { comparison := node.comparand.toNat, rhsKind := 1, value := number })
    let reply := env.respond j.log call
    createLeafFilter env ctx node j =
      ((reply.result, reply.out), { j with log := j.log ++ [⟨j.tag, call, reply⟩] })
  refused : (∀ number, decimalValue node.value.toList = some number →
      2 ^ 64 ≤ number) →
    createLeafFilter env ctx node j = ((kInvalidArg, 0), j)

section

variable {env : Env} {ctx : FilterContext} {node : FilterNode} {j : Journal}

theorem fillNumericComparand_eq (hfirst : 1 ≤ node.comparand)
    (hlast : node.comparand ≤ 9) :
    fillNumericComparand node =
      ((decimalValue node.value.toList).filter (· < 2 ^ 64)).map fun number =>
        { comparison := node.comparand.toNat, rhsKind := 1
          value := number } := by
  have hmin : (kNumericOperatorMin : ℤ) = 1 := rfl
  have hmax : (kNumericOperatorMax : ℤ) = 11 := rfl
  unfold fillNumericComparand
  by_cases hempty : node.value = ""
  · rw [if_pos (.inr (.inr hempty)), hempty]
    rfl
  · rw [if_neg (by rw [hmin, hmax]; rintro (h | h | h) <;> first | omega |
      exact hempty h), fromChars_eq]

/-- A numeric leaf with another operator than the fourth makes its call or is
refused as its value tells. -/
theorem createLeafFilter_of_numeric
    (hnumeric : isObservedNumericProperty node.type (leafProperty node) = true)
    (havailable : env.available
      (.createTypedFilter (constructorSelector node.type)) = true)
    (hfirst : 1 ≤ node.comparand) (hlast : node.comparand ≤ 9)
    (hoperator : node.comparand ≠ 4) : CompilesNumeric env ctx node j := by
  have hready := leafReady_of_numeric hnumeric havailable
  have hcomparand : leafComparand env ctx node (leafProperty node) j =
      ((fillNumericComparand node).map fun blob =>
        (kNumericPayloadSizeClass, .numeric blob), j) := by
    rw [leafComparand_numeric hnumeric, if_neg]
    exact hoperator
  rw [fillNumericComparand_eq hfirst hlast] at hcomparand
  constructor
  · intro number hnumber hrange
    rw [hnumber, Option.filter_some, if_pos (by simpa using hrange)]
      at hcomparand
    rw [createLeafFilter_ready hready, bind_run, hcomparand]
    rfl
  · intro houtside
    have hnone : (decimalValue node.value.toList).filter (· < 2 ^ 64) =
        none := by
      rw [Option.filter_eq_none_iff]
      intro number hnumber
      have hlarge := houtside number hnumber
      simpa using hlarge
    rw [hnone] at hcomparand
    rw [createLeafFilter_ready hready, bind_run, hcomparand]
    rfl

theorem createLeafFilter_collectionOperator
    (hnumeric : isObservedNumericProperty node.type (leafProperty node) = true)
    (havailable : env.available
      (.createTypedFilter (constructorSelector node.type)) = true)
    (hoperator : node.comparand = 4) :
    createLeafFilter env ctx node j = ((kInvalidArg, 0), j) := by
  have hready := leafReady_of_numeric hnumeric havailable
  have hcomparand : leafComparand env ctx node (leafProperty node) j =
      (none, j) := by
    rw [leafComparand_numeric hnumeric, if_pos]
    exact hoperator
  rw [createLeafFilter_ready hready, bind_run, hcomparand]
  rfl

end

/-- A numeric leaf is compiled as it is documented except that the fourth
operator refuses its decimal values too. -/
theorem createLeafFilter_numeric_iff (env : Env) (ctx : FilterContext)
    (node : FilterNode) (j : Journal)
    (hnumeric : isObservedNumericProperty node.type (leafProperty node) = true)
    (hfirst : 1 ≤ node.comparand) (hlast : node.comparand ≤ 9)
    (havailable : env.available
      (.createTypedFilter (constructorSelector node.type)) = true) :
    CompilesNumeric env ctx node j ↔
      (node.comparand = 4 → ∀ number,
        decimalValue node.value.toList = some number → 2 ^ 64 ≤ number) := by
  constructor
  · intro hcompiles hoperator number hnumber
    by_contra hsmall
    have hcall := hcompiles.compiled number hnumber (by omega)
    have hrefused : createLeafFilter env ctx node j = ((kInvalidArg, 0), j) :=
      createLeafFilter_collectionOperator hnumeric havailable hoperator
    rw [hrefused] at hcall
    have hlog := congrArg (fun result => result.2.log.length) hcall
    simp at hlog
  · intro hvalue
    by_cases hoperator : node.comparand = 4
    · have hrefused : createLeafFilter env ctx node j =
          ((kInvalidArg, 0), j) :=
        createLeafFilter_collectionOperator hnumeric havailable hoperator
      constructor
      · intro number hnumber hrange
        exact absurd hrange (by have := hvalue hoperator number hnumber; omega)
      · intro _
        exact hrefused
    · exact createLeafFilter_of_numeric hnumeric havailable hfirst hlast
        hoperator

/-- The thread property with a less-than on a value with leading zeros. -/
theorem createLeafFilter_numeric_less :
    CompilesNumeric acceptingEnv ⟨7, []⟩
      { kind := .leaf, type := 11, comparand := 3, propertyId := 1
        value := "0042" } ⟨none, [], {}⟩ := by
  have hnumeric := createLeafFilter_numeric_iff acceptingEnv ⟨7, []⟩
    { kind := .leaf, type := 11, comparand := 3, propertyId := 1
      value := "0042" } ⟨none, [], {}⟩ (by decide) (by decide) (by decide)
    rfl
  exact hnumeric.mpr (by decide)

/-- Less-than-or-equal is documented and refused. -/
theorem createLeafFilter_lessEqual_refused :
    ¬ CompilesNumeric acceptingEnv ⟨7, []⟩
      { kind := .leaf, type := 11, comparand := 4, propertyId := 1
        value := "42" } ⟨none, [], {}⟩ := by
  intro h
  have hcall := h.compiled 42 (by decide) (by decide)
  have hlog := congrArg (fun result => result.2.log.length) hcall
  revert hlog
  decide

end Esptool.Esp
