import Esptool.FilterAbi
import Esptool.Lib.Custody

/-!
# Owners of handles

`UniqueCloser` is the move-only owner that every handle of the tool is kept
in.  An owner is never in a third state: its handle is usable, or it is the
empty value of the handle type.

A program is a sequence of operations on a pool of owners.  Nothing is assumed
about the handles it adopts: the same value may be adopted many times.
-/

namespace Esptool

open Custody

/-- The template arguments: the empty value, and which values are owned. -/
structure Closer (Handle : Type) where
  empty : Handle
  usable : Handle → Bool
  empty_unusable : usable empty = false

/-- `UsableNonEmpty`: module handles, service handles, registry keys. -/
def nonEmptyCloser : Closer Esp.Handle where
  empty := 0
  usable handle := handle != 0
  empty_unusable := rfl

/-- `UsableKernel`: both null and `INVALID_HANDLE_VALUE` are empty. -/
def kernelCloser : Closer Esp.Handle where
  empty := 0
  usable handle := handle != 0 && handle != 2 ^ 64 - 1
  empty_unusable := rfl

section

variable {Handle : Type} {c : Closer Handle}

structure UniqueCloser (c : Closer Handle) where
  handle : Handle
  normal : c.usable handle = true ∨ handle = c.empty

inductive OwnerEvent (Handle : Type)
  | adopts (handle : Handle)
  | closes (handle : Handle)
  | releases (handle : Handle)
deriving DecidableEq, Repr

namespace UniqueCloser

def nothing : UniqueCloser c := ⟨c.empty, Or.inr rfl⟩

/-- `Normalize`, as the constructor of an owner. -/
def ofHandle (handle : Handle) : UniqueCloser c :=
  if h : c.usable handle = true then ⟨handle, Or.inl h⟩ else nothing

/-- The handle of the owner, when it owns one. -/
def held (owner : UniqueCloser c) : List Handle :=
  if c.usable owner.handle then [owner.handle] else []

/-- `reset`: an owner that already holds the handle does nothing. -/
def reset [DecidableEq Handle] (owner : UniqueCloser c) (handle : Handle) :
    UniqueCloser c × List (OwnerEvent Handle) :=
  let next : UniqueCloser c := ofHandle handle
  if owner.handle = next.handle then (owner, [])
  else (next, owner.held.map .closes ++ next.held.map .adopts)

end UniqueCloser

/-- One operation on the pool; an owner is named by its position. -/
inductive OwnerOp (Handle : Type)
  | construct (handle : Handle)
  | moveConstruct (source : ℕ)
  | moveAssign (target source : ℕ)
  | reset (owner : ℕ) (handle : Handle)
  | release (owner : ℕ)
  | destroy (owner : ℕ)

abbrev Owners (c : Closer Handle) := List (UniqueCloser c)

def OwnerOp.apply [DecidableEq Handle] (owners : Owners c) :
    OwnerOp Handle → Owners c × List (OwnerEvent Handle)
  | .construct handle =>
      let owner : UniqueCloser c := .ofHandle handle
      (owner :: owners, owner.held.map .adopts)
  | .moveConstruct source =>
      match owners[source]? with
      | none => (owners, [])
      | some owner => (owner :: owners.set source .nothing, [])
  | .moveAssign target source =>
      match owners[target]?, owners[source]? with
      | some owner, some moved =>
          if target = source then (owners, [])
          else ((owners.set target moved).set source .nothing,
            owner.held.map .closes)
      | _, _ => (owners, [])
  | .reset position handle =>
      match owners[position]? with
      | none => (owners, [])
      | some owner =>
          (owners.set position (owner.reset handle).1,
            (owner.reset handle).2)
  | .release position =>
      match owners[position]? with
      | none => (owners, [])
      | some owner =>
          (owners.set position .nothing, owner.held.map .releases)
  | .destroy position =>
      match owners[position]? with
      | none => (owners, [])
      | some owner =>
          (owners.eraseIdx position, owner.held.map .closes)

/-- A run on the pool, with its log. -/
def runOwners [DecidableEq Handle] (ops : List (OwnerOp Handle))
    (owners : Owners c) (log : List (OwnerEvent Handle)) :
    Owners c × List (OwnerEvent Handle) :=
  ops.foldl (fun st op =>
    ((op.apply st.1).1, st.2 ++ (op.apply st.1).2)) (owners, log)

/-- The destructors at the end of the program. -/
def destroyAll (owners : Owners c) : List (OwnerEvent Handle) :=
  (owners.flatMap UniqueCloser.held).map .closes

def ownership : Custody (OwnerEvent Handle) Handle where
  opens
    | .adopts handle => some handle
    | _ => none
  closes
    | .closes handle => some handle
    | .releases handle => some handle
    | .adopts _ => none

/-! ## What an operation does to the handles of the pool -/

def Owners.held (owners : Owners c) : Multiset Handle :=
  ↑(owners.flatMap UniqueCloser.held)

theorem held_nothing : (UniqueCloser.nothing : UniqueCloser c).held = [] := by
  rw [UniqueCloser.held, UniqueCloser.nothing, c.empty_unusable]
  rfl

theorem UniqueCloser.held_ofHandle {handle : Handle}
    (h : c.usable handle = true) :
    (ofHandle handle : UniqueCloser c).held = [handle] := by
  rw [ofHandle, dif_pos h, held, if_pos h]

theorem UniqueCloser.eq_nothing {owner : UniqueCloser c}
    (h : owner.held = []) : owner = nothing := by
  obtain ⟨handle, husable | hempty⟩ := owner
  · rw [held, if_pos husable] at h
    cases h
  · subst hempty
    rfl

/-- An owner that holds nothing adopts a handle without closing one. -/
theorem UniqueCloser.reset_nothing [DecidableEq Handle] {handle : Handle}
    (h : c.usable handle = true) :
    (nothing : UniqueCloser c).reset handle =
      (ofHandle handle, [.adopts handle]) := by
  have hne : (nothing : UniqueCloser c).handle ≠
      (ofHandle handle : UniqueCloser c).handle := by
    intro heq
    have hheld : (ofHandle handle : UniqueCloser c).held = [] := by
      rw [held, ← heq]
      exact held_nothing
    rw [held_ofHandle h] at hheld
    cases hheld
  rw [reset, if_neg hne, held_nothing, held_ofHandle h]
  rfl

theorem UniqueCloser.reset_empty [DecidableEq Handle]
    (owner : UniqueCloser c) :
    owner.reset c.empty = (nothing, owner.held.map .closes) := by
  have hempty : (ofHandle c.empty : UniqueCloser c) = nothing := by
    rw [ofHandle, dif_neg (by simp [c.empty_unusable])]
  rw [reset, hempty]
  split
  · rename_i hhandle
    have hheld : owner.held = [] := by
      rw [held, hhandle]
      exact held_nothing
    rw [hheld, eq_nothing hheld]
    rfl
  · rw [held_nothing, List.map_nil, List.append_nil]

theorem Owners.held_cons (owner : UniqueCloser c) (owners : Owners c) :
    Owners.held (owner :: owners) = ↑owner.held + Owners.held owners := by
  rw [Owners.held, List.flatMap_cons, ← Multiset.coe_add]
  rfl

theorem Owners.held_perm {owners owners' : Owners c}
    (h : owners.Perm owners') : owners.held = owners'.held :=
  Multiset.coe_eq_coe.mpr (h.flatMap_right _)

/-- The pool is one of its owners and the others. -/
theorem Owners.held_of_get {owners : Owners c} {position : ℕ}
    {owner : UniqueCloser c} (h : owners[position]? = some owner) :
    owners.held =
      ↑owner.held + Owners.held (owners.eraseIdx position) := by
  obtain ⟨hlt, rfl⟩ := List.getElem?_eq_some_iff.mp h
  rw [← Owners.held_cons]
  exact Owners.held_perm (List.getElem_cons_eraseIdx_perm hlt).symm

theorem Owners.held_set {owners : Owners c} {position : ℕ}
    {owner next : UniqueCloser c} (h : owners[position]? = some owner) :
    Owners.held (owners.set position next) =
      ↑next.held + Owners.held (owners.eraseIdx position) := by
  obtain ⟨hlt, -⟩ := List.getElem?_eq_some_iff.mp h
  rw [← Owners.held_cons]
  exact Owners.held_perm (List.set_perm_cons_eraseIdx hlt next)

section

variable [DecidableEq Handle]
variable {log : List (OwnerEvent Handle)} {held : Multiset Handle}

theorem holds_closing {handles : List Handle}
    (h : ownership.Holds [] log (↑handles + held)) :
    ownership.Holds [] (log ++ handles.map .closes) held := by
  refine Holds.append_closes ?_ ?_
  · rw [List.filterMap_map]
    exact (List.filterMap_some (l := handles)).symm ▸ h
  · rw [List.filterMap_map]
    exact List.filterMap_eq_nil_iff.mpr fun _ _ => rfl

theorem holds_releasing {handles : List Handle}
    (h : ownership.Holds [] log (↑handles + held)) :
    ownership.Holds [] (log ++ handles.map .releases) held := by
  refine Holds.append_closes ?_ ?_
  · rw [List.filterMap_map]
    exact (List.filterMap_some (l := handles)).symm ▸ h
  · rw [List.filterMap_map]
    exact List.filterMap_eq_nil_iff.mpr fun _ _ => rfl

theorem holds_adopting {handles : List Handle}
    (h : ownership.Holds [] log held) :
    ownership.Holds [] (log ++ handles.map .adopts)
      ((handles : Multiset Handle) + held) := by
  have hopened : (handles.map OwnerEvent.adopts).filterMap ownership.opens =
      handles := by
    rw [List.filterMap_map]
    exact List.filterMap_some
  have hcloses : ∀ e ∈ handles.map OwnerEvent.adopts,
      ownership.closes e = none := by
    simp [ownership]
  have hafter := h.append_opens hcloses
  rwa [hopened] at hafter

theorem UniqueCloser.reset_holds {owner : UniqueCloser c} {handle : Handle}
    (h : ownership.Holds [] log (↑owner.held + held)) :
    ownership.Holds [] (log ++ (owner.reset handle).2)
      (↑(owner.reset handle).1.held + held) := by
  unfold UniqueCloser.reset
  dsimp only
  split
  · rw [List.append_nil]
    exact h
  · rw [← List.append_assoc]
    exact holds_adopting (holds_closing h)

theorem OwnerOp.apply_holds (op : OwnerOp Handle) {owners : Owners c}
    (h : ownership.Holds [] log owners.held) :
    ownership.Holds [] (log ++ (op.apply owners).2)
      (Owners.held (op.apply owners).1) := by
  have hkeep : ownership.Holds [] (log ++ []) owners.held := by
    rw [List.append_nil]
    exact h
  cases op with
  | construct handle =>
      rw [OwnerOp.apply, Owners.held_cons]
      exact holds_adopting h
  | moveConstruct source =>
      rw [OwnerOp.apply]
      cases hsource : owners[source]? with
      | none => exact hkeep
      | some owner =>
          rw [Owners.held_of_get hsource] at hkeep
          dsimp only
          rw [Owners.held_cons, Owners.held_set hsource, held_nothing,
            Multiset.coe_nil, zero_add]
          exact hkeep
  | moveAssign target source =>
      rw [OwnerOp.apply]
      cases htarget : owners[target]? with
      | none => exact hkeep
      | some owner =>
          cases hsource : owners[source]? with
          | none => exact hkeep
          | some moved =>
              dsimp only
              split
              · exact hkeep
              rename_i hne
              -- The moved owner is still at its place while the target is
              -- overwritten.
              have hat : (owners.set target moved)[source]? = some moved := by
                rw [List.getElem?_set_ne hne, hsource]
              have hboth := Owners.held_of_get hat
              rw [Owners.held_set htarget] at hboth
              have hrest := add_left_cancel hboth
              rw [Owners.held_set hat, held_nothing, Multiset.coe_nil,
                zero_add, ← hrest]
              rw [Owners.held_of_get htarget] at h
              exact holds_closing h
  | reset position handle =>
      rw [OwnerOp.apply]
      cases hposition : owners[position]? with
      | none => exact hkeep
      | some owner =>
          rw [Owners.held_of_get hposition] at h
          dsimp only
          rw [Owners.held_set hposition]
          exact UniqueCloser.reset_holds h
  | release position =>
      rw [OwnerOp.apply]
      cases hposition : owners[position]? with
      | none => exact hkeep
      | some owner =>
          rw [Owners.held_of_get hposition] at h
          dsimp only
          rw [Owners.held_set hposition, held_nothing, Multiset.coe_nil,
            zero_add]
          exact holds_releasing h
  | destroy position =>
      rw [OwnerOp.apply]
      cases hposition : owners[position]? with
      | none => exact hkeep
      | some owner =>
          rw [Owners.held_of_get hposition] at h
          exact holds_closing h

theorem runOwners_holds (ops : List (OwnerOp Handle)) {owners : Owners c}
    (h : ownership.Holds [] log owners.held) :
    ownership.Holds [] (runOwners ops owners log).2
      (Owners.held (runOwners ops owners log).1) := by
  induction ops generalizing owners log with
  | nil => exact h
  | cons op ops ih => exact ih (op.apply_holds h)

/-- What the owners of a program do with the handles they adopted. -/
structure OwnersSettle (owners : Owners c) (log : List (OwnerEvent Handle)) :
    Prop where
  /-- At no point was a handle given back more often than adopted. -/
  sound : ∀ before, before <+: log ++ destroyAll owners → ∀ handle,
    ownership.closed before handle ≤ ownership.opened before handle
  /-- After the last destructor every adoption was given back. -/
  settled : ∀ handle, ownership.opened (log ++ destroyAll owners) handle =
    ownership.closed (log ++ destroyAll owners) handle
  /-- Two owners hold one value only when it was adopted twice. -/
  unique : ownership.OpensFresh log → owners.held.Nodup

/-- Every handle that an owner adopts is closed or released exactly once,
whatever is constructed, moved, assigned, reset or destroyed. -/
theorem runOwners_settle (c : Closer Handle) (ops : List (OwnerOp Handle)) :
    OwnersSettle (runOwners ops ([] : Owners c) []).1
      (runOwners ops ([] : Owners c) []).2 := by
  have hrun := runOwners_holds ops (show ownership.Holds [] [] (Owners.held ([] : Owners c)) from
      Holds.refl [])
  have hall : ownership.Holds [] ((runOwners ops ([] : Owners c) []).2 ++
      destroyAll (runOwners ops ([] : Owners c) []).1) 0 := by
    refine holds_closing ?_
    rw [add_zero]
    exact hrun
  have hbalanced := holds_nil_iff.mp hall
  exact ⟨hbalanced.sound, hbalanced.settled,
    fun hfresh => (holds_nil_iff.mp hrun).nodup hfresh⟩

end

end

/-- A kernel owner that is given its own handle again closes it once. -/
example : (runOwners [.construct 8, .reset 0 8, .reset 0 (2 ^ 64 - 1)]
    ([] : Owners kernelCloser) []).2 = [.adopts 8, .closes 8] := by
  decide

end Esptool
