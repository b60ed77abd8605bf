import Mathlib.Data.List.Basic

/-!
# Loops over indexed lists

An invariant rule for a loop that carries the position of its element, and
the two-index loop that squeezes the dead slots out of the tail of a vector:
from `start` on it keeps exactly the slots the predicate keeps, in order, and
it never touches the slots before `start`.
-/

namespace Loops

/-- A loop over a list with positions, one element at a time. -/
theorem foldl_zipIdx_invariant {α σ : Type} {f : σ → α × Nat → σ}
    {xs : List α} {init : σ} {motive : Nat → σ → Prop}
    (hinit : motive 0 init)
    (hstep : ∀ k st x, xs[k]? = some x → motive k st →
      motive (k + 1) (f st (x, k))) :
    motive xs.length (xs.zipIdx.foldl f init) := by
  suffices hgeneral : ∀ (rest : List α) (k : Nat) (st : σ),
      (∀ i, rest[i]? = xs[k + i]?) → k + rest.length = xs.length →
      motive k st → motive xs.length ((rest.zipIdx k).foldl f st) by
    exact hgeneral xs 0 init (by simp) (by simp) hinit
  intro rest
  induction rest with
  | nil =>
      intro k st _ hlen hmotive
      have hk : k = xs.length := by simpa using hlen
      simpa [hk] using hk ▸ hmotive
  | cons x rest ih =>
      intro k st hrest hlen hmotive
      rw [List.zipIdx_cons, List.foldl_cons]
      apply ih
      · intro i
        have hi := hrest (i + 1)
        rw [List.getElem?_cons_succ] at hi
        rw [hi]
        congr 1
        omega
      · simp only [List.length_cons] at hlen
        omega
      · exact hstep k st x (by simpa using (hrest 0).symm) hmotive

/-- A loop that collects: each turn adds to the list the elements that its
item yields. -/
theorem mem_foldl_iff {α β : Type} {f : List β → α → List β}
    {yields : α → β → Prop}
    (hstep : ∀ st a b, b ∈ f st a ↔ b ∈ st ∨ yields a b)
    (items : List α) (st : List β) (b : β) :
    b ∈ items.foldl f st ↔ b ∈ st ∨ ∃ a ∈ items, yields a b := by
  induction items generalizing st with
  | nil => simp
  | cons a rest ih =>
      rw [List.foldl_cons, ih, hstep, or_assoc]
      simp

section

variable {α κ : Type} [BEq κ] {key : α → κ}

/-- The loop that lists an item unless its key is listed already. -/
def keepFirst (key : α → κ) (out items : List α) : List α :=
  items.foldl (fun out a =>
    if out.any fun b => key b == key a then out else out ++ [a]) out

theorem keepFirst_cons (out items : List α) (a : α) :
    keepFirst key out (a :: items) =
      keepFirst key
        (if out.any fun b => key b == key a then out else out ++ [a]) items :=
  rfl

theorem keepFirst_append (out first second : List α) :
    keepFirst key out (first ++ second) =
      keepFirst key (keepFirst key out first) second :=
  List.foldl_append

/-- What is listed stays in front. -/
theorem prefix_keepFirst (out items : List α) :
    out <+: keepFirst key out items := by
  induction items generalizing out with
  | nil => exact List.prefix_refl out
  | cons a items ih =>
      rw [keepFirst_cons]
      split
      · exact ih out
      · exact (List.prefix_append out [a]).trans (ih (out ++ [a]))

variable [LawfulBEq κ]

theorem keepFirst_of_nodup {out items : List α}
    (h : ((out ++ items).map key).Nodup) :
    keepFirst key out items = out ++ items := by
  induction items generalizing out with
  | nil => exact (List.append_nil out).symm
  | cons a items ih =>
      have hfresh : (out.any fun b => key b == key a) = false := by
        rw [List.any_eq_false]
        intro b hb hkey
        rw [List.map_append, List.nodup_append] at h
        exact h.2.2 (key b) (List.mem_map_of_mem hb) (key a)
          (List.mem_map_of_mem List.mem_cons_self) (eq_of_beq hkey)
      rw [keepFirst_cons, hfresh, if_neg Bool.false_ne_true, ih (by simpa using h),
        List.append_assoc]
      rfl

theorem keepFirst_keys_nodup {out : List α} (hout : (out.map key).Nodup)
    (items : List α) : ((keepFirst key out items).map key).Nodup := by
  induction items generalizing out with
  | nil => exact hout
  | cons a items ih =>
      rw [keepFirst_cons]
      apply ih
      split
      · exact hout
      · rename_i hfresh
        have hnew : key a ∉ out.map key := by
          intro hold
          obtain ⟨b, hb, hkey⟩ := List.mem_map.mp hold
          exact hfresh (List.any_eq_true.mpr ⟨b, hb, beq_iff_eq.mpr hkey⟩)
        rw [List.map_append, List.nodup_append]
        refine ⟨hout, by simp, ?_⟩
        intro k hk k' hk' heq
        rw [List.map_singleton, List.mem_singleton] at hk'
        exact hnew (hk' ▸ heq ▸ hk)

/-- Under each key the loop lists the first item of that key. -/
theorem find?_keepFirst (out items : List α) (k : κ) :
    (keepFirst key out items).find? (fun a => key a == k) =
      (out ++ items).find? fun a => key a == k := by
  induction items generalizing out with
  | nil => rw [List.append_nil]; rfl
  | cons a items ih =>
      rw [keepFirst_cons, ih]
      split
      · rename_i hold
        obtain ⟨b, hb, hkey⟩ := List.any_eq_true.mp hold
        rw [List.find?_append, List.find?_append, List.find?_cons]
        split
        · -- the item that is left out has the key of one before it
          rename_i hfound
          have hbefore : (out.find? fun a => key a == k).isSome := by
            rw [List.find?_isSome]
            refine ⟨b, hb, ?_⟩
            rwa [beq_iff_eq.mp hkey]
          obtain ⟨first, hfirst⟩ := Option.isSome_iff_exists.mp hbefore
          rw [hfirst, Option.some_or, Option.some_or]
        · rfl
      · rw [List.append_assoc]
        rfl

theorem find?_of_keys_nodup {items : List α} (hitems : (items.map key).Nodup)
    {a : α} (ha : a ∈ items) :
    (items.find? fun b => key b == key a) = some a := by
  induction items with
  | nil => cases ha
  | cons first items ih =>
      rw [List.map_cons, List.nodup_cons] at hitems
      rcases List.mem_cons.mp ha with rfl | ha
      · exact List.find?_cons_of_pos (by simp)
      · have hne : key first ≠ key a := fun heq =>
          hitems.1 (heq ▸ List.mem_map_of_mem ha)
        rw [List.find?_cons_of_neg (by simpa using hne)]
        exact ih hitems.2 ha

end

/-- The first hit of a search over consecutive positions. -/
theorem findSome?_range' {β : Type} {f : Nat → Option β}
    {start count hit : Nat} {b : β} (hstart : start ≤ hit)
    (hlimit : hit < start + count) (hhit : f hit = some b)
    (hbefore : ∀ i, start ≤ i → i < hit → f i = none) :
    (List.range' start count).findSome? f = some b := by
  induction count generalizing start with
  | zero => omega
  | succ count ih =>
      rw [List.range'_succ, List.findSome?_cons]
      by_cases hfirst : start = hit
      · rw [hfirst, hhit]
      · rw [hbefore start (by omega) (by omega)]
        exact ih (by omega) (by omega) fun i hi hlt => hbefore i (by omega) hlt

theorem split_append {α : Type} {xs ys before after : List α} {x : α}
    (h : xs ++ ys = before ++ x :: after) :
    (∃ rest, xs = before ++ x :: rest) ∨
      ∃ middle, before = xs ++ middle ∧ ys = middle ++ x :: after := by
  rcases List.append_eq_append_iff.mp h with
    ⟨middle, hbefore, hys⟩ | ⟨rest, hxs, hafter⟩
  · exact .inr ⟨middle, hbefore, hys⟩
  · cases rest with
    | nil =>
        rw [List.append_nil] at hxs
        exact .inr ⟨[], by rw [hxs, List.append_nil], hafter.symm⟩
    | cons y rest =>
        rw [List.cons_append, List.cons.injEq] at hafter
        exact .inl ⟨rest, by rw [hxs, hafter.1]⟩

/-- Looking the positions of a range up in a list sorted by position gives
back its values in order. -/
theorem filterMap_range'_lookup {α : Type} (n : Nat) :
    ∀ (start : Nat) (xs : List (Nat × α)),
      xs.Pairwise (fun x y => x.1 < y.1) →
      (∀ x ∈ xs, start ≤ x.1 ∧ x.1 < start + n) →
      (List.range' start n).filterMap (fun i => xs.lookup i) =
        xs.map Prod.snd := by
  induction n with
  | zero =>
      intro start xs _ hbounds
      cases xs with
      | nil => rfl
      | cons x rest =>
          have hx := hbounds x List.mem_cons_self
          omega
  | succ n ih =>
      intro start xs hsorted hbounds
      rw [List.range'_succ]
      cases xs with
      | nil => simp
      | cons x rest =>
          obtain ⟨key, value⟩ := x
          rw [List.pairwise_cons] at hsorted
          have hx := hbounds (key, value) List.mem_cons_self
          by_cases hkey : key = start
          · subst hkey
            have hrest := ih (key + 1) rest hsorted.2 fun y hy => by
              have hy' := hbounds y (List.mem_cons_of_mem _ hy)
              have hlt := hsorted.1 y hy
              dsimp only at hlt
              omega
            have hlater : (List.range' (key + 1) n).filterMap
                (fun i => ((key, value) :: rest).lookup i) =
                (List.range' (key + 1) n).filterMap
                  (fun i => rest.lookup i) := by
              apply List.filterMap_congr
              intro i hi
              rw [List.mem_range'_1] at hi
              rw [List.lookup_cons, beq_eq_false_iff_ne.mpr (by omega)]
            rw [List.filterMap_cons, List.lookup_cons, beq_self_eq_true,
              hlater, hrest]
            rfl
          · have hall := ih (start + 1) ((key, value) :: rest)
              (List.pairwise_cons.mpr hsorted) fun y hy => by
                have hy' := hbounds y hy
                rcases List.mem_cons.mp hy with rfl | hy
                · dsimp only at hy' hx ⊢
                  omega
                · have hlt := hsorted.1 y hy
                  dsimp only at hlt hx
                  omega
            have hnone : ((key, value) :: rest).lookup start = none := by
              rw [List.lookup_eq_none_iff]
              intro y hy
              rcases List.mem_cons.mp hy with rfl | hy
              · simpa using fun h => hkey h.symm
              · have hlt := hsorted.1 y hy
                dsimp only at hlt hx
                exact bne_iff_ne.mpr (by omega)
            rw [List.filterMap_cons, hnone]
            exact hall

variable {α : Type}

/-- One iteration at index `read`; the state is the vector and the write
index. -/
def compactStep (keep : α → Bool) (st : List α × Nat) (read : Nat) :
    List α × Nat :=
  match st.1[read]? with
  | some x =>
      if keep x then
        (if st.2 ≠ read then st.1.set st.2 x else st.1, st.2 + 1)
      else st
  | none => st

def compactFrom (keep : α → Bool) (start : Nat) (xs : List α) : List α :=
  let st := (List.range' start (xs.length - start)).foldl
    (compactStep keep) (xs, start)
  st.1.take st.2

theorem compactStep_of_keep
    {keep : α → Bool} {ys : List α} {write read : Nat}
    (hread : read < ys.length) (hkeep : keep ys[read] = true) :
    compactStep keep (ys, write) read =
      (if write ≠ read then ys.set write ys[read] else ys, write + 1) := by
  simp [compactStep, hread, hkeep]

theorem compactStep_of_not_keep
    {keep : α → Bool} {ys : List α} {write read : Nat}
    (hread : read < ys.length) (hkeep : keep ys[read] = false) :
    compactStep keep (ys, write) read = (ys, write) := by
  simp [compactStep, hread, hkeep]

theorem take_write_succ
    {ys : List α} {write read : Nat}
    (hread : read < ys.length) (hle : write ≤ read) :
    (if write ≠ read then ys.set write ys[read] else ys).take (write + 1) =
      ys.take write ++ [ys[read]] := by
  have hwrite : write < ys.length := by omega
  split
  · rw [List.take_succ_eq_append_getElem (by simpa using hwrite)]
    simp [List.take_set_of_le]
  · have heq : write = read := by omega
    subst heq
    rw [List.take_succ_eq_append_getElem hwrite]

theorem drop_read_succ
    {ys : List α} {write read : Nat}
    (hread : read < ys.length) (hle : write ≤ read) :
    (if write ≠ read then ys.set write ys[read] else ys).drop (read + 1) =
      ys.drop (read + 1) := by
  split
  · rw [List.drop_set_of_lt (by omega)]
  · rfl

/-- The loop from any read index: the slots below the write index stay, and
the kept slots among the unread ones follow them. -/
theorem take_foldl_compactStep (keep : α → Bool) (n : Nat) :
    ∀ (ys : List α) (write read : Nat),
      write ≤ read → read + n = ys.length →
      (let st := (List.range' read n).foldl (compactStep keep) (ys, write)
       st.1.take st.2) =
        ys.take write ++ (ys.drop read).filter keep := by
  induction n with
  | zero =>
      intro ys write read hle hlen
      simp [List.drop_eq_nil_of_le (show ys.length ≤ read by omega)]
  | succ n ih =>
      intro ys write read hle hlen
      have hread : read < ys.length := by omega
      rw [List.range'_succ, List.foldl_cons,
        List.drop_eq_getElem_cons hread]
      cases hkeep : keep ys[read] with
      | true =>
          rw [compactStep_of_keep hread hkeep]
          have hlength :
              read + 1 + n =
                (if write ≠ read then ys.set write ys[read]
                  else ys).length := by
            split
            · rw [List.length_set]
              omega
            · omega
          have hih := ih (if write ≠ read then ys.set write ys[read] else ys)
            (write + 1) (read + 1) (by omega) hlength
          rw [take_write_succ hread hle, drop_read_succ hread hle] at hih
          rw [hih, List.filter_cons_of_pos hkeep]
          simp
      | false =>
          rw [compactStep_of_not_keep hread hkeep,
            List.filter_cons_of_neg (by simp [hkeep])]
          exact ih ys write (read + 1) (by omega) (by omega)

theorem compactFrom_eq (keep : α → Bool) {start : Nat} {xs : List α}
    (hstart : start ≤ xs.length) :
    compactFrom keep start xs =
      xs.take start ++ (xs.drop start).filter keep := by
  have hsteps := take_foldl_compactStep keep (xs.length - start) xs start
    start (Nat.le_refl start)
  exact hsteps (by omega)

end Loops
