import Mathlib.Data.List.Basic

/-!
# Whole transfers made of partial ones

A byte-mode channel moves any part of what one call asks for, so whole
messages are moved by a loop.  The calls that will be made are given as a
list of outcomes, which stands for every way the channel can split, delay or
break a transfer; a list that ends early is a channel that stopped answering.

`size` is the count that one call is given when so many items are still
outstanding.  It need not be that number: a loop whose count is cut to the
width of a machine word cannot get past a remainder for which the count is
zero (`send_length_lt`).
-/

namespace Transfer

/-- What one call did: the items it moved and the error it reported. -/
structure Call (ε : Type) where
  moved : Nat
  error : Option ε := none

inductive Failure (ε : Type)
  | reported (error : ε)
  | closed
  | timedOut

section

variable {α ε : Type}

/-- Write all the items; the second component is what got through. -/
def send (size : Nat → Nat) :
    List (Call ε) → List α → Option (Failure ε) × List α
  | _, [] => (none, [])
  | [], _ :: _ => (some .timedOut, [])
  | call :: calls, x :: xs =>
      let count := min call.moved (size (xs.length + 1))
      match call.error with
      | some error => (some (.reported error), (x :: xs).take count)
      | none =>
          if count = 0 then (some .closed, [])
          else
            let rest := send size calls ((x :: xs).drop count)
            (rest.1, (x :: xs).take count ++ rest.2)

/-- Read exactly `wanted` items of the stream; the calls and the items that
are left over come back with the result. -/
def receive (size : Nat → Nat) :
    List (Call ε) → Nat → List α →
      Except (Failure ε) (List α) × List (Call ε) × List α
  | calls, 0, stream => (.ok [], calls, stream)
  | [], _ + 1, stream => (.error .timedOut, [], stream)
  | call :: calls, wanted + 1, stream =>
      let count := min (min call.moved (size (wanted + 1))) stream.length
      match call.error with
      | some error => (.error (.reported error), calls, stream.drop count)
      | none =>
          if count = 0 then (.error .closed, calls, stream)
          else
            let rest := receive size calls (wanted + 1 - count)
              (stream.drop count)
            (rest.1.map (stream.take count ++ ·), rest.2)

variable {size : Nat → Nat}

theorem map_eq_ok {β : Type} {f : α → β} {result : Except ε α} {b : β}
    (h : result.map f = .ok b) : ∃ a, result = .ok a ∧ b = f a := by
  cases result with
  | error e => simp [Except.map] at h
  | ok a => exact ⟨a, rfl, by simpa [Except.map] using h.symm⟩

theorem send_initial (size : Nat → Nat) (calls : List (Call ε))
    (items : List α) :
    ∃ rest, items = (send size calls items).2 ++ rest := by
  induction calls generalizing items with
  | nil =>
      cases items with
      | nil => exact ⟨[], rfl⟩
      | cons x xs => exact ⟨x :: xs, rfl⟩
  | cons call calls ih =>
      cases items with
      | nil => exact ⟨[], rfl⟩
      | cons x xs =>
          unfold send
          cases call.error with
          | some error => exact ⟨_, (List.take_append_drop _ _).symm⟩
          | none =>
              dsimp only
              split
              · exact ⟨x :: xs, rfl⟩
              · obtain ⟨rest, hrest⟩ := ih
                  ((x :: xs).drop (min call.moved (size (xs.length + 1))))
                refine ⟨rest, ?_⟩
                rw [List.append_assoc, ← hrest, List.take_append_drop]

theorem send_delivers (calls : List (Call ε)) (items : List α)
    (h : (send size calls items).1 = none) :
    (send size calls items).2 = items := by
  induction calls generalizing items with
  | nil =>
      cases items with
      | nil => rfl
      | cons x xs => simp [send] at h
  | cons call calls ih =>
      cases items with
      | nil => rfl
      | cons x xs =>
          unfold send at h ⊢
          cases herror : call.error with
          | some error => simp [herror] at h
          | none =>
              simp only [herror] at h ⊢
              split at h
              · simp at h
              · rename_i hmoved
                rw [if_neg hmoved]
                have hrest := ih _ h
                rw [hrest, List.take_append_drop]

/-- A remainder for which the count is zero, and which no call can step over,
is never passed. -/
theorem send_length_lt {stuck : Nat} (hpos : 0 < stuck)
    (hsize : ∀ n, stuck ≤ n → size n ≤ n - stuck)
    (calls : List (Call ε)) (items : List α)
    (h : (send size calls items).1 = none) : items.length < stuck := by
  induction calls generalizing items with
  | nil =>
      cases items with
      | nil => exact hpos
      | cons x xs => simp [send] at h
  | cons call calls ih =>
      cases items with
      | nil => exact hpos
      | cons x xs =>
          by_contra hlong
          simp only [List.length_cons] at hlong
          unfold send at h
          cases herror : call.error with
          | some error => simp [herror] at h
          | none =>
              simp only [herror] at h
              split at h
              · simp at h
              · have hrest := ih _ h
                have hcount := hsize (xs.length + 1) (by omega)
                simp only [List.length_drop, List.length_cons] at hrest
                omega

theorem receive_ok (hsize : ∀ n, size n ≤ n) (calls : List (Call ε))
    (wanted : Nat) (stream items : List α)
    (h : (receive size calls wanted stream).1 = .ok items) :
    items.length = wanted ∧
      stream = items ++ (receive size calls wanted stream).2.2 := by
  induction calls generalizing wanted stream items with
  | nil =>
      cases wanted with
      | zero =>
          simp only [receive, Except.ok.injEq] at h ⊢
          subst h
          simp
      | succ wanted => simp [receive] at h
  | cons call calls ih =>
      cases wanted with
      | zero =>
          simp only [receive, Except.ok.injEq] at h ⊢
          subst h
          simp
      | succ wanted =>
          unfold receive at h ⊢
          cases herror : call.error with
          | some error => simp [herror] at h
          | none =>
              simp only [herror] at h ⊢
              split at h
              · simp at h
              · rename_i hmoved
                rw [if_neg hmoved]
                have hcount := hsize (wanted + 1)
                obtain ⟨tail, htail, hitems⟩ := map_eq_ok h
                obtain ⟨hlength, hstream⟩ := ih _ _ _ htail
                subst hitems
                refine ⟨?_, ?_⟩
                · simp only [List.length_append, hlength, List.length_take]
                  omega
                · rw [List.append_assoc, ← hstream, List.take_append_drop]

/-! ## Channels that keep moving -/

/-- Every call moves something, and there are calls for `count` items. -/
structure Chunked (calls : List (Call ε)) (count : Nat) : Prop where
  moves : ∀ call ∈ calls, call.error = none ∧ 0 < call.moved
  enough : count ≤ calls.length

theorem Chunked.tail {call : Call ε} {calls : List (Call ε)}
    {count moved : Nat} (h : Chunked (call :: calls) count)
    (hmoved : 0 < moved) : Chunked calls (count - moved) := by
  have henough := h.enough
  rw [List.length_cons] at henough
  exact ⟨fun call hcall => h.moves call (List.mem_cons_of_mem _ hcall),
    by omega⟩

theorem Chunked.mono {calls : List (Call ε)} {count fewer : Nat}
    (h : Chunked calls count) (hle : fewer ≤ count) : Chunked calls fewer :=
  ⟨h.moves, Nat.le_trans hle h.enough⟩

/-- Such a channel takes everything for which no count is zero. -/
theorem send_chunked {bound : Nat}
    (hsize : ∀ n, 0 < n → n ≤ bound → 0 < size n) (calls : List (Call ε))
    (items : List α) (hbound : items.length ≤ bound)
    (h : Chunked calls items.length) : (send size calls items).1 = none := by
  induction calls generalizing items with
  | nil =>
      cases items with
      | nil => rfl
      | cons x xs => exact absurd h.enough (by simp)
  | cons call calls ih =>
      cases items with
      | nil => rfl
      | cons x xs =>
          obtain ⟨hnone, hmoved⟩ := h.moves call List.mem_cons_self
          have hpositive := hsize (xs.length + 1) (by omega) hbound
          have hcount : 0 < min call.moved (size (xs.length + 1)) := by
            omega
          unfold send
          rw [hnone]
          dsimp only
          rw [if_neg (by omega)]
          refine ih _ ?_ ?_
          · rw [List.length_drop]
            exact Nat.le_trans (Nat.sub_le _ _) hbound
          · rw [List.length_drop]
            exact h.tail hcount

/-- Such a channel hands over the items that are there, however it cuts
them. -/
theorem receive_chunked {bound : Nat}
    (hsize : ∀ n, 0 < n → n ≤ bound → 0 < size n ∧ size n ≤ n)
    (more : Nat) (calls : List (Call ε)) (wanted : Nat) (stream : List α)
    (hbound : wanted ≤ bound) (hstream : wanted ≤ stream.length)
    (h : Chunked calls (wanted + more)) :
    ∃ calls', receive size calls wanted stream =
        (.ok (stream.take wanted), calls', stream.drop wanted) ∧
      Chunked calls' more := by
  induction calls generalizing wanted stream with
  | nil =>
      cases wanted with
      | zero => exact ⟨[], rfl, h.mono (Nat.le_add_left _ _)⟩
      | succ wanted => exact absurd h.enough (by simp)
  | cons call calls ih =>
      cases wanted with
      | zero => exact ⟨call :: calls, rfl, h.mono (Nat.le_add_left _ _)⟩
      | succ wanted =>
          obtain ⟨hnone, hmoved⟩ := h.moves call List.mem_cons_self
          obtain ⟨hpositive, hle⟩ := hsize (wanted + 1) (by omega) hbound
          generalize hcount : min (min call.moved (size (wanted + 1)))
            stream.length = count
          have hsome : 0 < count ∧ count ≤ wanted + 1 := by
            omega
          obtain ⟨calls', hrest, hchunked⟩ := ih (wanted + 1 - count)
            (stream.drop count) (by omega)
            (by rw [List.length_drop]; omega)
            ((h.tail hsome.1).mono (by omega))
          refine ⟨calls', ?_, hchunked⟩
          unfold receive
          rw [hnone, hcount]
          dsimp only
          rw [if_neg (by omega), hrest]
          have htake : stream.take (wanted + 1) = stream.take count ++
              (stream.drop count).take (wanted + 1 - count) := by
            rw [← List.take_add]
            congr 1
            omega
          have hdrop : (stream.drop count).drop (wanted + 1 - count) =
              stream.drop (wanted + 1) := by
            rw [List.drop_drop]
            congr 1
            omega
          rw [htake, hdrop]
          rfl

end

end Transfer
