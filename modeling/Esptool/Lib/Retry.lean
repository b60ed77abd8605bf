import Esptool.Lib.Interaction

/-!
# Asking again

`turns` are the events of numbered calls made in turn, and `retry` is the loop
that goes on to the next call only after a reply that wants another attempt.
A run of the loop appends the turns of one number of attempts, which
`StopsAfter` ties to the replies.
-/

namespace Interaction

section

variable {Tag Call Reply Notes : Type} (oracle : Oracle Tag Call Reply)
  (tag : Tag) (log : List (Event Tag Call Reply)) (callAt : ℕ → Call)

/-- The first `n` calls, each answered from the log behind the ones before
it. -/
def turns : ℕ → List (Event Tag Call Reply)
  | 0 => []
  | n + 1 =>
      turns n ++ [⟨tag, callAt n, oracle (log ++ turns n) (callAt n)⟩]

def turn (n : ℕ) : Event Tag Call Reply :=
  ⟨tag, callAt n, oracle (log ++ turns oracle tag log callAt n) (callAt n)⟩

theorem turns_succ (n : ℕ) :
    turns oracle tag log callAt (n + 1) =
      turns oracle tag log callAt n ++ [turn oracle tag log callAt n] := rfl

theorem turns_eq_map (n : ℕ) :
    turns oracle tag log callAt n =
      (List.range n).map (turn oracle tag log callAt) := by
  induction n with
  | zero => rfl
  | succ n ih =>
      calc
        turns oracle tag log callAt (n + 1) =
            (List.range n).map (turn oracle tag log callAt) ++
              [turn oracle tag log callAt n] := by rw [turns_succ, ih]
        _ = (List.range (n + 1)).map (turn oracle tag log callAt) := by
            rw [List.range_succ, List.map_append, List.map_singleton]

variable {oracle tag log callAt} {callAt' : ℕ → Call}

theorem turns_congr {n : ℕ} (h : ∀ k < n, callAt k = callAt' k) :
    turns oracle tag log callAt n = turns oracle tag log callAt' n := by
  induction n with
  | zero => rfl
  | succ n ih =>
      have hearlier := ih fun k hk => h k (Nat.lt_succ_of_lt hk)
      rw [turns, turns, hearlier, h n (Nat.lt_succ_self n)]

theorem turn_congr {n : ℕ} (h : ∀ k ≤ n, callAt k = callAt' k) :
    turn oracle tag log callAt n = turn oracle tag log callAt' n := by
  rw [turn, turn, turns_congr fun k hk => h k (Nat.le_of_lt hk),
    h n (Nat.le_refl n)]

end

/-! ## The loop -/

section

variable {Tag Call Reply Notes : Type} (oracle : Oracle Tag Call Reply)
  (callAt : ℕ → Call)

/-- The calls from `attempt` on, as long as attempts remain and the reply
wants another one. -/
def retry (again : Reply → Prop) [DecidablePred again] (attempt : ℕ) :
    ℕ → Reply → StateM (Journal Tag Call Reply Notes) Reply
  | 0, last => pure last
  | remaining + 1, _ => do
      let reply ← ask oracle (callAt attempt)
      if again reply then retry again (attempt + 1) remaining reply
      else return reply

/-- `n` attempts are what a loop with `limit` attempts makes of the replies:
all but the last one wanted another attempt, and so did the last one if the
loop ran out. -/
structure StopsAfter (again : Reply → Prop) (replyAt : ℕ → Reply)
    (limit n : ℕ) : Prop where
  bounded : n ≤ limit
  repeated : ∀ k, k + 1 < n → again (replyAt k)
  stopped : n < limit → 0 < n ∧ ¬ again (replyAt (n - 1))

/-- The loop after `attempt` calls, all of which wanted another. -/
structure Retrying (tag : Tag) (log : List (Event Tag Call Reply))
    (again : Reply → Prop) (attempt : ℕ) (last : Reply)
    (j : Journal Tag Call Reply Notes) : Prop where
  tagged : j.tag = tag
  logged : j.log = log ++ turns oracle tag log callAt attempt
  repeated : ∀ k < attempt, again (turn oracle tag log callAt k).reply
  last_eq : 0 < attempt →
    last = (turn oracle tag log callAt (attempt - 1)).reply

variable {oracle callAt} {tag : Tag} {log : List (Event Tag Call Reply)}
  {again : Reply → Prop} {attempt : ℕ} {last : Reply}
  {j : Journal Tag Call Reply Notes}

theorem Retrying.ask (h : Retrying oracle callAt tag log again attempt last j)
    (hagain : again (turn oracle tag log callAt attempt).reply) :
    Retrying oracle callAt tag log again (attempt + 1)
      (turn oracle tag log callAt attempt).reply
      (ask oracle (callAt attempt) j).2 := by
  refine ⟨h.tagged, ?_, ?_, fun _ => rfl⟩
  · rw [ask_run, turns_succ, ← List.append_assoc, ← h.logged, turn,
      ← h.logged, h.tagged]
  · intro k hk
    rcases Nat.lt_succ_iff_lt_or_eq.mp hk with hk | rfl
    · exact h.repeated k hk
    · exact hagain

variable [DecidablePred again]

/-- A run of the loop appends its turns, keeps the notes and returns the
last reply. -/
theorem retry_run (remaining : ℕ)
    (h : Retrying oracle callAt tag log again attempt last j) :
    ∃ n, attempt ≤ n ∧
      (retry oracle callAt again attempt remaining last j).2 =
        { j with log := log ++ turns oracle tag log callAt n } ∧
      (0 < n → (retry oracle callAt again attempt remaining last j).1 =
        (turn oracle tag log callAt (n - 1)).reply) ∧
      StopsAfter again (fun k => (turn oracle tag log callAt k).reply)
        (attempt + remaining) n := by
  induction remaining generalizing attempt last j with
  | zero =>
      refine ⟨attempt, Nat.le_refl _, ?_, h.last_eq, Nat.le_refl _, ?_, ?_⟩
      · rw [← h.logged]
        rfl
      · exact fun k hk => h.repeated k (by omega)
      · exact fun hlt => absurd hlt (Nat.lt_irrefl _)
  | succ remaining ih =>
      have hreply : (ask oracle (callAt attempt) j).1 =
          (turn oracle tag log callAt attempt).reply := by
        rw [ask_run, turn, ← h.logged]
      by_cases hagain : again (turn oracle tag log callAt attempt).reply
      · have hstep : retry oracle callAt again attempt (remaining + 1) last j =
            retry oracle callAt again (attempt + 1) remaining
              (turn oracle tag log callAt attempt).reply
              (ask oracle (callAt attempt) j).2 := by
          rw [retry, bind_run, hreply]
          exact congrFun (if_pos hagain) _
        obtain ⟨n, hle, hjournal, hvalue, hstops⟩ := ih (h.ask hagain)
        rw [Nat.add_right_comm, Nat.add_assoc] at hstops
        refine ⟨n, Nat.le_of_succ_le hle, ?_, ?_, hstops⟩
        · rw [hstep, hjournal, ask_run]
        · rw [hstep]
          exact hvalue
      · have hstep : retry oracle callAt again attempt (remaining + 1) last j =
            ((turn oracle tag log callAt attempt).reply,
              (ask oracle (callAt attempt) j).2) := by
          rw [retry, bind_run, hreply]
          exact congrFun (if_neg hagain) _
        refine ⟨attempt + 1, Nat.le_succ _, ?_, ?_, by omega, ?_, ?_⟩
        · rw [hstep, turns_succ, ← List.append_assoc, ← h.logged, ask_run,
            turn, ← h.logged, h.tagged]
        · rw [hstep]
          exact fun _ => rfl
        · exact fun k hk => h.repeated k (by omega)
        · exact fun _ => ⟨Nat.succ_pos _, hagain⟩

/-- The loop from its start. -/
theorem retry_run_start (oracle : Oracle Tag Call Reply)
    (callAt : ℕ → Call) (again : Reply → Prop) [DecidablePred again]
    (limit : ℕ) (last : Reply)
    (j : Journal Tag Call Reply Notes) :
    ∃ n, (retry oracle callAt again 0 limit last j).2 =
        { j with log := j.log ++ turns oracle j.tag j.log callAt n } ∧
      StopsAfter again (fun k => (turn oracle j.tag j.log callAt k).reply)
        limit n := by
  have hstart : Retrying oracle callAt j.tag j.log again 0 last j :=
    ⟨rfl, (List.append_nil _).symm, by simp, by simp⟩
  obtain ⟨n, -, hjournal, -, hstops⟩ := retry_run limit hstart
  rw [Nat.zero_add] at hstops
  exact ⟨n, hjournal, hstops⟩

end

end Interaction
