import Harvest.Interpreter
/-!
How waiting for a document ends. All looks but the last one are in vain: they come in time, show
that the document is not ready, and leave time for the next one. The last one shows that it is
ready, fails, or is the one at which the time is up. If every look is in vain then waiting goes on
for good, which only looks at once after one another can be.
-/

namespace Harvest.Loading

section

variable (d : LiveDocument) (selectors : List Css.Selector) (p : Patience)

/-- When a look begins, and when it is over. -/
def begins : Nat → Nat
  | 0 => 0
  | n + 1 => begins n + (d n).delay + p.interval

def isOver (n : Nat) : Nat := begins d p n + (d n).delay

/-- A look that shows that the document is not ready, with time for another one. -/
structure Vain (n : Nat) : Prop where
  unready : ∃ html, (d n).result = .ok html ∧ isReady selectors html = false
  goesOn : begins d p (n + 1) ≤ p.timeout

/-- How waiting may end with the look of some number. -/
inductive EndsAt (n : Nat) : Ending → Prop
  | slow (h : p.timeout < isOver d p n) : EndsAt n ⟨.error (.timeout p.timeout), p.timeout, n + 1⟩
  | failed (hle : isOver d p n ≤ p.timeout) {e : Error} (h : (d n).result = .error e) :
    EndsAt n ⟨.error e, isOver d p n, n + 1⟩
  | ready (hle : isOver d p n ≤ p.timeout) {html : String} (h : (d n).result = .ok html)
      (hready : isReady selectors html) : EndsAt n ⟨.ok n, isOver d p n, n + 1⟩
  | timedOut (hle : isOver d p n ≤ p.timeout) {html : String} (h : (d n).result = .ok html)
      (hready : isReady selectors html = false) (hlate : p.timeout < begins d p (n + 1)) :
    EndsAt n ⟨.error (.timeout p.timeout), p.timeout, n + 1⟩

end

variable {d : LiveDocument} {selectors : List Css.Selector} {p : Patience} {e : Ending} {n : Nat}

/-- A look is in vain or the last one. -/
theorem vain_or_endsAt (d : LiveDocument) (selectors : List Css.Selector) (p : Patience) (n : Nat) :
    Vain d selectors p n ∨ ∃ e, EndsAt d selectors p n e := by
  rcases Nat.lt_or_ge p.timeout (isOver d p n) with hslow | hle
  · exact .inr ⟨_, .slow hslow⟩
  · cases h : (d n).result with
    | error e => exact .inr ⟨_, .failed hle h⟩
    | ok html =>
      cases hready : isReady selectors html with
      | true => exact .inr ⟨_, .ready hle h hready⟩
      | false =>
        rcases Nat.lt_or_ge p.timeout (begins d p (n + 1)) with hlate | hnext
        · exact .inr ⟨_, .timedOut hle h hready hlate⟩
        · exact .inl ⟨⟨html, h, hready⟩, hnext⟩

theorem poll_begins (d : LiveDocument) (selectors : List Css.Selector) (p : Patience) (n : Nat) :
    p.poll d selectors n (begins d p n) =
      if p.timeout < isOver d p n then some ⟨.error (.timeout p.timeout), p.timeout, n + 1⟩
      else
        match (d n).result with
        | .error e => some ⟨.error e, isOver d p n, n + 1⟩
        | .ok html =>
          if isReady selectors html then some ⟨.ok n, isOver d p n, n + 1⟩
          else if p.timeout < begins d p (n + 1) then
            some ⟨.error (.timeout p.timeout), p.timeout, n + 1⟩
          else p.poll d selectors (n + 1) (begins d p (n + 1)) := by
  rw [Patience.poll]
  rfl

theorem poll_of_vain (h : Vain d selectors p n) :
    p.poll d selectors n (begins d p n) = p.poll d selectors (n + 1) (begins d p (n + 1)) := by
  obtain ⟨html, hshown, hready⟩ := h.unready
  have hnext := h.goesOn
  have hbegins : begins d p (n + 1) = isOver d p n + p.interval := rfl
  rw [poll_begins, if_neg (by omega), hshown]
  dsimp only
  rw [hready, if_neg Bool.false_ne_true, if_neg (by omega)]

theorem poll_of_endsAt (h : EndsAt d selectors p n e) :
    p.poll d selectors n (begins d p n) = some e := by
  rw [poll_begins]
  cases h with
  | slow h => rw [if_pos h]
  | failed hle h => rw [if_neg (Nat.not_lt.2 hle), h]
  | ready hle h hready =>
    rw [if_neg (Nat.not_lt.2 hle), h]
    dsimp only
    rw [if_pos hready]
  | timedOut hle h hready hlate =>
    rw [if_neg (Nat.not_lt.2 hle), h]
    dsimp only
    rw [hready, if_neg Bool.false_ne_true, if_pos hlate]

theorem poll_eq_of_vain (h : ∀ k < n, Vain d selectors p k) :
    p.poll d selectors 0 0 = p.poll d selectors n (begins d p n) := by
  induction n with
  | zero => rfl
  | succ n ih => rw [ih fun k hk => h k (by omega), poll_of_vain (h n (by omega))]

/-- What waiting from a look on ends with, some look from it on ends with, the looks between being
    in vain. -/
theorem endsAt_of_poll {look start : Nat} (h : p.poll d selectors look start = some e)
    (hstart : start = begins d p look) (hvain : ∀ k < look, Vain d selectors p k) :
    ∃ n, (∀ k < n, Vain d selectors p k) ∧ EndsAt d selectors p n e := by
  -- by induction over the approximations of the loop
  refine Patience.poll.partial_correctness p d selectors
    (fun look start e => start = begins d p look → (∀ k < look, Vain d selectors p k) →
      ∃ n, (∀ k < n, Vain d selectors p k) ∧ EndsAt d selectors p n e)
    ?_ look start e h hstart hvain
  intro rec ih look start e hrec hstart hvain
  subst hstart
  dsimp only at hrec
  split at hrec
  · rename_i hslow
    cases hrec
    exact ⟨look, hvain, .slow hslow⟩
  · rename_i hle
    have hle : isOver d p look ≤ p.timeout := Nat.not_lt.1 hle
    split at hrec
    · rename_i e' hfailed
      cases hrec
      exact ⟨look, hvain, .failed hle hfailed⟩
    · rename_i html hshown
      split at hrec
      · rename_i hready
        cases hrec
        exact ⟨look, hvain, .ready hle hshown hready⟩
      · rename_i hready
        split at hrec
        · rename_i hlate
          cases hrec
          exact ⟨look, hvain, .timedOut hle hshown (by simpa using hready) hlate⟩
        · rename_i hnext
          have hlook : Vain d selectors p look :=
            ⟨⟨html, hshown, by simpa using hready⟩, Nat.not_lt.1 hnext⟩
          refine ih _ _ _ hrec rfl fun k hk => ?_
          rcases Nat.lt_succ_iff_lt_or_eq.1 hk with hk | rfl
          · exact hvain k hk
          · exact hlook

theorem poll_eq_some_iff : p.poll d selectors 0 0 = some e ↔
    ∃ n, (∀ k < n, Vain d selectors p k) ∧ EndsAt d selectors p n e := by
  constructor
  · intro h
    exact endsAt_of_poll h rfl (by simp)
  · rintro ⟨n, hvain, hends⟩
    rw [poll_eq_of_vain hvain, poll_of_endsAt hends]

theorem not_vain_of_endsAt (h : EndsAt d selectors p n e) : ¬Vain d selectors p n := by
  rintro ⟨⟨html, hshown, hready⟩, hnext⟩
  have hbegins : begins d p (n + 1) = isOver d p n + p.interval := rfl
  cases h with
  | slow h => omega
  | failed hle h => simp [h] at hshown
  | ready hle h hready' =>
    obtain rfl := Except.ok.inj (h.symm.trans hshown)
    simp [hready] at hready'
  | timedOut hle h hready' hlate => omega

/-- Waiting goes on for good just if every look is in vain. -/
theorem poll_eq_none_iff : p.poll d selectors 0 0 = none ↔ ∀ n, Vain d selectors p n := by
  constructor
  · intro h n
    induction n using Nat.strongRecOn with
    | ind n ih =>
      rcases vain_or_endsAt d selectors p n with hvain | ⟨e, hends⟩
      · exact hvain
      · rw [poll_eq_some_iff.2 ⟨n, ih, hends⟩] at h
        cases h
  · intro h
    cases hpoll : p.poll d selectors 0 0 with
    | none => rfl
    | some e =>
      obtain ⟨n, -, hends⟩ := poll_eq_some_iff.1 hpoll
      exact absurd (h n) (not_vain_of_endsAt hends)

theorem mul_interval_le_begins (d : LiveDocument) (p : Patience) (n : Nat) :
    n * p.interval ≤ begins d p n := by
  induction n with
  | zero => simp [begins]
  | succ n ih =>
    have hbegins : begins d p (n + 1) = begins d p n + (d n).delay + p.interval := rfl
    rw [hbegins, Nat.succ_mul]
    omega

/-- With some time between the looks waiting comes to an end. -/
theorem exists_poll (h : 0 < p.interval) : ∃ e, p.poll d selectors 0 0 = some e := by
  cases hpoll : p.poll d selectors 0 0 with
  | some e => exact ⟨e, rfl⟩
  | none =>
    have hle := (poll_eq_none_iff.1 hpoll p.timeout).goesOn
    have hmul := mul_interval_le_begins d p (p.timeout + 1)
    have htimeout : p.timeout + 1 ≤ (p.timeout + 1) * p.interval := Nat.le_mul_of_pos_right _ h
    omega

end Harvest.Loading
