import Mathlib.Algebra.BigOperators.Group.Finset.Basic
import Harvest.Proofs.Interpreter.Reuse
/-!
Waiting for a document in closed form. The first look that finds what is waited for, or fails,
settles the wait if it is over by the time that there is, also at the very end of it; and how long
looks take and how far they lie apart says when that is. If no look settles it in time then the
wait ends when the time is up.
-/

namespace Harvest.Loading

open Interpreter (WaitsFor)
open scoped BigOperators

/-- When a look is over, all looks up to it having followed each other. -/
def completes (d : LiveDocument) (p : Patience) (k : Nat) : Nat :=
  ∑ j ∈ Finset.range (k + 1), (d j).delay + k * p.interval

/-- What a look settles the wait with, some number of looks having been in vain before: a failure,
    or an element that some selector selects. -/
inductive Settles (selectors : List Css.Selector) (look : Look) (tries : Nat) :
    Except Error Nat → Prop
  | failed {e : Error} (h : look.result = .error e) : Settles selectors look tries (.error e)
  | matched {html : String} (h : look.result = .ok html) {s : Css.Selector} (hs : s ∈ selectors)
      {place : Html.Place} (hplace : place ∈ (Html.Document.parse html).elements)
      (hselects : s.selects place) : Settles selectors look tries (.ok tries)

/-- The first look that settles the wait. -/
structure SettledBy (selectors : List Css.Selector) (d : LiveDocument) (k : Nat)
    (outcome : Except Error Nat) : Prop where
  settles : Settles selectors (d k) k outcome
  first : ∀ j < k, ∀ earlier, ¬Settles selectors (d j) j earlier

section

variable {d : LiveDocument} {p : Patience} {l : List Css.Selector} {k : Nat}
  {outcome : Except Error Nat}

theorem completes_succ (d : LiveDocument) (p : Patience) (k : Nat) :
    completes d p (k + 1) = completes d p k + p.interval + (d (k + 1)).delay := by
  unfold completes
  rw [Finset.sum_range_succ _ (k + 1), Nat.succ_mul]
  omega

theorem isOver_eq_completes (d : LiveDocument) (p : Patience) (k : Nat) :
    isOver d p k = completes d p k := by
  induction k with
  | zero => simp [isOver, begins, completes]
  | succ k ih =>
    have hover : isOver d p (k + 1) = isOver d p k + p.interval + (d (k + 1)).delay := rfl
    rw [hover, ih, completes_succ]

theorem begins_succ (d : LiveDocument) (p : Patience) (k : Nat) :
    begins d p (k + 1) = completes d p k + p.interval := by
  rw [← isOver_eq_completes]
  rfl

theorem completes_mono {j : Nat} (h : j ≤ k) : completes d p j ≤ completes d p k := by
  induction h with
  | refl => exact Nat.le_refl _
  | step _ ih =>
    rw [completes_succ]
    omega

theorem begins_succ_le {j : Nat} (h : j < k) : begins d p (j + 1) ≤ completes d p k := by
  have hsucc := completes_succ d p j
  have hmono : completes d p (j + 1) ≤ completes d p k := completes_mono h
  rw [begins_succ]
  omega

theorem isReady_iff {html : String} :
    isReady l html = true ↔ ∃ s ∈ l, ∃ place ∈ (Html.Document.parse html).elements,
      s.selects place := by
  simp [isReady, Css.Selector.inDocument]

theorem settles_or_unready (l : List Css.Selector) (look : Look) (tries : Nat) :
    (∃ outcome, Settles l look tries outcome) ∨
      ∃ html, look.result = .ok html ∧ isReady l html = false := by
  cases h : look.result with
  | error e => exact .inl ⟨_, .failed h⟩
  | ok html =>
    cases hready : isReady l html with
    | true =>
      obtain ⟨s, hs, place, hplace, hselects⟩ := isReady_iff.1 hready
      exact .inl ⟨_, .matched h hs hplace hselects⟩
    | false => exact .inr ⟨html, rfl, hready⟩

theorem Settles.ready {look : Look} {html : String} (h : Settles l look k outcome)
    (hok : look.result = .ok html) : outcome = .ok k ∧ isReady l html = true := by
  cases h with
  | failed he =>
    rw [he] at hok
    cases hok
  | matched hshown hs hplace hselects =>
    obtain rfl := Except.ok.inj (hshown.symm.trans hok)
    exact ⟨rfl, isReady_iff.2 ⟨_, hs, _, hplace, hselects⟩⟩

/-- A look in vain does not settle the wait. -/
theorem Vain.not_settles (h : Vain d l p k) (outcome : Except Error Nat) :
    ¬Settles l (d k) k outcome := by
  intro hsettles
  obtain ⟨html, hshown, hready⟩ := h.unready
  rw [(hsettles.ready hshown).2] at hready
  cases hready

/-- The looks before one that is over in time had time enough. -/
theorem SettledBy.vain (h : SettledBy l d k outcome) (hle : completes d p k ≤ p.timeout) :
    ∀ j < k, Vain d l p j := by
  intro j hj
  rcases settles_or_unready l (d j) j with ⟨earlier, hearlier⟩ | hunready
  · exact absurd hearlier (h.first j hj earlier)
  · have hbegins : begins d p (j + 1) ≤ completes d p k := begins_succ_le hj
    exact ⟨hunready, by omega⟩

theorem Settles.endsAt (h : Settles l (d k) k outcome) (hle : completes d p k ≤ p.timeout) :
    EndsAt d l p k ⟨outcome, completes d p k, k + 1⟩ := by
  rw [← isOver_eq_completes] at hle ⊢
  cases h with
  | failed h => exact .failed hle h
  | matched h hs hplace hselects =>
    exact .ready hle h (isReady_iff.2 ⟨_, hs, _, hplace, hselects⟩)

/-- A wait that ends with a look is settled by it in time, or its time is up. -/
theorem EndsAt.settles_or_timedOut {e : Ending} (h : EndsAt d l p k e) :
    (∃ outcome, Settles l (d k) k outcome ∧ completes d p k ≤ p.timeout) ∨
      (e = ⟨.error (.timeout p.timeout), p.timeout, k + 1⟩ ∧
        p.timeout < completes d p k + p.interval) := by
  cases h with
  | slow hlate =>
    rw [isOver_eq_completes] at hlate
    exact .inr ⟨rfl, by omega⟩
  | failed hle h =>
    rw [isOver_eq_completes] at hle
    exact .inl ⟨_, .failed h, hle⟩
  | ready hle h hready =>
    rw [isOver_eq_completes] at hle
    obtain ⟨s, hs, place, hplace, hselects⟩ := isReady_iff.1 hready
    exact .inl ⟨_, .matched h hs hplace hselects, hle⟩
  | timedOut hle h hready hlate =>
    rw [begins_succ] at hlate
    exact .inr ⟨rfl, hlate⟩

theorem poll_of_settledBy (h : SettledBy l d k outcome) (hle : completes d p k ≤ p.timeout) :
    p.poll d l 0 0 = some ⟨outcome, completes d p k, k + 1⟩ :=
  poll_eq_some_iff.2 ⟨k, h.vain hle, h.settles.endsAt hle⟩

theorem poll_of_unsettled (hinterval : 0 < p.interval)
    (h : ∀ k outcome, SettledBy l d k outcome → p.timeout < completes d p k) :
    ∃ n, p.poll d l 0 0 = some ⟨.error (.timeout p.timeout), p.timeout, n + 1⟩ ∧
      (∀ i < n, completes d p i + p.interval ≤ p.timeout) ∧
      p.timeout < completes d p n + p.interval := by
  obtain ⟨e, he⟩ : ∃ e, p.poll d l 0 0 = some e := exists_poll hinterval
  obtain ⟨n, hvain, hends⟩ := poll_eq_some_iff.1 he
  rcases hends.settles_or_timedOut with ⟨outcome, hsettles, hle⟩ | ⟨rfl, hlate⟩
  · have hlate := h n outcome ⟨hsettles, fun j hj => (hvain j hj).not_settles⟩
    omega
  · refine ⟨n, he, fun i hi => ?_, hlate⟩
    have hbegins := (hvain i hi).goesOn
    rw [begins_succ] at hbegins
    exact hbegins

end

section

variable {r : Resource} {d : LiveDocument} {p : Patience} {l : List Css.Selector}

theorem wait_eq_poll (hl : WaitsFor r l) (hne : l ≠ []) : wait d r p = p.poll d l 0 0 := by
  unfold wait
  rw [hl.selectors_eq]
  cases l with
  | nil => exact absurd rfl hne
  | cons s rest => rfl

/-- The wait ends when the first look that settles it is over, if that is in time, and else exactly
    when the time is up, with the last look that could begin by then. -/
theorem wait_in_closed_form (hl : WaitsFor r l) (hne : l ≠ []) (hinterval : 0 < p.interval) :
    (∀ k outcome, SettledBy l d k outcome → completes d p k ≤ p.timeout →
      wait d r p = some ⟨outcome, completes d p k, k + 1⟩) ∧
    ((∀ k outcome, SettledBy l d k outcome → p.timeout < completes d p k) →
      ∃ n, wait d r p = some ⟨.error (.timeout p.timeout), p.timeout, n + 1⟩ ∧
        (∀ i < n, completes d p i + p.interval ≤ p.timeout) ∧
        p.timeout < completes d p n + p.interval) := by
  rw [wait_eq_poll hl hne]
  exact ⟨fun k outcome => poll_of_settledBy, poll_of_unsettled hinterval⟩

end

/-! A page that shows what is waited for in its second look, which is over just when the time is up -/

def lateItems : LiveDocument
  | 0 => ⟨.ok "<p>Loading", 30⟩
  | _ => ⟨.ok "<p id=items>An item", 20⟩

def selectsAny (selector html : String) : Option Bool :=
  (Css.Selector.parse? selector).map fun s => (Html.Document.parse html).places.any s.selects

theorem late_items_settled : ∃ l, WaitsFor Interpreter.loadedPages l ∧ l ≠ [] ∧
    0 < (⟨50, 100⟩ : Patience).interval ∧ completes lateItems ⟨50, 100⟩ 1 = 100 ∧
    wait lateItems Interpreter.loadedPages ⟨50, 100⟩ = some ⟨.ok 1, 100, 2⟩ := by
  have hloading : selectsAny "#items" "<p>Loading" = some false := by decide +kernel
  have hitems : selectsAny "#items" "<p id=items>An item" = some true := by decide +kernel
  obtain ⟨s, hs, hnone⟩ := Option.map_eq_some_iff.1 hloading
  have hany : (Html.Document.parse "<p id=items>An item").places.any s.selects = true := by
    simpa [selectsAny, hs] using hitems
  have hl : WaitsFor Interpreter.loadedPages [s] := by
    simp [WaitsFor, Interpreter.loadedPages, hs]
  have hsettled : SettledBy [s] lateItems 1 (.ok 1) := by
    constructor
    · obtain ⟨place, hplace, hselects⟩ := List.any_eq_true.1 hany
      refine .matched rfl List.mem_cons_self ?_ hselects
      rw [Html.Document.elements_eq_places rfl (by decide +kernel)]
      exact hplace
    · intro j hj earlier hsettles
      obtain rfl : j = 0 := by omega
      obtain ⟨-, hready⟩ := hsettles.ready rfl
      obtain ⟨t, ht, place, hplace, hselects⟩ := isReady_iff.1 hready
      obtain rfl := List.mem_singleton.1 ht
      rw [Html.Document.elements_eq_places rfl (by decide +kernel)] at hplace
      exact Bool.false_ne_true (hnone.symm.trans (List.any_eq_true.2 ⟨place, hplace, hselects⟩))
  have hover : completes lateItems ⟨50, 100⟩ 1 = 100 := rfl
  obtain ⟨hclosed, -⟩ := wait_in_closed_form (d := lateItems) (p := ⟨50, 100⟩) hl
    (List.cons_ne_nil s []) (by decide)
  exact ⟨[s], hl, List.cons_ne_nil s [], by decide, hover,
    hclosed 1 (.ok 1) hsettled (Nat.le_of_eq hover)⟩

end Harvest.Loading
