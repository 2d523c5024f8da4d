import Harvest.Proofs.Interpreter.Reuse
/-!
Looks that fail. A look is awaited until it is over, be it for what a resource waits for or for its
rules, unless the time for waiting is up before. A look that fails ends the parse with its error
then, with no rule having been run; but for one that fails with a timeout of its own while there is
waited, which is taken for the end of the time for waiting.
-/

namespace Harvest.Interpreter

open Loading

/-- What a look is awaited for. -/
inductive Purpose
  | waiting
  | parsing
  deriving DecidableEq, Repr

section

variable (r : Resource) (d : LiveDocument) (p : Patience)

/-- The looks that a parse awaits, each with its purpose and number, with the time at which it
    begins, and with the warnings by then. -/
inductive Awaits : Purpose → Nat → Nat → List String → Prop
  | unwaited (hwait : r.hasWaitCondition = false) : Awaits .parsing 0 0 []
  | waiting (hwait : r.hasWaitCondition) {l : List Css.Selector} (hl : WaitsFor r l) {n : Nat}
      (hvain : ∀ k < n, Vain d l p k) (hle : isOver d p n ≤ p.timeout) :
    Awaits .waiting n (begins d p n) []
  | ready (hwait : r.hasWaitCondition) {l : List Css.Selector} (hl : WaitsFor r l) {n : Nat}
      (hvain : ∀ k < n, Vain d l p k) (hle : isOver d p n ≤ p.timeout) {html : String}
      (h : (d n).result = .ok html) (hready : isReady l html) :
    Awaits .parsing (n + 1) (isOver d p n) (if n = 0 then [alreadyLoaded] else [])
  | timedOut (hwait : r.hasWaitCondition) {l : List Css.Selector} (hl : WaitsFor r l) {n : Nat}
      (hvain : ∀ k < n, Vain d l p k)
      (h : EndsAt d l p n ⟨.error (.timeout p.timeout), p.timeout, n + 1⟩) :
    Awaits .parsing (n + 1) p.timeout [notLoaded p.timeout]
  | lapsed (hwait : r.hasWaitCondition) {l : List Css.Selector} (hl : WaitsFor r l) {n : Nat}
      (hvain : ∀ k < n, Vain d l p k) (hle : isOver d p n ≤ p.timeout) {ms : Nat}
      (h : (d n).result = .error (.timeout ms)) :
    Awaits .parsing (n + 1) (isOver d p n) [notLoaded ms]

/-- The look under way when the time for waiting is up. -/
inductive CutOff : Nat → Prop
  | slow (hwait : r.hasWaitCondition) {l : List Css.Selector} (hl : WaitsFor r l) {n : Nat}
      (hvain : ∀ k < n, Vain d l p k) (h : p.timeout < isOver d p n) : CutOff n

end

section

variable {r : Resource} {i : Interpreter} {d : LiveDocument} {p : Patience} {purpose : Purpose}
  {n start : Nat} {warnings : List String} {e : Error} {x : LiveParse}

theorem runLook_of_failed (i : Interpreter) (start : Nat) (h : (d n).result = .error e) :
    i.runLook d start n = ⟨.error e, i, start + (d n).delay, n + 1⟩ := by
  unfold runLook
  rw [h]

theorem looks_runLook (i : Interpreter) (d : LiveDocument) (start n : Nat) :
    (i.runLook d start n).looks = n + 1 := by
  unfold runLook
  dsimp only
  split <;> rfl

theorem parseLive_of_parsing (h : Awaits r d p .parsing n start warnings) :
    (new r).parseLive d p = some ((⟨r, warnings⟩ : Interpreter).runLook d start n) := by
  cases h with
  | unwaited hwait => exact parseLive_of_unwaited hwait
  | @ready hwait l hl n hvain hle html h hready =>
    rw [parseLive_of_endsAt hwait hl hvain (.ready hle h hready)]
    cases n <;> rfl
  | timedOut hwait hl hvain h =>
    rw [parseLive_of_endsAt hwait hl hvain h]
    rfl
  | lapsed hwait hl hvain hle h =>
    rw [parseLive_of_endsAt hwait hl hvain (.failed hle h)]
    rfl

theorem parseLive_of_waiting (h : Awaits r d p .waiting n start warnings)
    (hfailed : (d n).result = .error e) :
    (new r).parseLive d p =
      some ((new r).afterWait d ⟨.error e, start + (d n).delay, n + 1⟩) ∧ warnings = [] := by
  cases h with
  | waiting hwait hl hvain hle =>
    exact ⟨parseLive_of_endsAt hwait hl hvain (.failed hle hfailed), rfl⟩

/-- A timeout is the one failure that is not passed on. -/
theorem afterWait_of_failed (i : Interpreter) (elapsed looks : Nat)
    (h : ∀ ms, e ≠ .timeout ms) :
    i.afterWait d ⟨.error e, elapsed, looks⟩ = ⟨.error e, i, elapsed, looks⟩ := by
  cases e
  case timeout ms => exact absurd rfl (h ms)
  all_goals rfl

/-- A look that is awaited after one that failed with a timeout. -/
theorem Awaits.lapse {ms : Nat} (h : Awaits r d p .waiting n start warnings)
    (hfailed : (d n).result = .error (.timeout ms)) :
    Awaits r d p .parsing (n + 1) (start + (d n).delay) [notLoaded ms] := by
  cases h with
  | waiting hwait hl hvain hle => exact .lapsed hwait hl hvain hle hfailed

/-- The looks of a wait are awaited but for one that the end of the time cuts off. -/
theorem awaits_or_cutOff {l : List Css.Selector} (hwait : r.hasWaitCondition) (hl : WaitsFor r l)
    {last : Nat} (hvain : ∀ k < last, Vain d l p k) (hn : n ≤ last) :
    Awaits r d p .waiting n (begins d p n) [] ∨ CutOff r d p n := by
  have hbefore : ∀ k < n, Vain d l p k := fun k hk => hvain k (by omega)
  rcases Nat.lt_or_ge p.timeout (isOver d p n) with hlate | hle
  · exact .inr (.slow hwait hl hbefore hlate)
  · exact .inl (.waiting hwait hl hbefore hle)

theorem looks_afterWait_le (i : Interpreter) (d : LiveDocument) (ending : Ending) :
    (i.afterWait d ending).looks ≤ ending.looks + 1 := by
  unfold afterWait
  split
  · exact Nat.le_of_eq (looks_runLook ..)
  · exact Nat.le_of_eq (looks_runLook ..)
  · exact Nat.le_of_eq (looks_runLook ..)
  · exact Nat.le_succ _

/-- The look behind a wait, if there is one. -/
theorem awaits_of_endsAt {l : List Css.Selector} {ending : Ending} (hwait : r.hasWaitCondition)
    (hl : WaitsFor r l) (hvain : ∀ k < n, Vain d l p k) (hends : EndsAt d l p n ending)
    (hlooks : n + 1 < ((new r).afterWait d ending).looks) :
    ∃ start warnings, Awaits r d p .parsing (n + 1) start warnings := by
  cases hends with
  | slow h => exact ⟨_, _, .timedOut hwait hl hvain (.slow h)⟩
  | timedOut hle h hready hlate =>
    exact ⟨_, _, .timedOut hwait hl hvain (.timedOut hle h hready hlate)⟩
  | ready hle h hready => exact ⟨_, _, .ready hwait hl hvain hle h hready⟩
  | @failed hle e h =>
    cases e
    case timeout ms => exact ⟨_, _, .lapsed hwait hl hvain hle h⟩
    all_goals exact absurd hlooks (Nat.lt_irrefl _)

/-- Every look of a parse is awaited but for one that the end of the time cuts off. -/
theorem looks_awaited (hx : (new r).parseLive d p = some x) (hn : n < x.looks) :
    (∃ purpose start warnings, Awaits r d p purpose n start warnings) ∨ CutOff r d p n := by
  cases hwait : r.hasWaitCondition with
  | false =>
    rw [parseLive_of_unwaited hwait] at hx
    cases hx
    rw [looks_runLook] at hn
    obtain rfl : n = 0 := by omega
    exact .inl ⟨_, _, _, .unwaited hwait⟩
  | true =>
    rcases selectors_cases r with ⟨l, -, hl⟩ | ⟨s, -, -, herror⟩
    · cases hpoll : p.poll d l 0 0 with
      | none =>
        rw [(parseLive_eq_none_iff hwait hl).2 (poll_eq_none_iff.1 hpoll)] at hx
        cases hx
      | some ending =>
        obtain ⟨last, hvain, hends⟩ := poll_eq_some_iff.1 hpoll
        rw [parseLive_of_endsAt hwait hl hvain hends] at hx
        cases hx
        rcases Nat.lt_or_ge last n with hlast | hle
        · have hlooks : ending.looks = last + 1 := by cases hends <;> rfl
          have hbound := looks_afterWait_le (new r) d ending
          obtain rfl : n = last + 1 := by omega
          obtain ⟨start, warnings, hawaits⟩ := awaits_of_endsAt hwait hl hvain hends hn
          exact .inl ⟨_, _, _, hawaits⟩
        · rcases awaits_or_cutOff hwait hl hvain hle with hawaits | hcut
          · exact .inl ⟨_, _, _, hawaits⟩
          · exact .inr hcut
    · rw [parseLive_of_invalid hwait herror] at hx
      cases hx
      exact absurd hn (Nat.not_lt_zero n)

/-- A look that fails while it is awaited ends the parse with its error and without running a rule,
    just if it is not one that fails with a timeout while there is waited. Such a one leaves a
    warning, and the parse is that of the next look. Every look of a parse is awaited or cut off by
    the end of the time for waiting. -/
theorem failure_returned_iff (i : Interpreter) (d : LiveDocument) (p : Patience) :
    (∀ purpose n start warnings e, Awaits i.resource d p purpose n start warnings →
      (d n).result = .error e →
      (i.parseLive d p = some ⟨.error e, ⟨i.resource, warnings⟩, start + (d n).delay, n + 1⟩ ↔
        ¬(purpose = .waiting ∧ ∃ ms, e = .timeout ms)) ∧
      ∀ ms, purpose = .waiting → e = .timeout ms → ∃ x, i.parseLive d p = some x ∧
        Concludes i.resource d [notLoaded ms] (start + (d n).delay) (n + 1) x) ∧
    ∀ x, i.parseLive d p = some x → ∀ n < x.looks,
      (∃ purpose start warnings, Awaits i.resource d p purpose n start warnings) ∨
        CutOff i.resource d p n := by
  rw [parseLive_eq_new]
  refine ⟨fun purpose n start warnings e hawaits hfailed => ⟨?_, ?_⟩,
    fun x hx n hn => looks_awaited hx hn⟩
  · cases purpose with
    | parsing =>
      rw [parseLive_of_parsing hawaits, runLook_of_failed _ start hfailed]
      simp
    | waiting =>
      obtain ⟨hparse, rfl⟩ := parseLive_of_waiting hawaits hfailed
      constructor
      · rintro hreturned ⟨-, ms, rfl⟩
        -- the next look is taken then, so that there is one look more
        rw [parseLive_of_parsing (hawaits.lapse hfailed)] at hreturned
        have hlooks := congrArg LiveParse.looks (Option.some.inj hreturned)
        rw [looks_runLook] at hlooks
        dsimp only at hlooks
        omega
      · intro hother
        rw [hparse, afterWait_of_failed _ _ _ fun ms he => hother ⟨rfl, ms, he⟩]
        rfl
  · rintro ms rfl rfl
    exact ⟨_, parseLive_of_parsing (hawaits.lapse hfailed), concludes_iff.2 rfl⟩

end

/-! A page whose first look fails with a timeout long before the time for waiting is up -/

def lapsingPage : LiveDocument
  | 0 => ⟨.error (.timeout 30000), 5⟩
  | _ => ⟨.ok "<p id=items>An item", 0⟩

theorem lapsing_page_parsed :
    Awaits loadedPages lapsingPage .standard .waiting 0 0 [] ∧
    (lapsingPage 0).result = .error (.timeout 30000) ∧
    ∃ x, (new loadedPages).parseLive lapsingPage .standard = some x ∧ x.payload = .ok [] ∧
      x.interpreter.warnings = [notLoaded 30000] := by
  have hread : (Css.Selector.parse? "#items").isSome = true := by decide +kernel
  obtain ⟨s, hs⟩ := Option.isSome_iff_exists.1 hread
  have hl : WaitsFor loadedPages [s] := by simp [WaitsFor, loadedPages, hs]
  have hawaits : Awaits loadedPages lapsingPage .standard .waiting 0 0 [] :=
    .waiting rfl hl (by simp) (by decide)
  obtain ⟨hfailures, -⟩ := failure_returned_iff (new loadedPages) lapsingPage .standard
  obtain ⟨-, hlapse⟩ := hfailures .waiting 0 0 [] _ hawaits rfl
  obtain ⟨x, hx, hconcludes⟩ := hlapse 30000 rfl rfl
  refine ⟨hawaits, rfl, x, hx, ?_⟩
  cases hconcludes with
  | failed h => cases h
  | parsed h hparse =>
    cases hparse
    exact ⟨rfl, rfl⟩

end Harvest.Interpreter
