import Harvest.Proofs.Interpreter.Waiting
/-!
An interpreter that is used again. Whatever was asked of it before, it answers like a new one; and
what it makes of a live document is what a new one makes of the document that the last look shows,
behind at most one warning about the wait.
-/

namespace Harvest.Interpreter

open Loading

/-- What is asked of an interpreter. -/
inductive Call
  | parse (d : Html.Document)
  | parseLive (d : LiveDocument) (p : Patience)
  | takeWarnings

/-- The interpreter after a call, if that comes to an end. -/
def after (i : Interpreter) : Call → Option Interpreter
  | .parse d => some (i.parse d).2
  | .parseLive d p => (i.parseLive d p).map (·.interpreter)
  | .takeWarnings => some i.takeWarnings.2

def afterAll (i : Interpreter) : List Call → Option Interpreter
  | [] => some i
  | c :: rest => (i.after c).bind (afterAll · rest)

section

variable {r : Resource} {i j : Interpreter} {d : LiveDocument} {p : Patience} {x : LiveParse}

theorem resource_runLook (i : Interpreter) (d : LiveDocument) (elapsed looks : Nat) :
    (i.runLook d elapsed looks).interpreter.resource = i.resource := by
  unfold runLook
  dsimp only
  split <;> rfl

theorem resource_afterWait (i : Interpreter) (d : LiveDocument) (ending : Loading.Ending) :
    (i.afterWait d ending).interpreter.resource = i.resource := by
  unfold afterWait
  split
  · exact resource_runLook ..
  · exact resource_runLook ..
  · exact resource_runLook ..
  · rfl

theorem resource_parseLive (h : i.parseLive d p = some x) :
    x.interpreter.resource = i.resource := by
  unfold parseLive at h
  dsimp only at h
  split at h
  · obtain ⟨ending, -, rfl⟩ := Option.map_eq_some_iff.1 h
    exact resource_afterWait ..
  · cases h
    exact resource_runLook ..

theorem resource_after {c : Call} (h : i.after c = some j) : j.resource = i.resource := by
  cases c with
  | parse d =>
    cases h
    rfl
  | parseLive d p =>
    obtain ⟨x, hx, rfl⟩ := Option.map_eq_some_iff.1 h
    exact resource_parseLive hx
  | takeWarnings =>
    cases h
    rfl

theorem resource_afterAll {history : List Call} (h : i.afterAll history = some j) :
    j.resource = i.resource := by
  induction history generalizing i with
  | nil =>
    cases h
    rfl
  | cons c rest ih =>
    obtain ⟨k, hk, hrest⟩ := Option.bind_eq_some_iff.1 h
    rw [ih hrest, resource_after hk]

/-- The warnings that were there are gone before anything else is done. -/
theorem parseLive_eq_new (i : Interpreter) (d : LiveDocument) (p : Patience) :
    i.parseLive d p = (new i.resource).parseLive d p :=
  rfl

end

section

variable (r : Resource) (d : LiveDocument)

/-- The selectors of which a resource waits for one, each read from its text. -/
def WaitsFor (l : List Css.Selector) : Prop :=
  (r.waitFor.getD []).map Css.Selector.parse? = l.map some

/-- What comes of the look of some number behind some warnings: its error, or what a new
    interpreter makes of the document that it shows. -/
inductive Concludes (warnings : List String) (start n : Nat) : LiveParse → Prop
  | failed {e : Error} (h : (d n).result = .error e) :
    Concludes warnings start n ⟨.error e, ⟨r, warnings⟩, start + (d n).delay, n + 1⟩
  | parsed {html : String} (h : (d n).result = .ok html) {payload : Except Error Members}
      {fresh : Interpreter} (hparse : (new r).parse (Html.Document.parse html) = (payload, fresh)) :
    Concludes warnings start n
      ⟨payload, ⟨r, warnings ++ fresh.warnings⟩, start + (d n).delay, n + 1⟩

variable (p : Patience)

/-- What a new interpreter makes of a live document: without a wait by the first look; else by the
    look after the wait, unless a selector is none or a look fails before. -/
inductive Parses : LiveParse → Prop
  | unwaited (hwait : r.hasWaitCondition = false) {x : LiveParse}
      (hlook : Concludes r d [] 0 0 x) : Parses x
  | invalid (hwait : r.hasWaitCondition) {s : String} (hs : s ∈ r.waitFor.getD [])
      (hnone : Css.Selector.parse? s = none) :
    Parses ⟨.error (.invalidSelector s "not a selector"), new r, 0, 0⟩
  | failed (hwait : r.hasWaitCondition) {l : List Css.Selector} (hl : WaitsFor r l) {n : Nat}
      (hvain : ∀ k < n, Vain d l p k) (hle : isOver d p n ≤ p.timeout) {e : Error}
      (h : (d n).result = .error e) : Parses ⟨.error e, new r, isOver d p n, n + 1⟩
  | ready (hwait : r.hasWaitCondition) {l : List Css.Selector} (hl : WaitsFor r l) {n : Nat}
      (hvain : ∀ k < n, Vain d l p k) (hle : isOver d p n ≤ p.timeout) {html : String}
      (h : (d n).result = .ok html) (hready : isReady l html) {x : LiveParse}
      (hlook : Concludes r d (if n = 0 then [alreadyLoaded] else []) (isOver d p n) (n + 1) x) :
    Parses x
  | timedOut (hwait : r.hasWaitCondition) {l : List Css.Selector} (hl : WaitsFor r l) {n : Nat}
      (hvain : ∀ k < n, Vain d l p k)
      (h : EndsAt d l p n ⟨.error (.timeout p.timeout), p.timeout, n + 1⟩) {x : LiveParse}
      (hlook : Concludes r d [notLoaded p.timeout] p.timeout (n + 1) x) : Parses x

end

section

variable {r : Resource} {i : Interpreter} {d : LiveDocument} {p : Patience} {x : LiveParse}

theorem concludes_iff {warnings : List String} {start n : Nat} :
    Concludes r d warnings start n x ↔ (⟨r, warnings⟩ : Interpreter).runLook d start n = x := by
  unfold runLook
  dsimp only
  constructor
  · rintro (⟨h⟩ | ⟨h, hparse⟩)
    · rw [h]
    · rw [parse_eq] at hparse
      cases hparse
      rw [h]
      rfl
  · rintro rfl
    split
    · rename_i e h
      exact .failed h
    · rename_i html h
      exact .parsed h (parse_eq ..)

theorem selector_eq_error {s : String} {e : Error} (h : Css.selector s = .error e) :
    Css.Selector.parse? s = none ∧ e = .invalidSelector s "not a selector" := by
  unfold Css.selector at h
  split at h
  · cases h
  · rename_i hnone
    cases h
    exact ⟨hnone, rfl⟩

theorem selector_eq_ok {s : String} {c : Css.Selector} (h : Css.selector s = .ok c) :
    Css.Selector.parse? s = some c := by
  unfold Css.selector at h
  split at h
  · rename_i hsome
    cases h
    exact hsome
  · cases h

/-- Of some texts the first that is no selector is complained of. -/
theorem mapM_selector_cases (l : List String) :
    (∃ cs, l.mapM Css.selector = .ok cs ∧ l.map Css.Selector.parse? = cs.map some) ∨
    ∃ s ∈ l, Css.Selector.parse? s = none ∧
      l.mapM Css.selector = .error (.invalidSelector s "not a selector") := by
  induction l with
  | nil => exact .inl ⟨[], rfl, rfl⟩
  | cons s rest ih =>
    rw [List.mapM_cons]
    cases hs : Css.selector s with
    | error e =>
      obtain ⟨hnone, rfl⟩ := selector_eq_error hs
      exact .inr ⟨s, List.mem_cons_self, hnone, rfl⟩
    | ok c =>
      rcases ih with ⟨cs, hcs, hparse⟩ | ⟨t, ht, hnone, herror⟩
      · rw [hcs]
        exact .inl ⟨c :: cs, rfl, by simp [selector_eq_ok hs, hparse]⟩
      · rw [herror]
        exact .inr ⟨t, List.mem_cons_of_mem _ ht, hnone, rfl⟩

theorem selectors_cases (r : Resource) :
    (∃ l, selectors r = .ok l ∧ WaitsFor r l) ∨
    ∃ s ∈ r.waitFor.getD [], Css.Selector.parse? s = none ∧
      selectors r = .error (.invalidSelector s "not a selector") :=
  mapM_selector_cases _

theorem WaitsFor.selectors_eq {l : List Css.Selector} (h : WaitsFor r l) : selectors r = .ok l := by
  rcases selectors_cases r with ⟨l', hl', hwaits⟩ | ⟨s, hs, hnone, -⟩
  · have hmap : l'.map some = l.map some := hwaits.symm.trans h
    rw [hl', (List.map_inj_right fun _ _ => Option.some.inj).1 hmap]
  · obtain ⟨c, -, hc⟩ := List.mem_map.1 (h ▸ List.mem_map_of_mem hs)
    rw [hnone] at hc
    cases hc

theorem WaitsFor.wait_eq {l : List Css.Selector} (hwait : r.hasWaitCondition) (h : WaitsFor r l) :
    wait d r p = p.poll d l 0 0 := by
  unfold wait
  rw [h.selectors_eq]
  cases l with
  | cons s rest => rfl
  | nil =>
    unfold WaitsFor at h
    unfold Resource.hasWaitCondition at hwait
    cases hw : r.waitFor <;> simp_all

theorem parseLive_of_unwaited (h : r.hasWaitCondition = false) :
    (new r).parseLive d p = some ((new r).runLook d 0 0) := by
  unfold parseLive
  dsimp only [new, clear]
  rw [h]
  rfl

theorem parseLive_of_invalid (hwait : r.hasWaitCondition) {s : String}
    (h : selectors r = .error (.invalidSelector s "not a selector")) :
    (new r).parseLive d p =
      some ⟨.error (.invalidSelector s "not a selector"), new r, 0, 0⟩ := by
  unfold parseLive wait
  dsimp only [new, clear]
  rw [if_pos hwait, h]
  rfl

theorem parseLive_eq_none_iff (hwait : r.hasWaitCondition) {l : List Css.Selector}
    (hl : WaitsFor r l) : (new r).parseLive d p = none ↔ ∀ n, Vain d l p n := by
  rw [← poll_eq_none_iff, ← hl.wait_eq hwait]
  unfold parseLive
  dsimp only [new, clear]
  rw [if_pos hwait, Option.map_eq_none_iff]

theorem parseLive_of_endsAt (hwait : r.hasWaitCondition) {l : List Css.Selector}
    (hl : WaitsFor r l) {n : Nat} (hvain : ∀ k < n, Vain d l p k) {ending : Ending}
    (hends : EndsAt d l p n ending) :
    (new r).parseLive d p = some ((new r).afterWait d ending) := by
  have hpoll : wait d r p = some ending :=
    (hl.wait_eq hwait).trans (poll_eq_some_iff.2 ⟨n, hvain, hends⟩)
  unfold parseLive
  dsimp only [new, clear]
  rw [if_pos hwait, hpoll]
  rfl

/-- What a live document comes to when waiting for it ends with the look of some number. -/
theorem parses_of_endsAt (hwait : r.hasWaitCondition) {l : List Css.Selector} (hl : WaitsFor r l)
    {n : Nat} (hvain : ∀ k < n, Vain d l p k) {ending : Ending} (hends : EndsAt d l p n ending)
    (hfails : ∀ ms, (d n).result ≠ .error (.timeout ms)) :
    ∃ x, (new r).parseLive d p = some x ∧ Parses r d p x := by
  refine ⟨_, parseLive_of_endsAt hwait hl hvain hends, ?_⟩
  cases hends with
  | slow h => exact .timedOut hwait hl hvain (.slow h) (concludes_iff.2 rfl)
  | timedOut hle h hready hlate =>
    exact .timedOut hwait hl hvain (.timedOut hle h hready hlate) (concludes_iff.2 rfl)
  | @failed hle e h =>
    cases e
    case timeout ms => exact absurd h (hfails ms)
    all_goals exact .failed hwait hl hvain hle h
  | ready hle h hready =>
    cases n with
    | zero => exact .ready hwait hl hvain hle h hready (concludes_iff.2 rfl)
    | succ n => exact .ready hwait hl hvain hle h hready (concludes_iff.2 rfl)

/-- A new interpreter waits for good, all looks being in vain, or comes to an end as it should. -/
theorem vain_or_parses (hfails : ∀ n ms, (d n).result ≠ .error (.timeout ms)) :
    (r.hasWaitCondition ∧ ∃ l, WaitsFor r l ∧ ∀ n, Vain d l p n) ∨
    ∃ x, (new r).parseLive d p = some x ∧ Parses r d p x := by
  cases hwait : r.hasWaitCondition with
  | false =>
    exact .inr ⟨_, parseLive_of_unwaited hwait, .unwaited hwait (concludes_iff.2 rfl)⟩
  | true =>
    rcases selectors_cases r with ⟨l, -, hl⟩ | ⟨s, hs, hnone, herror⟩
    · by_cases hvain : ∀ n, Vain d l p n
      · exact .inl ⟨rfl, l, hl, hvain⟩
      · cases hpoll : p.poll d l 0 0 with
        | none => exact absurd (poll_eq_none_iff.1 hpoll) hvain
        | some ending =>
          obtain ⟨n, hvain, hends⟩ := poll_eq_some_iff.1 hpoll
          exact .inr (parses_of_endsAt hwait hl hvain hends (hfails n))
    · exact .inr ⟨_, parseLive_of_invalid hwait herror, .invalid hwait hs hnone⟩

/-- Whatever was asked of an interpreter before, it parses like a new one; and what it makes of a
    live document is the parse of the last look behind the warning about the wait. It comes to an
    end unless all looks, which then follow each other at once, are in vain. -/
theorem live_parse_refines {history : List Call} (hi : (new r).afterAll history = some i) :
    (∀ doc, i.parse doc = (new r).parse doc) ∧
    ∀ (d : LiveDocument) (p : Patience), (∀ n ms, (d n).result ≠ .error (.timeout ms)) →
      (∀ x, i.parseLive d p = some x → Parses r d p x) ∧
      (i.parseLive d p = none ↔ r.hasWaitCondition ∧ ∃ l, WaitsFor r l ∧ ∀ n, Vain d l p n) ∧
      (0 < p.interval → ∃ x, i.parseLive d p = some x) := by
  obtain rfl : i.resource = r := resource_afterAll hi
  refine ⟨fun doc => rfl, fun d p hfails => ?_⟩
  rw [parseLive_eq_new]
  have hnone : (new i.resource).parseLive d p = none ↔
      i.resource.hasWaitCondition ∧ ∃ l, WaitsFor i.resource l ∧ ∀ n, Vain d l p n := by
    constructor
    · intro h
      rcases vain_or_parses hfails with hvain | ⟨x, hx, -⟩
      · exact hvain
      · rw [hx] at h
        cases h
    · rintro ⟨hwait, l, hl, hvain⟩
      exact (parseLive_eq_none_iff hwait hl).2 hvain
  refine ⟨fun x hx => ?_, hnone, fun hinterval => ?_⟩
  · rcases vain_or_parses (p := p) hfails with hvain | ⟨y, hy, hparses⟩
    · rw [hnone.2 hvain] at hx
      cases hx
    · cases hy.symm.trans hx
      exact hparses
  · cases hx : (new i.resource).parseLive d p with
    | some x => exact ⟨x, rfl⟩
    | none =>
      obtain ⟨-, l, -, hvain⟩ := hnone.1 hx
      obtain ⟨ending, hpoll⟩ : ∃ ending, p.poll d l 0 0 = some ending := exists_poll hinterval
      rw [poll_eq_none_iff.2 hvain] at hpoll
      cases hpoll

end

/-! A page that is waited for and then gone, looked at by an interpreter that was used before -/

def loadedPages : Resource where
  id := "items"
  hostname := "items.test"
  urlPattern := "/items"
  inputs := []
  pageRules := []
  waitFor := some ["#items"]
  descriptors := []
  hash := "h"
  disabled := false

def gonePage : LiveDocument := fun _ => ⟨.error (.http "gone"), 5⟩

def emptyDocument : Html.Document := { nodes := [] }

theorem gone_page_parsed : ∃ i x,
    (new loadedPages).afterAll [.parse emptyDocument, .takeWarnings, .parse emptyDocument] =
      some i ∧
    i.parseLive gonePage .standard = some x ∧ x.payload = .error (.http "gone") := by
  obtain ⟨i, hi⟩ : ∃ i, (new loadedPages).afterAll
      [.parse emptyDocument, .takeWarnings, .parse emptyDocument] = some i := ⟨_, rfl⟩
  obtain ⟨-, hlive⟩ := live_parse_refines hi
  obtain ⟨hparses, -, hends⟩ := hlive gonePage .standard (by simp [gonePage])
  obtain ⟨x, hx⟩ := hends (by decide)
  refine ⟨i, x, hi, hx, ?_⟩
  cases hparses x hx with
  | unwaited hwait => cases hwait
  | invalid _ hs hnone =>
    obtain rfl := List.mem_singleton.1 hs
    have hread : (Css.Selector.parse? "#items").isSome := by decide +kernel
    rw [hnone] at hread
    cases hread
  | failed _ _ _ _ h =>
    cases h
    rfl
  | ready _ _ _ _ h => cases h
  | timedOut _ _ _ _ hlook =>
    cases hlook with
    | failed h =>
      cases h
      rfl
    | parsed h => cases h

end Harvest.Interpreter
