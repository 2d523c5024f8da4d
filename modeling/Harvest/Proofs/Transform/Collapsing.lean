import Harvest.Proofs.Text.Trimming
import Harvest.Transform
import Mathlib.Data.List.Chain
/-!
The laws of trimming. A text is blanks and blocks, where a block starts with a character that is not
blank; both passes inside of a text work on each run of blanks by itself, so that a law of them is a
law of runs. What they leave is known by the characters that stand next to each other.
-/

namespace Harvest

open Text (isBlank solid IsTrimmed)

namespace Transform

/-- Which characters stand next to each other when blanks are collapsed: not two spaces, and no
    blank at a line feed. -/
structure Apart (a b : Char) : Prop where
  spaces : ¬ (a = ' ' ∧ b = ' ')
  after : ¬ (a = '\n' ∧ isBlank b = true)
  before : ¬ (isBlank a = true ∧ b = '\n')

section

variable {s t run : List Char} {c d : Char}

/-- Texts by their runs of blanks, the empty ones included. -/
theorem runs_induction {P : List Char → Prop} (last : ∀ run, (∀ c ∈ run, isBlank c) → P run)
    (block : ∀ run c t, (∀ c ∈ run, isBlank c) → isBlank c = false → P t → P (run ++ c :: t))
    (s : List Char) : P s := by
  -- the blanks that have been read are put in front of the text that is still to come
  suffices h : ∀ run, (∀ c ∈ run, isBlank c) → P (run ++ s) from h [] (List.forall_mem_nil _)
  induction s with
  | nil => simpa using last
  | cons c t ih =>
    intro run hrun
    cases hc : isBlank c with
    | true =>
      rw [← List.concat_append]
      apply ih
      simpa [or_imp, forall_and, hc] using hrun
    | false => exact block run c t hrun hc (ih [] (List.forall_mem_nil _))

theorem ne_space_of_solid (h : isBlank c = false) : c ≠ ' ' := by
  rintro rfl
  cases h

/-! Both passes -/

theorem collapseSpaces_append_cons (h : c ≠ ' ') (inRun : Bool) :
    collapseSpaces inRun (s ++ c :: t) = collapseSpaces inRun s ++ c :: collapseSpaces false t := by
  fun_induction collapseSpaces inRun s with
  | case1 => simp [collapseSpaces]
  | case2 r ih => simp [collapseSpaces, ih]
  | case3 inRun r hrun ih => simp [collapseSpaces, hrun, ih]
  | case4 inRun d r hd ih => simp [collapseSpaces, ih]

theorem collapseBreaks_append_cons (h : isBlank c = false) :
    collapseBreaks run (s ++ c :: t) = collapseBreaks run s ++ c :: collapseBreaks [] t := by
  fun_induction collapseBreaks run s with
  | case1 run => simp [collapseBreaks, h]
  | case2 run d r hd ih => simp [collapseBreaks, hd, ih]
  | case3 run d r hd ih => simp [collapseBreaks, hd, ih]

theorem collapseBreaks_blanks (h : ∀ c ∈ s, isBlank c) :
    collapseBreaks run s = joinedRun (run ++ s) := by
  induction s generalizing run with
  | nil => simp [collapseBreaks]
  | cons c s ih =>
    rw [List.forall_mem_cons] at h
    rw [collapseBreaks, if_pos h.1, ih h.2, List.append_assoc, List.singleton_append]

theorem collapseSpaces_sublist (inRun : Bool) (s : List Char) :
    (collapseSpaces inRun s).Sublist s := by
  fun_induction collapseSpaces inRun s with
  | case1 => exact .slnil
  | case2 r ih => exact ih.cons _
  | case3 inRun r hrun ih => exact ih.cons_cons _
  | case4 inRun c r hc ih => exact ih.cons_cons _

theorem collapseInside_append_cons (h : isBlank c = false) (s t : List Char) :
    collapseInside (s ++ c :: t) = collapseInside s ++ c :: collapseInside t := by
  rw [collapseInside, collapseSpaces_append_cons (ne_space_of_solid h),
    collapseBreaks_append_cons h]
  rfl

theorem collapseInside_blanks (h : ∀ c ∈ run, isBlank c) :
    collapseInside run = joinedRun (collapseSpaces false run) :=
  collapseBreaks_blanks fun c hc => h c ((collapseSpaces_sublist false run).subset hc)

theorem joinedRun_blanks (h : ∀ c ∈ run, isBlank c) : ∀ c ∈ joinedRun run, isBlank c := by
  unfold joinedRun
  split
  · simp only [List.mem_singleton, forall_eq]
    decide
  · exact h

theorem isBlank_collapseInside (h : ∀ c ∈ run, isBlank c) :
    ∀ c ∈ collapseInside run, isBlank c := by
  rw [collapseInside_blanks h]
  exact joinedRun_blanks fun c hc => h c ((collapseSpaces_sublist false run).subset hc)

/-! What stands next to each other -/

theorem apart_of_solid (h : isBlank c = false ∨ isBlank d = false) : Apart c d := by
  have hspace : isBlank ' ' = true := by decide
  have hbreak : isBlank '\n' = true := by decide
  refine ⟨?_, ?_, ?_⟩
  · rintro ⟨rfl, rfl⟩
    simp [hspace] at h
  · rintro ⟨rfl, hd⟩
    simp [hbreak, hd] at h
  · rintro ⟨hc, rfl⟩
    simp [hbreak, hc] at h

theorem isChain_append_cons (h : isBlank c = false) :
    (s ++ c :: t).IsChain Apart ↔ s.IsChain Apart ∧ t.IsChain Apart := by
  rw [List.isChain_append, List.isChain_cons]
  constructor
  · rintro ⟨hs, ⟨-, ht⟩, -⟩
    exact ⟨hs, ht⟩
  · rintro ⟨hs, ht⟩
    refine ⟨hs, ⟨fun d _ => apart_of_solid (.inl h), ht⟩, fun d _ e he => ?_⟩
    obtain rfl : c = e := by simpa using he
    exact apart_of_solid (.inr h)

theorem collapseSpaces_isChain (inRun : Bool) (s : List Char) :
    (collapseSpaces inRun s).IsChain (fun a b => ¬ (a = ' ' ∧ b = ' ')) ∧
      (inRun = true → ∀ c ∈ (collapseSpaces inRun s).head?, c ≠ ' ') := by
  fun_induction collapseSpaces inRun s with
  | case1 => simp
  | case2 r ih => exact ih
  | case3 inRun r hrun ih =>
    exact ⟨List.isChain_cons.2 ⟨fun c hc h => ih.2 rfl c hc h.2, ih.1⟩, fun h => absurd h hrun⟩
  | case4 inRun c r hc ih =>
    exact ⟨List.isChain_cons.2 ⟨fun d _ h => hc h.1, ih.1⟩, by simpa using fun _ => hc⟩

theorem collapseSpaces_eq_self (inRun : Bool)
    (h : s.IsChain fun a b => ¬ (a = ' ' ∧ b = ' '))
    (hrun : inRun = true → ∀ c ∈ s.head?, c ≠ ' ') : collapseSpaces inRun s = s := by
  fun_induction collapseSpaces inRun s with
  | case1 => rfl
  | case2 r ih => exact absurd rfl (hrun rfl ' ' rfl)
  | case3 inRun r _ ih =>
    obtain ⟨hhead, hr⟩ := List.isChain_cons.1 h
    rw [ih hr fun _ c hc hspace => hhead c hc ⟨rfl, hspace⟩]
  | case4 inRun c r _ ih => rw [ih (List.isChain_cons.1 h).2 nofun]

theorem joinedRun_isChain (run : List Char) :
    (joinedRun (collapseSpaces false run)).IsChain Apart := by
  unfold joinedRun
  split
  case isTrue => exact .singleton _
  case isFalse hbreak =>
    have hno : '\n' ∉ collapseSpaces false run := by simpa using hbreak
    refine (collapseSpaces_isChain false run).1.imp_of_mem_imp fun a b ha hb hspaces => ?_
    refine ⟨hspaces, ?_, ?_⟩
    · rintro ⟨rfl, -⟩
      exact hno ha
    · rintro ⟨-, rfl⟩
      exact hno hb

/-- A line feed in a run of blanks that are apart is all of the run. -/
theorem joinedRun_eq_self (h : ∀ c ∈ run, isBlank c) (happart : run.IsChain Apart) :
    joinedRun run = run := by
  unfold joinedRun
  split
  case isFalse => rfl
  case isTrue hbreak =>
    obtain ⟨pre, post, rfl⟩ := List.append_of_mem (by simpa using hbreak : '\n' ∈ run)
    obtain ⟨-, hpost, hpre⟩ := List.isChain_append.1 happart
    have hbefore : pre = [] := by
      rw [← List.getLast?_eq_none_iff, Option.eq_none_iff_forall_not_mem]
      intro c hc
      exact (hpre c hc '\n' rfl).before ⟨h c (by simp [List.mem_of_getLast? hc]), rfl⟩
    have hafter : post = [] := by
      rw [← List.head?_eq_none_iff, Option.eq_none_iff_forall_not_mem]
      intro c hc
      exact ((List.isChain_cons.1 hpost).1 c hc).after
        ⟨rfl, h c (by simp [List.mem_of_mem_head? hc])⟩
    rw [hbefore, hafter]
    rfl

/-! Texts -/

theorem collapseInside_isChain (s : List Char) : (collapseInside s).IsChain Apart := by
  induction s using runs_induction with
  | last run hrun =>
    rw [collapseInside_blanks hrun]
    exact joinedRun_isChain run
  | block run c t hrun hc ih =>
    rw [collapseInside_append_cons hc, isChain_append_cons hc, collapseInside_blanks hrun]
    exact ⟨joinedRun_isChain run, ih⟩

/-- What is collapsed already stays as it is. -/
theorem collapseInside_eq_self (h : s.IsChain Apart) : collapseInside s = s := by
  have hrun {run : List Char} (hblank : ∀ c ∈ run, isBlank c) (happart : run.IsChain Apart) :
      collapseInside run = run := by
    rw [collapseInside_blanks hblank,
      collapseSpaces_eq_self false (happart.imp fun _ _ hab => hab.spaces) nofun,
      joinedRun_eq_self hblank happart]
  induction s using runs_induction with
  | last run hblank => exact hrun hblank h
  | block run c t hblank hc ih =>
    rw [isChain_append_cons hc] at h
    rw [collapseInside_append_cons hc, hrun hblank h.1, ih h.2]

theorem collapseInside_collapseInside (s : List Char) :
    collapseInside (collapseInside s) = collapseInside s :=
  collapseInside_eq_self (collapseInside_isChain s)

theorem solid_collapseInside (s : List Char) : solid (collapseInside s) = solid s := by
  have hrun {run : List Char} (hblank : ∀ c ∈ run, isBlank c) :
      solid (collapseInside run) = solid run := by
    rw [Text.solid_eq_nil hblank, Text.solid_eq_nil (isBlank_collapseInside hblank)]
  induction s using runs_induction with
  | last run hblank => exact hrun hblank
  | block run c t hblank hc ih =>
    have hcons (t : List Char) : solid (c :: t) = c :: solid t :=
      List.filter_cons_of_pos (by simp [hc])
    rw [collapseInside_append_cons hc, Text.solid_append, Text.solid_append, hrun hblank, hcons,
      hcons, ih]

/-! Both ends -/

theorem collapseInside_cons (h : isBlank c = false) (t : List Char) :
    collapseInside (c :: t) = c :: collapseInside t :=
  collapseInside_append_cons h [] t

theorem collapseInside_concat (h : isBlank c = false) (t : List Char) :
    collapseInside (t ++ [c]) = collapseInside t ++ [c] :=
  collapseInside_append_cons h t []

theorem collapseInside_append_of_head (hs : ∀ c ∈ s.head?, isBlank c = false) :
    collapseInside (run ++ s) = collapseInside run ++ collapseInside s := by
  cases s with
  | nil => rw [List.append_nil]; exact (List.append_nil _).symm
  | cons c t =>
    have hc : isBlank c = false := hs c rfl
    rw [collapseInside_append_cons hc, collapseInside_cons hc]

theorem collapseInside_append_of_getLast (hs : ∀ c ∈ s.getLast?, isBlank c = false) :
    collapseInside (s ++ run) = collapseInside s ++ collapseInside run := by
  cases s using List.reverseRecOn with
  | nil => rfl
  | append_singleton t c =>
    have hc : isBlank c = false := hs c (by simp)
    rw [List.append_assoc, List.singleton_append, collapseInside_append_cons hc,
      collapseInside_concat hc, List.append_assoc, List.singleton_append]

theorem isTrimmed_collapseInside (h : IsTrimmed s) : IsTrimmed (collapseInside s) := by
  constructor
  · cases s with
    | nil => nofun
    | cons c t =>
      have hc : isBlank c = false := h.first c rfl
      simpa [collapseInside_cons hc] using hc
  · cases s using List.reverseRecOn with
    | nil => nofun
    | append_singleton t c =>
      have hc : isBlank c = false := h.last c (by simp)
      simpa [collapseInside_concat hc] using hc

/-- It makes no difference which is done first, the inside of a text or its ends. -/
theorem trim_collapseInside (s : List Char) :
    Text.trim (collapseInside s) = collapseInside (Text.trim s) := by
  obtain ⟨pre, post, hpre, hpost, htrimmed, hs⟩ := Text.exists_blanks s
  cases hcore : Text.trim s with
  | nil =>
    have hblank : ∀ c ∈ s, isBlank c := by
      rw [hs, hcore, List.append_nil]
      simpa [or_imp, forall_and] using And.intro hpre hpost
    rw [Text.trim_blanks (isBlank_collapseInside hblank)]
    rfl
  | cons c t =>
    have hhead : ∀ d ∈ (Text.trim s ++ post).head?, isBlank d = false := by
      rw [hcore]
      exact fun d hd => htrimmed.first d (by rw [hcore]; exact hd)
    rw [← hcore]
    conv_lhs => rw [hs, List.append_assoc, collapseInside_append_of_head hhead,
      collapseInside_append_of_getLast htrimmed.last, ← List.append_assoc]
    exact Text.trim_append (isBlank_collapseInside hpre) (isBlank_collapseInside hpost)
      (isTrimmed_collapseInside htrimmed)

end

open Resource (TrimPart)

variable {p q : List TrimPart}

/-- A trim after a trim is one trim with the parts of both. -/
theorem trimmed_trimmed (p q : List TrimPart) (s : String) :
    trimmed q (trimmed p s) = trimmed (p ++ q) s := by
  simp only [trimmed, String.toList_ofList, List.contains_append]
  cases p.contains TrimPart.inside <;> cases p.contains TrimPart.outside <;>
    cases q.contains TrimPart.inside <;> cases q.contains TrimPart.outside <;>
    simp [trim_collapseInside, collapseInside_collapseInside, Text.trim_trim]

theorem trimmed_congr (h : ∀ x, x ∈ p ↔ x ∈ q) (s : String) : trimmed p s = trimmed q s := by
  have hcontains (x : TrimPart) : p.contains x = q.contains x := by
    rw [Bool.eq_iff_iff, List.contains_iff_mem, List.contains_iff_mem, h]
  simp only [trimmed, hcontains]

theorem applyAll_trims (c : Context) (p q : List TrimPart) (v : Json) :
    applyAll c [.trim p, .trim q] v = apply c (.trim (p ++ q)) v := by
  have htext (parts : List TrimPart) (s : String) :
      apply c (.trim parts) (.str s) = .pure (.str (trimmed parts s)) := Pass.pure_bind _ _
  cases v with
  | str s => simp only [applyAll, htext, Pass.pure_bind, trimmed_trimmed]
  | _ => rfl

theorem apply_trim_congr (c : Context) (h : ∀ x, x ∈ p ↔ x ∈ q) (v : Json) :
    apply c (.trim p) v = apply c (.trim q) v := by
  simp only [apply, trimmed_congr h]

/-- A collapsed text has no two spaces and no blank at a line feed, and all its characters that are
    not blank; trims compose by their parts, whose order and repetition make no difference. -/
theorem trim_laws (s : List Char) (c : Context) (h : ∀ x, x ∈ p ↔ x ∈ q) (v : Json) :
    (∀ a b, [a, b] <:+: collapseInside s → Apart a b) ∧ solid (collapseInside s) = solid s ∧
    applyAll c [.trim p, .trim p] v = apply c (.trim p) v ∧
    apply c (.trim p) v = apply c (.trim q) v ∧
    applyAll c [.trim [.inside], .trim [.outside]] v = apply c (.trim [.inside, .outside]) v ∧
    applyAll c [.trim [.outside], .trim [.inside]] v = apply c (.trim [.inside, .outside]) v := by
  have hapart (a b : Char) (hab : [a, b] <:+: collapseInside s) : Apart a b := by
    obtain ⟨pre, post, heq⟩ := hab
    have hchain := collapseInside_isChain s
    rw [← heq] at hchain
    exact List.isChain_pair.1 hchain.left_of_append.right_of_append
  refine ⟨hapart, solid_collapseInside s, ?_, apply_trim_congr c h v, applyAll_trims c _ _ v, ?_⟩
  · rw [applyAll_trims]
    exact apply_trim_congr c (by simp) v
  · rw [applyAll_trims]
    exact apply_trim_congr c (by simp [or_comm]) v

theorem title_trims :
    (∀ x, x ∈ [TrimPart.outside, .inside] ↔ x ∈ [TrimPart.inside, .outside, .inside]) ∧
    apply ⟨"example.com", .ofTag "tr"⟩ (.trim [.inside, .outside, .inside])
      (.str "  Satılık   Daire \n   İstanbul  ") = .pure (.str "Satılık Daire\nİstanbul") := by
  have hparts : ∀ x, x ∈ [TrimPart.outside, .inside] ↔
      x ∈ [TrimPart.inside, .outside, .inside] := by
    intro x
    cases x <;> decide
  obtain ⟨-, -, -, hparts_eq, -⟩ := trim_laws [] ⟨"example.com", .ofTag "tr"⟩ hparts
    (.str "  Satılık   Daire \n   İstanbul  ")
  have htrimmed : trimmed [.outside, .inside] "  Satılık   Daire \n   İstanbul  " =
      "Satılık Daire\nİstanbul" := by
    decide +kernel
  refine ⟨hparts, ?_⟩
  rw [← hparts_eq, ← htrimmed]
  rfl

end Transform
end Harvest
