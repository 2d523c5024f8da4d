import Harvest.Text.Blank
import Mathlib.Data.List.DropRight
/-!
What trimming leaves. It takes blanks off the ends of a text and nothing else, so the characters
that are not blank stay as they are.
-/

namespace Harvest.Text

/-- The characters that are not blank, in their order. -/
def solid (s : List Char) : List Char := s.filter fun c => !isBlank c

/-- Whether there is no blank at either end. -/
structure IsTrimmed (s : List Char) : Prop where
  first : ∀ c ∈ s.head?, isBlank c = false
  last : ∀ c ∈ s.getLast?, isBlank c = false

section

variable {s pre post : List Char}

theorem solid_append (s r : List Char) : solid (s ++ r) = solid s ++ solid r :=
  List.filter_append ..

theorem solid_eq_nil (h : ∀ c ∈ s, isBlank c) : solid s = [] :=
  List.filter_eq_nil_iff.2 fun c hc => by simp [h c hc]

theorem trimEnd_eq (s : List Char) : trimEnd s = s.rdropWhile isBlank := by
  induction s with
  | nil => rfl
  | cons c r ih =>
    rw [trimEnd, ih, List.rdropWhile, List.rdropWhile, List.reverse_cons, List.dropWhile_append]
    cases hrest : List.dropWhile isBlank r.reverse with
    | nil => cases hc : isBlank c <;> simp [hc]
    | cons d t => simp

theorem trimStart_append (h : ∀ c ∈ pre, isBlank c) (hs : ∀ c ∈ s.head?, isBlank c = false) :
    trimStart (pre ++ s) = s := by
  rw [trimStart, List.dropWhile_append_of_pos h]
  cases s with
  | nil => rfl
  | cons c r => exact List.dropWhile_cons_of_neg (by simp [hs c rfl])

theorem trimEnd_append (h : ∀ c ∈ post, isBlank c) (hs : ∀ c ∈ s.getLast?, isBlank c = false) :
    trimEnd (s ++ post) = s := by
  have hreverse : trimStart (post.reverse ++ s.reverse) = s.reverse :=
    trimStart_append (by simpa using h) (by simpa using hs)
  rw [trimEnd_eq, List.rdropWhile, List.reverse_append, ← trimStart, hreverse, List.reverse_reverse]

/-- Blanks at the ends are taken off, up to what is no blank. -/
theorem trim_append (hpre : ∀ c ∈ pre, isBlank c) (hpost : ∀ c ∈ post, isBlank c)
    (hs : IsTrimmed s) : trim (pre ++ s ++ post) = s := by
  rw [trim, List.append_assoc]
  cases s with
  | nil =>
    have hall : trimStart (pre ++ post) = [] :=
      List.dropWhile_eq_nil_iff.2 fun c hc => (List.mem_append.1 hc).elim (hpre c) (hpost c)
    rw [List.nil_append, hall]
    rfl
  | cons c r =>
    rw [trimStart_append hpre (by simpa using hs.first), trimEnd_append hpost hs.last]

theorem trim_blanks (h : ∀ c ∈ s, isBlank c) : trim s = [] := by
  have hnone : ∀ c ∈ ([] : List Char), isBlank c := nofun
  have htrimmed : IsTrimmed [] := ⟨nofun, nofun⟩
  simpa using trim_append h hnone htrimmed

end

theorem exists_split (s : List Char) : ∃ pre core post, (∀ c ∈ pre, isBlank c) ∧
    (∀ c ∈ post, isBlank c) ∧ IsTrimmed core ∧ s = pre ++ core ++ post := by
  have hfirst := List.head?_dropWhile_not isBlank s
  have hlast := List.head?_dropWhile_not isBlank (s.dropWhile isBlank).reverse
  refine ⟨s.takeWhile isBlank, (s.dropWhile isBlank).rdropWhile isBlank,
    (s.dropWhile isBlank).rtakeWhile isBlank, fun c => List.mem_takeWhile_imp,
    fun c => List.mem_rtakeWhile_imp, ⟨fun c hc => ?_, fun c hc => ?_⟩, ?_⟩
  · obtain ⟨r, hr⟩ := List.rdropWhile_prefix isBlank (s.dropWhile isBlank)
    have hhead : (s.dropWhile isBlank).head? = some c := by
      rw [← hr, List.head?_append, Option.mem_def.1 hc]
      rfl
    rwa [hhead] at hfirst
  · rw [List.rdropWhile, List.getLast?_reverse] at hc
    rwa [Option.mem_def.1 hc] at hlast
  · rw [List.append_assoc, List.rdropWhile_append_rtakeWhile, List.takeWhile_append_dropWhile]

/-- A text is what trimming leaves with blanks at both ends. -/
theorem exists_blanks (s : List Char) : ∃ pre post, (∀ c ∈ pre, isBlank c) ∧
    (∀ c ∈ post, isBlank c) ∧ IsTrimmed (trim s) ∧ s = pre ++ trim s ++ post := by
  obtain ⟨pre, core, post, hpre, hpost, hcore, rfl⟩ := exists_split s
  rw [trim_append hpre hpost hcore]
  exact ⟨pre, post, hpre, hpost, hcore, rfl⟩

/-- A text without blanks at its ends is trimmed to itself. -/
theorem IsTrimmed.trim_eq {s : List Char} (h : IsTrimmed s) : trim s = s := by
  have hnone : ∀ c ∈ ([] : List Char), isBlank c := nofun
  simpa using trim_append hnone hnone h

theorem trim_trim (s : List Char) : trim (trim s) = trim s := by
  obtain ⟨-, -, -, -, htrimmed, -⟩ := exists_blanks s
  exact htrimmed.trim_eq

theorem solid_trim (s : List Char) : solid (trim s) = solid s := by
  obtain ⟨pre, post, hpre, hpost, -, hs⟩ := exists_blanks s
  conv_rhs => rw [hs, solid_append, solid_append, solid_eq_nil hpre, solid_eq_nil hpost]
  simp

end Harvest.Text
