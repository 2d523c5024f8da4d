import Harvest.Route
import Harvest.Proofs.Regex.Search
import Harvest.Proofs.Regex.Outline
/-!
How far a route is held to the whole of a path. Its template is read between a caret and a dollar
sign, and these belong to the first and to the last alternative: a template of more than one lets
paths through of which it matches only a part, as does one whose flags or comment leave the dollar
sign without its meaning.
-/

namespace Harvest

namespace Regex.Outline

/-- Whether a text is matched in part only, by an alternative that the anchors do not hold. -/
def Slips (o : Outline) (text : Array Char) : Prop :=
  ∃ i j, i ≤ text.size ∧ o.Admits text i j ∧ ¬ (i = 0 ∧ j = text.size)

/-- Whether the anchors are those of the whole expression. -/
structure IsAnchored (o : Outline) : Prop where
  one : o.alternatives.length = 1
  closing : o.closing = some .endText

variable {o : Outline} {text : Array Char}

theorem spans_of_admits {i j : Nat} (h : o.Admits text i j) :
    (Pattern.union o.alternatives).Spans text i j := by
  obtain ⟨before, p, after, heq, hspans, -, -⟩ := h
  rw [heq, Pattern.spans_union (by simp)]
  exact ⟨p, by simp, hspans⟩

/-- The signs let every match of the whole text through. -/
theorem admits_of_spans {s : List Char} (ho : outline s = .ok o)
    (h : (Pattern.union o.alternatives).Spans text 0 text.size) : o.Admits text 0 text.size := by
  obtain ⟨last, -, rfl⟩ := Reader.exists_of_map_ok ho
  rw [Pattern.spans_union (by simp [Reader.Reading.outline, Reader.Reading.patterns])] at h
  obtain ⟨p, hp, hspans⟩ := h
  obtain ⟨before, after, heq⟩ := List.append_of_mem hp
  refine ⟨before, p, after, heq, hspans, fun _ => rfl, fun _ l hl => ?_⟩
  simp only [Reader.Reading.outline, Reader.Reading.closing] at hl
  split at hl
  · cases hl
  · cases hl
    exact ending_at_size last.flags

theorem exists_admits_iff {s : List Char} (ho : outline s = .ok o) :
    (∃ i j, i ≤ text.size ∧ o.Admits text i j) ↔
      (Pattern.union o.alternatives).Spans text 0 text.size ∨ o.Slips text := by
  constructor
  · rintro ⟨i, j, hi, hadmits⟩
    by_cases hwhole : i = 0 ∧ j = text.size
    · obtain ⟨rfl, rfl⟩ := hwhole
      exact .inl (spans_of_admits hadmits)
    · exact .inr ⟨i, j, hi, hadmits, hwhole⟩
  · rintro (hwhole | ⟨i, j, hi, hadmits, -⟩)
    · exact ⟨0, text.size, Nat.zero_le _, admits_of_spans ho hwhole⟩
    · exact ⟨i, j, hi, hadmits⟩

theorem IsAnchored.not_slips (h : o.IsAnchored) : ¬ o.Slips text := by
  obtain ⟨alternatives, closing⟩ := o
  obtain ⟨hone, rfl⟩ := h
  obtain ⟨p, rfl⟩ := List.length_eq_one_iff.1 hone
  rintro ⟨i, j, hi, hadmits, hpart⟩
  obtain ⟨rfl, ⟨slots, hspans⟩, hclosing⟩ := admits_of_one.1 hadmits
  have hj := (Pattern.matches_pos hspans hi).2
  have hend : Look.endText.at text j = true := hclosing _ rfl
  simp only [Look.at, Look.holds, Option.isNone_iff_eq_none, Array.getElem?_eq_none_iff] at hend
  exact hpart ⟨rfl, Nat.le_antisymm hj hend⟩

end Regex.Outline

namespace Route

variable {template : String} {route : Route}

/-- The expression of a template on its own. -/
def unanchored (template : String) : String :=
  String.ofList (expand (normalizePath template).toList)

theorem toList_expression (template : String) :
    (expression template).toList = '^' :: (unanchored template).toList ++ ['$'] := by
  simp [expression, unanchored]

/-- The characters of a path that a route is held against. -/
def characters (path : String) : Array Char := (normalizePath path).toList.toArray

theorem regex_of_compile (h : compile template = .ok route) :
    Regex.compile (expression template) = .ok route.regex := by
  unfold compile at h
  split at h
  · cases h
    assumption
  · cases h

/-- A route matches the paths of which the expression on its own matches the whole, and those that
    slip through the anchors; none do if the anchors are those of the whole expression. A template
    that needs the signs around it has no expression on its own: it repeats the caret, or escapes
    the dollar sign. -/
theorem isMatch_iff_whole_or_slips (h : compile template = .ok route) :
    Regex.compile (unanchored template) = .error .repetitionMissing ∨
    Regex.compile (unanchored template) = .error .escape ∨
    ∃ own o, Regex.compile (unanchored template) = .ok own ∧
      Regex.outline (unanchored template).toList = .ok o ∧
      own.pattern = Regex.Pattern.union o.alternatives ∧
      (∀ path, route.isMatch path = true ↔
        own.pattern.Spans (characters path) 0 (characters path).size ∨
          o.Slips (characters path)) ∧
      (o.IsAnchored → ∀ path, route.isMatch path = true ↔
        own.pattern.Spans (characters path) 0 (characters path).size) := by
  have hcompile := regex_of_compile h
  obtain ⟨-, names, hparse⟩ := Regex.exists_of_compile hcompile
  rw [toList_expression] at hparse
  rcases Regex.Pattern.parse_anchored hparse with hrefused | hrefused | ⟨o, ho, hown, hspans⟩
  · exact .inl (Regex.compile_of_parse_error hrefused)
  · exact .inr (.inl (Regex.compile_of_parse_error hrefused))
  obtain ⟨own, hcompiled, hpattern, -⟩ := Regex.compile_of_parse hown
  have hiff : ∀ path, route.isMatch path = true ↔
      own.pattern.Spans (characters path) 0 (characters path).size ∨ o.Slips (characters path) := by
    intro path
    have hmatch := Regex.isMatch_iff (s := normalizePath path) hcompile
    have hsize : (normalizePath path).length = (characters path).size := by
      rw [characters, List.size_toArray, String.length_toList]
    rw [hpattern, ← Regex.Outline.exists_admits_iff ho]
    refine hmatch.trans ?_
    rw [hsize]
    constructor
    · rintro ⟨i, j, hi, hspan⟩
      exact ⟨i, j, hi, (hspans _ i j hi).1 hspan⟩
    · rintro ⟨i, j, hi, hadmits⟩
      exact ⟨i, j, hi, (hspans _ i j hi).2 hadmits⟩
  exact .inr (.inr ⟨own, o, hcompiled, ho, hpattern, hiff, fun ho path => by
    simp [hiff path, ho.not_slips]⟩)

/-- A path of which the first of two alternatives matches only the beginning. -/
theorem beginning_matched : ∃ route own, compile "/a|/b" = .ok route ∧
    Regex.compile "/a|/b" = .ok own ∧ route.isMatch "/axyz" = true ∧
    ¬ own.pattern.Spans (characters "/axyz") 0 (characters "/axyz").size := by
  have hcharacters : characters "/axyz" = #['/', 'a', 'x', 'y', 'z'] := by decide
  have hunanchored : unanchored "/a|/b" = "/a|/b" := by
    have hnormal : normalizePath "/a|/b" = "/a|/b" := by decide
    simp [unanchored, hnormal, expand]
  have hexpression : expression "/a|/b" = "^/a|/b$" := by
    rw [← String.toList_inj, toList_expression, hunanchored]
    decide
  have houtline : Regex.outline "/a|/b".toList = .ok
      ⟨[.seq (.char ⟨[(47, 47)]⟩) (.char ⟨[(97, 97)]⟩),
        .seq (.char ⟨[(47, 47)]⟩) (.char ⟨[(98, 98)]⟩)], some .endText⟩ := rfl
  have hparse : Regex.Pattern.parse "/a|/b".toList = .ok
      (.alt (.seq (.char ⟨[(47, 47)]⟩) (.char ⟨[(97, 97)]⟩))
        (.seq (.char ⟨[(47, 47)]⟩) (.char ⟨[(98, 98)]⟩)), []) := rfl
  have hanchored : Regex.Pattern.parse "^/a|/b$".toList = .ok
      (.alt (.seq (.look .startText) (.seq (.char ⟨[(47, 47)]⟩) (.char ⟨[(97, 97)]⟩)))
        (.seq (.char ⟨[(47, 47)]⟩) (.seq (.char ⟨[(98, 98)]⟩) (.look .endText))), []) := rfl
  obtain ⟨regex, hregex, -⟩ := Regex.compile_of_parse hanchored
  have hroute : compile "/a|/b" = .ok ⟨regex⟩ := by rw [compile, hexpression, hregex]
  obtain ⟨own, hown, hpattern, -⟩ := Regex.compile_of_parse hparse
  rcases isMatch_iff_whole_or_slips hroute with h | h | ⟨own', o, hown', ho, -, hiff, -⟩
  · simp [hunanchored, hown] at h
  · simp [hunanchored, hown] at h
  · rw [hunanchored] at hown' ho
    obtain rfl : own = own' := by simpa [hown] using hown'
    obtain rfl : _ = o := Except.ok.inj (houtline.symm.trans ho)
    refine ⟨⟨regex⟩, own, hroute, hown, (hiff "/axyz").2 (.inr ?_), ?_⟩
    · refine ⟨0, 2, Nat.zero_le _, ⟨[], _, _, rfl, ?_, fun _ => rfl, by simp⟩,
        by simp [hcharacters]⟩
      rw [hcharacters]
      exact Regex.Pattern.spans_seq.2 ⟨1, Regex.Pattern.spans_char.2 ⟨'/', rfl, by decide, rfl⟩,
        Regex.Pattern.spans_char.2 ⟨'a', rfl, by decide, rfl⟩⟩
    · simp [hpattern, hcharacters]

end Route
end Harvest
