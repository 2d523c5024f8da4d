import Harvest.Html.Reader
import Harvest.Page.Detection
import Harvest.Proofs.Html.Addresses
/-!
Challenge pages. Each signature is a selector that can be read, and selects the scripts whose
source starts with an address of its own; a document is a challenge if one of them selects anything
in it, which may stand below a body that a frameset took the place of.
-/

namespace Harvest

open Html

/-- Starts of the sources of scripts that a challenge loads. -/
def challengeSources : List String :=
  ["https://challenges.cloudflare.com/cdn-cgi/challenge-platform",
   "https://challenges.cloudflare.com/turnstile/",
   "/cdn-cgi/challenge-platform/"]

/-- Whether an element is a script whose source starts in some way. -/
def LoadsFrom (start : String) (t : Tag) : Prop :=
  t.name = "script" ∧
    ∃ a ∈ t.attributes, a.name = "src" ∧ a.qualified = false ∧ start.toList <+: a.value.toList

instance (start : String) (t : Tag) : Decidable (LoadsFrom start t) :=
  inferInstanceAs (Decidable (t.name = "script" ∧
    ∃ a ∈ t.attributes, a.name = "src" ∧ a.qualified = false ∧ start.toList <+: a.value.toList))

/-- The selector of scripts whose source starts in some way. -/
def sourceSelector (start : String) : Css.Selector :=
  ⟨[.one [.type "script", .compare .none "src" .start start .exact]]⟩

/-- Whether a selector is that of the scripts whose source starts in some way. -/
def isSourceSelector (start : String) : Css.Selector → Bool
  | ⟨[.one [.type name, .compare .none part .start value .exact]]⟩ =>
    name = "script" && part = "src" && value = start
  | _ => false

theorem eq_of_isSourceSelector {start : String} {s : Css.Selector}
    (h : isSourceSelector start s = true) : s = sourceSelector start := by
  unfold isSourceSelector at h
  split at h
  · simp only [Bool.and_eq_true, decide_eq_true_eq] at h
    obtain ⟨⟨rfl, rfl⟩, rfl⟩ := h
    rfl
  · cases h

/-- The text of that selector. -/
def sourceSignature (start : String) : String := "script[src^=\"" ++ start ++ "\"]"

theorem challengeSignatures_eq : challengeSignatures = challengeSources.map sourceSignature := by
  decide +kernel

/-- Every signature can be read. -/
theorem parse?_sourceSignature : ∀ start ∈ challengeSources,
    Css.Selector.parse? (sourceSignature start) = some (sourceSelector start) := by
  have hread : ∀ start ∈ challengeSources,
      (Css.Selector.parse? (sourceSignature start)).any (isSourceSelector start) = true := by
    decide +kernel
  intro start hstart
  obtain ⟨s, hs, hsource⟩ := (Option.any_eq_true _ _).1 (hread start hstart)
  rw [hs, eq_of_isSourceSelector hsource]

theorem nameOn_of_lowered {name : String} (h : Text.lowered name = name) (t : Tag) :
    Css.Match.nameOn t name = name := by
  unfold Css.Match.nameOn
  split
  · exact h
  · rfl

theorem selects_sourceSelector_iff {start : String} (h : start ≠ "") (p : Place) :
    (sourceSelector start).selects p = true ↔ LoadsFrom start p.tag := by
  have hne : start.toList ≠ [] := by simpa using h
  have hscript : Css.Match.nameOn p.tag "script" = "script" :=
    nameOn_of_lowered (by decide +kernel) p.tag
  have hsrc : Css.Match.nameOn p.tag "src" = "src" :=
    nameOn_of_lowered (by decide +kernel) p.tag
  simp [sourceSelector, Css.Selector.selects, Css.Match.any, Css.Match.complex, Css.Match.all,
    Css.Match.simple, Css.Match.valuesOf, Css.Match.holds, Css.Match.ignores, Css.Match.compares,
    hscript, hsrc, LoadsFrom, hne, and_assoc]

theorem Html.Document.has_sourceSignature_iff (d : Document) {start : String}
    (h : start ∈ challengeSources) :
    d.has (sourceSignature start) = true ↔ ∃ p ∈ d.elements, LoadsFrom start p.tag := by
  have hne : start ≠ "" := by
    rintro rfl
    exact absurd h (by decide)
  simp only [has, parse?_sourceSignature start h, List.any_eq_true, selects_sourceSelector_iff hne]

theorem Html.Document.wellKnownResponse?_eq_iff (d : Document) :
    d.wellKnownResponse? = some .cloudflare ↔
      ∃ start ∈ challengeSources, ∃ p ∈ d.elements, LoadsFrom start p.tag := by
  have hany : challengeSignatures.any d.has = true ↔
      ∃ start ∈ challengeSources, ∃ p ∈ d.elements, LoadsFrom start p.tag := by
    rw [challengeSignatures_eq, List.any_map, List.any_eq_true]
    exact exists_congr fun start => and_congr_right fun h => d.has_sourceSignature_iff h
  rw [← hany, wellKnownResponse?]
  split <;> simp_all

/-- A document is a challenge exactly if it has a script from one of the addresses, or had one
below what was taken out of it. -/
theorem Html.Document.isChallenge_iff (d : Document) :
    d.wellKnownResponse? = some .cloudflare ↔
      ∃ t c, d.Holds t c ∧ ∃ start ∈ challengeSources, LoadsFrom start t := by
  rw [d.wellKnownResponse?_eq_iff]
  constructor
  · rintro ⟨start, hstart, p, hp, hloads⟩
    exact ⟨p.tag, p.nodes, d.exists_mem_elements.1 ⟨p, hp, rfl⟩, start, hstart, hloads⟩
  · rintro ⟨t, c, hholds, start, hstart, hloads⟩
    obtain ⟨p, hp, hself⟩ := d.exists_mem_elements.2 hholds
    obtain ⟨rfl, -⟩ := Node.element.inj hself
    exact ⟨start, hstart, p, hp, hloads⟩

/-- A script below a body that a frameset took the place of counts, though no script stands in the
document any more. -/
theorem Html.Document.isChallenge_of_lost_script :
    (parse "<p><script src=/cdn-cgi/challenge-platform/></script><frameset>").wellKnownResponse? =
        some .cloudflare ∧
      ¬ ∃ a t c, at? (parse
          "<p><script src=/cdn-cgi/challenge-platform/></script><frameset>").nodes a =
        some (.element t c) ∧ t.name = "script" := by
  set d := parse "<p><script src=/cdn-cgi/challenge-platform/></script><frameset>"
  have hlost : ∃ p ∈ placesBelowLost d.nodes.length d.lost,
      LoadsFrom "/cdn-cgi/challenge-platform/" p.tag := by
    decide +kernel
  have hplaces : ∀ p ∈ d.places, p.tag.name ≠ "script" := by
    decide +kernel
  constructor
  · obtain ⟨p, hp, hloads⟩ := hlost
    have hmem : p ∈ d.elements := List.mem_mergeSort.2 (List.mem_append_right _ hp)
    exact d.wellKnownResponse?_eq_iff.2 ⟨_, by simp [challengeSources], p, hmem, hloads⟩
  · rintro ⟨a, t, c, hat, hname⟩
    obtain ⟨p, hp, hself⟩ := d.exists_mem_places.2 ⟨a, hat⟩
    obtain ⟨rfl, -⟩ := Node.element.inj hself
    exact hplaces p hp hname

end Harvest
