import Harvest.Proofs.Extraction.Composition
import Harvest.Proofs.Extraction.Shapes
/-!
What the rules for the whole page do to the rest of an extraction. They set the locale, by a text
that they end with, and nothing else; and where every cast to a number forces a locale of its own,
they do nothing at all to it.
-/

namespace Harvest

namespace Resource

/-- Whether a transformer does not ask for the locale of the page. -/
def Transformer.ForcesLocale : Transformer → Prop
  | .toNumber options => ∃ tag, options = some (some tag)
  | _ => True

def Extractor.ForcesLocale (e : Extractor) : Prop := ∀ t ∈ e.transformers, t.ForcesLocale

mutual

/-- Whether a rule does not ask for the locale of the page, at any depth. -/
def Rule.ForcesLocale : Rule → Prop
  | .node _ extractors recovery => (∀ e ∈ extractors, e.ForcesLocale) ∧ recovery.ForcesLocale
  | .array _ _ fields => ForceLocale fields

def ForceLocale : List Rule → Prop
  | [] => True
  | r :: rest => r.ForcesLocale ∧ ForceLocale rest

def Recovery.ForcesLocale : Recovery → Prop
  | .fallback r => r.ForcesLocale
  | .none | .bail _ | .omit _ => True

end

end Resource

def Resource.withPageRules (r : Resource) (l : List Resource.PageRule) : Resource :=
  { r with pageRules := l }

namespace Extraction

open Html Resource

section

variable {s : Setting} {l : Locale}

theorem apply_withLocale {t : Transformer} (h : t.ForcesLocale) (v : Json) :
    Transform.apply (s.withLocale l).context t v = Transform.apply s.context t v := by
  cases t with
  | toNumber options =>
    obtain ⟨tag, rfl⟩ := h
    rfl
  | _ => rfl

theorem applyAll_withLocale {ts : List Transformer} (h : ∀ t ∈ ts, t.ForcesLocale) :
    Transform.applyAll (s.withLocale l).context ts = Transform.applyAll s.context ts := by
  induction ts with
  | nil => rfl
  | cons t ts ih =>
    obtain ⟨ht, hts⟩ := List.forall_mem_cons.1 h
    funext v
    simp only [Transform.applyAll, apply_withLocale ht, ih hts]

theorem extractAll_withLocale {extractors : List Extractor} (h : ∀ e ∈ extractors, e.ForcesLocale)
    (p : Place) (m : Members) :
    extractAll (s.withLocale l).context p extractors m = extractAll s.context p extractors m := by
  induction extractors generalizing m with
  | nil => rfl
  | cons e rest ih =>
    obtain ⟨he, hrest⟩ := List.forall_mem_cons.1 h
    have hextract : extract (s.withLocale l).context e p = extract s.context e p := by
      rw [extract, applyAll_withLocale he, extract]
    simp only [extractAll, hextract, ih hrest]

theorem target_withLocale (scope : Scope) (selector : Option String) :
    target (s.withLocale l) scope selector = target s scope selector := by
  cases selector <;> rfl

mutual

/-- Rules that force their locales do not ask for that of the page. -/
theorem rule_withLocale : (r : Rule) → r.ForcesLocale → (scope : Scope) →
    rule (s.withLocale l) r scope = rule s r scope
  | .node selector extractors recovery, h, scope => by
    simp only [rule, target_withLocale, extractAll_withLocale h.1, recover_withLocale recovery h.2]
  | .array key selector fields, h, scope => by
    simp only [rule, rules_withLocale fields h]
    rfl

theorem rules_withLocale : (rs : List Rule) → ForceLocale rs → (scope : Scope) → (m : Members) →
    rules (s.withLocale l) rs scope m = rules s rs scope m
  | [], _, _, _ => rfl
  | r :: rest, h, scope, m => by
    simp only [rules, rule_withLocale r h.1, rules_withLocale rest h.2]

theorem recover_withLocale : (recovery : Recovery) → recovery.ForcesLocale → (selector : String) →
    recover (s.withLocale l) selector recovery = recover s selector recovery
  | .none, _, _ | .bail _, _, _ | .omit _, _, _ => rfl
  | .fallback r, h, _ => rule_withLocale r h (.element s.body)

end

end

/-- The text that the rules for the whole page end with as their locale, if it is one. -/
def localeTag? (values : Members) : Option String :=
  match values.get? "locale" with
  | some (.str tag) => some tag
  | _ => none

theorem localeOf_eq (values : Members) :
    localeOf values = ((localeTag? values).map Locale.ofTag).getD .english := by
  unfold localeOf localeTag?
  cases values.get? "locale" with
  | none => simp
  | some v => cases v <;> simp

/-- Whether two extractions come to the same, and have the same warnings after the rules for the
    whole page. -/
structure AlikeAfterPage (r r' : Resource) (d : Document) : Prop where
  payload : (r.extract d).payload = (r'.extract d).payload
  warnings : ∃ later : List String,
    (r.extract d).warnings = (pagePass r d).warnings ++ later ∧
    (r'.extract d).warnings = (pagePass r' d).warnings ++ later

theorem alikeAfterPage {r : Resource} {d : Document} {one other : List PageRule} {m n : Members}
    (hone : (pagePass (r.withPageRules one) d).result = .ok m)
    (hother : (pagePass (r.withPageRules other) d).result = .ok n)
    (h : described r d r.descriptors m = described r d r.descriptors n) :
    AlikeAfterPage (r.withPageRules one) (r.withPageRules other) d := by
  have hrun : run (r.withPageRules one) d =
      ⟨(pagePass (r.withPageRules one) d).warnings ++ (described r d r.descriptors m).warnings,
        (described r d r.descriptors m).result⟩ := run_of_page hone
  have hrun' : run (r.withPageRules other) d =
      ⟨(pagePass (r.withPageRules other) d).warnings ++ (described r d r.descriptors m).warnings,
        (described r d r.descriptors m).result⟩ := by
    rw [h]
    exact run_of_page hother
  refine ⟨?_, _, congrArg Pass.warnings hrun, congrArg Pass.warnings hrun'⟩
  simp only [Resource.extract, hrun, hrun']

/-- The rules for the whole page do nothing to what follows but set the locale, and not even this
    where every cast to a number forces a locale. -/
theorem page_rules_set_locale {r : Resource} {d : Document} {one other : List PageRule}
    {m n : Members} (hone : (pagePass (r.withPageRules one) d).result = .ok m)
    (hother : (pagePass (r.withPageRules other) d).result = .ok n) :
    (localeTag? m = localeTag? n →
      AlikeAfterPage (r.withPageRules one) (r.withPageRules other) d) ∧
    (ForceLocale r.descriptors →
      AlikeAfterPage (r.withPageRules one) (r.withPageRules other) d) := by
  refine ⟨fun h => alikeAfterPage hone hother ?_, fun h => alikeAfterPage hone hother ?_⟩
  · rw [described, described, localeOf_eq, localeOf_eq, h]
  · rw [described, described, rules_withLocale _ h, rules_withLocale _ h]

/-! A price whose separators are given, whatever the page says of its language -/

def germanPrice : Resource :=
  { shop with
    descriptors := [.node none [⟨.text, "price", [.toNumber (some (some "de"))]⟩] .none] }

def german : List PageRule :=
  [⟨none, [⟨.attribute "lang", "locale", [.fallback "de"]⟩], .none⟩]

/-- Rules that end with the same locale, one member more. -/
def alsoGerman : List PageRule :=
  [⟨none, [⟨.text, "name", []⟩, ⟨.attribute "dir", "locale", [.fallback "de"]⟩], .none⟩]

def named : List PageRule := [⟨none, [⟨.text, "name", []⟩], .none⟩]

theorem german_price_alike :
    (pagePass (shop.withPageRules german) page).result = .ok [("locale", .str "de")] ∧
    (pagePass (shop.withPageRules alsoGerman) page).result =
      .ok [("locale", .str "de"), ("name", .str "1.5 x ")] ∧
    AlikeAfterPage (shop.withPageRules german) (shop.withPageRules alsoGerman) page ∧
    (pagePass (germanPrice.withPageRules german) page).result = .ok [("locale", .str "de")] ∧
    (pagePass (germanPrice.withPageRules named) page).result = .ok [("name", .str "1.5 x ")] ∧
    ForceLocale germanPrice.descriptors ∧
    AlikeAfterPage (germanPrice.withPageRules german) (germanPrice.withPageRules named) page := by
  have hgerman : (pagePass (shop.withPageRules german) page).result =
      .ok [("locale", .str "de")] := rfl
  have halso : (pagePass (shop.withPageRules alsoGerman) page).result =
      .ok [("locale", .str "de"), ("name", .str "1.5 x ")] := rfl
  have hpriced : (pagePass (germanPrice.withPageRules german) page).result =
      .ok [("locale", .str "de")] := rfl
  have hnamed : (pagePass (germanPrice.withPageRules named) page).result =
      .ok [("name", .str "1.5 x ")] := rfl
  have hforce : ForceLocale germanPrice.descriptors := by
    simp [germanPrice, ForceLocale, Rule.ForcesLocale, Extractor.ForcesLocale,
      Transformer.ForcesLocale, Recovery.ForcesLocale]
  exact ⟨hgerman, halso, (page_rules_set_locale hgerman halso).1 rfl, hpriced, hnamed, hforce,
    (page_rules_set_locale hpriced hnamed).2 hforce⟩

end Extraction
end Harvest
