import Harvest.Extraction
import Harvest.Proofs.Locale.Numbers
import Harvest.Proofs.Route.Variables
import Harvest.Proofs.Text.Trimming
import Harvest.Proofs.Url.Addresses
/-!
Styles as they are declared. A `style` attribute is cut at every semicolon, one inside quotes or
parentheses not excepted. So the value that counts for a property is read up to its first
semicolon, and what stands behind that is read as declarations of its own.
-/

namespace Harvest

namespace Text

variable {c : Char} {s : List Char}

theorem splitChars_eq_splitFirst (c : Char) (s : List Char) : splitChars (· = c) s =
    (splitFirst c s).1 :: ((splitFirst c s).2.map (splitChars (· = c))).getD [] := by
  induction s with
  | nil => rfl
  | cons d r ih =>
    by_cases hd : d = c
    · simp [splitChars, splitFirst, hd]
    · rw [splitChars, if_neg (by simpa using hd), ih]
      simp [splitFirst, hd]

theorem splitFirst_append_of_notMem (h : c ∉ s) (r : List Char) :
    splitFirst c (s ++ r) = (s ++ (splitFirst c r).1, (splitFirst c r).2) := by
  induction s with
  | nil => rfl
  | cons d s ih =>
    rw [List.cons_append, splitFirst, if_neg (by rintro rfl; simp at h), ih (by simp_all)]
    rfl

theorem splitChars_append_cons (c : Char) (s r : List Char) :
    splitChars (· = c) (s ++ c :: r) = splitChars (· = c) s ++ splitChars (· = c) r := by
  simp only [Url.Address.splitChars_eq_splitOnP]
  exact List.splitOn_append_cons_self ..

theorem notMem_of_mem_splitChars {part : List Char} (h : part ∈ splitChars (· = c) s) :
    c ∉ part := by
  induction s generalizing part with
  | nil => simp_all [splitChars]
  | cons d r ih =>
    by_cases hd : d = c
    · simp only [splitChars, hd, decide_true, if_true, List.mem_cons] at h
      rcases h with rfl | h
      · exact List.not_mem_nil
      · exact ih h
    · rw [splitChars, if_neg (by simpa using hd), splitChars_eq_splitFirst] at h
      have hfirst := ih (splitChars_eq_splitFirst c r ▸ List.mem_cons_self)
      rcases List.mem_cons.1 h with rfl | h
      · simp [Ne.symm hd, hfirst]
      · exact ih (splitChars_eq_splitFirst c r ▸ List.mem_cons_of_mem _ h)

theorem mem_of_mem_trim {d : Char} (h : d ∈ trim s) : d ∈ s := by
  obtain ⟨pre, post, -, -, -, hs⟩ := exists_blanks s
  rw [hs]
  simp [h]

theorem mem_trim_of_not_isBlank {d : Char} (h : d ∈ s) (hd : isBlank d = false) : d ∈ trim s := by
  have hsolid : d ∈ solid (trim s) := by
    rw [solid_trim]
    exact List.mem_filter.2 ⟨h, by simp [hd]⟩
  exact List.mem_of_mem_filter hsolid

theorem mem_of_splitFirst {r : List Char} (h : (splitFirst c s).2 = some r) {d : Char}
    (hd : d ∈ r) : d ∈ s := by
  induction s with
  | nil => cases h
  | cons e s ih =>
    by_cases he : e = c
    · simp only [splitFirst, he, if_true, Option.some.injEq] at h
      exact List.mem_cons_of_mem e (h ▸ hd)
    · simp only [splitFirst, he, if_false] at h
      exact List.mem_cons_of_mem e (ih h)

end Text

namespace Style

open Resource (IsLast textOrNull)

/-- Whether a text is a word of letters, digits, hyphens and underscores. -/
def IsWord (name : String) : Prop :=
  name ≠ "" ∧ ∀ c ∈ name.toList, c.isAlphanum = true ∨ c = '-' ∨ c = '_'

instance (name : String) : Decidable (IsWord name) :=
  @instDecidableAnd _ _ _ (List.decidableBAll _ name.toList)

/-- A declaration with the blanks around its name and its value. -/
structure Declaration where
  lead : List Char
  name : String
  gap : List Char
  value : List Char
  isBlank_lead : ∀ c ∈ lead, Text.isBlank c
  isBlank_gap : ∀ c ∈ gap, Text.isBlank c
  isWord_name : IsWord name

/-- A declaration without blanks. -/
def Declaration.bare (name : String) (value : List Char) (h : IsWord name) : Declaration :=
  ⟨[], name, [], value, nofun, nofun, h⟩

namespace Declaration

variable (d : Declaration)

/-- The property that is declared, in lower case. -/
def property : String := Text.lowered d.name

/-- The value without the blanks around it. -/
def trimmed : String := String.ofList (Text.trim d.value)

def written : List Char := d.lead ++ d.name.toList ++ d.gap ++ ':' :: d.value

/-- What a declaration is read as: its value ends at the first semicolon. -/
def cut : String × String :=
  (d.property, String.ofList (Text.trim (Text.splitFirst ';' d.value).1))

/-- What stands behind that semicolon is read as declarations. -/
def strays : List (String × String) :=
  match (Text.splitFirst ';' d.value).2 with
  | some rest => (ofText (String.ofList rest)).declarations
  | none => []

end Declaration

/-- A `style` attribute with some declarations. -/
def joined (ds : List Declaration) : String :=
  String.ofList ([';'].intercalate (ds.map Declaration.written))

section

variable {ds : List Declaration} {d : Declaration} {c : Char}

theorem IsWord.bounds {name : String} (h : IsWord name) (hc : c ∈ name.toList) :
    45 ≤ c.toNat ∧ c.toNat ≤ 122 ∧ c ≠ ':' ∧ c ≠ ';' := by
  rcases h.2 c hc with hc | rfl | rfl
  · simp only [Char.isAlphanum, Char.isAlpha, Char.isUpper, Char.isLower, Char.isDigit,
      Bool.or_eq_true, Bool.and_eq_true, decide_eq_true_eq, UInt32.le_iff_toNat_le] at hc
    change ((65 ≤ c.toNat ∧ c.toNat ≤ 90) ∨ 97 ≤ c.toNat ∧ c.toNat ≤ 122) ∨
      48 ≤ c.toNat ∧ c.toNat ≤ 57 at hc
    refine ⟨by omega, by omega, ?_, ?_⟩ <;>
    · rintro rfl
      revert hc
      decide
  · decide
  · decide

theorem IsWord.isBlank_eq_false {name : String} (h : IsWord name) (hc : c ∈ name.toList) :
    Text.isBlank c = false := by
  have hbounds := h.bounds hc
  simp only [Text.isBlank, Bool.or_eq_false_iff, Bool.and_eq_false_iff, decide_eq_false_iff_not,
    beq_eq_false_iff_ne]
  omega

theorem IsWord.isTrimmed {name : String} (h : IsWord name) : Text.IsTrimmed name.toList where
  first _ hc := h.isBlank_eq_false (List.mem_of_mem_head? hc)
  last _ hc := h.isBlank_eq_false (List.mem_of_getLast? hc)

theorem Declaration.notMem_name (d : Declaration) (hc : c = ':' ∨ c = ';') :
    c ∉ d.lead ++ d.name.toList ++ d.gap := by
  have hblank : Text.isBlank c = false := by
    rcases hc with rfl | rfl <;> decide
  have hblanks : ∀ {l : List Char}, (∀ e ∈ l, Text.isBlank e) → c ∉ l := fun hl hmem => by
    simp [hl c hmem] at hblank
  simp only [List.mem_append, not_or]
  refine ⟨⟨hblanks d.isBlank_lead, fun hmem => ?_⟩, hblanks d.isBlank_gap⟩
  obtain ⟨-, -, hcolon, hsemicolon⟩ := d.isWord_name.bounds hmem
  exact hc.elim hcolon hsemicolon

theorem declaration?_front (d : Declaration) (front : List Char) :
    declaration? (d.lead ++ d.name.toList ++ d.gap ++ ':' :: front) =
      some (d.property, String.ofList (Text.trim front)) := by
  rw [declaration?, Locale.splitFirst_append (d.notMem_name (.inl rfl))]
  simp only [Text.trim_append d.isBlank_lead d.isBlank_gap d.isWord_name.isTrimmed,
    String.ofList_toList]
  rfl

theorem splitChars_written (d : Declaration) : Text.splitChars (· = ';') d.written =
    (d.lead ++ d.name.toList ++ d.gap ++ ':' :: (Text.splitFirst ';' d.value).1) ::
      ((Text.splitFirst ';' d.value).2.map (Text.splitChars (· = ';'))).getD [] := by
  have hfront : ';' ∉ d.lead ++ d.name.toList ++ d.gap ++ [':'] := by
    simpa using d.notMem_name (.inr rfl)
  rw [Text.splitChars_eq_splitFirst, Declaration.written,
    List.append_cons _ ':' d.value, Text.splitFirst_append_of_notMem hfront]
  simp

theorem filterMap_written (d : Declaration) :
    (Text.splitChars (· = ';') d.written).filterMap declaration? = d.cut :: d.strays := by
  rw [splitChars_written, List.filterMap_cons_some (declaration?_front d _)]
  congr 1
  unfold Declaration.strays
  split
  · next rest hrest => simp [hrest, ofText]
  · next hnone => simp [hnone]

/-- What a `style` attribute is read as. -/
theorem declarations_joined (ds : List Declaration) :
    (ofText (joined ds)).declarations = ds.flatMap fun d => d.cut :: d.strays := by
  rw [ofText, joined, String.toList_ofList]
  dsimp only
  induction ds with
  | nil => rfl
  | cons d ds ih =>
    cases ds with
    | nil => simp [filterMap_written]
    | cons e ds =>
      rw [List.map_cons, List.map_cons, List.intercalate_cons_cons, ← List.map_cons,
        List.append_assoc, List.singleton_append, Text.splitChars_append_cons,
        List.filterMap_append, filterMap_written, ih, List.flatMap_cons (x := d)]

theorem get?_eq_some_iff {s : Style} {prop value : String} : s.get? prop = some value ↔
    IsLast (fun q => q.1 = Text.lowered prop) s.declarations (Text.lowered prop, value) := by
  rw [get?, List.lookup_eq_some_iff]
  constructor
  · rintro ⟨after, before, hsplit, hafter⟩
    refine ⟨rfl, before.reverse, after.reverse, ?_, fun q hq heq => ?_⟩
    · simpa using congrArg List.reverse hsplit
    · simpa [heq] using hafter q (List.mem_reverse.1 hq)
  · rintro ⟨-, before, after, hsplit, hafter⟩
    refine ⟨after.reverse, before.reverse, by simp [hsplit], fun q hq => ?_⟩
    simpa using Ne.symm (hafter q (List.mem_reverse.1 hq))

theorem get?_eq_none_iff {s : Style} {prop : String} :
    s.get? prop = none ↔ ∀ q ∈ s.declarations, q.1 ≠ Text.lowered prop := by
  rw [get?, List.lookup_eq_none_iff]
  simp only [List.mem_reverse, bne_iff_ne, ne_comm]

/-- No value that is read holds a semicolon. -/
theorem notMem_get? {text prop value : String} (h : (ofText text).get? prop = some value) :
    ';' ∉ value.toList := by
  obtain ⟨-, before, after, hsplit, -⟩ := get?_eq_some_iff.1 h
  have hmem : (Text.lowered prop, value) ∈ (ofText text).declarations := by simp [hsplit]
  obtain ⟨part, hpart, hread⟩ := List.mem_filterMap.1 hmem
  unfold declaration? at hread
  split at hread
  · next name rest hfirst =>
    obtain ⟨-, rfl⟩ := Prod.mk.inj (Option.some.inj hread)
    intro hsemicolon
    rw [String.toList_ofList] at hsemicolon
    refine Text.notMem_of_mem_splitChars hpart (Text.mem_of_splitFirst (c := ':') (r := rest) ?_
      (Text.mem_of_mem_trim hsemicolon))
    rw [hfirst]
  · cases hread

theorem Declaration.mem_trimmed (h : ';' ∈ d.value) : ';' ∈ d.trimmed.toList := by
  rw [trimmed, String.toList_ofList]
  exact Text.mem_trim_of_not_isBlank h (by decide)

theorem Declaration.cut_eq (h : ';' ∉ d.value) : d.cut = (d.property, d.trimmed) := by
  rw [cut, Locale.splitFirst_of_notMem h, trimmed]

theorem isLast_cut {prop : String}
    (hstrays : ∀ d ∈ ds, ∀ q ∈ d.strays, q.1 ≠ prop)
    (h : IsLast (fun d => d.property = prop) ds d) :
    IsLast (fun q => q.1 = prop) (ds.flatMap fun d => d.cut :: d.strays) d.cut := by
  obtain ⟨hd, before, after, rfl, hafter⟩ := h
  refine ⟨hd, before.flatMap fun d => d.cut :: d.strays,
    d.strays ++ after.flatMap fun d => d.cut :: d.strays, by simp, fun q hq => ?_⟩
  rcases List.mem_append.1 hq with hq | hq
  · exact hstrays d (by simp) q hq
  · obtain ⟨e, he, hq⟩ := List.mem_flatMap.1 hq
    rcases List.mem_cons.1 hq with rfl | hq
    · exact hafter e he
    · exact hstrays e (by simp [he]) q hq

theorem read_style {p : Html.Place} {text : String} {pseudo : Option String}
    (hstyle : p.tag.attribute? "style" = some text) (hpseudo : pseudo = none ∨ pseudo = some "")
    (prop : String) :
    Extraction.read (.style prop pseudo) p = .pure (textOrNull ((ofText text).get? prop)) := by
  rcases hpseudo with rfl | rfl <;> simp [Extraction.read, ofTag, ofTag.inline, hstyle]

/-- What is read of a style: the last of all that the text comes to, which is the last declaration
of the property if its value holds no semicolon and nothing behind the semicolons of other values
has its name. A value with a semicolon is never read as declared. -/
theorem read_style_joined (ds : List Declaration) (p : Html.Place)
    (hstyle : p.tag.attribute? "style" = some (joined ds)) (pseudo : Option String)
    (hpseudo : pseudo = none ∨ pseudo = some "") (prop : String) :
    (∀ q, IsLast (fun q => q.1 = Text.lowered prop) (ds.flatMap fun d => d.cut :: d.strays) q →
      Extraction.read (.style prop pseudo) p = .pure (.str q.2)) ∧
    ((∀ q ∈ ds.flatMap fun d => d.cut :: d.strays, q.1 ≠ Text.lowered prop) →
      Extraction.read (.style prop pseudo) p = .pure .null) ∧
    ((∀ d ∈ ds, ∀ q ∈ d.strays, q.1 ≠ Text.lowered prop) →
      (∀ d, IsLast (fun d => d.property = Text.lowered prop) ds d → ';' ∉ d.value →
        Extraction.read (.style prop pseudo) p = .pure (.str d.trimmed)) ∧
      ((∀ d ∈ ds, d.property ≠ Text.lowered prop) →
        Extraction.read (.style prop pseudo) p = .pure .null)) ∧
    ∀ d, IsLast (fun d => d.property = Text.lowered prop) ds d → ';' ∈ d.value →
      Extraction.read (.style prop pseudo) p ≠ .pure (.str d.trimmed) := by
  have hread := read_style hstyle hpseudo prop
  have hsome : ∀ q, IsLast (fun q => q.1 = Text.lowered prop)
      (ds.flatMap fun d => d.cut :: d.strays) q →
      Extraction.read (.style prop pseudo) p = .pure (.str q.2) := by
    rintro ⟨_, value⟩ hlast
    obtain ⟨rfl, -⟩ := id hlast
    rw [← declarations_joined] at hlast
    rw [hread, get?_eq_some_iff.2 hlast]
    rfl
  have hnone : (∀ q ∈ ds.flatMap fun d => d.cut :: d.strays, q.1 ≠ Text.lowered prop) →
      Extraction.read (.style prop pseudo) p = .pure .null := by
    intro h
    rw [hread, get?_eq_none_iff.2 (declarations_joined ds ▸ h)]
    rfl
  refine ⟨hsome, hnone, fun hstrays => ⟨fun d hd hvalue => ?_, fun hnot => hnone fun q hq => ?_⟩,
    fun d hd hvalue hdeclared => ?_⟩
  · have hcut := hsome _ (isLast_cut hstrays hd)
    rwa [d.cut_eq hvalue] at hcut
  · obtain ⟨d, hd, hq⟩ := List.mem_flatMap.1 hq
    rcases List.mem_cons.1 hq with rfl | hq
    · exact hnot d hd
    · exact hstrays d hd q hq
  · rw [hread] at hdeclared
    cases hget : (ofText (joined ds)).get? prop with
    | none =>
      rw [hget] at hdeclared
      cases hdeclared
    | some value =>
      rw [hget] at hdeclared
      cases hdeclared
      exact notMem_get? hget (Declaration.mem_trimmed hvalue)

/-- An element with a `style` attribute. -/
def styled (ds : List Declaration) : Html.Place :=
  .orphan ⟨.html, "p", [⟨"style", joined ds, false⟩], 0⟩ [] ⟨[], [], true, []⟩

theorem attribute?_styled (ds : List Declaration) :
    (styled ds).tag.attribute? "style" = some (joined ds) := by
  simp [styled, Html.Place.tag, Html.Tag.attribute?]

/-- The style of a picture, with a color that is declared twice. -/
def pictured : List Declaration :=
  [.bare "color" " red".toList (by decide +kernel),
    .bare "background-image" " url(data:image/png;base64,AAAA)".toList (by decide +kernel),
    .bare "COLOR" " blue".toList (by decide +kernel)]

/-- The address of the picture is cut off at its semicolon; the color is read as declared. -/
theorem read_style_joined_pictured :
    joined pictured = "color: red;background-image: url(data:image/png;base64,AAAA);COLOR: blue" ∧
      Extraction.read (.style "background-image" none) (styled pictured) =
        .pure (.str "url(data:image/png") ∧
      Extraction.read (.style "color" (some "")) (styled pictured) = .pure (.str "blue") := by
  have hstyle := attribute?_styled pictured
  have hpieces : (pictured.flatMap fun d => d.cut :: d.strays) =
      [("color", "red"), ("background-image", "url(data:image/png"), ("color", "blue")] := by
    decide +kernel
  refine ⟨by decide +kernel, ?_, ?_⟩
  · refine (read_style_joined pictured _ hstyle none (.inl rfl) _).1
      ("background-image", "url(data:image/png") ?_
    rw [hpieces]
    exact ⟨by decide +kernel, [("color", "red")], [("color", "blue")], rfl, by decide +kernel⟩
  · refine (read_style_joined pictured _ hstyle (some "") (.inr rfl) _).1 ("color", "blue") ?_
    rw [hpieces]
    exact ⟨by decide +kernel, [("color", "red"), ("background-image", "url(data:image/png")], [],
      rfl, nofun⟩

end

end Style

end Harvest
