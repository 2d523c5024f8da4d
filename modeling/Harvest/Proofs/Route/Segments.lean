import Harvest.Proofs.Route.Templates
/-!
What a template matches, by segments: paths of as many segments as must be there and some more, the
words of the template among them, and words of their own for its placeholders. The captures are the
placeholders with their segments.
-/

namespace Harvest.Route

def Word.text (w : Word) : String := String.ofList w.chars

namespace Segment

/-- Whether a segment of a template admits one of a path. -/
def Admits : Segment → List Char → Prop
  | .literal w, segment => segment = w.chars
  | .placeholder _, segment => IsWord segment

/-- A placeholder with its segment. -/
def capture? : Segment → List Char → Option (String × Option String)
  | .literal _, _ => none
  | .placeholder n, segment => some (n.text, some (String.ofList segment))

end Segment

/-- Whether a text consists of segments for those that must be there, and of segments for as many
    of those that may be left out as there are. -/
structure Fits (required : List Segment) (optional : List Word) (s : List Char)
    (front back : List (List Char)) : Prop where
  segments : s = slashed (front ++ back)
  front_length : front.length = required.length
  back_length : back.length ≤ optional.length
  front_admitted : ∀ p ∈ required.zip front, p.1.Admits p.2
  back_words : ∀ segment ∈ back, IsWord segment

/-- The placeholders with their segments, in their order. Those behind the last segment have
    none. -/
def groupsOf (required : List Segment) (optional : List Word) (front back : List (List Char)) :
    List (String × Option String) :=
  (required.zip front).filterMap (fun p => p.1.capture? p.2) ++
    (optional.map Word.text).zip (back.map (fun segment => some (String.ofList segment)) ++
      List.replicate (optional.length - back.length) none)

open Pieces Template

variable {s : List Char} {ps : List Piece} {groups : List (String × Option String)}

theorem slashed_cons (segment : List Char) (segments : List (List Char)) :
    slashed (segment :: segments) = '/' :: (segment ++ slashed segments) := List.flatMap_cons

theorem endsWord_slashed (segments : List (List Char)) : EndsWord (slashed segments) := by
  cases segments with
  | nil => rintro c ⟨⟩
  | cons segment rest =>
    rintro c ⟨⟩
    decide

/-! Segments that must be there -/

theorem scan_literal {w : List Char} : scan (w.map .char ++ ps) s = some groups ↔
    ∃ r, s = w ++ r ∧ scan ps r = some groups := by
  induction w generalizing s with
  | nil => simp
  | cons c w ih =>
    cases s with
    | nil => simp [scan]
    | cons d s =>
      by_cases hcd : c = d
      · subst hcd
        simp [scan, ih]
      · simp [scan, hcd, Ne.symm hcd]

/-- One segment, before what begins with no word. -/
theorem scan_segment (segment : Segment)
    (hps : ∀ r groups, scan ps r = some groups → EndsWord r) :
    scan (segment.pieces ++ ps) s = some groups ↔
      ∃ w r later, s = w ++ r ∧ segment.Admits w ∧ scan ps r = some later ∧
        groups = (segment.capture? w).toList ++ later := by
  cases segment with
  | literal w =>
    refine scan_literal.trans ?_
    constructor
    · rintro ⟨r, rfl, hr⟩
      exact ⟨w.chars, r, groups, rfl, rfl, hr, rfl⟩
    · rintro ⟨_, r, _, rfl, rfl, hr, rfl⟩
      exact ⟨r, rfl, hr⟩
  | placeholder n =>
    constructor
    · intro h
      cases hword : word? s with
      | none =>
        rw [Segment.pieces, List.singleton_append, scan, hword] at h
        cases h
      | some taken =>
        obtain ⟨w, r⟩ := taken
        obtain ⟨rfl, hw, -⟩ := word?_eq_some_iff.1 hword
        rw [Segment.pieces, List.singleton_append, scan_capture hword] at h
        obtain ⟨later, hlater, rfl⟩ := Option.map_eq_some_iff.1 h
        exact ⟨w, r, later, rfl, hw, hlater, rfl⟩
    · rintro ⟨w, r, later, rfl, hw, hlater, rfl⟩
      have hword : word? (w ++ r) = some (w, r) := word?_eq_some_iff.2 ⟨rfl, hw, hps r later hlater⟩
      rw [Segment.pieces, List.singleton_append, scan_capture hword, hlater]
      rfl

/-! Segments that may be left out -/

theorem slashWord?_slashed {segment : List Char} (h : IsWord segment)
    (segments : List (List Char)) :
    slashWord? (slashed (segment :: segments)) = some (segment, slashed segments) := by
  rw [slashed_cons]
  exact slashWord?_eq_some_iff.2 ⟨rfl, h, endsWord_slashed segments⟩

section

variable {names : List Word} {back : List (List Char)}

theorem fits_optional_iff : Fits [] names s [] back ↔
    s = slashed back ∧ back.length ≤ names.length ∧ ∀ segment ∈ back, IsWord segment := by
  constructor
  · rintro ⟨hs, -, hlength, -, hwords⟩
    exact ⟨hs, hlength, hwords⟩
  · rintro ⟨hs, hlength, hwords⟩
    exact ⟨hs, rfl, hlength, by simp, hwords⟩

theorem groupsOf_present (n : Word) (segment : List Char) :
    groupsOf [] (n :: names) [] (segment :: back) =
      (n.text, some (String.ofList segment)) :: groupsOf [] names [] back := by
  simp [groupsOf]

theorem groupsOf_absent (n : Word) :
    groupsOf [] (n :: names) [] [] = (n.text, none) :: groupsOf [] names [] [] := by
  simp [groupsOf, List.replicate_succ]

theorem fits_absent (n : Word) (hslash : slashWord? s = none) :
    Fits [] (n :: names) s [] back ↔ back = [] ∧ Fits [] names s [] back := by
  simp only [fits_optional_iff]
  cases back with
  | nil => simp
  | cons segment back =>
    refine iff_of_false ?_ (by simp)
    rintro ⟨rfl, -, hwords⟩
    rw [slashWord?_slashed (hwords segment List.mem_cons_self)] at hslash
    cases hslash

theorem fits_present (n : Word) {w r : List Char} (hslash : slashWord? s = some (w, r)) :
    Fits [] (n :: names) s [] back ↔ ∃ later, back = w :: later ∧ Fits [] names r [] later := by
  obtain ⟨rfl, hw, -⟩ := slashWord?_eq_some_iff.1 hslash
  simp only [fits_optional_iff]
  constructor
  · rintro ⟨hs, hlength, hwords⟩
    cases back with
    | nil => cases hs
    | cons segment later =>
      rw [hs, slashWord?_slashed (hwords segment List.mem_cons_self)] at hslash
      cases hslash
      exact ⟨later, rfl, rfl, Nat.le_of_succ_le_succ hlength,
        fun segment hsegment => hwords segment (List.mem_cons_of_mem w hsegment)⟩
  · rintro ⟨later, rfl, rfl, hlength, hwords⟩
    exact ⟨(slashed_cons w later).symm, Nat.succ_le_succ hlength,
      List.forall_mem_cons.2 ⟨hw, hwords⟩⟩

/-- What fits some of the segments that may be left out fits more of them. -/
theorem Fits.more (n : Word) (h : Fits [] names s [] back) : Fits [] (n :: names) s [] back := by
  rw [fits_optional_iff] at h ⊢
  exact ⟨h.1, Nat.le_succ_of_le h.2.1, h.2.2⟩

end

/-- Segments that may be left out take part one after the other, as long as there are any in the
    path: what fewer of them match is matched by more of them as well. -/
theorem scan_optionalPieces {names : List Word} : scan (optionalPieces names) s = some groups ↔
    ∃ back, Fits [] names s [] back ∧ groups = groupsOf [] names [] back := by
  induction names generalizing s groups with
  | nil =>
    have hnil : ∀ back, Fits [] [] s [] back ↔ back = [] ∧ s = [] := by
      intro back
      rw [fits_optional_iff]
      cases back <;> simp [slashed]
    simp only [hnil]
    cases s <;> simp [optionalPieces, scan, groupsOf, eq_comm]
  | cons n rest ih =>
    have hpieces : optionalPieces (n :: rest) = .optional n.chars :: optionalPieces rest := rfl
    rw [hpieces]
    cases hslash : slashWord? s with
    | none =>
      rw [scan_not_optional hslash, Option.map_eq_some_iff]
      constructor
      · rintro ⟨later, hlater, rfl⟩
        obtain ⟨back, hfits, rfl⟩ := ih.1 hlater
        obtain ⟨rfl, -⟩ := (fits_absent n hslash).1 (hfits.more n)
        exact ⟨[], hfits.more n, (groupsOf_absent n).symm⟩
      · rintro ⟨back, hfits, rfl⟩
        obtain ⟨rfl, hfits⟩ := (fits_absent n hslash).1 hfits
        exact ⟨_, ih.2 ⟨[], hfits, rfl⟩, (groupsOf_absent n).symm⟩
    | some taken =>
      obtain ⟨w, r⟩ := taken
      rw [scan_optional hslash]
      cases hrest : scan (optionalPieces rest) r with
      | none =>
        -- nothing fits behind this segment, so nothing fits without it either: what fits without
        -- it fits one more, and that one would be this segment
        have hnone : ∀ later, ¬ Fits [] rest r [] later := by
          intro later hfits
          cases hrest.symm.trans (ih.2 ⟨later, hfits, rfl⟩)
        have hpast : scan (optionalPieces rest) s = none := by
          rw [Option.eq_none_iff_forall_ne_some]
          intro later hlater
          obtain ⟨back, hfits, -⟩ := ih.1 hlater
          obtain ⟨later, -, hfits⟩ := (fits_present n hslash).1 (hfits.more n)
          exact hnone later hfits
        rw [hpast]
        refine iff_of_false (by simp) ?_
        rintro ⟨back, hfits, -⟩
        obtain ⟨later, -, hfits⟩ := (fits_present n hslash).1 hfits
        exact hnone later hfits
      | some later =>
        obtain ⟨back, hfits, rfl⟩ := ih.1 hrest
        rw [Option.map_some, Option.some_or, Option.some_inj]
        constructor
        · rintro rfl
          exact ⟨w :: back, (fits_present n hslash).2 ⟨back, rfl, hfits⟩,
            (groupsOf_present n w).symm⟩
        · rintro ⟨_, hfits', rfl⟩
          obtain ⟨back', rfl, hlater⟩ := (fits_present n hslash).1 hfits'
          have hsame := hrest.symm.trans (ih.2 ⟨back', hlater, rfl⟩)
          rw [groupsOf_present, Option.some_inj.1 hsame]
          rfl

/-! All segments -/

section

variable {segment : Segment} {rest : List Segment} {optional : List Word}

theorem Fits.endsWord {required : List Segment} {front back : List (List Char)}
    (h : Fits required optional s front back) : EndsWord s := by
  rw [h.segments]
  exact endsWord_slashed _

theorem fits_required_iff {front back : List (List Char)} :
    Fits (segment :: rest) optional s front back ↔
      ∃ w r later, s = '/' :: (w ++ r) ∧ segment.Admits w ∧ front = w :: later ∧
        Fits rest optional r later back := by
  constructor
  · rintro ⟨hs, hlength, hback, hadmitted, hwords⟩
    cases front with
    | nil => cases hlength
    | cons w later =>
      obtain ⟨hfirst, hadmitted⟩ := List.forall_mem_cons.1 hadmitted
      refine ⟨w, slashed (later ++ back), later, ?_, hfirst, rfl,
        ⟨rfl, Nat.succ.inj hlength, hback, hadmitted, hwords⟩⟩
      rw [hs, List.cons_append, slashed_cons]
  · rintro ⟨w, r, later, rfl, hfirst, rfl, ⟨rfl, hlength, hback, hadmitted, hwords⟩⟩
    refine ⟨?_, congrArg Nat.succ hlength, hback, ?_, hwords⟩
    · rw [List.cons_append, slashed_cons]
    · exact List.forall_mem_cons.2 ⟨hfirst, hadmitted⟩

theorem groupsOf_required (w : List Char) (later back : List (List Char)) :
    groupsOf (segment :: rest) optional (w :: later) back =
      (segment.capture? w).toList ++ groupsOf rest optional later back := by
  cases h : segment.capture? w <;> simp [groupsOf, h]

theorem scan_pieces {required : List Segment} :
    scan (requiredPieces required ++ optionalPieces optional) s = some groups ↔
      ∃ front back, Fits required optional s front back ∧
        groups = groupsOf required optional front back := by
  induction required generalizing s groups with
  | nil =>
    refine scan_optionalPieces.trans ?_
    constructor
    · rintro ⟨back, hfits, rfl⟩
      exact ⟨[], back, hfits, rfl⟩
    · rintro ⟨front, back, hfits, rfl⟩
      obtain rfl := List.length_eq_zero_iff.1 hfits.front_length
      exact ⟨back, hfits, rfl⟩
  | cons segment rest ih =>
    have hps : ∀ r later, scan (requiredPieces rest ++ optionalPieces optional) r = some later →
        EndsWord r := by
      intro r later hlater
      obtain ⟨front, back, hfits, -⟩ := ih.1 hlater
      exact hfits.endsWord
    have hslash : ∀ ps, scan (.char '/' :: ps) s = some groups ↔
        ∃ r, s = '/' :: r ∧ scan ps r = some groups := by
      intro ps
      exact scan_literal (w := ['/'])
    rw [requiredPieces_cons, List.cons_append, List.append_assoc, hslash]
    simp only [scan_segment segment hps, ih, fits_required_iff]
    constructor
    · rintro ⟨_, rfl, w, r, _, rfl, hadmits, ⟨front, back, hfits, rfl⟩, rfl⟩
      exact ⟨w :: front, back, ⟨w, r, front, rfl, hadmits, rfl, hfits⟩,
        (groupsOf_required w front back).symm⟩
    · rintro ⟨_, back, ⟨w, r, front, rfl, hadmits, rfl, hfits⟩, rfl⟩
      exact ⟨_, rfl, w, r, _, rfl, hadmits, ⟨front, back, hfits, rfl⟩,
        groupsOf_required w front back⟩

end

/-! Templates -/

namespace Template

/-- Whether a path fits a template, which need not begin with a slash. -/
def Covers (t : Template) (path : String) (front back : List (List Char)) : Prop :=
  Fits t.required t.optional ((if t.rooted then [] else ['/']) ++ path.toList) front back

theorem captures?_iff (t : Template) {path : String} :
    (Route.mk (Pieces.regex t.pieces)).captures? path = some groups ↔
      ∃ front back, t.Covers (normalizePath path) front back ∧
        groups = groupsOf t.required t.optional front back := by
  have hscan : (Route.mk (Pieces.regex t.pieces)).captures? path =
      scan t.rootedPieces ((if t.rooted then [] else ['/']) ++ (normalizePath path).toList) := by
    rw [captures?, Pieces.captures?_regex t.isSeparated_pieces]
    cases h : t.rooted with
    | true => simp [pieces, h]
    | false =>
      rw [rootedPieces_eq h]
      simp [scan]
  rw [hscan]
  exact scan_pieces

def itemsWord : Word := ⟨"items".toList, by decide, List.all_eq_true.1 (by decide)⟩

def idWord : Word := ⟨"id".toList, by decide, List.all_eq_true.1 (by decide)⟩

def pageWord : Word := ⟨"page".toList, by decide, List.all_eq_true.1 (by decide)⟩

def itemTemplate : Template where
  rooted := true
  required := [.literal itemsWord, .placeholder idWord]
  optional := [pageWord]
  trailing := false
  begun := .inl rfl
  distinct := by decide

/-- One more letter than given. -/
def longWord (n : Nat) : Word where
  chars := List.replicate (n + 1) 'a'
  isWord := by
    refine ⟨List.cons_ne_nil 'a' _, fun c hc => ?_⟩
    rw [List.eq_of_mem_replicate hc]
    decide

def longTemplate (n : Nat) : Template where
  rooted := true
  required := [.literal (longWord n)]
  optional := []
  trailing := false
  begun := .inl rfl
  distinct := List.nodup_nil

theorem longTemplate_weight (n : Nat) : (longTemplate n).weight = 64 + 32 + 32 * (n + 1) := by
  simp [weight, slashes, longTemplate, Segment.weight, longWord]

theorem longTemplate_text (n : Nat) :
    (longTemplate n).text = String.ofList ('/' :: List.replicate (n + 1) 'a') := by
  simp [text, source, longTemplate, slashed, Segment.source, longWord]

/-- A template without segments that may be left out compiles just if its names are names of
    groups, without hyphens and without digits at the beginning, and if its expression is not too
    large. Then it reports each placeholder with its segment. -/
theorem placeholders_reported (t : Template) (hoptional : t.optional = []) :
    ((∃ route, compile t.text = .ok route) ↔
      (∀ name ∈ t.names, name.IsName) ∧ t.weight ≤ Regex.Pattern.maxWeight) ∧
    (∀ route, compile t.text = .ok route → ∀ path groups,
      route.captures? path = some groups ↔ ∃ segments, t.Covers (normalizePath path) segments [] ∧
        groups = (t.required.zip segments).filterMap fun p => p.1.capture? p.2) ∧
    ((∃ name ∈ t.names, ¬ name.IsName) →
      compile t.text = .error (.invalidPattern t.text Regex.Fault.groupName.message)) := by
  refine ⟨?_, fun route hroute path groups => ?_, ?_⟩
  · constructor
    · rintro ⟨route, hroute⟩
      obtain ⟨hnames, hweight, -⟩ := compile_text_eq_ok_iff.1 hroute
      exact ⟨hnames, hweight⟩
    · rintro ⟨hnames, hweight⟩
      exact ⟨_, compile_text_eq_ok_iff.2 ⟨hnames, hweight, rfl⟩⟩
  · obtain ⟨-, -, rfl⟩ := compile_text_eq_ok_iff.1 hroute
    refine t.captures?_iff.trans ?_
    have hnone : ∀ front back, t.Covers (normalizePath path) front back → back = [] := by
      intro front back hcovers
      have hlength := hcovers.back_length
      rw [hoptional] at hlength
      exact List.length_eq_zero_iff.1 (Nat.le_zero.1 hlength)
    have hgroups : ∀ segments, groupsOf t.required t.optional segments [] =
        (t.required.zip segments).filterMap fun p => p.1.capture? p.2 := by
      simp [groupsOf, hoptional]
    constructor
    · rintro ⟨segments, back, hcovers, rfl⟩
      obtain rfl := hnone segments back hcovers
      exact ⟨segments, hcovers, hgroups segments⟩
    · rintro ⟨segments, hcovers, rfl⟩
      exact ⟨segments, [], hcovers, (hgroups segments).symm⟩
  · rintro ⟨name, hname, hno⟩
    exact t.compile_text.2.2 fun hall => hno (hall name hname)

/-! A placeholder whose name has a hyphen -/

def pageIdTemplate : Template where
  rooted := true
  required := [.placeholder ⟨"page-id".toList, by decide, List.all_eq_true.1 (by decide)⟩]
  optional := []
  trailing := false
  begun := .inl rfl
  distinct := by decide

theorem hyphen_refused : pageIdTemplate.optional = [] ∧ compile "/:page-id" =
    .error (.invalidPattern "/:page-id" "invalid capture group name") := by
  obtain ⟨-, -, hrefused⟩ := placeholders_reported pageIdTemplate rfl
  have htext : pageIdTemplate.text = "/:page-id" := by decide
  rw [htext] at hrefused
  refine ⟨rfl, hrefused ⟨_, List.mem_cons_self, ?_⟩⟩
  rintro ⟨c, r, hchars, -, hrest⟩
  obtain ⟨rfl, rfl⟩ := List.cons.inj hchars
  exact absurd (hrest '-' (by decide)) (by decide)

end Template
end Harvest.Route
