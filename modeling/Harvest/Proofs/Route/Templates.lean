import Harvest.Proofs.Route.Scanning
/-!
Templates of segments: words that stand for themselves and placeholders, behind slashes, and at the
end placeholders with their slash that may be left out. Their text is a sequence of pieces.
-/

namespace Harvest.Route

/-- Characters that segments and names may have, at least one. -/
structure Word where
  chars : List Char
  isWord : IsWord chars

/-- Whether a word may be the name of a group: there is no hyphen in it, and no digit at its
    beginning. -/
def Word.IsName (w : Word) : Prop :=
  ∃ c r, w.chars = c :: r ∧ (c.isAlpha = true ∨ c = '_') ∧ ∀ d ∈ r, d.isAlphanum = true ∨ d = '_'

inductive Segment
  | literal (word : Word)
  | placeholder (name : Word)

namespace Segment

def source : Segment → List Char
  | .literal w => w.chars
  | .placeholder n => ':' :: n.chars

def name? : Segment → Option Word
  | .literal _ => none
  | .placeholder n => some n

/-- The bytes that a segment is taken to need. -/
def weight : Segment → Nat
  | .literal w => 32 * w.chars.length
  | .placeholder _ => 208

end Segment

/-- Segments of a path, each behind a slash. -/
def slashed (segments : List (List Char)) : List Char := segments.flatMap ('/' :: ·)

structure Template where
  /-- Whether it begins with a slash. -/
  rooted : Bool
  required : List Segment
  /-- The names of the segments that may be left out. -/
  optional : List Word
  /-- Whether there is one more slash at the end. -/
  trailing : Bool
  begun : rooted = true ∨ required ≠ []
  distinct : ((required.filterMap Segment.name? ++ optional).map Word.chars).Nodup

namespace Template

def names (t : Template) : List Word := t.required.filterMap Segment.name? ++ t.optional

/-- The text of a template without the slash at its end. -/
def source (t : Template) : List Char :=
  (slashed (t.required.map Segment.source)).drop (if t.rooted then 0 else 1) ++
    t.optional.flatMap fun n => "(/:".toList ++ n.chars ++ ")?".toList

def text (t : Template) : String :=
  String.ofList (t.source ++ if t.trailing then ['/'] else [])

/-- The slashes before the segments that must be there. -/
def slashes (t : Template) : Nat := t.required.length - if t.rooted then 0 else 1

/-- The bytes that the expression of a template is taken to need. -/
def weight (t : Template) : Nat :=
  64 + 32 * t.slashes + (t.required.map Segment.weight).sum + 384 * t.optional.length

end Template

/-! Slashes at the end -/

theorem normalizePath_slash (s : List Char) :
    normalizePath (String.ofList (s ++ ['/'])) = String.ofList s := by
  simp [normalizePath]

theorem normalizePath_eq_self {s : List Char} (h : s.getLast? ≠ some '/') :
    normalizePath (String.ofList s) = String.ofList s := by
  unfold normalizePath
  split
  · rename_i r hr
    rw [String.toList_ofList, List.reverse_eq_cons_iff] at hr
    simp [hr] at h
  · rfl

/-! The pieces of a template -/

namespace Segment

def pieces : Segment → List Piece
  | .literal w => w.chars.map .char
  | .placeholder n => [.capture n.chars]

end Segment

namespace Template

open Pieces

variable {t : Template}

/-- The pieces of segments behind slashes. -/
def requiredPieces (segments : List Segment) : List Piece :=
  segments.flatMap fun s => .char '/' :: s.pieces

def optionalPieces (names : List Word) : List Piece := names.map fun n => .optional n.chars

/-- The pieces of a template as if it began with a slash. -/
def rootedPieces (t : Template) : List Piece :=
  requiredPieces t.required ++ optionalPieces t.optional

def pieces (t : Template) : List Piece := t.rootedPieces.drop (if t.rooted then 0 else 1)

theorem rootedPieces_eq (h : t.rooted = false) : t.rootedPieces = .char '/' :: t.pieces := by
  cases hrequired : t.required with
  | nil => exact absurd hrequired (t.begun.resolve_left (by simp [h]))
  | cons s rest => simp [pieces, rootedPieces, requiredPieces, h, hrequired]

theorem requiredPieces_cons (s : Segment) (rest : List Segment) :
    requiredPieces (s :: rest) = .char '/' :: (s.pieces ++ requiredPieces rest) := List.flatMap_cons

theorem source_slash (ps : List Piece) :
    Pieces.source (.char '/' :: ps) = '/' :: Pieces.source ps := rfl

theorem source_append (ps qs : List Piece) :
    Pieces.source (ps ++ qs) = Pieces.source ps ++ Pieces.source qs := List.flatMap_append

theorem source_segment (s : Segment) : Pieces.source s.pieces = s.source := by
  cases s with
  | literal w =>
    have hchars : ∀ l : List Char, Pieces.source (l.map .char) = l := by
      intro l
      simp [Pieces.source, List.flatMap_map, Piece.source]
    exact hchars w.chars
  | placeholder n => exact List.append_nil _

theorem source_requiredPieces (segments : List Segment) :
    Pieces.source (requiredPieces segments) = slashed (segments.map Segment.source) := by
  induction segments with
  | nil => rfl
  | cons s rest ih =>
    rw [requiredPieces_cons, source_slash, source_append, source_segment, ih]
    rfl

theorem source_optionalPieces (names : List Word) :
    Pieces.source (optionalPieces names) =
      names.flatMap fun n => "(/:".toList ++ n.chars ++ ")?".toList :=
  List.flatMap_map ..

theorem source_pieces (t : Template) : Pieces.source t.pieces = t.source := by
  have hrooted : Pieces.source t.rootedPieces = slashed (t.required.map Segment.source) ++
      t.optional.flatMap fun n => "(/:".toList ++ n.chars ++ ")?".toList := by
    rw [rootedPieces, source_append, source_requiredPieces, source_optionalPieces]
  cases h : t.rooted with
  | true => simpa [pieces, source, h] using hrooted
  | false =>
    rw [rootedPieces_eq h, source_slash] at hrooted
    cases hrequired : t.required with
    | nil => exact absurd hrequired (t.begun.resolve_left (by simp [h]))
    | cons s rest =>
      simp only [hrequired, List.map_cons, slashed, List.flatMap_cons] at hrooted
      simpa [source, h, hrequired, slashed] using (List.cons.inj hrooted).2

theorem isPlain_segment (s : Segment) : ∀ p ∈ s.pieces, p.IsPlain := by
  intro p hp
  cases s with
  | literal w =>
    obtain ⟨c, hc, rfl⟩ := List.mem_map.1 hp
    exact .inl (w.isWord.2 c hc)
  | placeholder n =>
    obtain rfl := List.mem_singleton.1 hp
    exact n.isWord

theorem isPlain_pieces (t : Template) : ∀ p ∈ t.pieces, p.IsPlain := by
  intro p hp
  rcases List.mem_append.1 (List.mem_of_mem_drop hp) with hp | hp
  · obtain ⟨s, -, hp⟩ := List.mem_flatMap.1 hp
    rcases List.mem_cons.1 hp with rfl | hp
    · exact .inr rfl
    · exact isPlain_segment s p hp
  · obtain ⟨n, -, rfl⟩ := List.mem_map.1 hp
    exact n.isWord

theorem rejectsWord_optionalPieces (names : List Word) : RejectsWord (optionalPieces names) := by
  induction names with
  | nil => trivial
  | cons n rest ih => exact ih

theorem isSeparated_optionalPieces (names : List Word) : IsSeparated (optionalPieces names) := by
  induction names with
  | nil => trivial
  | cons n rest ih => exact ⟨rejectsWord_optionalPieces rest, ih⟩

theorem isSeparated_segment {s : Segment} {ps : List Piece} (hrejects : RejectsWord ps)
    (h : IsSeparated ps) : IsSeparated (s.pieces ++ ps) := by
  cases s with
  | literal w =>
    have hchars : ∀ l : List Char, IsSeparated (l.map .char ++ ps) := by
      intro l
      induction l with
      | nil => exact h
      | cons c l ih => exact ih
    exact hchars w.chars
  | placeholder n => exact ⟨hrejects, h⟩

theorem isSeparated_requiredPieces (segments : List Segment) {ps : List Piece}
    (hrejects : RejectsWord ps) (h : IsSeparated ps) :
    RejectsWord (requiredPieces segments ++ ps) ∧ IsSeparated (requiredPieces segments ++ ps) := by
  induction segments with
  | nil => exact ⟨hrejects, h⟩
  | cons s rest ih =>
    rw [requiredPieces_cons, List.cons_append, List.append_assoc]
    exact ⟨(by decide : inWord '/' = false), isSeparated_segment ih.1 ih.2⟩

theorem isSeparated_pieces (t : Template) : IsSeparated t.pieces := by
  have hrooted : IsSeparated t.rootedPieces := (isSeparated_requiredPieces t.required
    (rejectsWord_optionalPieces t.optional) (isSeparated_optionalPieces t.optional)).2
  cases h : t.rooted with
  | true => simpa [pieces, h] using hrooted
  | false =>
    rw [rootedPieces_eq h] at hrooted
    exact hrooted

theorem names_segment (s : Segment) :
    Pieces.names s.pieces = s.name?.toList.map Word.chars := by
  cases s with
  | literal w => simp [Segment.pieces, Segment.name?, Pieces.names, Piece.name?, List.filterMap_map]
  | placeholder n => rfl

theorem names_rootedPieces (t : Template) :
    Pieces.names t.rootedPieces = t.names.map Word.chars := by
  have hrequired : ∀ segments, Pieces.names (requiredPieces segments) =
      (segments.filterMap Segment.name?).map Word.chars := by
    intro segments
    induction segments with
    | nil => rfl
    | cons s rest ih =>
      have hcons : Pieces.names (requiredPieces (s :: rest)) =
          Pieces.names s.pieces ++ Pieces.names (requiredPieces rest) := by
        rw [requiredPieces_cons]
        exact List.filterMap_append
      rw [hcons, names_segment, ih]
      cases hname : s.name? <;> simp [hname]
  have hoptional : ∀ names, Pieces.names (optionalPieces names) = names.map Word.chars := by
    intro names
    simp [Pieces.names, optionalPieces, List.filterMap_map, Function.comp_def, Piece.name?]
  have happend : Pieces.names t.rootedPieces =
      Pieces.names (requiredPieces t.required) ++ Pieces.names (optionalPieces t.optional) :=
    List.filterMap_append
  rw [happend, hrequired, hoptional, names, List.map_append]

theorem names_pieces (t : Template) : Pieces.names t.pieces = t.names.map Word.chars := by
  rw [← names_rootedPieces]
  cases h : t.rooted with
  | true => simp [pieces, h]
  | false =>
    rw [rootedPieces_eq h]
    rfl

theorem weight_segment (s : Segment) : (s.pieces.map Piece.weight).sum = s.weight := by
  cases s with
  | literal w =>
    have hchars : ∀ l : List Char, ((l.map Piece.char).map Piece.weight).sum = 32 * l.length := by
      intro l
      induction l with
      | nil => rfl
      | cons c l ih =>
        simp only [List.map_cons, List.sum_cons, ih, Piece.weight, List.length_cons]
        omega
    exact hchars w.chars
  | placeholder n => rfl

theorem weight_rootedPieces (t : Template) : (t.rootedPieces.map Piece.weight).sum =
    32 * t.required.length + (t.required.map Segment.weight).sum + 384 * t.optional.length := by
  have hrequired : ∀ segments, ((requiredPieces segments).map Piece.weight).sum =
      32 * segments.length + (segments.map Segment.weight).sum := by
    intro segments
    induction segments with
    | nil => rfl
    | cons s rest ih =>
      rw [requiredPieces_cons, List.map_cons, List.map_append, List.sum_cons, List.sum_append,
        weight_segment, ih]
      simp only [Piece.weight, List.length_cons, List.map_cons, List.sum_cons]
      omega
  have hoptional : ∀ names, ((optionalPieces names).map Piece.weight).sum =
      384 * names.length := by
    intro names
    induction names with
    | nil => rfl
    | cons n rest ih =>
      have hcons : optionalPieces (n :: rest) = .optional n.chars :: optionalPieces rest := rfl
      rw [hcons, List.map_cons, List.sum_cons, ih]
      simp only [Piece.weight, List.length_cons]
      omega
  rw [rootedPieces, List.map_append, List.sum_append, hrequired, hoptional]

theorem weight_pieces (t : Template) : Pieces.weight t.pieces = t.weight := by
  have hrooted := weight_rootedPieces t
  cases h : t.rooted with
  | true =>
    simp only [Pieces.weight, pieces, weight, slashes, h, if_true, List.drop_zero, hrooted]
    omega
  | false =>
    have hlength : 0 < t.required.length :=
      List.length_pos_iff.2 (t.begun.resolve_left (by simp [h]))
    rw [rootedPieces_eq h, List.map_cons, List.sum_cons] at hrooted
    simp only [Piece.weight] at hrooted
    simp only [Pieces.weight, weight, slashes, h, Bool.false_eq_true, if_false]
    omega

/-! The slash at the end of a template does not count -/

theorem getLast?_append_ne {a b : List Char} (ha : a.getLast? ≠ some '/')
    (hb : b.getLast? ≠ some '/') : (a ++ b).getLast? ≠ some '/' := by
  rw [List.getLast?_append]
  cases hlast : b.getLast? with
  | none => simpa using ha
  | some c => simpa [hlast] using hb

theorem getLast?_word (w : Word) {l : List Char} : (l ++ w.chars).getLast? ≠ some '/' := by
  rw [List.getLast?_append, List.getLast?_eq_some_getLast w.isWord.1]
  have hlast := w.isWord.2 _ (List.getLast_mem w.isWord.1)
  intro hslash
  rw [Option.some_or, Option.some_inj] at hslash
  rw [hslash] at hlast
  exact absurd hlast (by decide)

theorem getLast?_segment (s : Segment) {l : List Char} : (l ++ s.source).getLast? ≠ some '/' := by
  cases s with
  | literal w => exact getLast?_word w
  | placeholder n =>
    have hsource : l ++ (Segment.placeholder n).source = (l ++ [':']) ++ n.chars := by
      simp [Segment.source]
    rw [hsource]
    exact getLast?_word n

theorem getLast?_slashed (segments : List Segment) :
    (slashed (segments.map Segment.source)).getLast? ≠ some '/' := by
  induction segments with
  | nil => simp [slashed]
  | cons s rest ih => exact getLast?_append_ne (getLast?_segment s (l := ['/'])) ih

theorem getLast?_optional (names : List Word) :
    (names.flatMap fun n => "(/:".toList ++ n.chars ++ ")?".toList).getLast? ≠ some '/' := by
  induction names with
  | nil => simp
  | cons n rest ih =>
    rw [List.flatMap_cons]
    refine getLast?_append_ne ?_ ih
    rw [List.getLast?_append]
    simp

theorem getLast?_source (t : Template) : t.source.getLast? ≠ some '/' := by
  refine getLast?_append_ne ?_ (getLast?_optional t.optional)
  cases t.rooted with
  | true => exact getLast?_slashed t.required
  | false =>
    cases t.required with
    | nil => simp [slashed]
    | cons s rest => exact getLast?_append_ne (getLast?_segment s (l := [])) (getLast?_slashed rest)

theorem normalizePath_text (t : Template) : normalizePath t.text = String.ofList t.source := by
  cases h : t.trailing with
  | true => simpa [text, h] using normalizePath_slash t.source
  | false => simpa [text, h] using normalizePath_eq_self (getLast?_source t)

/-! Names of groups -/

theorem isAlphabetic_of_inWord {c : Char} (hc : inWord c = true) :
    Regex.Reader.isAlphabetic c = c.isAlpha ∧ Regex.Reader.isNumeric c = c.isDigit := by
  have hsmall := toNat_lt_of_inWord hc
  exact ⟨if_pos hsmall, if_pos hsmall⟩

theorem inName_first_iff {c : Char} (hc : inWord c = true) :
    Regex.Reader.inName true c = true ↔ c.isAlpha = true ∨ c = '_' := by
  simp [Regex.Reader.inName, (isAlphabetic_of_inWord hc).1, or_comm]

theorem inName_iff {c : Char} (hc : inWord c = true) :
    Regex.Reader.inName false c = true ↔ c.isAlphanum = true ∨ c = '_' := by
  have hdot : c ≠ '.' := by
    rintro rfl
    exact absurd hc (by decide)
  have hopen : c ≠ '[' := by
    rintro rfl
    exact absurd hc (by decide)
  have hclose : c ≠ ']' := by
    rintro rfl
    exact absurd hc (by decide)
  obtain ⟨halpha, hdigit⟩ := isAlphabetic_of_inWord hc
  simp [Regex.Reader.inName, halpha, hdigit, hdot, hopen, hclose, Char.isAlphanum, or_comm,
    or_left_comm, or_assoc]

theorem validName_iff (w : Word) : Regex.Reader.validName w.chars = true ↔ w.IsName := by
  obtain ⟨chars, hnonempty, hinside⟩ := w
  cases chars with
  | nil => exact absurd rfl hnonempty
  | cons c r =>
    obtain ⟨hc, hr⟩ := List.forall_mem_cons.1 hinside
    have hrest : (∀ d ∈ r, Regex.Reader.inName false d = true) ↔
        ∀ d ∈ r, d.isAlphanum = true ∨ d = '_' :=
      forall₂_congr fun d hd => inName_iff (hr d hd)
    simp only [Regex.Reader.validName, Bool.and_eq_true, List.all_eq_true, inName_first_iff hc,
      hrest, Word.IsName]
    constructor
    · rintro ⟨hfirst, hlater⟩
      exact ⟨c, r, rfl, hfirst, hlater⟩
    · rintro ⟨_, _, ⟨⟩, hfirst, hlater⟩
      exact ⟨hfirst, hlater⟩

theorem expression_text (t : Template) :
    expression t.text = "^" ++ String.ofList (expanded t.pieces) ++ "$" := by
  rw [expression, normalizePath_text, String.toList_ofList, ← source_pieces,
    expand_source t.isPlain_pieces t.isSeparated_pieces]

/-- A template compiles just if its names are names of groups, and if its expression is small
    enough. -/
theorem compile_text (t : Template) :
    ((∀ name ∈ t.names, name.IsName) → t.weight ≤ Regex.Pattern.maxWeight →
      compile t.text = .ok ⟨Pieces.regex t.pieces⟩) ∧
    ((∀ name ∈ t.names, name.IsName) → Regex.Pattern.maxWeight < t.weight →
      compile t.text = .error (.invalidPattern t.text Regex.Fault.tooLarge.message)) ∧
    (¬ (∀ name ∈ t.names, name.IsName) →
      compile t.text = .error (.invalidPattern t.text Regex.Fault.groupName.message)) := by
  have hdistinct : (Pieces.names t.pieces).Nodup := by
    rw [names_pieces]
    exact t.distinct
  have hnames : (∀ name ∈ Pieces.names t.pieces, Regex.Reader.validName name = true) ↔
      ∀ name ∈ t.names, name.IsName := by
    rw [names_pieces, List.forall_mem_map]
    exact forall₂_congr fun name _ => validName_iff name
  have hcompile := compile_expanded t.isPlain_pieces hdistinct
  rw [weight_pieces, ← expression_text] at hcompile
  refine ⟨fun hvalid hsmall => ?_, fun hvalid hlarge => ?_, fun hinvalid => ?_⟩
  · rw [if_pos (hnames.2 hvalid), if_pos hsmall] at hcompile
    rw [compile, hcompile]
  · rw [if_pos (hnames.2 hvalid), if_neg (Nat.not_le.2 hlarge)] at hcompile
    rw [compile, hcompile]
  · rw [if_neg fun h => hinvalid (hnames.1 h)] at hcompile
    rw [compile, hcompile]

theorem compile_text_eq_ok_iff {route : Route} : compile t.text = .ok route ↔
    (∀ name ∈ t.names, name.IsName) ∧ t.weight ≤ Regex.Pattern.maxWeight ∧
      route = ⟨Pieces.regex t.pieces⟩ := by
  obtain ⟨hcompile, hlarge, hinvalid⟩ := t.compile_text
  constructor
  · intro hroute
    by_cases hnames : ∀ name ∈ t.names, name.IsName
    · rcases Nat.lt_or_ge Regex.Pattern.maxWeight t.weight with hweight | hweight
      · cases hroute.symm.trans (hlarge hnames hweight)
      · exact ⟨hnames, hweight, Except.ok.inj (hroute.symm.trans (hcompile hnames hweight))⟩
    · cases hroute.symm.trans (hinvalid hnames)
  · rintro ⟨hnames, hweight, rfl⟩
    exact hcompile hnames hweight

end Template
end Harvest.Route
