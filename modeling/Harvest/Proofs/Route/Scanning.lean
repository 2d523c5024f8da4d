import Harvest.Proofs.Regex.Preference
import Harvest.Proofs.Route.Expressions
/-!
What the expression of a template finds in a path, read off from the beginning to the end: a
placeholder takes all characters of a segment, and a segment that may be left out is left out only
if the rest does not match otherwise.
-/

namespace Harvest.Route

open Regex (Pattern Spot Slots)

namespace Pieces

/-- What a placeholder takes from the beginning of a text, and what is left. -/
def word? (l : List Char) : Option (List Char × List Char) :=
  if l.takeWhile inWord = [] then none else some (l.takeWhile inWord, l.dropWhile inWord)

/-- What a placeholder takes behind a slash. -/
def slashWord? : List Char → Option (List Char × List Char)
  | '/' :: l => word? l
  | _ => none

/-- The placeholders of pieces with what they take from a text, if all of it is taken. -/
def scan : List Piece → List Char → Option (List (String × Option String))
  | [], l => if l = [] then some [] else none
  | .char _ :: _, [] => none
  | .char c :: ps, d :: l => if c = d then scan ps l else none
  | .capture name :: ps, l =>
    (word? l).bind fun (w, r) =>
      (scan ps r).map ((String.ofList name, some (String.ofList w)) :: ·)
  | .optional name :: ps, l =>
    ((slashWord? l).bind fun (w, r) =>
      (scan ps r).map ((String.ofList name, some (String.ofList w)) :: ·)).or
    ((scan ps l).map ((String.ofList name, none) :: ·))

/-- The placeholders of pieces with what their groups took part with. -/
def captured (m : Regex.Match) : Nat → List Piece → List (String × Option String)
  | _, [] => []
  | n, .char _ :: ps => captured m n ps
  | n, .capture name :: ps => (String.ofList name, m.group? n) :: captured m (n + 1) ps
  | n, .optional name :: ps => (String.ofList name, m.group? (n + 1)) :: captured m (n + 2) ps

/-- The rest of the expression, where the first group of its pieces has a number. -/
def rest (n : Nat) (ps : List Piece) : Pattern := .concat (patterns n ps ++ [.look .endText])

/-- Whether a character of a segment stands at a position. -/
def AtWord (text : Array Char) (i : Nat) : Prop := ∃ c, text[i]? = some c ∧ inWord c = true

section

variable {text : Array Char} {i n : Nat} {s : Slots} {c : Char} {l w r : List Char}
  {ps : List Piece} {name : List Char}

theorem getElem?_of_drop (h : text.toList.drop i = l) : text[i]? = l.head? := by
  rw [← h, List.head?_drop, Array.getElem?_toList]

theorem drop_succ_of_drop (h : text.toList.drop i = c :: l) : text.toList.drop (i + 1) = l := by
  rw [← List.drop_drop, h]
  rfl

theorem endsWord_dropWhile (l : List Char) : EndsWord (l.dropWhile inWord) := by
  intro c hc
  have hnot := List.head?_dropWhile_not inWord l
  rwa [Option.mem_def.1 hc] at hnot

theorem word?_eq_some_iff : word? l = some (w, r) ↔
    l = w ++ r ∧ IsWord w ∧ EndsWord r := by
  unfold word?
  constructor
  · intro h
    split at h
    · cases h
    · rename_i hnil
      cases h
      exact ⟨List.takeWhile_append_dropWhile.symm, ⟨hnil, List.all_eq_true.1 List.all_takeWhile⟩,
        endsWord_dropWhile l⟩
  · rintro ⟨rfl, ⟨hnil, hw⟩, hr⟩
    rw [takeWhile_word hw hr, dropWhile_word hw hr, if_neg hnil]

theorem word?_eq_none_iff : word? l = none ↔ EndsWord l := by
  unfold word?
  cases l with
  | nil => simp [EndsWord]
  | cons c l => cases hc : inWord c <;> simp [EndsWord, hc]

theorem slashWord?_eq_some_iff : slashWord? l = some (w, r) ↔
    l = '/' :: (w ++ r) ∧ IsWord w ∧ EndsWord r := by
  unfold slashWord?
  split
  · simp [word?_eq_some_iff]
  · rename_i hslash
    refine iff_of_false (by simp) ?_
    rintro ⟨rfl, -⟩
    exact hslash _ rfl

theorem slashWord?_eq_none_iff : slashWord? l = none ↔ ∀ r, l = '/' :: r → EndsWord r := by
  unfold slashWord?
  split
  · simp [word?_eq_none_iff]
  · rename_i hslash
    refine iff_of_true rfl ?_
    rintro r rfl
    exact absurd rfl (hslash r)

theorem scan_capture (h : word? l = some (w, r)) : scan (.capture name :: ps) l =
    (scan ps r).map ((String.ofList name, some (String.ofList w)) :: ·) := by
  simp [scan, h]

theorem scan_optional (h : slashWord? l = some (w, r)) : scan (.optional name :: ps) l =
    ((scan ps r).map ((String.ofList name, some (String.ofList w)) :: ·)).or
      ((scan ps l).map ((String.ofList name, none) :: ·)) := by
  simp [scan, h]

theorem scan_not_optional (h : slashWord? l = none) : scan (.optional name :: ps) l =
    (scan ps l).map ((String.ofList name, none) :: ·) := by
  simp [scan, h]

/-! The ways of a character -/

theorem contains_single {c d : Char} : (Text.CharSet.single c).contains d = decide (c = d) := by
  rw [Bool.eq_iff_iff, decide_eq_true_iff, ← Char.toNat_inj]
  simp only [Text.CharSet.contains, Text.CharSet.holds, Text.CharSet.single, List.any_cons,
    List.any_nil, Bool.or_false, Bool.and_eq_true, decide_eq_true_eq]
  omega

theorem ways_char {a : Spot} (ha : text[a.pos]? = some c) :
    (Pattern.char (.single c)).Ways text a [⟨a.pos + 1, a.slots⟩] := by
  simp [Pattern.Ways, ha, contains_single]

theorem ways_no_char {a : Spot} (ha : text[a.pos]? ≠ some c) :
    (Pattern.char (.single c)).Ways text a [] := by
  cases hc : text[a.pos]? with
  | none => simp [Pattern.Ways, hc]
  | some d =>
    have hne : c ≠ d := by
      rintro rfl
      exact ha hc
    simp [Pattern.Ways, hc, contains_single, hne]

/-! The ways of a segment -/

theorem ways_word (h : text.toList.drop i = c :: l) (hc : inWord c = true) :
    (Pattern.char segmentSet).Ways text ⟨i, s⟩ [⟨i + 1, s⟩] := by
  have hchar : text[i]? = some c := getElem?_of_drop h
  simp [Pattern.Ways, hchar, contains_segmentSet, hc]

theorem ways_not_word (h : text.toList.drop i = l) (hl : EndsWord l) :
    (Pattern.char segmentSet).Ways text ⟨i, s⟩ [] := by
  have hchar : text[i]? = l.head? := getElem?_of_drop h
  cases hhead : l.head? with
  | none => simp [Pattern.Ways, hchar, hhead]
  | some c =>
    have hc : inWord c = false := hl c hhead
    simp [Pattern.Ways, hchar, hhead, contains_segmentSet, hc]

/-- Where a word stands, any number of its characters may be taken, all of them first. -/
theorem loopWays_word (h : text.toList.drop i = w ++ r) (hw : ∀ c ∈ w, inWord c = true)
    (hr : EndsWord r) : ∃ others,
      Regex.LoopWays ((Pattern.char segmentSet).Ways text) true ⟨i, s⟩
        (⟨i + w.length, s⟩ :: others) ∧
      ∀ b ∈ others, AtWord text b.pos := by
  induction w generalizing i with
  | nil => exact ⟨[], .round (fun _ => []) (ways_not_word h hr) (by simp), by simp⟩
  | cons c w ih =>
    obtain ⟨hc, hw⟩ := List.forall_mem_cons.1 hw
    obtain ⟨others, hloop, hothers⟩ := ih (drop_succ_of_drop h) hw
    have hlength : i + 1 + w.length = i + (c :: w).length := by
      simp only [List.length_cons]
      omega
    have hround := Regex.LoopWays.round (fun _ => ⟨i + 1 + w.length, s⟩ :: others)
      (ways_word h hc) fun b hb => List.mem_singleton.1 hb ▸ hloop
    refine ⟨others ++ [⟨i, s⟩], ?_, fun b hb => ?_⟩
    · rw [← hlength]
      simpa [Regex.prefer] using hround
    · rcases List.mem_append.1 hb with hb | hb
      · exact hothers b hb
      · obtain rfl := List.mem_singleton.1 hb
        exact ⟨c, getElem?_of_drop h, hc⟩

/-- Whether a pattern takes all of a word first, and only then less of it. -/
structure Takes (text : Array Char) (p : Pattern) (a top : Spot) : Prop where
  past : a.pos < top.pos
  ends : ¬ AtWord text top.pos
  ways : ∃ others, p.Ways text a (top :: others) ∧ ∀ b ∈ others, AtWord text b.pos

theorem not_atWord (h : text.toList.drop i = l) (hl : EndsWord l) : ¬ AtWord text i := by
  rintro ⟨c, hc, hword⟩
  rw [getElem?_of_drop h] at hc
  simp [hl c hc] at hword

theorem takes_segment (h : text.toList.drop i = w ++ r) (hword : IsWord w) (hr : EndsWord r) :
    Takes text segment ⟨i, s⟩ ⟨i + w.length, s⟩ := by
  have hrest : text.toList.drop (i + w.length) = r := by
    rw [← List.drop_drop, h, List.drop_left]
  obtain ⟨hnil, hw⟩ := hword
  refine ⟨Nat.lt_add_of_pos_right (List.length_pos_iff.2 hnil), not_atWord hrest hr, ?_⟩
  cases w with
  | nil => exact absurd rfl hnil
  | cons c w =>
    obtain ⟨hc, hw⟩ := List.forall_mem_cons.1 hw
    obtain ⟨others, hloop, hothers⟩ := loopWays_word (s := s) (drop_succ_of_drop h) hw hr
    have hlength : i + 1 + w.length = i + (c :: w).length := by
      simp only [List.length_cons]
      omega
    rw [← hlength]
    exact ⟨others, ⟨[⟨i + 1, s⟩], fun _ => ⟨i + 1 + w.length, s⟩ :: others, ways_word h hc,
      fun b hb => List.mem_singleton.1 hb ▸ hloop, by simp⟩, hothers⟩

theorem ways_no_segment (h : text.toList.drop i = l) (hl : EndsWord l) :
    segment.Ways text ⟨i, s⟩ [] :=
  ⟨[], fun _ => [], ways_not_word h hl, by simp, rfl⟩

section

variable {p : Pattern} {qs : List Pattern} {a top : Spot} {o o' : Option Spot}

theorem Takes.group (h : Takes text p (a.save (2 * n)) top) :
    Takes text (.group n p) a (top.save (2 * n + 1)) := by
  obtain ⟨hpast, hends, others, hways, hothers⟩ := h
  refine ⟨hpast, hends, others.map fun b => b.save (2 * n + 1), ⟨top :: others, hways, rfl⟩,
    fun b hb => ?_⟩
  obtain ⟨b', hb', rfl⟩ := List.mem_map.1 hb
  exact hothers b' hb'

theorem ways_slash {bs : List Spot} (ha : text[a.pos]? = some '/')
    (h : p.Ways text ⟨a.pos + 1, a.slots⟩ bs) :
    (Pattern.seq (.char (.single '/')) p).Ways text a bs :=
  ⟨[⟨a.pos + 1, a.slots⟩], fun _ => bs, ways_char ha,
    fun b hb => List.mem_singleton.1 hb ▸ h, by simp⟩

theorem Takes.slash (ha : text[a.pos]? = some '/') (h : Takes text p ⟨a.pos + 1, a.slots⟩ top) :
    Takes text (.seq (.char (.single '/')) p) a top := by
  obtain ⟨hpast, hends, others, hways, hothers⟩ := h
  exact ⟨Nat.lt_of_succ_lt hpast, hends, others, ways_slash ha hways, hothers⟩

theorem ways_no_slash (ha : text[a.pos]? ≠ some '/') :
    (Pattern.seq (.char (.single '/')) p).Ways text a [] :=
  ⟨[], fun _ => [], ways_no_char ha, by simp, rfl⟩

theorem ways_option {cs : List Spot} (h : p.Ways text a cs) :
    (Pattern.rep p 0 (some 1) true).Ways text a (cs ++ [a]) := by
  refine ⟨[a], fun _ => cs ++ [a], rfl, fun b hb => ?_, by simp⟩
  obtain rfl := List.mem_singleton.1 hb
  exact ⟨cs, ⟨cs, fun b => [b], h, fun _ _ => rfl, by simp⟩, rfl⟩

/-- What rejects words goes on from where all of a word was taken. -/
theorem Takes.prefers (h : Takes text p a top) (htop : (Pattern.concat qs).Prefers text top o)
    (hrejects : ∀ b : Spot, AtWord text b.pos → (Pattern.concat qs).Prefers text b none) :
    (Pattern.concat (p :: qs)).Prefers text a o := by
  classical
  obtain ⟨-, hends, others, hways, hothers⟩ := h
  -- every spot but the top one is inside of the word, where the rest rejects what stands there
  let found (b : Spot) : Option Spot := if AtWord text b.pos then none else o
  have hfound : ∀ b ∈ top :: others, (Pattern.concat qs).Prefers text b (found b) := by
    refine List.forall_mem_cons.2 ⟨?_, fun b hb => ?_⟩
    · simpa only [found, if_neg hends] using htop
    · simpa only [found, if_pos (hothers b hb)] using hrejects b (hothers b hb)
  have hnone : others.findSome? found = none :=
    List.findSome?_eq_none_iff.2 fun b hb => if_pos (hothers b hb)
  have hprefers := Pattern.prefers_concat_cons hways hfound
  have hfirst : found top = o := if_neg hends
  rw [List.findSome?_cons, hfirst, hnone] at hprefers
  cases o <;> exact hprefers

/-- What may be passed by is passed by if nothing goes on from it otherwise. -/
theorem Takes.prefers_option (h : Takes text p a top)
    (htop : (Pattern.concat qs).Prefers text top o)
    (hrejects : ∀ b : Spot, AtWord text b.pos → (Pattern.concat qs).Prefers text b none)
    (ha : ¬ AtWord text a.pos) (hpast : (Pattern.concat qs).Prefers text a o') :
    (Pattern.concat (.rep p 0 (some 1) true :: qs)).Prefers text a (o.or o') := by
  classical
  obtain ⟨hless, hends, others, hways, hothers⟩ := h
  -- the spot where it was passed by is the last one, and the only one that is not further on
  let found (b : Spot) : Option Spot :=
    if AtWord text b.pos then none else if b.pos = a.pos then o' else o
  have hfirst : found top = o := by
    simp only [found, if_neg hends, if_neg (Nat.ne_of_gt hless)]
  have hlast : found a = o' := by simp [found, if_neg ha]
  have hfound : ∀ b ∈ top :: others ++ [a], (Pattern.concat qs).Prefers text b (found b) := by
    intro b hb
    rcases List.mem_append.1 hb with hb | hb
    · rcases List.mem_cons.1 hb with rfl | hb
      · rwa [hfirst]
      · simpa only [found, if_pos (hothers b hb)] using hrejects b (hothers b hb)
    · obtain rfl := List.mem_singleton.1 hb
      rwa [hlast]
  have hnone : others.findSome? found = none :=
    List.findSome?_eq_none_iff.2 fun b hb => if_pos (hothers b hb)
  have hprefers := Pattern.prefers_concat_cons (ways_option hways) hfound
  rw [List.findSome?_append, List.findSome?_cons, hfirst, hnone, List.findSome?_singleton,
    hlast] at hprefers
  cases o <;> exact hprefers

/-- What cannot be entered is passed by. -/
theorem prefers_past (h : p.Ways text a []) (hpast : (Pattern.concat qs).Prefers text a o) :
    (Pattern.concat (.rep p 0 (some 1) true :: qs)).Prefers text a o := by
  have hall : ∀ b ∈ [] ++ [a], (Pattern.concat qs).Prefers text b o := by
    intro b hb
    rwa [List.mem_singleton.1 hb]
  have hprefers := Pattern.prefers_concat_cons (ways_option h) hall
  rw [List.nil_append, List.findSome?_singleton] at hprefers
  exact hprefers

theorem prefers_none (h : p.Ways text a []) : (Pattern.concat (p :: qs)).Prefers text a none := by
  have hall : ∀ b ∈ ([] : List Spot), (Pattern.concat qs).Prefers text b none := by simp
  exact Pattern.prefers_concat_cons h hall

theorem prefers_one {b : Spot} (h : p.Ways text a [b])
    (hnext : (Pattern.concat qs).Prefers text b o) :
    (Pattern.concat (p :: qs)).Prefers text a o := by
  have hall : ∀ c ∈ [b], (Pattern.concat qs).Prefers text c o := by
    intro c hc
    rwa [List.mem_singleton.1 hc]
  have hprefers := Pattern.prefers_concat_cons h hall
  rw [List.findSome?_singleton] at hprefers
  exact hprefers

end

/-! The ways of pieces -/

theorem prefers_end (h : text[i]? = none) :
    (rest n []).Prefers text ⟨i, s⟩ (some ⟨i, s⟩) := by
  refine ⟨[⟨i, s⟩], ?_, rfl⟩
  have hat : Regex.Look.endText.at text i = true := by
    simp [Regex.Look.at, Regex.Look.holds, h]
  simp [rest, patterns, Pattern.concat, Pattern.Ways, hat]

theorem prefers_no_end {a : Spot} (h : text[a.pos]? ≠ none) : (rest n []).Prefers text a none := by
  refine ⟨[], ?_, rfl⟩
  have hat : Regex.Look.endText.at text a.pos = false := by
    simpa [Regex.Look.at, Regex.Look.holds] using h
  simp [rest, patterns, Pattern.concat, Pattern.Ways, hat]

theorem prefers_of_rejectsWord (h : RejectsWord ps) (n : Nat) {a : Spot}
    (ha : AtWord text a.pos) : (rest n ps).Prefers text a none := by
  obtain ⟨d, hd, hword⟩ := ha
  induction ps generalizing n with
  | nil => exact prefers_no_end (by simp [hd])
  | cons p ps ih =>
    cases p with
    | char c =>
      refine prefers_none (ways_no_char ?_)
      rw [hd]
      rintro ⟨⟩
      exact absurd (hword.symm.trans h) (by simp)
    | capture name => cases h
    | optional name =>
      refine prefers_past ?_ (ih h _)
      refine ⟨[], ways_no_slash ?_, rfl⟩
      rw [Spot.save_pos, hd]
      rintro ⟨⟩
      exact absurd hword (by decide)

/-! What is captured -/

/-- A group that was saved around a word took part with it. -/
theorem group?_of_lookup {slots : Slots} (h : text.toList.drop i = w ++ r)
    (hstart : slots.lookup (2 * n) = some i)
    (hend : slots.lookup (2 * n + 1) = some (i + w.length)) :
    (Regex.Match.mk text slots).group? n = some (String.ofList w) := by
  simp [Regex.Match.group?, hstart, hend, Regex.Match.slice, List.extract_eq_take_drop, h]

theorem group?_of_not_saved {slots : Slots} (h : slots.lookup (2 * n) = none) :
    (Regex.Match.mk text slots).group? n = none := by
  simp [Regex.Match.group?, h]

/-- What the rest of an expression makes of a text, after what was saved before. -/
structure Reads (text : Array Char) (n : Nat) (ps : List Piece) (i : Nat) (s : Slots)
    (l : List Char) (o : Option Spot) : Prop where
  prefers : (rest n ps).Prefers text ⟨i, s⟩ o
  captures : o.map (fun b => captured ⟨text, b.slots⟩ n ps) = scan ps l
  /-- The groups before are left as they are. -/
  keeps : ∀ b ∈ o, ∀ k < 2 * n, b.slots.lookup k = s.lookup k

/-- Whether no group from a number on was saved. -/
def Fresh (n : Nat) (s : Slots) : Prop := ∀ k, 2 * n ≤ k → s.lookup k = none

/-- The positions saved by a group. -/
def around (n i j : Nat) (s : Slots) : Slots := (2 * n + 1, j) :: (2 * n, i) :: s

theorem lookup_cons_of_ne {k slot : Nat} (h : k ≠ slot) (j : Nat) (s : Slots) :
    List.lookup k ((slot, j) :: s) = s.lookup k := by
  rw [List.lookup_cons, beq_false_of_ne h]

theorem lookup_around_start (n i j : Nat) (s : Slots) :
    (around n i j s).lookup (2 * n) = some i := by
  rw [around, lookup_cons_of_ne (by omega), List.lookup_cons_self]

theorem lookup_around_end (n i j : Nat) (s : Slots) :
    (around n i j s).lookup (2 * n + 1) = some j := by
  simp [around]

theorem lookup_around {k : Nat} (h : k < 2 * n ∨ 2 * (n + 1) ≤ k) (i j : Nat) (s : Slots) :
    (around n i j s).lookup k = s.lookup k := by
  rw [around, lookup_cons_of_ne (by omega), lookup_cons_of_ne (by omega)]

theorem Fresh.around (h : Fresh n s) (i j : Nat) : Fresh (n + 1) (around n i j s) := by
  intro k hk
  rw [lookup_around (.inr hk)]
  exact h k (by omega)

/-- The positions saved by a segment that may be left out, if it is not: the group of its
    placeholder lies inside of one of its own. -/
def nested (n i j : Nat) (s : Slots) : Slots :=
  (2 * n + 1, j) :: around (n + 1) (i + 1) j ((2 * n, i) :: s)

theorem lookup_nested {k : Nat} (h : k < 2 * n ∨ 2 * (n + 1) ≤ k) (i j : Nat) (s : Slots) :
    (nested n i j s).lookup k = (around (n + 1) (i + 1) j s).lookup k := by
  have hinside : (around (n + 1) (i + 1) j ((2 * n, i) :: s)).lookup k =
      (around (n + 1) (i + 1) j s).lookup k := by
    simp only [around, List.lookup_cons, beq_false_of_ne (show k ≠ 2 * n by omega)]
  rw [nested, lookup_cons_of_ne (by omega), hinside]

theorem Fresh.nested (h : Fresh n s) (i j : Nat) : Fresh (n + 2) (nested n i j s) := by
  intro k hk
  rw [lookup_nested (by omega), lookup_around (by omega)]
  exact h k (by omega)

theorem reads_end (n : Nat) (s : Slots) (h : text.toList.drop i = l) :
    ∃ o, Reads text n [] i s l o := by
  have hchar : text[i]? = l.head? := getElem?_of_drop h
  cases l with
  | nil => exact ⟨_, prefers_end hchar, rfl, by simp⟩
  | cons c l => exact ⟨none, prefers_no_end (by simp [hchar]), rfl, by simp⟩

theorem reads_char (h : text.toList.drop i = l) (c : Char)
    (ih : ∀ d r, l = d :: r → ∃ o, Reads text n ps (i + 1) s r o) :
    ∃ o, Reads text n (.char c :: ps) i s l o := by
  have hchar : text[i]? = l.head? := getElem?_of_drop h
  cases l with
  | nil => exact ⟨none, prefers_none (ways_no_char (by simp [hchar])), rfl, by simp⟩
  | cons d r =>
    by_cases hcd : c = d
    · subst hcd
      obtain ⟨o, hprefers, hcaptures, hkeeps⟩ := ih c r rfl
      refine ⟨o, prefers_one (ways_char hchar) hprefers, ?_, hkeeps⟩
      rw [scan, if_pos rfl, ← hcaptures]
      rfl
    · refine ⟨none, prefers_none (ways_no_char ?_), ?_, by simp⟩
      · simpa [hchar] using Ne.symm hcd
      · rw [scan, if_neg hcd]
        rfl

theorem takes_capture (h : text.toList.drop i = w ++ r) (hw : IsWord w) (hr : EndsWord r) (n : Nat)
    (s : Slots) :
    Takes text (.group n segment) ⟨i, s⟩ ⟨i + w.length, around n i (i + w.length) s⟩ :=
  have hsegment : Takes text segment ((Spot.mk i s).save (2 * n)) ⟨i + w.length, (2 * n, i) :: s⟩ :=
    takes_segment h hw hr
  hsegment.group

theorem reads_capture (h : text.toList.drop i = l) (hrejects : RejectsWord ps)
    (ih : ∀ w r, word? l = some (w, r) →
      ∃ o, Reads text (n + 1) ps (i + w.length) (around n i (i + w.length) s) r o) :
    ∃ o, Reads text n (.capture name :: ps) i s l o := by
  cases hword : word? l with
  | none =>
    have hends := word?_eq_none_iff.1 hword
    refine ⟨none, prefers_none ⟨[], ways_no_segment h hends, rfl⟩, ?_, by simp⟩
    rw [scan, hword]
    rfl
  | some taken =>
    obtain ⟨w, r⟩ := taken
    obtain ⟨rfl, hw, hr⟩ := word?_eq_some_iff.1 hword
    obtain ⟨o, hprefers, hcaptures, hkeeps⟩ := ih w r hword
    refine ⟨o, (takes_capture h hw hr n s).prefers hprefers
      fun b hb => prefers_of_rejectsWord hrejects _ hb, ?_, fun b hb k hk => ?_⟩
    · rw [scan_capture hword, ← hcaptures, Option.map_map]
      refine Option.map_congr fun b hb => ?_
      have hgroup : (Regex.Match.mk text b.slots).group? n = some (String.ofList w) :=
        group?_of_lookup h ((hkeeps b hb _ (by omega)).trans (lookup_around_start ..))
          ((hkeeps b hb _ (by omega)).trans (lookup_around_end ..))
      simp only [captured, hgroup, Function.comp_apply]
    · rw [hkeeps b hb k (by omega), lookup_around (.inl hk)]

theorem takes_optional (h : text.toList.drop i = '/' :: (w ++ r)) (hw : IsWord w)
    (hr : EndsWord r) (n : Nat) (s : Slots) :
    Takes text (.group n (.seq (.char (.single '/')) (.group (n + 1) segment))) ⟨i, s⟩
      ⟨i + 1 + w.length, nested n i (i + 1 + w.length) s⟩ :=
  have hinner : Takes text (.seq (.char (.single '/')) (.group (n + 1) segment))
      ((Spot.mk i s).save (2 * n))
      ⟨i + 1 + w.length, around (n + 1) (i + 1) (i + 1 + w.length) ((2 * n, i) :: s)⟩ :=
    .slash (getElem?_of_drop h) (takes_capture (drop_succ_of_drop h) hw hr _ _)
  hinner.group

theorem ways_no_optional (h : text.toList.drop i = l) (hl : ∀ r, l = '/' :: r → EndsWord r)
    (n : Nat) (s : Slots) :
    (Pattern.group n (.seq (.char (.single '/')) (.group (n + 1) segment))).Ways text
      ⟨i, s⟩ [] := by
  refine ⟨[], ?_, rfl⟩
  by_cases hslash : text[i]? = some '/'
  · rw [getElem?_of_drop h, List.head?_eq_some_iff] at hslash
    obtain ⟨r, rfl⟩ := hslash
    refine ways_slash (getElem?_of_drop h) ⟨[], ?_, rfl⟩
    exact ways_no_segment (drop_succ_of_drop h) (hl r rfl)
  · exact ways_no_slash hslash

theorem reads_optional (h : text.toList.drop i = l) (hrejects : RejectsWord ps) (hs : Fresh n s)
    (ih : ∀ w r, slashWord? l = some (w, r) →
      ∃ o, Reads text (n + 2) ps (i + 1 + w.length) (nested n i (i + 1 + w.length) s) r o)
    (ihpast : ∃ o, Reads text (n + 2) ps i s l o) :
    ∃ o, Reads text n (.optional name :: ps) i s l o := by
  obtain ⟨o', hprefers', hcaptures', hkeeps'⟩ := ihpast
  have hpast : o'.map (fun b => captured ⟨text, b.slots⟩ n (.optional name :: ps)) =
      (scan ps l).map ((String.ofList name, none) :: ·) := by
    rw [← hcaptures', Option.map_map]
    refine Option.map_congr fun b hb => ?_
    have hnone : b.slots.lookup (2 * (n + 1)) = none :=
      (hkeeps' b hb _ (by omega)).trans (hs _ (by omega))
    simp only [captured, group?_of_not_saved hnone, Function.comp_apply]
  have hleft : ∀ b ∈ o', ∀ k < 2 * n, b.slots.lookup k = s.lookup k :=
    fun b hb k hk => hkeeps' b hb k (by omega)
  cases hword : slashWord? l with
  | none =>
    have hends := slashWord?_eq_none_iff.1 hword
    refine ⟨o', prefers_past (ways_no_optional h hends n s) hprefers', ?_, hleft⟩
    rw [scan_not_optional hword, hpast]
  | some taken =>
    obtain ⟨w, r⟩ := taken
    obtain ⟨rfl, hw, hr⟩ := slashWord?_eq_some_iff.1 hword
    obtain ⟨o, hprefers, hcaptures, hkeeps⟩ := ih w r hword
    have hslash : ¬ AtWord text i := by
      refine not_atWord h ?_
      rintro c ⟨⟩
      decide
    refine ⟨o.or o', (takes_optional h hw hr n s).prefers_option hprefers
      (fun b hb => prefers_of_rejectsWord hrejects _ hb) hslash hprefers', ?_, ?_⟩
    · rw [scan_optional hword, ← hpast, ← hcaptures, Option.map_or, Option.map_map]
      congr 1
      refine Option.map_congr fun b hb => ?_
      have hgroup : (Regex.Match.mk text b.slots).group? (n + 1) = some (String.ofList w) := by
        refine group?_of_lookup (drop_succ_of_drop h) ?_ ?_
        · rw [hkeeps b hb _ (by omega), lookup_nested (by omega), lookup_around_start]
        · rw [hkeeps b hb _ (by omega), lookup_nested (by omega), lookup_around_end]
      simp only [captured, hgroup, Function.comp_apply]
    · intro b hb k hk
      rcases Option.or_eq_some_iff.1 hb with hb | ⟨-, hb⟩
      · rw [hkeeps b hb k (by omega), lookup_nested (.inl hk), lookup_around (by omega)]
      · exact hleft b hb k hk

theorem exists_reads (hseparated : IsSeparated ps) (h : text.toList.drop i = l) (hs : Fresh n s) :
    ∃ o, Reads text n ps i s l o := by
  induction ps generalizing i n s l with
  | nil => exact reads_end n s h
  | cons p ps ih =>
    cases p with
    | char c =>
      refine reads_char h c fun d r hl => ?_
      subst hl
      exact ih hseparated (drop_succ_of_drop h) hs
    | capture name =>
      refine reads_capture h hseparated.1 fun w r hword => ?_
      obtain ⟨rfl, -⟩ := word?_eq_some_iff.1 hword
      refine ih hseparated.2 ?_ (hs.around _ _)
      rw [← List.drop_drop, h, List.drop_left]
    | optional name =>
      refine reads_optional h hseparated.1 hs (fun w r hword => ?_) ?_
      · obtain ⟨rfl, -⟩ := slashWord?_eq_some_iff.1 hword
        refine ih hseparated.2 ?_ (hs.nested _ _)
        rw [← List.drop_drop, drop_succ_of_drop h, List.drop_left]
      · refine ih hseparated.2 h fun k hk => hs k (by omega)

/-! The whole expression -/

theorem captured_congr {m m' : Regex.Match} (h : ∀ k, n ≤ k → m.group? k = m'.group? k) :
    captured m n ps = captured m' n ps := by
  induction ps generalizing n with
  | nil => rfl
  | cons p ps ih =>
    cases p with
    | char c => exact ih h
    | capture name =>
      rw [captured, captured, h n (Nat.le_refl n), ih fun k hk => h k (by omega)]
    | optional name =>
      rw [captured, captured, h (n + 1) (by omega), ih fun k hk => h k (by omega)]

/-- The named groups of a match, in the order of their pieces. -/
theorem namedGroups_regex (m : Regex.Match) : (regex ps).namedGroups m = captured m 1 ps := by
  have hall : ∀ n, ((groups ps).zipIdx n).filterMap (fun x : Option String × Nat =>
      x.1.map fun name => (name, m.group? (x.2 + 1))) = captured m (n + 1) ps := by
    induction ps with
    | nil => exact fun n => rfl
    | cons p ps ih =>
      intro n
      have hgroups : groups (p :: ps) = p.groups ++ groups ps := List.flatMap_cons
      rw [hgroups, List.zipIdx_append, List.filterMap_append, ih]
      cases p <;> rfl
  exact hall 0

theorem captures?_regex (hseparated : IsSeparated ps) (path : String) :
    ((regex ps).captures? path).map (regex ps).namedGroups = scan ps path.toList := by
  have hfresh : Fresh 1 [(0, 0)] := by
    intro k hk
    rw [lookup_cons_of_ne (by omega)]
    rfl
  have htext : path.toList.toArray.toList.drop 0 = path.toList := rfl
  obtain ⟨o, hprefers, hcaptures, -⟩ := exists_reads hseparated htext hfresh
  have hstart : (Pattern.look .startText).Ways path.toList.toArray ⟨0, [(0, 0)]⟩
      [⟨0, [(0, 0)]⟩] := rfl
  have hfind : (pattern ps).program.find path.toList.toArray = o.map fun b => (b.save 1).slots := by
    refine Pattern.find_of_prefers (prefers_one hstart hprefers) fun i hi hsize => ?_
    have hlater : (Pattern.look .startText).Ways path.toList.toArray ⟨i, [(0, i)]⟩ [] := by
      have hat : Regex.Look.startText.at path.toList.toArray i = false := by
        rw [Bool.eq_false_iff, Ne, Regex.startText_at hsize]
        omega
      simp [Pattern.Ways, hat]
    have hprefers : (pattern ps).Prefers path.toList.toArray ⟨i, [(0, i)]⟩ none :=
      prefers_none hlater
    obtain ⟨bs, hways, hnone⟩ := hprefers
    rw [List.head?_eq_none_iff] at hnone
    rwa [hnone] at hways
  have hcaptured : ∀ b : Spot, captured ⟨path.toList.toArray, (b.save 1).slots⟩ 1 ps =
      captured ⟨path.toList.toArray, b.slots⟩ 1 ps := by
    refine fun b => captured_congr fun k hk => ?_
    have hstart : (b.save 1).slots.lookup (2 * k) = b.slots.lookup (2 * k) :=
      lookup_cons_of_ne (by omega) b.pos b.slots
    have hend : (b.save 1).slots.lookup (2 * k + 1) = b.slots.lookup (2 * k + 1) :=
      lookup_cons_of_ne (by omega) b.pos b.slots
    simp only [Regex.Match.group?, hstart, hend]
    rfl
  rw [← hcaptures]
  simp only [Regex.captures?]
  have hprogram : (regex ps).program = (pattern ps).program := rfl
  rw [hprogram, hfind, Option.map_map, Option.map_map]
  refine Option.map_congr fun b _ => ?_
  simp only [Function.comp_apply, namedGroups_regex, hcaptured]

end
end Pieces
end Harvest.Route
