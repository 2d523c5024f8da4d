import Harvest.Proofs.Regex.Spans
import Harvest.Proofs.Regex.Anchors
/-!
What an expression matches between a caret and a dollar sign. Its outline, computed from the
expression on its own, gives the answer: the caret holds the first alternative to the beginning of a
text and the dollar sign holds the last one to what the sign then stands for.
-/

namespace Harvest.Regex

open Reader

/-- The alternatives of an expression in order, and what a dollar sign behind it asks of the end of
    a match: nothing if the expression ends in a comment. -/
structure Outline where
  alternatives : List Pattern
  closing : Option Look

/-- Whether an alternative matches from `i` to `j` with the caret in front of the first one and the
    dollar sign behind the last one. -/
def Outline.Admits (o : Outline) (text : Array Char) (i j : Nat) : Prop :=
  ∃ before p after, o.alternatives = before ++ p :: after ∧ p.Spans text i j ∧
    (before = [] → i = 0) ∧ (after = [] → ∀ l ∈ o.closing, l.at text j = true)

namespace Reader.Reading

/-- An expression before it is read. -/
def start (s : List Char) : Reading := ⟨Flags.initial, [], [], [], s⟩

def patterns (st : Reading) : List Pattern := (sequence st.items :: st.branches).reverse.map (·.1)

def closing (st : Reading) : Option Look :=
  if skip st.flags (st.text ++ ['$']) = [] then none else some (ending st.flags)

def outline (st : Reading) : Outline := ⟨st.patterns, st.closing⟩

theorem parsed_pattern (st : Reading) : st.parsed.pattern = Pattern.union st.patterns := rfl

theorem parsed_names (st : Reading) : st.parsed.names = st.names := rfl

end Reader.Reading

def outline (s : List Char) : Except Fault Outline :=
  (Reading.settle (s.length + 1) (Reading.start s)).map Reading.outline

/-! A pattern with a sign more is no smaller, so what is small enough with the signs is small enough
without them. -/

/-- Whether a pattern with its depth is no larger than another one. -/
structure Below (a b : Pattern × Nat) : Prop where
  weight : a.1.weight ≤ b.1.weight
  depth : a.2 ≤ b.2

namespace Pattern

theorem union_cons {p : Pattern} {ps : List Pattern} (hps : ps ≠ []) :
    union (p :: ps) = .alt p (union ps) := by
  cases ps with
  | nil => exact absurd rfl hps
  | cons q qs => rfl

theorem weight_union_mono {p q : Pattern} (h : p.weight ≤ q.weight) (ps qs : List Pattern) :
    (union (ps ++ p :: qs)).weight ≤ (union (ps ++ q :: qs)).weight := by
  induction ps with
  | nil =>
    cases qs with
    | nil => exact h
    | cons r rs =>
      simp only [List.nil_append, union, weight]
      omega
  | cons r rs ih =>
    rw [List.cons_append, List.cons_append, union_cons (by simp), union_cons (by simp)]
    simp only [weight]
    omega

theorem weight_concat_cons {p : Pattern} (hp : 32 ≤ p.weight) (ps : List Pattern) :
    (concat ps).weight ≤ (concat (p :: ps)).weight := by
  cases ps with
  | nil => exact hp
  | cons q qs =>
    simp only [concat, weight]
    omega

theorem weight_concat_append {p : Pattern} (hp : 32 ≤ p.weight) (ps : List Pattern) :
    (concat ps).weight ≤ (concat (ps ++ [p])).weight := by
  induction ps with
  | nil => exact hp
  | cons q qs ih =>
    cases qs with
    | nil =>
      simp only [List.cons_append, List.nil_append, concat, weight]
      omega
    | cons r rs =>
      simp only [List.cons_append, concat, weight] at ih ⊢
      omega

end Pattern

theorem foldl_max_mono {α : Type} {d : α → Nat} {m n : Nat} (h : m ≤ n) (l : List α) :
    l.foldl (fun m a => max m (d a)) m ≤ l.foldl (fun m a => max m (d a)) n := by
  induction l generalizing m n with
  | nil => exact h
  | cons a l ih =>
    refine ih ?_
    simp only
    omega

namespace Reader

theorem alternatives_mono {a b : Pattern × Nat} (h : Below a b) (as bs : List (Pattern × Nat)) :
    Below (alternatives (as ++ a :: bs)) (alternatives (as ++ b :: bs)) := by
  constructor
  · simpa [alternatives] using
      Pattern.weight_union_mono h.weight (bs.reverse.map (·.1)) (as.reverse.map (·.1))
  · have hdepth := h.depth
    have hmax : (as ++ a :: bs).foldl (fun d b => max d b.2) 0 ≤
        (as ++ b :: bs).foldl (fun d b => max d b.2) 0 := by
      rw [List.foldl_append, List.foldl_append]
      refine foldl_max_mono ?_ bs
      simp only
      omega
    simp only [alternatives, List.length_append, List.length_cons]
    split <;> omega

/-- The patterns of items, in order. -/
def nodes (items : List Item) : List Pattern :=
  items.reverse.filterMap fun
    | .node p _ => some p
    | .flags => none

theorem sequence_pattern (items : List Item) :
    (sequence items).1 = Pattern.concat (nodes items) := rfl

theorem nodes_caret (items : List Item) :
    nodes (items ++ [Reading.caret]) = .look .startText :: nodes items := by
  simp [nodes, Reading.caret]

theorem nodes_cons (p : Pattern) (d : Nat) (items : List Item) :
    nodes (.node p d :: items) = nodes items ++ [p] := by
  simp [nodes]

theorem sequence_caret (items : List Item) :
    Below (sequence items) (sequence (items ++ [Reading.caret])) := by
  constructor
  · rw [sequence_pattern, sequence_pattern, nodes_caret]
    exact Pattern.weight_concat_cons (by simp [Pattern.weight]) _
  · simp only [sequence, List.foldl_append, List.foldl_cons, List.foldl_nil, List.length_append,
      List.length_singleton]
    split <;> split <;> omega

theorem sequence_look (l : Look) (items : List Item) :
    Below (sequence items) (sequence (.node (.look l) 0 :: items)) := by
  constructor
  · rw [sequence_pattern, sequence_pattern, nodes_cons]
    exact Pattern.weight_concat_append (by simp [Pattern.weight]) _
  · simp only [sequence, List.foldl_cons, Item.depth, Nat.max_self, List.length_cons]
    split <;> split <;> omega

end Reader

theorem Below.trans {a b c : Pattern × Nat} (h : Below a b) (h' : Below b c) : Below a c :=
  ⟨Nat.le_trans h.weight h'.weight, Nat.le_trans h.depth h'.depth⟩

theorem Below.refl (a : Pattern × Nat) : Below a a := ⟨Nat.le_refl _, Nat.le_refl _⟩

/-! What the signs ask of a match. -/

section

variable {text : Array Char} {i j : Nat}

theorem startText_at (hi : i ≤ text.size) : Look.startText.at text i = true ↔ i = 0 := by
  by_cases h : i = 0
  · simp [h, Look.at, Look.holds]
  · have hlt : i - 1 < text.size := by omega
    simp [h, hlt, Look.at, Look.holds]

theorem ending_at_size (f : Flags) : (Reading.ending f).at text text.size = true := by
  unfold Reading.ending
  split <;> simp [Look.at, Look.holds]

theorem spans_caret {items : List Item} (hi : i ≤ text.size) :
    (sequence (items ++ [Reading.caret])).1.Spans text i j ↔
      i = 0 ∧ (sequence items).1.Spans text i j := by
  rw [sequence_pattern, sequence_pattern, nodes_caret, Pattern.spans_concat_cons]
  simp only [Pattern.spans_look, startText_at hi]
  constructor
  · rintro ⟨k, ⟨rfl, rfl⟩, h⟩
    exact ⟨rfl, h⟩
  · rintro ⟨rfl, h⟩
    exact ⟨0, ⟨rfl, rfl⟩, h⟩

theorem spans_cons_look {l : Look} {d : Nat} {items : List Item} :
    (sequence (.node (.look l) d :: items)).1.Spans text i j ↔
      (sequence items).1.Spans text i j ∧ l.at text j = true := by
  rw [sequence_pattern, sequence_pattern, nodes_cons, Pattern.spans_concat_append]
  simp only [Pattern.concat, Pattern.spans_look]
  constructor
  · rintro ⟨k, h, hl, rfl⟩
    exact ⟨h, hl⟩
  · rintro ⟨h, hl⟩
    exact ⟨j, h, hl, rfl⟩

theorem admits_of_one {p : Pattern} {closing : Option Look} :
    Outline.Admits ⟨[p], closing⟩ text i j ↔
      i = 0 ∧ p.Spans text i j ∧ ∀ l ∈ closing, l.at text j = true := by
  constructor
  · rintro ⟨before, q, after, h, hspans, hfirst, hlast⟩
    cases before with
    | nil =>
      obtain ⟨rfl, rfl⟩ := List.cons.inj h
      exact ⟨hfirst rfl, hspans, hlast rfl⟩
    | cons b before => simp at h
  · rintro ⟨hi, hspans, hclosing⟩
    exact ⟨[], p, [], rfl, hspans, fun _ => hi, fun _ => hclosing⟩

theorem admits_of_more {p q : Pattern} {ps : List Pattern} {closing : Option Look} :
    Outline.Admits ⟨p :: (ps ++ [q]), closing⟩ text i j ↔
      (i = 0 ∧ p.Spans text i j) ∨ (∃ r ∈ ps, r.Spans text i j) ∨
        q.Spans text i j ∧ ∀ l ∈ closing, l.at text j = true := by
  constructor
  · rintro ⟨before, r, after, h, hspans, hfirst, hlast⟩
    cases before with
    | nil =>
      obtain ⟨rfl, -⟩ := List.cons.inj h
      exact .inl ⟨hfirst rfl, hspans⟩
    | cons b before =>
      obtain ⟨-, h⟩ := List.cons.inj h
      rcases List.eq_nil_or_concat after with rfl | ⟨after, a, rfl⟩
      · obtain ⟨-, hr⟩ := List.append_inj' h rfl
        obtain rfl : q = r := by simpa using hr
        exact .inr (.inr ⟨hspans, hlast rfl⟩)
      · have h' : ps ++ [q] = (before ++ r :: after) ++ [a] := by simpa using h
        obtain ⟨rfl, -⟩ := List.append_inj' h' rfl
        exact .inr (.inl ⟨r, by simp, hspans⟩)
  · rintro (⟨hi, hspans⟩ | ⟨r, hr, hspans⟩ | ⟨hspans, hclosing⟩)
    · exact ⟨[], p, ps ++ [q], rfl, hspans, fun _ => hi, by simp⟩
    · obtain ⟨before, after, rfl⟩ := List.append_of_mem hr
      exact ⟨p :: before, r, after ++ [q], by simp, hspans, by simp, by simp⟩
    · exact ⟨p :: ps, q, [], rfl, hspans, by simp, fun _ => hclosing⟩

end

/-! Reading an expression between the signs. -/

namespace Reader.Reading

variable {st last last' : Reading} {text : Array Char} {i j : Nat}

/-- The items that a dollar sign leaves. -/
def marks (closing : Option Look) : List Item := closing.toList.map fun l => .node (.look l) 0

/-- A reading that ends with the dollar sign differs in what the sign is read as. -/
theorem Ended.marks_eq (h : Ended last' (.ok last)) (hrest : skip last'.flags last'.text = []) :
    last'.names = last.names ∧ last'.branches = last.branches ∧
      last'.items = marks last.closing ++ last.items ∧ skip last.flags last.text = [] := by
  cases h with
  | before _ htext h =>
    subst h
    have hskip : skip last.flags (last.text ++ ['$']) = [] := hrest
    refine ⟨rfl, rfl, by simp [marks, closing, hskip], ?_⟩
    rcases skip_dollar last.flags last.text with hs | ⟨hs, -⟩
    · simp [hs] at hskip
    · exact hs
  | behind _ hs hmore h =>
    subst h
    exact ⟨rfl, rfl, by simp [marks, closing, hmore, finish, add], hs⟩

theorem sequence_marks (closing : Option Look) (items : List Item) :
    Below (sequence items) (sequence (marks closing ++ items)) := by
  cases closing with
  | none => exact .refl _
  | some l => exact sequence_look l items

theorem spans_marks {closing : Option Look} {items : List Item} :
    (sequence (marks closing ++ items)).1.Spans text i j ↔
      (sequence items).1.Spans text i j ∧ ∀ l ∈ closing, l.at text j = true := by
  cases closing with
  | none => simp [marks]
  | some l => simp [marks, spans_cons_look]

theorem Headed.below (h : Headed st last') (hbranches : st.branches = last.branches)
    (hitems : st.items = marks last.closing ++ last.items) :
    Below (alternatives (sequence last.items :: last.branches))
      (alternatives (sequence last'.items :: last'.branches)) := by
  have hmarks := sequence_marks last.closing last.items
  rw [← hitems] at hmarks
  rw [← hbranches]
  cases h with
  | first f names items s => exact alternatives_mono (hmarks.trans (sequence_caret items)) [] []
  | later f names branches items₀ items s =>
    exact (alternatives_mono hmarks [] _).trans
      (alternatives_mono (sequence_caret items₀) (sequence items :: branches) [])

/-- What an expression matches that was read between the signs. -/
theorem Headed.spans_iff (h : Headed st last') (hbranches : st.branches = last.branches)
    (hitems : st.items = marks last.closing ++ last.items) (hi : i ≤ text.size) :
    (Pattern.union last'.patterns).Spans text i j ↔ last.outline.Admits text i j := by
  cases h with
  | first f names items s =>
    simp only at hbranches hitems
    have hown : last.outline = ⟨[(sequence last.items).1], last.closing⟩ := by
      simp [outline, patterns, ← hbranches]
    simp only [hown, admits_of_one, patterns, List.reverse_singleton, List.map_singleton,
      Pattern.union, spans_caret hi, hitems, spans_marks]
  | later f names branches items₀ items s =>
    simp only at hbranches hitems
    have hown : last.outline = ⟨(sequence items₀).1 :: (branches.reverse.map (·.1) ++
        [(sequence last.items).1]), last.closing⟩ := by
      simp [outline, patterns, ← hbranches]
    rw [hown, admits_of_more, Pattern.spans_union (by simp [patterns])]
    simp [patterns, spans_caret hi, hitems, spans_marks]

end Reader.Reading

namespace Pattern

variable {s : List Char} {p : Pattern} {names : List (Option String)}

theorem body_start (s : List Char) : body (s.length + 1) Flags.initial [] [] [] s =
    (Reading.settle (s.length + 1) (.start s)).map Reading.parsed :=
  Reading.read_eq_settle _ (.start s)

theorem parse_eq_ok_iff : parse s = .ok (p, names) ↔
    ∃ last, Reading.settle (s.length + 1) (.start s) = .ok last ∧
      skip last.flags last.text = [] ∧ last.parsed.depth ≤ maxNesting ∧
      last.parsed.pattern.weight ≤ maxWeight ∧ p = union last.patterns ∧
      names = last.names.reverse := by
  unfold parse
  rw [body_start]
  cases Reading.settle (s.length + 1) (.start s) with
  | error fault => simp [Except.map, bind, Except.bind]
  | ok last =>
    have hrest : last.parsed.rest = skip last.flags last.text := rfl
    simp only [Except.map, bind, Except.bind, hrest]
    split
    · rename_i hnil
      simp only [Except.ok.injEq, exists_eq_left', hnil, true_and, ← Reading.parsed_pattern,
        Reading.parsed_names]
      split
      · simp
        omega
      · split
        · simp
          omega
        · rename_i hdepth hweight
          rw [Nat.not_lt] at hdepth hweight
          simp [hdepth, hweight, eq_comm]
    · rename_i hnil
      simp only [reduceCtorEq, false_iff]
      rintro ⟨_, ⟨⟩, hskip, -⟩
      exact hnil hskip

theorem parse_of_settle {fault : Fault}
    (h : Reading.settle (s.length + 1) (.start s) = .error fault) : parse s = .error fault := by
  unfold parse
  rw [body_start, h]
  rfl

theorem skip_initial (s : List Char) : skip Flags.initial s = s := rfl

/-- The round that reads the caret. -/
theorem settle_caret (fuel : Nat) (s : List Char) :
    Reading.settle (fuel + 1) (.start ('^' :: s)) =
      Reading.settle fuel ⟨Flags.initial, [], [], [Reading.caret], s⟩ := by
  have hround : (Reading.start ('^' :: s)).advance fuel ('^' :: s) =
      .ok ⟨Flags.initial, [], [], [Reading.caret], s⟩ := rfl
  have hskip : skip (Reading.start ('^' :: s)).flags (Reading.start ('^' :: s)).text = '^' :: s :=
    rfl
  rw [Reading.settle_of_isInside (by simp [hskip, Reading.IsInside]), hskip, hround]
  rfl

theorem parse_repetition {c : Char} (hc : c ∈ Reading.repetitions) (s : List Char) :
    parse (c :: s) = .error .repetitionMissing := by
  refine parse_of_settle ?_
  simp only [Reading.repetitions, List.mem_cons, List.not_mem_nil, or_false] at hc
  rcases hc with rfl | rfl | rfl | rfl <;> rfl

/-- An expression that can be read between a caret and a dollar sign begins with a repetition, which
    is then one of the caret, or leaves an escape open, which the dollar sign then closes, or is an
    expression on its own. -/
theorem parse_anchored (h : parse ('^' :: s ++ ['$']) = .ok (p, names)) :
    parse s = .error .repetitionMissing ∨ parse s = .error .escape ∨
      ∃ o, outline s = .ok o ∧ parse s = .ok (union o.alternatives, names) ∧
        ∀ text i j, i ≤ text.size → (p.Spans text i j ↔ o.Admits text i j) := by
  obtain ⟨last', hlast', hrest, hdepth, hweight, rfl, rfl⟩ := parse_eq_ok_iff.1 h
  by_cases hstart : ∃ c ∈ s.head?, c ∈ Reading.repetitions
  · obtain ⟨c, hc, hmem⟩ := hstart
    cases s with
    | nil => cases hc
    | cons d t =>
      cases hc
      exact .inl (parse_repetition hmem t)
  · refine .inr ?_
    have hheaded : Reading.Headed (Reading.start s).dollar
        ⟨Flags.initial, [], [], [Reading.caret], s ++ ['$']⟩ := .first Flags.initial [] [] _
    have hplain : ∀ c ∈ (skip Flags.initial (s ++ ['$'])).head?, c ∈ Reading.repetitions →
        Reading.IsBegun (Reading.start s).dollar := by
      intro c hc hmem
      rw [skip_initial] at hc
      cases s with
      | nil =>
        cases hc
        exact absurd hmem (by decide)
      | cons d t => exact absurd ⟨c, hc, hmem⟩ hstart
    rw [List.cons_append, settle_caret] at hlast'
    obtain ⟨last₁, hlast₁, hbetween⟩ := Reading.settle_headed hheaded hplain hlast'
    have hended := Reading.settle_dollar hlast₁
    have hlength : (s ++ ['$']).length + 1 = s.length + 2 := by simp
    rw [List.length_cons, hlength] at hended
    have hfuel : Reading.settle (s.length + 2) (.start s) =
        Reading.settle (s.length + 1) (.start s) :=
      Reading.settle_congr (by simp [Reading.start]) (by simp [Reading.start])
    rw [hfuel] at hended
    generalize hown : Reading.settle (s.length + 1) (.start s) = result at hended
    cases result with
    | error fault =>
      cases hended
      exact .inl (parse_of_settle hown)
    | ok last =>
      rw [hbetween.flags_eq, hbetween.text_eq] at hrest
      obtain ⟨hnames, hbranches, hitems, hskip⟩ := hended.marks_eq hrest
      have hbelow := hbetween.below hbranches hitems
      have hsame : last'.names = last.names := hbetween.names_eq.trans hnames
      refine .inr ⟨last.outline, by simp [outline, hown, Except.map], ?_, ?_⟩
      · exact parse_eq_ok_iff.2 ⟨last, hown, hskip, Nat.le_trans hbelow.depth hdepth,
          Nat.le_trans hbelow.weight hweight, rfl, by rw [hsame]⟩
      · intro text i j hi
        exact hbetween.spans_iff hbranches hitems hi

end Pattern
end Harvest.Regex
