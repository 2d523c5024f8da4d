import Harvest.Regex.Search
/-!
What a pattern matches, apart from how a match is searched for: a relation between the spots of a
text, along the structure of the pattern. `Spans` forgets the positions that are saved.
-/

namespace Harvest.Regex

/-- A position in a text and the positions saved on the way to it. -/
structure Spot where
  pos : Nat
  slots : Slots

def Spot.save (a : Spot) (slot : Nat) : Spot := ⟨a.pos, (slot, a.pos) :: a.slots⟩

@[simp] theorem Spot.save_pos (a : Spot) (slot : Nat) : (a.save slot).pos = a.pos := rfl

/-- Whether a look holds at a position of a text. -/
def Look.at (l : Look) (text : Array Char) (i : Nat) : Bool :=
  l.holds (if i = 0 then none else text[i - 1]?) text[i]?

/-- A relation `n` times in a row. -/
def Rounds (r : Spot → Spot → Prop) : Nat → Spot → Spot → Prop
  | 0, a, b => a = b
  | n + 1, a, c => ∃ b, r a b ∧ Rounds r n b c

/-- A repetition takes at least `least` rounds, and at most `most` where that is more. -/
def InBounds (least : Nat) (most : Option Nat) (n : Nat) : Prop :=
  least ≤ n ∧ ∀ m, most = some m → n ≤ max least m

def Pattern.Matches (text : Array Char) : Pattern → Spot → Spot → Prop
  | .empty, a, b => a = b
  | .char set, a, b =>
    ∃ c, text[a.pos]? = some c ∧ set.contains c = true ∧ b = ⟨a.pos + 1, a.slots⟩
  | .look l, a, b => l.at text a.pos = true ∧ a = b
  | .seq p q, a, c => ∃ b, p.Matches text a b ∧ q.Matches text b c
  | .alt p q, a, b => p.Matches text a b ∨ q.Matches text a b
  | .rep p least most _, a, b => ∃ n, InBounds least most n ∧ Rounds (p.Matches text) n a b
  | .group i p, a, c =>
    ∃ b, p.Matches text (a.save (2 * i)) b ∧ c = b.save (2 * i + 1)

/-- Whether a pattern matches a text from one position to another. -/
def Pattern.Spans (text : Array Char) (p : Pattern) (i j : Nat) : Prop :=
  ∃ slots, p.Matches text ⟨i, []⟩ ⟨j, slots⟩

section

variable {text : Array Char} {r : Spot → Spot → Prop}

theorem rounds_add {a b c : Spot} {m n : Nat} (h : Rounds r m a b) (h' : Rounds r n b c) :
    Rounds r (m + n) a c := by
  induction m generalizing a with
  | zero =>
    cases h
    simpa using h'
  | succ m ih =>
    obtain ⟨d, hd, hrest⟩ := h
    rw [Nat.add_right_comm]
    exact ⟨d, hd, ih hrest⟩

theorem exists_of_rounds_add {a c : Spot} {m n : Nat} (h : Rounds r (m + n) a c) :
    ∃ b, Rounds r m a b ∧ Rounds r n b c := by
  induction m generalizing a with
  | zero => exact ⟨a, rfl, by simpa using h⟩
  | succ m ih =>
    rw [Nat.add_right_comm] at h
    obtain ⟨d, hd, hrest⟩ := h
    obtain ⟨b, hfirst, hlast⟩ := ih hrest
    exact ⟨b, ⟨d, hd, hfirst⟩, hlast⟩

/-- What holds of a relation from every start with other positions saved holds of its rounds. -/
theorem rounds_resaved {a b : Spot} {n : Nat}
    (hr : ∀ a b, r a b → ∀ slots, ∃ slots', r ⟨a.pos, slots⟩ ⟨b.pos, slots'⟩)
    (h : Rounds r n a b) (slots : Slots) : ∃ slots', Rounds r n ⟨a.pos, slots⟩ ⟨b.pos, slots'⟩ := by
  induction n generalizing a slots with
  | zero =>
    cases h
    exact ⟨slots, rfl⟩
  | succ n ih =>
    obtain ⟨c, hc, hrest⟩ := h
    obtain ⟨slots', hfirst⟩ := hr a c hc slots
    obtain ⟨slots'', hlast⟩ := ih hrest slots'
    exact ⟨slots'', ⟨c.pos, slots'⟩, hfirst, hlast⟩

theorem rounds_pos {a b : Spot} {n size : Nat} (h : Rounds r n a b) (ha : a.pos ≤ size)
    (hr : ∀ a b, r a b → a.pos ≤ size → a.pos ≤ b.pos ∧ b.pos ≤ size) :
    a.pos ≤ b.pos ∧ b.pos ≤ size := by
  induction n generalizing a with
  | zero =>
    cases h
    omega
  | succ n ih =>
    obtain ⟨c, hc, hrest⟩ := h
    have hfirst := hr a c hc ha
    have hlast := ih hrest hfirst.2
    omega

namespace Pattern

variable {p q : Pattern} {a b : Spot}

/-- The positions saved before do not matter to whether a pattern matches. -/
theorem matches_resaved (h : p.Matches text a b) (slots : Slots) :
    ∃ slots', p.Matches text ⟨a.pos, slots⟩ ⟨b.pos, slots'⟩ := by
  induction p generalizing a b slots with
  | empty =>
    cases h
    exact ⟨slots, rfl⟩
  | char set =>
    obtain ⟨c, hc, hset, rfl⟩ := h
    exact ⟨slots, c, hc, hset, rfl⟩
  | look l =>
    obtain ⟨hl, rfl⟩ := h
    exact ⟨slots, hl, rfl⟩
  | seq p q hp hq =>
    obtain ⟨c, hfirst, hlast⟩ := h
    obtain ⟨slots', hfirst'⟩ := hp hfirst slots
    obtain ⟨slots'', hlast'⟩ := hq hlast slots'
    exact ⟨slots'', ⟨c.pos, slots'⟩, hfirst', hlast'⟩
  | alt p q hp hq =>
    rcases h with h | h
    · obtain ⟨slots', h'⟩ := hp h slots
      exact ⟨slots', .inl h'⟩
    · obtain ⟨slots', h'⟩ := hq h slots
      exact ⟨slots', .inr h'⟩
  | rep p least most greedy hp =>
    obtain ⟨n, hn, hrounds⟩ := h
    obtain ⟨slots', hrounds'⟩ := rounds_resaved (fun _ _ h => hp h) hrounds slots
    exact ⟨slots', n, hn, hrounds'⟩
  | group i p hp =>
    obtain ⟨c, hc, rfl⟩ := h
    obtain ⟨slots', hc'⟩ := hp hc ((2 * i, a.pos) :: slots)
    exact ⟨_, ⟨c.pos, slots'⟩, hc', rfl⟩

theorem matches_pos (h : p.Matches text a b) (ha : a.pos ≤ text.size) :
    a.pos ≤ b.pos ∧ b.pos ≤ text.size := by
  induction p generalizing a b with
  | empty =>
    cases h
    omega
  | char set =>
    obtain ⟨c, hc, -, rfl⟩ := h
    obtain ⟨hlt, -⟩ := Array.getElem?_eq_some_iff.1 hc
    simp only
    omega
  | look l =>
    obtain ⟨-, rfl⟩ := h
    omega
  | seq p q hp hq =>
    obtain ⟨c, hfirst, hlast⟩ := h
    have hc := hp hfirst ha
    have hb := hq hlast hc.2
    omega
  | alt p q hp hq => exact h.elim (hp · ha) (hq · ha)
  | rep p least most greedy hp =>
    obtain ⟨n, -, hrounds⟩ := h
    exact rounds_pos hrounds ha fun _ _ h => hp h
  | group i p hp =>
    obtain ⟨c, hc, rfl⟩ := h
    exact hp (a := a.save (2 * i)) (b := c) hc ha

theorem spans_of_matches (h : p.Matches text a b) : p.Spans text a.pos b.pos :=
  matches_resaved h []

theorem exists_matches_of_spans {i j : Nat} (h : p.Spans text i j) (slots : Slots) :
    ∃ slots', p.Matches text ⟨i, slots⟩ ⟨j, slots'⟩ :=
  matches_resaved h.choose_spec slots

variable {i j : Nat}

@[simp] theorem spans_empty : Spans text .empty i j ↔ i = j := by
  simp [Spans, Matches]

@[simp] theorem spans_char {set : Text.CharSet} : Spans text (.char set) i j ↔
    ∃ c, text[i]? = some c ∧ set.contains c = true ∧ j = i + 1 := by
  constructor
  · rintro ⟨slots, c, hc, hset, heq⟩
    exact ⟨c, hc, hset, congrArg Spot.pos heq⟩
  · rintro ⟨c, hc, hset, rfl⟩
    exact ⟨[], c, hc, hset, rfl⟩

@[simp] theorem spans_look {l : Look} : Spans text (.look l) i j ↔ l.at text i = true ∧ i = j := by
  simp [Spans, Matches]

@[simp] theorem spans_seq :
    Spans text (.seq p q) i j ↔ ∃ k, p.Spans text i k ∧ q.Spans text k j := by
  constructor
  · rintro ⟨slots, c, hfirst, hlast⟩
    exact ⟨c.pos, spans_of_matches hfirst, spans_of_matches hlast⟩
  · rintro ⟨k, ⟨slots, hfirst⟩, hlast⟩
    obtain ⟨slots', hlast'⟩ := exists_matches_of_spans hlast slots
    exact ⟨slots', ⟨k, slots⟩, hfirst, hlast'⟩

@[simp] theorem spans_alt : Spans text (.alt p q) i j ↔ p.Spans text i j ∨ q.Spans text i j := by
  simp [Spans, Matches, exists_or]

@[simp] theorem spans_group {n : Nat} : Spans text (.group n p) i j ↔ p.Spans text i j := by
  constructor
  · rintro ⟨slots, c, hc, heq⟩
    obtain rfl : j = c.pos := by simpa using congrArg Spot.pos heq
    exact spans_of_matches hc
  · intro h
    obtain ⟨slots, hc⟩ := exists_matches_of_spans h ((Spot.mk i []).save (2 * n)).slots
    exact ⟨_, ⟨j, slots⟩, hc, rfl⟩

theorem spans_concat_cons {ps : List Pattern} :
    (concat (p :: ps)).Spans text i j ↔
      ∃ k, p.Spans text i k ∧ (concat ps).Spans text k j := by
  cases ps <;> simp [concat]

theorem spans_concat_append {ps qs : List Pattern} :
    (concat (ps ++ qs)).Spans text i j ↔
      ∃ k, (concat ps).Spans text i k ∧ (concat qs).Spans text k j := by
  induction ps generalizing i with
  | nil => simp [concat]
  | cons p ps ih =>
    simp only [List.cons_append, spans_concat_cons, ih]
    constructor
    · rintro ⟨k, hp, k', hps, hqs⟩
      exact ⟨k', ⟨k, hp, hps⟩, hqs⟩
    · rintro ⟨k', ⟨k, hp, hps⟩, hqs⟩
      exact ⟨k, hp, k', hps, hqs⟩

/-- A union matches what one of its patterns matches; the union of none matches nothing but the
    empty text. -/
theorem spans_union {ps : List Pattern} (hps : ps ≠ []) :
    (union ps).Spans text i j ↔ ∃ p ∈ ps, p.Spans text i j := by
  induction ps with
  | nil => exact absurd rfl hps
  | cons p ps ih =>
    cases ps with
    | nil => simp [union]
    | cons q qs => simp [union, ih]

end Pattern
end
end Harvest.Regex
