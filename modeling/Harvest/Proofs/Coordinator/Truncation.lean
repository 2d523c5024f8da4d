import Harvest.Sync.Notice
/-!
Bodies of answers that are cut short for the log. The dots that stand for what is cut off are
characters as well: a limit is kept where they have room, and below that a body without room is
replaced by the dots alone, which are longer than the limit. What is logged of a rejected
submission has room for them.
-/

namespace Harvest.Coordinator

/-- What is asked of a text that stands for a body where there is room for so many characters: it is
    the body or, if that has more of them, a beginning of it with dots that fills the room. -/
structure Abridges (body : String) (limit : Nat) (text : String) : Prop where
  length_le : text.length ≤ limit
  whole_iff : text = body ↔ body.length ≤ limit
  marked : limit < body.length →
    text.length = limit ∧ ∃ kept rest, body = kept ++ rest ∧ text = kept ++ "..."

section

variable {body kept rest text : String} {limit : Nat}

theorem length_marked (kept : String) : (kept ++ "...").length = kept.length + 3 :=
  String.length_append kept "..."

theorem truncate_of_length_le (h : body.length ≤ limit) : truncate body limit = body :=
  if_pos h

theorem truncate_of_lt (h : limit < body.length) :
    truncate body limit = String.ofList (body.toList.take (limit - 3)) ++ "..." :=
  if_neg (Nat.not_le_of_lt h)

/-- Only the beginning of a body matters, as long as there are more characters than have room. -/
theorem truncate_append (h : limit < (kept ++ rest).length) (hkept : limit - 3 ≤ kept.length) :
    truncate (kept ++ rest) limit = String.ofList (kept.toList.take (limit - 3)) ++ "..." := by
  rw [truncate_of_lt h, String.toList_append,
    List.take_append_of_le_length (by rwa [String.length_toList])]

theorem truncate_append_self (h : limit < (kept ++ rest).length) (hkept : kept.length = limit - 3) :
    truncate (kept ++ rest) limit = kept ++ "..." := by
  have hall : kept.toList.length ≤ limit - 3 := by
    rw [String.length_toList]
    exact Nat.le_of_eq hkept
  rw [truncate_append h (Nat.le_of_eq hkept.symm), List.take_of_length_le hall,
    String.ofList_toList]

/-- A body that has no room is a beginning, of as many characters as there is room for besides the
    dots, and a rest that the dots replace. -/
theorem exists_kept (h : limit < body.length) : ∃ kept rest, kept.length = limit - 3 ∧
    body = kept ++ rest ∧ truncate body limit = kept ++ "..." := by
  have hle : limit - 3 ≤ body.toList.length := by
    rw [String.length_toList]
    omega
  refine ⟨_, String.ofList (body.toList.drop (limit - 3)), ?_, ?_, truncate_of_lt h⟩
  · rw [String.length_ofList, List.length_take_of_le hle]
  · rw [← String.ofList_append, List.take_append_drop, String.ofList_toList]

theorem length_truncate_of_lt (h : limit < body.length) :
    (truncate body limit).length = max limit 3 := by
  obtain ⟨kept, _, hkept, -, htruncate⟩ := exists_kept h
  rw [htruncate, length_marked, hkept]
  omega

theorem truncate_of_lt_three (h : limit < body.length) (hlimit : limit < 3) :
    truncate body limit = "..." := by
  rw [truncate_of_lt h, Nat.sub_eq_zero_of_le (Nat.le_of_lt hlimit)]
  rfl

/-- A body comes back as it is if it has room, and otherwise only if it is the dots themselves. -/
theorem truncate_eq_self_iff :
    truncate body limit = body ↔ body.length ≤ limit ∨ limit < 3 ∧ body = "..." := by
  rcases Nat.lt_or_ge limit body.length with hlt | hle
  · constructor
    · -- a body that is longer than the limit has the length of the result only if the dots do
      intro h
      have hlength := length_truncate_of_lt hlt
      rw [h] at hlength
      have hlimit : limit < 3 := by omega
      exact .inr ⟨hlimit, h.symm.trans (truncate_of_lt_three hlt hlimit)⟩
    · rintro (hle | ⟨hlimit, rfl⟩)
      · exact truncate_of_length_le hle
      · exact truncate_of_lt_three hlt hlimit
  · exact ⟨fun _ => .inl hle, fun _ => truncate_of_length_le hle⟩

theorem truncate_truncate (body : String) (m n : Nat) :
    truncate (truncate body m) n = truncate body (min m n) := by
  rcases Nat.lt_or_ge m body.length with hm | hm
  · have hlength := length_truncate_of_lt hm
    rcases Nat.lt_or_ge n (truncate body m).length with hn | hn
    · -- the dots of the first cut are among what the second one takes away
      obtain ⟨kept, rest, hkept, rfl, htruncate⟩ := exists_kept hm
      have hsame : min m n - 3 = n - 3 := by omega
      have hmin : min m n < (kept ++ rest).length := by omega
      rw [htruncate] at hn ⊢
      rw [truncate_append hn (by omega), truncate_append hmin (by omega), hsame]
    · have hmin : min m n = m := by omega
      rw [truncate_of_length_le hn, hmin]
  · rw [truncate_of_length_le hm]
    rcases Nat.lt_or_ge m n with hn | hn
    · rw [Nat.min_eq_left (Nat.le_of_lt hn), truncate_of_length_le hm,
        truncate_of_length_le (by omega)]
    · rw [Nat.min_eq_right hn]

/-- No other text does what is asked. -/
theorem Abridges.eq_truncate (h : Abridges body limit text) : text = truncate body limit := by
  rcases Nat.lt_or_ge limit body.length with hlt | hle
  · obtain ⟨hlength, kept, rest, rfl, rfl⟩ := h.marked hlt
    rw [length_marked] at hlength
    exact (truncate_append_self hlt (by omega)).symm
  · exact (h.whole_iff.2 hle).trans (truncate_of_length_le hle).symm

theorem abridges_truncate_of_length_le (h : body.length ≤ limit) :
    Abridges body limit (truncate body limit) := by
  rw [truncate_of_length_le h]
  exact ⟨h, iff_of_true rfl h, fun hlt => absurd h (Nat.not_le_of_lt hlt)⟩

theorem abridges_truncate_of_three_le (h : 3 ≤ limit) :
    Abridges body limit (truncate body limit) := by
  rcases Nat.lt_or_ge limit body.length with hlt | hle
  · obtain ⟨kept, rest, -, hbody, htruncate⟩ := exists_kept hlt
    have hlength : (truncate body limit).length = limit := by
      rw [length_truncate_of_lt hlt, Nat.max_eq_left h]
    have hne : truncate body limit ≠ body := by
      intro heq
      rw [heq] at hlength
      omega
    exact ⟨Nat.le_of_eq hlength, iff_of_false hne (Nat.not_le_of_lt hlt),
      fun _ => ⟨hlength, kept, rest, hbody, htruncate⟩⟩
  · exact abridges_truncate_of_length_le hle

theorem abridges_truncate_iff :
    Abridges body limit (truncate body limit) ↔ body.length ≤ limit ∨ 3 ≤ limit := by
  constructor
  · intro h
    rcases Nat.lt_or_ge limit body.length with hlt | hle
    · have hlength := h.length_le
      rw [length_truncate_of_lt hlt] at hlength
      exact .inr (by omega)
    · exact .inl hle
  · rintro (h | h)
    · exact abridges_truncate_of_length_le h
    · exact abridges_truncate_of_three_le h

end

/-- A limit is kept exactly if the body or the dots have room. A body comes back as it is if it has
    room, and otherwise only if it is the dots that stand for every longer body where there is room
    for fewer than three characters. What is cut short is a beginning of the body with dots, and has
    as many characters as there is room for, or as the dots have if these are more. No other text
    would do what is asked. The log of a rejected submission keeps its limit for every body. -/
theorem truncation_keeps_limit_iff (body : String) (limit : Nat) :
    (Abridges body limit (truncate body limit) ↔ body.length ≤ limit ∨ 3 ≤ limit) ∧
    (truncate body limit = body ↔ body.length ≤ limit ∨ limit < 3 ∧ body = "...") ∧
    (limit < body.length → (truncate body limit).length = max limit 3 ∧
      ∃ kept rest, body = kept ++ rest ∧ truncate body limit = kept ++ "...") ∧
    (∀ text, Abridges body limit text → text = truncate body limit) ∧
    ∀ id status, ∃ text, (Sync.Notice.submissionRejected id status body).data =
        some (Resource.record [("status", Json.nat status), ("response", .str text)]) ∧
      Abridges body 1000 text := by
  refine ⟨abridges_truncate_iff, truncate_eq_self_iff, fun hlt => ?_,
    fun _ => Abridges.eq_truncate, fun _ _ => ?_⟩
  · obtain ⟨kept, rest, -, hbody, htruncate⟩ := exists_kept hlt
    exact ⟨length_truncate_of_lt hlt, kept, rest, hbody, htruncate⟩
  · exact ⟨_, rfl, abridges_truncate_of_three_le (by decide)⟩

/-- Without any room the dots come back for a letter, and for themselves. Letters are counted, not
    the bytes that they take. -/
theorem truncation_keeps_limit_letters :
    (truncate "a" 0).length = 3 ∧ ¬ Abridges "a" 0 (truncate "a" 0) ∧
      truncate "..." 0 = "..." ∧ ¬ Abridges "..." 0 (truncate "..." 0) ∧
      Abridges "ğüşiöç" 5 (truncate "ğüşiöç" 5) ∧ truncate "ğüşiöç" 5 = "ğü..." := by
  obtain ⟨hletter, -, hcut, -⟩ := truncation_keeps_limit_iff "a" 0
  obtain ⟨hdots, hself, -⟩ := truncation_keeps_limit_iff "..." 0
  obtain ⟨hletters, -⟩ := truncation_keeps_limit_iff "ğüşiöç" 5
  refine ⟨(hcut (by decide)).1, fun h => ?_, hself.2 (.inr ⟨by decide, rfl⟩), fun h => ?_,
    hletters.2 (.inr (by decide)), by decide⟩
  · exact absurd (hletter.1 h) (by decide)
  · exact absurd (hdots.1 h) (by decide)

end Harvest.Coordinator
