import Harvest.Proofs.Regex.Endings
/-!
Reading an expression between a caret and a dollar sign. The signs are read like any other item: the
caret becomes the first item of the first alternative, and the dollar sign the last item of the last
one, unless an escape or a comment takes it in. Apart from them the reading is that of the
expression on its own.
-/

namespace Harvest.Regex.Reader.Reading

variable {fuel : Nat} {st st' last last' : Reading} {s r : List Char}

/-- A reading whose text goes on with a dollar sign. -/
def dollar (st : Reading) : Reading := { st with text := st.text ++ ['$'] }

@[simp] theorem dollar_flags : st.dollar.flags = st.flags := rfl
@[simp] theorem dollar_names : st.dollar.names = st.names := rfl
@[simp] theorem dollar_branches : st.dollar.branches = st.branches := rfl
@[simp] theorem dollar_items : st.dollar.items = st.items := rfl
@[simp] theorem dollar_text : st.dollar.text = st.text ++ ['$'] := rfl

/-- What a dollar sign is read as. -/
def ending (f : Flags) : Look := if f.multiline then .endLine f.crlf else .endText

/-- A reading that has ended with a dollar sign. -/
def finish (st : Reading) : Reading := st.add (.node (.look (ending st.flags)) 0) []

/-- Whether a reading is that of a step with the dollar sign still to come. -/
def Awaits (step : Except Fault Reading) (st' : Reading) : Prop :=
  ∃ next, step = .ok next ∧ st' = next.dollar

/-- Whether a count of a repetition must follow but the dollar sign does. -/
structure Blocked (st : Reading) : Prop where
  begun : st.items ≠ []
  text : ∃ t, st.text = '\x7b' :: t ∧ skip st.flags t = ['$']

theorem settle_of_nil (hs : st.text = []) (h : settle fuel st = .ok last) : last = st := by
  cases fuel with
  | zero => cases h
  | succ fuel =>
    rw [settle_of_not_isInside (by simp [hs, skip_nil, IsInside])] at h
    exact (Except.ok.inj h).symm

theorem rest_of_read_nil {f : Flags} {names : Names} {inner : Parsed}
    (h : body fuel f names [] [] [] = .ok inner) : inner.rest = [] := by
  have hread : read fuel ⟨f, names, [], [], []⟩ = .ok inner := h
  obtain ⟨last, hlast, rfl⟩ := read_eq_ok_iff.1 hread
  obtain rfl := settle_of_nil rfl hlast
  exact skip_nil f

theorem settle_of_blocked (hb : Blocked st) : settle fuel st ≠ .ok last := by
  obtain ⟨hitems, t, htext, ht⟩ := hb
  intro h
  have hskip : skip st.flags st.text = '\x7b' :: t := by rw [htext, skip_brace]
  have hcounts : counts st.flags t = .error .repetitionCount := by
    simp only [counts, ht]
    rfl
  cases fuel with
  | zero => cases h
  | succ fuel =>
    rw [settle_of_isInside (by simp [hskip, IsInside]), hskip] at h
    simp [advance, hitems, hcounts, bind, Except.bind] at h

theorem enclose_iff {wrap : Pattern → Pattern} {inner : Parsed} :
    st.enclose wrap inner = .ok st' ↔ ∃ rest, inner.rest = ')' :: rest ∧
      st' = { st with
        names := inner.names
        items := .node (wrap inner.pattern) (inner.depth + 1) :: st.items
        text := rest } := by
  unfold enclose
  split
  · rename_i rest hrest
    simp [hrest, eq_comm]
  · rename_i hrest
    constructor
    · intro h
      cases h
    · rintro ⟨rest, hrest', -⟩
      exact absurd hrest' (hrest rest)

/-- What reads the groups inside of a group leaves the dollar sign behind their closing
    parenthesis. -/
def SparesDollar (fuel : Nat) : Prop :=
  ∀ st inner rest, read fuel (dollar st) = .ok inner → inner.rest = ')' :: rest →
    ∃ rest', rest = rest' ++ ['$'] ∧ read fuel st = .ok { inner with rest := ')' :: rest' }

theorem enclose_dollar {wrap : Pattern → Pattern} {inner : Parsed} {f : Flags} {names : Names}
    (hfuel : SparesDollar fuel) (hinner : body fuel f names [] [] (s ++ ['$']) = .ok inner)
    (h : st.dollar.enclose wrap inner = .ok st') :
    Awaits (body fuel f names [] [] s >>= st.enclose wrap) st' := by
  obtain ⟨rest, hrest, rfl⟩ := enclose_iff.1 h
  obtain ⟨rest', rfl, hread⟩ := hfuel ⟨f, names, [], [], s⟩ inner rest hinner hrest
  exact ⟨_, bind_eq_ok_iff.2 ⟨_, hread, enclose_iff.2 ⟨rest', rfl, rfl⟩⟩, rfl⟩

theorem group_dollar (hfuel : SparesDollar fuel)
    (h : st.dollar.group fuel (s ++ ['$']) = .ok st') : Awaits (st.group fuel s) st' := by
  obtain ⟨⟨o, rest⟩, hopening, h⟩ := bind_eq_ok_iff.1 h
  rcases opening_dollar hopening with ⟨rest', rfl, hopening'⟩ | ⟨rfl, hset⟩
  · cases o with
    | set f' =>
      cases h
      exact ⟨_, bind_eq_ok_iff.2 ⟨_, hopening', rfl⟩, rfl⟩
    | plain f' =>
      obtain ⟨inner, hinner, h⟩ := bind_eq_ok_iff.1 h
      obtain ⟨next, hnext, rfl⟩ := enclose_dollar hfuel hinner h
      exact ⟨next, bind_eq_ok_iff.2 ⟨_, hopening', hnext⟩, rfl⟩
    | group name =>
      obtain ⟨inner, hinner, h⟩ := bind_eq_ok_iff.1 h
      obtain ⟨next, hnext, rfl⟩ := enclose_dollar hfuel hinner h
      exact ⟨next, bind_eq_ok_iff.2 ⟨_, hopening', hnext⟩, rfl⟩
  · -- The dollar sign was taken for part of the opening, so nothing closes the group.
    have hunclosed : ∀ f names wrap inner, body fuel f names [] [] [] = .ok inner →
        st.dollar.enclose wrap inner ≠ .ok st' := by
      intro f names wrap inner hinner henclose
      obtain ⟨rest, hrest, -⟩ := enclose_iff.1 henclose
      simp [rest_of_read_nil hinner] at hrest
    cases o with
    | set f' => exact absurd rfl (hset f')
    | plain f' =>
      obtain ⟨inner, hinner, h⟩ := bind_eq_ok_iff.1 h
      exact absurd h (hunclosed _ _ _ _ hinner)
    | group name =>
      obtain ⟨inner, hinner, h⟩ := bind_eq_ok_iff.1 h
      exact absurd h (hunclosed _ _ _ _ hinner)

theorem repeated_dollar {least : Nat} {most : Option Nat}
    (h : st.dollar.repeated least most (s ++ ['$']) = .ok st') :
    Awaits (st.repeated least most s) st' := by
  obtain ⟨⟨items, rest⟩, hlast, h⟩ := bind_eq_ok_iff.1 h
  obtain ⟨rest', rfl, hlast'⟩ := repeatLast_dollar hlast
  cases h
  exact ⟨_, bind_eq_ok_iff.2 ⟨_, hlast', rfl⟩, rfl⟩

/-- The characters that do not begin an item of their own. -/
def operators : List Char := ['|', '(', '[', '?', '*', '+', '\x7b']

theorem advance_of_not_mem {c : Char} (hc : c ∉ operators) :
    st.advance fuel (c :: s) =
      (primitive st.flags (c :: s)).bind fun v => .ok (st.add (.node v.1 0) v.2) := by
  unfold advance
  split
  all_goals first | rfl | simp_all [operators]

theorem advance_brace_iff : st.advance fuel ('\x7b' :: s) = .ok st' ↔ st.items ≠ [] ∧
    ∃ least most rest, counts st.flags s = .ok (least, most, rest) ∧
      st.repeated least most rest = .ok st' := by
  simp only [advance]
  split
  · rename_i hitems
    simp [List.isEmpty_iff.1 hitems]
  · rename_i hitems
    rw [List.isEmpty_iff] at hitems
    rw [bind_eq_ok_iff]
    simp [hitems]

/-- A round of the loop leaves the dollar sign, but for the two ways in which it becomes part of
    what stands before it. -/
theorem advance_dollar (hfuel : SparesDollar fuel) (hs : s ≠ [])
    (h : st.dollar.advance fuel (s ++ ['$']) = .ok st') :
    Awaits (st.advance fuel s) st' ∨ s = ['\\'] ∧ st'.text = [] ∨ Blocked st' := by
  cases s with
  | nil => exact absurd rfl hs
  | cons c t =>
    by_cases hc : c ∈ operators
    · refine .inl ?_
      simp only [operators, List.mem_cons, List.not_mem_nil, or_false] at hc
      rcases hc with rfl | rfl | rfl | rfl | rfl | rfl | rfl
      · cases h
        exact ⟨_, rfl, rfl⟩
      · exact group_dollar hfuel h
      · obtain ⟨⟨set, rest⟩, hbracket, h⟩ := bind_eq_ok_iff.1 h
        obtain ⟨rest', rfl, hbracket'⟩ := (bracket_dollar _).1 _ _ _ _ hbracket
        cases h
        have hfit := (bracket_of_length _).1 (t.length + 1) _ _ _ _ hbracket' (by omega)
        exact ⟨_, bind_eq_ok_iff.2 ⟨_, hfit, rfl⟩, rfl⟩
      · exact repeated_dollar h
      · exact repeated_dollar h
      · exact repeated_dollar h
      · obtain ⟨hitems, least, most, rest, hcounts, h⟩ := advance_brace_iff.1 h
        obtain ⟨rest', rfl, hcounts'⟩ := counts_dollar hcounts
        obtain ⟨next, hnext, rfl⟩ := repeated_dollar h
        exact ⟨next, advance_brace_iff.2 ⟨hitems, least, most, rest', hcounts', hnext⟩, rfl⟩
    · rw [List.cons_append, advance_of_not_mem hc] at h
      obtain ⟨⟨p, rest⟩, hprimitive, h⟩ := bind_eq_ok_iff.1 h
      cases h
      rw [advance_of_not_mem hc]
      rcases primitive_dollar hprimitive with ⟨rest', rfl, hread⟩ | ⟨rfl, rfl, rfl⟩ | ⟨u, rfl, hu⟩
      · exact .inl ⟨_, bind_eq_ok_iff.2 ⟨_, hread, rfl⟩, rfl⟩
      · exact .inr (.inl ⟨rfl, rfl⟩)
      · exact .inr (.inr ⟨by simp [add], u, rfl, hu⟩)

/-- How a reading with a dollar sign at its end has ended, by what the reading without it gave. -/
inductive Ended (last' : Reading) : Except Fault Reading → Prop
  | before (last : Reading) (htext : ¬ IsInside (skip last.flags (last.text ++ ['$'])))
      (h : last' = last.dollar) : Ended last' (.ok last)
  | behind (last : Reading) (hs : skip last.flags last.text = [])
      (hmore : skip last.flags (last.text ++ ['$']) = ['$']) (h : last' = last.finish) :
      Ended last' (.ok last)
  | escaped (htext : last'.text = []) : Ended last' (.error .escape)

theorem not_isInside_nil : ¬ IsInside [] := by simp [IsInside]

theorem sparesDollar_of_ended
    (h : ∀ st last', settle fuel (dollar st) = .ok last' → Ended last' (settle fuel st)) :
    SparesDollar fuel := by
  intro st inner rest hread hrest
  obtain ⟨last', hlast', rfl⟩ := read_eq_ok_iff.1 hread
  have hskip : skip last'.flags last'.text = ')' :: rest := hrest
  have hended := h st last' hlast'
  generalize hlast : settle fuel st = result at hended
  cases hended with
  | before last htext heq =>
    subst heq
    rcases skip_dollar last.flags last.text with hs | ⟨-, hs⟩
    · simp only [dollar_flags, dollar_text, hs] at hskip
      cases hown : skip last.flags last.text with
      | nil => simp [hown] at hskip
      | cons c t =>
        simp only [hown, List.cons_append, List.cons.injEq] at hskip
        obtain ⟨rfl, rfl⟩ := hskip
        refine ⟨t, rfl, read_eq_ok_iff.2 ⟨last, hlast, ?_⟩⟩
        simp only [parsed, hown, dollar_branches, dollar_items, dollar_names]
    · simp [hs] at hskip
  | behind last hs hmore heq =>
    subst heq
    simp [finish, add, skip_nil] at hskip
  | escaped htext => simp [htext, skip_nil] at hskip

/-- Reading with a dollar sign at the end goes the way of reading without it, and reads the sign
    last. -/
theorem settle_dollar (h : settle fuel st.dollar = .ok last') : Ended last' (settle fuel st) := by
  induction fuel generalizing st last' with
  | zero => cases h
  | succ fuel ih =>
    have hfuel : SparesDollar fuel := sparesDollar_of_ended fun _ _ => ih
    rcases skip_dollar st.flags st.text with hs | ⟨hown, hs⟩
    · by_cases hnil : skip st.flags st.text = []
      · rw [settle_of_not_isInside (by rw [hnil]; exact not_isInside_nil)]
        rw [hnil, List.nil_append] at hs
        have hround : st.dollar.advance fuel ['$'] = .ok st.finish := rfl
        rw [settle_of_isInside (by simp [hs, IsInside])] at h
        simp only [dollar_flags, dollar_text, hs, hround, Except.bind] at h
        exact .behind st hnil hs (settle_of_nil rfl h)
      by_cases hparen : ∃ t, skip st.flags st.text = ')' :: t
      · obtain ⟨t, ht⟩ := hparen
        rw [ht, List.cons_append] at hs
        rw [settle_of_not_isInside (by simp [ht, IsInside])]
        rw [settle_of_not_isInside (by simp [hs, IsInside])] at h
        exact .before st (by simp [hs, IsInside]) (Except.ok.inj h).symm
      · have hin : IsInside (skip st.flags st.text) := ⟨hnil, fun r hr => hparen ⟨r, hr⟩⟩
        have hin' : IsInside (skip st.flags st.text ++ ['$']) :=
          ⟨by simp, dollar_ne (by decide) hin.2⟩
        rw [settle_of_isInside (by simpa [hs] using hin')] at h
        simp only [dollar_flags, dollar_text, hs] at h
        obtain ⟨next', hnext', h⟩ := bind_eq_ok_iff.1 h
        rw [settle_of_isInside hin]
        rcases advance_dollar hfuel hnil hnext' with ⟨next, hnext, rfl⟩ | ⟨hslash, htext⟩ | hblocked
        · simpa only [hnext, Except.bind] using ih h
        · obtain rfl := settle_of_nil htext h
          rw [hslash]
          exact .escaped htext
        · exact absurd h (settle_of_blocked hblocked)
    · rw [settle_of_not_isInside (by rw [hown]; exact not_isInside_nil)]
      rw [settle_of_not_isInside (by simp [hs, IsInside])] at h
      exact .before st (by rw [hs]; exact not_isInside_nil) (Except.ok.inj h).symm

/-! The caret lies below all that is read after it, and only an operator that finds nothing else to
repeat would take it up. -/

/-- What a caret in front of an expression is read as. -/
def caret : Item := .node (.look .startText) 0

/-- Whether `st'` differs from `st` by a caret before the first alternative. -/
inductive Headed : Reading → Reading → Prop
  | first (f : Flags) (names : Names) (items : List Item) (s : List Char) :
      Headed ⟨f, names, [], items, s⟩ ⟨f, names, [], items ++ [caret], s⟩
  | later (f : Flags) (names : Names) (branches : List (Pattern × Nat)) (items₀ items : List Item)
      (s : List Char) :
      Headed ⟨f, names, branches ++ [sequence items₀], items, s⟩
        ⟨f, names, branches ++ [sequence (items₀ ++ [caret])], items, s⟩

/-- Whether something was read already. -/
def IsBegun (st : Reading) : Prop := st.branches ≠ [] ∨ st.items ≠ []

def repetitions : List Char := ['?', '*', '+', '\x7b']

namespace Headed

theorem flags_eq (h : Headed st st') : st'.flags = st.flags := by cases h <;> rfl

theorem names_eq (h : Headed st st') : st'.names = st.names := by cases h <;> rfl

theorem text_eq (h : Headed st st') : st'.text = st.text := by cases h <;> rfl

/-- One more item, whatever else it changes. -/
theorem push (h : Headed st st') (f : Flags) (names : Names) (item : Item) (s : List Char) :
    Headed ⟨f, names, st.branches, item :: st.items, s⟩
      ⟨f, names, st'.branches, item :: st'.items, s⟩ := by
  cases h with
  | first f₀ names₀ items s₀ => exact .first f names (item :: items) s
  | later f₀ names₀ branches items₀ items s₀ =>
    exact .later f names branches items₀ (item :: items) s

theorem add (h : Headed st st') (item : Item) (s : List Char) :
    Headed (st.add item s) (st'.add item s) := by
  rw [Reading.add, Reading.add, h.flags_eq, h.names_eq]
  exact h.push _ _ item s

theorem bar (h : Headed st st') (s : List Char) :
    Headed ⟨st.flags, st.names, sequence st.items :: st.branches, [], s⟩
      ⟨st'.flags, st'.names, sequence st'.items :: st'.branches, [], s⟩ := by
  cases h with
  | first f names items s₀ => exact .later f names [] items [] s
  | later f names branches items₀ items s₀ =>
    exact .later f names (sequence items :: branches) items₀ [] s

end Headed

theorem isBegun_push {f : Flags} {names : Names} {branches : List (Pattern × Nat)} {item : Item}
    {items : List Item} {s : List Char} : IsBegun ⟨f, names, branches, item :: items, s⟩ :=
  .inr (List.cons_ne_nil item items)

/-- What a step gives without the caret, by what it gives with it. -/
def Unheaded (step : Except Fault Reading) (st' : Reading) : Prop :=
  ∃ next, step = .ok next ∧ Headed next st' ∧ IsBegun next

theorem exists_of_repeatLast {f : Flags} {items items' : List Item} {least : Nat}
    {most : Option Nat} (h : repeatLast f items least most s = .ok (items', r)) :
    ∃ p d before p' d', items = .node p d :: before ∧ items' = .node p' d' :: before ∧
      ∀ others,
        repeatLast f (.node p d :: others) least most s = .ok (.node p' d' :: others, r) := by
  unfold repeatLast at h
  simp only at h
  split at h
  · rename_i p d before
    split at h
    · cases h
    · rename_i hp
      cases h
      exact ⟨p, d, before, _, _, rfl, rfl, fun others => by simp only [repeatLast, if_neg hp]⟩
  · cases h

theorem repeated_headed {least : Nat} {most : Option Nat} (hst : Headed st st')
    (hbegun : IsBegun st) (h : st'.repeated least most s = .ok last') : Unheaded (st.repeated least most s) last' := by
  obtain ⟨⟨items', rest⟩, hlast, h⟩ := bind_eq_ok_iff.1 h
  obtain ⟨p, d, before, p', d', hitems, hitems', hothers⟩ := exists_of_repeatLast hlast
  cases h
  subst hitems'
  cases hst with
  | first f names items s₀ =>
    cases items with
    | nil => exact absurd hbegun (by simp [IsBegun])
    | cons item items =>
      obtain ⟨rfl, rfl⟩ := List.cons.inj hitems
      exact ⟨_, bind_eq_ok_iff.2 ⟨_, hothers items, rfl⟩,
        .first f names (.node p' d' :: items) rest, isBegun_push⟩
  | later f names branches items₀ items s₀ =>
    cases items with
    | nil =>
      cases hitems
    | cons item items =>
      obtain ⟨rfl, rfl⟩ := List.cons.inj hitems
      exact ⟨_, bind_eq_ok_iff.2 ⟨_, hothers items, rfl⟩,
        .later f names branches items₀ (.node p' d' :: items) rest, isBegun_push⟩

theorem enclose_headed {wrap : Pattern → Pattern} {inner : Parsed} (hst : Headed st st')
    (h : st'.enclose wrap inner = .ok last') : Unheaded (st.enclose wrap inner) last' := by
  obtain ⟨rest, hrest, rfl⟩ := enclose_iff.1 h
  rw [hst.flags_eq]
  exact ⟨_, enclose_iff.2 ⟨rest, hrest, rfl⟩, hst.push _ _ _ _, isBegun_push⟩

theorem group_headed (hst : Headed st st') (h : st'.group fuel s = .ok last') :
    Unheaded (st.group fuel s) last' := by
  unfold group at h
  rw [hst.flags_eq, hst.names_eq] at h
  obtain ⟨⟨o, rest⟩, hopening, h⟩ := bind_eq_ok_iff.1 h
  cases o with
  | set f' =>
    cases h
    exact ⟨_, bind_eq_ok_iff.2 ⟨_, hopening, rfl⟩, hst.names_eq ▸ hst.push _ _ _ _,
      isBegun_push⟩
  | plain f' =>
    obtain ⟨inner, hinner, h⟩ := bind_eq_ok_iff.1 h
    obtain ⟨next, hnext, hheaded⟩ := enclose_headed hst h
    exact ⟨next, bind_eq_ok_iff.2 ⟨_, hopening, bind_eq_ok_iff.2 ⟨inner, hinner, hnext⟩⟩, hheaded⟩
  | group name =>
    obtain ⟨inner, hinner, h⟩ := bind_eq_ok_iff.1 h
    obtain ⟨next, hnext, hheaded⟩ := enclose_headed hst h
    exact ⟨next, bind_eq_ok_iff.2 ⟨_, hopening, bind_eq_ok_iff.2 ⟨inner, hinner, hnext⟩⟩, hheaded⟩

/-- A round of the loop with the caret is a round without it, but for a repetition of the caret. -/
theorem advance_headed (hst : Headed st st') (hs : ∀ c ∈ s.head?, c ∈ repetitions → IsBegun st)
    (h : st'.advance fuel s = .ok last') : Unheaded (st.advance fuel s) last' := by
  cases s with
  | nil =>
    cases h
    exact ⟨_, rfl, hst.add _ _, isBegun_push⟩
  | cons c t =>
    have hbegun : c ∈ repetitions → IsBegun st := hs c rfl
    by_cases hc : c ∈ operators
    · simp only [operators, List.mem_cons, List.not_mem_nil, or_false] at hc
      rcases hc with rfl | rfl | rfl | rfl | rfl | rfl | rfl
      · cases h
        exact ⟨_, rfl, hst.bar t, .inl (List.cons_ne_nil _ _)⟩
      · exact group_headed hst h
      · obtain ⟨⟨set, rest⟩, hbracket, h⟩ := bind_eq_ok_iff.1 h
        rw [hst.flags_eq] at hbracket
        cases h
        exact ⟨_, bind_eq_ok_iff.2 ⟨_, hbracket, rfl⟩, hst.add _ _, isBegun_push⟩
      · exact repeated_headed hst (hbegun (by decide)) h
      · exact repeated_headed hst (hbegun (by decide)) h
      · exact repeated_headed hst (hbegun (by decide)) h
      · obtain ⟨hitems, least, most, rest, hcounts, h⟩ := advance_brace_iff.1 h
        rw [hst.flags_eq] at hcounts
        obtain ⟨next, hnext, hheaded⟩ := repeated_headed hst (hbegun (by decide)) h
        refine ⟨next, advance_brace_iff.2 ⟨?_, least, most, rest, hcounts, hnext⟩, hheaded⟩
        obtain ⟨⟨items', rest'⟩, hlast, -⟩ := bind_eq_ok_iff.1 hnext
        obtain ⟨p, d, before, -, -, hbefore, -⟩ := exists_of_repeatLast hlast
        simp [hbefore]
    · rw [advance_of_not_mem hc, hst.flags_eq] at h
      obtain ⟨⟨p, rest⟩, hprimitive, h⟩ := bind_eq_ok_iff.1 h
      cases h
      rw [advance_of_not_mem hc]
      exact ⟨_, bind_eq_ok_iff.2 ⟨_, hprimitive, rfl⟩, hst.add _ _, isBegun_push⟩

/-- Reading with the caret goes the way of reading without it. -/
theorem settle_headed (hst : Headed st st')
    (hs : ∀ c ∈ (skip st.flags st.text).head?, c ∈ repetitions → IsBegun st)
    (h : settle fuel st' = .ok last') : ∃ last, settle fuel st = .ok last ∧ Headed last last' := by
  induction fuel generalizing st st' with
  | zero => cases h
  | succ fuel ih =>
    by_cases hin : IsInside (skip st.flags st.text)
    · rw [settle_of_isInside (by rw [hst.flags_eq, hst.text_eq]; exact hin), hst.flags_eq,
        hst.text_eq] at h
      obtain ⟨next', hnext', h⟩ := bind_eq_ok_iff.1 h
      obtain ⟨next, hnext, hheaded, hbegun⟩ := advance_headed hst hs hnext'
      obtain ⟨last, hlast, hlast'⟩ := ih hheaded (fun _ _ _ => hbegun) h
      refine ⟨last, ?_, hlast'⟩
      rw [settle_of_isInside hin, hnext]
      exact hlast
    · rw [settle_of_not_isInside (by rw [hst.flags_eq, hst.text_eq]; exact hin)] at h
      cases h
      exact ⟨st, settle_of_not_isInside hin, hst⟩

end Harvest.Regex.Reader.Reading
