import Harvest.Proofs.Sync.Quiet
/-!
The tokens of an entry. An entry holds a token for its poll timer while it is polling, and one for
its resume while it is paused. It never holds two tokens, and those that it held before are
cancelled. No two tasks carry the same token, so there are never two live timers of one entry.
-/

namespace Harvest.Sync

def Entry.held (e : Entry) : Timer.Kind → Option Token
  | .poll => e.pollToken
  | .resume => e.resumeToken

/-- What an entry becomes under a new token, or under none. -/
def Entry.retimed (e : Entry) : Option (Timer.Kind × Token) → Entry
  | none => { e with pollToken := none, resumeToken := none, status := .idle }
  | some (.poll, k) => { e with pollToken := some k, resumeToken := none, status := .polling }
  | some (.resume, k) => { e with pollToken := none, resumeToken := some k, status := .paused }

/-- The token that an entry holds by its status. -/
def Entry.grip (e : Entry) : Option (Timer.Kind × Token) → Prop
  | none => e.status = .idle ∧ e.pollToken = none ∧ e.resumeToken = none
  | some (.poll, k) => e.status = .polling ∧ e.pollToken = some k ∧ e.resumeToken = none
  | some (.resume, k) => e.status = .paused ∧ e.pollToken = none ∧ e.resumeToken = some k

theorem Entry.grip_retimed (e : Entry) (t : Option (Timer.Kind × Token)) :
    (e.retimed t).grip t := by
  match t with
  | none => exact ⟨rfl, rfl, rfl⟩
  | some (.poll, k) => exact ⟨rfl, rfl, rfl⟩
  | some (.resume, k) => exact ⟨rfl, rfl, rfl⟩

@[simp] theorem Entry.errors_retimed (e : Entry) (t : Option (Timer.Kind × Token)) :
    (e.retimed t).errors = e.errors := by
  match t with
  | none => rfl
  | some (.poll, k) => rfl
  | some (.resume, k) => rfl

theorem Entry.grip.tokens {e : Entry} {t : Option (Timer.Kind × Token)} (h : e.grip t) :
    e.pollToken.toList ++ e.resumeToken.toList = (t.map (·.2)).toList := by
  match t, h with
  | none, ⟨_, hp, hr⟩ => simp [hp, hr]
  | some (.poll, k), ⟨_, hp, hr⟩ => simp [hp, hr]
  | some (.resume, k), ⟨_, hp, hr⟩ => simp [hp, hr]

theorem Entry.grip.held_iff {e : Entry} {t : Option (Timer.Kind × Token)} (h : e.grip t)
    (kind : Timer.Kind) (k : Token) : e.held kind = some k ↔ t = some (kind, k) := by
  match t, h with
  | none, ⟨_, hp, hr⟩ => cases kind <;> simp [held, hp, hr]
  | some (.poll, k), ⟨_, hp, hr⟩ => cases kind <;> simp [held, hp, hr]
  | some (.resume, k), ⟨_, hp, hr⟩ => cases kind <;> simp [held, hp, hr]

namespace Client

/-- Takes the token of an entry away, which is cancelled, and gives it a new one, or none. -/
def retime (c : Client) (id : EntryId) (kind : Option Timer.Kind) : Client :=
  { c with
    issued := c.issued ++ kind.toList.map fun _ => id
    cancelled := c.cancelled ++ (c.entry? id).toList.flatMap fun e =>
      e.pollToken.toList ++ e.resumeToken.toList
    entries := c.entries.modify id fun e => e.retimed (kind.map fun k => (k, c.issued.length)) }

theorem cancelled_both (c : Client) (e : Option Entry) :
    ((c.cancel (e.bind (·.pollToken))).cancel (e.bind (·.resumeToken))).cancelled =
      c.cancelled ++ e.toList.flatMap fun e => e.pollToken.toList ++ e.resumeToken.toList := by
  cases e <;> simp [cancel]

theorem stopEntry_eq (c : Client) (id : EntryId) : c.stopEntry id = c.retime id none := by
  simp only [stopEntry, retime, modifyEntry, cancel, Option.toList_none, List.map_nil,
    List.append_nil, Option.map_none]
  congr 1
  exact cancelled_both c (c.entry? id)

theorem unchanged_stopEntries (ids : List EntryId) (c : Client) :
    (stopEntries ids c).tasks = c.tasks ∧ (stopEntries ids c).taskCount = c.taskCount ∧
      (stopEntries ids c).queue = c.queue ∧ (stopEntries ids c).signs = c.signs := by
  induction ids generalizing c with
  | nil => exact ⟨rfl, rfl, rfl, rfl⟩
  | cons id ids ih =>
    have h := ih (c.stopEntry id)
    rw [stopEntry_eq] at h
    rw [stopEntries, stopEntry_eq]
    exact h

theorem beginStart_eq (c : Client) (id : EntryId) :
    c.beginStart id = (c.issued.length, c.retime id (some .poll)) := by
  simp only [beginStart, retime, modifyEntry, cancel, token, Option.toList_some, List.map_cons,
    List.map_nil, Option.map_some]
  congr 2
  exact cancelled_both c (c.entry? id)

theorem paused_eq (c : Client) (id : EntryId) :
    (((c.stopEntry id).token id).2.modifyEntry id fun e =>
      { e with status := .paused, resumeToken := some ((c.stopEntry id).token id).1 }) =
      c.retime id (some .resume) := by
  rw [stopEntry_eq]
  simp only [retime, modifyEntry, token, Option.toList_none, List.map_nil, List.append_nil,
    Option.map_none, Option.toList_some, List.map_cons, Option.map_some]
  congr 1
  rw [List.modify_modify_eq]
  rfl

theorem pause_eq (c : Client) (id : EntryId) (next : List Next) :
    c.pause id next =
      match Client.entry? (c.retime id (some .resume)) id with
      | none => (c.retime id (some .resume), .goesOn next)
      | some e =>
        match c.settings.resumeDelay? e.errors with
        | none => (c.retime id (some .resume), .ends)
        | some delay =>
          (((c.retime id (some .resume)).log (.pausing e.server delay)).spawn
            [.beginPause id c.issued.length delay e.server.name], .goesOn next) := by
  have hp := paused_eq c id
  have hk : ((c.stopEntry id).token id).1 = c.issued.length := by
    simp [stopEntry_eq, token, retime]
  rw [hk] at hp
  simp only [pause, hk, hp]
  rfl

/-! What holds of the tokens at all times -/

/-- An entry holds the tokens that its status asks for, which were made for it. Of the tokens that
    were made for it, this one is not cancelled. -/
structure Timed (c : Client) (id : EntryId) (e : Entry) (t : Option (Timer.Kind × Token)) :
    Prop where
  grip : e.grip t
  own : ∀ k, t.map (·.2) = some k → c.issued[k]? = some id
  cancelled_iff : ∀ k, c.issued[k]? = some id → (k ∈ c.cancelled ↔ t.map (·.2) ≠ some k)

structure Sound (c : Client) : Prop where
  numbered : c.Numbered
  registered : c.Registered
  known : ∀ id ∈ c.mentions, id < c.entries.length
  made : ∀ id ∈ c.issued, id < c.entries.length
  spent : ∀ k ∈ c.cancelled, k < c.issued.length
  timed : ∀ id e, c.entry? id = some e → ∃ t, c.Timed id e t
  single : (c.timers.map (·.token)).Nodup
  owned : ∀ m ∈ c.timers, c.issued[m.token]? = some m.entry
  live : ∀ m ∈ c.timers,
    m.token ∈ c.cancelled ∨ ∃ e, c.entry? m.entry = some e ∧ e.held m.kind = some m.token

theorem mem_cancelled_retime {c : Client} {id : EntryId} {kind : Option Timer.Kind} {k : Token} :
    k ∈ (c.retime id kind).cancelled ↔ k ∈ c.cancelled ∨
      ∃ e, c.entry? id = some e ∧ (e.pollToken = some k ∨ e.resumeToken = some k) := by
  simp [retime, Option.mem_toList]

theorem entry?_retime (c : Client) (id j : EntryId) (kind : Option Timer.Kind) :
    Client.entry? (c.retime id kind) j = (c.entry? j).map fun e =>
      if id = j then e.retimed (kind.map fun k => (k, c.issued.length)) else e :=
  entry?_modifyEntry c id j _

theorem issued_retime_of_lt {c : Client} {id : EntryId} {kind : Option Timer.Kind} {k : Token}
    (h : k < c.issued.length) : (c.retime id kind).issued[k]? = c.issued[k]? :=
  List.getElem?_append_left h

theorem issued_retime {c : Client} {id j : EntryId} {kind : Option Timer.Kind} {k : Token}
    (h : (c.retime id kind).issued[k]? = some j) :
    c.issued[k]? = some j ∨ k = c.issued.length ∧ j = id ∧ kind.isSome := by
  by_cases hk : k < c.issued.length
  · exact .inl ((issued_retime_of_lt hk).symm.trans h)
  · refine .inr ?_
    cases kind with
    | none =>
      simp only [retime, Option.toList_none, List.map_nil, List.append_nil] at h
      exact absurd (List.getElem?_eq_some_iff.1 h).1 hk
    | some kind =>
      obtain ⟨hl, hj⟩ := List.getElem?_eq_some_iff.1 h
      simp only [retime, Option.toList_some, List.map_cons, List.map_nil, List.length_append,
        List.length_cons, List.length_nil] at hl
      have hk : k = c.issued.length := Nat.le_antisymm (Nat.le_of_lt_succ hl) (Nat.not_lt.1 hk)
      subst hk
      refine ⟨rfl, ?_, rfl⟩
      simpa [retime] using hj.symm

theorem Timed.lt {c : Client} {id : EntryId} {e : Entry} {t : Option (Timer.Kind × Token)}
    (h : c.Timed id e t) {k : Token} (hk : t.map (·.2) = some k) : k < c.issued.length :=
  (List.getElem?_eq_some_iff.1 (h.own k hk)).1

theorem Entry.grip.mem_tokens {e : Entry} {t : Option (Timer.Kind × Token)} (h : e.grip t)
    (k : Token) : (e.pollToken = some k ∨ e.resumeToken = some k) ↔ t.map (·.2) = some k := by
  have := congrArg (k ∈ ·) h.tokens
  simpa [Option.mem_toList] using this

section

variable {c : Client} (h : c.Sound)
include h

theorem Sound.issued_of_held {id : EntryId} {e : Entry} (he : c.entry? id = some e) {k : Token}
    (hk : e.pollToken = some k ∨ e.resumeToken = some k) : c.issued[k]? = some id := by
  obtain ⟨t, ht⟩ := h.timed id e he
  exact ht.own k ((Entry.grip.mem_tokens ht.grip k).1 hk)

theorem Sound.spent_retime (id : EntryId) (kind : Option Timer.Kind) :
    ∀ k ∈ (c.retime id kind).cancelled, k < c.issued.length := by
  intro k hk
  rcases mem_cancelled_retime.1 hk with hk | ⟨e, he, hk⟩
  · exact h.spent k hk
  · exact (List.getElem?_eq_some_iff.1 (h.issued_of_held he hk)).1

/-- The entry holds the new token, and those that it held before are cancelled. -/
theorem Sound.timed_retime_self {id : EntryId} {e : Entry} (he : c.entry? id = some e)
    (kind : Option Timer.Kind) :
    (c.retime id kind).Timed id (e.retimed (kind.map fun k => (k, c.issued.length)))
      (kind.map fun k => (k, c.issued.length)) := by
  obtain ⟨t, ht⟩ := h.timed id e he
  refine ⟨e.grip_retimed _, fun k hk => ?_, fun k hk => ?_⟩
  · cases kind with
    | none => simp at hk
    | some kind =>
      obtain rfl : c.issued.length = k := by simpa using hk
      simp [Client.retime]
  · rcases issued_retime hk with hk | ⟨rfl, -, hs⟩
    · have hlt := (List.getElem?_eq_some_iff.1 hk).1
      have hne : (kind.map fun k => (k, c.issued.length)).map (·.2) ≠ some k := by
        cases kind with
        | none => simp
        | some kind => simpa using Nat.ne_of_gt hlt
      -- an old token: it had been cancelled, or the entry has held it until now
      refine iff_of_true (mem_cancelled_retime.2 ?_) hne
      by_cases hc : k ∈ c.cancelled
      · exact .inl hc
      · have htk : t.map (·.2) = some k :=
          Decidable.not_not.1 fun hn => hc ((ht.cancelled_iff k hk).2 hn)
        exact .inr ⟨e, he, (Entry.grip.mem_tokens ht.grip k).2 htk⟩
    · obtain ⟨kind, rfl⟩ := Option.isSome_iff_exists.1 hs
      exact iff_of_false (fun hk => Nat.lt_irrefl _ (h.spent_retime id _ _ hk)) (by simp)

theorem Sound.timed_retime_of_ne {id j : EntryId} (hj : id ≠ j) (kind : Option Timer.Kind)
    {e : Entry} {t : Option (Timer.Kind × Token)} (ht : c.Timed j e t) :
    (c.retime id kind).Timed j e t := by
  refine ⟨ht.grip, fun k hk => ?_, fun k hk => ?_⟩
  · rw [issued_retime_of_lt (ht.lt hk)]
    exact ht.own k hk
  · have hk : c.issued[k]? = some j := by
      rcases issued_retime hk with hk | ⟨-, rfl, -⟩
      · exact hk
      · exact absurd rfl hj
    rw [← ht.cancelled_iff k hk, mem_cancelled_retime]
    refine or_iff_left ?_
    rintro ⟨e', he', hk'⟩
    have hown := h.issued_of_held he' hk'
    rw [hk] at hown
    exact hj (Option.some.inj hown).symm

/-- The timers of the entry lose their tokens, if they had not lost them before. -/
theorem Sound.live_retime (id : EntryId) (kind : Option Timer.Kind) {m : Timer}
    (hm : m ∈ c.timers) :
    m.token ∈ (c.retime id kind).cancelled ∨
      ∃ e, Client.entry? (c.retime id kind) m.entry = some e ∧ e.held m.kind = some m.token := by
  rw [mem_cancelled_retime]
  rcases h.live m hm with hc | ⟨e, he, hk⟩
  · exact .inl (.inl hc)
  · by_cases hj : id = m.entry
    · refine .inl (.inr ⟨e, hj ▸ he, ?_⟩)
      match hkind : m.kind with
      | .poll => exact .inl (by simpa [Entry.held, hkind] using hk)
      | .resume => exact .inr (by simpa [Entry.held, hkind] using hk)
    · refine .inr ⟨e, ?_, hk⟩
      rw [entry?_retime, he]
      simp [hj]

theorem Sound.retime {id : EntryId} (hid : id < c.entries.length) (kind : Option Timer.Kind) :
    (c.retime id kind).Sound := by
  have hlength : c.issued.length ≤ (c.retime id kind).issued.length := by simp [Client.retime]
  have hsize : (c.retime id kind).entries.length = c.entries.length := List.length_modify ..
  refine ⟨⟨h.numbered.nodup, h.numbered.below⟩, ?_, ?_, ?_, ?_, ?_, h.single, ?_, ?_⟩
  · exact fun r hr => hsize ▸ h.registered r hr
  · exact fun j hj => hsize ▸ h.known j hj
  · intro j hj
    rw [hsize]
    rcases List.mem_append.1 hj with hj | hj
    · exact h.made j hj
    · obtain ⟨-, -, rfl⟩ := List.mem_map.1 hj
      exact hid
  · exact fun k hk => Nat.lt_of_lt_of_le (h.spent_retime id kind k hk) hlength
  · intro j e' he'
    rw [entry?_retime] at he'
    obtain ⟨e, he, rfl⟩ := Option.map_eq_some_iff.1 he'
    by_cases hj : id = j
    · subst hj
      rw [if_pos rfl]
      exact ⟨_, h.timed_retime_self he kind⟩
    · rw [if_neg hj]
      obtain ⟨t, ht⟩ := h.timed j e he
      exact ⟨t, h.timed_retime_of_ne hj kind ht⟩
  · intro m hm
    have ho := h.owned m hm
    rw [issued_retime_of_lt (List.getElem?_eq_some_iff.1 ho).1]
    exact ho
  · exact fun m hm => h.live_retime id kind hm

end

end Client
end Harvest.Sync
