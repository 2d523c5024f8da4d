import Harvest.Proofs.Sync.Timers
/-!
Changes that keep the order among the tokens: those that leave the tokens where they are, those that
lose some of them, and those in which a task takes up a token that an entry holds and no other task
carries.
-/

namespace Harvest.Sync.Client

def tokens? (c : Client) (id : EntryId) : Option (Option Token × Option Token × Status) :=
  (c.entry? id).map fun e => (e.pollToken, e.resumeToken, e.status)

theorem Quiet.tokens {c d : Client} (h : Quiet c d) (id : EntryId) :
    d.tokens? id = c.tokens? id := by
  have := congrArg (Option.map fun a : Account => (a.pollToken, a.resumeToken, a.status))
    (h.account id)
  simpa only [account?, tokens?, Option.map_map, Function.comp_def, Entry.account] using this

theorem grip_congr {e f : Entry}
    (h : (f.pollToken, f.resumeToken, f.status) = (e.pollToken, e.resumeToken, e.status))
    (t : Option (Timer.Kind × Token)) : f.grip t ↔ e.grip t := by
  obtain ⟨hp, hr, hs⟩ : f.pollToken = e.pollToken ∧ f.resumeToken = e.resumeToken ∧
    f.status = e.status := by simpa using h
  match t with
  | none => simp only [Entry.grip, hp, hr, hs]
  | some (.poll, k) => simp only [Entry.grip, hp, hr, hs]
  | some (.resume, k) => simp only [Entry.grip, hp, hr, hs]

/-- A change that leaves the tokens where they are. -/
theorem Sound.transfer {c d : Client} (h : c.Sound) (n : d.Numbered)
    (tokens : ∀ id, d.tokens? id = c.tokens? id) (size : d.entries.length = c.entries.length)
    (registry : d.registry = c.registry) (issued : d.issued = c.issued)
    (cancelled : d.cancelled = c.cancelled) (timers : d.timers.Perm c.timers)
    (known : ∀ id ∈ d.mentions, id < c.entries.length) : d.Sound := by
  refine ⟨n, ?_, fun id hid => size ▸ known id hid, ?_, ?_, ?_, ?_, ?_, ?_⟩
  · intro r hr
    exact size ▸ h.registered r (registry ▸ hr)
  · intro id hid
    exact size ▸ h.made id (issued ▸ hid)
  · intro k hk
    exact issued ▸ h.spent k (cancelled ▸ hk)
  · intro id f hf
    have ht := tokens id
    rw [tokens?, hf] at ht
    obtain ⟨e, he, hef⟩ := Option.map_eq_some_iff.1 ht.symm
    obtain ⟨t, htd⟩ := h.timed id e he
    refine ⟨t, (grip_congr hef.symm t).2 htd.grip, ?_, ?_⟩
    · rw [issued]
      exact htd.own
    · rw [issued, cancelled]
      exact htd.cancelled_iff
  · rw [(timers.map _).nodup_iff]
    exact h.single
  · intro m hm
    rw [issued]
    exact h.owned m (timers.mem_iff.1 hm)
  · intro m hm
    rw [cancelled]
    refine (h.live m (timers.mem_iff.1 hm)).imp_right ?_
    rintro ⟨e, he, hk⟩
    have ht := tokens m.entry
    rw [tokens?, tokens?, he] at ht
    obtain ⟨f, hf, hef⟩ := Option.map_eq_some_iff.1 ht
    refine ⟨f, hf, ?_⟩
    obtain ⟨hp, hr, -⟩ : f.pollToken = e.pollToken ∧ f.resumeToken = e.resumeToken ∧
      f.status = e.status := by simpa using hef
    rw [← hk]
    cases m.kind <;> simp [Entry.held, hp, hr]

theorem Sound.quiet {c d : Client} (h : c.Sound) (q : Quiet c d) : d.Sound := by
  refine h.transfer (q.numbered h.numbered) q.tokens q.size q.registry q.issued q.cancelled
    q.timers_perm ?_
  intro id hid
  obtain ⟨xs, hx, hxs⟩ := q.adds
  rcases List.mem_append.1 (hx.mentions_perm.mem_iff.1 hid) with hid | hid
  · exact h.known id hid
  · obtain ⟨t, ht, hid⟩ := List.mem_flatMap.1 hid
    exact (hxs t ht).known hid

theorem Sound.countError {c : Client} (h : c.Sound) (id : EntryId) : (c.countError id).Sound := by
  refine h.transfer ⟨h.numbered.nodup, h.numbered.below⟩ ?_ (List.length_modify ..) rfl rfl rfl
    (.refl _) h.known
  intro j
  rw [tokens?, Client.countError, entry?_modifyEntry, Option.map_map, tokens?]
  congr 1
  funext e
  by_cases hj : id = j <;> simp [hj]

/-- A token that an entry holds and no task carries. -/
structure Spare (c : Client) (m : Timer) : Prop where
  fresh : m.token ∉ c.timers.map (·.token)
  own : c.issued[m.token]? = some m.entry
  held : ∃ e, c.entry? m.entry = some e ∧ e.held m.kind = some m.token

/-- Other tasks under the same books: tokens may get lost, and a spare one may be taken up. -/
theorem Sound.retask {c d : Client} (h : c.Sound) (n : d.Numbered)
    (entries : d.entries = c.entries) (registry : d.registry = c.registry)
    (issued : d.issued = c.issued) (cancelled : d.cancelled = c.cancelled)
    (known : ∀ id ∈ d.mentions, id < c.entries.length) {m : Option Timer}
    (spare : ∀ x ∈ m, c.Spare x) {l : List Timer} (perm : d.timers.Perm l)
    (sub : l.Sublist (m.toList ++ c.timers)) : d.Sound := by
  have hmem : ∀ x ∈ d.timers, c.Spare x ∨ x ∈ c.timers := by
    intro x hx
    rcases List.mem_append.1 (sub.subset (perm.mem_iff.1 hx)) with hx | hx
    · exact .inl (spare x (Option.mem_toList.1 hx))
    · exact .inr hx
  have hentry : ∀ id, d.entry? id = c.entry? id := fun id => by rw [Client.entry?, entries, entry?]
  refine ⟨n, ?_, entries ▸ known, ?_, ?_, ?_, ?_, ?_, ?_⟩
  · intro r hr
    exact entries ▸ h.registered r (registry ▸ hr)
  · rw [issued, entries]
    exact h.made
  · rw [issued, cancelled]
    exact h.spent
  · intro id e he
    obtain ⟨t, ht⟩ := h.timed id e (hentry id ▸ he)
    exact ⟨t, ht.grip, issued ▸ ht.own, by rw [issued, cancelled]; exact ht.cancelled_iff⟩
  · rw [(perm.map _).nodup_iff]
    refine (sub.map _).nodup ?_
    cases m with
    | none => exact h.single
    | some x => simpa using ⟨by simpa using (spare x rfl).fresh, h.single⟩
  · intro x hx
    rw [issued]
    rcases hmem x hx with hx | hx
    · exact hx.own
    · exact h.owned x hx
  · intro x hx
    rw [cancelled, hentry]
    rcases hmem x hx with hx | hx
    · exact .inr hx.held
    · exact h.live x hx

theorem Sound.of_suspend {c : Client} {k : TaskId} {w : Wait} {next : List Next}
    (h : (c.suspend k w next).Sound) : c.Sound := by
  refine h.retask h.numbered.of_suspend rfl rfl rfl rfl ?_ (m := none) (by simp) (.refl _) ?_
  · exact fun id hid => h.known id (by simp [hid])
  · simp

theorem Sound.known_of_suspend {c : Client} {k : TaskId} {w : Wait} {next : List Next}
    (h : (c.suspend k w next).Sound) {id : EntryId} (hid : id ∈ Task.entries ⟨k, w, next⟩) :
    id < c.entries.length :=
  h.known id (by simp [hid])

theorem Numbered.resuspend {c : Client} {k : TaskId} {w : Wait} {next : List Next}
    (h : (c.suspend k w next).Numbered) (v : Wait) (more : List Next) :
    (c.suspend k v more).Numbered := by
  constructor
  · simpa [suspend] using h.nodup
  · have hb := h.below
    simp only [suspend, List.mem_append, List.mem_singleton] at hb ⊢
    rintro t (ht | rfl)
    · exact hb t (.inl ht)
    · exact hb ⟨k, w, next⟩ (.inr rfl)

theorem Sound.resuspend {c : Client} {k : TaskId} {w v : Wait} {next more : List Next}
    (h : (c.suspend k w next).Sound)
    (known : ∀ id ∈ Task.entries ⟨k, v, more⟩, id < c.entries.length)
    (sub : (Task.timers ⟨k, v, more⟩).Sublist (Task.timers ⟨k, w, next⟩)) :
    (c.suspend k v more).Sound := by
  refine h.retask (h.numbered.resuspend v more) rfl rfl rfl rfl ?_ (m := none) (by simp) (.refl _)
    ?_
  · intro id hid
    rw [mentions_suspend] at hid
    rcases List.mem_append.1 hid with hid | hid
    · exact h.known id (by simp [hid])
    · exact known id hid
  · simpa using sub

theorem Sound.takeUp {c : Client} {k : TaskId} {w v : Wait} {next more : List Next}
    (h : (c.suspend k w next).Sound)
    (known : ∀ id ∈ Task.entries ⟨k, v, more⟩, id < c.entries.length) {m : Timer}
    (spare : (c.suspend k w next).Spare m)
    (perm : (Task.timers ⟨k, v, more⟩).Perm (m :: Task.timers ⟨k, w, next⟩)) :
    (c.suspend k v more).Sound := by
  refine h.retask (h.numbered.resuspend v more) rfl rfl rfl rfl ?_ (m := some m)
    (by rintro x ⟨⟩; exact spare) (l := m :: (c.timers ++ Task.timers ⟨k, w, next⟩)) ?_ (by simp)
  · intro id hid
    rw [mentions_suspend] at hid
    rcases List.mem_append.1 hid with hid | hid
    · exact h.known id (by simp [hid])
    · exact known id hid
  · rw [timers_suspend]
    exact (perm.append_left _).trans List.perm_middle

theorem Sound.spawn {c : Client} (h : c.Sound) {n : Next}
    (known : ∀ id, n.entry? = some id → id < c.entries.length)
    (spare : ∀ m, n.timer? = some m → c.Spare m) : (c.spawn [n]).Sound := by
  have hx := Adds.spawn c [n]
  refine h.retask (hx.numbered h.numbered) rfl rfl rfl rfl ?_ (m := n.timer?) spare
    (l := n.timer?.toList ++ c.timers) ?_ (.refl _)
  · intro id hid
    rcases List.mem_append.1 (hx.mentions_perm.mem_iff.1 hid) with hid | hid
    · exact h.known id hid
    · refine known id ?_
      simpa [Task.entries, Wait.entry?, eq_comm] using hid
  · refine hx.timers_perm.trans ?_
    refine (List.perm_append_comm).trans ?_
    cases ht : n.timer? <;> simp [Task.timers, Wait.timer?, ht]

/-- The token of a new start or a pause is spare at first. -/
theorem Sound.spare_retime {c : Client} (h : c.Sound) {id : EntryId} {e : Entry}
    (he : c.entry? id = some e) (kind : Timer.Kind) :
    (c.retime id (some kind)).Spare ⟨kind, id, c.issued.length⟩ := by
  constructor
  · intro hm
    obtain ⟨m, hm, heq⟩ := List.mem_map.1 hm
    have hlt := (List.getElem?_eq_some_iff.1 (h.owned m hm)).1
    rw [heq] at hlt
    exact Nat.lt_irrefl _ hlt
  · simp [Client.retime]
  · refine ⟨e.retimed (some (kind, c.issued.length)), ?_, ?_⟩
    · rw [entry?_retime, he]
      simp
    · exact ((e.grip_retimed _).held_iff kind _).2 rfl

end Harvest.Sync.Client
