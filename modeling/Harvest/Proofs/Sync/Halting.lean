import Harvest.Proofs.Sync.Plans
import Harvest.Proofs.Sync.Runs
/-!
When a server polls and when it does not. A start has it poll, and stops and pauses end that; at the
same time all tokens that were made for it before are cancelled. Nothing else has to do with either.
-/

namespace Harvest.Sync.Client

def IsPolling (c : Client) (id : EntryId) : Prop :=
  (c.account? id).map (·.status) = some .polling

instance (c : Client) (id : EntryId) : Decidable (c.IsPolling id) :=
  inferInstanceAs (Decidable (_ = _))

def Starts (c : Client) (id : EntryId) (a : Act) : Prop := .start id ∈ c.doneBy a

theorem starts_of_resume (c : Client) (k : TaskId) (id : EntryId) (token : Token) (due : Nat)
    (name : String) (next : List Next) :
    c.Starts id (.wake ⟨k, .resume id token due name, next⟩ .go) := by
  simp [Starts, doneBy, heed_resume, doing]

/-- Whether an act stops or pauses an entry. -/
def Halts (c : Client) (id : EntryId) : Act → Prop
  | .wake t s => c.fault? t s = some id ∧ c.Pauses t id
  | a => id ∈ c.halted a

section

variable {c d e : Client} {id : EntryId} {k : TaskId}

theorem Orders.halts_iff {a : Act} {l : List Next} (h : c.Orders a l) :
    c.Halts id a ↔ id ∈ c.halted a := by
  cases a with
  | wake t s => exact absurd rfl (h.host t s)
  | _ => exact .rfl

theorem isPolling_congr (h : d.account? id = c.account? id) : d.IsPolling id ↔ c.IsPolling id := by
  rw [IsPolling, h, IsPolling]

/-! Status -/

theorem isPolling_run {next : List Next} (h : (c.suspend k .turn next).Sound) :
    (run k next c).IsPolling id ↔ .start id ∈ doing k next c ∨ c.IsPolling id := by
  by_cases hs : .start id ∈ doing k next c
  · refine iff_of_true ?_ (.inl hs)
    obtain ⟨token, ht⟩ := account?_run_start h hs
    have hid : id < c.entries.length := by
      refine h.known_of_suspend (List.mem_append_right _ ?_)
      exact List.mem_filterMap.2 ⟨_, mem_of_mem_doing hs, rfl⟩
    obtain ⟨e, he⟩ := exists_entry? hid
    rw [IsPolling, ht, account?, he]
    rfl
  · rw [isPolling_congr (account?_run h hs), or_iff_right hs]

theorem isPolling_stopEntry (c : Client) (j : EntryId) :
    (c.stopEntry j).IsPolling id ↔ c.IsPolling id ∧ j ≠ id := by
  rw [stopEntry_eq, IsPolling, account?_retime, IsPolling]
  cases c.account? id with
  | none => simp
  | some x =>
    by_cases hj : j = id
    · simp [hj, Account.retimed]
    · simp [hj]

theorem isPolling_stopEntries (ids : List EntryId) (c : Client) :
    (stopEntries ids c).IsPolling id ↔ c.IsPolling id ∧ id ∉ ids := by
  induction ids generalizing c with
  | nil => simp [stopEntries]
  | cons j ids ih =>
    rw [stopEntries, ih, isPolling_stopEntry, and_assoc, List.mem_cons, not_or, ne_comm]

theorem isPolling_wake (h : c.Sound) {t : Task} (ht : t ∈ c.tasks) (s : Signal) :
    (c.wake t s).IsPolling id ↔
      c.Starts id (.wake t s) ∨ c.IsPolling id ∧ ¬ c.Halts id (.wake t s) := by
  have hdrop : (c.dropTask t.id).Sound := (h.resume ht).of_suspend
  rw [wake, Halts, Starts]
  cases heq : (c.dropTask t.id).heed t s with
  | none =>
    have hf : (c.dropTask t.id).fault? t s = none := fault?_of_heed_none heq
    have hf : c.fault? t s = none := hf
    simp [doneBy, heq, hf]
  | some b =>
    obtain ⟨hsame, hcount, hpause⟩ :=
      (told_of_heed hdrop.numbered hdrop.registered heq).account id
    have hb : b.1.IsPolling id ↔ c.IsPolling id ∧ ¬ (c.fault? t s = some id ∧ c.Pauses t id) := by
      by_cases hf : c.fault? t s = some id
      · by_cases hp : c.Pauses t id
        · rw [IsPolling, hpause hf hp, Option.map_map]
          refine iff_of_false ?_ fun hn => hn.2 ⟨hf, hp⟩
          simp [Account.retimed]
        · rw [IsPolling, hcount hf hp, Option.map_map, and_iff_left fun hn => hp hn.2]
          rfl
      · rw [isPolling_congr (hsame hf), and_iff_left fun hn => hf hn.1]
        rfl
    have hs := (h.resume ht).heed heq
    obtain ⟨d, course⟩ := b
    rw [doneBy, heq]
    cases course with
    | goesOn next =>
      dsimp only [follow]
      rw [isPolling_run hs, hb]
    | waits w next =>
      have hw : (d.suspend t.id w next).IsPolling id ↔ d.IsPolling id := .rfl
      simpa [follow, hw] using hb
    | ends => simpa [follow] using hb

theorem isPolling_addServer (c : Client) (s : Server) :
    (c.addServer s).IsPolling id ↔ c.IsPolling id := by
  rw [IsPolling, account?, entry?, entries_addServer, List.getElem?_append, IsPolling, account?,
    entry?]
  split
  · rfl
  · rename_i hid
    rw [List.getElem?_eq_none (Nat.not_lt.1 hid)]
    cases hn : [Entry.new s][id - c.entries.length]? with
    | none => rfl
    | some e =>
      obtain rfl : e = Entry.new s := List.mem_singleton.1 (List.mem_of_getElem? hn)
      simp [Entry.account, Entry.new]

/-- A server polls after an act that starts it, and if it did and the act does not halt it. -/
theorem isPolling_after (h : c.Sound) {a : Act} (p : c.Permits a) :
    (c.after a).IsPolling id ↔ c.Starts id a ∨ c.IsPolling id ∧ ¬ c.Halts id a := by
  have hs := step_after h p
  rw [Starts]
  generalize c.after a = d at hs
  cases hs with
  | wake ht => exact isPolling_wake h ht _
  | addServer s =>
    rw [isPolling_addServer]
    simp [doneBy, Halts, halted]
  | execute job =>
    have hsame : (c.spawn [.execute job]).account? id = c.account? id := rfl
    rw [isPolling_congr hsame]
    simp [doneBy, Halts, halted]
  | still ho q _ _ _ _ none =>
    rw [isPolling_congr (q.account id), ho.done, ho.halts_iff, none]
    simp
  | @stops _ queue ids ho _ _ heq =>
    have hsame : { c with queue := queue }.account? id = c.account? id := rfl
    rw [isPolling_stopEntries, isPolling_congr hsame, ho.done, ho.halts_iff, ← heq]
    simp
  | @begins _ d next ho _ q _ hs none =>
    have hsame : { d with taskCount := d.taskCount + 1 }.account? id = c.account? id :=
      q.account id
    rw [ho.done, ho.halts_iff, none, and_iff_left List.not_mem_nil, ← isPolling_congr hsame]
    exact isPolling_run hs

/-! Tokens -/

theorem entry?_of_fault? {t : Task} {s : Signal} (h : c.fault? t s = some id) :
    t.wait.entry? = some id := by
  obtain ⟨k, w, next⟩ := t
  unfold fault? at h
  split at h
  · rename_i hw
    obtain rfl : w = _ := hw
    split at h <;> cases h
    rfl
  · rename_i hw
    obtain rfl : w = _ := hw
    split at h <;> cases h
    rfl
  · rename_i hw
    obtain rfl : w = _ := hw
    split at h
    · split at h <;> cases h
      rfl
    · cases h
  · cases h

/-- A change by which all tokens that were made for an entry are cancelled, or none is. -/
structure Spends (id : EntryId) (P : Prop) (c d : Client) : Prop where
  issued : ∀ (k : Token) (j : EntryId), c.issued[k]? = some j → d.issued[k]? = some j
  cancelled : ∀ k : Token, c.issued[k]? = some id → (k ∈ d.cancelled ↔ k ∈ c.cancelled ∨ P)

variable {P Q : Prop}

theorem Spends.of_eq (issued : d.issued = c.issued) (cancelled : d.cancelled = c.cancelled)
    (h : ¬ P) : Spends id P c d :=
  ⟨fun k j hk => by rwa [issued], fun k _ => by rw [cancelled, or_iff_left h]⟩

theorem Quiet.spends (q : Quiet c d) (h : ¬ P) : Spends id P c d :=
  .of_eq q.issued q.cancelled h

theorem Spends.trans (h : Spends id P c d) (g : Spends id Q d e) : Spends id (P ∨ Q) c e := by
  refine ⟨fun k j hk => g.issued k j (h.issued k j hk), fun k hk => ?_⟩
  rw [g.cancelled k (h.issued k id hk), h.cancelled k hk, or_assoc]

theorem Spends.congr (h : Spends id P c d) (iff : P ↔ Q) : Spends id Q c d :=
  ⟨h.issued, fun k hk => by rw [h.cancelled k hk, iff]⟩

theorem spends_retime (h : c.Sound) {j : EntryId} (hj : j < c.entries.length)
    (kind : Option Timer.Kind) : Spends id (j = id) c (c.retime j kind) := by
  obtain ⟨e, he⟩ := exists_entry? hj
  refine ⟨fun k i hk => ?_, fun k hk => ?_⟩
  · rw [issued_retime_of_lt (List.getElem?_eq_some_iff.1 hk).1, hk]
  · rw [mem_cancelled_retime]
    by_cases hid : j = id
    · subst hid
      obtain ⟨t, ht⟩ := h.timed j e he
      refine iff_of_true ?_ (.inr rfl)
      by_cases hc : k ∈ c.cancelled
      · exact .inl hc
      · have hheld : t.map (·.2) = some k :=
          Decidable.not_not.1 fun hn => hc ((ht.cancelled_iff k hk).2 hn)
        exact .inr ⟨e, he, (Entry.grip.mem_tokens ht.grip k).2 hheld⟩
    · refine or_congr_right (iff_of_false ?_ hid)
      rintro ⟨f, hf, hheld⟩
      have hown := h.issued_of_held hf hheld
      rw [hk] at hown
      exact hid (Option.some.inj hown).symm

theorem spends_pause (h : c.Sound) {j : EntryId} (hj : j < c.entries.length) (next : List Next) :
    Spends id (j = id) c (c.pause j next).1 := by
  have hr : Spends id (j = id) c (c.retime j (some .resume)) := spends_retime h hj _
  rw [pause_eq]
  split
  · exact hr
  · split
    · exact hr
    · exact ⟨hr.issued, hr.cancelled⟩

theorem Told.spends {t : Task} {s : Signal} {a : Client × Course} (h : c.Sound)
    (known : ∀ j, c.fault? t s = some j → j < c.entries.length) (told : c.Told t s a) :
    Spends id (c.fault? t s = some id ∧ c.Pauses t id) c a.1 := by
  have hcount : ∀ j, Spends id False c (c.countError j) := fun j => .of_eq rfl rfl not_false
  cases told with
  | quiet hf q => exact q.spends fun hn => nomatch hf.symm.trans hn.1
  | @counted j d hf hp q =>
    refine ((hcount j).trans (q.spends not_false)).congr (iff_of_false (by simp) fun hn => hp ?_)
    obtain rfl := Option.some.inj (hf.symm.trans hn.1)
    exact hn.2
  | @paused j d hf hp q =>
    have hj : j < d.entries.length := by
      rw [q.size]
      simpa [countError, modifyEntry] using known j hf
    have hd : d.Sound := (h.countError j).quiet q
    refine (((hcount j).trans (q.spends not_false)).trans (spends_pause hd hj t.next)).congr ?_
    rw [hf]
    constructor
    · rintro (hn | rfl)
      · simp at hn
      · exact ⟨rfl, hp⟩
    · rintro ⟨hn, -⟩
      exact .inr (Option.some.inj hn)

theorem spends_run {next : List Next} (h : (c.suspend k .turn next).Sound) :
    Spends id (.start id ∈ doing k next c) c (run k next c) := by
  induction next generalizing c with
  | nil => exact .of_eq rfl rfl List.not_mem_nil
  | cons n rest ih =>
    have hp := h.perform
    have hd : Spends id (n = .start id) c (c.perform k n).1 := by
      have hperforms := h.performs
      generalize (c.perform k n).1 = d at hperforms
      cases hperforms with
      | @start j d q =>
        have hj : j < c.entries.length := h.known_of_suspend (by simp [Task.entries, Next.entry?])
        refine ((spends_retime h.of_suspend hj (some .poll)).trans (q.spends not_false)).congr ?_
        simp
      | timer => exact .of_eq rfl rfl (by simp)
      | quiet hn q => exact q.spends (hn id)
    rw [run, doing]
    generalize c.perform k n = a at hp hd
    obtain ⟨d, p⟩ := a
    cases p with
    | done =>
      refine (hd.trans (ih hp)).congr ?_
      rw [List.mem_cons, eq_comm]
    | waiting w more =>
      refine Spends.congr ⟨hd.issued, hd.cancelled⟩ ?_
      rw [List.mem_singleton, eq_comm]

theorem spends_stopEntries (h : c.Sound) {ids : List EntryId}
    (known : ∀ j ∈ ids, j < c.entries.length) : Spends id (id ∈ ids) c (stopEntries ids c) := by
  induction ids generalizing c with
  | nil => exact .of_eq rfl rfl List.not_mem_nil
  | cons j ids ih =>
    have hj := known j List.mem_cons_self
    have hstop : Spends id (j = id) c (c.stopEntry j) := by
      rw [stopEntry_eq]
      exact spends_retime h hj none
    have hrest : Spends id (id ∈ ids) (c.stopEntry j) (stopEntries ids (c.stopEntry j)) := by
      refine ih (h.stopEntry hj) fun i hi => ?_
      rw [stopEntry_eq]
      simpa [Client.retime] using known i (List.mem_cons_of_mem j hi)
    refine (hstop.trans hrest).congr ?_
    rw [List.mem_cons, eq_comm]

theorem spends_wake (h : c.Sound) {t : Task} (ht : t ∈ c.tasks) (s : Signal) :
    Spends id (c.Halts id (.wake t s) ∨ c.Starts id (.wake t s)) c (c.wake t s) := by
  have hdrop : (c.dropTask t.id).Sound := (h.resume ht).of_suspend
  rw [wake, Halts, Starts]
  cases heq : (c.dropTask t.id).heed t s with
  | none =>
    have hf : (c.dropTask t.id).fault? t s = none := fault?_of_heed_none heq
    have hf : c.fault? t s = none := hf
    exact .of_eq rfl rfl (by simp [doneBy, heq, hf])
  | some b =>
    have known : ∀ j, (c.dropTask t.id).fault? t s = some j →
        j < (c.dropTask t.id).entries.length := by
      intro j hj
      have hw : t.wait.entry? = some j := entry?_of_fault? hj
      exact (h.resume ht).known_of_suspend (by simp [Task.entries, hw])
    have hs := (h.resume ht).heed heq
    have htold : Spends id (c.fault? t s = some id ∧ c.Pauses t id) (c.dropTask t.id) b.1 :=
      (told_of_heed hdrop.numbered hdrop.registered heq).spends hdrop known
    have hb : Spends id (c.fault? t s = some id ∧ c.Pauses t id) c b.1 :=
      ⟨htold.issued, htold.cancelled⟩
    obtain ⟨d, course⟩ := b
    rw [doneBy, heq]
    cases course with
    | goesOn next => exact hb.trans (spends_run hs)
    | waits w next => exact Spends.congr ⟨hb.issued, hb.cancelled⟩ (by simp)
    | ends => exact hb.congr (by simp)

/-- An act that halts a server or starts it takes all its tokens away, and no other act does. -/
theorem spends_after (h : c.Sound) {a : Act} (p : c.Permits a) :
    Spends id (c.Halts id a ∨ c.Starts id a) c (c.after a) := by
  have hs := step_after h p
  rw [Starts]
  generalize c.after a = d at hs
  cases hs with
  | wake ht => exact spends_wake h ht _
  | addServer s =>
    have hsame : (c.addServer s).issued = c.issued ∧ (c.addServer s).cancelled = c.cancelled := by
      unfold addServer
      dsimp only
      split <;> exact ⟨rfl, rfl⟩
    exact .of_eq hsame.1 hsame.2 (by simp [doneBy, Halts, halted])
  | execute job => exact .of_eq rfl rfl (by simp [doneBy, Halts, halted])
  | still ho q _ _ _ _ none =>
    refine q.spends ?_
    rw [ho.done, ho.halts_iff, none]
    simp
  | @stops _ queue ids ho _ known heq =>
    have hq : ({ c with queue := queue }).Sound := h.quiet ((Quiet.refl c).setQueue _)
    have hstops : Spends id (id ∈ ids) { c with queue := queue } _ := spends_stopEntries hq known
    rw [ho.done, ho.halts_iff, ← heq]
    exact Spends.congr ⟨hstops.issued, hstops.cancelled⟩ (by simp)
  | @begins _ d next ho _ q _ hs none =>
    have hd : Spends id False c { d with taskCount := d.taskCount + 1 } :=
      .of_eq q.issued q.cancelled not_false
    refine (hd.trans (spends_run hs)).congr ?_
    rw [ho.done, ho.halts_iff, none]
    simp [undertaking]

end

/-! Runs -/

/-- A server does not poll, exactly if it was not started after it was halted for the last time, or
    ever. -/
theorem not_polling_afterAll {c : Client} (h : Reachable c) {acts : List Act}
    (allows : c.Allows acts) (id : EntryId) :
    ¬ (c.afterAll acts).IsPolling id ↔
      (¬ c.IsPolling id ∧ c.Without (·.Starts id) acts) ∨
      ∃ pre a post, acts = pre ++ a :: post ∧ (c.afterAll pre).Halts id a ∧
        (c.afterAll pre).Without (·.Starts id) (a :: post) := by
  refine latched_iff (I := Reachable) (P := fun d => ¬ d.IsPolling id)
    (S := fun d a => d.Halts id a) (fun d a hd p => ⟨hd.act p, ?_⟩) h allows
  rw [isPolling_after hd.sound p, not_or, not_and_or, not_not, and_comm]

/-- A token is cancelled at the end, exactly if it was so at first or its server was halted or
    started. -/
theorem cancelled_afterAll {c : Client} (h : Reachable c) {acts : List Act} (allows : c.Allows acts)
    {id : EntryId} {k : Token} (own : c.issued[k]? = some id) :
    k ∈ (c.afterAll acts).cancelled ↔ k ∈ c.cancelled ∨
      ∃ pre a post, acts = pre ++ a :: post ∧
        ((c.afterAll pre).Halts id a ∨ (c.afterAll pre).Starts id a) := by
  have without : ∀ (d : Client) (l : List Act), d.Without (fun _ _ => False) l := by
    intro d l
    induction l generalizing d with
    | nil => trivial
    | cons a l ih => exact ⟨not_false, ih _⟩
  have step : ∀ d a, Reachable d ∧ d.issued[k]? = some id → d.Permits a →
      (Reachable (d.after a) ∧ (d.after a).issued[k]? = some id) ∧
        (k ∈ (d.after a).cancelled ↔
          (k ∈ d.cancelled ∨ d.Halts id a ∨ d.Starts id a) ∧ ¬ False) := by
    rintro d a ⟨hd, hk⟩ p
    have hs : Spends id (d.Halts id a ∨ d.Starts id a) d (d.after a) := spends_after hd.sound p
    exact ⟨⟨hd.act p, hs.issued k id hk⟩, by rw [hs.cancelled k hk, and_iff_left not_false]⟩
  have hiff := latched_iff (P := fun d => k ∈ d.cancelled)
    (S := fun d a => d.Halts id a ∨ d.Starts id a) step ⟨h, own⟩ allows
  simpa [without] using hiff

end Harvest.Sync.Client
