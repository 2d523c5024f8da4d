import Harvest.Proofs.Sync.Runs
import Harvest.Proofs.Sync.Registry
/-!
The tokens of an entry, and the tasks that hold them, at all times. A pause hands the token of its
resume to a task of its own, unless its length exceeds every delay. No other task has anything to do
with such tokens, and while the entry is paused under the token, its task waits.
-/

/-! What comes after a pause -/

namespace Harvest.Sync

/-- Whether a task is there to end a pause, and for nothing else. -/
def Task.Resumes (t : Task) (id : EntryId) (token : Token) : Prop :=
  (t.wait = .turn ∧ ∃ delay name, t.next = [.beginPause id token delay name]) ∨
    (t.next = [] ∧ ∃ due name, t.wait = .resume id token due name)

/-- Whether a task has nothing else to do if it has to do with the end of a pause. -/
def Task.Single (t : Task) : Prop :=
  ∀ id token, ⟨.resume, id, token⟩ ∈ t.timers → t.Resumes id token

theorem Task.mem_timers {t : Task} {m : Timer} :
    m ∈ t.timers ↔ t.wait.timer? = some m ∨ ∃ n ∈ t.next, n.timer? = some m := by
  simp [Task.timers]

theorem Task.Resumes.mem_timers {t : Task} {id : EntryId} {token : Token}
    (h : t.Resumes id token) : ⟨.resume, id, token⟩ ∈ t.timers := by
  rcases h with ⟨-, delay, name, hn⟩ | ⟨-, due, name, hw⟩
  · simp [Task.timers, hn, Next.timer?]
  · simp [Task.timers, hw, Wait.timer?]

theorem Task.single_asGranted {t u : Task} (h : t.asGranted = u.asGranted) (hu : u.Single) :
    t.Single := by
  have hnext : t.next = u.next := by
    rw [← Task.asGranted_next, h, Task.asGranted_next]
  intro id token hm
  have hm : ⟨.resume, id, token⟩ ∈ u.timers := by
    rw [← Task.timers_asGranted, ← h, Task.timers_asGranted]
    exact hm
  obtain ⟨k, w, next⟩ := t
  obtain ⟨j, v, rest⟩ := u
  obtain rfl : next = rest := hnext
  have hw : w.asGranted = v.asGranted := congrArg Task.wait h
  rcases hu id token hm with ⟨hv, hn⟩ | ⟨hn, due, name, hv⟩
  · obtain rfl : v = .turn := hv
    rcases Wait.eq_of_asGranted hw with htu | ⟨_, _, hg⟩
    · exact .inl ⟨htu, hn⟩
    · cases hg
  · obtain rfl : v = .resume id token due name := hv
    rcases Wait.eq_of_asGranted hw with htu | ⟨_, _, hg⟩
    · exact .inr ⟨hn, due, name, htu⟩
    · cases hg

namespace Client

/-! Tokens of resumes -/

section

variable {c : Client} {k : TaskId} {n : Next} {rest : List Next} {m : Timer}

theorem Performs.mem_timers {d : Client} (h : c.Performs n d) (hm : m.kind = .resume) :
    m ∈ d.timers ↔ m ∈ c.timers := by
  cases h with
  | start q => exact q.timers_perm.mem_iff
  | @timer id token =>
    have hne : m ≠ ⟨.poll, id, token⟩ := fun he => by simp [he] at hm
    simp [timers, Client.spawn, Task.timers, Wait.timer?, Next.timer?, hne]
  | quiet _ q => exact q.timers_perm.mem_iff

theorem mem_timers_perform (h : (c.suspend k .turn (n :: rest)).Sound) (hm : m.kind = .resume) :
    m ∈ ((c.perform k n).1.resting k rest (c.perform k n).2).timers ↔
      m ∈ (c.suspend k .turn (n :: rest)).timers := by
  rw [timers_resting, timers_suspend, Task.timers, filterMap_cons_toList]
  simp only [List.mem_append, h.performs.mem_timers hm, (rests_perform c k n).resume_iff hm]
  simp [Wait.timer?]

end

theorem mem_timers_run {k : TaskId} {next : List Next} {c : Client}
    (h : (c.suspend k .turn next).Sound) {m : Timer} (hm : m.kind = .resume) :
    m ∈ (run k next c).timers ↔ m ∈ (c.suspend k .turn next).timers := by
  induction next generalizing c with
  | nil => simp [run, Task.timers, Wait.timer?]
  | cons n rest ih =>
    have hp := h.perform
    have ht := mem_timers_perform h hm
    rw [run]
    generalize c.perform k n = a at hp ht
    obtain ⟨d, p⟩ := a
    cases p with
    | done => exact (ih hp).trans ht
    | waiting w more => exact ht

/-! Tasks that end pauses -/

def Singles (c : Client) : Prop := ∀ t ∈ c.tasks, t.Single

theorem Fresh.single {t : Task} (h : Fresh t) : t.Single := by
  intro id token hm
  cases h with
  | @pause k j token' delay name =>
    obtain ⟨rfl, rfl⟩ : id = j ∧ token = token' := by
      simpa [Task.timers, Wait.timer?, Next.timer?] using hm
    exact .inl ⟨rfl, delay, name, rfl⟩
  | _ => simp [Task.timers, Wait.timer?, Next.timer?] at hm

theorem Rests.single {c : Client} {k : TaskId} {n : Next} {rest : List Next} {w : Wait}
    {more : List Next} (h : c.Rests n (.waiting w more))
    (hs : Task.Single ⟨k, .turn, n :: rest⟩) : Task.Single ⟨k, w, more ++ rest⟩ := by
  intro id token hm
  have hm : ⟨.resume, id, token⟩ ∈ Task.timers ⟨k, .turn, n :: rest⟩ := by
    have hr := h.resume_iff (m := ⟨.resume, id, token⟩) rfl
    simp only [Progress.timers, List.mem_append] at hr
    simp only [Task.timers, List.filterMap_append, List.mem_append, ← or_assoc, hr] at hm
    simpa [Task.timers, filterMap_cons_toList, Wait.timer?] using hm
  rcases hs id token hm with ⟨-, delay, name, hn⟩ | ⟨hn, -⟩
  · obtain ⟨rfl, rfl⟩ : n = .beginPause id token delay name ∧ rest = [] := by simpa using hn
    cases h with
    | beginPause => exact .inr ⟨rfl, _, _, rfl⟩
    | poll _ hn => simp at hn
    | submission _ hd => cases hd
  · cases hn

theorem single_tail {k : TaskId} {n : Next} {rest : List Next}
    (hs : Task.Single ⟨k, .turn, n :: rest⟩) : Task.Single ⟨k, .turn, rest⟩ := by
  intro id token hm
  have hr : ∃ x ∈ rest, x.timer? = some ⟨.resume, id, token⟩ := by
    simpa [Task.timers, Wait.timer?] using hm
  obtain ⟨x, hx, hxm⟩ := hr
  rcases hs id token (Task.mem_timers.2 (.inr ⟨x, List.mem_cons_of_mem n hx, hxm⟩)) with
    ⟨-, delay, name, hn⟩ | ⟨hn, -⟩
  · obtain ⟨-, rfl⟩ : n = .beginPause id token delay name ∧ rest = [] := by simpa using hn
    cases hx
  · cases hn

/-! What a task is told -/

theorem Arises.timer? {c : Client} {t : Task} {s : Signal} {n : Next} (h : c.Arises t s n)
    {m : Timer} (hm : m.kind = .resume) : n.timer? ≠ some m := by
  cases h <;> rintro ⟨⟩
  cases hm

/-- A task that has nothing to do with the ends of pauses has nothing to do with them when it is
    told something. -/
theorem mem_timers_resumed {c : Client} {t : Task} {s : Signal} {a : Client × Course}
    (h : c.heed t s = some a) {m : Timer} (hm : m.kind = .resume)
    (ht : ∀ n ∈ t.next, n.timer? ≠ some m) :
    m ∈ (a.1.resumed t.id a.2).timers ↔ m ∈ a.1.timers := by
  have hplan : ∀ n ∈ a.2.plan, n.timer? ≠ some m := by
    intro n hn
    rcases planned_of_heed h hn with hn | hn
    · exact ht n hn
    · exact hn.timer? hm
  have hwait : ∀ w, a.2.wait? = some w → w.timer? = none := fun w hw =>
    (onward_of_heed h hw).timer?
  obtain ⟨d, course⟩ := a
  cases course with
  | goesOn next =>
    have hno : ¬ ∃ n ∈ next, n.timer? = some m := fun ⟨n, hn, hnm⟩ => hplan n hn hnm
    simp [resumed, Task.mem_timers, Wait.timer?, hno]
  | waits w next =>
    have hno : ¬ ∃ n ∈ next, n.timer? = some m := fun ⟨n, hn, hnm⟩ => hplan n hn hnm
    simp [resumed, Task.mem_timers, hwait w rfl, hno]
  | ends => exact .rfl

/-- A pause gives the token of its resume to a new task, unless its length exceeds every delay. -/
theorem mem_timers_pause (c : Client) (id : EntryId) (next : List Next) {m : Timer} :
    m ∈ (c.pause id next).1.timers ↔ m ∈ c.timers ∨ m = ⟨.resume, id, c.issued.length⟩ ∧
      ∃ x, c.account? id = some x ∧ (c.settings.resumeDelay? x.errors).isSome := by
  have hspawn : ∀ (d : Client) (delay : Nat) (name : String),
      m ∈ (d.spawn [.beginPause id c.issued.length delay name]).timers ↔
        m ∈ d.timers ∨ m = ⟨.resume, id, c.issued.length⟩ := by
    simp [timers, Client.spawn, Task.timers, Wait.timer?, Next.timer?]
  rw [pause_eq, entry?_retime, account?]
  cases he : c.entry? id with
  | none => exact (or_iff_left (by simp)).symm
  | some e =>
    simp only [Option.map_some, if_true, Entry.errors_retimed]
    split <;> rename_i hdelay
    · refine (or_iff_left ?_).symm
      simp [Entry.account, hdelay]
    · refine (hspawn _ _ _).trans (or_congr .rfl ?_)
      simp [Entry.account, hdelay]

/-! Pauses -/

/-- Whether an entry is paused under a token. -/
def Paused (c : Client) (id : EntryId) (k : Token) : Prop :=
  ∃ x, c.account? id = some x ∧ x.status = .paused ∧ x.resumeToken = some k

/-- Whether a task is there that ends the pause under a token. -/
def Awaited (c : Client) (id : EntryId) (k : Token) : Prop := ⟨.resume, id, k⟩ ∈ c.timers

/-- What is known of a pause after an act: it was there before and nothing has happened to its
    resume, or it begins, and is awaited unless its length exceeds every delay. -/
inductive Goes (c d : Client) (id : EntryId) (k : Token) : Prop
  | on : c.Paused id k → (d.Awaited id k ↔ c.Awaited id k) → Goes c d id k
  | begins {y : Account} : c.issued.length ≤ k → d.account? id = some y →
      (d.Awaited id k ↔ (c.settings.resumeDelay? y.errors).isSome) → Goes c d id k

theorem mem_timers_follow {c : Client} {k : TaskId} {course : Course}
    (h : (c.resumed k course).Sound) {m : Timer} (hm : m.kind = .resume) :
    m ∈ (c.follow k course).timers ↔ m ∈ (c.resumed k course).timers := by
  cases course with
  | goesOn next => exact mem_timers_run h hm
  | waits w next => exact .rfl
  | ends => exact .rfl

theorem Sound.not_cancelled {c : Client} (h : c.Sound) {id : EntryId} {k : Token}
    (hp : c.Paused id k) : k ∉ c.cancelled := by
  obtain ⟨x, hx, -, hk⟩ := hp
  obtain ⟨e, he, rfl⟩ := Option.map_eq_some_iff.1 hx
  obtain ⟨t, ht⟩ := h.timed id e he
  have hheld : t.map (·.2) = some k := (Entry.grip.mem_tokens ht.grip k).1 (.inr hk)
  exact fun hc => (ht.cancelled_iff k (ht.own k hheld)).1 hc hheld

section

variable {c : Client} {t : Task} {s : Signal} {a : Client × Course} {id : EntryId} {k : Token}
  {y : Account}

theorem goes_of_resumes (h : c.Sound) (p : c.Ripe t.wait s)
    (heq : (c.dropTask t.id).heed t s = some a) {i : EntryId} {j : Token} (ht : t.Resumes i j)
    (hd : ∀ next, a.2 = .goesOn next → .start id ∉ doing t.id next a.1)
    (ha : a.1.account? id = some y) (hs : y.status = .paused) (hk : y.resumeToken = some k)
    (hmem : ⟨.resume, id, k⟩ ∈ c.timers ↔
      ⟨.resume, id, k⟩ ∈ (c.dropTask t.id).timers ∨ ⟨.resume, id, k⟩ ∈ t.timers) :
    c.Paused id k ∧ ((a.1.resumed t.id a.2).Awaited id k ↔ c.Awaited id k) := by
  obtain ⟨n, w, next⟩ := t
  rcases ht with ⟨hw, delay, name, hn⟩ | ⟨hn, due, name, hw⟩
  · obtain rfl : w = .turn := hw
    cases heeds_of_heed heq with
    | turn =>
      refine ⟨⟨y, ha, hs, hk⟩, ?_⟩
      rw [Awaited, Awaited, hmem, resumed, timers_suspend, List.mem_append]
  · obtain rfl : w = .resume i j due name := hw
    obtain rfl : next = [] := hn
    cases heeds_of_heed heq with
    | resume =>
      -- the task is about to start the entry of its own resume, so that the pause is another one's
      have hne : id ≠ i := fun hi => hd _ rfl (by simp [doing, hi])
      refine ⟨⟨y, ha, hs, hk⟩, ?_⟩
      rw [Awaited, Awaited, hmem]
      simp [resumed, Task.mem_timers, Wait.timer?, Next.timer?, Ne.symm hne]
      rfl
    | resumeCancelled =>
      have hp : c.Paused id k := ⟨y, ha, hs, hk⟩
      refine ⟨hp, ?_⟩
      -- its own token is cancelled, and the one of a pause is not
      have hne : k ≠ j := fun hj => h.not_cancelled hp (hj ▸ p)
      rw [Awaited, Awaited, hmem]
      simp [resumed, Task.mem_timers, Wait.timer?, Ne.symm hne]

theorem goes_of_told (h : c.Sound) (ht : c.Told t s a) (ha : a.1.account? id = some y)
    (hs : y.status = .paused) (hk : y.resumeToken = some k) : Goes c a.1 id k := by
  obtain ⟨hsame, hcount, hpause⟩ := ht.account id
  have hother : c.fault? t s ≠ some id → c.Paused id k := fun hf =>
    ⟨y, (hsame hf).symm.trans ha, hs, hk⟩
  cases ht with
  | quiet hf q => exact .on (hother (by simp [hf])) q.timers_perm.mem_iff
  | @counted j d hf hp q =>
    refine .on ?_ q.timers_perm.mem_iff
    by_cases hj : j = id
    · subst hj
      obtain ⟨x, hx, rfl⟩ := Option.map_eq_some_iff.1 ((hcount hf hp).symm.trans ha)
      exact ⟨x, hx, hs, hk⟩
    · exact hother (by simpa [hf] using hj)
  | @paused j b hf hp q =>
    have hissued : b.issued.length = c.issued.length := by rw [q.issued]; rfl
    have hsettings : b.settings = c.settings := q.settings
    have hb : ∀ x, c.account? j = some x → b.account? j = some x.failed := by
      intro x hx
      rw [q.account, account?_countError, hx]
      simp
    have hmem : ⟨.resume, id, k⟩ ∈ b.timers ↔ ⟨.resume, id, k⟩ ∈ c.timers :=
      q.timers_perm.mem_iff
    by_cases hj : j = id
    · subst hj
      obtain ⟨x, hx, rfl⟩ := Option.map_eq_some_iff.1 ((hpause hf hp).symm.trans ha)
      obtain rfl : c.issued.length = k := by simpa [Account.retimed] using hk
      refine .begins (Nat.le_refl _) ha ?_
      have hnot : ⟨.resume, j, c.issued.length⟩ ∉ c.timers := fun hm =>
        Nat.lt_irrefl _ (List.getElem?_eq_some_iff.1 (h.owned _ hm)).1
      rw [Awaited, mem_timers_pause, hmem, hb x hx, hissued, hsettings]
      simp [hnot, Account.retimed]
    · refine .on (hother (by simpa [hf] using hj)) ?_
      rw [Awaited, mem_timers_pause, hmem]
      exact or_iff_left (by simp [Ne.symm hj])

end

theorem mem_timers_dropTask {c : Client} (h : c.Sound) {t : Task} (ht : t ∈ c.tasks) {m : Timer} :
    m ∈ c.timers ↔ m ∈ (c.dropTask t.id).timers ∨ m ∈ t.timers := by
  have hp := (h.numbered.tasks_perm ht).flatMap_right Task.timers
  rw [timers, hp.mem_iff, List.flatMap_cons, List.mem_append, or_comm]
  rfl

theorem goes_wake {c : Client} (h : c.Sound) (hc : c.Singles) {t : Task} (ht : t ∈ c.tasks)
    {s : Signal} (p : c.Ripe t.wait s) {id : EntryId} {k : Token}
    (hp : (c.wake t s).Paused id k) : Goes c (c.wake t s) id k := by
  have hdrop : (c.dropTask t.id).Sound := (h.resume ht).of_suspend
  rw [wake] at hp ⊢
  cases heq : (c.dropTask t.id).heed t s with
  | none =>
    rw [heq] at hp
    exact .on hp .rfl
  | some a =>
    rw [heq] at hp
    obtain ⟨y, hy, hs, hk⟩ := hp
    have hsound := (h.resume ht).heed heq
    obtain ⟨hd, ha⟩ := account?_follow_of_ne hsound hy (by simp [hs])
    have hfollow : ((a.1.follow t.id a.2).Awaited id k ↔ (a.1.resumed t.id a.2).Awaited id k) :=
      mem_timers_follow hsound rfl
    have hmem : c.Awaited id k ↔ (c.dropTask t.id).Awaited id k ∨ ⟨.resume, id, k⟩ ∈ t.timers :=
      mem_timers_dropTask h ht
    by_cases hr : ∃ i j, t.Resumes i j
    · obtain ⟨i, j, hr⟩ := hr
      obtain ⟨hold, hiff⟩ := goes_of_resumes h p heq hr hd ha hs hk hmem
      exact .on hold (hfollow.trans hiff)
    · have hnone : ∀ i j, ⟨.resume, i, j⟩ ∉ t.timers := fun i j hm =>
        hr ⟨i, j, hc t ht i j hm⟩
      have hres : (a.1.resumed t.id a.2).Awaited id k ↔ a.1.Awaited id k :=
        mem_timers_resumed heq rfl fun n hn hm => hnone id k (Task.mem_timers.2 (.inr ⟨n, hn, hm⟩))
      have hsame : c.Awaited id k ↔ (c.dropTask t.id).Awaited id k :=
        hmem.trans (or_iff_left (hnone id k))
      have htold := told_of_heed hdrop.numbered hdrop.registered heq
      cases goes_of_told hdrop htold ha hs hk with
      | on hold hiff => exact .on hold ((hfollow.trans hres).trans (hiff.trans hsame.symm))
      | begins hlen hz hiff =>
        obtain rfl := Option.some.inj (ha.symm.trans hz)
        exact .begins hlen hy ((hfollow.trans hres).trans hiff)

/-! Acts -/

theorem goes_run {c d : Client} {n : TaskId} {next : List Next} (h : (d.suspend n .turn next).Sound)
    (hnext : ∀ x ∈ next, x.timer? = none) (haccount : ∀ id, d.account? id = c.account? id)
    (htimers : d.timers.Perm c.timers) {id : EntryId} {k : Token}
    (hp : (run n next d).Paused id k) : Goes c (run n next d) id k := by
  obtain ⟨y, hy, hs, hk⟩ := hp
  obtain ⟨-, ha⟩ := account?_run_of_ne h hy (by simp [hs])
  refine .on ⟨y, (haccount id).symm.trans ha, hs, hk⟩ ?_
  rw [Awaited, mem_timers_run h rfl, timers_suspend, List.mem_append, htimers.mem_iff]
  refine or_iff_left ?_
  simp only [Task.mem_timers, Wait.timer?]
  rintro (hm | ⟨x, hx, hm⟩)
  · cases hm
  · cases (hnext x hx).symm.trans hm

theorem paused_of_stopEntry {c : Client} {i id : EntryId} {k : Token}
    (hp : (c.stopEntry i).Paused id k) : c.Paused id k := by
  obtain ⟨y, hy, hs, hk⟩ := hp
  rw [stopEntry_eq, account?_retime] at hy
  obtain ⟨x, hx, rfl⟩ := Option.map_eq_some_iff.1 hy
  by_cases hi : i = id
  · simp [hi, Account.retimed] at hs
  · simp only [if_neg hi] at hs hk
    exact ⟨x, hx, hs, hk⟩

theorem paused_of_stopEntries {ids : List EntryId} {c : Client} {id : EntryId} {k : Token}
    (hp : (stopEntries ids c).Paused id k) : c.Paused id k := by
  induction ids generalizing c with
  | nil => exact hp
  | cons i ids ih => exact paused_of_stopEntry (ih hp)

theorem paused_of_addServer {c : Client} {s : Server} {id : EntryId} {k : Token}
    (hp : (c.addServer s).Paused id k) : c.Paused id k := by
  obtain ⟨y, hy, hs, hk⟩ := hp
  rw [account?, entry?, entries_addServer] at hy
  obtain ⟨e, he, rfl⟩ := Option.map_eq_some_iff.1 hy
  by_cases hid : id < c.entries.length
  · rw [List.getElem?_append_left hid] at he
    exact ⟨_, congrArg (Option.map Entry.account) he, hs, hk⟩
  · rw [List.getElem?_append_right (Nat.not_lt.1 hid)] at he
    obtain rfl := List.mem_singleton.1 (List.mem_of_getElem? he)
    cases hs

theorem awaited_congr {c d : Client} (h : d.tasks = c.tasks) (id : EntryId) (k : Token) :
    d.Awaited id k ↔ c.Awaited id k := by
  rw [Awaited, Awaited, timers, timers, h]

theorem goes_after {c : Client} (h : c.Sound) (hc : c.Singles) {a : Act} (p : c.Permits a)
    {id : EntryId} {k : Token} (hp : (c.after a).Paused id k) : Goes c (c.after a) id k := by
  have hs := step_after h p
  generalize c.after a = d at hs hp ⊢
  cases hs with
  | wake ht ripe => exact goes_wake h hc ht ripe hp
  | addServer s => exact .on (paused_of_addServer hp) (awaited_congr (tasks_addServer c s) id k)
  | execute job =>
    refine .on hp ?_
    rw [Awaited, Awaited]
    simp [Client.spawn, timers, Task.timers, Wait.timer?, Next.timer?]
  | still _ q _ tasks =>
    obtain ⟨y, hy, hs, hk⟩ := hp
    exact .on ⟨y, (q.account id).symm.trans hy, hs, hk⟩ (awaited_congr tasks id k)
  | @stops _ queue ids =>
    have hp : Paused { c with queue := queue } id k := paused_of_stopEntries hp
    exact .on hp (awaited_congr ((unchanged_stopEntries _ _).1) id k)
  | begins _ _ q hb hs =>
    refine goes_run hs ?_ q.account q.timers_perm hp
    cases hb <;> simp [Next.timer?]

/-! Tasks that end pauses have nothing else to do -/

theorem single_of_no_timer {t : Task} (hw : t.wait.timer? = none)
    (hn : ∀ n ∈ t.next, ∀ m, n.timer? = some m → m.kind = .poll) : t.Single := by
  intro id token hm
  rcases Task.mem_timers.1 hm with hm | ⟨n, hn', hm⟩
  · cases hw.symm.trans hm
  · cases hn n hn' _ hm

theorem single_of_heed {c : Client} {t : Task} {s : Signal} {a : Client × Course} (ht : t.Single)
    (heq : c.heed t s = some a) {u : Task} (hu : coursing t.id a.2 = some u) : u.Single := by
  by_cases hr : ∃ i j, t.Resumes i j
  · obtain ⟨i, j, hr⟩ := hr
    obtain ⟨k, w, next⟩ := t
    rcases hr with ⟨hw, delay, name, hn⟩ | ⟨hn, due, name, hw⟩
    · obtain rfl : w = .turn := hw
      cases heeds_of_heed heq with
      | turn =>
        cases hu
        exact ht
    · obtain rfl : w = .resume i j due name := hw
      obtain rfl : next = [] := hn
      cases heeds_of_heed heq with
      | resume =>
        cases hu
        exact single_of_no_timer rfl (by simp [Next.timer?])
      | resumeCancelled => cases hu
  · have hplan : ∀ n ∈ a.2.plan, ∀ m, n.timer? = some m → m.kind = .poll := by
      intro n hn m hm
      cases hk : m.kind with
      | poll => rfl
      | resume =>
        rcases planned_of_heed heq hn with hn | hn
        · refine absurd ⟨m.entry, m.token, ht _ _ (Task.mem_timers.2 (.inr ⟨n, hn, ?_⟩))⟩ hr
          rw [hm, ← hk]
        · exact absurd hm (hn.timer? hk)
    have hwait : ∀ w, a.2.wait? = some w → w.timer? = none := fun w hw =>
      (onward_of_heed heq hw).timer?
    obtain ⟨d, course⟩ := a
    cases course with
    | goesOn next =>
      cases hu
      exact single_of_no_timer rfl hplan
    | waits w next =>
      cases hu
      exact single_of_no_timer (hwait w rfl) hplan
    | ends => cases hu

theorem lasting_single : Lasting Task.Single where
  granted := Task.single_asGranted
  fresh := Fresh.single
  begun k _ _ hb := by
    refine single_of_no_timer rfl ?_
    cases hb <;> simp [Next.timer?]
  execute k job := single_of_no_timer rfl (by simp [Next.timer?])
  heed heq ht u := single_of_heed ht heq
  done := single_tail
  waiting := Rests.single

theorem Reachable.singles {c : Client} (h : Reachable c) : c.Singles :=
  lasting_single.reachable h

/-! The tasks that hold the tokens of an entry -/

/-- The order among the tokens of an entry. -/
structure Orderly (c : Client) (id : EntryId) (e : Entry) : Prop where
  shape : (e.status = .idle ∧ e.pollToken = none ∧ e.resumeToken = none) ∨
    (∃ k, e.status = .polling ∧ e.pollToken = some k ∧ e.resumeToken = none) ∨
    (∃ k, e.status = .paused ∧ e.pollToken = none ∧ e.resumeToken = some k)
  /-- The token that the entry holds was made for it and is not cancelled. -/
  held : ∀ k, e.pollToken = some k ∨ e.resumeToken = some k →
    c.issued[k]? = some id ∧ k ∉ c.cancelled
  /-- The others that were made for it are. -/
  cancelled : ∀ k, c.issued[k]? = some id → ¬ (e.pollToken = some k ∨ e.resumeToken = some k) →
    k ∈ c.cancelled
  /-- At most one timer of the entry has a token that is not cancelled. -/
  single : (c.timers.filter fun m => m.entry = id ∧ m.token ∉ c.cancelled).length ≤ 1
  /-- It is the timer that the status asks for. -/
  live : ∀ m ∈ c.timers, m.entry = id → m.token ∉ c.cancelled → e.held m.kind = some m.token

theorem length_le_one_of_token {l : List Timer} (hl : (l.map (·.token)).Nodup) {k : Token}
    (hk : ∀ m ∈ l, m.token = k) : l.length ≤ 1 := by
  match l, hl, hk with
  | [], _, _ => exact Nat.zero_le 1
  | [_], _, _ => exact Nat.le_refl 1
  | a :: b :: rest, hl, hk =>
    have hab : a.token ≠ b.token := fun he =>
      (List.nodup_cons.1 hl).1 (List.mem_map.2 ⟨b, List.mem_cons_self, he.symm⟩)
    exact absurd ((hk a (by simp)).trans (hk b (by simp)).symm) hab

theorem Sound.orderly {c : Client} (h : c.Sound) {id : EntryId} {e : Entry}
    (he : c.entry? id = some e) : c.Orderly id e := by
  obtain ⟨t, ht⟩ := h.timed id e he
  have htokens := fun k => Entry.grip.mem_tokens ht.grip k
  have hlive : ∀ m ∈ c.timers, m.entry = id → m.token ∉ c.cancelled →
      e.held m.kind = some m.token := by
    intro m hm hid hc
    obtain ⟨f, hf, hk⟩ := (h.live m hm).resolve_left hc
    rw [hid, he] at hf
    obtain rfl := Option.some.inj hf
    exact hk
  refine ⟨?_, ?_, ?_, ?_, hlive⟩
  · match t, ht.grip with
    | none, hg => exact .inl hg
    | some (.poll, k), hg => exact .inr (.inl ⟨k, hg⟩)
    | some (.resume, k), hg => exact .inr (.inr ⟨k, hg⟩)
  · intro k hk
    have hk := (htokens k).1 hk
    exact ⟨ht.own k hk, fun hc => (ht.cancelled_iff k (ht.own k hk)).1 hc hk⟩
  · exact fun k hk hn => (ht.cancelled_iff k hk).2 fun hs => hn ((htokens k).2 hs)
  -- all live timers of the entry carry the one token that it holds, and no two carry the same
  · have hsub : (c.timers.filter fun m => m.entry = id ∧ m.token ∉ c.cancelled).Sublist c.timers :=
      List.filter_sublist
    have hheld : ∀ m ∈ c.timers.filter fun m => m.entry = id ∧ m.token ∉ c.cancelled,
        t.map (·.2) = some m.token := by
      intro m hm
      obtain ⟨hm, hp⟩ := List.mem_filter.1 hm
      obtain ⟨hid, hc⟩ := of_decide_eq_true hp
      rw [(ht.grip.held_iff m.kind m.token).1 (hlive m hm hid hc)]
      rfl
    refine length_le_one_of_token (k := ((t.map (·.2)).getD 0)) ((hsub.map _).nodup h.single) ?_
    intro m hm
    rw [hheld m hm]
    rfl

theorem awaited_iff {c : Client} (h : c.Singles) {id : EntryId} {k : Token} :
    c.Awaited id k ↔ ∃ t ∈ c.tasks, t.Resumes id k := by
  constructor
  · intro hm
    obtain ⟨t, ht, hm⟩ := List.mem_flatMap.1 hm
    exact ⟨t, ht, h t ht id k hm⟩
  · rintro ⟨t, ht, hr⟩
    exact List.mem_flatMap.2 ⟨t, ht, hr.mem_timers⟩

/-- A pause at the end of a run was there at its beginning, and nothing has happened to its resume,
    or an act has begun it, and its resume is awaited exactly if its length did not exceed every
    delay. -/
theorem paused_afterAll {c : Client} (hc : Reachable c) {acts : List Act} (allows : c.Allows acts)
    {id : EntryId} {k : Token} (hp : (c.afterAll acts).Paused id k) :
    (c.Paused id k ∧ ((c.afterAll acts).Awaited id k ↔ c.Awaited id k)) ∨
      ∃ past a rest y, acts = past ++ a :: rest ∧ (c.afterAll past).issued.length ≤ k ∧
        ((c.afterAll past).after a).Paused id k ∧
        ((c.afterAll past).after a).account? id = some y ∧
        ((c.afterAll acts).Awaited id k ↔ (c.settings.resumeDelay? y.errors).isSome) := by
  -- from the first act on: a pause that the later acts have not begun was there after it
  induction acts generalizing c with
  | nil => exact .inl ⟨hp, .rfl⟩
  | cons a acts ih =>
    have hnext := hc.act allows.1
    rcases ih hnext allows.2 hp with ⟨hp, hiff⟩ | ⟨past, b, rest, y, rfl, hk, hp, hy, hiff⟩
    · cases goes_after hc.sound hc.singles allows.1 hp with
      | on hold hsame => exact .inl ⟨hold, hiff.trans hsame⟩
      | @begins y hlen hy hdelay =>
        exact .inr ⟨[], a, acts, y, rfl, hlen, hp, hy, hiff.trans hdelay⟩
    · refine .inr ⟨a :: past, b, rest, y, rfl, hk, hp, hy, ?_⟩
      rw [← settings_after hc.sound allows.1]
      exact hiff

/-- At all times the tokens of every entry are in order. A paused entry has a task waiting to end
    the pause, exactly if the length of the pause did not exceed every delay when it began. -/
theorem tokens_in_order {settings : Settings} {allowed : Server → Except Error (List String)}
    {protection : Fetch.Protection} {now : Moment} {c : Client}
    (hc : Client.new settings allowed protection now = .ok c) {acts : List Act}
    (allows : c.Allows acts) {id : EntryId} {e : Entry}
    (he : Client.entry? (c.afterAll acts) id = some e) :
    (c.afterAll acts).Orderly id e ∧
    ∀ k, e.status = .paused → e.resumeToken = some k →
      ∃ past a rest f, acts = past ++ a :: rest ∧ (c.afterAll past).issued.length ≤ k ∧
        Client.entry? ((c.afterAll past).after a) id = some f ∧ f.status = .paused ∧
        f.resumeToken = some k ∧
        ((∃ t ∈ (c.afterAll acts).tasks, t.Resumes id k) ↔
          (settings.resumeDelay? f.errors).isSome) := by
  have hreach : Reachable (c.afterAll acts) := (Reachable.new hc).afterAll allows
  refine ⟨hreach.sound.orderly he, fun k hs hk => ?_⟩
  have hp : (c.afterAll acts).Paused id k :=
    ⟨e.account, congrArg (Option.map Entry.account) he, hs, hk⟩
  obtain ⟨rfl, -, -⟩ := new_eq hc
  rcases paused_afterAll (.new hc) allows hp with ⟨⟨x, hx, -⟩, -⟩ |
    ⟨past, a, rest, y, hacts, hlen, ⟨x, hx, hs, hk⟩, hy, hiff⟩
  · cases hx
  · obtain rfl := Option.some.inj (hx.symm.trans hy)
    obtain ⟨f, hf, rfl⟩ := Option.map_eq_some_iff.1 hx
    exact ⟨past, a, rest, f, hacts, hlen, hf, hs, hk, (awaited_iff hreach.singles).symm.trans hiff⟩

/-- Where pauses exceed every delay, the first error pauses a server for good. -/
theorem paused_without_resume :
    ∃ e, Client.entry? ((blank (strict Settings.delayLimit)).afterAll
        (toFirstPoll ++ [refused])) 0 = some e ∧ e.status = .paused ∧
      ((blank (strict Settings.delayLimit)).afterAll (toFirstPoll ++ [refused])).Orderly 0 e ∧
      ∀ t ∈ ((blank (strict Settings.delayLimit)).afterAll (toFirstPoll ++ [refused])).tasks,
        ∀ k, ¬ t.Resumes 0 k := by
  have hnew : Client.new (strict Settings.delayLimit) (fun _ => .ok []) .any ⟨0, ⟨0, 0, 0⟩⟩ =
      .ok (blank (strict Settings.delayLimit)) := rfl
  have allows : (blank (strict Settings.delayLimit)).Allows (toFirstPoll ++ [refused]) :=
    ⟨trivial, trivial, ⟨.head _, trivial⟩, ⟨.tail _ (.head _), trivial⟩, trivial⟩
  refine ⟨_, rfl, rfl, (tokens_in_order hnew allows rfl).1, ?_⟩
  intro t ht k hr
  obtain rfl : t = ⟨1, .turn, [.beginTimer 0 0]⟩ := List.mem_singleton.1 ht
  simp [Task.Resumes] at hr

end Client
end Harvest.Sync
