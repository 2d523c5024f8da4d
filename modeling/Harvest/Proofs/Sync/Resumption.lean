import Harvest.Proofs.Sync.Errors
import Harvest.Proofs.Sync.Overlaps
import Harvest.Proofs.Sync.Turns
/-!
When pauses end. The task of a pause starts its entry when the time is up, once, unless the entry is
started or halted before. Where tasks are told at once what is due, this is at the very moment.
-/

namespace Harvest.Sync

/-- The moment that a wait is for, if it is for one. A turn comes at once. -/
def Wait.due? (clock : Nat) : Wait → Option Nat
  | .turn => some clock
  | .granted .. => some clock
  | .tick _ _ ticker => some ticker.due
  | .resume _ _ due _ => some due
  | .drive _ ticker => some ticker.due
  | _ => none

/-- The end of a pause under a token. -/
def Act.Resumes (id : EntryId) (token : Token) : Act → Prop
  | .wake ⟨_, .resume j k _ _, _⟩ .go => j = id ∧ k = token
  | _ => False

theorem Act.Resumes.eq_wake {id : EntryId} {token : Token} {a : Act} (h : a.Resumes id token) :
    ∃ k due name next, a = .wake ⟨k, .resume id token due name, next⟩ .go := by
  unfold Act.Resumes at h
  split at h
  · obtain ⟨rfl, rfl⟩ := h
    exact ⟨_, _, _, _, rfl⟩
  · exact h.elim

namespace Client

/-- Whether time passes though something is due that a task waits for. -/
def Delays (c : Client) : Act → Prop
  | .elapse now => ∃ t ∈ c.tasks, ∃ due, t.wait.due? c.now.clock = some due ∧ due < now.clock
  | _ => False

/-- Whether an act starts an entry, or stops or pauses it. -/
def Disturbs (c : Client) (id : EntryId) (a : Act) : Prop := c.Starts id a ∨ c.Halts id a

/-- Where the task of a pause is that is to end at a moment: it begins at once, or it waits for the
    end. -/
inductive Ends (c : Client) (id : EntryId) (token : Token) : Nat → Prop
  | turn {k : TaskId} {delay : Nat} {name : String} :
      ⟨k, .turn, [.beginPause id token delay name]⟩ ∈ c.tasks →
      c.Ends id token (c.now.clock + delay)
  | wait {k : TaskId} {due : Nat} {name : String} :
      ⟨k, .resume id token due name, []⟩ ∈ c.tasks → c.Ends id token due

section

variable {c d : Client} {id : EntryId} {token : Token} {a : Act}

/-! Time -/

theorem now_wake (c : Client) (t : Task) (s : Signal) : (c.wake t s).now = c.now := by
  rw [wake]
  cases heq : (c.dropTask t.id).heed t s with
  | none => rfl
  | some b =>
    have hheed : b.1.now = c.now := now_heed (c := c.dropTask t.id) heq
    exact ((Frame.refl b.1).follow t.id b.2).now.trans hheed

theorem now_undertake (c : Client) (next : List Next) : (c.undertake next).now = c.now :=
  (Frame.run (Frame.refl { c with taskCount := c.taskCount + 1 })).now

/-- Time passes in acts of its own only. -/
theorem now_after (h : ∀ now, a ≠ .elapse now) : (c.after a).now = c.now := by
  cases a with
  | wake t s => exact now_wake c t s
  | elapse now => exact absurd rfl (h now)
  | addServer s =>
    change (c.addServer s).now = c.now
    unfold addServer
    dsimp only
    split <;> rfl
  | updateServer s =>
    change (c.updateServer s).2.now = c.now
    unfold updateServer
    split <;> rfl
  | start serverId =>
    rw [after_start]
    split
    · rfl
    · exact now_undertake ..
  | startAll => exact (now_undertake ..).trans (Frame.refl c).startQueue.now
  | stop serverId =>
    change (c.stop serverId).now = c.now
    unfold stop
    split
    · rfl
    · rw [stopEntry_eq]
      rfl
  | stopAll => exact (Frame.stopEntries (Frame.refl { c with queue := c.queue.stop }) _).now
  | submit r => exact now_undertake ..
  | execute job => rfl

/-! Pauses -/

theorem account?_stopEntries_of_not_mem {ids : List EntryId} (h : id ∉ ids) :
    (stopEntries ids c).account? id = c.account? id := by
  induction ids generalizing c with
  | nil => rfl
  | cons j ids ih =>
    have hj : j ≠ id := fun hj => h (hj ▸ List.mem_cons_self)
    refine (ih fun hm => h (List.mem_cons_of_mem j hm)).trans ?_
    rw [stopEntry_eq, account?_retime]
    simp [hj]

/-- An act that neither starts an entry nor halts it changes at most the number of its errors. -/
theorem account?_after (h : c.Sound) (p : c.Permits a) (calm : ¬ c.Disturbs id a) {x : Account}
    (hx : c.account? id = some x) :
    ∃ n, (c.after a).account? id = some { x with errors := n } := by
  have same : ∀ {d : Client}, d.account? id = c.account? id →
      ∃ n, d.account? id = some { x with errors := n } := fun hd => ⟨x.errors, hd.trans hx⟩
  obtain ⟨hstarts, hhalts⟩ := not_or.1 calm
  rw [Starts] at hstarts
  have hs := step_after h p
  generalize c.after a = d at hs
  cases hs with
  | @wake t s ht =>
    have hdrop : (c.dropTask t.id).Sound := (h.resume ht).of_suspend
    cases heq : (c.dropTask t.id).heed t s with
    | none =>
      rw [wake, heq]
      exact same rfl
    | some b =>
      obtain ⟨hsame, hcount, -⟩ := (told_of_heed hdrop.numbered hdrop.registered heq).account id
      rw [account?_wake_of_heed h ht heq hstarts]
      by_cases hf : c.fault? t s = some id
      · exact ⟨_, (hcount hf fun hp => hhalts ⟨hf, hp⟩).trans (congrArg _ hx)⟩
      · exact same (hsame hf)
  | addServer s => exact ⟨x.errors, account?_addServer hx s⟩
  | execute job => exact same rfl
  | still _ q => exact same (q.account id)
  | stops ho _ _ heq =>
    refine same (account?_stopEntries_of_not_mem fun hm => hhalts ?_)
    rw [ho.halts_iff, ← heq]
    exact hm
  | begins ho _ q _ hs =>
    rw [ho.done] at hstarts
    exact same ((account?_run hs hstarts).trans (q.account id))

theorem Paused.after (hp : c.Paused id token) (h : c.Sound) (p : c.Permits a)
    (calm : ¬ c.Disturbs id a) : (c.after a).Paused id token := by
  obtain ⟨x, hx, hs, hk⟩ := hp
  obtain ⟨n, hn⟩ := account?_after h p calm hx
  exact ⟨_, hn, hs, hk⟩

/-! The task of a pause -/

theorem clock_le_after (p : c.Permits a) : c.now.clock ≤ (c.after a).now.clock := by
  by_cases ha : ∃ now, a = .elapse now
  · obtain ⟨now, rfl⟩ := ha
    exact p
  · exact Nat.le_of_eq (congrArg Moment.clock (now_after fun now hn => ha ⟨now, hn⟩)).symm

/-- Where nothing is late, an act leaves the time before whatever is due. -/
theorem clock_after_le {t : Task} {due : Nat} (punctual : ¬ c.Delays a) (ht : t ∈ c.tasks)
    (hd : t.wait.due? c.now.clock = some due) (hle : c.now.clock ≤ due) :
    (c.after a).now.clock ≤ due := by
  by_cases ha : ∃ now, a = .elapse now
  · obtain ⟨now, rfl⟩ := ha
    exact Nat.not_lt.1 fun hlt => punctual ⟨t, ht, due, hd, hlt⟩
  · rw [now_after fun now hn => ha ⟨now, hn⟩]
    exact hle

/-- A task that is left alone and has nothing to do with the right to refresh stays as it is. -/
theorem Spares.mem_tasks {t : Task} (h : Spares t.id c d) (ht : t ∈ c.tasks)
    (hw : ∀ id forced, t.wait.asGranted ≠ .granted id forced) : t ∈ d.tasks := by
  have hgranted : t.asGranted = t := by
    obtain ⟨k, w, next⟩ := t
    cases w with
    | lock => exact absurd rfl (hw _ _)
    | _ => rfl
  have hstands : c.Stands t := List.mem_map.2 ⟨t, ht, hgranted⟩
  obtain ⟨u, hu, heq⟩ := List.mem_map.1 ((h.stands t rfl).2 hstands)
  have hsame : u = t := by
    obtain ⟨k, w, next⟩ := u
    obtain rfl := heq
    cases w with
    | lock => exact absurd rfl (hw _ _)
    | _ => rfl
  exact hsame ▸ hu

theorem mem_tasks_after (h : c.Sound) (p : c.Permits a) {t : Task} (ht : t ∈ c.tasks)
    (hw : ∀ id forced, t.wait.asGranted ≠ .granted id forced) (ha : c.isTurn t.id a = false) :
    t ∈ (c.after a).tasks :=
  (spares_after h p (h.numbered.below t ht) ha).mem_tasks ht hw

theorem wake_of_isTurn (n : c.Numbered) (p : c.Permits a) {t : Task} (ht : t ∈ c.tasks)
    (ha : c.isTurn t.id a = true) :
    ∃ s b, a = .wake t s ∧ (c.dropTask t.id).heed t s = some b := by
  cases a with
  | wake u s =>
    obtain ⟨hid, hheed⟩ : u.id = t.id ∧ ((c.dropTask u.id).heed u s).isSome := by
      simpa [isTurn] using ha
    obtain rfl : u = t := List.inj_on_of_nodup_map n.nodup p.1 ht hid
    obtain ⟨b, hb⟩ := Option.isSome_iff_exists.1 hheed
    exact ⟨s, b, rfl, hb⟩
  | _ => cases ha

theorem starts_of_resumes (h : a.Resumes id token) : c.Starts id a := by
  obtain ⟨k, due, name, next, rfl⟩ := h.eq_wake
  exact starts_of_resume ..

/-- As long as an entry is neither started nor halted, its pause is on. It may end later than
    planned, unless nothing is late. -/
theorem Ends.after {due : Nat} (he : c.Ends id token due) (hp : c.Paused id token) (h : c.Sound)
    (p : c.Permits a) (calm : ¬ c.Disturbs id a) :
    ∃ later, due ≤ later ∧ (c.after a).Ends id token later ∧
      (¬ c.Delays a → c.now.clock ≤ due → later = due ∧ (c.after a).now.clock ≤ due) := by
  cases he with
  | @turn k delay name ht =>
    by_cases ha : c.isTurn k a = true
    · obtain ⟨s, b, rfl, hb⟩ := wake_of_isTurn h.numbered p ht ha
      have hgo : s = .go := by
        cases heeds_of_heed hb
        rfl
      subst hgo
      refine ⟨_, Nat.le_refl _, ?_, fun _ hle => ⟨rfl, hle⟩⟩
      exact .wait (List.mem_append_right _ List.mem_cons_self)
    -- it has not begun yet; time that passes meanwhile puts the end off
    · have ht' := mem_tasks_after h p ht (by simp [Wait.asGranted]) (Bool.eq_false_iff.2 ha)
      have hle := clock_le_after p
      refine ⟨_, Nat.add_le_add_right hle delay, .turn ht', fun punctual _ => ?_⟩
      have hsame := clock_after_le punctual ht rfl (Nat.le_refl _)
      omega
  | @wait k _ name ht =>
    by_cases ha : c.isTurn k a = true
    · obtain ⟨s, b, rfl, hb⟩ := wake_of_isTurn h.numbered p ht ha
      cases heeds_of_heed hb with
      | resume => exact absurd (.inl (starts_of_resume ..)) calm
      | resumeCancelled => exact absurd p.2 (h.not_cancelled hp)
    · have ht' := mem_tasks_after h p ht (by simp [Wait.asGranted]) (Bool.eq_false_iff.2 ha)
      exact ⟨due, Nat.le_refl _, .wait ht', fun punctual hle =>
        ⟨rfl, clock_after_le punctual ht rfl hle⟩⟩

theorem ends_pause {x : Account} (hx : c.account? id = some x) {delay : Nat}
    (hdelay : c.settings.resumeDelay? x.errors = some delay) (next : List Next) :
    (c.pause id next).2 = .goesOn next ∧ ∃ name,
      ⟨c.taskCount, .turn, [.beginPause id c.issued.length delay name]⟩ ∈
        (c.pause id next).1.tasks := by
  obtain ⟨e, he, rfl⟩ := Option.map_eq_some_iff.1 hx
  have hdelay : c.settings.resumeDelay? e.errors = some delay := hdelay
  rw [pause_eq, entry?_retime, he]
  simp only [Option.map_some, if_true, Entry.errors_retimed, hdelay]
  exact ⟨trivial, e.server.name, List.mem_append_right _ List.mem_cons_self⟩

/-- The task of a pause is there when the task that pauses the entry has gone on. -/
theorem mem_tasks_follow_pause {x : Account} (hx : c.account? id = some x) {delay : Nat}
    (hdelay : c.settings.resumeDelay? x.errors = some delay) {k : TaskId} {next : List Next}
    (h : ((c.pause id next).1.resumed k (c.pause id next).2).Sound) :
    ∃ name, ⟨c.taskCount, .turn, [.beginPause id c.issued.length delay name]⟩ ∈
      ((c.pause id next).1.follow k (c.pause id next).2).tasks := by
  obtain ⟨hcourse, name, hmem⟩ := ends_pause hx hdelay next
  rw [hcourse] at h ⊢
  have hs : ((c.pause id next).1.suspend k .turn next).Sound := h
  have hne : k ≠ c.taskCount := by
    have hn := hs.numbered.nodup
    simp only [suspend, List.map_append, List.nodup_append] at hn
    exact fun he => hn.2.2 _ (List.mem_map_of_mem hmem) _ List.mem_cons_self he.symm
  have hspares := spares_run hne hs (hs.numbered.of_suspend.below _ hmem)
  exact ⟨name, hspares.mem_tasks hmem (by simp [Wait.asGranted])⟩

/-- An error that pauses an entry has a task end the pause when its time is up, unless its length
    exceeds every delay. -/
theorem ends_of_fault (h : c.Sound) {t : Task} {s : Signal} (p : c.Permits (.wake t s))
    (hf : c.fault? t s = some id) (hp : c.Pauses t id) {x : Account} (hx : c.account? id = some x)
    {delay : Nat} (hdelay : c.settings.resumeDelay? (x.errors + 1) = some delay) :
    (c.wake t s).Ends id c.issued.length (c.now.clock + delay) := by
  have hdrop : (c.dropTask t.id).Sound := (h.resume p.1).of_suspend
  rw [← now_wake c t s, wake]
  cases heq : (c.dropTask t.id).heed t s with
  | none =>
    have hnone : (c.dropTask t.id).fault? t s = none := fault?_of_heed_none heq
    cases hnone.symm.trans hf
  | some b =>
    have told := told_of_heed hdrop.numbered hdrop.registered heq
    have hs := (h.resume p.1).heed heq
    cases told with
    | quiet hn => cases hn.symm.trans hf
    | @counted j _ hj hn =>
      obtain rfl : j = id := Option.some.inj (hj.symm.trans hf)
      exact absurd hp hn
    | @paused j d hj _ q =>
      obtain rfl : j = id := Option.some.inj (hj.symm.trans hf)
      have hd : d.account? j = some x.failed := by
        rw [q.account, account?_countError]
        change (c.account? j).map _ = _
        rw [hx, Option.map_some, if_pos rfl]
      have hsettings : d.settings = c.settings := q.settings
      have hissued : d.issued.length = c.issued.length := by
        rw [q.issued]
        rfl
      obtain ⟨name, hmem⟩ := mem_tasks_follow_pause hd (hsettings ▸ hdelay) hs
      rw [hissued] at hmem
      exact .turn hmem

/-! Tokens of resumes -/

theorem Told.mem_timers {t : Task} {s : Signal} {b : Client × Course} (told : c.Told t s b)
    {m : Timer} (h : m ∈ b.1.timers) : m ∈ c.timers ∨ c.issued.length ≤ m.token := by
  cases told with
  | quiet _ q => exact .inl (q.timers_perm.mem_iff.1 h)
  | counted _ _ q => exact .inl (q.timers_perm.mem_iff.1 h)
  | @paused j d _ _ q =>
    rcases (mem_timers_pause ..).1 h with h | ⟨rfl, -⟩
    · exact .inl (q.timers_perm.mem_iff.1 h)
    · refine .inr (Nat.le_of_eq ?_)
      rw [q.issued]
      rfl

theorem mem_timers_wake (h : c.Sound) {t : Task} (ht : t ∈ c.tasks) {s : Signal} {m : Timer}
    (hm : m.kind = .resume) (ha : m ∈ (c.wake t s).timers) :
    m ∈ c.timers ∨ c.issued.length ≤ m.token := by
  have hdrop : (c.dropTask t.id).Sound := (h.resume ht).of_suspend
  have hmem := mem_timers_dropTask h ht (m := m)
  rw [wake] at ha
  cases heq : (c.dropTask t.id).heed t s with
  | none =>
    rw [heq] at ha
    exact .inl ha
  | some b =>
    rw [heq] at ha
    -- the task had the token in its plan, or it does not come by it when it is told something
    by_cases hnext : ∃ n ∈ t.next, n.timer? = some m
    · exact .inl (hmem.2 (.inr (Task.mem_timers.2 (.inr hnext))))
    · have told := told_of_heed hdrop.numbered hdrop.registered heq
      have hresumed := (mem_timers_follow ((h.resume ht).heed heq) hm).1 ha
      have hb := (mem_timers_resumed heq hm fun n hn hnm => hnext ⟨n, hn, hnm⟩).1 hresumed
      exact (told.mem_timers hb).imp_left fun hold => hmem.2 (.inl hold)

/-- A token in the hands of a task that ends a pause was there before, or it is new. -/
theorem mem_timers_after (h : c.Sound) (p : c.Permits a) {m : Timer} (hm : m.kind = .resume)
    (ha : m ∈ (c.after a).timers) : m ∈ c.timers ∨ c.issued.length ≤ m.token := by
  have hs := step_after h p
  generalize c.after a = d at hs ha
  cases hs with
  | wake ht => exact mem_timers_wake h ht hm ha
  | addServer s =>
    rw [timers, tasks_addServer] at ha
    exact .inl ha
  | execute job =>
    refine .inl ?_
    simpa [Client.spawn, timers, Task.timers, Wait.timer?, Next.timer?] using ha
  | still _ _ _ tasks =>
    rw [timers, tasks] at ha
    exact .inl ha
  | stops =>
    rw [timers, (unchanged_stopEntries _ _).1] at ha
    exact .inl ha
  | @begins _ e next _ _ q hb hs =>
    have hnone : next.filterMap Next.timer? = [] := by
      refine List.filterMap_eq_nil_iff.2 fun n hn => ?_
      cases hb with
      | start =>
        obtain ⟨j, -, rfl⟩ := List.mem_map.1 hn
        rfl
      | submit =>
        obtain rfl := List.mem_singleton.1 hn
        rfl
    have hrun := (mem_timers_run hs hm).1 ha
    rw [timers_suspend, Task.timers, hnone] at hrun
    rcases List.mem_append.1 hrun with hrun | hrun
    · exact .inl (q.timers_perm.mem_iff.1 hrun)
    · cases hrun

theorem awaited_of_resumes (p : c.Permits a) (ha : a.Resumes id token) : c.Awaited id token := by
  obtain ⟨k, due, name, next, rfl⟩ := ha.eq_wake
  exact List.mem_flatMap.2 ⟨_, p.1, List.mem_cons_self⟩

/-- The task that ends a pause does not keep the token, and no other task has it. -/
theorem not_awaited_after_resumes (h : c.Sound) (p : c.Permits a) (ha : a.Resumes id token) :
    ¬ (c.after a).Awaited id token := by
  obtain ⟨k, due, name, next, rfl⟩ := ha.eq_wake
  have hs := h.resume p.1
  have hsound := hs.heed (heed_resume (c.dropTask k) k id token due name next)
  have hsingle : (((c.dropTask k).timers ++ ⟨.resume, id, token⟩ ::
      next.filterMap Next.timer?).map (·.token)).Nodup := by
    have hsingle := hs.single
    rwa [timers_suspend] at hsingle
  rw [(List.perm_middle.map _).nodup_iff] at hsingle
  intro hm
  have hm := (mem_timers_run hsound rfl).1 hm
  rw [timers_suspend] at hm
  exact (List.nodup_cons.1 hsingle).1 (List.mem_map_of_mem hm)

/-- A pause that no task is to end is never ended by one. -/
theorem not_resumes_of_not_awaited (h : Reachable c) (own : c.issued[token]? = some id)
    (hn : ¬ c.Awaited id token) {acts : List Act} (allows : c.Allows acts) :
    ∀ a ∈ acts, ¬ a.Resumes id token := by
  induction acts generalizing c with
  | nil =>
    intro a ha
    cases ha
  | cons b acts ih =>
    have hspends : Spends id (c.Halts id b ∨ c.Starts id b) c (c.after b) :=
      spends_after h.sound allows.1
    intro a ha
    rcases List.mem_cons.1 ha with rfl | ha
    · exact fun hr => hn (awaited_of_resumes allows.1 hr)
    · refine ih (h.act allows.1) (hspends.issued token id own) (fun hm => ?_) allows.2 a ha
      rcases mem_timers_after h.sound allows.1 rfl hm with hm | hle
      · exact hn hm
      · exact absurd (List.getElem?_eq_some_iff.1 own).1 (Nat.not_lt.2 hle)

/-! Pauses in the course of acts -/

theorem pause_afterAll (h : Reachable c) (hp : c.Paused id token) {due : Nat}
    (he : c.Ends id token due) {acts : List Act} (allows : c.Allows acts)
    (calm : c.Without (·.Disturbs id) acts) :
    (c.afterAll acts).Paused id token ∧ ∃ later, due ≤ later ∧
      (c.afterAll acts).Ends id token later ∧ (c.now.clock ≤ due → c.Without Delays acts →
        later = due ∧ (c.afterAll acts).now.clock ≤ due) := by
  induction acts generalizing c due with
  | nil => exact ⟨hp, due, Nat.le_refl _, he, fun hle _ => ⟨rfl, hle⟩⟩
  | cons a acts ih =>
    obtain ⟨m, hm, he, hin⟩ := he.after hp h.sound allows.1 calm.1
    obtain ⟨hp, later, hlater, he, hin'⟩ :=
      ih (h.act allows.1) (hp.after h.sound allows.1 calm.1) he allows.2 calm.2
    refine ⟨hp, later, Nat.le_trans hm hlater, he, fun hle punctual => ?_⟩
    obtain ⟨rfl, hclock⟩ := hin punctual.1 hle
    exact hin' hclock punctual.2

end

end Client
end Harvest.Sync
