import Harvest.Proofs.Sync.Conveyance
import Harvest.Proofs.Sync.Locks
import Harvest.Proofs.Sync.Newcomers
import Harvest.Proofs.Sync.Registry
/-!
Servers side by side. What is done for one server leaves all that belongs to the others as it was:
what is known of them, their tokens and their tasks. Only the queue is common to them: a job of
another server may leave it, and ask for a refresh.
-/

namespace Harvest.Sync.Client

/-- All that belongs to an entry is as it was. What may be new is that it is to be refreshed. -/
structure Untouched (j : EntryId) (c d : Client) : Prop where
  entry : d.entry? j = c.entry? j
  tokens : ∀ k : Token, c.issued[k]? = some j →
    d.issued[k]? = some j ∧ (k ∈ d.cancelled ↔ k ∈ c.cancelled)
  waits : ∀ t : Task, t.wait.entry? = some j → (t ∈ d.tasks ↔ t ∈ c.tasks)
  turns : ∀ t ∈ c.tasks, t.wait = .turn → ∀ n ∈ t.next, n.entry? = some j → t ∈ d.tasks
  comes : ∀ t ∈ d.tasks, t ∈ c.tasks ∨ t.OnlyRefreshes j

section

variable {c d e : Client} {j : EntryId} {k : TaskId} {t : Task}

theorem Untouched.refl (j : EntryId) (c : Client) : Untouched j c c :=
  ⟨rfl, fun _ hk => ⟨hk, .rfl⟩, fun _ _ => .rfl, fun _ ht _ _ _ _ => ht, fun _ ht => .inl ht⟩

theorem Untouched.trans (h : Untouched j c d) (g : Untouched j d e) : Untouched j c e := by
  refine ⟨g.entry.trans h.entry, fun k hk => ?_, fun t ht => (g.waits t ht).trans (h.waits t ht),
    fun t ht hw n hn hj => g.turns t (h.turns t ht hw n hn hj) hw n hn hj, fun t ht =>
      (g.comes t ht).elim (h.comes t) .inr⟩
  obtain ⟨hd, hcancelled⟩ := h.tokens k hk
  obtain ⟨he, hcancelled'⟩ := g.tokens k hd
  exact ⟨he, hcancelled'.trans hcancelled⟩

/-! Tasks that stay -/

theorem Locked.mem_waiting_iff (h : c.Locked) (n : c.Numbered) {l : Lock} (hl : c.lock? j = some l)
    (ht : t ∈ c.tasks) : t.id ∈ l.waiting ↔ t.lines j = true := by
  rw [(h j l hl).waiting, List.mem_map]
  constructor
  · rintro ⟨u, hu, hid⟩
    obtain ⟨hm, hlines⟩ := List.mem_filter.1 hu
    obtain rfl : u = t := List.inj_on_of_nodup_map n.nodup hm ht hid
    exact hlines
  · exact fun hlines => ⟨t, List.mem_filter.2 ⟨ht, hlines⟩, rfl⟩

/-- What a task stands for in the line for a lock tells which of the two waits is its own. -/
theorem eq_of_lines {u : Task} (heq : u.asGranted = t.asGranted)
    (hw : t.wait = .turn ∨ t.wait.entry? = some j) (lines : u.lines j = true ↔ t.lines j = true) :
    u = t := by
  have hwait : u.wait.asGranted = t.wait.asGranted := congrArg Task.wait heq
  have hnext : u.next = t.next := by rw [← Task.asGranted_next, heq, Task.asGranted_next]
  have hid : u.id = t.id := by rw [← Task.asGranted_id, heq, Task.asGranted_id]
  have hsame : u.wait = t.wait := by
    rcases Wait.eq_of_asGranted hwait with hsame | ⟨id, forced, hg⟩
    · exact hsame
    · have either : ∀ {x : Wait}, x.asGranted = .granted id forced →
          x = .lock id forced ∨ x = .granted id forced := by
        intro x hx
        cases x <;> cases hx
        · exact .inl rfl
        · exact .inr rfl
      have hid : id = j := by
        rcases hw with hw | hw
        · rw [hw] at hg
          cases hg
        · exact Option.some_inj.1 ((Wait.entry?_congr (v := .granted id forced) hg).symm.trans hw)
      subst hid
      rcases either (hwait.trans hg) with hu | hu <;> rcases either hg with ht | ht
      · exact hu.trans ht.symm
      · simp [Task.lines, hu, ht] at lines
      · simp [Task.lines, hu, ht] at lines
      · exact hu.trans ht.symm
  obtain ⟨i, w, next⟩ := u
  obtain ⟨i', w', next'⟩ := t
  simp only at hid hnext hsame
  rw [hid, hnext, hsame]

theorem mem_tasks_of_spares (hc : c.Locked) (n : c.Numbered) (hd : d.Locked) (m : d.Numbered)
    (h : Leaves j c d) (known : j < c.entries.length) (ht : t ∈ c.tasks)
    (hw : t.wait = .turn ∨ t.wait.entry? = some j) (spares : Spares t.id c d) : t ∈ d.tasks := by
  obtain ⟨u, hu, heq⟩ := List.mem_map.1 ((spares.stands t.asGranted rfl).2 (List.mem_map_of_mem ht))
  obtain ⟨x, hx⟩ := exists_entry? known
  have hl : c.lock? j = some x.refresh := by rw [lock?, hx]; rfl
  have hl' : d.lock? j = some x.refresh := by rw [lock?, h.entry, hx]; rfl
  have hid : u.id = t.id := by rw [← Task.asGranted_id, heq, Task.asGranted_id]
  have lines : u.lines j = true ↔ t.lines j = true := by
    rw [← hd.mem_waiting_iff m hl' hu, ← hc.mem_waiting_iff n hl ht, hid]
  exact eq_of_lines heq hw lines ▸ hu

/-- What belongs to an entry is as it was, if the entry is, none of its tokens is cancelled, its
    tasks are left alone, and no other task has come to wait on account of it. -/
theorem untouched_of {P : Prop} (hc : c.Locked) (n : c.Numbered) (hd : d.Locked) (m : d.Numbered)
    (known : j < c.entries.length) (leaves : Leaves j c d) (spends : Spends j P c d) (idle : ¬ P)
    (waits : ∀ t ∈ c.tasks, t.wait.entry? = some j → Spares t.id c d)
    (turns : ∀ t ∈ c.tasks, t.wait = .turn → ∀ n ∈ t.next, n.entry? = some j → Spares t.id c d)
    (kept : ∀ t ∈ d.tasks, t.wait.entry? = some j → c.Kept t)
    (comes : ∀ t ∈ d.tasks, c.Kept t ∨ t.OnlyRefreshes j) : Untouched j c d := by
  have stays : ∀ t ∈ c.tasks, t.wait.entry? = some j → t ∈ d.tasks := fun t ht hj =>
    mem_tasks_of_spares hc n hd m leaves known ht (.inr hj) (waits t ht hj)
  refine ⟨leaves.entry, fun k hk => ⟨spends.issued k j hk, ?_⟩, fun t hj => ⟨fun ht => ?_, fun ht =>
    stays t ht hj⟩, fun t ht hw x hx hj =>
      mem_tasks_of_spares hc n hd m leaves known ht (.inl hw) (turns t ht hw x hx hj), fun t ht =>
        ?_⟩
  · rw [spends.cancelled k hk, or_iff_left idle]
  · obtain ⟨u, hu, heq⟩ := kept t ht hj
    have hwait : u.wait.entry? = some j :=
      (Wait.entry?_congr (congrArg Task.wait heq)).symm.trans hj
    have hid : t.id = u.id := by rw [← Task.asGranted_id, heq, Task.asGranted_id]
    rw [List.inj_on_of_nodup_map m.nodup ht (stays u hu hwait) hid]
    exact hu
  · rcases comes t ht with ⟨u, hu, heq⟩ | hr
    · by_cases hw : t.wait = .turn
      · exact .inl (Task.eq_of_turn heq hw ▸ hu)
      · exact .inr (Task.onlyRefreshes_of_wait hw)
    · exact .inr hr

/-! Acts for other servers -/

/-- Whether an act is done for an entry, or starts it or stops it along with others. -/
def Touches (c : Client) (j : EntryId) (a : Act) : Prop :=
  c.party? a = some j ∨ c.Starts j a ∨ j ∈ c.halted a

theorem not_concerns_of_not_touches (hc : Reachable c) {a : Act} (p : c.Permits a)
    (h : ¬ c.Touches j a) : ¬ c.Concerns j a := by
  obtain ⟨hp, hs, hh⟩ : c.party? a ≠ some j ∧ ¬ c.Starts j a ∧ j ∉ c.halted a := by
    simpa only [Touches, not_or] using h
  intro hconcerns
  cases hconcerns with
  | waits hw => exact hp (partyOf_wait hw)
  | does hn hj =>
    obtain rfl := hc.eq_start p hn hj hp
    exact hs hn
  | stops hm => exact hh hm
  | updates hr => exact hp hr

theorem untouched_after (hc : Reachable c) {a : Act} (p : c.Permits a)
    (known : j < c.entries.length) (h : ¬ c.Touches j a) : Untouched j c (c.after a) := by
  have hd : Reachable (c.after a) := hc.act p
  have hconcerns : ¬ c.Concerns j a := not_concerns_of_not_touches hc p h
  have hp : c.party? a ≠ some j := fun hp => h (.inl hp)
  have calm : ¬ (c.Halts j a ∨ c.Starts j a) := by
    by_cases host : ∃ t s, a = .wake t s
    · obtain ⟨t, s, rfl⟩ := host
      rintro (⟨hf, -⟩ | hs)
      · exact hconcerns (.waits (entry?_of_fault? hf))
      · exact hconcerns (.does hs rfl)
    · exact fun hs => hconcerns (concerns_of_host (fun t s ha => host ⟨t, s, ha⟩) hs)
  have spares : ∀ t ∈ c.tasks, c.partyOf t = some j → Spares t.id c (c.after a) := by
    intro t ht hparty
    refine spares_after hc.sound p (hc.sound.numbered.below t ht) ?_
    refine Bool.eq_false_iff.2 fun hturn => ?_
    obtain ⟨s, b, rfl, -⟩ := wake_of_isTurn hc.sound.numbered p ht hturn
    exact hp hparty
  refine untouched_of hc.locked hc.sound.numbered hd.locked hd.sound.numbered known
    (leaves_after known hconcerns) (spends_after hc.sound p) calm ?_ ?_ ?_ ?_
  · exact fun t ht hj => spares t ht (partyOf_wait hj)
  · exact fun t ht hw n hn hj => spares t ht (hc.partyOf_turn ht hw hn hj)
  · exact fun t ht hj => kept_of_waits hc p hconcerns hp ht hj
  · exact fun t ht => comes_after hc.sound p hconcerns ht

theorem untouched_afterAll (hc : Reachable c) (known : j < c.entries.length) {acts : List Act}
    (allows : c.Allows acts) (h : c.Without (·.Touches j) acts) :
    Untouched j c (c.afterAll acts) := by
  induction acts generalizing c with
  | nil => exact .refl j c
  | cons a acts ih =>
    have ha : Untouched j c (c.after a) := untouched_after hc allows.1 known h.1
    obtain ⟨x, hx⟩ := exists_entry? known
    exact ha.trans (ih (hc.act allows.1) (entry?_lt (ha.entry.trans hx)) allows.2 h.2)

/-! A task that starts all servers -/

/-- A task that comes to something that it has to do has done what it had to do before. -/
theorem run_of_mem_doing {n : Next} {next : List Next} (h : n ∈ doing k next c) :
    ∃ before rest, next = before ++ n :: rest ∧ n ∉ before ∧
      run k next c = run k (n :: rest) (run k before c) := by
  induction next generalizing c with
  | nil => cases h
  | cons m next ih =>
    by_cases hm : n = m
    · exact ⟨[], next, by rw [hm]; rfl, List.not_mem_nil, by rw [hm]; rfl⟩
    · rw [doing] at h
      have hrest := List.mem_of_ne_of_mem hm h
      cases heq : c.perform k m with
      | mk d p =>
        rw [heq] at hrest
        cases p with
        | done =>
          obtain ⟨before, rest, rfl, hn, hrun⟩ := ih hrest
          refine ⟨m :: before, rest, rfl, ?_, ?_⟩
          · exact fun hmem => (List.mem_cons.1 hmem).elim hm hn
          · simp only [run, heq] at hrun ⊢
            exact hrun
        | waiting w more => cases hrest

theorem Sound.beginning {before rest : List Next}
    (h : (c.suspend k .turn (before ++ rest)).Sound) : (c.suspend k .turn before).Sound := by
  have hsub := List.sublist_append_left before rest
  refine h.resuspend (fun id hid => h.known_of_suspend ?_) ?_
  · exact ((hsub.filterMap _).append_left _).subset hid
  · exact (hsub.filterMap _).append_left _

theorem locked_told (hc : Reachable c) {s : Signal} {b : Client} {next : List Next}
    (ht : t ∈ c.tasks) (heq : (c.dropTask t.id).heed t s = some (b, .goesOn next)) : b.Locked := by
  have lines : ∀ id, t.lines id = false := by
    intro id
    obtain ⟨i, w, l⟩ := t
    cases w with
    | lock => cases heeds_of_heed heq
    | _ => rfl
  have hdrop : (c.dropTask t.id).Sound := (hc.sound.resume ht).of_suspend
  have hresumed : (b.suspend t.id .turn next).Locked :=
    (hc.locked.resume hc.sound.numbered ht lines).heed hdrop.numbered heq
  exact locked_turn.1 hresumed

section

variable {s : Signal} {b : Client} {course : Course} {before : List Next}

theorem spends_turn (hc : c.Sound) (ht : t ∈ c.tasks)
    (told : (c.dropTask t.id).Told t s (b, course)) (hs : (b.suspend t.id .turn before).Sound) :
    Spends j (((c.dropTask t.id).fault? t s = some j ∧ (c.dropTask t.id).Pauses t j) ∨
      .start j ∈ doing t.id before b) c (run t.id before b) := by
  have known : ∀ i, (c.dropTask t.id).fault? t s = some i → i < c.entries.length := by
    intro i hi
    have hw : t.wait.entry? = some i := entry?_of_fault? hi
    exact (hc.resume ht).known_of_suspend (by simp [Task.entries, hw])
  have hb : Spends j ((c.dropTask t.id).fault? t s = some j ∧ (c.dropTask t.id).Pauses t j)
      (c.dropTask t.id) b := told.spends (hc.resume ht).of_suspend known
  have hrun := hb.trans (spends_run hs)
  exact ⟨hrun.issued, hrun.cancelled⟩

theorem spares_turn (hc : c.Sound) (told : (c.dropTask t.id).Told t s (b, course))
    (hs : (b.suspend t.id .turn before).Sound) {u : Task} (hu : u ∈ c.tasks) (hne : t.id ≠ u.id) :
    Spares u.id c (run t.id before b) := by
  have hlt : u.id < c.taskCount := hc.numbered.below u hu
  obtain ⟨xs, hx, -⟩ := told.adds
  have hb : Spares u.id (c.dropTask t.id) b := hx.spares hlt
  exact ((Spares.dropTask hne).trans hb).trans
    (spares_run hne hs (Nat.lt_of_lt_of_le hlt hb.count))

theorem kept_turn (told : (c.dropTask t.id).Told t s (b, course))
    (hs : (b.suspend t.id .turn before).Sound) (own : ∀ n ∈ before, n.entry? ≠ some j)
    (idle : ∀ n ∈ before, n.delivers = true → n.entry? ≠ none) {u : Task}
    (hu : u ∈ (run t.id before b).tasks) (hj : u.wait.entry? = some j) : c.Kept u := by
  rcases mem_tasks_run hs hu with ⟨x, hx, hux⟩ | hf | hrested
  · have hxj : x.wait.entry? = some j :=
      (Wait.entry?_congr (congrArg Task.wait hux)).symm.trans hj
    rcases told.mem_tasks hx with ⟨y, hy, hxy⟩ | hf
    · exact ⟨y, (List.mem_filter.1 hy).1, hux.trans hxy⟩
    · cases hf <;> cases hxj
  · cases hf <;> cases hj
  · cases hrested with
    | intro _ _ hn _ hr =>
      have hn := mem_of_mem_doing hn
      rcases hr.entry? with hw | ⟨hnone, hd⟩
      · exact absurd (hw.symm.trans hj) (own _ hn)
      · exact absurd hnone (idle _ hn hd)

end

/-- What a task does first leaves all that belongs to an entry as it was, if the task does not go on
    for the entry and does nothing for it. -/
theorem untouched_turn (hc : Reachable c) (known : j < c.entries.length) {s : Signal} {b : Client}
    {before rest : List Next} (ht : t ∈ c.tasks)
    (heq : (c.dropTask t.id).heed t s = some (b, .goesOn (before ++ rest)))
    (hp : c.partyOf t ≠ some j) (own : ∀ n ∈ before, n.entry? ≠ some j)
    (idle : ∀ n ∈ before, n.delivers = true → n.entry? ≠ none) :
    Untouched j c (run t.id before b) := by
  have hdrop : (c.dropTask t.id).Sound := (hc.sound.resume ht).of_suspend
  have told := told_of_heed hdrop.numbered hdrop.registered heq
  have hs : (b.suspend t.id .turn before).Sound := ((hc.sound.resume ht).heed heq).beginning
  have hwait : t.wait.entry? ≠ some j := fun hw => hp (partyOf_wait hw)
  have hdoing : ∀ n ∈ doing t.id before b, n.entry? ≠ some j := fun n hn =>
    own n (mem_of_mem_doing hn)
  have leaves : Leaves j c (run t.id before b) := by
    have hd : Leaves j c (c.dropTask t.id) := (Leaves.refl j c).congr rfl
    exact (hd.trans (leaves_heed heq hwait)).trans (leaves_run hdoing)
  have spares : ∀ u ∈ c.tasks, c.partyOf u = some j → Spares u.id c (run t.id before b) := by
    intro u hu hparty
    refine spares_turn hc.sound told hs hu fun hid => hp ?_
    exact List.inj_on_of_nodup_map hc.sound.numbered.nodup ht hu hid ▸ hparty
  refine untouched_of hc.locked hc.sound.numbered (locked_told hc ht heq).run hs.run.numbered known
    leaves (spends_turn hc.sound ht told hs) ?_ (fun u hu hj => spares u hu (partyOf_wait hj))
    (fun u hu hw n hn hj => spares u hu (hc.partyOf_turn hu hw hn hj))
    (fun u hu hj => kept_turn told hs own idle hu hj) fun u hu => ?_
  · rintro (⟨hf, -⟩ | hstart)
    · exact hwait (entry?_of_fault? hf)
    · exact hdoing _ hstart rfl
  · exact comes_trans (fun v hv => comes_turn hc.sound ht heq hwait hv) (comes_run hs hdoing hu)

/-- Whether an act leaves all that belongs to an entry as it was, until the task that goes on in it
    comes to start the entry, as it was to do from the first. -/
def ComesToStart (c : Client) (j : EntryId) (a : Act) : Prop :=
  ∃ t s d rest, a = .wake t s ∧ .start j ∈ t.next ∧ Untouched j c d ∧
    c.after a = run t.id (.start j :: rest) d

theorem comesToStart_of_starts (hc : Reachable c) (known : j < c.entries.length) {s : Signal}
    (p : c.Permits (.wake t s)) (hp : c.partyOf t ≠ some j) (h : c.Starts j (.wake t s)) :
    c.ComesToStart j (.wake t s) := by
  have hwait : t.wait.entry? ≠ some j := fun hw => hp (partyOf_wait hw)
  have hnext : .start j ∈ t.next := by
    cases occasion_of_doneBy h with
    | planned hn => exact hn
    | arises ha =>
      cases ha
      exact absurd rfl hwait
  have hturn : t.wait ≠ .turn := fun hw => hp (hc.partyOf_turn p.1 hw hnext rfl)
  obtain ⟨i, hi, -⟩ := hc.suits p.1 hturn hnext
  rw [Starts, doneBy] at h
  cases heq : (c.dropTask t.id).heed t s with
  | none =>
    rw [heq] at h
    cases h
  | some a =>
    rw [heq] at h
    obtain ⟨b, course⟩ := a
    cases course with
    | goesOn plan =>
      obtain ⟨before, rest, rfl, hfirst, hrun⟩ := run_of_mem_doing h
      have hbefore : ∀ n ∈ before, n ∈ t.next ∨ (c.dropTask t.id).Arises t s n := fun n hn =>
        planned_of_heed heq (List.mem_append_left _ hn)
      refine ⟨t, s, run t.id before b, rest, rfl, hnext,
        untouched_turn hc known p.1 heq hp (fun n hn hj => ?_) (fun n hn hd => ?_), ?_⟩
      · rcases hbefore n hn with hm | ha
        · obtain ⟨_, hid, suits⟩ := hc.suits p.1 hturn hm
          refine hfirst (suits.eq_start ?_ hj ▸ hn)
          rintro rfl
          exact hwait hid
        · rcases ha.entry? with hnone | hsame
          · cases hnone.symm.trans hj
          · exact hwait (hsame.symm.trans hj)
      · rcases hbefore n hn with hm | ha
        · obtain ⟨_, -, suits⟩ := hc.suits p.1 hturn hm
          rw [suits.not_delivers hd]
          exact Option.some_ne_none _
        · cases ha with
          | submit => cases hi
          | attempt => exact Option.some_ne_none _
          | _ => cases hd
      · change c.wake t s = _
        rw [wake, heq]
        exact hrun
    | waits | ends => cases h

/-! Refreshes of servers -/

/-- The entries that are to be refreshed, as jobs ask for that leave the queue in an act. -/
def asked (c : Client) (a : Act) : List EntryId := (c.after a).refreshes (c.left a)

theorem party?_of_begun? {a : Act} (h : a.begun? = some j) : c.party? a = some j := by
  unfold Act.begun? at h
  split at h
  · rename_i t
    obtain ⟨k, w, next⟩ := t
    unfold Task.scheduled? at h
    split at h
    · rename_i n hw hn
      obtain rfl : w = .turn := hw
      obtain rfl : next = [n] := hn
      exact partyOf_turn (k := k) (Next.entry?_of_scheduled? h)
    · cases h
  · cases h

theorem scheduled_after (hc : Reachable c) {a : Act} (p : c.Permits a) (hp : c.party? a ≠ some j) :
    (c.after a).scheduled.count j = c.scheduled.count j + (c.asked a).count j := by
  have hcount := (passage_left hc.sound p).scheduled.count_eq j
  have hbegun : a.begun?.toList.count j = 0 := by
    rw [List.count_eq_zero]
    exact fun hm => hp (party?_of_begun? (Option.mem_toList.1 hm))
  rw [List.count_append, List.count_append, hbegun, Nat.zero_add] at hcount
  exact hcount.symm

theorem scheduled_afterAll (hc : Reachable c) {acts : List Act} (allows : c.Allows acts)
    (h : c.Without (·.Touches j) acts) :
    (c.afterAll acts).scheduled.count j = c.scheduled.count j + (c.along asked acts).count j := by
  induction acts generalizing c with
  | nil => rfl
  | cons a acts ih =>
    have ha := scheduled_after hc allows.1 fun hp => h.1 (.inl hp)
    calc
      ((c.after a).afterAll acts).scheduled.count j =
          (c.scheduled.count j + (c.asked a).count j) +
            ((c.after a).along asked acts).count j := by
        rw [ih (hc.act allows.1) allows.2 h.2, ha]
      _ = c.scheduled.count j + (c.asked a ++ (c.after a).along asked acts).count j := by
        rw [List.count_append, Nat.add_assoc]

/-! No server interferes with another one -/

/-- What all servers have in common, but for the queue. -/
structure Common (c d : Client) : Prop where
  settings : d.settings = c.settings
  registry : d.registry = c.registry
  now : d.now = c.now

theorem common_after (hc : Reachable c) {a : Act} (p : c.Permits a) {i : EntryId}
    (hi : c.party? a = some i) : Common c (c.after a) := by
  refine ⟨settings_after hc.sound p, registry_after hc.sound p ?_, now_after ?_⟩
  · rintro s rfl
    cases hi
  · rintro now rfl
    cases hi

/-- Whatever is done for one server leaves the others as they were, up to the start of another one
    by a task that starts all of them. So a server stays as it was as long as nothing is done for
    it. Only jobs that leave the queue have it refreshed once more each. -/
theorem servers_apart (hc : Reachable c) (known : j < c.entries.length) :
    (∀ a i, c.Permits a → c.party? a = some i → i ≠ j →
      Common c (c.after a) ∧ (Untouched j c (c.after a) ∨ c.ComesToStart j a) ∧
        (c.after a).scheduled.count j = c.scheduled.count j + (c.asked a).count j) ∧
    ∀ acts, c.Allows acts → c.Without (·.Touches j) acts → Untouched j c (c.afterAll acts) ∧
      (c.afterAll acts).scheduled.count j =
        c.scheduled.count j + (c.along asked acts).count j := by
  refine ⟨fun a i p hi hne => ?_, fun acts allows h =>
    ⟨untouched_afterAll hc known allows h, scheduled_afterAll hc allows h⟩⟩
  have hp : c.party? a ≠ some j := fun hj => hne (Option.some_inj.1 (hi.symm.trans hj))
  refine ⟨common_after hc p hi, ?_, scheduled_after hc p hp⟩
  by_cases h : c.Touches j a
  · refine .inr ?_
    rcases h.resolve_left hp with hs | hh
    · cases a with
      | wake t s => exact comesToStart_of_starts hc known p hp hs
      | start serverId =>
        cases occasion_of_doneBy hs with
        | start hr => exact absurd hr hp
      | startAll => cases hi
      | _ => cases occasion_of_doneBy hs
    · cases a with
      | stop serverId => exact absurd (Option.mem_toList.1 hh) hp
      | stopAll => cases hi
      | _ => cases hh
  · exact .inl (untouched_after hc p known h)

end

/-! A run with two servers, of which one fails -/

def elsewhere : Server := ⟨"e", "Elsewhere", "", "", .active⟩

/-- The acts that add another server, and lead to its first poll. -/
def toOtherPoll : List Act :=
  [.addServer elsewhere, .start "e", .wake ⟨2, .granted 1 false, [.started 1 1]⟩ .go]

def otherRefused : Act :=
  .wake ⟨2, .permission 1 elsewhere, []⟩ (.permitted (.error (.network "refused")))

theorem allows_toOtherPoll :
    (blank (strict 1)).Allows (toFirstPoll ++ (toOtherPoll ++ [otherRefused])) :=
  ⟨trivial, trivial, ⟨.head _, trivial⟩, trivial, trivial, ⟨.tail _ (.tail _ (.head _)), trivial⟩,
    ⟨.tail _ (.tail _ (.tail _ (.head _))), trivial⟩, trivial⟩

theorem not_touches {c : Client} {j : EntryId} {a : Act} (party : c.party? a ≠ some j)
    (done : j ∉ (c.doneBy a).filterMap Next.entry?) (halted : j ∉ c.halted a) :
    ¬ c.Touches j a := by
  rintro (hp | hs | hh)
  · exact party hp
  · exact done (List.mem_filterMap.2 ⟨_, hs, rfl⟩)
  · exact halted hh

theorem without_toOtherPoll : ((blank (strict 1)).afterAll toFirstPoll).Without (·.Touches 0)
    (toOtherPoll ++ [otherRefused]) := by
  refine ⟨not_touches ?_ ?_ ?_, not_touches ?_ ?_ ?_, not_touches ?_ ?_ ?_, not_touches ?_ ?_ ?_,
    trivial⟩ <;> decide +kernel

/-- Two servers are polled, and the poll of one fails, which pauses it. The other one goes on. -/
theorem failure_apart :
    let b := (blank (strict 1)).afterAll toFirstPoll
    let c := b.afterAll toOtherPoll
    c.party? otherRefused = some 1 ∧ (c.after otherRefused).status? "e" = some .paused ∧
      (c.after otherRefused).status? "n" = some .polling ∧
      Common c (c.after otherRefused) ∧ Untouched 0 c (c.after otherRefused) ∧
      Untouched 0 b (b.afterAll (toOtherPoll ++ [otherRefused])) := by
  intro b c
  have hnew : Client.new (strict 1) (fun _ => .ok []) .any ⟨0, ⟨0, 0, 0⟩⟩ =
      .ok (blank (strict 1)) := rfl
  obtain ⟨first, second⟩ := (allows_append ..).1 allows_toOtherPoll
  obtain ⟨third, last, -⟩ := (allows_append ..).1 second
  have hb : Reachable b := (Reachable.new hnew).afterAll first
  have hc : Reachable c := hb.afterAll third
  have party : c.party? otherRefused = some 1 := rfl
  obtain ⟨common, untouched, -⟩ :=
    (servers_apart hc (j := 0) (by decide +kernel)).1 otherRefused 1 last party (by decide)
  refine ⟨party, by decide +kernel, by decide +kernel, common, untouched.resolve_right ?_,
    ((servers_apart hb (j := 0) (by decide +kernel)).2 _ second without_toOtherPoll).1⟩
  rintro ⟨t, s, d, rest, ha, hstart, -⟩
  obtain ⟨rfl, rfl⟩ := Act.wake.inj ha
  cases hstart

end Harvest.Sync.Client
