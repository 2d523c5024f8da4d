import Harvest.Proofs.Sync.Plans
/-!
A task among the others. Whatever they do, it stays where it is until it is told what it waits for;
at most they hand it the right to refresh.
-/

namespace Harvest.Sync.Client

/-- Whether a task waits, if only in a lock for the right that it is said to have. -/
def Stands (c : Client) (t : Task) : Prop := t ∈ c.tasks.map Task.asGranted

/-- Whether a task has come to its end. -/
def Over (c : Client) (k : TaskId) : Prop := ∀ t ∈ c.tasks, t.id ≠ k

theorem over_iff {c : Client} {k : TaskId} : c.Over k ↔ ∀ t, c.Stands t → t.id ≠ k := by
  simp [Over, Stands]

theorem Numbered.eq_of_stands {c : Client} (h : c.Numbered) {t u : Task} (ht : c.Stands t)
    (hu : c.Stands u) (hid : t.id = u.id) : t = u := by
  obtain ⟨x, hx, rfl⟩ := List.mem_map.1 ht
  obtain ⟨y, hy, rfl⟩ := List.mem_map.1 hu
  rw [List.inj_on_of_nodup_map h.nodup hx hy hid]

/-- A change that leaves a task alone. -/
structure Spares (k : TaskId) (c d : Client) : Prop where
  stands : ∀ t : Task, t.id = k → (d.Stands t ↔ c.Stands t)
  count : c.taskCount ≤ d.taskCount

section

variable {k : TaskId} {c d e : Client}

theorem Spares.of_eq (tasks : d.tasks = c.tasks) (count : d.taskCount = c.taskCount) :
    Spares k c d :=
  ⟨fun t _ => by rw [Stands, Stands, tasks], Nat.le_of_eq count.symm⟩

theorem Spares.trans (h : Spares k c d) (g : Spares k d e) : Spares k c e :=
  ⟨fun t ht => (g.stands t ht).trans (h.stands t ht), Nat.le_trans h.count g.count⟩

theorem Spares.over (h : Spares k c d) (hover : c.Over k) : d.Over k := by
  rw [over_iff] at hover ⊢
  exact fun t ht hk => hover t ((h.stands t hk).1 ht) hk

theorem Adds.spares {xs : List Task} (h : Adds c d xs) (hk : k < c.taskCount) : Spares k c d := by
  refine ⟨fun t ht => ?_, h.count⟩
  rw [Stands, h.tasks.mem_iff, List.mem_append]
  refine or_iff_left fun hx => ?_
  exact absurd (h.ids t hx).1 (Nat.not_le.2 (ht ▸ hk))

theorem Quiet.spares (h : Quiet c d) (hk : k < c.taskCount) : Spares k c d := by
  obtain ⟨xs, hx, -⟩ := h.adds
  exact hx.spares hk

theorem Spares.suspend {j : TaskId} (hj : j ≠ k) (w : Wait) (next : List Next) :
    Spares k c (c.suspend j w next) := by
  refine ⟨fun t ht => ?_, Nat.le_refl _⟩
  simp only [Stands, Client.suspend, List.map_append, List.mem_append]
  refine or_iff_left fun hx => hj ?_
  obtain rfl := List.mem_singleton.1 hx
  exact ht

theorem Spares.dropTask {j : TaskId} (hj : j ≠ k) : Spares k c (c.dropTask j) := by
  refine ⟨fun t ht => ?_, Nat.le_refl _⟩
  constructor <;> intro hs <;> obtain ⟨u, hu, rfl⟩ := List.mem_map.1 hs
  · exact List.mem_map_of_mem (List.mem_filter.1 hu).1
  · refine List.mem_map_of_mem (List.mem_filter.2 ⟨hu, ?_⟩)
    exact decide_eq_true fun he => hj (he.symm.trans ht)

theorem Told.adds {t : Task} {s : Signal} {a : Client × Course} (h : c.Told t s a) :
    ∃ xs, Adds c a.1 xs ∧ ∀ u ∈ xs, Fresh u := by
  have counted : ∀ {id : EntryId} {b : Client}, Quiet (c.countError id) b →
      ∃ xs, Adds c b xs ∧ ∀ u ∈ xs, Fresh u := by
    rintro id b q
    obtain ⟨xs, hx, hxs⟩ := q.adds
    exact ⟨xs, ⟨hx.tasks, hx.nodup, hx.ids, hx.count⟩, fun u hu => (hxs u hu).fresh⟩
  cases h with
  | quiet _ q => exact q.adds.imp fun _ hx => ⟨hx.1, fun u hu => (hx.2 u hu).fresh⟩
  | counted _ _ q => exact counted q
  | paused _ _ q =>
    obtain ⟨xs, hx, hxs⟩ := counted q
    rw [pause_eq]
    split
    · exact ⟨xs, hx.congr rfl rfl, hxs⟩
    · split
      · exact ⟨xs, hx.congr rfl rfl, hxs⟩
      · have hl : ∀ k n, Adds c (Client.log (Client.retime _ k (some .resume)) n) xs :=
          fun _ _ => hx.congr rfl rfl
        refine ⟨_, (hl _ _).trans (.spawn _ _), fun u hu => ?_⟩
        rcases List.mem_append.1 hu with hu | hu
        · exact hxs u hu
        · obtain rfl := List.mem_singleton.1 hu
          exact .pause

theorem Performs.adds {n : Next} (h : c.Performs n d) :
    ∃ xs, Adds c d xs ∧ ∀ u ∈ xs, Fresh u := by
  cases h with
  | start q =>
    obtain ⟨xs, hx, hxs⟩ := q.adds
    exact ⟨xs, ⟨hx.tasks, hx.nodup, hx.ids, hx.count⟩, fun u hu => (hxs u hu).fresh⟩
  | timer =>
    refine ⟨_, .spawn c _, fun u hu => ?_⟩
    obtain rfl := List.mem_singleton.1 hu
    exact .timer
  | quiet _ q => exact q.adds.imp fun _ hx => ⟨hx.1, fun u hu => (hx.2 u hu).fresh⟩

theorem taskCount_run {j : TaskId} {next : List Next} (h : (c.suspend j .turn next).Sound) :
    c.taskCount ≤ (run j next c).taskCount := by
  induction next generalizing c with
  | nil => exact Nat.le_refl _
  | cons n rest ih =>
    have hp := h.perform
    obtain ⟨xs, hx, -⟩ := h.performs.adds
    rw [run]
    generalize c.perform j n = a at hp hx
    obtain ⟨d, p⟩ := a
    cases p with
    | done => exact Nat.le_trans hx.count (ih hp)
    | waiting w more => exact hx.count

theorem taskCount_wake (h : c.Sound) {t : Task} (ht : t ∈ c.tasks) (s : Signal) :
    c.taskCount ≤ (c.wake t s).taskCount := by
  have hdrop : (c.dropTask t.id).Sound := (h.resume ht).of_suspend
  rw [wake]
  split
  · rename_i d course heq
    obtain ⟨xs, hx, -⟩ := (told_of_heed hdrop.numbered hdrop.registered heq).adds
    refine Nat.le_trans hx.count ?_
    cases course with
    | goesOn next => exact taskCount_run ((h.resume ht).heed heq)
    | waits w next => exact Nat.le_refl _
    | ends => exact Nat.le_refl _
  · exact Nat.le_refl _

theorem spares_run {j : TaskId} (hj : j ≠ k) {next : List Next}
    (h : (c.suspend j .turn next).Sound) (hk : k < c.taskCount) :
    Spares k c (run j next c) := by
  induction next generalizing c with
  | nil => exact .of_eq rfl rfl
  | cons n rest ih =>
    have hp := h.perform
    obtain ⟨xs, hx, -⟩ := h.performs.adds
    have hs : Spares k c (c.perform j n).1 := hx.spares hk
    rw [run]
    generalize c.perform j n = a at hp hs
    obtain ⟨d, p⟩ := a
    cases p with
    | done => exact hs.trans (ih hp (Nat.lt_of_lt_of_le hk hs.count))
    | waiting w more => exact hs.trans (.suspend hj w _)

theorem spares_follow {j : TaskId} (hj : j ≠ k) {course : Course} (h : (c.resumed j course).Sound)
    (hk : k < c.taskCount) : Spares k c (c.follow j course) := by
  cases course with
  | goesOn next => exact spares_run hj h hk
  | waits w next => exact .suspend hj w next
  | ends => exact .of_eq rfl rfl

theorem spares_wake (h : c.Sound) {t : Task} (ht : t ∈ c.tasks) (s : Signal)
    (hj : t.id ≠ k) (hk : k < c.taskCount) : Spares k c (c.wake t s) := by
  have hdrop : (c.dropTask t.id).Sound := (h.resume ht).of_suspend
  have hs : Spares k c (c.dropTask t.id) := .dropTask hj
  rw [wake]
  split
  · rename_i d course heq
    obtain ⟨xs, hx, -⟩ := (told_of_heed hdrop.numbered hdrop.registered heq).adds
    have hd : Spares k (c.dropTask t.id) d := hx.spares hk
    exact (hs.trans hd).trans
      (spares_follow hj ((h.resume ht).heed heq) (Nat.lt_of_lt_of_le hk hd.count))
  · exact .of_eq rfl rfl

theorem spares_undertake {next : List Next}
    (h : ({ c with taskCount := c.taskCount + 1 }.suspend c.taskCount .turn next).Sound)
    (hk : k < c.taskCount) : Spares k c (c.undertake next) := by
  have hr := spares_run (Nat.ne_of_gt hk) h (Nat.lt_succ_of_lt hk)
  exact ⟨hr.stands, Nat.le_trans (Nat.le_succ _) hr.count⟩

end

/-! The turns of a task -/

/-- Whether a task goes on in an act. -/
def isTurn (c : Client) (k : TaskId) : Act → Bool
  | .wake t s => t.id = k && ((c.dropTask t.id).heed t s).isSome
  | _ => false

/-- The acts in which a task goes on, each with the client as it was before. -/
def turns (c : Client) (k : TaskId) : List Act → List (Client × Act)
  | [] => []
  | a :: acts => (if c.isTurn k a then [(c, a)] else []) ++ (c.after a).turns k acts

theorem not_over_of_isTurn {c : Client} {a : Act} (p : c.Permits a) {k : TaskId}
    (ha : c.isTurn k a = true) : ¬ c.Over k := by
  cases a with
  | wake t s =>
    obtain ⟨hid, -⟩ : t.id = k ∧ ((c.dropTask t.id).heed t s).isSome := by
      simpa [isTurn] using ha
    exact fun hover => hover t p.1 hid
  | _ => cases ha

/-- The task that goes on is the one that stands there. -/
theorem exists_of_isTurn {c : Client} (n : c.Numbered) {a : Act} (p : c.Permits a) {t : Task}
    (hs : c.Stands t) (ha : c.isTurn t.id a = true) :
    ∃ u s b, a = .wake u s ∧ u ∈ c.tasks ∧ u.asGranted = t ∧ (c.dropTask u.id).Heeds u s b := by
  cases a with
  | wake u s =>
    obtain ⟨hid, hheed⟩ : u.id = t.id ∧ ((c.dropTask u.id).heed u s).isSome := by
      simpa [isTurn] using ha
    obtain ⟨b, hb⟩ := Option.isSome_iff_exists.1 hheed
    have hu : c.Stands u.asGranted := List.mem_map_of_mem p.1
    exact ⟨u, s, b, rfl, p.1, n.eq_of_stands hu hs hid, heeds_of_heed hb⟩
  | _ => cases ha

theorem spares_after {c : Client} (h : c.Sound) {a : Act} (p : c.Permits a) {k : TaskId}
    (hk : k < c.taskCount) (ha : c.isTurn k a = false) : Spares k c (c.after a) := by
  have hs := step_after h p
  generalize c.after a = d at hs
  cases hs with
  | @wake t s ht =>
    by_cases hj : t.id = k
    · have hnone : (c.dropTask t.id).heed t s = none := by simpa [isTurn, hj] using ha
      rw [wake, hnone]
      exact .of_eq rfl rfl
    · exact spares_wake h ht s hj hk
  | addServer s => exact .of_eq (tasks_addServer c s) (taskCount_addServer c s)
  | execute job => exact (Adds.spawn c _).spares hk
  | still _ _ _ tasks count => exact .of_eq tasks count
  | stops =>
    obtain ⟨htasks, hcount, -⟩ := unchanged_stopEntries _ _
    exact .of_eq htasks hcount
  | begins _ _ q _ hs =>
    have hq := q.spares hk
    exact hq.trans (spares_undertake hs (Nat.lt_of_lt_of_le hk hq.count))

/-- A task that has come to its end has no more turns. -/
theorem turns_of_over {c : Client} (hc : Reachable c) {acts : List Act} (allows : c.Allows acts)
    {k : TaskId} (hk : k < c.taskCount) (hover : c.Over k) :
    c.turns k acts = [] ∧ (c.afterAll acts).Over k := by
  induction acts generalizing c with
  | nil => exact ⟨rfl, hover⟩
  | cons a acts ih =>
    have ha : c.isTurn k a = false :=
      Bool.eq_false_iff.2 fun ha => not_over_of_isTurn allows.1 ha hover
    have hs := spares_after hc.sound allows.1 hk ha
    obtain ⟨hturns, hover⟩ :=
      ih (hc.act allows.1) allows.2 (Nat.lt_of_lt_of_le hk hs.count) (hs.over hover)
    exact ⟨by simp [turns, ha, hturns], hover⟩

end Harvest.Sync.Client
