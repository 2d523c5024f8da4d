import Harvest.Proofs.Sync.Works
/-!
What passes through the queue in an act. Jobs enter behind those that wait, and the oldest ones
leave, each with the verdict that is due at that moment: with its signs, and with its refresh.
-/

namespace Harvest.Sync

/-- The jobs that come into the queue by something that a task does. -/
def Next.queued : Next → List Queued
  | .enqueue serverId jobs => jobs.map fun p => ⟨serverId, p⟩
  | _ => []

def Next.scheduled? : Next → Option EntryId
  | .refresh id false => some id
  | _ => none

/-- The entry that a task is to refresh when its turn comes. -/
def Task.scheduled? (t : Task) : Option EntryId :=
  match t.wait, t.next with
  | .turn, [n] => n.scheduled?
  | _, _ => none

/-- The entry of a refresh that was scheduled, and whose turn has come. -/
def Act.begun? : Act → Option EntryId
  | .wake t .go => t.scheduled?
  | _ => none

theorem scheduled?_beginners (k : TaskId) (ns : List Next) :
    (beginners k ns).filterMap Task.scheduled? = ns.filterMap Next.scheduled? := by
  induction ns generalizing k with
  | nil => rfl
  | cons n ns ih =>
    have hn : Task.scheduled? ⟨k, .turn, [n]⟩ = n.scheduled? := rfl
    rw [beginners, List.filterMap_cons, List.filterMap_cons, hn, ih]

theorem scheduled?_opens {ns : List Next} (h : ∀ n ∈ ns, n.Opens) :
    ns.filterMap Next.scheduled? = [] := by
  rw [List.filterMap_eq_nil_iff]
  intro n hn
  have := h n hn
  cases n <;> first | rfl | exact this.elim

theorem scheduled?_refreshes (ids : List EntryId) :
    (ids.map fun id => Next.refresh id false).filterMap Next.scheduled? = ids := by
  induction ids with
  | nil => rfl
  | cons id ids ih =>
    have hid : (Next.refresh id false).scheduled? = some id := rfl
    rw [List.map_cons, List.filterMap_cons_some hid, ih]

namespace Client

/-- The entries that tasks are to refresh when their turn comes. -/
def scheduled (c : Client) : List EntryId := c.tasks.filterMap Task.scheduled?

section

variable {c d : Client}

theorem Works.scheduled {ns : List Next} (h : Works c d ns) :
    d.scheduled = c.scheduled ++ ns.filterMap Next.scheduled? := by
  rw [Client.scheduled, h.tasks, List.filterMap_append, scheduled?_beginners]
  rfl

theorem Works.scheduled_opens {ns : List Next} (h : Works c d ([] ++ ns) ∧ ∀ n ∈ ns, n.Opens) :
    d.scheduled = c.scheduled := by
  have hs := h.1.scheduled
  rw [List.nil_append, scheduled?_opens h.2, List.append_nil] at hs
  exact hs

theorem scheduled_suspend (c : Client) (k : TaskId) {w : Wait} (hw : w ≠ .turn)
    (next : List Next) : (c.suspend k w next).scheduled = c.scheduled := by
  have hnone : Task.scheduled? ⟨k, w, next⟩ = none := by
    unfold Task.scheduled?
    split
    · exact absurd (by assumption) hw
    · rfl
  rw [scheduled, suspend, List.filterMap_append, List.filterMap_cons_none hnone]
  exact List.append_nil _

theorem tasks_acquire (c : Client) (k : TaskId) (id : EntryId) (forced : Bool) :
    (c.acquire k id forced).1.tasks = c.tasks := by
  unfold acquire
  split
  · rfl
  · split <;> rfl

theorem scheduled_dropTask (n : c.Numbered) {t : Task} (ht : t ∈ c.tasks) :
    c.scheduled.Perm (t.scheduled?.toList ++ (c.dropTask t.id).scheduled) := by
  have hp := (n.tasks_perm ht).filterMap Task.scheduled?
  rwa [filterMap_cons_toList] at hp

theorem scheduled_grant (n : c.Numbered) (k : TaskId) : (c.grant k).scheduled = c.scheduled := by
  unfold grant
  split
  · rename_i i id forced next heq
    obtain ⟨hm, rfl⟩ := mem_of_task? heq
    obtain ⟨xs, ys, hxy, hd⟩ := n.exists_split hm
    have hw : Wait.granted id forced ≠ .turn := by simp
    have hnone : Task.scheduled? ⟨i, .lock id forced, next⟩ = none := rfl
    rw [scheduled_suspend _ _ hw, scheduled, scheduled, hd, hxy, List.filterMap_append,
      List.filterMap_append, List.filterMap_cons_none hnone]
  · rfl

theorem scheduled_release (n : c.Numbered) (id : EntryId) :
    (c.release id).scheduled = c.scheduled := by
  unfold release
  split
  · rfl
  · rfl
  · exact scheduled_grant (c := c.modifyEntry id _) ⟨n.nodup, n.below⟩ _

theorem scheduled_fetched (n : c.Numbered) (id : EntryId) (server : Server)
    (result : Except Error Resource.Catalog) :
    (c.fetched id server result).scheduled = c.scheduled := by
  have hm : ∀ f s, (((c.modifyEntry id f).reveal s).release id).scheduled = c.scheduled :=
    fun f s => scheduled_release (c := (c.modifyEntry id f).reveal s) ⟨n.nodup, n.below⟩ id
  unfold fetched
  split
  · exact hm _ _
  · exact hm _ _

theorem scheduled_refresh (n : c.Numbered) (id : EntryId) (forced : Bool) (next : List Next) :
    (c.refresh id forced next).1.scheduled = c.scheduled := by
  unfold refresh
  split
  · rfl
  · split
    · exact scheduled_release (c := c.reveal _) ⟨n.nodup, n.below⟩ id
    · split
      · exact scheduled_fetched n ..
      · rfl

theorem scheduled_perform (c : Client) (k : TaskId) {n : Next}
    (hn : ∀ serverId jobs, n ≠ .enqueue serverId jobs) :
    (c.perform k n).1.scheduled = c.scheduled := by
  have h : Works c c [] := .refl c
  have same : ∀ d : Client, Works c d [] → d.scheduled = c.scheduled := fun d hd => by
    simpa using hd.scheduled
  cases n with
  | start id =>
    have ha := tasks_acquire (c.retime id (some .poll)) k id false
    rw [perform, beginStart_eq, scheduled]
    dsimp only
    split <;> rename_i heq <;> rw [heq] at ha <;> rw [ha] <;> rfl
  | started id token =>
    rw [perform]
    split
    · rfl
    · split <;> rw [poll_fst]
      rw [(h.spawn (.beginTimer id token)).scheduled]
      exact List.append_nil _
  | refresh id forced => rw [perform, scheduled, tasks_acquire, scheduled]
  | poll id => rw [perform, poll_fst]
  | enqueue serverId jobs => exact absurd rfl (hn serverId jobs)
  | submit result => exact same _ (h.submit result)
  | attempt x => exact same _ (h.attempt x)
  | execute job => exact same _ (h.execute job)
  | beginTimer | timer | beginPause | beginDriver => rfl

theorem scheduled_heed (n : c.Numbered) {t : Task} {s : Signal} {a : Client × Course}
    (heq : c.heed t s = some a) (hw : ∀ driver ticker, t.wait ≠ .drive driver ticker) :
    a.1.scheduled = c.scheduled := by
  have h : Works c c [] := .refl c
  cases heeds_of_heed heq with
  | granted => exact scheduled_refresh n ..
  | resources => exact scheduled_fetched n ..
  | permission =>
    obtain ⟨ms, hms⟩ := h.permitted _ _ _ _
    exact Works.scheduled_opens hms
  | jobs =>
    obtain ⟨ms, hms⟩ := h.polled _ _ _ _
    exact Works.scheduled_opens hms
  | submission =>
    obtain ⟨ms, hms⟩ := h.delivered _ _ _ _ _
    exact Works.scheduled_opens hms
  | drive => exact absurd rfl (hw _ _)
  | turn | page | tick | resume | tickCancelled | resumeCancelled => rfl

end

/-- What is to be seen of the verdicts on some jobs. -/
def verdicts (c : Client) (qs : List Queued) : List (Nat × Sign) :=
  qs.flatMap fun q => ((c.verdict q).signs q).map fun s => (c.now.clock, s)

def refreshes (c : Client) (qs : List Queued) : List EntryId :=
  qs.filterMap fun q => (c.verdict q).refresh?

theorem Frame.verdicts {c d : Client} (h : Frame c d) (qs : List Queued) :
    d.verdicts qs = c.verdicts qs := by
  simp only [Client.verdicts, h.verdict, h.now]

theorem Frame.refreshes {c d : Client} (h : Frame c d) (qs : List Queued) :
    d.refreshes qs = c.refreshes qs := by
  simp only [Client.refreshes, h.verdict]

/-- Some jobs enter the queue, and others leave it. What is to be seen besides the verdicts on them
    is of a certain kind. -/
structure Passes (P : Sign → Prop) (c d : Client) (ins outs : List Queued) : Prop where
  queue : outs ++ d.queue.pending = c.queue.pending ++ ins
  signs : ∃ new, d.signs = c.signs ++ new ∧ new.filter (·.2.judges) = d.verdicts outs ∧
    ∀ s ∈ new, s.2.judges = false → P s.2
  scheduled : d.scheduled = c.scheduled ++ d.refreshes outs

section

variable {P : Sign → Prop} {c d e : Client} {ins outs ins' outs' : List Queued}

theorem Passes.trans (h : Passes P c d ins outs) (g : Passes P d e ins' outs') (f : Frame d e) :
    Passes P c e (ins ++ ins') (outs ++ outs') := by
  obtain ⟨xs, hx, hxv, hxp⟩ := h.signs
  obtain ⟨ys, hy, hyv, hyp⟩ := g.signs
  refine ⟨?_, ⟨xs ++ ys, ?_, ?_, ?_⟩, ?_⟩
  · calc
      (outs ++ outs') ++ e.queue.pending = outs ++ (d.queue.pending ++ ins') := by
        rw [List.append_assoc, g.queue]
      _ = (c.queue.pending ++ ins) ++ ins' := by rw [← List.append_assoc, h.queue]
      _ = c.queue.pending ++ (ins ++ ins') := List.append_assoc ..
  · rw [hy, hx, List.append_assoc]
  · rw [List.filter_append, hxv, hyv, ← f.verdicts, Client.verdicts, Client.verdicts,
      Client.verdicts, List.flatMap_append]
  · intro s hs
    exact (List.mem_append.1 hs).elim (hxp s) (hyp s)
  · rw [g.scheduled, h.scheduled, ← f.refreshes, List.append_assoc, Client.refreshes,
      Client.refreshes, Client.refreshes, List.filterMap_append]

theorem Reveals.passes (h : Reveals (fun s => s.judges = false ∧ P s) c d)
    (scheduled : d.scheduled = c.scheduled) : Passes P c d [] [] := by
  obtain ⟨new, hnew, hs⟩ := h.signs
  refine ⟨?_, ⟨new, hnew, ?_, fun s hm _ => (hs s hm).2⟩, ?_⟩
  · rw [h.queue]
    exact (List.append_nil _).symm
  · rw [List.filter_eq_nil_iff.2 fun s hm => by simp [(hs s hm).1]]
    rfl
  · rw [scheduled]
    exact (List.append_nil _).symm

theorem passes_withQueue {r : JobQueue Queued × Option Queued}
    (h : r.2.toList ++ r.1.pending = c.queue.pending ++ ins) :
    Passes P c (c.withQueue r) ins r.2.toList := by
  have f : Frame c (c.withQueue r) := (Frame.refl c).withQueue r
  obtain ⟨queue, out⟩ := r
  cases out with
  | none =>
    have hs : (c.withQueue (queue, none)).scheduled = c.scheduled ++ [] :=
      (List.append_nil _).symm
    exact ⟨h, ⟨[], (List.append_nil _).symm, rfl, by simp⟩, hs⟩
  | some q =>
    have hd : c.withQueue (queue, some q) = { c with queue := queue }.dispatch q := rfl
    have hv : { c with queue := queue }.verdict q = c.verdict q := rfl
    refine ⟨?_, ⟨((c.verdict q).signs q).map fun s => (c.now.clock, s), ?_, ?_, ?_⟩, ?_⟩
    · rw [hd, queue_dispatch]
      exact h
    · rw [hd, signs_dispatch, hv]
    · rw [f.verdicts, verdicts, Option.toList_some, List.flatMap_singleton, List.filter_eq_self]
      intro s hs
      obtain ⟨v, hm, rfl⟩ := List.mem_map.1 hs
      exact Verdict.judges_of_mem hm
    · intro s hs hj
      obtain ⟨v, hm, rfl⟩ := List.mem_map.1 hs
      cases hj.symm.trans (Verdict.judges_of_mem hm)
    · have hw := ((Works.refl { c with queue := queue }).dispatch q).scheduled
      have hq : c.refreshes [q] = (c.verdict q).refresh?.toList := by
        rw [refreshes, filterMap_cons_toList, List.filterMap_nil, List.append_nil]
      rw [f.refreshes, Option.toList_some, hq, hd, hw, List.nil_append, scheduled?_refreshes, hv]
      rfl

theorem passes_enqueue (c : Client) (serverId : String) (jobs : List Job.Parameters) :
    ∃ outs, Passes P c (c.enqueue serverId jobs) (jobs.map fun p => ⟨serverId, p⟩) outs := by
  induction jobs generalizing c with
  | nil =>
    exact ⟨[], Reveals.passes (.refl c) rfl⟩
  | cons p rest ih =>
    have hp : Passes P c (c.withQueue (c.queue.add c.now.clock ⟨serverId, p⟩)) [⟨serverId, p⟩] _ :=
      passes_withQueue (JobQueue.add_split ..)
    obtain ⟨outs, hr⟩ := ih (c.withQueue (c.queue.add c.now.clock ⟨serverId, p⟩))
    exact ⟨_, hp.trans hr (Frame.enqueue (.refl _) serverId rest)⟩

theorem passes_perform (plain : ∀ s, s.Plain → P s) (c : Client) (posts : Posting P c)
    (fetches : ∀ r, P (.sent .page r)) (k : TaskId) (n : Next) :
    ∃ outs, Passes P c (c.perform k n).1 n.queued outs := by
  by_cases he : ∃ serverId jobs, n = .enqueue serverId jobs
  · obtain ⟨serverId, jobs, rfl⟩ := he
    exact passes_enqueue c serverId jobs
  · have hn : ∀ serverId jobs, n ≠ .enqueue serverId jobs := fun sid jobs h => he ⟨sid, jobs, h⟩
    have hq : n.queued = [] := by
      cases n <;> first | rfl | exact absurd rfl (hn _ _)
    have hr : Reveals (fun s => s.judges = false ∧ P s) c (c.perform k n).1 :=
      Reveals.perform (fun s hs => ⟨hs.judges, plain s hs⟩) (fun id server hash result r hs hr =>
          ⟨rfl, posts id server hash result r hs hr⟩)
        (fun r => ⟨rfl, fetches r⟩) (.refl c) k hn
    rw [hq]
    exact ⟨[], hr.passes (scheduled_perform c k hn)⟩

theorem passes_run (plain : ∀ s, s.Plain → P s) (fetches : ∀ r, P (.sent .page r)) {k : TaskId}
    {next : List Next} {c : Client} (posts : Posting P c) :
    ∃ outs, Passes P c (run k next c) ((doing k next c).flatMap Next.queued) outs := by
  induction next generalizing c with
  | nil => exact ⟨[], Reveals.passes (.refl c) rfl⟩
  | cons n rest ih =>
    obtain ⟨outs, hp⟩ := passes_perform plain c posts fetches k n
    have hr := rests_perform c k n
    have hf := (Frame.refl c).perform k n
    rw [run, doing, List.flatMap_cons]
    generalize c.perform k n = a at hp hr hf
    obtain ⟨d, p⟩ := a
    cases p with
    | done =>
      obtain ⟨more, hm⟩ := ih (posts.frame hf)
      exact ⟨outs ++ more, hp.trans hm (Frame.refl d).run⟩
    | waiting w more =>
      have hs : Passes P d (d.suspend k w (more ++ rest)) [] [] :=
        Reveals.passes ((Reveals.refl d).congr rfl rfl) (scheduled_suspend d k hr.ne_turn _)
      exact ⟨outs ++ [], hp.trans hs ((Frame.refl d).suspend ..)⟩

end

/-- A kind of signs, to which all belong that an act may show besides verdicts. -/
structure Admits (c : Client) (a : Act) (P : Sign → Prop) : Prop where
  plain : ∀ s, s.Plain → P s
  posts : Posting P c
  fetches : ∀ r, P (.sent .page r)
  asks : ∀ {k id forced next e r}, a = .wake ⟨k, .granted id forced, next⟩ .go →
    c.entry? id = some e → (forced = false → c.recentFetch? e = none) →
    Coordinator.resourcesRequest c.settings.userAgent e.server = .ok r → P (.sent (.resources id) r)
  polls : ∀ {k id server next answer r},
    a = .wake ⟨k, .permission id server, next⟩ (.permitted answer) →
    answer.bind (Coordinator.jobsRequest c.settings.userAgent server) = .ok r →
    P (.sent (.jobs id) r)
  updates : ∀ {k id server r next reply catalog},
    a = .wake ⟨k, .resources id server r, next⟩ (.reply reply) →
    Coordinator.catalog c.settings.requestTimeout r reply = .ok catalog →
    P (.event (.updatedResources server catalog.resources))

/-- What passes through the queue in an act, in which some jobs leave it. -/
structure Passage (P : Sign → Prop) (c : Client) (a : Act) (outs : List Queued) : Prop where
  queue : outs ++ (c.after a).queue.pending =
    c.queue.pending ++ (c.doneBy a).flatMap Next.queued
  signs : (c.shown a).filter (·.2.judges) = (c.after a).verdicts outs ∧
    ∀ s ∈ c.shown a, s.2.judges = false → P s.2
  scheduled : (c.scheduled ++ (c.after a).refreshes outs).Perm
    (a.begun?.toList ++ (c.after a).scheduled)

section

variable {P : Sign → Prop} {c : Client} {a : Act}

theorem Passes.passage {outs : List Queued}
    (h : Passes P c (c.after a) ((c.doneBy a).flatMap Next.queued) outs)
    (begun : a.begun? = none) : Passage P c a outs := by
  obtain ⟨new, hnew, hv, hp⟩ := h.signs
  rw [← shown_of_signs hnew] at hv hp
  refine ⟨h.queue, ⟨hv, hp⟩, ?_⟩
  rw [begun, h.scheduled]
  exact .refl _

theorem passes_heed (h : c.Sound) {t : Task} (ht : t ∈ c.tasks) {s : Signal}
    (admits : c.Admits (.wake t s) P) {b : Client × Course}
    (heq : (c.dropTask t.id).heed t s = some b) :
    ∃ outs, Passes P (c.dropTask t.id) b.1 [] outs := by
  have hdrop : (c.dropTask t.id).Sound := (h.resume ht).of_suspend
  by_cases hd : ∃ driver ticker, t.wait = .drive driver ticker
  · obtain ⟨driver, ticker, hd⟩ := hd
    cases heeds_of_heed heq with
    | drive => exact ⟨_, passes_withQueue (by rw [JobQueue.drive_split, List.append_nil])⟩
    | _ => cases hd
  · have hw : ∀ driver ticker, t.wait ≠ .drive driver ticker := fun x y h => hd ⟨x, y, h⟩
    have hr : Reveals (fun s => s.judges = false ∧ P s) (c.dropTask t.id) b.1 := by
      refine Reveals.heed (fun s hs => ⟨hs.judges, admits.plain s hs⟩) (.refl _) heq hw ?_ ?_ ?_
      · intro id forced e r hg he due hr
        obtain ⟨k, w, next⟩ := t
        obtain rfl : w = .granted id forced := hg
        cases s with
        | go => exact ⟨rfl, admits.asks rfl he due hr⟩
        | _ => cases heq
      · intro id server answer r hg hs hr
        obtain ⟨k, w, next⟩ := t
        obtain rfl : w = .permission id server := hg
        obtain rfl : s = .permitted answer := hs
        exact ⟨rfl, admits.polls rfl hr⟩
      · intro id server r reply catalog hg hs hr
        obtain ⟨k, w, next⟩ := t
        obtain rfl : w = .resources id server r := hg
        obtain rfl : s = .reply reply := hs
        exact ⟨rfl, admits.updates rfl hr⟩
    exact ⟨[], hr.passes (scheduled_heed hdrop.numbered heq hw)⟩

theorem Act.begun?_of_heed {c : Client} {t : Task} {s : Signal} {b : Client × Course}
    (h : c.heed t s = some b) : (Act.wake t s).begun? = t.scheduled? := by
  cases heeds_of_heed h <;> rfl

theorem Act.begun?_of_heed_none {c : Client} {t : Task} {s : Signal} (h : c.heed t s = none) :
    (Act.wake t s).begun? = none := by
  cases s with
  | go =>
    obtain ⟨k, w, next⟩ := t
    cases w <;> first | rfl | cases h
  | _ => rfl

theorem passes_follow (admits : c.Admits a P) {d : Client} (posts : Posting P d) {k : TaskId}
    {course : Course} {v : Wait} (onward : ∀ w, course.wait? = some w → Onward v w) :
    ∃ outs, Passes P d (d.follow k course)
      (match course with
        | .goesOn next => (doing k next d).flatMap Next.queued
        | _ => []) outs := by
  cases course with
  | goesOn next => exact passes_run admits.plain admits.fetches posts
  | waits w next =>
    have hw : w ≠ .turn := (onward w rfl).ne_turn
    exact ⟨[], Reveals.passes ((Reveals.refl d).congr rfl rfl) (scheduled_suspend d k hw next)⟩
  | ends => exact ⟨[], Reveals.passes (.refl d) rfl⟩

theorem passage_wake (h : c.Sound) {t : Task} (ht : t ∈ c.tasks) {s : Signal}
    (admits : c.Admits (.wake t s) P) : ∃ outs, Passage P c (.wake t s) outs := by
  cases heq : (c.dropTask t.id).heed t s with
  | none =>
    have hafter : c.after (.wake t s) = c := by rw [after, wake, heq]
    have hdone : c.doneBy (.wake t s) = [] := by rw [doneBy, heq]
    refine ⟨[], Passes.passage ?_ (Act.begun?_of_heed_none heq)⟩
    rw [hafter, hdone]
    exact Reveals.passes (.refl c) rfl
  | some b =>
    obtain ⟨outs, hb⟩ := passes_heed h ht admits heq
    have hdrop : (c.dropTask t.id).Sound := (h.resume ht).of_suspend
    have hfixed := (told_of_heed hdrop.numbered hdrop.registered heq).fixed
    have dropped : Posting P (c.dropTask t.id) := admits.posts.congr rfl fun _ => rfl
    have posts : Posting P b.1 := dropped.congr (congrArg Prod.fst hfixed) (server?_heed heq)
    obtain ⟨more, hf⟩ := passes_follow admits posts (k := t.id) (fun w hw => onward_of_heed heq hw)
    have hall := hb.trans hf ((Frame.refl b.1).follow t.id b.2)
    have hafter : c.after (.wake t s) = b.1.follow t.id b.2 := by rw [after, wake, heq]
    have hdone : (c.doneBy (.wake t s)).flatMap Next.queued = match b.2 with
        | .goesOn next => (doing t.id next b.1).flatMap Next.queued
        | _ => [] := by
      rw [doneBy, heq]
      obtain ⟨d, course⟩ := b
      cases course <;> rfl
    rw [← hafter, ← hdone, List.nil_append] at hall
    obtain ⟨new, hnew, hv, hp⟩ := hall.signs
    have hshown : c.shown (.wake t s) = new := shown_of_signs hnew
    refine ⟨outs ++ more, hall.queue, ?_, ?_⟩
    · rw [hshown]
      exact ⟨hv, hp⟩
    · have hdropped := scheduled_dropTask h.numbered ht
      rw [Act.begun?_of_heed heq, hall.scheduled, ← List.append_assoc]
      exact hdropped.append_right _

theorem passage_of_queue {d : Client} (hd : c.after a = d) (done : c.doneBy a = [])
    (begun : a.begun? = none) (pending : d.queue.pending = c.queue.pending)
    (signs : d.signs = c.signs) (tasks : d.scheduled = c.scheduled) : Passage P c a [] := by
  subst hd
  refine Passes.passage ⟨?_, ⟨[], ?_, rfl, by simp⟩, ?_⟩ begun
  · rw [done, pending]
    exact (List.append_nil _).symm
  · rw [signs, List.append_nil]
  · rw [tasks]
    exact (List.append_nil _).symm

theorem passes_startQueue (c : Client) : ∃ outs, Passes P c c.startQueue [] outs := by
  have hq : ∀ d : Client, d.queue = c.queue → d.signs = c.signs → d.scheduled = c.scheduled →
      ∃ outs, Passes P c (d.withQueue (c.queue.start c.now.clock)) [] outs := by
    intro d hqueue hsigns htasks
    have hd : Passes P c d [] [] := by
      refine ⟨?_, ⟨[], ?_, rfl, by simp⟩, ?_⟩
      · rw [hqueue]
        exact (List.append_nil _).symm
      · rw [hsigns, List.append_nil]
      · rw [htasks]
        exact (List.append_nil _).symm
    have hw : Passes P d (d.withQueue (c.queue.start c.now.clock)) [] _ :=
      passes_withQueue (by rw [hqueue, JobQueue.start_split, List.append_nil])
    exact ⟨_, hd.trans hw ((Frame.refl d).withQueue _)⟩
  unfold startQueue
  dsimp only
  split
  · exact hq c rfl rfl rfl
  · refine hq _ rfl rfl ?_
    rw [((Works.refl c).spawn _).scheduled]
    exact List.append_nil _

theorem passage_after (h : c.Sound) (p : c.Permits a) (admits : c.Admits a P) :
    ∃ outs, Passage P c a outs := by
  have hs := step_after h p
  generalize hd : c.after a = d at hs
  cases hs with
  | wake ht => exact passage_wake h ht admits
  | addServer s =>
    refine ⟨[], passage_of_queue hd rfl rfl ?_ ?_ ?_⟩
    · unfold addServer
      dsimp only
      split <;> rfl
    · unfold addServer
      dsimp only
      split <;> rfl
    · rw [scheduled, tasks_addServer, scheduled]
  | execute job =>
    refine ⟨[], passage_of_queue hd rfl rfl rfl rfl ?_⟩
    rw [((Works.refl c).spawn _).scheduled]
    exact List.append_nil _
  | still ho _ hr tasks =>
    subst hd
    have hsame : Reveals (fun s => s.judges = false ∧ P s) c (c.after a) :=
      hr.imp fun s hs => ⟨hs.judges, admits.plain s hs⟩
    have hbegun : a.begun? = none := by
      cases a <;> first | rfl | exact absurd rfl (ho.host _ _)
    refine ⟨[], Passes.passage ?_ hbegun⟩
    rw [ho.done]
    exact hsame.passes (by rw [scheduled, tasks, scheduled])
  | @stops _ queue ids ho hpending =>
    obtain ⟨htasks, -, hqueue, hsigns⟩ := unchanged_stopEntries ids { c with queue := queue }
    have hbegun : a.begun? = none := by
      cases a <;> first | rfl | exact absurd rfl (ho.host _ _)
    refine ⟨[], passage_of_queue hd ho.done hbegun ?_ hsigns ?_⟩
    · exact (congrArg JobQueue.pending hqueue).trans hpending
    · rw [scheduled, htasks, scheduled]
  | @begins _ d next ho hd' _ _ hs =>
    have hbegun : a.begun? = none := by
      cases a <;> first | rfl | exact absurd rfl (ho.host _ _)
    have hf : Frame c d := by
      rcases hd' with rfl | rfl
      · exact .refl _
      · exact (Frame.refl c).startQueue
    have hq : ∃ outs, Passes P c d [] outs := by
      rcases hd' with rfl | rfl
      · exact ⟨[], Reveals.passes (.refl _) rfl⟩
      · exact passes_startQueue c
    obtain ⟨outs, hq⟩ := hq
    obtain ⟨more, hr⟩ : ∃ more, Passes P { d with taskCount := d.taskCount + 1 }
        (d.undertake next) ((d.undertaking next).flatMap Next.queued) more :=
      passes_run admits.plain admits.fetches
        ((admits.posts.frame hf).congr rfl fun _ => rfl)
    have hu : Passes P d (d.undertake next) ((d.undertaking next).flatMap Next.queued) more :=
      ⟨hr.queue, hr.signs, hr.scheduled⟩
    refine ⟨outs ++ more, Passes.passage ?_ hbegun⟩
    rw [hd, ho.done]
    exact hq.trans hu (Frame.run ⟨rfl, rfl, rfl, fun _ => rfl⟩)

/-- Nothing is seen of a kind that has nothing to do with an act. -/
theorem filterMap_shown {β : Type} {f : Sign → Option β} (h : c.Sound) (p : c.Permits a)
    (admits : c.Admits a fun s => f s = none) (judged : ∀ s, s.judges = true → f s = none) :
    (c.shown a).filterMap (fun s => f s.2) = [] := by
  obtain ⟨outs, ho⟩ := passage_after h p admits
  rw [List.filterMap_eq_nil_iff]
  intro s hm
  cases hj : s.2.judges with
  | true => exact judged s.2 hj
  | false => exact ho.signs.2 s hm hj

end

end Client
end Harvest.Sync
