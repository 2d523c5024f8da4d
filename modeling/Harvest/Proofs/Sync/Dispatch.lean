import Harvest.Proofs.Page.Belonging
import Harvest.Proofs.Queue.Thread
import Harvest.Proofs.Sync.Plans
import Harvest.Proofs.Sync.Signs
/-!
What becomes of a job that leaves the queue. There are six verdicts, of which every job gets one, by
what is known of its server at that moment; each of them is seen in signs of its own, and two of
them have the resources of the server refreshed. Whatever has happened while a job waited in the
queue, it is judged by what is known when it leaves the queue, and it comes from the answer to a
poll.
-/

/-! Verdicts -/

namespace Harvest.Sync

inductive Verdict
  | expired
  | unknownServer
  | unknownResource (entry : EntryId) (server : Server)
  /-- The server is passive and must not have jobs run. -/
  | passive (server : Server) (resource : Resource)
  | runs (job : Job)
  | rejected (entry : EntryId) (server : Server) (fault : Error)

def Verdict.signs (q : Queued) : Verdict → List Sign
  | .expired => [.notice (.expiredJob q.parameters)]
  | .unknownServer => [.notice (.unknownServer q.parameters.id q.serverId)]
  | .unknownResource _ server => [.notice (.unknownResource server q.parameters)]
  | .passive server resource =>
    [.notice (.passiveServer server q.parameters.id),
      .event (.insufficientAutonomy server resource)]
  | .runs job => [.event (.runJob job)]
  | .rejected _ server fault => [.notice (.rejectedJob server q.parameters.id fault)]

/-- The entry that a refresh is scheduled for. -/
def Verdict.refresh? : Verdict → Option EntryId
  | .unknownResource id _ => some id
  | .rejected id _ _ => some id
  | _ => none

theorem Verdict.judges_of_mem {q : Queued} {v : Verdict} {s : Sign} (h : s ∈ v.signs q) :
    s.judges = true := by
  cases v with
  | passive server resource =>
    rcases List.mem_cons.1 h with rfl | h
    · rfl
    · rw [List.mem_singleton.1 h]
      rfl
  | _ =>
    rw [List.mem_singleton.1 h]
    rfl

theorem Verdict.eq_runs_of_mem {q : Queued} {v : Verdict} {job : Job}
    (h : .event (.runJob job) ∈ v.signs q) : v = .runs job := by
  cases v with
  | runs job' =>
    cases List.mem_singleton.1 h
    rfl
  | _ => simp [Verdict.signs] at h

namespace Client

def verdict (c : Client) (q : Queued) : Verdict :=
  if q.parameters.isExpired c.now.date then .expired
  else
    match (c.registered? q.serverId).bind fun id => (c.known? id).map fun k => (id, k) with
    | none => .unknownServer
    | some (id, server, resources) =>
      match resources.find? fun r => r.id = q.parameters.resourceId with
      | none => .unknownResource id server
      | some r =>
        match server.autonomy with
        | .passive => .passive server r
        | .active =>
          match Job.make q.parameters r server.autonomy with
          | .ok job => .runs job
          | .error fault => .rejected id server fault

theorem Frame.verdict {c d : Client} (h : Frame c d) (q : Queued) : d.verdict q = c.verdict q := by
  have hr : d.registered? q.serverId = c.registered? q.serverId := by
    rw [registered?, h.registry]
    rfl
  simp only [Client.verdict, h.now, hr, h.known]

def revealAll (c : Client) (ss : List Sign) : Client :=
  { c with signs := c.signs ++ ss.map fun s => (c.now.clock, s) }

/-- Has the resources of an entry refreshed by a new task, if one is given. -/
def schedule (c : Client) : Option EntryId → Client
  | none => c
  | some id => c.spawn [.refresh id false]

theorem dispatch_eq (c : Client) (q : Queued) :
    c.dispatch q =
      (c.revealAll ((c.verdict q).signs q)).schedule (c.verdict q).refresh? := by
  unfold dispatch verdict
  by_cases hx : q.parameters.isExpired c.now.date
  · rw [if_pos hx, if_pos hx]
    rfl
  · rw [if_neg hx, if_neg hx]
    cases hr : c.registered? q.serverId with
    | none => rfl
    | some id =>
      cases he : c.entry? id with
      | none =>
        have hk : c.known? id = none := by rw [known?, he]; rfl
        simp only [hk, he, Option.bind_some, Option.map_none]
        rfl
      | some e =>
        have hk : c.known? id = some (e.server, e.resources) := by rw [known?, he]; rfl
        simp only [hk, he, Option.bind_some, Option.map_some, judge, Entry.resource?]
        cases e.resources.find? fun r => r.id = q.parameters.resourceId with
        | none => rfl
        | some r =>
          cases ha : e.server.autonomy with
          | passive =>
            simp only [Verdict.signs, Verdict.refresh?, revealAll, schedule, log, emit, reveal]
            simp
          | active =>
            simp only
            cases Job.make q.parameters r .active <;> rfl

theorem queue_dispatch (c : Client) (q : Queued) : (c.dispatch q).queue = c.queue := by
  rw [dispatch_eq]
  cases (c.verdict q).refresh? <;> rfl

theorem signs_dispatch (c : Client) (q : Queued) :
    (c.dispatch q).signs =
      c.signs ++ ((c.verdict q).signs q).map fun s => (c.now.clock, s) := by
  rw [dispatch_eq]
  cases (c.verdict q).refresh? <;> rfl

end Client
end Harvest.Sync

/-! Jobs that the host is told to run -/

namespace Harvest

namespace Sync

/-- Whether a sign leaves it at that, and has no job run. -/
def Sign.RunsNothing (s : Sign) : Prop := ∀ job, s ≠ .event (.runJob job)

def Sign.runsJob : Sign → Bool
  | .event (.runJob _) => true
  | _ => false

theorem Sign.exists_of_runsJob {s : Sign} (h : s.runsJob) : ∃ job, s = .event (.runJob job) := by
  unfold runsJob at h
  split at h
  · exact ⟨_, rfl⟩
  · cases h

theorem Sign.Plain.runsNothing {s : Sign} (h : s.Plain) : s.RunsNothing := by
  rintro job rfl
  cases h

theorem Sign.sent_runsNothing (p : Purpose) (r : Http.Request) :
    (Sign.sent p r).RunsNothing := by
  intro job h
  cases h

theorem Sign.updatedResources_runsNothing (server : Server) (resources : List Resource) :
    (Sign.event (.updatedResources server resources)).RunsNothing := by
  intro job h
  cases h

namespace Client

/-- What speaks for a job, by what is known at the moment. -/
structure Qualifies (c : Client) (q : Queued) (job : Job) : Prop where
  parameters : job.parameters = q.parameters
  server : ∃ id e, c.registered? q.serverId = some id ∧ c.entry? id = some e ∧
    e.server.autonomy = .active ∧
    e.resources.find? (fun r => r.id = job.parameters.resourceId) = some job.resource
  current : c.now.date.before job.parameters.expiresAt
  enabled : job.resource.disabled = false
  url : Url.parse job.parameters.url = .ok job.url
  host : job.url.hostText? = some job.resource.hostname
  path : ∃ route, Route.compile job.resource.urlPattern = .ok route ∧
    route.isMatch job.url.pathText

theorem Qualifies.frame {c d : Client} {q : Queued} {job : Job} (h : c.Qualifies q job)
    (f : Frame c d) : d.Qualifies q job := by
  obtain ⟨id, e, hr, he, hactive, hfind⟩ := h.server
  have hk := f.known id
  rw [known?, known?, he] at hk
  obtain ⟨e', he', heq⟩ := Option.map_eq_some_iff.1 hk
  obtain ⟨hserver, hresources⟩ := Prod.mk.inj heq
  refine ⟨h.parameters, ⟨id, e', ?_, he', hserver ▸ hactive, hresources ▸ hfind⟩, ?_, h.enabled,
    h.url, h.host, h.path⟩
  · rw [registered?, f.registry]
    exact hr
  · rw [f.now]
    exact h.current

theorem qualifies_of_verdict {c : Client} {q : Queued} {job : Job}
    (h : c.verdict q = .runs job) : c.Qualifies q job := by
  unfold verdict at h
  split at h
  · cases h
  · rename_i hcurrent
    split at h
    · cases h
    · rename_i id server resources hserver
      split at h
      · cases h
      · rename_i r hr
        split at h
        · cases h
        · rename_i hactive
          split at h
          · rename_i job' hjob
            cases h
            obtain ⟨i, hi, hknown⟩ := Option.bind_eq_some_iff.1 hserver
            obtain ⟨⟨_, _⟩, hk, hpair⟩ := Option.map_eq_some_iff.1 hknown
            cases hpair
            obtain ⟨e, he, hpair⟩ := Option.map_eq_some_iff.1 hk
            obtain ⟨rfl, rfl⟩ := Prod.mk.inj hpair
            obtain ⟨u, hu, ⟨hd, hh, route, hroute, hm⟩, rfl⟩ := Job.make_eq_ok_iff.1 hjob
            have hdate : c.now.date.before q.parameters.expiresAt := by
              simpa [Job.Parameters.isExpired] using hcurrent
            exact ⟨rfl, ⟨_, _, hi, he, hactive, hr⟩, hdate, hd, hu, hh, route, hroute, hm⟩
          · cases h

/-- No sign has a job run but for one that comes of certain jobs and qualifies. -/
structure Launches (G : Queued → Prop) (c d : Client) : Prop where
  pending : ∀ q ∈ d.queue.pending, q ∈ c.queue.pending ∨ G q
  signs : ∃ new : List (Nat × Sign), d.signs = c.signs ++ new ∧
    ∀ s ∈ new, ∀ job, s.2 = .event (.runJob job) →
      ∃ q, (q ∈ c.queue.pending ∨ G q) ∧ d.Qualifies q job

section

variable {G : Queued → Prop} {c d e : Client}

theorem Launches.trans (h : Launches G c d) (g : Launches G d e) (f : Frame d e) :
    Launches G c e := by
  have hpending : ∀ q, q ∈ d.queue.pending ∨ G q → q ∈ c.queue.pending ∨ G q := fun q hq =>
    hq.elim (h.pending q) .inr
  obtain ⟨xs, hx, hxs⟩ := h.signs
  obtain ⟨ys, hy, hys⟩ := g.signs
  refine ⟨fun q hq => hpending q (g.pending q hq), xs ++ ys,
    by rw [hy, hx, List.append_assoc], ?_⟩
  intro s hs job hj
  rcases List.mem_append.1 hs with hs | hs
  · obtain ⟨q, hq, hqual⟩ := hxs s hs job hj
    exact ⟨q, hq, hqual.frame f⟩
  · obtain ⟨q, hq, hqual⟩ := hys s hs job hj
    exact ⟨q, hpending q hq, hqual⟩

theorem Reveals.launches (h : Reveals Sign.RunsNothing c d) :
    Launches G c d := by
  obtain ⟨xs, hx, hxs⟩ := h.signs
  refine ⟨fun q hq => .inl (h.queue ▸ hq), xs, hx, ?_⟩
  exact fun s hs job hj => absurd hj (hxs s hs job)

theorem launches_dispatch (c : Client) (q : Queued) :
    (c.dispatch q).queue = c.queue ∧ ∃ new, (c.dispatch q).signs = c.signs ++ new ∧
      ∀ s ∈ new, ∀ job, s.2 = .event (.runJob job) → (c.dispatch q).Qualifies q job := by
  refine ⟨queue_dispatch c q, _, signs_dispatch c q, ?_⟩
  intro s hs job hj
  obtain ⟨t, ht, rfl⟩ := List.mem_map.1 hs
  obtain rfl : t = .event (.runJob job) := hj
  have hqual : c.Qualifies q job := qualifies_of_verdict (Verdict.eq_runs_of_mem ht)
  exact hqual.frame ((Frame.refl c).dispatch q)

theorem launches_withQueue {c : Client} {r : JobQueue Queued × Option Queued}
    (hpending : ∀ q ∈ r.1.pending, q ∈ c.queue.pending ∨ G q)
    (hout : ∀ q, r.2 = some q → q ∈ c.queue.pending ∨ G q) : Launches G c (c.withQueue r) := by
  obtain ⟨queue, out⟩ := r
  cases out with
  | none => exact ⟨hpending, [], (List.append_nil _).symm, by simp⟩
  | some q =>
    obtain ⟨hqueue, new, hnew, hjobs⟩ := launches_dispatch { c with queue := queue } q
    refine ⟨fun x hx => hpending x ?_, new, hnew, fun s hs job hj => ?_⟩
    · rw [← show (c.withQueue (queue, some q)).queue = queue from hqueue]
      exact hx
    · exact ⟨q, hout q rfl, hjobs s hs job hj⟩

theorem launches_enqueue {serverId : String} {jobs : List Job.Parameters} {c : Client}
    (hjobs : ∀ p ∈ jobs, G ⟨serverId, p⟩) : Launches G c (c.enqueue serverId jobs) := by
  induction jobs generalizing c with
  | nil => exact Reveals.launches (.refl c)
  | cons p rest ih =>
    have hp : G ⟨serverId, p⟩ := hjobs p List.mem_cons_self
    have hadd : ∀ q, q ∈ c.queue.pending ++ [⟨serverId, p⟩] → q ∈ c.queue.pending ∨ G q := by
      intro q hq
      rcases List.mem_append.1 hq with hq | hq
      · exact .inl hq
      · obtain rfl := List.mem_singleton.1 hq
        exact .inr hp
    have hfirst : Launches G c (c.withQueue (c.queue.add c.now.clock ⟨serverId, p⟩)) :=
      launches_withQueue (fun q hq => hadd q (JobQueue.mem_add_pending hq))
        fun q hq => hadd q (JobQueue.mem_of_add hq)
    exact hfirst.trans (ih fun q hq => hjobs q (List.mem_cons_of_mem p hq))
      (Frame.enqueue (.refl _) serverId rest)

theorem launches_perform (c : Client) (k : TaskId) {n : Next}
    (hn : ∀ serverId jobs, n = .enqueue serverId jobs → ∀ p ∈ jobs, G ⟨serverId, p⟩) :
    Launches G c (c.perform k n).1 := by
  by_cases he : ∃ serverId jobs, n = .enqueue serverId jobs
  · obtain ⟨serverId, jobs, rfl⟩ := he
    exact launches_enqueue (hn serverId jobs rfl)
  · refine Reveals.launches (Reveals.perform (fun _ => Sign.Plain.runsNothing) ?_ ?_ (.refl c) k ?_)
    · exact fun id _ _ _ r _ _ => Sign.sent_runsNothing (.submission id) r
    · exact Sign.sent_runsNothing .page
    · exact fun serverId jobs hn => he ⟨serverId, jobs, hn⟩

theorem launches_run {k : TaskId} {next : List Next} {c : Client}
    (hnext : ∀ serverId jobs, .enqueue serverId jobs ∈ next → ∀ p ∈ jobs, G ⟨serverId, p⟩) :
    Launches G c (run k next c) := by
  induction next generalizing c with
  | nil => exact Reveals.launches (.refl c)
  | cons n rest ih =>
    have hp := launches_perform c k (G := G) (n := n) fun sid jobs hn =>
      hnext sid jobs (hn ▸ List.mem_cons_self)
    rw [run]
    generalize c.perform k n = a at hp
    obtain ⟨d, p⟩ := a
    cases p with
    | done =>
      exact hp.trans (ih fun sid jobs hm => hnext sid jobs (List.mem_cons_of_mem n hm))
        (Frame.refl d).run
    | waiting w more =>
      have hs : Reveals Sign.RunsNothing d (d.suspend k w (more ++ rest)) :=
        (Reveals.refl d).congr rfl rfl
      exact hp.trans hs.launches ((Frame.refl d).suspend ..)

theorem launches_heed {t : Task} {s : Signal} {a : Client × Course} (h : c.heed t s = some a) :
    Launches G c a.1 := by
  by_cases hw : ∃ driver ticker, t.wait = .drive driver ticker
  · obtain ⟨driver, ticker, hw⟩ := hw
    cases heeds_of_heed h with
    | drive =>
      exact launches_withQueue (fun q hq => .inl (JobQueue.mem_drive_pending hq))
        fun q hq => .inl (JobQueue.mem_of_drive hq)
    | _ => cases hw
  · refine Reveals.launches (Reveals.heed (fun _ => Sign.Plain.runsNothing) (.refl c) h ?_ ?_ ?_
      ?_)
    · exact fun driver ticker he => hw ⟨driver, ticker, he⟩
    · exact fun id _ _ r _ _ _ _ => Sign.sent_runsNothing (.resources id) r
    · exact fun id _ _ r _ _ _ => Sign.sent_runsNothing (.jobs id) r
    · exact fun _ server _ _ catalog _ _ _ =>
        Sign.updatedResources_runsNothing server catalog.resources

end

/-! Where the jobs come from -/

/-- Whether an act brings the answer to a poll, and a job is in it. -/
inductive Answered (c : Client) (q : Queued) : Act → Prop
  | intro {k : TaskId} {id : EntryId} {server : Server} {r : Http.Request} {next : List Next}
      {reply : Http.Reply} {answer : Coordinator.Jobs} : q.serverId = server.id →
      Coordinator.jobs c.settings.requestTimeout r reply = .ok answer →
      q.parameters ∈ answer.jobs →
      c.Answered q (.wake ⟨k, .jobs id server r, next⟩ (.reply reply))

/-- Whether all the jobs that tasks are to put into the queue are of a kind. -/
def Stocked (G : Queued → Prop) (c : Client) : Prop :=
  ∀ t ∈ c.tasks, ∀ serverId jobs, .enqueue serverId jobs ∈ t.next → ∀ p ∈ jobs, G ⟨serverId, p⟩

section

variable {G : Queued → Prop} {c d : Client}

theorem Fresh.not_enqueue {t : Task} (h : Fresh t) {serverId : String}
    {jobs : List Job.Parameters} : .enqueue serverId jobs ∉ t.next := by
  intro hm
  cases h <;> cases List.mem_singleton.1 hm

theorem Stocked.of_kept (h : Stocked G c) (hd : ∀ t ∈ d.tasks, c.Kept t ∨ Fresh t) :
    Stocked G d := by
  intro t ht sid jobs hm
  rcases hd t ht with hk | hf
  · obtain ⟨u, hu, -, hnext⟩ := hk.next
    exact h u hu sid jobs (hnext ▸ hm)
  · exact absurd hm hf.not_enqueue

theorem Stocked.run {k : TaskId} {next : List Next} (h : Stocked G c)
    (hs : (c.suspend k .turn next).Sound)
    (hnext : ∀ sid jobs, .enqueue sid jobs ∈ next → ∀ p ∈ jobs, G ⟨sid, p⟩) :
    Stocked G (run k next c) := by
  intro t ht sid jobs hm
  rcases mem_tasks_run hs ht with hk | hf | hr
  · obtain ⟨u, hu, -, hu'⟩ := hk.next
    exact h u hu sid jobs (hu' ▸ hm)
  · exact absurd hm hf.not_enqueue
  · rcases hr.next hm with hm | ⟨_, _, hm⟩
    · exact hnext sid jobs hm
    · cases hm

theorem enqueue_of_heed {t : Task} {s : Signal} {a : Client × Course} (ht : t ∈ c.tasks)
    (h : Stocked G c) (hans : ∀ q, c.Answered q (.wake t s) → G q)
    (heq : (c.dropTask t.id).heed t s = some a) {serverId : String} {jobs : List Job.Parameters}
    (hm : .enqueue serverId jobs ∈ a.2.plan) : ∀ p ∈ jobs, G ⟨serverId, p⟩ := by
  rcases planned_of_heed heq hm with hm | hm
  · exact h t ht serverId jobs hm
  · intro p hp
    cases hm with
    | enqueue hr => exact hans _ (.intro rfl hr hp)

theorem launches_wake (hc : c.Sound) {t : Task} (ht : t ∈ c.tasks) (s : Signal)
    (h : Stocked G c) (hans : ∀ q, c.Answered q (.wake t s) → G q) :
    Launches G c (c.wake t s) ∧ Stocked G (c.wake t s) := by
  have hdrop : (c.dropTask t.id).Sound := (hc.resume ht).of_suspend
  have hstock : Stocked G (c.dropTask t.id) := fun u hu => h u (List.mem_filter.1 hu).1
  rw [wake]
  cases heq : (c.dropTask t.id).heed t s with
  | none => exact ⟨Reveals.launches (.refl c), h⟩
  | some a =>
    have hheed : Launches G (c.dropTask t.id) a.1 := launches_heed heq
    have hl : Launches G c a.1 := ⟨hheed.pending, hheed.signs⟩
    have ha : Stocked G a.1 := hstock.of_kept fun u hu =>
      (told_of_heed hdrop.numbered hdrop.registered heq).mem_tasks hu
    have hplan : ∀ sid jobs, .enqueue sid jobs ∈ a.2.plan → ∀ p ∈ jobs, G ⟨sid, p⟩ :=
      fun sid jobs => enqueue_of_heed ht h hans heq
    have hsound := (hc.resume ht).heed heq
    obtain ⟨d, course⟩ := a
    cases course with
    | goesOn next =>
      exact ⟨hl.trans (launches_run hplan) (Frame.refl d).run, ha.run hsound hplan⟩
    | waits w next =>
      have hs : Reveals Sign.RunsNothing d (d.suspend t.id w next) := (Reveals.refl d).congr rfl rfl
      refine ⟨hl.trans hs.launches ((Frame.refl d).suspend ..), ?_⟩
      intro u hu sid jobs hm
      rcases List.mem_append.1 hu with hu | hu
      · exact ha u hu sid jobs hm
      · obtain rfl := List.mem_singleton.1 hu
        exact hplan sid jobs hm
    | ends => exact ⟨hl, ha⟩

theorem Stocked.of_tasks (h : Stocked G c) (ht : d.tasks = c.tasks) : Stocked G d := by
  rw [Stocked, ht]
  exact h

theorem launches_undertake (hs : Stocked G c) {next : List Next}
    (h : ({ c with taskCount := c.taskCount + 1 }.suspend c.taskCount .turn next).Sound)
    (hnext : ∀ serverId jobs, .enqueue serverId jobs ∉ next) :
    Launches G c (c.undertake next) ∧ Stocked G (c.undertake next) := by
  have hstock : Stocked G { c with taskCount := c.taskCount + 1 } := hs
  refine ⟨?_, hstock.run h fun sid jobs hm => absurd hm (hnext sid jobs)⟩
  have hrun : Launches G { c with taskCount := c.taskCount + 1 } (c.undertake next) :=
    launches_run fun sid jobs hm => absurd hm (hnext sid jobs)
  exact ⟨hrun.pending, hrun.signs⟩

theorem launches_of_eq (queue : d.queue.pending = c.queue.pending) (signs : d.signs = c.signs) :
    Launches G c d :=
  ⟨fun q hq => .inl (queue ▸ hq), [], by simp [signs], by simp⟩

theorem launches_startQueue (c : Client) : Launches G c c.startQueue := by
  have hq : ∀ d : Client, d.queue = c.queue → d.signs = c.signs →
      Launches G c (d.withQueue (c.queue.start c.now.clock)) := by
    intro d hqueue hsigns
    have hw : Launches G d (d.withQueue (c.queue.start c.now.clock)) :=
      launches_withQueue (fun q hq => .inl (hqueue ▸ JobQueue.mem_start_pending hq))
        fun q hq => .inl (hqueue ▸ JobQueue.mem_of_start hq)
    have hd : Launches G c d := launches_of_eq (congrArg JobQueue.pending hqueue) hsigns
    exact hd.trans hw ((Frame.refl d).withQueue _)
  unfold startQueue
  dsimp only
  split
  · exact hq c rfl rfl
  · exact hq _ rfl rfl

theorem launches_after (hc : c.Sound) {a : Act} (p : c.Permits a) (h : Stocked G c)
    (hans : ∀ q, c.Answered q a → G q) : Launches G c (c.after a) ∧ Stocked G (c.after a) := by
  have hs := step_after hc p
  generalize c.after a = d at hs
  cases hs with
  | wake ht => exact launches_wake hc ht _ h hans
  | addServer s =>
    unfold addServer
    dsimp only
    split <;> exact ⟨launches_of_eq rfl rfl, h⟩
  | execute job =>
    refine ⟨launches_of_eq rfl rfl, ?_⟩
    intro t ht sid jobs hm
    rcases List.mem_append.1 ht with ht | ht
    · exact h t ht sid jobs hm
    · obtain rfl := List.mem_singleton.1 ht
      cases List.mem_singleton.1 hm
  | still _ _ hr tasks =>
    exact ⟨(hr.imp fun _ => Sign.Plain.runsNothing).launches, h.of_tasks tasks⟩
  | @stops _ queue ids _ hpending =>
    obtain ⟨htasks, -, hqueue, hsigns⟩ := unchanged_stopEntries ids { c with queue := queue }
    have hpending := (congrArg JobQueue.pending hqueue).trans hpending
    exact ⟨launches_of_eq hpending hsigns, h.of_tasks htasks⟩
  | @begins _ d next _ hd q hb hs =>
    have hstock : Stocked G d := h.of_kept fun t ht => (q.mem_tasks ht).imp_right Chore.fresh
    have hnext : ∀ serverId jobs, .enqueue serverId jobs ∉ next := by
      cases hb <;> simp
    have hl : Launches G c d := by
      rcases hd with rfl | rfl
      · exact Reveals.launches (.refl _)
      · exact launches_startQueue c
    obtain ⟨hu, hst⟩ := launches_undertake hstock hs hnext
    exact ⟨hl.trans hu (Frame.run ⟨rfl, rfl, rfl, fun _ => rfl⟩), hst⟩

/-- The host is told to run a job only if it waited in the queue, or has just come, and everything
    speaks for it. -/
theorem qualifies_of_shown (hc : c.Sound) {a : Act} (p : c.Permits a) (stocked : Stocked G c)
    (pending : ∀ q ∈ c.queue.pending, G q) (answered : ∀ q, c.Answered q a → G q) {clock : Nat}
    {job : Job} (run : (clock, .event (.runJob job)) ∈ c.shown a) :
    ∃ q, G q ∧ (c.after a).Qualifies q job := by
  obtain ⟨hl, -⟩ := launches_after hc p stocked answered
  obtain ⟨new, hnew, hjobs⟩ := hl.signs
  rw [shown_of_signs hnew] at run
  obtain ⟨q, hq, hqual⟩ := hjobs _ run job rfl
  exact ⟨q, hq.elim (pending q) id, hqual⟩

end

/-- Whether a job is in the answer to a poll that one of some acts brings. -/
def AnsweredIn (c : Client) (q : Queued) : List Act → Prop
  | [] => False
  | a :: acts => c.Answered q a ∨ (c.after a).AnsweredIn q acts

theorem answeredIn_append {c : Client} {q : Queued} {acts more : List Act} :
    c.AnsweredIn q (acts ++ more) ↔ c.AnsweredIn q acts ∨ (c.afterAll acts).AnsweredIn q more := by
  induction acts generalizing c with
  | nil => simp [AnsweredIn]
  | cons a acts ih => simp [AnsweredIn, ih, or_assoc]

/-- Jobs wait in the queue, or are to be put there, only if they are in answers to polls. -/
theorem stocked_afterAll {c : Client} (hc : Reachable c) {acts : List Act} (allows : c.Allows acts)
    {G : Queued → Prop} (stocked : Stocked G c) (pending : ∀ q ∈ c.queue.pending, G q)
    (hacts : ∀ q, c.AnsweredIn q acts → G q) :
    Stocked G (c.afterAll acts) ∧ ∀ q ∈ (c.afterAll acts).queue.pending, G q := by
  -- jobs are on their way in the plans of tasks, and then in the queue; both hold only answers
  induction acts generalizing c with
  | nil => exact ⟨stocked, pending⟩
  | cons a acts ih =>
    obtain ⟨hl, hs⟩ := launches_after hc.sound allows.1 stocked fun q hq => hacts q (.inl hq)
    refine ih (hc.act allows.1) allows.2 hs ?_ fun q hq => hacts q (.inr hq)
    exact fun q hq => (hl.pending q hq).elim (pending q) id

/-- Whenever the host is told to run a job, the job is in the answer to a poll that came before, and
    everything speaks for it at that moment. -/
theorem jobs_run_qualify {settings : Settings} {allowed : Server → Except Error (List String)}
    {protection : Fetch.Protection} {now : Moment} {c : Client}
    (hc : Client.new settings allowed protection now = .ok c) {acts : List Act} {a : Act}
    (allows : c.Allows (acts ++ [a])) {clock : Nat} {job : Job}
    (run : (clock, .event (.runJob job)) ∈ (c.afterAll acts).shown a) :
    ∃ q, c.AnsweredIn q (acts ++ [a]) ∧ ((c.afterAll acts).after a).Qualifies q job := by
  obtain ⟨hacts, hlast, -⟩ := (allows_append c acts [a]).1 allows
  obtain ⟨rfl, -, -⟩ := new_eq hc
  have hreach := (Reachable.new hc).afterAll hacts
  obtain ⟨stocked, pending⟩ := stocked_afterAll (.new hc) hacts
    (G := fun q => AnsweredIn _ q (acts ++ [a])) (fun t ht => nomatch ht) (fun q hq => nomatch hq)
    fun q hq => answeredIn_append.2 (.inl hq)
  obtain ⟨hl, -⟩ := launches_after hreach.sound hlast stocked
    fun q hq => answeredIn_append.2 (.inr (.inl hq))
  obtain ⟨new, hnew, hjobs⟩ := hl.signs
  rw [shown_of_signs hnew] at run
  obtain ⟨q, hq, hqual⟩ := hjobs _ run job rfl
  exact ⟨q, hq.elim (pending q) id, hqual⟩

def jobsText : String :=
  "\x7b\"jobs\":[\x7b\"id\":\"j\",\"resource_id\":\"r\",\"url\":\"http://[::1]\"," ++
    "\"issued_at\":\"1970-01-01T00:00:00Z\",\"expires_at\":\"2100-01-01T00:00:00Z\"\x7d]\x7d"

/-- The server is polled, and its job comes into the queue, which does not run yet. -/
def toJob : List Act :=
  let c := blank .standard
  c.telling (c.telling toResources 0 (.permitted (.ok ["r"]))) 0 (content jobsText)

theorem allows_toJob : (blank .standard).Allows toJob :=
  allows_telling (allows_telling allows_toResources fun _ _ => ripe_permitted ..)
    fun _ _ => ripe_reply ..

/-- The queue runs, and so does the job. -/
theorem job_runs_with_queue : ∃ clock job q,
    (clock, .event (.runJob job)) ∈ ((blank .standard).afterAll toJob).shown .startAll ∧
    (blank .standard).AnsweredIn q (toJob ++ [.startAll]) ∧
    (((blank .standard).afterAll toJob).after .startAll).Qualifies q job := by
  have hnew : Client.new .standard (fun _ => .ok []) .any ⟨0, ⟨0, 0, 0⟩⟩ =
      .ok (blank .standard) := rfl
  have allows : (blank .standard).Allows (toJob ++ [.startAll]) :=
    (allows_append ..).2 ⟨allows_toJob, trivial, trivial⟩
  have hruns : (((blank .standard).afterAll toJob).shown .startAll).any (·.2.runsJob) = true := by
    decide +kernel
  obtain ⟨⟨clock, s⟩, hs, hrun⟩ := List.any_eq_true.1 hruns
  obtain ⟨job, rfl⟩ := Sign.exists_of_runsJob hrun
  obtain ⟨q, hq, hqual⟩ := jobs_run_qualify hnew allows hs
  exact ⟨clock, job, q, hs, hq, hqual⟩

end Client
end Harvest.Sync
