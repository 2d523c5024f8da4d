import Harvest.Proofs.Sync.Calls
import Harvest.Proofs.Sync.Confinement
import Harvest.Proofs.Sync.Replacement
import Harvest.Proofs.Sync.Returns
import Harvest.Proofs.Sync.Rounds
/-!
On whose behalf something is done. A task that waits on account of a server has nothing to do
afterwards but for this server, the starts of others apart, which the host asked for all at once. So
an act is done for one server at most, as long as it does not go on to such a start.
-/

namespace Harvest.Sync

/-- What a task that waits on account of an entry may still have to do. -/
inductive Next.Suits (id : EntryId) : Next → Prop
  | own {n : Next} : n.entry? = some id → Suits id n
  | start (j : EntryId) : Suits id (.start j)
  | enqueue (serverId : String) (jobs : List Job.Parameters) : Suits id (.enqueue serverId jobs)

theorem Next.Suits.not_delivers {id : EntryId} {n : Next} (h : n.Suits id)
    (hn : n.delivers = true) : n.entry? = some id := by
  cases h with
  | own h => exact h
  | start | enqueue => cases hn

theorem Next.Suits.eq_start {id j : EntryId} {n : Next} (h : n.Suits id) (hj : id ≠ j)
    (hn : n.entry? = some j) : n = .start j := by
  cases h with
  | own h => exact absurd (Option.some_inj.1 (h.symm.trans hn)) hj
  | start i =>
    obtain rfl := Option.some_inj.1 hn
    rfl
  | enqueue => cases hn

theorem Tail.suits {id : EntryId} {l : List Next} (h : Tail id l) {n : Next} (hn : n ∈ l) :
    n.Suits id := by
  cases h with
  | starts ids =>
    obtain ⟨j, -, rfl⟩ := List.mem_map.1 hn
    exact .start j
  | timer token ticker =>
    obtain rfl := List.mem_singleton.1 hn
    exact .own rfl

namespace Task

/-- A task that has a result to submit has no poll timer to go on with. -/
structure Prompt (t : Task) : Prop where
  staged : t.Staged
  timers : t.delivers = true → ∀ id token ticker, .timer id token ticker ∉ t.next

theorem Prompt.follows {t u : Task} (h : t.Prompt) (staged : u.Staged)
    (delivers : u.delivers = true → t.delivers = true)
    (timers : ∀ id token ticker, .timer id token ticker ∈ u.next →
      .timer id token ticker ∈ t.next) : u.Prompt :=
  ⟨staged, fun hd id token ticker hm =>
    h.timers (delivers hd) id token ticker (timers id token ticker hm)⟩

theorem delivers_of_mem {t : Task} {n : Next} (hn : n ∈ t.next) (hd : n.delivers = true) :
    t.delivers = true := by
  rw [delivers, List.any_eq_true.2 ⟨n, hn, hd⟩, Bool.or_true]

theorem delivers_of_wait {t : Task} (h : t.wait.delivers = true) : t.delivers = true := by
  rw [delivers, h, Bool.true_or]

theorem prompt_of_idle {t : Task} (staged : t.Staged) (idle : t.delivers = false) : t.Prompt :=
  ⟨staged, fun hd => nomatch idle.symm.trans hd⟩

end Task

namespace Client

section

variable {c : Client} {k : TaskId}

theorem Arises.delivers {t : Task} {s : Signal} {n : Next} (h : c.Arises t s n)
    (hn : n.delivers = true) : t.wait.delivers = true := by
  cases h with
  | submit | attempt => rfl
  | _ => cases hn

theorem eq_of_coursing {course : Course} {u : Task} (h : coursing k course = some u) :
    u.next = course.plan ∧ (u.wait = .turn ∨ course.wait? = some u.wait) := by
  cases course with
  | goesOn next =>
    cases h
    exact ⟨rfl, .inl rfl⟩
  | waits w next =>
    cases h
    exact ⟨rfl, .inr rfl⟩
  | ends => cases h

theorem prompt_heed {t : Task} {s : Signal} {a : Client × Course} (heq : c.heed t s = some a)
    (h : t.Prompt) : ∀ u, coursing t.id a.2 = some u → u.Prompt := by
  intro u hu
  have staged : u.Staged := staged_heed h.staged heq u hu
  obtain ⟨hplan, hwait⟩ := eq_of_coursing hu
  have idle : u.wait.delivers = false := by
    rcases hwait with hw | hw
    · rw [hw]
      rfl
    · exact (onward_of_heed heq hw).delivers
  have delivers : u.delivers = true → t.delivers = true := by
    intro hd
    rw [Task.delivers, idle, Bool.false_or, hplan] at hd
    obtain ⟨n, hn, hd⟩ := List.any_eq_true.1 hd
    rcases planned_of_heed heq hn with hn | ha
    · exact Task.delivers_of_mem hn hd
    · exact Task.delivers_of_wait (ha.delivers hd)
  refine ⟨staged, fun hd id token ticker hm => ?_⟩
  rw [hplan] at hm
  rcases planned_of_heed heq hm with hm | ha
  · exact h.timers (delivers hd) id token ticker hm
  · cases ha with
    | timer =>
      -- a task that waits for a tick has nothing to submit
      have hstaged := h.staged
      cases hstaged with
      | right hg => cases hg
      | tick => cases delivers hd

theorem Fresh.idle {t : Task} (h : Fresh t) : t.delivers = false := by
  cases h <;> rfl

theorem Begun.prompt {next : List Next} (h : c.Begun next) (staged : Task.Staged ⟨k, .turn, next⟩) :
    Task.Prompt ⟨k, .turn, next⟩ := by
  refine ⟨staged, fun _ id token ticker hm => ?_⟩
  cases h with
  | start =>
    obtain ⟨_, -, he⟩ := List.mem_map.1 hm
    cases he
  | submit => cases List.mem_singleton.1 hm

theorem Rests.delivers {n : Next} {w : Wait} {more : List Next} (h : c.Rests n (.waiting w more))
    (hd : w.delivers = true) : n.delivers = true := by
  cases h with
  | refresh hw | start hw => rcases hw with rfl | rfl <;> cases hd
  | submission _ hn => exact hn
  | page => rfl
  | _ => cases hd

theorem Rests.prompt {n : Next} {rest more : List Next} {w : Wait}
    (h : c.Rests n (.waiting w more)) (hp : Task.Prompt ⟨k, .turn, n :: rest⟩) :
    Task.Prompt ⟨k, w, more ++ rest⟩ := by
  refine hp.follows (lasting_staged.waiting h hp.staged) (fun hd => ?_)
    fun id token ticker hm => ?_
  · rcases (Bool.or_eq_true _ _).mp hd with hd | hd
    · exact Task.delivers_of_mem (t := ⟨k, .turn, n :: rest⟩) List.mem_cons_self (h.delivers hd)
    · obtain ⟨m, hm, hd⟩ := List.any_eq_true.1 hd
      rcases List.mem_append.1 hm with hm | hm
      · obtain ⟨_, _, rfl⟩ := h.started hm
        cases hd
      · exact Task.delivers_of_mem (t := ⟨k, .turn, n :: rest⟩) (List.mem_cons_of_mem n hm) hd
  · rcases List.mem_append.1 hm with hm | hm
    · obtain ⟨_, _, he⟩ := h.started hm
      cases he
    · exact List.mem_cons_of_mem n hm

end

theorem lasting_prompt : Lasting Task.Prompt where
  granted heq h := by
    have hnext := congrArg Task.next heq
    simp only [Task.asGranted_next] at hnext
    refine h.follows (lasting_staged.granted heq h.staged) (fun hd => ?_)
      fun _ _ _ hm => hnext ▸ hm
    rwa [← Task.delivers_asGranted, ← heq, Task.delivers_asGranted]
  fresh h := Task.prompt_of_idle (lasting_staged.fresh h) h.idle
  begun k _ distinct hb := hb.prompt (lasting_staged.begun k distinct hb)
  execute k job := ⟨.turn rfl, fun _ _ _ _ hm => nomatch List.mem_singleton.1 hm⟩
  heed := prompt_heed
  done {k n rest} h := by
    refine h.follows (lasting_staged.done h.staged) (fun hd => ?_) fun _ _ _ hm =>
      List.mem_cons_of_mem n hm
    obtain ⟨m, hm, hd⟩ := List.any_eq_true.1 (show rest.any Next.delivers = true from hd)
    exact Task.delivers_of_mem (List.mem_cons_of_mem n hm) hd
  waiting := Rests.prompt

section

variable {c : Client} {t : Task} {n : Next}

/-- A task that submits a result has nothing else to do. -/
theorem Reachable.not_mem_tail (h : Reachable c) (ht : t ∈ c.tasks) (hd : t.delivers = true)
    {j : EntryId} {l : List Next} (tail : Tail j l) (sub : l ⊆ t.next) : n ∉ l := by
  intro hn
  cases tail with
  | starts ids =>
    obtain ⟨i, -, rfl⟩ := List.mem_map.1 hn
    exact (h.rounded ht).starts hd i (sub hn)
  | timer token ticker =>
    obtain rfl := List.mem_singleton.1 hn
    exact (lasting_prompt.reachable h t ht).timers hd _ _ _ (sub hn)

theorem Reachable.suits_of_sequel (h : Reachable c) (ht : t ∈ c.tasks) {id : EntryId}
    {forced : Bool} (seq : Sequel id forced t.next) (hn : n ∈ t.next) : n.Suits id := by
  generalize hl : t.next = l at seq hn
  cases seq with
  | scheduled => cases hn
  | started ids =>
    rcases List.mem_cons.1 hn with rfl | hn
    · exact .own rfl
    · obtain ⟨j, -, rfl⟩ := List.mem_map.1 hn
      exact .start j
  | enqueue tail =>
    rcases List.mem_cons.1 hn with rfl | hn
    · exact .enqueue _ _
    · exact tail.suits hn
  | @attempt d j l tail =>
    rcases List.mem_cons.1 hn with rfl | hn
    · exact .own rfl
    · have hd : t.delivers = true := Task.delivers_of_mem (hl ▸ List.mem_cons_self) rfl
      exact absurd hn (h.not_mem_tail ht hd tail (hl ▸ List.subset_cons_self _ l))

/-- What a task has to do after a wait is for the entry that it waits on account of, but for starts
    of others. -/
theorem Reachable.suits (h : Reachable c) (ht : t ∈ c.tasks) (hw : t.wait ≠ .turn)
    (hn : n ∈ t.next) : ∃ id, t.wait.entry? = some id ∧ n.Suits id := by
  have staged := h.staged ht
  have sequel : ∀ {id forced}, Sequel id forced t.next → n.Suits id := fun seq =>
    h.suits_of_sequel ht seq hn
  have delivers : t.wait.delivers = true → t.delivers = true := Task.delivers_of_wait
  generalize t.wait = w at staged hw delivers
  generalize hl : t.next = l at staged hn sequel
  cases staged with
  | turn => exact absurd rfl hw
  | right hg seq =>
    refine ⟨_, ?_, sequel seq⟩
    cases w <;> cases hg <;> rfl
  | resources seq => exact ⟨_, rfl, sequel seq⟩
  | permission tail => exact ⟨_, rfl, tail.suits hn⟩
  | jobs tail => exact ⟨_, rfl, tail.suits hn⟩
  | submission tail =>
    exact absurd hn (h.not_mem_tail ht (delivers rfl) tail (hl ▸ List.Subset.refl _))
  | page | tick | resume | drive => cases hn

end

/-! The server that an act is done for -/

/-- The entry that a task goes on for. A result goes to the server that has its resource, and a job
    that leaves the queue to the one that issued it. -/
def partyOf (c : Client) (t : Task) : Option EntryId :=
  match t.wait with
  | .turn =>
    t.next.head?.bind fun n =>
      match n with
      | .execute job => c.owner? job.resource.id
      | n => n.entry?
  | .page job _ => c.owner? job.resource.id
  | .drive driver _ =>
    (c.queue.drive driver c.now.clock).2.bind fun q => c.registered? q.serverId
  | w => w.entry?

/-- The entry that an act is done for, if it is done for one. -/
def party? (c : Client) : Act → Option EntryId
  | .wake t _ => c.partyOf t
  | .updateServer s => c.registered? s.id
  | .start serverId => c.registered? serverId
  | .stop serverId => c.registered? serverId
  | .submit r => c.owner? r.resourceId
  | _ => none

section

variable {c : Client} {t : Task} {n : Next} {j : EntryId}

theorem partyOf_wait (h : t.wait.entry? = some j) : c.partyOf t = some j := by
  obtain ⟨k, w, next⟩ := t
  cases w <;> first | exact h | cases h

theorem partyOf_turn {k : TaskId} (h : n.entry? = some j) :
    c.partyOf ⟨k, .turn, [n]⟩ = some j := by
  cases n <;> first | exact h | cases h

theorem Reachable.partyOf_turn (hc : Reachable c) (ht : t ∈ c.tasks) (hw : t.wait = .turn)
    (hn : n ∈ t.next) (h : n.entry? = some j) : c.partyOf t = some j := by
  obtain ⟨k, w, next⟩ := t
  obtain rfl : w = .turn := hw
  have single : ∃ m, next = [m] := by
    rcases hc.turn_of_mem ht rfl with hf | ⟨job, hj⟩
    · cases hf <;> exact ⟨_, rfl⟩
    · exact ⟨_, hj⟩
  obtain ⟨m, rfl⟩ := single
  obtain rfl := List.mem_singleton.1 hn
  exact Client.partyOf_turn h

theorem Submits.party? {k : TaskId} {result : JobResult} {a : Act} (h : c.Submits a k result) :
    c.party? a = c.owner? result.resourceId := by
  cases h with
  | host => rfl
  | page => rw [Executor.resourceId_result]; rfl
  | unasked => rfl

/-- What is done in an act is for the server that the act is done for, but for the starts of
    others. -/
theorem Reachable.eq_start (hc : Reachable c) {a : Act} (p : c.Permits a) (hn : n ∈ c.doneBy a)
    (h : n.entry? = some j) (hp : c.party? a ≠ some j) : n = .start j := by
  cases occasion_of_doneBy hn with
  | @planned t s _ hnext =>
    have hturn : t.wait ≠ .turn := fun hw => hp (hc.partyOf_turn p.1 hw hnext h)
    obtain ⟨id, hid, suits⟩ := hc.suits p.1 hturn hnext
    refine suits.eq_start ?_ h
    rintro rfl
    exact hp (partyOf_wait hid)
  | arises ha =>
    rcases ha.entry? with hnone | hsame
    · cases hnone.symm.trans h
    · exact absurd (partyOf_wait (hsame.symm.trans h)) hp
  | start hr => exact absurd (hr.trans h) hp
  | startAll =>
    obtain rfl := Option.some_inj.1 h
    rfl
  | submit => cases h

end

end Client
end Harvest.Sync
