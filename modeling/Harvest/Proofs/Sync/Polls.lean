import Harvest.Proofs.Sync.Courses
import Harvest.Proofs.Sync.Passing
import Harvest.Proofs.Sync.Runs
import Harvest.Proofs.Sync.Turns
/-!
The requests for jobs. A task that polls sends one as soon as the host has said what its server may
issue jobs for, and waits for the reply; nothing else sends any. Each request is answered once, or
it is under way.
-/

namespace Harvest.Sync

def Sign.poll? : Sign → Option (EntryId × Http.Request)
  | .sent (.jobs id) r => some (id, r)
  | _ => none

theorem Sign.Plain.poll? {s : Sign} (h : s.Plain) : s.poll? = none := by
  cases s with
  | sent => exact h.elim
  | event | notice => rfl

theorem Sign.poll?_of_judges {s : Sign} (h : s.judges = true) : s.poll? = none := by
  cases s with
  | sent => cases h
  | event | notice => rfl

def Wait.poll? : Wait → Option (EntryId × Http.Request)
  | .jobs id _ r => some (id, r)
  | _ => none

theorem Wait.poll?_asGranted (w : Wait) : w.asGranted.poll? = w.poll? := by
  cases w <;> rfl

/-- The request for jobs that is answered by an act. -/
def Act.replied : Act → List (EntryId × Http.Request)
  | .wake t (.reply _) => t.wait.poll?.toList
  | _ => []

namespace Client

/-- The requests for jobs that are under way. -/
def inFlight (c : Client) : List (EntryId × Http.Request) :=
  c.tasks.filterMap fun t => t.wait.poll?

/-- The requests for jobs that an act sends. -/
def polls (c : Client) (a : Act) : List (EntryId × Http.Request) :=
  (c.shown a).filterMap (·.2.poll?)

/-- The request for jobs that an act is to send. -/
def inquiry (c : Client) : Act → List (EntryId × Http.Request)
  | .wake ⟨_, .permission id server, _⟩ (.permitted answer) =>
    match answer.bind (Coordinator.jobsRequest c.settings.userAgent server) with
    | .ok r => [(id, r)]
    | .error _ => []
  | _ => []

theorem mem_inquiry {c : Client} {a : Act} {id : EntryId} {r : Http.Request} :
    (id, r) ∈ c.inquiry a ↔ ∃ k server next answer,
      a = .wake ⟨k, .permission id server, next⟩ (.permitted answer) ∧
        answer.bind (Coordinator.jobsRequest c.settings.userAgent server) = .ok r := by
  constructor
  · intro h
    unfold inquiry at h
    split at h
    · rename_i k j server next answer
      cases hr : answer.bind (Coordinator.jobsRequest c.settings.userAgent server) with
      | error => simp [hr] at h
      | ok s =>
        obtain ⟨rfl, rfl⟩ : id = j ∧ r = s := by simpa [hr] using h
        exact ⟨k, server, next, answer, rfl, hr⟩
    · cases h
  · rintro ⟨k, server, next, answer, rfl, hr⟩
    simp [inquiry, hr]

theorem after_permission {c : Client} {k : TaskId} {id : EntryId} {server : Server}
    {next : List Next} {answer : Except Error (List String)} {r : Http.Request}
    (hr : answer.bind (Coordinator.jobsRequest c.settings.userAgent server) = .ok r) :
    c.after (.wake ⟨k, .permission id server, next⟩ (.permitted answer)) =
      ((c.dropTask k).send (.jobs id) r).suspend k (.jobs id server r) next := by
  have hp : (c.dropTask k).permitted id server answer next =
      ((c.dropTask k).send (.jobs id) r, .waits (.jobs id server r) next) := by
    unfold permitted
    have hd : (c.dropTask k).settings = c.settings := rfl
    rw [hd, hr]
  have heq : (c.dropTask k).heed ⟨k, .permission id server, next⟩ (.permitted answer) =
      some ((c.dropTask k).permitted id server answer next) := rfl
  rw [after, wake, heq, hp]
  rfl

theorem after_tick {c : Client} {id : EntryId} {e : Entry} (he : c.entry? id = some e) (k : TaskId)
    (token : Token) (ticker : Ticker) (next : List Next) :
    c.after (.wake ⟨k, .tick id token ticker, next⟩ .go) =
      (c.dropTask k).suspend k (.permission id e.server)
        (.timer id token (ticker.next c.now.clock) :: next) := by
  have heq : (c.dropTask k).heed ⟨k, .tick id token ticker, next⟩ .go = some (c.dropTask k,
      .goesOn (.poll id :: .timer id token (ticker.next c.now.clock) :: next)) := rfl
  have hd : Client.entry? (c.dropTask k) id = some e := he
  have hpoll : (c.dropTask k).poll id = (c.dropTask k, .waiting (.permission id e.server) []) := by
    rw [poll, hd]
  rw [after, wake, heq]
  dsimp only [follow]
  rw [run, perform, hpoll]
  rfl

/-- Requests for jobs are sent by tasks that poll, once the host has answered, and by no others. -/
theorem polls_eq_inquiry {c : Client} (h : c.Sound) {a : Act} (p : c.Permits a) :
    c.polls a = c.inquiry a := by
  cases hx : c.inquiry a with
  | cons x xs =>
    obtain ⟨id, r⟩ := x
    have hm : (id, r) ∈ c.inquiry a := by rw [hx]; exact List.mem_cons_self
    obtain ⟨k, server, next, answer, rfl, hr⟩ := mem_inquiry.1 hm
    have hshown : c.shown (.wake ⟨k, .permission id server, next⟩ (.permitted answer)) =
        [(c.now.clock, .sent (.jobs id) r)] :=
      shown_of_signs (by rw [after_permission hr]; rfl)
    rw [polls, hshown, ← hx]
    simp [inquiry, hr, Sign.poll?]
  | nil =>
    have admits : c.Admits a fun s => s.poll? = none := by
      refine ⟨fun _ => Sign.Plain.poll?, fun _ _ _ _ _ _ _ => rfl, fun _ => rfl,
        fun _ _ _ _ => rfl, ?_, fun _ _ => rfl⟩
      intro k id server next answer r ha hr
      have hm : (id, r) ∈ c.inquiry a := mem_inquiry.2 ⟨k, server, next, answer, ha, hr⟩
      rw [hx] at hm
      cases hm
    exact filterMap_shown h p admits fun _ => Sign.poll?_of_judges

/-! What becomes of the requests that are under way -/

section

variable {c d : Client} {k : TaskId}

theorem inFlight_suspend (c : Client) (k : TaskId) (w : Wait) (next : List Next) :
    (c.suspend k w next).inFlight = c.inFlight ++ w.poll?.toList := by
  rw [inFlight, suspend, List.filterMap_append, filterMap_cons_toList, List.filterMap_nil,
    List.append_nil]
  rfl

theorem Fresh.poll? {t : Task} (h : Fresh t) : t.wait.poll? = none := by
  cases h <;> rfl

theorem Adds.inFlight {xs : List Task} (h : Adds c d xs) (hxs : ∀ t ∈ xs, Fresh t) :
    d.inFlight.Perm c.inFlight := by
  have hp := h.tasks.filterMap fun t => t.wait.poll?
  have hnone : xs.filterMap (fun t => t.wait.poll?) = [] :=
    List.filterMap_eq_nil_iff.2 fun t ht => (hxs t ht).poll?
  have hgranted : ∀ t : Task, t.asGranted.wait.poll? = t.wait.poll? := fun t =>
    Wait.poll?_asGranted t.wait
  rw [List.filterMap_append, hnone, List.append_nil, List.filterMap_map, List.filterMap_map] at hp
  simpa only [Client.inFlight, Function.comp_def, hgranted] using hp

theorem inFlight_dropTask (n : c.Numbered) {t : Task} (ht : t ∈ c.tasks) :
    c.inFlight.Perm (t.wait.poll?.toList ++ (c.dropTask t.id).inFlight) := by
  have hp := (n.tasks_perm ht).filterMap fun t => t.wait.poll?
  rwa [filterMap_cons_toList] at hp

theorem Rests.poll? {n : Next} {w : Wait} {more : List Next} (h : c.Rests n (.waiting w more)) :
    w.poll? = none := by
  cases h with
  | refresh hw | start hw => rcases hw with rfl | rfl <;> rfl
  | _ => rfl

theorem inFlight_run {next : List Next} (h : (c.suspend k .turn next).Sound) :
    (run k next c).inFlight.Perm c.inFlight := by
  induction next generalizing c with
  | nil => exact .refl _
  | cons n rest ih =>
    have hp := h.perform
    have hr := rests_perform c k n
    obtain ⟨xs, hx, hxs⟩ := h.performs.adds
    have hd := hx.inFlight hxs
    rw [run]
    generalize c.perform k n = a at hp hr hd
    obtain ⟨d, p⟩ := a
    cases p with
    | done => exact (ih hp).trans hd
    | waiting w more =>
      dsimp only
      rw [inFlight_suspend, hr.poll?]
      simpa using hd

theorem inFlight_follow {course : Course} (h : (c.resumed k course).Sound) :
    (c.follow k course).inFlight.Perm
      (c.inFlight ++ (course.wait?.bind Wait.poll?).toList) := by
  cases course with
  | goesOn next =>
    have hrun := inFlight_run h
    simpa [follow, Course.wait?] using hrun
  | waits w next =>
    rw [follow, inFlight_suspend]
    rfl
  | ends => simp [follow, Course.wait?]

/-- What a task waits for next is a reply to the request that it has just sent, if it is one to a
    request for jobs. -/
theorem inquiry_of_heed {t : Task} {s : Signal} {b : Client × Course}
    (heq : (c.dropTask t.id).heed t s = some b) :
    (b.2.wait?.bind Wait.poll?).toList = c.inquiry (.wake t s) := by
  have hd : ∀ k, (c.dropTask k).settings = c.settings := fun _ => rfl
  cases heeds_of_heed heq with
  | granted =>
    unfold refresh
    split
    · rfl
    · split
      · rfl
      · split <;> rfl
  | @permission k id server answer next =>
    unfold permitted
    rw [hd]
    cases hr : answer.bind (Coordinator.jobsRequest c.settings.userAgent server) with
    | error fault =>
      dsimp only
      rw [wait?_pollFailed]
      simp [inquiry, hr]
    | ok r => simp [inquiry, hr, Course.wait?, Wait.poll?]
  | @jobs k id server r reply next =>
    unfold polled
    split
    · rw [wait?_pollFailed]
      rfl
    · dsimp only
      split <;> rfl
  | submission =>
    unfold delivered
    dsimp only
    split
    · rfl
    · rfl
    · rfl
    · split
      · rfl
      · rw [wait?_pause]
        rfl
  | drive hc => rcases hc with rfl | ⟨_, rfl⟩ <;> rfl
  | _ => rfl

theorem replied_of_heed {t : Task} {s : Signal} {b : Client × Course}
    (heq : c.heed t s = some b) : (Act.wake t s).replied = t.wait.poll?.toList := by
  cases heeds_of_heed heq <;> rfl

theorem silent_of_heed_none {t : Task} {s : Signal} (heq : (c.dropTask t.id).heed t s = none) :
    c.inquiry (.wake t s) = [] ∧ (Act.wake t s).replied = [] := by
  obtain ⟨k, w, next⟩ := t
  cases w <;> cases s <;> first | exact ⟨rfl, rfl⟩ | cases heq

theorem inFlight_wake (h : c.Sound) {t : Task} (ht : t ∈ c.tasks) (s : Signal) :
    (c.inFlight ++ c.inquiry (.wake t s)).Perm
      ((Act.wake t s).replied ++ (c.wake t s).inFlight) := by
  rw [wake]
  cases heq : (c.dropTask t.id).heed t s with
  | none =>
    obtain ⟨hinquiry, hreplied⟩ := silent_of_heed_none heq
    rw [hinquiry, hreplied, List.append_nil]
    exact .refl _
  | some b =>
    have hdrop : (c.dropTask t.id).Sound := (h.resume ht).of_suspend
    obtain ⟨xs, hx, hxs⟩ := (told_of_heed hdrop.numbered hdrop.registered heq).adds
    have hfollow := inFlight_follow ((h.resume ht).heed heq)
    rw [inquiry_of_heed heq] at hfollow
    rw [replied_of_heed heq]
    calc
      (c.inFlight ++ c.inquiry (.wake t s)).Perm
          ((t.wait.poll?.toList ++ (c.dropTask t.id).inFlight) ++ c.inquiry (.wake t s)) :=
        (inFlight_dropTask h.numbered ht).append_right _
      _ |>.Perm (t.wait.poll?.toList ++ (b.1.inFlight ++ c.inquiry (.wake t s))) := by
        rw [List.append_assoc]
        exact ((hx.inFlight hxs).symm.append_right _).append_left _
      _ |>.Perm (t.wait.poll?.toList ++ (b.1.follow t.id b.2).inFlight) :=
        hfollow.symm.append_left _

end

theorem Orders.silent {c : Client} {a : Act} {l : List Next} (h : c.Orders a l) :
    c.inquiry a = [] ∧ a.replied = [] := by
  cases a with
  | wake t s => exact absurd rfl (h.host t s)
  | _ => exact ⟨rfl, rfl⟩

/-- The requests for jobs that were under way and the one that an act sends are under way
    afterwards, apart from the one that is answered. -/
theorem inFlight_after {c : Client} (h : c.Sound) {a : Act} (p : c.Permits a) :
    (c.inFlight ++ c.inquiry a).Perm (a.replied ++ (c.after a).inFlight) := by
  have still : ∀ d : Client, c.inquiry a = [] ∧ a.replied = [] → d.inFlight.Perm c.inFlight →
      (c.inFlight ++ c.inquiry a).Perm (a.replied ++ d.inFlight) := by
    rintro d ⟨hinquiry, hreplied⟩ hd
    rw [hinquiry, hreplied, List.append_nil]
    exact hd.symm
  have hs := step_after h p
  generalize c.after a = d at hs
  cases hs with
  | wake ht => exact inFlight_wake h ht _
  | addServer s =>
    refine still _ ⟨rfl, rfl⟩ ?_
    rw [inFlight, tasks_addServer, inFlight]
  | execute job =>
    refine still _ ⟨rfl, rfl⟩ (.of_eq ?_)
    simp [inFlight, spawn, Wait.poll?]
  | still ho _ _ tasks =>
    refine still _ ho.silent ?_
    rw [inFlight, tasks, inFlight]
  | stops ho =>
    refine still _ ho.silent ?_
    rw [inFlight, (unchanged_stopEntries ..).1, inFlight]
  | @begins _ d next ho _ q _ hs =>
    obtain ⟨xs, hx, hxs⟩ := q.adds
    have hrun := inFlight_run hs
    exact still _ ho.silent (hrun.trans (hx.inFlight fun t ht => (hxs t ht).fresh))

/-- Every request for jobs that was sent has been answered once, or is under way. -/
theorem polls_answered {c : Client} (h : Reachable c) (first : c.inFlight = []) {acts : List Act}
    (allows : c.Allows acts) :
    (c.along polls acts).Perm
      (c.along (fun _ a => a.replied) acts ++ (c.afterAll acts).inFlight) := by
  have hp := perm_along (x := inFlight) (f := polls) (g := fun _ a => a.replied)
    (fun d a hd p => by
      rw [polls_eq_inquiry hd.sound p]
      exact inFlight_after hd.sound p) h allows
  rwa [first, List.nil_append] at hp

end Client
end Harvest.Sync
