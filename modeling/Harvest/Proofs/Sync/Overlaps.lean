import Harvest.Proofs.Sync.Polls
import Harvest.Proofs.Sync.Tokens
/-!
Polls of an entry that are under way at the same time. A timer that may go on polls once at a time;
but a start polls without regard to it and to other starts, and a poll that was under way when its
timer lost its token stays so.
-/

namespace Harvest.Sync.Client

def polling (c : Client) (id : EntryId) : Nat := c.inFlight.countP fun x => x.1 = id

/-- Whether a poll is not one of a timer that may go on: a start makes it, or its timer has lost its
    token. -/
def Loose (c : Client) (t : Task) : Prop :=
  ∀ id token ticker, .timer id token ticker ∈ t.next → token ∈ c.cancelled

/-- An act that sends a request for jobs of an entry while another one is under way, if one of the
    two polls is loose. -/
inductive Crosses (c : Client) (id : EntryId) : Act → Prop
  | intro {k : TaskId} {server : Server} {next : List Next} {answer : Except Error (List String)}
      {r s : Http.Request} {u : Task} :
      answer.bind (Coordinator.jobsRequest c.settings.userAgent server) = .ok r →
      u ∈ c.tasks → u.wait.poll? = some (id, s) →
      c.Loose ⟨k, .permission id server, next⟩ ∨ c.Loose u →
      c.Crosses id (.wake ⟨k, .permission id server, next⟩ (.permitted answer))

section

variable {c : Client} {id : EntryId}

theorem polling_pos : 0 < c.polling id ↔ ∃ u ∈ c.tasks, ∃ s, u.wait.poll? = some (id, s) := by
  rw [polling, List.countP_pos_iff]
  constructor
  · rintro ⟨⟨j, s⟩, hx, hid⟩
    obtain ⟨u, hu, hpoll⟩ := List.mem_filterMap.1 hx
    obtain rfl : j = id := of_decide_eq_true hid
    exact ⟨u, hu, s, hpoll⟩
  · rintro ⟨u, hu, s, hpoll⟩
    exact ⟨(id, s), List.mem_filterMap.2 ⟨u, hu, hpoll⟩, decide_eq_true rfl⟩

theorem Wait.eq_of_poll? {w : Wait} {r : Http.Request} (h : w.poll? = some (id, r)) :
    ∃ server, w = .jobs id server r := by
  cases w with
  | jobs j server s =>
    obtain ⟨rfl, rfl⟩ := Prod.mk.inj (Option.some.inj h)
    exact ⟨server, rfl⟩
  | _ => cases h

theorem Sound.eq_of_token (h : c.Sound) {t u : Task} (ht : t ∈ c.tasks) (hu : u ∈ c.tasks)
    {m n : Timer} (hm : m ∈ t.timers) (hn : n ∈ u.timers) (heq : m.token = n.token) : t = u := by
  by_contra hne
  have hs := h.single
  rw [timers, List.map_flatMap, List.nodup_flatMap] at hs
  have hsymm : Std.Symm (Function.onFun List.Disjoint fun t : Task => t.timers.map (·.token)) :=
    ⟨fun _ _ hd _ hx hy => hd hy hx⟩
  have hd := hs.2.forall ht hu hne
  exact hd (List.mem_map_of_mem hm) (heq ▸ List.mem_map_of_mem hn)

/-- At most one task has a token of an entry that is not cancelled. -/
theorem Sound.eq_of_live (h : c.Sound) {t u : Task} (ht : t ∈ c.tasks) (hu : u ∈ c.tasks)
    {m n : Timer} (hm : m ∈ t.timers) (hn : n ∈ u.timers) (entry : m.entry = n.entry)
    (live : m.token ∉ c.cancelled ∧ n.token ∉ c.cancelled) : t = u := by
  have mem : ∀ {t : Task} {m : Timer}, t ∈ c.tasks → m ∈ t.timers → m ∈ c.timers := fun ht hm =>
    List.mem_flatMap.2 ⟨_, ht, hm⟩
  obtain ⟨e, he, hheld⟩ := (h.live m (mem ht hm)).resolve_left live.1
  obtain ⟨f, hf, hheld'⟩ := (h.live n (mem hu hn)).resolve_left live.2
  rw [← entry, he] at hf
  obtain rfl := Option.some.inj hf
  obtain ⟨held, hgrip⟩ := h.timed m.entry e he
  have hone : held = some (m.kind, m.token) := (hgrip.grip.held_iff m.kind m.token).1 hheld
  have hother : held = some (n.kind, n.token) := (hgrip.grip.held_iff n.kind n.token).1 hheld'
  have htoken : m.token = n.token := by
    rw [hone] at hother
    exact congrArg Prod.snd (Option.some.inj hother)
  exact h.eq_of_token ht hu hm hn htoken

theorem timer_of_not_loose {t : Task} (tail : Tail id t.next) (h : ¬ c.Loose t) :
    ∃ m ∈ t.timers, m.entry = id ∧ m.token ∉ c.cancelled := by
  obtain ⟨k, w, next⟩ := t
  cases tail with
  | starts ids =>
    refine absurd (fun i token ticker hm => ?_) h
    simp at hm
  | timer token ticker =>
    refine ⟨⟨.poll, id, token⟩, by simp [Task.timers, Next.timer?], rfl, fun hc => h ?_⟩
    intro i token' ticker' hm
    obtain ⟨-, rfl, -⟩ : i = id ∧ token' = token ∧ ticker' = ticker := by simpa using hm
    exact hc

theorem Reachable.tail_of_permission (h : Reachable c) {k : TaskId} {server : Server}
    {next : List Next} (ht : ⟨k, .permission id server, next⟩ ∈ c.tasks) : Tail id next := by
  cases h.staged ht with
  | right hg => cases hg
  | permission tail => exact tail

theorem Reachable.tail_of_poll? (h : Reachable c) {t : Task} (ht : t ∈ c.tasks) {r : Http.Request}
    (hpoll : t.wait.poll? = some (id, r)) : Tail id t.next := by
  obtain ⟨k, w, next⟩ := t
  obtain ⟨server, rfl⟩ := Wait.eq_of_poll? hpoll
  cases h.staged ht with
  | right hg => cases hg
  | jobs tail => exact tail

/-- Polls of a timer that may go on come one after the other. -/
theorem Reachable.eq_of_poll? (h : Reachable c) {t u : Task} (ht : t ∈ c.tasks) (hu : u ∈ c.tasks)
    {r s : Http.Request} (hr : t.wait.poll? = some (id, r)) (hs : u.wait.poll? = some (id, s))
    (bound : ¬ c.Loose t ∧ ¬ c.Loose u) : t = u := by
  obtain ⟨m, hm, hentry, hlive⟩ := timer_of_not_loose (h.tail_of_poll? ht hr) bound.1
  obtain ⟨n, hn, hentry', hlive'⟩ := timer_of_not_loose (h.tail_of_poll? hu hs) bound.2
  exact h.sound.eq_of_live ht hu hm hn (hentry.trans hentry'.symm) ⟨hlive, hlive'⟩

theorem Reachable.crosses (h : Reachable c) {k : TaskId} {server : Server} {next : List Next}
    (ht : ⟨k, .permission id server, next⟩ ∈ c.tasks) {answer : Except Error (List String)}
    {r : Http.Request}
    (hr : answer.bind (Coordinator.jobsRequest c.settings.userAgent server) = .ok r)
    (busy : 0 < c.polling id) :
    c.Crosses id (.wake ⟨k, .permission id server, next⟩ (.permitted answer)) := by
  obtain ⟨u, hu, s, hs⟩ := polling_pos.1 busy
  refine .intro hr hu hs ?_
  by_contra hbound
  obtain ⟨ht', hu'⟩ := not_or.1 hbound
  obtain ⟨m, hm, hentry, hlive⟩ := timer_of_not_loose (h.tail_of_permission ht) ht'
  obtain ⟨n, hn, hentry', hlive'⟩ := timer_of_not_loose (h.tail_of_poll? hu hs) hu'
  have heq := h.sound.eq_of_live ht hu hm hn (hentry.trans hentry'.symm) ⟨hlive, hlive'⟩
  subst heq
  cases hs

theorem one_after (h : Reachable c) {a : Act} (p : c.Permits a) (one : c.polling id ≤ 1) :
    (c.after a).polling id ≤ 1 ↔ ¬ c.Crosses id a := by
  have hcount := (inFlight_after h.sound p).countP_eq fun x => decide (x.1 = id)
  rw [List.countP_append, List.countP_append] at hcount
  change c.polling id + _ = _ + (c.after a).polling id at hcount
  by_cases hsent : ∃ r, (id, r) ∈ c.inquiry a
  · obtain ⟨r, hm⟩ := hsent
    obtain ⟨k, server, next, answer, rfl, hr⟩ := mem_inquiry.1 hm
    have hone : c.inquiry (.wake ⟨k, .permission id server, next⟩ (.permitted answer)) =
        [(id, r)] := by simp [inquiry, hr]
    have hnone : (Act.wake ⟨k, .permission id server, next⟩ (.permitted answer)).replied = [] := rfl
    rw [hone, hnone] at hcount
    simp only [List.countP_singleton, decide_true, if_true, List.countP_nil] at hcount
    constructor
    · intro hle hcross
      obtain ⟨_, hu, hs, _⟩ := hcross
      have hbusy : 0 < c.polling id := polling_pos.2 ⟨_, hu, _, hs⟩
      omega
    · intro hcross
      have hfree : ¬ 0 < c.polling id := fun hbusy => hcross (h.crosses p.1 hr hbusy)
      omega
  · have hzero : (c.inquiry a).countP (fun x => decide (x.1 = id)) = 0 := by
      rw [List.countP_eq_zero]
      rintro ⟨j, r⟩ hm hj
      obtain rfl : j = id := of_decide_eq_true hj
      exact hsent ⟨r, hm⟩
    have hno : ¬ c.Crosses id a := by
      rintro ⟨hr, -, -, -⟩
      exact hsent ⟨_, mem_inquiry.2 ⟨_, _, _, _, rfl, hr⟩⟩
    refine iff_of_true ?_ hno
    omega

end

/-- The polls of an entry through some acts. -/
structure Polling (c : Client) (acts : List Act) (id : EntryId) : Prop where
  /-- Every request that was sent has been answered once, or is under way. -/
  answered : (c.along polls acts).Perm
    (c.along (fun _ a => a.replied) acts ++ (c.afterAll acts).inFlight)
  /-- Of those under way, at most one comes from a timer that may go on. -/
  timers : ∀ t ∈ (c.afterAll acts).tasks, ∀ u ∈ (c.afterAll acts).tasks, ∀ r s,
    t.wait.poll? = some (id, r) → u.wait.poll? = some (id, s) →
    ¬ (c.afterAll acts).Loose t → ¬ (c.afterAll acts).Loose u → t = u
  /-- There is never more than one, exactly if none is sent in the way of another one. -/
  alone : (∀ past, past <+: acts → (c.afterAll past).polling id ≤ 1) ↔
    ∀ past a, past ++ [a] <+: acts → ¬ (c.afterAll past).Crosses id a

theorem polls_apart {settings : Settings} {allowed : Server → Except Error (List String)}
    {protection : Fetch.Protection} {now : Moment} {c : Client}
    (hc : Client.new settings allowed protection now = .ok c) {acts : List Act}
    (allows : c.Allows acts) (id : EntryId) : Polling c acts id := by
  have h := Reachable.new hc
  have first : c.inFlight = [] := by
    obtain ⟨rfl, -, -⟩ := new_eq hc
    rfl
  refine ⟨polls_answered h first allows, ?_, ?_⟩
  · intro t ht u hu r s hr hs hloose hloose'
    exact (h.afterAll allows).eq_of_poll? ht hu hr hs ⟨hloose, hloose'⟩
  · refine throughout_iff (I := Reachable) (P := fun d => d.polling id ≤ 1)
      (E := fun d a => d.Crosses id a) (fun d hd one a _ p => ⟨hd.act p, one_after hd p one⟩) h ?_
      allows
    rw [polling, first]
    exact Nat.zero_le 1

/-- The first poll of a server is under way, and its timer waits for the first tick. -/
def toTimer : List Act :=
  let c := blank .standard
  c.telling (c.telling toResources 0 (.permitted (.ok ["r"]))) 1 .go

theorem allows_toTimer : (blank .standard).Allows toTimer := by
  refine allows_going (allows_telling allows_toResources ?_) ?_
  · exact fun _ _ => ripe_permitted ..
  · decide +kernel

/-- The first tick comes, and the timer is to poll. -/
def toTick : List Act := (blank .standard).telling (toTimer ++ [.elapse ⟨30000, ⟨0, 0, 0⟩⟩]) 1 .go

theorem allows_toTick : (blank .standard).Allows toTick := by
  have hclock : ((blank .standard).afterAll toTimer).now.clock ≤ 30000 := by decide +kernel
  refine allows_going ((allows_append ..).2 ⟨allows_toTimer, hclock, trivial⟩) ?_
  decide +kernel

/-- Where the first poll takes as long as the interval of the timer, the timer polls meanwhile. -/
theorem timer_polls_meanwhile :
    let acts := (blank .standard).telling toTick 1 (.permitted (.ok ["r"]))
    Polling (blank .standard) acts 0 ∧ ¬ ∀ past, past <+: acts →
      ((blank .standard).afterAll past).polling 0 ≤ 1 := by
  have hnew : Client.new .standard (fun _ => .ok []) .any ⟨0, ⟨0, 0, 0⟩⟩ =
      .ok (blank .standard) := rfl
  have allows := allows_telling (k := 1) (s := .permitted (.ok ["r"])) allows_toTick
    fun _ _ => ripe_permitted ..
  have htwo : ((blank .standard).afterAll
      ((blank .standard).telling toTick 1 (.permitted (.ok ["r"])))).polling 0 = 2 := by
    decide +kernel
  refine ⟨polls_apart hnew allows 0, fun h => ?_⟩
  have hone := h _ List.prefix_rfl
  omega

end Harvest.Sync.Client
