import Mathlib.Data.List.Induction
import Harvest.Proofs.Sync.Halting
import Harvest.Proofs.Sync.Overlaps
/-!
Requests for jobs that are sent though their server does not poll. A task takes a poll up when a
start has done its refresh, or when a tick of its timer comes, and it sends the request once the host
has answered. In the meantime the server may be halted; and a timer that is late takes a tick up
though its token is cancelled.
-/

namespace Harvest.Sync

theorem Tail.no_poll {id j : EntryId} {l : List Next} (h : Tail id l) : .poll j ∉ l := by
  cases h <;> simp

theorem Sequel.no_poll {id j : EntryId} {forced : Bool} {l : List Next} (h : Sequel id forced l) :
    .poll j ∉ l := by
  cases h with
  | scheduled | started => simp
  | enqueue tail | attempt tail => simp [tail.no_poll]

namespace Client

/-- A timer that takes a tick up though its token is cancelled. -/
def Late (c : Client) (id : EntryId) (a : Act) : Prop :=
  ∃ k token ticker next, a = .wake ⟨k, .tick id token ticker, next⟩ .go ∧ token ∈ c.cancelled

/-- An act in which a task takes a poll of an entry up. -/
inductive TakesUp (c : Client) (k : TaskId) (id : EntryId) : Act → Prop
  | tick {token : Token} {ticker : Ticker} {next : List Next} :
      c.TakesUp k id (.wake ⟨k, .tick id token ticker, next⟩ .go)
  | start {t : Task} {s : Signal} {token : Token} : t.id = k → .started id token ∈ t.next →
      .started id token ∈ c.doneBy (.wake t s) → token ∉ c.cancelled → c.TakesUp k id (.wake t s)

section

variable {c : Client} {id : EntryId}

/-- Polls that are still to be taken up are in no plan: ticks bring them. -/
theorem Reachable.no_poll (h : Reachable c) {t : Task} (ht : t ∈ c.tasks) : .poll id ∉ t.next := by
  have hstaged := h.staged ht
  obtain ⟨k, w, next⟩ := t
  cases hstaged with
  | turn =>
    rcases h.turn_of_mem ht rfl with hf | ⟨job, hj⟩
    · cases hf <;> simp
    · obtain rfl : next = [.execute job] := hj
      simp
  | right _ hl | resources hl => exact hl.no_poll
  | permission tail | jobs tail | submission tail => exact tail.no_poll
  | _ => exact List.not_mem_nil

theorem isPolling_of_timer (h : c.Sound) {t : Task} (ht : t ∈ c.tasks) {token : Token}
    (hm : ⟨.poll, id, token⟩ ∈ t.timers) (live : token ∉ c.cancelled) : c.IsPolling id := by
  obtain ⟨e, he, hheld⟩ := (h.live _ (List.mem_flatMap.2 ⟨t, ht, hm⟩)).resolve_left live
  obtain ⟨held, hgrip⟩ := h.timed id e he
  obtain rfl : held = some (.poll, token) := (hgrip.grip.held_iff .poll token).1 hheld
  have hstatus : e.status = .polling := hgrip.grip.1
  rw [IsPolling, account?, he]
  exact congrArg some hstatus

theorem TakesUp.polling_or_late {k : TaskId} {a : Act} (h : c.Sound) (p : c.Permits a)
    (takes : c.TakesUp k id a) : c.IsPolling id ∨ c.Late id a := by
  cases takes with
  | @tick token ticker next =>
    by_cases hc : token ∈ c.cancelled
    · exact .inr ⟨k, token, ticker, next, rfl, hc⟩
    · exact .inl (isPolling_of_timer h p.1 (by simp [Task.timers, Wait.timer?]) hc)
  | start _ hm _ live =>
    exact .inl (isPolling_of_timer h p.1 (Task.mem_timers.2 (.inr ⟨_, hm, rfl⟩)) live)

theorem Kept.eq_of_permission {t : Task} {server : Server} (hw : t.wait = .permission id server)
    (h : c.Kept t) : t ∈ c.tasks := by
  obtain ⟨u, hu, heq⟩ := h
  have hwait : u.wait.asGranted = t.wait.asGranted := (congrArg Task.wait heq).symm
  obtain ⟨j, v, l⟩ := u
  obtain ⟨k, w, next⟩ := t
  obtain rfl : w = .permission id server := hw
  rcases Wait.eq_of_asGranted hwait with hv | ⟨_, _, hg⟩
  · obtain rfl : v = .permission id server := hv
    obtain ⟨rfl, -, rfl⟩ := Task.mk.inj heq
    exact hu
  · cases hg

/-- A task that waits for the host to permit a poll did so before, or has just taken the poll up. -/
theorem Reachable.takesUp (h : Reachable c) {a : Act} (p : c.Permits a) {t : Task} {server : Server}
    (hw : t.wait = .permission id server) (ht : t ∈ (c.after a).tasks) :
    t ∈ c.tasks ∨ c.TakesUp t.id id a := by
  have hcomes := comes_of_mem h.sound p ht
  cases hcomes with
  | kept hk => exact .inl (hk.eq_of_permission hw)
  | fresh hf => cases hf <;> cases hw
  | execute => cases hw
  | @onward u s d w next _ _ heq =>
    obtain rfl : w = .permission id server := hw
    have honward := onward_of_heed heq rfl
    generalize u.wait = v at honward
    cases honward
  | @rests d k n w more rest hid hcancelled _ hn hr =>
    right
    obtain rfl : w = .permission id server := hw
    cases hr with
    | refresh hw | start hw => rcases hw with hw | hw <;> cases hw
    | poll he hn' =>
      have hoccasion := occasion_of_doneBy hn
      rcases hn' with rfl | ⟨token, live, rfl⟩
      · cases hoccasion with
        | planned hm => exact absurd hm (h.no_poll p.1)
        | arises hm =>
          cases hm
          obtain rfl := hid _ _ rfl
          exact .tick
      · cases hoccasion with
        | planned hm => exact .start (hid _ _ rfl) hm hn fun hc => live (hcancelled hc)
        | arises hm => cases hm

end

/-- The course of a poll, from the act in which a task takes it up to the moment at which its
    request is to be sent. -/
structure Pending (c : Client) (id : EntryId) (past : List Act) (a : Act) (rest : List Act)
    (t : Task) : Prop where
  takesUp : (c.afterAll past).TakesUp t.id id a
  waits : ∀ mid, mid <+: rest → t ∈ (c.afterAll (past ++ a :: mid)).tasks

theorem exists_pending {c : Client} (h : Reachable c) (first : c.tasks = []) {acts : List Act}
    (allows : c.Allows acts) {t : Task} {id : EntryId} {server : Server}
    (hw : t.wait = .permission id server) (ht : t ∈ (c.afterAll acts).tasks) :
    ∃ past a rest, acts = past ++ a :: rest ∧ Pending c id past a rest t := by
  -- from the last act backwards, up to the one in which the poll is taken up
  induction acts using List.reverseRecOn with
  | nil =>
    rw [afterAll_nil, first] at ht
    cases ht
  | append_singleton acts b ih =>
    obtain ⟨hpast, p, -⟩ := (allows_append ..).1 allows
    have hlast : c.afterAll (acts ++ [b]) = (c.afterAll acts).after b := afterAll_append ..
    rcases (h.afterAll hpast).takesUp p hw (hlast ▸ ht) with hm | htakes
    · obtain ⟨past, a, rest, rfl, htakes, hwaits⟩ := ih hpast hm
      refine ⟨past, a, rest ++ [b], by simp, htakes, fun mid hmid => ?_⟩
      rcases List.prefix_concat_iff.1 hmid with rfl | hmid
      · simpa using ht
      · exact hwaits mid hmid
    · refine ⟨acts, b, [], rfl, htakes, fun mid hmid => ?_⟩
      obtain rfl := List.prefix_nil.1 hmid
      exact ht

structure Lateness (c : Client) (id : EntryId) (past : List Act) (a : Act) (rest : List Act) :
    Prop where
  /-- It was taken up while its server polled, unless its timer was late. -/
  first : (c.afterAll past).IsPolling id ∨ (c.afterAll past).Late id a
  /-- The server does not poll, exactly if it did not before, or was halted in the meantime, and was
      not started since. -/
  status : ¬ (c.afterAll (past ++ a :: rest)).IsPolling id ↔
    (¬ (c.afterAll past).IsPolling id ∧ (c.afterAll past).Without (·.Starts id) (a :: rest)) ∨
    ∃ pre b post, a :: rest = pre ++ b :: post ∧ (c.afterAll (past ++ pre)).Halts id b ∧
      (c.afterAll (past ++ pre)).Without (·.Starts id) (b :: post)
  /-- The token of its timer is cancelled, exactly if the timer was late, or the server was halted
      or started in the meantime. -/
  timer : ∀ k token ticker next, a = .wake ⟨k, .tick id token ticker, next⟩ .go →
    (token ∈ (c.afterAll (past ++ a :: rest)).cancelled ↔
      (c.afterAll past).Late id a ∨ ∃ pre b post, a :: rest = pre ++ b :: post ∧
        ((c.afterAll (past ++ pre)).Halts id b ∨ (c.afterAll (past ++ pre)).Starts id b))

/-- A server is stopped at the time of a tick, which its timer takes up all the same. -/
def toLateTick : List Act :=
  (blank .standard).telling (toTimer ++ [.elapse ⟨30000, ⟨0, 0, 0⟩⟩, .stop "h"]) 1 .go

theorem allows_toLateTick : (blank .standard).Allows toLateTick := by
  have hclock : ((blank .standard).afterAll toTimer).now.clock ≤ 30000 := by decide +kernel
  refine allows_going ((allows_append ..).2 ⟨allows_toTimer, hclock, trivial, trivial⟩) ?_
  decide +kernel

end Client
end Harvest.Sync
