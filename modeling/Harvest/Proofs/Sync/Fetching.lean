import Harvest.Proofs.Sync.Conveyance
import Harvest.Proofs.Sync.Refreshes
import Harvest.Proofs.Sync.Registry
/-!
The refreshes of an entry through runs. They take turns, so that at most one request for its
resources is under way; one that was scheduled waits for its interval, and one that is forced sends
its request whenever there is one.
-/

namespace Harvest.Sync

/-- Whether a task waits for the resources of an entry. -/
def Task.fetches (id : EntryId) (t : Task) : Bool :=
  match t.wait with
  | .resources j _ _ => j = id
  | _ => false

theorem Task.holds_of_fetches {id : EntryId} {t : Task} (h : t.fetches id = true) :
    t.holds id = true := by
  obtain ⟨k, w, next⟩ := t
  cases w <;> first | exact h | cases h

/-- Whether a task is to refresh an entry in any case when its turn comes. -/
def Task.isForced (id : EntryId) (t : Task) : Bool :=
  match t.wait with
  | .granted j forced => j = id && forced
  | _ => false

namespace Client

/-- The end of the last fetch of an entry's resources in some acts, in whatever way it ended. -/
def lastEnd (c : Client) (id : EntryId) : List Act → Option Moment
  | [] => none
  | a :: acts =>
    ((c.after a).lastEnd id acts).or (if c.ended? a = some id then some c.now else none)

/-- The request for the resources of an entry that a forced refresh sends, if there is one. -/
def forcedFetch (c : Client) (id : EntryId) : List (EntryId × Http.Request) :=
  match (c.entry? id).map fun e =>
      Coordinator.resourcesRequest c.settings.userAgent e.server with
  | some (.ok r) => [(id, r)]
  | _ => []

/-! Taking turns -/

theorem Reachable.fetches_le {c : Client} (h : Reachable c) (id : EntryId) :
    c.tasks.countP (Task.fetches id) ≤ 1 := by
  have hle : c.tasks.countP (Task.fetches id) ≤ c.tasks.countP (Task.holds id) :=
    List.countP_mono_left fun _ _ => Task.holds_of_fetches
  by_cases hid : id < c.entries.length
  · obtain ⟨e, he⟩ := exists_entry? hid
    have hg := h.locked id e.refresh (by rw [lock?, he]; rfl)
    calc
      c.tasks.countP (Task.fetches id) ≤ c.tasks.countP (Task.holds id) := hle
      _ = e.refresh.held.toNat := hg.holders
      _ ≤ 1 := Bool.toNat_le _
  · calc
      c.tasks.countP (Task.fetches id) ≤ c.tasks.countP (Task.holds id) := hle
      _ = 0 := List.countP_eq_zero.2 fun t ht => by simp [(h.sound.apart hid t ht).1]
      _ ≤ 1 := Nat.zero_le 1

/-- Nobody waits for a right that no task has. -/
theorem Reachable.holder {c : Client} (h : Reachable c) {id : EntryId} {t : Task} (ht : t ∈ c.tasks)
    (hl : t.lines id = true) : ∃ u ∈ c.tasks, u.holds id = true := by
  by_cases hid : id < c.entries.length
  · obtain ⟨e, he⟩ := exists_entry? hid
    have hg := h.locked id e.refresh (by rw [lock?, he]; rfl)
    have hmem : t.id ∈ e.refresh.waiting := by
      rw [hg.waiting]
      exact List.mem_map_of_mem (List.mem_filter.2 ⟨ht, hl⟩)
    cases held : e.refresh.held with
    | false =>
      rw [hg.free held] at hmem
      cases hmem
    | true =>
      have hpos : 0 < c.tasks.countP (Task.holds id) := by
        rw [hg.holders, held]
        exact Nat.one_pos
      exact List.countP_pos_iff.1 hpos
  · cases hl.symm.trans (h.sound.apart hid t ht).2

theorem stands_run {k : TaskId} {next : List Next} {c : Client}
    (h : (c.suspend k .turn next).Sound) {id : EntryId} {forced : Bool}
    (hm : .refresh id forced ∈ doing k next c) :
    ∃ more, (run k next c).Stands ⟨k, .granted id forced, more⟩ := by
  induction next generalizing c with
  | nil => cases hm
  | cons n rest ih =>
    have hp := h.perform
    by_cases hn : n = .refresh id forced
    · subst hn
      obtain ⟨e, he⟩ := exists_entry? (c := c) (h.known_of_suspend
        (by simp [Task.entries, Next.entry?] : id ∈ _))
      obtain ⟨w, hw, hg⟩ := acquire_waits he k forced
      have hperform : c.perform k (.refresh id forced) =
          ((c.acquire k id forced).1, .waiting w []) := Prod.ext rfl hw
      refine ⟨rest, List.mem_map.2 ⟨⟨k, w, rest⟩, ?_, ?_⟩⟩
      · rw [run, hperform]
        exact List.mem_append_right _ (.head _)
      · rw [Task.asGranted, hg]
    · rw [run]
      generalize heq : c.perform k n = a at hp
      obtain ⟨d, p⟩ := a
      cases p with
      | done =>
        rw [doing_cons_of_done heq] at hm
        exact ih hp ((List.mem_cons.1 hm).resolve_left (Ne.symm hn))
      | waiting w more =>
        rw [doing_cons_of_waiting heq] at hm
        exact absurd (List.mem_singleton.1 hm).symm hn

/-- A refresh that begins in an act has its task wait for its turn. -/
theorem stands_of_refresh {c : Client} (h : c.Sound) {a : Act} (p : c.Permits a) {id : EntryId}
    {forced : Bool} (hm : .refresh id forced ∈ c.doneBy a) :
    ∃ k next, (c.after a).Stands ⟨k, .granted id forced, next⟩ := by
  have hs := step_after h p
  generalize hd : c.after a = d at hs
  cases hs with
  | @wake t s ht =>
    rw [doneBy] at hm
    cases heq : (c.dropTask t.id).heed t s with
    | none =>
      rw [heq] at hm
      cases hm
    | some b =>
      have hb := (h.resume ht).heed heq
      rw [wake, heq]
      rw [heq] at hm
      obtain ⟨e, course⟩ := b
      cases course with
      | goesOn next => exact ⟨t.id, stands_run hb hm⟩
      | _ => cases hm
  | addServer | execute => cases hm
  | still ho | stops ho =>
    rw [ho.done] at hm
    cases hm
  | @begins _ e next ho _ _ _ hs =>
    rw [ho.done] at hm
    exact ⟨e.taskCount, stands_run hs hm⟩

/-- A task that waits for its turn to refresh goes on doing so until the turn comes. -/
theorem stands_or_turn {c : Client} (h : Reachable c) {acts : List Act} (allows : c.Allows acts)
    {k : TaskId} {id : EntryId} {forced : Bool} {next : List Next}
    (hs : c.Stands ⟨k, .granted id forced, next⟩) :
    (c.afterAll acts).Stands ⟨k, .granted id forced, next⟩ ∨
      ∃ mid rest, acts = mid ++ .wake ⟨k, .granted id forced, next⟩ .go :: rest := by
  induction acts generalizing c with
  | nil => exact .inl hs
  | cons a acts ih =>
    by_cases ha : c.isTurn k a = true
    · obtain ⟨u, s, b, rfl, -, hu, heeds⟩ :=
        exists_of_isTurn h.sound.numbered allows.1 hs ha
      obtain ⟨j, w, l⟩ := u
      obtain ⟨rfl, hw, rfl⟩ := Task.mk.inj hu
      cases w with
      | granted i f =>
        obtain ⟨rfl, rfl⟩ := Wait.granted.inj hw
        cases heeds
        exact .inr ⟨[], acts, rfl⟩
      | lock => cases heeds
      | _ => cases hw
    · have hk : k < c.taskCount := by
        obtain ⟨u, hu, heq⟩ := List.mem_map.1 hs
        have hid : u.id = k := congrArg Task.id heq
        exact hid ▸ h.sound.numbered.below u hu
      have hspares := spares_after h.sound allows.1 hk (Bool.eq_false_iff.2 ha)
      rcases ih (h.act allows.1) allows.2 ((hspares.stands _ rfl).2 hs) with hs | ⟨mid, rest, heq⟩
      · exact .inl hs
      · exact .inr ⟨a :: mid, rest, congrArg (a :: ·) heq⟩

theorem lastFetch?_afterAll {c : Client} (h : Reachable c) {acts : List Act}
    (allows : c.Allows acts) (id : EntryId) :
    (c.afterAll acts).lastFetch? id = (c.lastEnd id acts).or (c.lastFetch? id) := by
  induction acts generalizing c with
  | nil => rfl
  | cons a acts ih =>
    rw [afterAll_cons, ih (h.act allows.1) allows.2, lastFetch?_after h.sound allows.1, lastEnd,
      Option.or_assoc]
    by_cases ha : c.ended? a = some id
    · rw [if_pos ha, if_pos ha]
      rfl
    · rw [if_neg ha, if_neg ha]
      rfl

/-! Runs -/

/-- The refreshes of all entries through some acts. -/
structure Serialized (c : Client) (acts : List Act) : Prop where
  alone : ∀ id, (c.afterAll acts).tasks.countP (Task.fetches id) ≤ 1
  holder : ∀ id, ∀ t ∈ (c.afterAll acts).tasks, t.lines id = true →
    ∃ u ∈ (c.afterAll acts).tasks, u.holds id = true
  /-- Only turns of refreshes send requests for resources. -/
  turns : ∀ past a rest, acts = past ++ a :: rest → (c.afterAll past).fetches a ≠ [] →
    ∃ k id forced next, a = .wake ⟨k, .granted id forced, next⟩ .go
  /-- A scheduled refresh sends a request only after its interval. -/
  spaced : ∀ past k id next rest, acts = past ++ .wake ⟨k, .granted id false, next⟩ .go :: rest →
    (c.afterAll past).fetches (.wake ⟨k, .granted id false, next⟩ .go) ≠ [] →
    ∀ last, c.lastEnd id past = some last →
      c.settings.refreshInterval ≤ (c.afterAll past).now.clock - last.clock
  /-- Before that, the host is told so, and nothing else happens. -/
  limited : ∀ past k id next rest, acts = past ++ .wake ⟨k, .granted id false, next⟩ .go :: rest →
    ∀ e last, Client.entry? (c.afterAll past) id = some e → c.lastEnd id past = some last →
      (c.afterAll past).now.clock - last.clock < c.settings.refreshInterval →
      (c.afterAll past).shown (.wake ⟨k, .granted id false, next⟩ .go) =
          [((c.afterAll past).now.clock, .event (.resourceRateLimit e.server last))] ∧
        ∀ j, ((c.afterAll past).after (.wake ⟨k, .granted id false, next⟩ .go)).record? j =
          (c.afterAll past).record? j
  /-- A forced refresh that begins waits for its turn, in which it sends its request. -/
  forced : ∀ past a rest id, acts = past ++ a :: rest →
    .refresh id true ∈ (c.afterAll past).doneBy a →
    ∃ k next, (c.afterAll acts).Stands ⟨k, .granted id true, next⟩ ∨
      ∃ mid rest', rest = mid ++ .wake ⟨k, .granted id true, next⟩ .go :: rest' ∧
        (c.afterAll (past ++ a :: mid)).fetches (.wake ⟨k, .granted id true, next⟩ .go) =
          (c.afterAll (past ++ a :: mid)).forcedFetch id

theorem fetches_forced {c : Client} (h : c.Sound) {k : TaskId} {id : EntryId} {next : List Next}
    (p : c.Permits (.wake ⟨k, .granted id true, next⟩ .go)) :
    c.fetches (.wake ⟨k, .granted id true, next⟩ .go) = c.forcedFetch id := by
  rw [fetches_eq_asks h p, asks, prospect?, forcedFetch]
  cases c.entry? id with
  | none => rfl
  | some e =>
    rw [Option.map_some, Option.map_some, prospect, if_pos rfl]
    dsimp only
    cases Coordinator.resourcesRequest c.settings.userAgent e.server <;> rfl

theorem prospect_limited {c : Client} {id : EntryId} {e : Entry} (he : c.entry? id = some e)
    {last : Moment} (hl : c.lastFetch? id = some last)
    (soon : c.now.clock - last.clock < c.settings.refreshInterval) :
    c.prospect e false = .limited last := by
  have hlast : e.lastFetch = some last := by rwa [lastFetch?, he] at hl
  have hrecent : c.recentFetch? e = some last := by rw [recentFetch?, hlast]; exact if_pos soon
  rw [prospect, if_neg (by simp), hrecent]

/-- Refreshes of an entry take turns. One that is scheduled sends a request only if the last fetch
    is not too recent; one that is forced sends one in any case, if there is such a request. -/
theorem refreshes_serialized {settings : Settings}
    {allowed : Server → Except Error (List String)} {protection : Fetch.Protection} {now : Moment}
    {c : Client} (hc : Client.new settings allowed protection now = .ok c) {acts : List Act}
    (allows : c.Allows acts) : Serialized c acts := by
  have h := Reachable.new hc
  have hend := h.afterAll allows
  have initial : ∀ id, c.lastFetch? id = none := by
    obtain ⟨rfl, -, -⟩ := new_eq hc
    exact fun _ => rfl
  have limited : ∀ past k id next rest,
      acts = past ++ .wake ⟨k, .granted id false, next⟩ .go :: rest →
      ∀ e last, Client.entry? (c.afterAll past) id = some e → c.lastEnd id past = some last →
      (c.afterAll past).now.clock - last.clock < c.settings.refreshInterval →
      (c.afterAll past).shown (.wake ⟨k, .granted id false, next⟩ .go) =
          [((c.afterAll past).now.clock, .event (.resourceRateLimit e.server last))] ∧
        ∀ j, ((c.afterAll past).after (.wake ⟨k, .granted id false, next⟩ .go)).record? j =
          (c.afterAll past).record? j := by
    intro past k id next rest heq e last he hlast soon
    obtain ⟨hr, hp, -⟩ := h.past allows heq
    obtain ⟨hpast, -⟩ := (allows_append c past _).1 (heq ▸ allows)
    have hfetch : (c.afterAll past).lastFetch? id = some last := by
      rw [lastFetch?_afterAll h hpast, hlast]
      rfl
    have hx := prospect_limited he hfetch (settings_afterAll h hpast ▸ soon)
    cases hr.staged hp.1 with
    | right hg hl =>
      cases hg
      exact limited_turn hl he hx
  refine ⟨hend.fetches_le, fun id t => hend.holder, ?_, ?_, limited, ?_⟩
  · intro past a rest heq hne
    obtain ⟨hr, hp, -⟩ := h.past allows heq
    rw [fetches_eq_asks hr.sound hp, asks] at hne
    split at hne
    · rename_i id r hx
      obtain ⟨k, forced, next, e, rfl, -⟩ := eq_of_prospect? hx
      exact ⟨k, id, forced, next, rfl⟩
    · exact absurd rfl hne
  · intro past k id next rest heq hne last hlast
    refine Nat.not_lt.1 fun soon => hne ?_
    obtain ⟨hr, hp, -⟩ := h.past allows heq
    have hid : id < (c.afterAll past).entries.length :=
      (hr.sound.resume hp.1).known_of_suspend (by simp [Task.entries, Wait.entry?])
    obtain ⟨e, he⟩ := exists_entry? hid
    rw [fetches, (limited past k id next rest heq e last he hlast soon).1]
    rfl
  · intro past a rest id heq hm
    obtain ⟨hr, hp, hrest⟩ := h.past allows heq
    obtain ⟨k, next, hs⟩ := stands_of_refresh hr.sound hp hm
    refine ⟨k, next, ?_⟩
    rcases stands_or_turn (hr.act hp) hrest hs with hs | ⟨mid, rest', hmid⟩
    · have hall : c.afterAll acts = ((c.afterAll past).after a).afterAll rest := by
        rw [heq, afterAll_append, afterAll_cons]
      exact .inl (hall ▸ hs)
    · have hturn : acts = (past ++ a :: mid) ++
          .wake ⟨k, .granted id true, next⟩ .go :: rest' := by
        rw [heq, hmid, List.append_assoc]
        rfl
      obtain ⟨hb, hpb, -⟩ := h.past allows hturn
      exact .inr ⟨mid, rest', hmid, fetches_forced hb.sound hpb⟩

/-- The resources of a new server are asked for once. -/
theorem first_fetch_serialized : Serialized (blank .standard) toResources ∧
    ((blank .standard).along fetches toResources).length = 1 := by
  have hnew : Client.new .standard (fun _ => .ok []) .any ⟨0, ⟨0, 0, 0⟩⟩ =
      .ok (blank .standard) := rfl
  exact ⟨refreshes_serialized hnew allows_toResources, by decide +kernel⟩

def refetchText : String := "\x7b\"jobs\":[],\"refetch\":[\"resources\"]\x7d"

/-- A server asks for a refresh. -/
def toRefetch : List Act :=
  let c := blank .standard
  c.telling (c.telling toResources 0 (.permitted (.ok ["r"]))) 0 (content refetchText)

theorem allows_toRefetch : (blank .standard).Allows toRefetch :=
  allows_telling (allows_telling allows_toResources fun _ _ => ripe_permitted ..)
    fun _ _ => ripe_reply ..

/-- Before the refresh begins, the server loses its address. -/
def toLoss : List Act := toRefetch ++ [.updateServer { home with url := "" }]

theorem allows_toLoss : (blank .standard).Allows toLoss :=
  (allows_append ..).2 ⟨allows_toRefetch, trivial, trivial⟩

/-- A forced refresh of a server without an address sends no request. -/
theorem forced_without_request : ∃ k next,
    (blank .standard).Allows (toLoss ++ [.wake ⟨k, .granted 0 true, next⟩ .go]) ∧
      ((blank .standard).afterAll toLoss).fetches (.wake ⟨k, .granted 0 true, next⟩ .go) = [] := by
  have hnew : Client.new .standard (fun _ => .ok []) .any ⟨0, ⟨0, 0, 0⟩⟩ =
      .ok (blank .standard) := rfl
  have hforced : ((blank .standard).afterAll toLoss).tasks.any (Task.isForced 0) = true := by
    decide +kernel
  have hnone : (((blank .standard).afterAll toLoss).forcedFetch 0).isEmpty = true := by
    decide +kernel
  have hreach : Reachable ((blank .standard).afterAll toLoss) :=
    (Reachable.new hnew).afterAll allows_toLoss
  obtain ⟨⟨k, w, next⟩, ht, hw⟩ := List.any_eq_true.1 hforced
  cases w with
  | granted id forced =>
    obtain ⟨rfl, rfl⟩ : id = 0 ∧ forced = true := by simpa [Task.isForced] using hw
    have hp : ((blank .standard).afterAll toLoss).Permits (.wake ⟨k, .granted 0 true, next⟩ .go) :=
      ⟨ht, trivial⟩
    refine ⟨k, next, (allows_append ..).2 ⟨allows_toLoss, hp, trivial⟩, ?_⟩
    rw [fetches_forced hreach.sound hp]
    exact List.isEmpty_iff.1 hnone
  | _ => cases hw

end Client
end Harvest.Sync
