import Harvest.Proofs.Sync.Confinement
import Harvest.Proofs.Sync.Halting
import Harvest.Proofs.Sync.Caches
import Harvest.Proofs.Sync.Overlaps
import Harvest.Proofs.Sync.Refreshes
import Harvest.Proofs.Sync.Stopping
/-!
Servers that are registered anew. The new entry is reached under the id, and the old one under none.
What the host does goes past the old entry from then on, but the tasks that are about it go on as
they would have done: they are not stopped with the server, and their timers poll it as before.
-/

namespace Harvest.Sync.Client

theorem Onward.entry? {v w : Wait} (h : Onward v w) : w.entry? = v.entry? := by
  cases h <;> rfl

/-- Whether an entry is registered under no id. -/
def Unlisted (c : Client) (id : EntryId) : Prop := id ∉ c.registry.map (·.2)

section

variable {c d : Client} {id : EntryId} {k : TaskId}

theorem Unlisted.registered? (h : c.Unlisted id) (serverId : String) :
    c.registered? serverId ≠ some id :=
  fun hr => h (mem_of_registered? hr)

theorem mem_registry_addServer {s : Server} {r : String × EntryId}
    (h : r ∈ (c.addServer s).registry) :
    r = (s.id, c.entries.length) ∨ r ∈ c.registry ∧ r.1 ≠ s.id := by
  unfold addServer at h
  dsimp only at h
  split at h
  · rename_i hnone
    rcases List.mem_append.1 h with h | h
    · refine .inr ⟨h, fun hid => ?_⟩
      have hne := List.lookup_eq_none_iff.1 hnone r h
      simp [hid] at hne
    · exact .inl (List.mem_singleton.1 h)
  · obtain ⟨q, hq, rfl⟩ := List.mem_map.1 h
    split
    · exact .inl rfl
    · exact .inr ⟨hq, ‹_›⟩

theorem unlisted_addServer {s : Server} (known : id < c.entries.length)
    (h : ∀ r ∈ c.registry, r.2 = id → r.1 = s.id) : (c.addServer s).Unlisted id := by
  intro hm
  obtain ⟨r, hr, hid⟩ := List.mem_map.1 hm
  rcases mem_registry_addServer hr with rfl | ⟨hr, hne⟩
  · exact Nat.ne_of_lt known hid.symm
  · exact hne (h r hr hid)

/-- What the host does has nothing to do with an entry that is not registered. -/
theorem Unlisted.not_concerns (h : c.Unlisted id) {a : Act} (host : ∀ t s, a ≠ .wake t s) :
    ¬ c.Concerns id a := by
  have listed : ∀ {r : String × EntryId}, r ∈ c.registry → r.2 ≠ id := fun hr he =>
    h (he ▸ List.mem_map_of_mem hr)
  intro hc
  cases hc with
  | waits => exact host _ _ rfl
  | updates hr => exact h.registered? _ hr
  | @does _ n hn hid =>
    cases a with
    | wake t s => exact host t s rfl
    | start serverId =>
      rw [doneBy_start] at hn
      split at hn
      · cases hn
      · rename_i i hi
        obtain rfl := List.mem_singleton.1 (mem_of_mem_doing hn)
        exact h.registered? _ (hi.trans hid)
    | startAll =>
      obtain ⟨r, hr, rfl⟩ := List.mem_map.1 (mem_of_mem_doing hn)
      exact listed hr (Option.some_inj.1 hid)
    | submit r =>
      obtain rfl := List.mem_singleton.1 (mem_of_mem_doing hn)
      cases hid
    | _ => cases hn
  | stops hs =>
    cases a with
    | stop serverId => exact h.registered? serverId (Option.mem_toList.1 hs)
    | stopAll => exact h hs
    | _ => cases hs

/-! Tasks about an entry that is not registered come from such tasks only -/

theorem mentions_spawn (c : Client) (n : Next) :
    (c.spawn [n]).mentions = c.mentions ++ n.entry?.toList := by
  rw [mentions, spawn, List.flatMap_append, List.flatMap_singleton]
  cases n <;> rfl

theorem Quiet.not_mentions (q : Quiet c d) (h : c.Unlisted id) (hm : id ∉ c.mentions) :
    id ∉ d.mentions := by
  obtain ⟨xs, hx, hxs⟩ := q.adds
  intro hd
  rcases List.mem_append.1 (hx.mentions_perm.mem_iff.1 hd) with hd | hd
  · exact hm hd
  · obtain ⟨t, ht, hid⟩ := List.mem_flatMap.1 hd
    exact h ((hxs t ht).listed hid)

theorem not_mentions_pause {j : EntryId} (hj : j ≠ id) (hm : id ∉ c.mentions)
    (next : List Next) : id ∉ (c.pause j next).1.mentions := by
  have hr : id ∉ (c.retime j (some .resume)).mentions := hm
  rw [pause_eq]
  split
  · exact hr
  · split
    · exact hr
    · rw [mentions_spawn]
      exact fun hd => (List.mem_append.1 hd).elim hr (by simp [Next.entry?, Ne.symm hj])

theorem Told.not_mentions {t : Task} {s : Signal} {b : Client × Course} (told : c.Told t s b)
    (h : c.Unlisted id) (hw : t.wait.entry? ≠ some id) (hm : id ∉ c.mentions) :
    id ∉ b.1.mentions := by
  cases told with
  | quiet _ q => exact q.not_mentions h hm
  | counted _ _ q => exact q.not_mentions h hm
  | @paused j e hf _ q =>
    have hj : j ≠ id := by
      rintro rfl
      exact hw (entry?_of_fault? hf)
    exact not_mentions_pause hj (q.not_mentions h hm) t.next

theorem Performs.not_mentions {n : Next} (p : c.Performs n d) (h : c.Unlisted id)
    (hn : n.entry? ≠ some id) (hm : id ∉ c.mentions) : id ∉ d.mentions := by
  cases p with
  | start q => exact q.not_mentions h hm
  | @timer j token _ =>
    rw [mentions_spawn]
    exact fun hd => (List.mem_append.1 hd).elim hm fun hj => hn (Option.mem_toList.1 hj)
  | quiet _ q => exact q.not_mentions h hm

theorem Rests.not_entry {n : Next} {w : Wait} {more : List Next}
    (r : c.Rests n (.waiting w more)) (h : c.Unlisted id) (hn : n.entry? ≠ some id) :
    w.entry? ≠ some id ∧ ∀ m ∈ more, m.entry? ≠ some id := by
  have nothing : ∀ m ∈ ([] : List Next), m.entry? ≠ some id := fun m hm => by cases hm
  have started : ∀ {j : EntryId} {token : Token}, some j ≠ some id →
      ∀ m ∈ [Next.started j token], m.entry? ≠ some id := by
    intro j token hj m hm
    obtain rfl := List.mem_singleton.1 hm
    exact hj
  cases r with
  | refresh hw =>
    rcases hw with rfl | rfl
    · exact ⟨hn, nothing⟩
    · exact ⟨hn, nothing⟩
  | start hw =>
    rcases hw with rfl | rfl
    · exact ⟨hn, started hn⟩
    · exact ⟨hn, started hn⟩
  | poll _ hp =>
    rcases hp with rfl | ⟨_, -, rfl⟩
    · exact ⟨hn, nothing⟩
    · exact ⟨hn, nothing⟩
  | submission _ _ hs =>
    rcases hs with ⟨-, hlisted⟩ | rfl
    · refine ⟨fun he => h ?_, nothing⟩
      rwa [← Option.some_inj.1 he]
    · exact ⟨hn, nothing⟩
  | page =>
    refine ⟨fun he => ?_, nothing⟩
    cases he
  | beginTimer | timer | beginPause => exact ⟨hn, nothing⟩
  | beginDriver => exact ⟨hn, nothing⟩

theorem not_mentions_suspend {w : Wait} {next : List Next} (hm : id ∉ c.mentions)
    (hw : w.entry? ≠ some id) (hn : ∀ n ∈ next, n.entry? ≠ some id) :
    id ∉ (c.suspend k w next).mentions := by
  rw [mentions_suspend, List.mem_append]
  rintro (hd | hd)
  · exact hm hd
  · rcases List.mem_append.1 hd with hd | hd
    · exact hw (Option.mem_toList.1 hd)
    · obtain ⟨n, hnext, he⟩ := List.mem_filterMap.1 hd
      exact hn n hnext he

theorem not_mentions_run {next : List Next} (hs : (c.suspend k .turn next).Sound)
    (h : c.Unlisted id) (hm : id ∉ c.mentions) (hn : ∀ n ∈ next, n.entry? ≠ some id) :
    id ∉ (run k next c).mentions := by
  induction next generalizing c with
  | nil => exact hm
  | cons n rest ih =>
    have hp := hs.perform
    have hd := hs.performs.not_mentions h (hn n List.mem_cons_self) hm
    have hr := rests_perform c k n
    have hf : Frame c (c.perform k n).1 := (Frame.refl c).perform k n
    have hrest : ∀ m ∈ rest, m.entry? ≠ some id := fun m hm => hn m (List.mem_cons_of_mem n hm)
    rw [run]
    generalize c.perform k n = b at hp hd hr hf
    obtain ⟨d, p⟩ := b
    cases p with
    | done => exact ih hp (by rwa [Unlisted, hf.registry]) hd hrest
    | waiting w more =>
      obtain ⟨hw, hmore⟩ := hr.not_entry h (hn n List.mem_cons_self)
      refine not_mentions_suspend hd hw fun m hm => ?_
      exact (List.mem_append.1 hm).elim (hmore m) (hrest m)

theorem not_mentions_wake (hc : c.Sound) {t : Task} (ht : t ∈ c.tasks) (s : Signal)
    (h : c.Unlisted id) (hm : id ∉ c.mentions) : id ∉ (c.wake t s).mentions := by
  have hdrop : (c.dropTask t.id).Sound := (hc.resume ht).of_suspend
  have hmdrop : id ∉ (c.dropTask t.id).mentions := fun hd => by
    obtain ⟨u, hu, hid⟩ := List.mem_flatMap.1 hd
    exact hm (List.mem_flatMap.2 ⟨u, (List.mem_filter.1 hu).1, hid⟩)
  have hentries : id ∉ t.entries := fun he => hm (List.mem_flatMap.2 ⟨t, ht, he⟩)
  have hw : t.wait.entry? ≠ some id := fun he =>
    hentries (List.mem_append_left _ (Option.mem_toList.2 he))
  have hnext : ∀ n ∈ t.next, n.entry? ≠ some id := fun n hn he =>
    hentries (List.mem_append_right _ (List.mem_filterMap.2 ⟨n, hn, he⟩))
  rw [wake]
  cases heq : (c.dropTask t.id).heed t s with
  | none => exact hm
  | some b =>
    have told := told_of_heed hdrop.numbered hdrop.registered heq
    have hb : id ∉ b.1.mentions := told.not_mentions h hw hmdrop
    have hsound := (hc.resume ht).heed heq
    have hplan : ∀ n ∈ b.2.plan, n.entry? ≠ some id := by
      intro n hn
      rcases planned_of_heed heq hn with hn | hn
      · exact hnext n hn
      · cases hn with
        | submit | enqueue => exact fun he => by cases he
        | poll | timer | start | refetch | refresh | attempt => exact hw
    have hlisted : b.1.Unlisted id := by
      have hregistry : b.1.registry = c.registry := congrArg Prod.snd told.fixed
      rwa [Unlisted, hregistry]
    have honward := fun w => onward_of_heed heq (w := w)
    obtain ⟨d, course⟩ := b
    cases course with
    | goesOn next => exact not_mentions_run hsound hlisted hb hplan
    | waits w next =>
      have hon : Onward t.wait w := honward w rfl
      exact not_mentions_suspend hb (hon.entry? ▸ hw) hplan
    | ends => exact hb

theorem Begun.not_entry {next : List Next} (b : c.Begun next) (h : c.Unlisted id) :
    ∀ n ∈ next, n.entry? ≠ some id := by
  intro n hn he
  cases b with
  | start hids =>
    obtain ⟨j, hj, rfl⟩ := List.mem_map.1 hn
    obtain rfl := Option.some_inj.1 he
    exact h (hids.subset hj)
  | submit r =>
    obtain rfl := List.mem_singleton.1 hn
    cases he

theorem not_mentions_after (hc : c.Sound) {a : Act} (p : c.Permits a) (h : c.Unlisted id)
    (hm : id ∉ c.mentions) : id ∉ (c.after a).mentions := by
  have hs := step_after hc p
  generalize c.after a = d at hs
  cases hs with
  | wake ht => exact not_mentions_wake hc ht _ h hm
  | addServer s => rwa [mentions, tasks_addServer]
  | execute job => simpa [mentions_spawn, Next.entry?] using hm
  | still _ q => exact q.not_mentions h hm
  | stops => rwa [mentions, (unchanged_stopEntries _ _).1]
  | begins _ _ q hb hs =>
    have hd := q.not_mentions h hm
    refine not_mentions_run hs ?_ hd (hb.not_entry h)
    rw [Unlisted, q.registry]
    exact h

/-! What is done for an entry -/

theorem Arises.entry? {t : Task} {s : Signal} {n : Next} (h : c.Arises t s n) :
    n.entry? = none ∨ n.entry? = t.wait.entry? := by
  cases h with
  | submit | enqueue => exact .inl rfl
  | _ => exact .inr rfl

theorem Unlisted.not_concerns_of_mentions (h : c.Unlisted id) {a : Act} (p : c.Permits a)
    (hm : id ∉ c.mentions) : ¬ c.Concerns id a := by
  by_cases host : ∃ t s, a = .wake t s
  · obtain ⟨t, s, rfl⟩ := host
    have hentries : id ∉ t.entries := fun he => hm (List.mem_flatMap.2 ⟨t, p.1, he⟩)
    have hw : t.wait.entry? ≠ some id := fun he =>
      hentries (List.mem_append_left _ (Option.mem_toList.2 he))
    intro hc
    cases hc with
    | waits he => exact hw he
    | does hn he =>
      cases occasion_of_doneBy hn with
      | planned hnext =>
        exact hentries (List.mem_append_right _ (List.mem_filterMap.2 ⟨_, hnext, he⟩))
      | arises ha =>
        rcases ha.entry? with hnone | hsame
        · cases hnone.symm.trans he
        · exact hw (hsame.symm.trans he)
    | stops hs => cases hs
  · exact h.not_concerns fun t s ha => host ⟨t, s, ha⟩

theorem concerns_of_host {a : Act} (host : ∀ t s, a ≠ .wake t s)
    (h : c.Halts id a ∨ c.Starts id a) : c.Concerns id a := by
  rcases h with h | h
  · cases a with
    | wake t s => exact absurd rfl (host t s)
    | _ => exact .stops h
  · exact .does h rfl

/-- An entry stays as it is, and nothing is asked for it. -/
structure Spared (c : Client) (id : EntryId) (a : Act) : Prop where
  entry : Client.entry? (c.after a) id = c.entry? id
  polls : ∀ r, (id, r) ∉ c.polls a
  fetches : ∀ r, (id, r) ∉ c.fetches a

theorem spared_of_not_concerns (hc : c.Sound) {a : Act} (p : c.Permits a)
    (known : id < c.entries.length) (h : ¬ c.Concerns id a) : c.Spared id a := by
  refine ⟨(leaves_after known h).entry, fun r hr => ?_, fun r hr => ?_⟩
  · rw [polls_eq_inquiry hc p] at hr
    obtain ⟨k, server, next, answer, rfl, -⟩ := mem_inquiry.1 hr
    exact h (.waits rfl)
  · rw [fetches_eq_asks hc p, asks] at hr
    split at hr
    · rename_i i x hx
      obtain ⟨rfl, -⟩ := Prod.mk.inj (List.mem_singleton.1 hr)
      obtain ⟨k, forced, next, e, rfl, -, -⟩ := eq_of_prospect? hx
      exact h (.waits rfl)
    · cases hr

/-- An entry that is not registered, with its server as it was defined last. -/
structure Detached (c : Client) (id : EntryId) (server : Server) : Prop where
  unlisted : c.Unlisted id
  server : c.server? id = some server

theorem exists_entry?_of_server? {server : Server} (h : c.server? id = some server) :
    ∃ e, c.entry? id = some e ∧ e.server = server :=
  Option.map_eq_some_iff.1 h

theorem Detached.known {server : Server} (h : c.Detached id server) : id < c.entries.length := by
  obtain ⟨e, he, -⟩ := exists_entry?_of_server? h.server
  exact entry?_lt he

theorem Detached.after {server : Server} (h : c.Detached id server) (hc : c.Sound) {a : Act}
    (p : c.Permits a) : (c.after a).Detached id server := by
  refine ⟨?_, ?_⟩
  · by_cases ha : ∃ s, a = .addServer s
    · obtain ⟨s, rfl⟩ := ha
      exact unlisted_addServer h.known fun r hr he =>
        absurd (he ▸ List.mem_map_of_mem hr) h.unlisted
    · rw [Unlisted, registry_after hc p fun s hs => ha ⟨s, hs⟩]
      exact h.unlisted
  · refine Eq.trans ?_ h.server
    by_cases host : ∃ t s, a = .wake t s
    · obtain ⟨t, s, rfl⟩ := host
      exact server?_after (by simp) (by simp) id
    · have hleaves := leaves_after h.known (h.unlisted.not_concerns fun t s ha => host ⟨t, s, ha⟩)
      exact congrArg (Option.map (·.server)) hleaves.entry

theorem Detached.afterAll {server : Server} (h : c.Detached id server) (hc : Reachable c)
    {acts : List Act} (allows : c.Allows acts) : (c.afterAll acts).Detached id server := by
  induction acts generalizing c with
  | nil => exact h
  | cons a acts ih => exact ih (h.after hc.sound allows.1) (hc.act allows.1) allows.2

/-! What a task about an entry is still to do -/

/-- Time passes until a moment has come. -/
def lapse (c : Client) (due : Nat) : Act := .elapse ⟨max c.now.clock due, c.now.date⟩

theorem permits_lapse (c : Client) (due : Nat) : c.Permits (c.lapse due) :=
  Nat.le_max_left _ _

/-- A timer that waits for its next tick polls its server when the tick comes, if the request can be
    built. -/
theorem exists_poll_of_tick (hc : c.Sound) {token : Token} {ticker : Ticker} {next : List Next}
    (ht : ⟨k, .tick id token ticker, next⟩ ∈ c.tasks) {server : Server}
    (hs : c.server? id = some server) {names : List String} {r : Http.Request}
    (hr : Coordinator.jobsRequest c.settings.userAgent server names = .ok r) :
    ∃ more last, c.Allows (more ++ [last]) ∧ (id, r) ∈ (c.afterAll more).polls last := by
  obtain ⟨e, he, rfl⟩ := exists_entry?_of_server? hs
  let d := c.after (c.lapse ticker.due)
  have hlater : d.Permits (.wake ⟨k, .tick id token ticker, next⟩ .go) :=
    ⟨ht, Nat.le_max_right _ _⟩
  have hd : d.Sound := hc.act (permits_lapse c _)
  have htick := after_tick (c := d) he k token ticker next
  -- the tick is taken up, and the host is asked what the server may issue jobs for
  let t : Task := ⟨k, .permission id e.server, .timer id token (ticker.next d.now.clock) :: next⟩
  have hasks : (d.after (.wake ⟨k, .tick id token ticker, next⟩ .go)).Permits
      (.wake t (.permitted (.ok names))) := by
    refine ⟨?_, trivial⟩
    rw [htick]
    exact List.mem_append_right _ (.head _)
  have hpolls : (id, r) ∈ (d.after (.wake ⟨k, .tick id token ticker, next⟩ .go)).polls
      (.wake t (.permitted (.ok names))) := by
    rw [polls_eq_inquiry (hd.act hlater) hasks]
    refine mem_inquiry.2 ⟨k, e.server, _, .ok names, rfl, ?_⟩
    rw [settings_after hd hlater, settings_after hc (permits_lapse c _)]
    exact hr
  exact ⟨[c.lapse ticker.due, .wake ⟨k, .tick id token ticker, next⟩ .go],
    .wake t (.permitted (.ok names)), ⟨permits_lapse c _, hlater, hasks, trivial⟩, hpolls⟩

/-- A task that waits for the end of a pause starts its server then. -/
theorem exists_start_of_resume {token : Token} {due : Nat} {name : String} {next : List Next}
    (ht : ⟨k, .resume id token due name, next⟩ ∈ c.tasks) :
    ∃ more last, c.Allows (more ++ [last]) ∧ (c.afterAll more).Starts id last := by
  exact ⟨[c.lapse due], .wake ⟨k, .resume id token due name, next⟩ .go,
    ⟨permits_lapse c _, ⟨ht, Nat.le_max_right _ _⟩, trivial⟩, starts_of_resume ..⟩

theorem tasks_of_stops {serverId : String} {a : Act} (h : a.Stops serverId) (c : Client) :
    (c.after a).tasks = c.tasks := by
  cases a with
  | stop other =>
    change (c.stop other).tasks = c.tasks
    unfold stop
    split
    · rfl
    · rw [stopEntry_eq]
      rfl
  | stopAll => exact (unchanged_stopEntries _ _).1
  | _ => exact h.elim

end

/-! Runs after a registration -/

/-- The entry of a server that has been registered: it is new, and stays under its id until the
    server is registered again. -/
structure Succeeds (c : Client) (s : Server) (acts : List Act) : Prop where
  fresh : Client.entry? (c.after (.addServer s)) c.entries.length = some (Entry.new s)
  registered : ∀ past, past <+: acts → (∀ a ∈ past, ¬ a.Registers s.id) →
    ((c.after (.addServer s)).afterAll past).registered? s.id = some c.entries.length

/-- What becomes of an entry whose server has been registered anew. -/
structure Outlives (c : Client) (serverId : String) (id : EntryId) (server : Server)
    (acts : List Act) : Prop where
  /-- It is never registered again, and its server stays as it was defined. -/
  detached : ∀ past, past <+: acts → (c.afterAll past).Detached id server
  /-- The host does not reach it. -/
  host : ∀ past a, past ++ [a] <+: acts → (∀ t s, a ≠ .wake t s) → (c.afterAll past).Spared id a
  /-- Without tasks about it at first, it is left alone for good. -/
  silent : id ∉ c.mentions → ∀ past a, past ++ [a] <+: acts → (c.afterAll past).Spared id a
  /-- Its tokens are cancelled by nothing but its own pauses and starts. -/
  tokens : ∀ k : Token, c.issued[k]? = some id → ∀ past, past <+: acts →
    (k ∈ (c.afterAll past).cancelled ↔ k ∈ c.cancelled ∨ ∃ pre t s post,
      past = pre ++ .wake t s :: post ∧
        ((c.afterAll pre).Halts id (.wake t s) ∨ (c.afterAll pre).Starts id (.wake t s)))
  /-- After a stop of the server and of all servers, each of its timers is still to poll. -/
  ticks : ∀ past, past <+: acts → ∀ t ∈ (c.afterAll past).tasks, ∀ token ticker,
    t.wait = .tick id token ticker → ∀ names r,
    Coordinator.jobsRequest c.settings.userAgent server names = .ok r →
    ∃ more last, (c.afterAll past).Allows (.stop serverId :: .stopAll :: (more ++ [last])) ∧
      (id, r) ∈ ((c.afterAll past).afterAll (.stop serverId :: .stopAll :: more)).polls last
  /-- After them, the end of its pause is still to start it. -/
  resumes : ∀ past, past <+: acts → ∀ t ∈ (c.afterAll past).tasks, ∀ token due name,
    t.wait = .resume id token due name →
    ∃ more last, (c.afterAll past).Allows (.stop serverId :: .stopAll :: (more ++ [last])) ∧
      ((c.afterAll past).afterAll (.stop serverId :: .stopAll :: more)).Starts id last

theorem succeeds {c : Client} (hc : Reachable c) (s : Server) {acts : List Act}
    (allows : (c.after (.addServer s)).Allows acts) : Succeeds c s acts := by
  have hnew : Reachable (c.after (.addServer s)) := hc.act trivial
  refine ⟨?_, ?_⟩
  · change Client.entry? (c.addServer s) c.entries.length = some (Entry.new s)
    rw [Client.entry?, entries_addServer, List.getElem?_append_right (Nat.le_refl _), Nat.sub_self]
    rfl
  · rintro past ⟨rest, rfl⟩ hpast
    have hfirst : (c.after (.addServer s)).registered? s.id = some c.entries.length :=
      registered?_addServer_self c s
    have hallows := ((allows_append ..).1 allows).1
    generalize c.after (.addServer s) = d at hnew hfirst hallows
    clear allows
    induction past generalizing d with
    | nil => exact hfirst
    | cons a past ih =>
      refine ih (fun b hb => hpast b (List.mem_cons_of_mem a hb)) (d.after a)
        (hnew.act hallows.1) ?_ hallows.2
      exact (registered?_after hnew hallows.1 (hpast a List.mem_cons_self)).trans hfirst

theorem not_mentions_afterAll {c : Client} {id : EntryId} {server : Server} (hc : Reachable c)
    (h : c.Detached id server) (hm : id ∉ c.mentions) {acts : List Act} (allows : c.Allows acts) :
    id ∉ (c.afterAll acts).mentions := by
  induction acts generalizing c with
  | nil => exact hm
  | cons a acts ih =>
    exact ih (hc.act allows.1) (h.after hc.sound allows.1)
      (not_mentions_after hc.sound allows.1 h.unlisted hm) allows.2

theorem outlives {c : Client} {id : EntryId} {server : Server} (hc : Reachable c)
    (h : c.Detached id server) (serverId : String) {acts : List Act} (allows : c.Allows acts) :
    Outlives c serverId id server acts := by
  have act_of : ∀ {past : List Act} {a : Act}, past ++ [a] <+: acts →
      c.Allows past ∧ (c.afterAll past).Permits a := by
    intro past a hp
    obtain ⟨hpast, ha, -⟩ := (allows_append ..).1 (allows_past allows hp)
    exact ⟨hpast, ha⟩
  have stopped : ∀ d : Client, ((d.after (.stop serverId)).after .stopAll).tasks = d.tasks := by
    intro d
    have hall : Act.stopAll.Stops serverId := trivial
    have hone : (Act.stop serverId).Stops serverId := rfl
    rw [tasks_of_stops hall, tasks_of_stops hone]
  have stops : ∀ past, past <+: acts →
      let d := ((c.afterAll past).after (.stop serverId)).after .stopAll
      d.Sound ∧ d.server? id = some server ∧ d.settings = c.settings := by
    intro past hp
    have hd := hc.afterAll (allows_past allows hp)
    have hone : (c.afterAll past).Permits (.stop serverId) := trivial
    have hall : ((c.afterAll past).after (.stop serverId)).Permits .stopAll := trivial
    have hstop := hd.act hone
    refine ⟨(hstop.act hall).sound, ?_, ?_⟩
    · exact (((h.afterAll hc (allows_past allows hp)).after hd.sound hone).after hstop.sound hall).server
    · rw [settings_after hstop.sound hall, settings_after hd.sound hone,
        settings_afterAll hc (allows_past allows hp)]
  refine ⟨fun past hp => h.afterAll hc (allows_past allows hp), ?_, ?_, ?_, ?_, ?_⟩
  · intro past a hp host
    obtain ⟨hpast, ha⟩ := act_of hp
    have hd := h.afterAll hc hpast
    exact spared_of_not_concerns (hc.afterAll hpast).sound ha hd.known
      (hd.unlisted.not_concerns host)
  · intro hm past a hp
    obtain ⟨hpast, ha⟩ := act_of hp
    have hd := h.afterAll hc hpast
    exact spared_of_not_concerns (hc.afterAll hpast).sound ha hd.known
      (hd.unlisted.not_concerns_of_mentions ha (not_mentions_afterAll hc h hm hpast))
  · intro k hk past hp
    rw [cancelled_afterAll hc (allows_past allows hp) hk]
    refine or_congr_right ⟨?_, ?_⟩
    · rintro ⟨pre, a, post, rfl, ha⟩
      obtain ⟨hpre, -⟩ := (allows_append ..).1 (allows_past allows hp)
      have hunlisted := (h.afterAll hc hpre).unlisted
      by_cases host : ∃ t s, a = .wake t s
      · obtain ⟨t, s, rfl⟩ := host
        exact ⟨pre, t, s, post, rfl, ha⟩
      · have host : ∀ t s, a ≠ .wake t s := fun t s ha => host ⟨t, s, ha⟩
        exact absurd (concerns_of_host host ha) (hunlisted.not_concerns host)
    · rintro ⟨pre, t, s, post, rfl, ha⟩
      exact ⟨pre, _, post, rfl, ha⟩
  · intro past hp t ht token ticker hw names r hr
    obtain ⟨k, w, next⟩ := t
    obtain rfl : w = .tick id token ticker := hw
    obtain ⟨hsound, hserver, hsettings⟩ := stops past hp
    rw [← hsettings] at hr
    obtain ⟨more, last, hmore, hpolls⟩ :=
      exists_poll_of_tick hsound ((stopped _).symm ▸ ht) hserver hr
    exact ⟨more, last, ⟨trivial, trivial, hmore⟩, hpolls⟩
  · intro past hp t ht token due name hw
    obtain ⟨k, w, next⟩ := t
    obtain rfl : w = .resume id token due name := hw
    obtain ⟨more, last, hmore, hstarts⟩ := exists_start_of_resume ((stopped _).symm ▸ ht)
    exact ⟨more, last, ⟨trivial, trivial, hmore⟩, hstarts⟩

/-- When a server is registered under the id of another one, a new entry takes the place of the old
    one, which the host does not reach any more. The tasks that are about the old entry are not
    stopped: its timers go on polling, and the ends of its pauses start it, whatever is stopped. If
    there are none, it is left alone. -/
theorem replaced_outlives {c : Client} (hc : Reachable c) {s : Server} {old : EntryId}
    (registered : c.registered? s.id = some old) {acts : List Act}
    (allows : (c.after (.addServer s)).Allows acts) :
    Succeeds c s acts ∧ ∃ server, c.server? old = some server ∧
      Outlives (c.after (.addServer s)) s.id old server acts := by
  have known : old < c.entries.length := hc.sound.registered.of_registered? registered
  obtain ⟨e, he⟩ := exists_entry? known
  have hserver : c.server? old = some e.server := by
    rw [server?, he]
    rfl
  have hnew : Reachable (c.after (.addServer s)) := hc.act trivial
  refine ⟨succeeds hc s allows, e.server, hserver, outlives hnew ⟨?_, ?_⟩ s.id allows⟩
  · refine unlisted_addServer known fun r hr hid => ?_
    subst hid
    exact hc.distinct.eq_of_registered? (hc.distinct.registered?_of_mem hr) registered
  · refine Eq.trans ?_ hserver
    change (c.addServer s).server? old = _
    rw [server?, entry?, entries_addServer, List.getElem?_append_left known]
    rfl

def renamed : Server := { home with name := "New" }

/-- A server that polls is registered anew. The first timer polls it after the stop of the new one
    and of all. -/
theorem first_timer_outlives :
    let d := ((blank .standard).afterAll toTimer).after (.addServer renamed)
    ((blank .standard).afterAll toTimer).registered? renamed.id = some 0 ∧
      Succeeds ((blank .standard).afterAll toTimer) renamed [] ∧ Outlives d renamed.id 0 home [] ∧
      ∃ more last r, d.Allows (.stop renamed.id :: .stopAll :: (more ++ [last])) ∧
        (0, r) ∈ (d.afterAll (.stop renamed.id :: .stopAll :: more)).polls last := by
  intro d
  have hnew : Client.new .standard (fun _ => .ok []) .any ⟨0, ⟨0, 0, 0⟩⟩ =
      .ok (blank .standard) := rfl
  have hc := (Reachable.new hnew).afterAll allows_toTimer
  have registered : ((blank .standard).afterAll toTimer).registered? renamed.id = some 0 := by
    decide +kernel
  have allows : d.Allows [] := trivial
  obtain ⟨hsucceeds, server, hserver, houtlives⟩ := replaced_outlives hc registered allows
  have hhome : ((blank .standard).afterAll toTimer).server? 0 = some home := by decide +kernel
  obtain rfl := Option.some_inj.1 (hhome.symm.trans hserver)
  have houtlives : Outlives d renamed.id 0 home [] := houtlives
  have hticks : (d.tasks.any fun t => t.wait.timer?.any fun m => m.kind = .poll ∧ m.entry = 0) =
      true := by decide +kernel
  have hrequest : (Coordinator.jobsRequest d.settings.userAgent home ["r"]).isOk = true := by
    decide +kernel
  clear_value d
  have exists_ok : ∀ {x : Except Error Http.Request}, x.isOk = true → ∃ r, x = .ok r := by
    intro x hx
    cases x with
    | ok r => exact ⟨r, rfl⟩
    | error fault => cases hx
  obtain ⟨r, hr⟩ := exists_ok hrequest
  obtain ⟨⟨k, w, next⟩, ht, htimer⟩ := List.any_eq_true.1 hticks
  refine ⟨registered, hsucceeds, houtlives, ?_⟩
  cases w with
  | tick id token ticker =>
    obtain rfl : id = 0 := by simpa [Wait.timer?] using htimer
    obtain ⟨more, last, hmore, hpolls⟩ :=
      houtlives.ticks [] List.prefix_rfl _ ht token ticker rfl ["r"] r hr
    exact ⟨more, last, r, hmore, hpolls⟩
  | _ => simp [Wait.timer?] at htimer

end Harvest.Sync.Client
