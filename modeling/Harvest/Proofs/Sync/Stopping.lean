import Harvest.Proofs.Sync.Plans
import Harvest.Proofs.Sync.Registry
import Harvest.Proofs.Sync.Runs
/-!
What a stop is worth. It takes the tokens of a server away, but not the polls and the submissions
that are under way, nor a start of all servers. The server stays idle exactly as long as none of
these has it paused or started.
-/

namespace Harvest.Sync

def Act.Stops (serverId : String) : Act → Prop
  | .stop id => id = serverId
  | .stopAll => True
  | _ => False

/-- The acts by which the host starts a server. -/
def Act.Starts (serverId : String) : Act → Prop
  | .start id => id = serverId
  | .startAll => True
  | _ => False

def Act.Registers (serverId : String) : Act → Prop
  | .addServer s => s.id = serverId
  | _ => False

namespace Client

def status? (c : Client) (serverId : String) : Option Status :=
  (c.registered? serverId).bind fun id => (c.entry? id).map (·.status)

/-- What undoes the stop of an entry though the host does not start it. -/
inductive Undoes (c : Client) (id : EntryId) : Act → Prop
  /-- A poll or a submission that was under way fails, in a way that pauses the entry. -/
  | failure {t : Task} {s : Signal} : c.fault? t s = some id → c.Pauses t id →
      c.Undoes id (.wake t s)
  /-- The end of a pause has come before the task that waits for it learns of the stop. -/
  | resume {t : Task} {token : Token} {due : Nat} {name : String} :
      t.wait = .resume id token due name → c.Undoes id (.wake t .go)
  /-- A task that was to start several servers comes to this one. -/
  | leftover {t : Task} {s : Signal} : .start id ∈ t.next → .start id ∈ c.doneBy (.wake t s) →
      c.Undoes id (.wake t s)

theorem Undoes.rouses {c : Client} {id : EntryId} {a : Act} (h : c.Undoes id a) :
    c.Rouses id a := by
  cases h with
  | failure hf hp => exact .failure hf hp
  | @resume t token due name hw =>
    have hheed : (c.dropTask t.id).heed t .go =
        some ((c.dropTask t.id).log (.restarting name), .goesOn (.start id :: t.next)) := by
      simp only [heed, hw]
    refine .start ?_
    simp [doneBy, hheed, doing]
  | leftover _ hd => exact .start hd

/-- Unless the host starts or registers it, an idle server is roused only by what undoes a stop. -/
theorem Rouses.undoes {c : Client} (hc : Reachable c) {serverId : String} {id : EntryId}
    (registered : c.registered? serverId = some id) {a : Act} (ha : ¬ a.Starts serverId)
    (h : c.Rouses id a) : c.Undoes id a := by
  cases h with
  | failure hf hp => exact .failure hf hp
  | start hs =>
    cases occasion_of_doneBy hs with
    | planned hn => exact .leftover hn hs
    | arises hn =>
      cases hn
      exact .resume rfl
    | start hid => exact absurd (hc.distinct.eq_of_registered? hid registered) ha
    | startAll => exact absurd trivial ha

theorem status?_eq {c : Client} {serverId : String} {id : EntryId}
    (registered : c.registered? serverId = some id) :
    c.status? serverId = (c.account? id).map (·.status) := by
  rw [status?, registered, account?, Option.map_map]
  rfl

theorem registered?_after {c : Client} (hc : Reachable c) {a : Act} (p : c.Permits a)
    {serverId : String} (ha : ¬ a.Registers serverId) :
    (c.after a).registered? serverId = c.registered? serverId := by
  by_cases hs : ∃ s, a = .addServer s
  · obtain ⟨s, rfl⟩ := hs
    exact registered?_addServer ha
  · rw [registered?, registry_after hc.sound p fun s hs' => hs ⟨s, hs'⟩]
    rfl

theorem idle_step {c : Client} (hc : Reachable c) {serverId : String} {id : EntryId}
    (registered : c.registered? serverId = some id) (idle : c.status? serverId = some .idle)
    {a : Act} (p : c.Permits a) (ha : ¬ a.Starts serverId ∧ ¬ a.Registers serverId) :
    (c.after a).registered? serverId = some id ∧
      ((c.after a).status? serverId = some .idle ↔ ¬ c.Undoes id a) := by
  have hr := (registered?_after hc p ha.2).trans registered
  refine ⟨hr, ?_⟩
  rw [status?_eq registered] at idle
  obtain ⟨x, hx, hidle⟩ := Option.map_eq_some_iff.1 idle
  obtain ⟨y, hy, hiff⟩ := idle_after hc.sound p hx hidle
  rw [status?_eq hr, hy, Option.map_some, Option.some_inj, hiff]
  exact not_congr ⟨fun h => h.undoes hc registered ha.1, Undoes.rouses⟩

theorem idle_steps {c : Client} (hc : Reachable c) {serverId : String} {id : EntryId}
    (registered : c.registered? serverId = some id) (idle : c.status? serverId = some .idle)
    {acts : List Act} (allows : c.Allows acts)
    (hacts : ∀ a ∈ acts, ¬ a.Starts serverId ∧ ¬ a.Registers serverId) :
    (∀ past, past <+: acts → (c.afterAll past).status? serverId = some .idle) ↔
      ∀ past a, past ++ [a] <+: acts → ¬ (c.afterAll past).Undoes id a := by
  refine throughout_iff (I := fun d => Reachable d ∧ d.registered? serverId = some id)
    (P := fun d => d.status? serverId = some .idle) (E := fun d a => d.Undoes id a) ?_
    ⟨hc, registered⟩ idle allows
  rintro d ⟨hd, hr⟩ hidle a ha p
  obtain ⟨hr, hiff⟩ := idle_step hd hr hidle p (hacts a ha)
  exact ⟨⟨hd.act p, hr⟩, hiff⟩

theorem permits_of_stops {c : Client} {serverId : String} {halt : Act}
    (stops : halt.Stops serverId) : c.Permits halt := by
  cases halt with
  | wake t s => exact stops.elim
  | elapse now => exact stops.elim
  | _ => trivial

theorem idle_after_stop {c : Client} (hc : Reachable c) {serverId : String} {id : EntryId}
    (registered : c.registered? serverId = some id) {halt : Act} (stops : halt.Stops serverId) :
    (c.after halt).registered? serverId = some id ∧
      (c.after halt).status? serverId = some .idle := by
  have hr : (c.after halt).registered? serverId = some id := by
    refine (registered?_after hc (permits_of_stops stops) ?_).trans registered
    cases halt <;> first | exact stops.elim | exact fun h => h
  refine ⟨hr, ?_⟩
  obtain ⟨e, he⟩ := exists_entry? (hc.sound.registered.of_registered? registered)
  have hx : c.account? id = some e.account := congrArg (Option.map Entry.account) he
  have hy : ∃ y, (c.after halt).account? id = some y ∧ y.status = .idle := by
    cases halt with
    | stop other =>
      obtain rfl : other = serverId := stops
      change ∃ y, (c.stop other).account? id = some y ∧ y.status = .idle
      rw [stop, registered]
      exact idle_stopEntry hx id fun hn => absurd rfl hn
    | stopAll =>
      obtain ⟨l, r, heq, -⟩ := List.lookup_eq_some_iff.1 registered
      have hx : { c with queue := c.queue.stop }.account? id = some e.account := hx
      exact idle_stopEntries hx fun hn => absurd (by simp [heq]) hn
    | _ => exact stops.elim
  obtain ⟨y, hy, hidle⟩ := hy
  rw [status?_eq hr, hy, Option.map_some, hidle]

/-- A server that is stopped stays idle, until the host starts it or registers it again, exactly if
    none of the following happens: a poll or a submission that is under way fails in a way that
    pauses it, the end of a pause comes before its task learns of the stop, or a start of several
    servers that was under way comes to it. -/
theorem stopped_stays_idle_iff {c : Client} (hc : Reachable c) {serverId : String} {id : EntryId}
    (registered : c.registered? serverId = some id) {halt : Act} (stops : halt.Stops serverId)
    {acts : List Act} (allows : (c.after halt).Allows acts)
    (hacts : ∀ a ∈ acts, ¬ a.Starts serverId ∧ ¬ a.Registers serverId) :
    (∀ past, past <+: acts →
      ((c.after halt).afterAll past).status? serverId = some .idle) ↔
    ∀ past a, past ++ [a] <+: acts → ¬ ((c.after halt).afterAll past).Undoes id a := by
  obtain ⟨hr, hidle⟩ := idle_after_stop hc registered stops
  exact idle_steps (hc.act (permits_of_stops stops)) hr hidle allows hacts

/-- A poll that fails after its server was stopped has it paused. -/
theorem stopped_server_paused_by_poll :
    (((blank (strict 1)).afterAll toFirstPoll).after (.stop "n")).status? "n" = some .idle ∧
    ¬ ∀ past, past <+: [refused] →
      ((((blank (strict 1)).afterAll toFirstPoll).after (.stop "n")).afterAll past).status? "n" =
        some .idle := by
  have hnew : Client.new (strict 1) (fun _ => .ok []) .any ⟨0, ⟨0, 0, 0⟩⟩ =
      .ok (blank (strict 1)) := rfl
  have hc : Reachable ((blank (strict 1)).afterAll toFirstPoll) :=
    (Reachable.new hnew).afterAll ⟨trivial, trivial, ⟨.head _, trivial⟩, trivial⟩
  have registered : ((blank (strict 1)).afterAll toFirstPoll).registered? "n" = some 0 := rfl
  have stops : (Act.stop "n").Stops "n" := rfl
  have allows : (((blank (strict 1)).afterAll toFirstPoll).after (.stop "n")).Allows [refused] :=
    ⟨⟨.tail _ (.head _), trivial⟩, trivial⟩
  have hacts : ∀ a ∈ [refused], ¬ a.Starts "n" ∧ ¬ a.Registers "n" := by
    intro a ha
    obtain rfl := List.mem_singleton.1 ha
    exact ⟨fun h => h, fun h => h⟩
  refine ⟨rfl, fun h => ?_⟩
  refine (stopped_stays_idle_iff hc registered stops allows hacts).1 h [] refused
    (List.prefix_refl _) (.failure ?_ ?_)
  · rfl
  · rfl

end Client
end Harvest.Sync
