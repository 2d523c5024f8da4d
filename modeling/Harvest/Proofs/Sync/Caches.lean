import Harvest.Proofs.Sync.Courses
import Harvest.Proofs.Sync.Refreshes
import Harvest.Proofs.Sync.Registry
import Harvest.Proofs.Sync.Runs
/-!
What the host is told of resources. An entry keeps the id that it was registered under, for a
changed definition goes to the entry that is registered under its id. So a task that waits on
account of a server knows it by the id of its entry, however old the definition is that it has. An
act in which a server's resources arrive shows them, and no other act shows or changes any; so the
last that the host was told of a server is what is known of it, as long as no server is registered
again.
-/

/-! The ids of servers -/

namespace Harvest.Sync

/-- The entry that a wait is about, with its server as it was defined when the wait began. -/
def Wait.server? : Wait → Option (EntryId × Server)
  | .resources id server _ => some (id, server)
  | .permission id server => some (id, server)
  | .jobs id server _ => some (id, server)
  | .submission d server _ _ => some (d.entry, server)
  | _ => none

theorem Wait.server?_congr {w v : Wait} (h : w.asGranted = v.asGranted) :
    w.server? = v.server? := by
  rcases Wait.eq_of_asGranted h with rfl | ⟨id, forced, hv⟩
  · rfl
  · have hw := h.trans hv
    have hnone : ∀ {x : Wait}, x.asGranted = .granted id forced → x.server? = none := by
      intro x hx
      cases x <;> first | rfl | cases hx
    rw [hnone hw, hnone hv]

namespace Client

/-- The id of the server of an entry. -/
def serverId? (c : Client) (id : EntryId) : Option String := (c.server? id).map (·.id)

theorem serverId?_of_server {c d : Client} {id : EntryId} (h : d.server? id = c.server? id) :
    d.serverId? id = c.serverId? id := by
  rw [serverId?, h, serverId?]

structure Named (c : Client) : Prop where
  registered : ∀ {serverId : String} {id : EntryId}, c.registered? serverId = some id →
    c.serverId? id = some serverId
  waits : ∀ {t : Task}, t ∈ c.tasks → ∀ {id : EntryId} {server : Server},
    t.wait.server? = some (id, server) → c.serverId? id = some server.id

section

variable {c : Client} {a : Act}

/-- Only the host changes definitions. -/
theorem server?_after (added : ∀ s, a ≠ .addServer s) (updated : ∀ s, a ≠ .updateServer s)
    (id : EntryId) : (c.after a).server? id = c.server? id := by
  have begun : ∀ (d : Client) (next : List Next), Frame c d →
      (d.undertake next).server? id = c.server? id := fun d next h => by
    have hd : Frame c { d with taskCount := d.taskCount + 1 } :=
      ⟨h.settings, h.now, h.registry, h.record⟩
    exact hd.run.server id
  cases a with
  | wake t s =>
    rw [after, wake]
    cases heq : (c.dropTask t.id).heed t s with
    | none => rfl
    | some b => exact (((Frame.refl b.1).follow t.id b.2).server id).trans (server?_heed heq id)
  | elapse now => rfl
  | addServer s => exact absurd rfl (added s)
  | updateServer s => exact absurd rfl (updated s)
  | start serverId =>
    rw [after_start]
    split
    · rfl
    · exact begun c _ (.refl c)
  | startAll => exact begun _ _ (Frame.refl c).startQueue
  | stop serverId =>
    change (c.stop serverId).server? id = _
    unfold stop
    split
    · rfl
    · exact ((Frame.refl c).stopEntries [_]).server id
  | stopAll => exact (((Frame.refl c).setQueue _).stopEntries _).server id
  | submit r => exact begun c _ (.refl c)
  | execute job => rfl

theorem serverId?_addServer {id : EntryId} (hid : id < c.entries.length) (s : Server) :
    (c.addServer s).serverId? id = c.serverId? id := by
  rw [serverId?, serverId?, server?, server?, entry?, entry?, entries_addServer,
    List.getElem?_append_left hid]

theorem serverId?_addServer_self (c : Client) (s : Server) :
    (c.addServer s).serverId? c.entries.length = some s.id := by
  rw [serverId?, server?, entry?, entries_addServer, List.getElem?_append_right (Nat.le_refl _),
    Nat.sub_self]
  rfl

/-- An entry was there before a registration, or it is the new one. -/
theorem eq_or_of_serverId?_addServer {s : Server} {id : EntryId} {serverId : String}
    (hid : (c.addServer s).serverId? id = some serverId) :
    c.serverId? id = some serverId ∨ id = c.entries.length ∧ s.id = serverId := by
  by_cases hlt : id < c.entries.length
  · exact .inl ((serverId?_addServer hlt s).symm.trans hid)
  · obtain ⟨server, hs, -⟩ := Option.map_eq_some_iff.1 hid
    obtain ⟨e, he, -⟩ := Option.map_eq_some_iff.1 hs
    have hle : id < (c.addServer s).entries.length := entry?_lt he
    rw [entries_addServer, List.length_append, List.length_singleton] at hle
    obtain rfl : id = c.entries.length :=
      Nat.le_antisymm (Nat.le_of_lt_succ hle) (Nat.not_lt.1 hlt)
    exact .inr ⟨rfl, Option.some_inj.1 ((serverId?_addServer_self c s).symm.trans hid)⟩

theorem serverId?_updateServer
    (h : ∀ {serverId id}, c.registered? serverId = some id → c.serverId? id = some serverId)
    (s : Server) (id : EntryId) : (c.after (.updateServer s)).serverId? id = c.serverId? id := by
  change (c.updateServer s).2.serverId? id = _
  unfold updateServer
  split
  · rfl
  · rename_i i hi
    have hname := h hi
    dsimp only
    rw [serverId?, server?, entry?_modifyEntry]
    by_cases hid : i = id
    · subst hid
      rw [hname]
      rw [serverId?, server?] at hname
      cases he : c.entry? i with
      | none =>
        rw [he] at hname
        cases hname
      | some e => simp
    · simp [hid, serverId?, server?]

/-- An entry keeps its id. -/
theorem Named.serverId?_after (h : c.Named) (added : ∀ s, a ≠ .addServer s) (id : EntryId) :
    (c.after a).serverId? id = c.serverId? id := by
  by_cases hu : ∃ s, a = .updateServer s
  · obtain ⟨s, rfl⟩ := hu
    exact serverId?_updateServer h.registered s id
  · exact serverId?_of_server (server?_after added (fun s hs => hu ⟨s, hs⟩) id)

theorem serverId?_of_rests {d : Client} {n : Next} {w : Wait} {more : List Next} {id : EntryId}
    {server : Server} (h : d.Rests n (.waiting w more)) (hw : w.server? = some (id, server)) :
    d.serverId? id = some server.id := by
  have known : ∀ {e : Entry}, d.entry? id = some e → d.serverId? id = some e.server.id := by
    intro e he
    rw [serverId?, server?, he]
    rfl
  cases h with
  | refresh hg | start hg => rcases hg with rfl | rfl <;> cases hw
  | poll he | submission he =>
    cases hw
    exact known he
  | _ => cases hw

theorem server?_of_heed {t : Task} {s : Signal} {b : Client × Course} (heq : c.heed t s = some b)
    {w : Wait} (hwait : b.2.wait? = some w) {id : EntryId} {server : Server}
    (hw : w.server? = some (id, server)) :
    t.wait.server? = some (id, server) ∨ c.server? id = some server := by
  cases heeds_of_heed heq with
  | granted =>
    right
    unfold refresh at hwait
    split at hwait
    · cases hwait
    · rename_i e he
      split at hwait
      · cases hwait
      · split at hwait <;> cases hwait
        cases hw
        rw [server?, he]
        rfl
  | permission =>
    left
    cases onward_of_heed heq hwait with
    | jobs => exact hw
  | drive hc =>
    rcases hc with rfl | ⟨_, rfl⟩ <;> cases hwait
    cases hw
  | jobs => cases onward_of_heed heq hwait
  | submission => cases onward_of_heed heq hwait
  | _ => cases hwait

theorem Reachable.named (h : Reachable c) : c.Named := by
  induction h with
  | new h =>
    obtain ⟨rfl, -, -⟩ := new_eq h
    exact ⟨nofun, nofun⟩
  | @act c a hc p ih =>
    have kept : ∀ {id : EntryId} {serverId : String}, c.serverId? id = some serverId →
        (c.after a).serverId? id = some serverId := by
      intro id serverId hid
      by_cases ha : ∃ s, a = .addServer s
      · obtain ⟨s, rfl⟩ := ha
        obtain ⟨server, hs, -⟩ := Option.map_eq_some_iff.1 hid
        obtain ⟨e, he, -⟩ := Option.map_eq_some_iff.1 hs
        exact (serverId?_addServer (entry?_lt he) s).trans hid
      · exact (ih.serverId?_after (fun s hs => ha ⟨s, hs⟩) id).trans hid
    refine ⟨fun {serverId id} hr => ?_, fun {t} ht {id server} hw => ?_⟩
    · by_cases ha : ∃ s, a = .addServer s
      · obtain ⟨s, rfl⟩ := ha
        by_cases hs : s.id = serverId
        · subst hs
          cases (registered?_addServer_self c s).symm.trans hr
          exact serverId?_addServer_self c s
        · exact kept (ih.registered ((registered?_addServer hs).symm.trans hr))
      · refine kept (ih.registered ?_)
        rw [registered?, registry_after hc.sound p fun s hs => ha ⟨s, hs⟩] at hr
        exact hr
    · cases comes_of_mem hc.sound p ht with
      | kept hk =>
        obtain ⟨u, hu, heq⟩ := hk
        exact kept (ih.waits hu ((Wait.server?_congr (congrArg Task.wait heq)).symm.trans hw))
      | fresh hf => cases hf <;> cases hw
      | execute => cases hw
      | rests _ _ hs _ hr =>
        exact kept ((serverId?_of_server (hs id)).symm.trans (serverId?_of_rests hr hw))
      | onward _ hu heq =>
        rcases server?_of_heed heq rfl hw with hw | hs
        · exact kept (ih.waits hu hw)
        · refine kept ?_
          rw [serverId?, show c.server? id = some server from hs]
          rfl

end

end Client
end Harvest.Sync

/-! The resources that are known -/

namespace Harvest.Sync

/-- A server's new resources. -/
def Sign.update? : Sign → Option (Server × List Resource)
  | .event (.updatedResources server resources) => some (server, resources)
  | _ => none

theorem Sign.Plain.update? {s : Sign} (h : s.Plain) : s.update? = none := by
  cases s with
  | sent => exact h.elim
  | event e =>
    cases e with
    | updatedResources => exact h.elim
    | _ => rfl
  | notice => rfl

theorem Sign.update?_of_judges {s : Sign} (h : s.judges = true) : s.update? = none := by
  cases s with
  | sent => cases h
  | event e =>
    cases e with
    | updatedResources => cases h
    | _ => rfl
  | notice => rfl

/-- The id that an act registers a server under. -/
def Act.serverId? : Act → Option String
  | .addServer s => some s.id
  | _ => none

namespace Client

/-- The new resources that an act shows. -/
def updates (c : Client) (a : Act) : List (Server × List Resource) :=
  (c.shown a).filterMap (·.2.update?)

/-- What the host was told last of the resources of a server. -/
def published (c : Client) (serverId : String) : List Resource :=
  ((((c.signs.filterMap (·.2.update?)).filter (·.1.id = serverId)).getLast?).map (·.2)).getD []

section

variable {c : Client} {a : Act}

theorem signs_after (h : c.Sound) (p : c.Permits a) :
    (c.after a).signs = c.signs ++ c.shown a := by
  obtain ⟨hl, -⟩ := launches_after h p (G := fun _ => True) (fun _ _ _ _ _ _ _ => trivial)
    fun _ _ => trivial
  obtain ⟨new, hnew, -⟩ := hl.signs
  rw [shown_of_signs hnew, hnew]

theorem updates_run (c : Client) (k : TaskId) (next : List Next) :
    ∃ new, (run k next c).signs = c.signs ++ new ∧ new.filterMap (·.2.update?) = [] := by
  obtain ⟨outs, h⟩ : ∃ outs, Passes (fun s => s.update? = none) c (run k next c)
      ((doing k next c).flatMap Next.queued) outs :=
    passes_run (fun _ => Sign.Plain.update?) (fun _ => rfl) fun _ _ _ _ _ _ _ => rfl
  obtain ⟨new, hnew, -, hp⟩ := h.signs
  refine ⟨new, hnew, List.filterMap_eq_nil_iff.2 fun s hs => ?_⟩
  cases hj : s.2.judges with
  | true => exact Sign.update?_of_judges hj
  | false => exact hp s hs hj

theorem eq_of_obtained? {id : EntryId} {server : Server} {resources : List Resource}
    (h : c.obtained? a = some (id, server, resources)) :
    ∃ k r next reply catalog, a = .wake ⟨k, .resources id server r, next⟩ (.reply reply) ∧
      Coordinator.catalog c.settings.requestTimeout r reply = .ok catalog ∧
      catalog.resources = resources := by
  unfold obtained? at h
  split at h
  · rename_i k id' server' r next reply
    obtain ⟨catalog, hok, hx⟩ := Option.map_eq_some_iff.1 h
    cases hx
    cases hr : Coordinator.catalog c.settings.requestTimeout r reply with
    | error fault =>
      rw [hr] at hok
      cases hok
    | ok catalog' =>
      rw [hr] at hok
      cases hok
      exact ⟨k, r, next, reply, _, rfl, hr, rfl⟩
  · cases h

theorem obtained?_of_catalog {k : TaskId} {id : EntryId} {server : Server} {r : Http.Request}
    {next : List Next} {reply : Http.Reply} {catalog : Resource.Catalog}
    (h : Coordinator.catalog c.settings.requestTimeout r reply = .ok catalog) :
    c.obtained? (.wake ⟨k, .resources id server r, next⟩ (.reply reply)) =
      some (id, server, catalog.resources) := by
  rw [obtained?, h]
  rfl

/-- New resources are shown when they arrive, and never else. -/
theorem updates_eq (h : c.Sound) (p : c.Permits a) :
    c.updates a = (c.obtained? a).toList.map (·.2) := by
  cases ho : c.obtained? a with
  | some x =>
    obtain ⟨id, server, resources⟩ := x
    obtain ⟨k, r, next, reply, catalog, rfl, hr, rfl⟩ := eq_of_obtained? ho
    obtain ⟨new, hnew, hupdates⟩ := updates_run
      ((c.dropTask k).fetched id server (.ok catalog)) k next
    have hheed : (c.dropTask k).heed ⟨k, .resources id server r, next⟩ (.reply reply) =
        some ((c.dropTask k).fetched id server
          (Coordinator.catalog c.settings.requestTimeout r reply), .goesOn next) := rfl
    have hsigns : ((c.dropTask k).fetched id server (.ok catalog)).signs =
        c.signs ++ [(c.now.clock, .event (.updatedResources server catalog.resources))] := by
      rw [fetched, signs_release]
      rfl
    have hafter : (c.after (.wake ⟨k, .resources id server r, next⟩ (.reply reply))).signs =
        c.signs ++ ((c.now.clock, .event (.updatedResources server catalog.resources)) :: new) := by
      rw [after, wake, hheed, hr]
      exact hnew.trans (by rw [hsigns, List.append_assoc]; rfl)
    rw [updates, shown_of_signs hafter, filterMap_cons_toList, hupdates]
    rfl
  | none =>
    refine filterMap_shown h p (f := Sign.update?) ?_ fun _ => Sign.update?_of_judges
    refine ⟨fun _ => Sign.Plain.update?, fun _ _ _ _ _ _ _ => rfl, fun _ => rfl, fun _ _ _ _ => rfl,
      fun _ _ => rfl, fun ha hr => ?_⟩
    subst ha
    cases (obtained?_of_catalog hr).symm.trans ho

/-- What is known of resources changes when they arrive, and never else. -/
theorem cached_eq (h : c.Sound) (p : c.Permits a) (j : EntryId) :
    (c.after a).cached j = match c.obtained? a with
      | some (id, _, resources) => if id = j then resources else c.cached j
      | none => c.cached j := by
  rw [cached_after h p]
  cases ho : c.obtained? a with
  | none => exact ite_self _
  | some x =>
    obtain ⟨id, server, resources⟩ := x
    obtain ⟨k, r, next, reply, catalog, rfl, -, -⟩ := eq_of_obtained? ho
    exact if_congr Option.some_inj rfl rfl

theorem published_after (h : c.Sound) (p : c.Permits a) (serverId : String) :
    (c.after a).published serverId = match c.obtained? a with
      | some (_, server, resources) =>
        if server.id = serverId then resources else c.published serverId
      | none => c.published serverId := by
  have hu := updates_eq h p
  rw [updates] at hu
  rw [published, signs_after h p, List.filterMap_append, hu, List.filter_append]
  cases c.obtained? a with
  | none => simp [published]
  | some x =>
    obtain ⟨id, server, resources⟩ := x
    by_cases hid : server.id = serverId
    · simp [hid]
    · simp [hid, published]

/-- The server whose resources arrive is known by the id of its entry. -/
theorem Named.serverId?_of_obtained (h : c.Named) (p : c.Permits a) {id : EntryId}
    {server : Server} {resources : List Resource}
    (ho : c.obtained? a = some (id, server, resources)) : c.serverId? id = some server.id := by
  obtain ⟨k, r, next, reply, catalog, rfl, -, -⟩ := eq_of_obtained? ho
  exact h.waits p.1 rfl

end

/-- Whether every entry is registered, and what is known of resources is what the host was told. -/
structure Mirror (c : Client) : Prop where
  listed : ∀ {id : EntryId} {serverId : String}, c.serverId? id = some serverId →
    c.registered? serverId = some id
  cached : ∀ {id : EntryId} {serverId : String}, c.serverId? id = some serverId →
    c.cached id = c.published serverId
  silent : ∀ {serverId : String}, c.registered? serverId = none → c.published serverId = []

section

variable {c : Client} {a : Act}

theorem cached_eq_nil (h : c.entries.length ≤ j) : c.cached j = [] := by
  rw [cached, entry?, List.getElem?_eq_none h]
  rfl

theorem Mirror.addServer (m : c.Mirror) (h : c.Sound) (s : Server)
    (fresh : c.registered? s.id = none) : (c.after (.addServer s)).Mirror := by
  have p : c.Permits (.addServer s) := trivial
  have hcached : ∀ id, (c.after (.addServer s)).cached id = c.cached id := cached_eq h p
  have hpublished : ∀ k, (c.after (.addServer s)).published k = c.published k :=
    published_after h p
  -- an entry was there before under another id, or it is the new one
  have cases_of : ∀ {id k}, (c.after (.addServer s)).serverId? id = some k →
      (c.serverId? id = some k ∧ s.id ≠ k) ∨ id = c.entries.length ∧ s.id = k := by
    intro id k hid
    refine (eq_or_of_serverId?_addServer hid).imp_left fun hk => ⟨hk, ?_⟩
    rintro rfl
    cases fresh.symm.trans (m.listed hk)
  refine ⟨fun hid => ?_, fun hid => ?_, fun {k} hr => ?_⟩
  · rcases cases_of hid with ⟨hk, hne⟩ | ⟨rfl, rfl⟩
    · exact (registered?_addServer hne).trans (m.listed hk)
    · exact registered?_addServer_self c s
  · rw [hcached, hpublished]
    rcases cases_of hid with ⟨hk, -⟩ | ⟨rfl, rfl⟩
    · exact m.cached hk
    · rw [cached_eq_nil (Nat.le_refl _), m.silent fresh]
  · rw [hpublished]
    refine m.silent ?_
    by_cases hs : s.id = k
    · exact hs ▸ fresh
    · exact (registered?_addServer hs).symm.trans hr

theorem Mirror.after (m : c.Mirror) (h : Reachable c) (p : c.Permits a)
    (fresh : ∀ k, a.serverId? = some k → c.registered? k = none) : (c.after a).Mirror := by
  by_cases ha : ∃ s, a = .addServer s
  · obtain ⟨s, rfl⟩ := ha
    exact m.addServer h.sound s (fresh _ rfl)
  · have added : ∀ s, a ≠ .addServer s := fun s hs => ha ⟨s, hs⟩
    have hid : ∀ id, (c.after a).serverId? id = c.serverId? id := h.named.serverId?_after added
    have hr : ∀ k, (c.after a).registered? k = c.registered? k := fun k => by
      rw [registered?, registry_after h.sound p added, registered?]
    refine ⟨fun hk => ?_, fun hk => ?_, fun hk => ?_⟩
    · rw [hr]
      exact m.listed (hid _ ▸ hk)
    · rw [hid] at hk
      rw [cached_eq h.sound p, published_after h.sound p, m.cached hk]
      cases ho : c.obtained? a with
      | none => rfl
      | some x =>
        obtain ⟨i, server, resources⟩ := x
        have hname := h.named.serverId?_of_obtained p ho
        refine if_congr ⟨?_, ?_⟩ rfl rfl
        · rintro rfl
          exact Option.some_inj.1 (hname.symm.trans hk)
        · rintro rfl
          exact Option.some_inj.1 ((m.listed hname).symm.trans (m.listed hk))
    · rw [hr] at hk
      rw [published_after h.sound p, m.silent hk]
      cases ho : c.obtained? a with
      | none => rfl
      | some x =>
        obtain ⟨i, server, resources⟩ := x
        refine if_neg ?_
        rintro rfl
        cases hk.symm.trans (m.listed (h.named.serverId?_of_obtained p ho))

theorem registered?_eq_none_iff {serverId : String} :
    c.registered? serverId = none ↔ serverId ∉ c.registry.map (·.1) := by
  rw [registered?, List.lookup_eq_none_iff, List.mem_map]
  constructor
  · rintro h ⟨r, hr, rfl⟩
    simpa using h r hr
  · intro h r hr
    simpa using fun he => h ⟨r, hr, he.symm⟩

theorem ids_after (h : c.Sound) (p : c.Permits a)
    (fresh : ∀ k, a.serverId? = some k → c.registered? k = none) :
    (c.after a).registry.map (·.1) = c.registry.map (·.1) ++ a.serverId?.toList := by
  by_cases ha : ∃ s, a = .addServer s
  · obtain ⟨s, rfl⟩ := ha
    have hr : { c with entries := c.entries ++ [Entry.new s] }.registered? s.id = none :=
      fresh _ rfl
    change (c.addServer s).registry.map (·.1) = _
    unfold addServer
    dsimp only
    rw [hr]
    simp [Act.serverId?]
  · rw [registry_after h p fun s hs => ha ⟨s, hs⟩]
    cases a with
    | addServer s => exact absurd ⟨s, rfl⟩ ha
    | _ => exact (List.append_nil _).symm

/-- Through acts in which no server is registered again, what is known stays what was told. -/
theorem Mirror.afterAll (m : c.Mirror) (h : Reachable c) {acts : List Act}
    (allows : c.Allows acts)
    (once : (c.registry.map (·.1) ++ acts.filterMap Act.serverId?).Nodup) :
    (c.afterAll acts).Mirror ∧ (c.afterAll acts).registry.map (·.1) =
      c.registry.map (·.1) ++ acts.filterMap Act.serverId? := by
  induction acts generalizing c with
  | nil => exact ⟨m, (List.append_nil _).symm⟩
  | cons a acts ih =>
    rw [filterMap_cons_toList] at once
    have fresh : ∀ k, a.serverId? = some k → c.registered? k = none := by
      intro k hk
      refine registered?_eq_none_iff.2 fun hm => ?_
      exact (List.nodup_append.1 once).2.2 k hm k (by simp [hk]) rfl
    have hids := ids_after h.sound allows.1 fresh
    rw [← List.append_assoc, ← hids] at once
    obtain ⟨hm, hr⟩ := ih (m.after h allows.1 fresh) (h.act allows.1) allows.2 once
    refine ⟨hm, hr.trans ?_⟩
    rw [hids, filterMap_cons_toList, List.append_assoc]

theorem Mirror.allResources (m : c.Mirror) (h : Reachable c) :
    c.allResources = (c.registry.map (·.1)).flatMap c.published := by
  have each : ∀ r ∈ c.registry, ∃ e, c.entry? r.2 = some e ∧ e.resources = c.published r.1 := by
    intro r hr
    obtain ⟨e, he⟩ := exists_entry? (h.sound.registered r hr)
    have hid := h.named.registered (h.distinct.registered?_of_mem hr)
    have hcached := m.cached hid
    rw [Client.cached, he] at hcached
    exact ⟨e, he, hcached⟩
  rw [Client.allResources, ordered, List.flatMap_map]
  generalize c.registry = l at each ⊢
  induction l with
  | nil => rfl
  | cons r rest ih =>
    obtain ⟨e, he, hr⟩ := each r List.mem_cons_self
    have hrest := ih fun q hq => each q (List.mem_cons_of_mem r hq)
    rw [filterMap_cons_toList, he, List.flatMap_cons, ← hrest, ← hr]
    rfl

end

/-- How a refresh of an entry ends that brings no resources: it is left out, for the last one is too
    recent; or it cannot be asked for; or what is answered to it is not a catalog. -/
inductive Misses (c : Client) (id : EntryId) : Act → Prop
  | limited {a : Act} {last : Moment} : c.prospect? a = some (id, .limited last) → c.Misses id a
  | unasked {a : Act} {fault : Error} : c.prospect? a = some (id, .fails fault) → c.Misses id a
  | failed {k : TaskId} {server : Server} {r : Http.Request} {next : List Next}
      {reply : Http.Reply} {fault : Error} :
      Coordinator.catalog c.settings.requestTimeout r reply = .error fault →
      c.Misses id (.wake ⟨k, .resources id server r, next⟩ (.reply reply))

theorem Misses.obtained? {c : Client} {id : EntryId} {a : Act} (h : c.Misses id a) :
    c.obtained? a = none := by
  cases h with
  | limited hx | unasked hx =>
    obtain ⟨k, forced, next, e, rfl, -⟩ := eq_of_prospect? hx
    rfl
  | failed hr =>
    rw [Client.obtained?, hr]
    rfl

/-- What is known of resources and what the host is told of them, through some acts. -/
structure Mirrored (c : Client) (acts : List Act) : Prop where
  order : (c.afterAll acts).registry.map (·.1) = acts.filterMap Act.serverId?
  cached : ∀ serverId id, (c.afterAll acts).registered? serverId = some id →
    (c.afterAll acts).cached id = (c.afterAll acts).published serverId
  together : (c.afterAll acts).allResources =
    (acts.filterMap Act.serverId?).flatMap (c.afterAll acts).published
  /-- New resources are shown once, by the act that they arrive in. -/
  updates : ∀ past a rest, acts = past ++ a :: rest →
    (c.afterAll past).updates a = ((c.afterAll past).obtained? a).toList.map (·.2)
  missed : ∀ past a rest id, acts = past ++ a :: rest → (c.afterAll past).Misses id a →
    (c.afterAll past).updates a = [] ∧
      ∀ j, ((c.afterAll past).after a).cached j = (c.afterAll past).cached j

/-- As long as no server is registered again, the resources that are known of a server are those
    that the host was told last, and all resources are those of the servers in the order of their
    registration. A refresh that fails or comes too soon tells and changes nothing. -/
theorem caches_mirrored {settings : Settings} {allowed : Server → Except Error (List String)}
    {protection : Fetch.Protection} {now : Moment} {c : Client}
    (hc : Client.new settings allowed protection now = .ok c) {acts : List Act}
    (allows : c.Allows acts) (once : (acts.filterMap Act.serverId?).Nodup) :
    Mirrored c acts := by
  have h := Reachable.new hc
  have first : c.Mirror ∧ c.registry = [] := by
    obtain ⟨rfl, -, -⟩ := new_eq hc
    exact ⟨⟨nofun, nofun, fun _ => rfl⟩, rfl⟩
  obtain ⟨hm, hids⟩ := first.1.afterAll h allows (by rw [first.2]; exact once)
  rw [first.2, List.map_nil, List.nil_append] at hids
  have hend := h.afterAll allows
  refine ⟨hids, fun serverId id hr => hm.cached (hend.named.registered hr), ?_, ?_, ?_⟩
  · rw [hm.allResources hend, hids]
  · intro past a rest heq
    obtain ⟨hr, hp, -⟩ := h.past allows heq
    exact updates_eq hr.sound hp
  · intro past a rest id heq hmiss
    obtain ⟨hr, hp, -⟩ := h.past allows heq
    refine ⟨?_, fun j => ?_⟩
    · rw [updates_eq hr.sound hp, hmiss.obtained?]
      rfl
    · rw [cached_eq hr.sound hp, hmiss.obtained?]

/-- The resources of a new server are told once they have arrived. -/
theorem first_resources_mirrored : Mirrored (blank .standard) toResources ∧
    ((blank .standard).afterAll toResources).allResources.map (·.id) = ["r"] := by
  have hnew : Client.new .standard (fun _ => .ok []) .any ⟨0, ⟨0, 0, 0⟩⟩ =
      .ok (blank .standard) := rfl
  exact ⟨caches_mirrored hnew allows_toResources (by decide +kernel), by decide +kernel⟩

end Client
end Harvest.Sync
