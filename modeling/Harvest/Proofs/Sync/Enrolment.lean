import Mathlib.Data.List.Induction
import Harvest.Proofs.Sync.Caches
import Harvest.Proofs.Sync.Conveyance
import Harvest.Proofs.Sync.Sweeps
/-!
The registered servers. Their ids stand in the order in which they were registered first, and each of
them leads to an entry whose server has that id. An id stays registered, and so does that of every job on
its way through the queue, since it comes from the definition of a server.
-/

namespace Harvest.Sync

theorem eraseDups_concat {α : Type} [BEq α] [LawfulBEq α] (l : List α) (x : α) :
    (l ++ [x]).eraseDups = if x ∈ l then l.eraseDups else l.eraseDups ++ [x] := by
  rw [List.eraseDups_append]
  split <;> rename_i hx <;> simp [List.removeAll, List.eraseDups_cons, hx]

/-- The ids that servers are registered under by some acts, in the order of the first time. -/
def enrolled (acts : List Act) : List String := (acts.filterMap Act.serverId?).eraseDups

namespace Client

section

variable {c : Client} {a : Act}

/-! The order of the ids -/

theorem ids_addServer (c : Client) (s : Server) :
    (c.addServer s).registry.map (·.1) =
      if s.id ∈ c.registry.map (·.1) then c.registry.map (·.1)
      else c.registry.map (·.1) ++ [s.id] := by
  have hids : ∀ l : List (String × EntryId),
      (l.map fun r => if r.1 = s.id then (s.id, c.entries.length) else r).map (·.1) =
        l.map (·.1) := by
    intro l
    rw [List.map_map]
    refine List.map_congr_left fun r _ => ?_
    by_cases hr : r.1 = s.id <;> simp [hr]
  unfold addServer
  dsimp only
  split <;> rename_i hr
  · rw [if_neg (registered?_eq_none_iff (c := c).1 hr), List.map_append]
    rfl
  · rw [if_pos, hids]
    refine Decidable.byContradiction fun hn => ?_
    cases hr.symm.trans (registered?_eq_none_iff (c := c).2 hn)

theorem ids_afterAll (hc : Reachable c) (empty : c.registry = []) {acts : List Act}
    (allows : c.Allows acts) : (c.afterAll acts).registry.map (·.1) = enrolled acts := by
  induction acts using List.reverseRecOn with
  | nil => simp [empty, enrolled]
  | append_singleton acts a ih =>
    obtain ⟨hacts, p, -⟩ := (allows_append c acts [a]).1 allows
    have ih := ih hacts
    rw [afterAll_append, afterAll_cons, afterAll_nil, enrolled, List.filterMap_append]
    by_cases ha : ∃ s, a = .addServer s
    · obtain ⟨s, rfl⟩ := ha
      change ((c.afterAll acts).addServer s).registry.map (·.1) =
        (acts.filterMap Act.serverId? ++ [s.id]).eraseDups
      rw [ids_addServer, ih, eraseDups_concat, enrolled]
      simp only [List.mem_eraseDups]
    · have hnone : [a].filterMap Act.serverId? = [] := by
        cases a with
        | addServer s => exact absurd ⟨s, rfl⟩ ha
        | _ => rfl
      rw [registry_after (hc.afterAll hacts).sound p fun s hs => ha ⟨s, hs⟩, hnone, List.append_nil]
      exact ih

/-! What refers to the registry -/

theorem isSome_registered?_after (h : c.Sound) (p : c.Permits a) {serverId : String}
    (hr : (c.registered? serverId).isSome) : ((c.after a).registered? serverId).isSome := by
  by_cases ha : ∃ s, a = .addServer s
  · obtain ⟨s, rfl⟩ := ha
    change ((c.addServer s).registered? serverId).isSome
    by_cases hs : s.id = serverId
    · rw [← hs, registered?_addServer_self]
      rfl
    · rw [registered?_addServer hs]
      exact hr
  · rw [registered?, registry_after h p fun s hs => ha ⟨s, hs⟩]
    exact hr

/-- Whether the ids of all entries, of the answers on hand and of the jobs in the queue are those of
    registered servers. -/
structure Enlisted (c : Client) : Prop where
  entries : ∀ {id : EntryId} {serverId : String}, c.serverId? id = some serverId →
    (c.registered? serverId).isSome
  onHand : ∀ b ∈ c.onHand, (c.registered? b.1).isSome
  pending : ∀ q ∈ c.queue.pending, (c.registered? q.serverId).isSome

theorem eq_of_mem_answered {b : Batch} (hb : b ∈ c.answered a) :
    ∃ k id server r next reply, a = .wake ⟨k, .jobs id server r, next⟩ (.reply reply) ∧
      b.1 = server.id := by
  unfold answered answer? at hb
  split at hb
  · obtain ⟨x, hx, rfl⟩ := List.mem_map.1 hb
    split at hx
    · obtain rfl := Option.some.inj (Option.mem_toList.1 hx)
      exact ⟨_, _, _, _, _, _, rfl, rfl⟩
    · cases hx
  · cases hb

theorem Enlisted.answered (e : c.Enlisted) (h : Reachable c) (p : c.Permits a) :
    ∀ b ∈ c.answered a, (c.registered? b.1).isSome := by
  intro b hb
  obtain ⟨k, id, server, r, next, reply, rfl, hid⟩ := eq_of_mem_answered hb
  rw [hid]
  exact e.entries (h.named.waits p.1 rfl)

/-- A batch that enters the queue in an act was on hand, or is answered in it. -/
theorem Enlisted.batches (e : c.Enlisted) (h : Reachable c) (p : c.Permits a) :
    ∀ b ∈ c.entered a ++ (c.after a).onHand, (c.registered? b.1).isSome := by
  intro b hb
  rcases List.mem_append.1 ((onHand_after h p).mem_iff.2 hb) with hb | hb
  · exact e.onHand b hb
  · exact e.answered h p b hb

theorem Enlisted.passes (e : c.Enlisted) (h : Reachable c) (p : c.Permits a) :
    ∀ q ∈ c.left a ++ (c.after a).queue.pending, (c.registered? q.serverId).isSome := by
  intro q hq
  rw [(passage_left h.sound p).queue, queued_eq] at hq
  rcases List.mem_append.1 hq with hq | hq
  · exact e.pending q hq
  · obtain ⟨b, hb, hq⟩ := List.mem_flatMap.1 hq
    obtain ⟨x, -, rfl⟩ := List.mem_map.1 hq
    exact e.batches h p b (List.mem_append_left _ hb)

theorem Enlisted.after (e : c.Enlisted) (h : Reachable c) (p : c.Permits a) :
    (c.after a).Enlisted := by
  refine ⟨fun {id k} hid => ?_, fun b hb => ?_, fun q hq => ?_⟩
  · by_cases ha : ∃ s, a = .addServer s
    · obtain ⟨s, rfl⟩ := ha
      rcases eq_or_of_serverId?_addServer hid with hk | ⟨-, rfl⟩
      · exact isSome_registered?_after h.sound p (e.entries hk)
      · change ((c.addServer s).registered? s.id).isSome
        rw [registered?_addServer_self]
        rfl
    · rw [h.named.serverId?_after fun s hs => ha ⟨s, hs⟩] at hid
      exact isSome_registered?_after h.sound p (e.entries hid)
  · exact isSome_registered?_after h.sound p (e.batches h p b (List.mem_append_right _ hb))
  · exact isSome_registered?_after h.sound p (e.passes h p q (List.mem_append_right _ hq))

theorem Reachable.enlisted (h : Reachable c) : c.Enlisted := by
  induction h with
  | new h =>
    obtain ⟨rfl, -, -⟩ := new_eq h
    exact ⟨nofun, nofun, nofun⟩
  | act h p ih => exact ih.after h p

/-! What is known of registered servers -/

/-- A registered id leads to an entry, whose server has it. -/
theorem Reachable.exists_entry (h : Reachable c) {serverId : String} {id : EntryId}
    (hr : c.registered? serverId = some id) : ∃ e, c.entry? id = some e ∧ e.server.id = serverId := by
  obtain ⟨server, hserver, hid⟩ := Option.map_eq_some_iff.1 (h.named.registered hr)
  obtain ⟨e, he, rfl⟩ := Option.map_eq_some_iff.1 hserver
  exact ⟨e, he, hid⟩

theorem Reachable.ids_ordered (h : Reachable c) :
    c.ordered.map (·.server.id) = c.registry.map (·.1) := by
  have each : ∀ r ∈ c.registry, ∃ e, c.entry? r.2 = some e ∧ e.server.id = r.1 :=
    fun r hr => h.exists_entry (h.distinct.registered?_of_mem hr)
  rw [ordered]
  generalize c.registry = l at each
  induction l with
  | nil => rfl
  | cons r rest ih =>
    obtain ⟨e, he, hid⟩ := each r List.mem_cons_self
    rw [filterMap_cons_toList, he, List.map_append, List.map_cons,
      ih fun q hq => each q (List.mem_cons_of_mem r hq), ← hid]
    rfl

theorem verdict_ne_unknownServer (h : Reachable c) {q : Queued}
    (hq : (c.registered? q.serverId).isSome) : c.verdict q ≠ .unknownServer := by
  obtain ⟨id, hid⟩ := Option.isSome_iff_exists.1 hq
  obtain ⟨e, he, -⟩ := h.exists_entry hid
  have hk : (c.registered? q.serverId).bind (fun id => (c.known? id).map fun k => (id, k)) =
      some (id, e.server, e.resources) := by
    rw [hid, Option.bind_some, known?, he]
    rfl
  intro hv
  unfold verdict at hv
  rw [hk] at hv
  split at hv
  · cases hv
  · dsimp only at hv
    split at hv
    · cases hv
    · split at hv
      · cases hv
      · split at hv <;> cases hv

theorem eq_unknownServer_of_mem {q : Queued} {v : Verdict} {jobId serverId : String}
    (h : .notice (.unknownServer jobId serverId) ∈ v.signs q) : v = .unknownServer := by
  cases v with
  | unknownServer => rfl
  | _ => simp [Verdict.signs] at h

/-- No job is found to be of a server that is not registered. -/
theorem Reachable.known (h : Reachable c) :
    ∀ s ∈ c.signs, ∀ jobId serverId, s.2 ≠ .notice (.unknownServer jobId serverId) := by
  induction h with
  | new h =>
    obtain ⟨rfl, -, -⟩ := new_eq h
    exact fun s hs => nomatch hs
  | @act c a h p ih =>
    rw [signs_after h.sound p]
    intro s hs jobId serverId heq
    rcases List.mem_append.1 hs with hs | hs
    · exact ih s hs jobId serverId heq
    · have hmem : s ∈ (c.shown a).filter (·.2.judges) := by
        refine List.mem_filter.2 ⟨hs, ?_⟩
        rw [heq]
        rfl
      rw [(passage_left h.sound p).signs.1] at hmem
      obtain ⟨q, hq, hsign⟩ := List.mem_flatMap.1 hmem
      obtain ⟨x, hx, rfl⟩ := List.mem_map.1 hsign
      have hr := isSome_registered?_after h.sound p
        (h.enlisted.passes h p q (List.mem_append_left _ hq))
      obtain rfl : x = .notice (.unknownServer jobId serverId) := heq
      exact verdict_ne_unknownServer (h.act p) hr (eq_unknownServer_of_mem hx)

/-! Stopping all servers -/

theorem entry?_stopEntries (ids : List EntryId) (c : Client) (j : EntryId) :
    Client.entry? (stopEntries ids c) j =
      (c.entry? j).map fun e => if j ∈ ids then e.retimed none else e := by
  induction ids generalizing c with
  | nil => simp [stopEntries]
  | cons id ids ih =>
    rw [stopEntries, ih, stopEntry_eq, entry?_retime, Option.map_map]
    congr 1
    funext e
    by_cases hid : id = j
    · subst hid
      by_cases hm : id ∈ ids <;> simp [hm, Entry.retimed]
    · simp [hid, Ne.symm hid]

end

/-! The registry through runs -/

/-- The registry and what refers to it, after some acts. -/
structure Enrolment (c : Client) (acts : List Act) : Prop where
  /-- The ids stand in the order in which they were registered first. -/
  ids : (c.afterAll acts).registry.map (·.1) = enrolled acts
  once : (enrolled acts).Nodup
  /-- Each id leads to an entry of its own, whose server has it. -/
  named : ∀ r ∈ (c.afterAll acts).registry, (c.afterAll acts).registered? r.1 = some r.2 ∧
    ∃ e, Client.entry? (c.afterAll acts) r.2 = some e ∧ e.server.id = r.1
  apart : ((c.afterAll acts).registry.map (·.2)).Nodup
  servers : (c.afterAll acts).ordered.map (·.server.id) = enrolled acts
  queued : ∀ q ∈ (c.afterAll acts).queue.pending, q.serverId ∈ enrolled acts
  known : ∀ s ∈ (c.afterAll acts).signs, ∀ jobId serverId,
    s.2 ≠ .notice (.unknownServer jobId serverId)
  /-- The call that stops all servers stops the registered entries and no others. -/
  stops : ∀ past rest, acts = past ++ .stopAll :: rest → ∀ id,
    Client.entry? ((c.afterAll past).after .stopAll) id =
      (Client.entry? (c.afterAll past) id).map fun e =>
        if id ∈ (c.afterAll past).registry.map (·.2) then e.retimed none else e
  /-- The call that starts all servers starts the registered entries, one after the other. -/
  starts : ∀ past rest, acts = past ++ .startAll :: rest → Sweep (c.afterAll past) rest

/-- A server is registered, then another one, and then the first one again. -/
def twice : List Act :=
  [.addServer nowhere, .addServer { nowhere with id := "m" }, .addServer nowhere, .startAll, .stopAll]

end Client
end Harvest.Sync
