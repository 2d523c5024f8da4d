import Harvest.Proofs.Sync.Courses
import Harvest.Proofs.Sync.Locks
import Harvest.Proofs.Sync.Passing
/-!
What the turn of a refresh comes to: it sends a request for the resources, it is left out as the
last fetch is too recent, or it is over at once because there is no such request. The requests for
resources are those of such turns; and what is kept of the last fetch of an entry is when it ended.
-/

namespace Harvest.Sync

/-- The request for the resources of an entry. -/
def Sign.fetch? : Sign → Option (EntryId × Http.Request)
  | .sent (.resources id) r => some (id, r)
  | _ => none

theorem Sign.Plain.fetch? {s : Sign} (h : s.Plain) : s.fetch? = none := by
  cases s with
  | sent => exact h.elim
  | event | notice => rfl

theorem Sign.fetch?_of_judges {s : Sign} (h : s.judges = true) : s.fetch? = none := by
  cases s with
  | sent => cases h
  | event | notice => rfl

/-- What the turn of a refresh comes to. -/
inductive Prospect
  | limited (last : Moment)
  | sends (r : Http.Request)
  | fails (fault : Error)

namespace Client

def prospect (c : Client) (e : Entry) (forced : Bool) : Prospect :=
  match if forced then none else c.recentFetch? e with
  | some last => .limited last
  | none =>
    match Coordinator.resourcesRequest c.settings.userAgent e.server with
    | .ok r => .sends r
    | .error fault => .fails fault

/-- What an act that is the turn of a refresh comes to, with its entry. -/
def prospect? (c : Client) : Act → Option (EntryId × Prospect)
  | .wake ⟨_, .granted id forced, _⟩ .go => (c.entry? id).map fun e => (id, c.prospect e forced)
  | _ => none

theorem refresh_eq {c : Client} {id : EntryId} {e : Entry} (he : c.entry? id = some e)
    (forced : Bool) (next : List Next) :
    c.refresh id forced next = match c.prospect e forced with
      | .limited last => ((c.emit (.resourceRateLimit e.server last)).release id, .goesOn next)
      | .sends r => (c.send (.resources id) r, .waits (.resources id e.server r) next)
      | .fails fault => (c.fetched id e.server (.error fault), .goesOn next) := by
  rw [refresh, he, prospect]
  dsimp only
  cases (if forced then none else c.recentFetch? e) with
  | some last => rfl
  | none => cases Coordinator.resourcesRequest c.settings.userAgent e.server <;> rfl

/-- The requests for resources that an act sends. -/
def fetches (c : Client) (a : Act) : List (EntryId × Http.Request) :=
  (c.shown a).filterMap (·.2.fetch?)

/-- The requests for resources that an act is to send. -/
def asks (c : Client) (a : Act) : List (EntryId × Http.Request) :=
  match c.prospect? a with
  | some (id, .sends r) => [(id, r)]
  | _ => []

theorem after_granted {c : Client} {id : EntryId} {e : Entry} (he : c.entry? id = some e)
    (k : TaskId) (forced : Bool) (next : List Next) :
    c.after (.wake ⟨k, .granted id forced, next⟩ .go) = match c.prospect e forced with
      | .limited last =>
        run k next (((c.dropTask k).emit (.resourceRateLimit e.server last)).release id)
      | .sends r =>
        ((c.dropTask k).send (.resources id) r).suspend k (.resources id e.server r) next
      | .fails fault => run k next ((c.dropTask k).fetched id e.server (.error fault)) := by
  have heq : (c.dropTask k).heed ⟨k, .granted id forced, next⟩ .go =
      some ((c.dropTask k).refresh id forced next) := rfl
  have hd : Client.entry? (c.dropTask k) id = some e := he
  have hp : (c.dropTask k).prospect e forced = c.prospect e forced := rfl
  rw [after, wake, heq, refresh_eq hd, hp]
  cases c.prospect e forced <;> rfl

theorem eq_of_prospect? {c : Client} {a : Act} {i : EntryId} {x : Prospect}
    (h : c.prospect? a = some (i, x)) :
    ∃ k forced next e, a = .wake ⟨k, .granted i forced, next⟩ .go ∧ c.entry? i = some e ∧
      c.prospect e forced = x := by
  unfold prospect? at h
  split at h
  · rename_i k id forced next
    obtain ⟨e, he, hx⟩ := Option.map_eq_some_iff.1 h
    obtain ⟨rfl, rfl⟩ := Prod.mk.inj hx
    exact ⟨k, forced, next, e, rfl, he, rfl⟩
  · cases h

theorem prospect_eq_sends {c : Client} {e : Entry} {forced : Bool} {r : Http.Request} :
    c.prospect e forced = .sends r ↔ (forced = false → c.recentFetch? e = none) ∧
      Coordinator.resourcesRequest c.settings.userAgent e.server = .ok r := by
  unfold prospect
  cases forced with
  | true =>
    cases Coordinator.resourcesRequest c.settings.userAgent e.server <;> simp
  | false =>
    cases c.recentFetch? e <;>
      cases Coordinator.resourcesRequest c.settings.userAgent e.server <;> simp

/-- Requests for resources are sent by the turns of refreshes, and by nothing else. -/
theorem fetches_eq_asks {c : Client} (h : c.Sound) {a : Act} (p : c.Permits a) :
    c.fetches a = c.asks a := by
  by_cases hs : ∃ id r, c.prospect? a = some (id, .sends r)
  · obtain ⟨id, r, hx⟩ := hs
    obtain ⟨k, forced, next, e, rfl, he, hr⟩ := eq_of_prospect? hx
    have hafter := after_granted he k forced next
    have hshown : c.shown (.wake ⟨k, .granted id forced, next⟩ .go) =
        [(c.now.clock, .sent (.resources id) r)] :=
      shown_of_signs (by rw [hafter, hr]; rfl)
    rw [fetches, hshown, asks, hx]
    rfl
  · have hnone : c.asks a = [] := by
      unfold asks
      split
      · rename_i id r heq
        exact absurd ⟨id, r, heq⟩ hs
      · rfl
    have admits : c.Admits a fun s => s.fetch? = none := by
      refine ⟨fun _ => Sign.Plain.fetch?, fun _ _ _ _ _ _ _ => rfl, fun _ => rfl, ?_,
        fun _ _ => rfl, fun _ _ => rfl⟩
      intro k id forced next e r ha he recent hr
      refine absurd ⟨id, r, ?_⟩ hs
      rw [ha, prospect?, he, Option.map_some, prospect_eq_sends.2 ⟨recent, hr⟩]
    exact (filterMap_shown h p admits fun _ => Sign.fetch?_of_judges).trans hnone.symm

/-! A refresh that comes too soon -/

section

variable {c : Client} {k : TaskId}

theorem signs_acquire (c : Client) (k : TaskId) (id : EntryId) (forced : Bool) :
    (c.acquire k id forced).1.signs = c.signs := by
  unfold acquire
  split
  · rfl
  · split <;> rfl

theorem signs_release (c : Client) (id : EntryId) : (c.release id).signs = c.signs := by
  unfold release
  split
  · rfl
  · rfl
  · unfold grant
    split <;> rfl

theorem signs_perform_start (c : Client) (k : TaskId) (id : EntryId) :
    (c.perform k (.start id)).1.signs = c.signs := by
  have ha := signs_acquire (c.retime id (some .poll)) k id false
  rw [perform, beginStart_eq]
  dsimp only
  split <;> rename_i heq <;> rw [heq] at ha <;> exact ha

theorem signs_perform_started (c : Client) (k : TaskId) (id : EntryId) (token : Token) :
    (c.perform k (.started id token)).1.signs = c.signs := by
  rw [perform]
  split
  · rfl
  · split <;> rw [poll_fst]
    rfl

/-- Nothing is seen of what follows a scheduled refresh. -/
theorem signs_run_sequel {id : EntryId} {next : List Next} (h : Sequel id false next) :
    (run k next c).signs = c.signs := by
  have silent : ∀ n ∈ next, (∃ id, n = .start id) ∨ ∃ id token, n = .started id token := by
    intro n hn
    cases h with
    | scheduled => cases hn
    | started ids =>
      rcases List.mem_cons.1 hn with rfl | hn
      · exact .inr ⟨_, _, rfl⟩
      · obtain ⟨j, -, rfl⟩ := List.mem_map.1 hn
        exact .inl ⟨j, rfl⟩
  clear h
  induction next generalizing c with
  | nil => rfl
  | cons n rest ih =>
    have hn : (c.perform k n).1.signs = c.signs := by
      rcases silent n List.mem_cons_self with ⟨j, rfl⟩ | ⟨j, token, rfl⟩
      · exact signs_perform_start c k j
      · exact signs_perform_started c k j token
    rw [run]
    generalize c.perform k n = a at hn
    obtain ⟨d, p⟩ := a
    cases p with
    | done => exact (ih fun m hm => silent m (List.mem_cons_of_mem n hm)).trans hn
    | waiting w more => exact hn

/-- A scheduled refresh soon after the last one is told to the host, and changes nothing of what is
    known. -/
theorem limited_turn {id : EntryId} {next : List Next} (staged : Sequel id false next) {e : Entry}
    (he : c.entry? id = some e) {last : Moment} (hx : c.prospect e false = .limited last) :
    c.shown (.wake ⟨k, .granted id false, next⟩ .go) =
        [(c.now.clock, .event (.resourceRateLimit e.server last))] ∧
      ∀ j, (c.after (.wake ⟨k, .granted id false, next⟩ .go)).record? j = c.record? j := by
  have hafter := after_granted he k false next
  rw [hx] at hafter
  dsimp only at hafter
  have hemit : Frame c ((c.dropTask k).emit (.resourceRateLimit e.server last)) :=
    ⟨rfl, rfl, rfl, fun _ => rfl⟩
  refine ⟨shown_of_signs ?_, fun j => ?_⟩
  · rw [hafter, signs_run_sequel staged, signs_release]
    rfl
  · rw [hafter]
    exact (hemit.release id).run.record j

end

/-! What fetches leave -/

def lastFetch? (c : Client) (id : EntryId) : Option Moment := (c.entry? id).bind (·.lastFetch)

/-- The entry of which a fetch of resources ends in an act. -/
def ended? (c : Client) (a : Act) : Option EntryId :=
  match c.prospect? a, a with
  | some (id, .fails _), _ => some id
  | _, .wake ⟨_, .resources id _ _, _⟩ (.reply _) => some id
  | _, _ => none

/-- The resources of an entry as they were fetched last. -/
def cached (c : Client) (id : EntryId) : List Resource :=
  ((c.entry? id).map (·.resources)).getD []

/-- The entry that an act brings the resources of, with the server that was asked for them. -/
def obtained? (c : Client) : Act → Option (EntryId × Server × List Resource)
  | .wake ⟨_, .resources id server r, _⟩ (.reply reply) =>
    (Coordinator.catalog c.settings.requestTimeout r reply).toOption.map fun catalog =>
      (id, server, catalog.resources)
  | _ => none

/-- The resources of an entry, and when the last fetch of them ended. -/
def holding (c : Client) (id : EntryId) : List Resource × Option Moment :=
  (c.cached id, c.lastFetch? id)

/-- What a fetch leaves that ends in an act. -/
def yield (c : Client) (a : Act) (id : EntryId) : List Resource × Option Moment :=
  (((c.obtained? a).map (·.2.2)).getD (c.cached id), some c.now)

theorem holding_of_record {c d : Client} {id : EntryId} (h : d.record? id = c.record? id) :
    d.holding id = c.holding id := by
  have hr : ∀ b : Client,
      b.holding id = (((b.record? id).map (·.2.1)).getD [], (b.record? id).bind (·.2.2)) := by
    intro b
    rw [holding, cached, lastFetch?, record?]
    cases b.entry? id <;> rfl
  rw [hr, hr, h]

theorem holding_of_store {c d : Client} {id : EntryId} (h : d.store? id = c.store? id) :
    d.holding id = c.holding id := by
  have hr : ∀ b : Client,
      b.holding id = (((b.store? id).map (·.1)).getD [], (b.store? id).bind (·.2.1)) := by
    intro b
    rw [holding, cached, lastFetch?, store?]
    cases b.entry? id <;> rfl
  rw [hr, hr, h]

theorem holding_fetched {c : Client} {id : EntryId} {e : Entry} (he : c.entry? id = some e)
    (server : Server) (result : Except Error Resource.Catalog) (j : EntryId) :
    (c.fetched id server result).holding j =
      if id = j then ((result.toOption.map (·.resources)).getD (c.cached j), some c.now)
      else c.holding j := by
  have hm : ∀ (f : Entry → Entry) (s : Sign),
      (((c.modifyEntry id f).reveal s).release id).holding j =
        if id = j then ((f e).resources, (f e).lastFetch) else c.holding j := by
    intro f s
    have hrelease : Frame ((c.modifyEntry id f).reveal s)
        (((c.modifyEntry id f).reveal s).release id) := Frame.release (.refl _) id
    rw [holding_of_record (hrelease.record j)]
    change (c.modifyEntry id f).holding j = _
    rw [holding, cached, lastFetch?, entry?_modifyEntry]
    by_cases hj : id = j
    · subst hj
      simp [he]
    · simp [hj, holding, cached, lastFetch?]
  unfold fetched
  split
  · exact hm _ _
  · refine (hm _ _).trans ?_
    by_cases hj : id = j
    · subst hj
      simp [cached, he, Except.toOption]
    · rw [if_neg hj, if_neg hj]

theorem holding_granted {c : Client} {k : TaskId} {id : EntryId} {forced : Bool} {e : Entry}
    (he : c.entry? id = some e) (next : List Next) (j : EntryId) :
    (c.after (.wake ⟨k, .granted id forced, next⟩ .go)).holding j =
      if c.ended? (.wake ⟨k, .granted id forced, next⟩ .go) = some j then
        c.yield (.wake ⟨k, .granted id forced, next⟩ .go) j
      else c.holding j := by
  have hx : c.prospect? (.wake ⟨k, .granted id forced, next⟩ .go) =
      some (id, c.prospect e forced) := by rw [prospect?, he]; rfl
  have hd : Client.entry? (c.dropTask k) id = some e := he
  have hafter := after_granted he k forced next
  have hended : c.ended? (.wake ⟨k, .granted id forced, next⟩ .go) =
      match c.prospect e forced with
      | .fails _ => some id
      | _ => none := by
    unfold ended?
    rw [hx]
    cases c.prospect e forced <;> rfl
  rw [hended, hafter]
  cases c.prospect e forced with
  | limited last =>
    have hemit : Frame c ((c.dropTask k).emit (.resourceRateLimit e.server last)) :=
      ⟨rfl, rfl, rfl, fun _ => rfl⟩
    dsimp only
    rw [if_neg (Option.some_ne_none j).symm]
    exact holding_of_record ((hemit.release id).run.record j)
  | sends r =>
    dsimp only
    rw [if_neg (Option.some_ne_none j).symm]
    rfl
  | fails fault =>
    have hrun : Frame _ (run k next ((c.dropTask k).fetched id e.server (.error fault))) :=
      (Frame.refl _).run
    dsimp only
    rw [holding_of_record (hrun.record j), holding_fetched hd]
    exact if_congr Option.some_inj.symm rfl rfl

theorem holding_wake {c : Client} (h : c.Sound) {t : Task} (ht : t ∈ c.tasks) (s : Signal)
    (j : EntryId) : (c.after (.wake t s)).holding j =
      if c.ended? (.wake t s) = some j then c.yield (.wake t s) j else c.holding j := by
  have known : ∀ id, t.wait.entry? = some id → ∃ e, c.entry? id = some e := fun id hid =>
    exists_entry? (c := c) ((h.resume ht).known_of_suspend (by simp [Task.entries, hid]))
  obtain ⟨k, w, next⟩ := t
  by_cases hg : ∃ id forced, w = .granted id forced
  · obtain ⟨id, forced, rfl⟩ := hg
    obtain ⟨e, he⟩ := known id rfl
    cases s with
    | go => exact holding_granted he next j
    | _ => rfl
  · by_cases hr : ∃ id server r, w = .resources id server r
    · obtain ⟨id, server, r, rfl⟩ := hr
      obtain ⟨e, he⟩ := known id rfl
      have hd : Client.entry? (c.dropTask k) id = some e := he
      cases s with
      | reply reply =>
        let result := Coordinator.catalog c.settings.requestTimeout r reply
        have hyield : c.yield (.wake ⟨k, .resources id server r, next⟩ (.reply reply)) j =
            ((result.toOption.map (·.resources)).getD (c.cached j), some c.now) := by
          rw [yield, obtained?, Option.map_map]
          rfl
        have hrun : Frame ((c.dropTask k).fetched id server result)
          (run k next ((c.dropTask k).fetched id server result)) := (Frame.refl _).run
        refine (holding_of_record (hrun.record j)).trans ?_
        rw [holding_fetched hd, hyield]
        exact if_congr Option.some_inj.symm rfl rfl
      | _ => rfl
    · have hended : c.ended? (.wake ⟨k, w, next⟩ s) = none := by
        cases w with
        | granted id forced => exact absurd ⟨id, forced, rfl⟩ hg
        | resources id server r => exact absurd ⟨id, server, r, rfl⟩ hr
        | _ => rfl
      rw [hended, if_neg (Option.some_ne_none j).symm, after, wake]
      cases heq : (c.dropTask k).heed ⟨k, w, next⟩ s with
      | none => rfl
      | some b =>
        have hb : Frame (c.dropTask k) b.1 := (Frame.refl _).heed heq
          (fun id forced he => hg ⟨id, forced, he⟩) (fun id server r he => hr ⟨id, server, r, he⟩)
        exact holding_of_record ((hb.follow k b.2).record j)

theorem holding_after {c : Client} (h : c.Sound) {a : Act} (p : c.Permits a) (j : EntryId) :
    (c.after a).holding j = if c.ended? a = some j then c.yield a j else c.holding j := by
  have host : (∀ t s, a ≠ .wake t s) → c.ended? a = none := by
    intro ha
    cases a with
    | wake t s => exact absurd rfl (ha t s)
    | _ => rfl
  have hs := step_after h p
  generalize hd : c.after a = d at hs
  cases hs with
  | @wake t s ht => exact hd ▸ holding_wake h ht s j
  | addServer s =>
    refine Eq.trans ?_ (if_neg (Option.some_ne_none j).symm).symm
    rw [holding, holding, cached, cached, lastFetch?, lastFetch?, entry?, entry?,
      entries_addServer, List.getElem?_append]
    split
    · rfl
    · rename_i hj
      rw [List.getElem?_eq_none (Nat.not_lt.1 hj)]
      cases hn : [Entry.new s][j - c.entries.length]? with
      | none => rfl
      | some e =>
        obtain rfl : e = Entry.new s := List.mem_singleton.1 (List.mem_of_getElem? hn)
        rfl
  | execute job => exact (if_neg (Option.some_ne_none j).symm).symm
  | still ho _ _ _ _ store =>
    rw [host ho.host, if_neg (Option.some_ne_none j).symm]
    exact holding_of_store (store j)
  | @stops _ queue ids ho =>
    rw [host ho.host, if_neg (Option.some_ne_none j).symm]
    exact holding_of_record ((((Frame.refl c).setQueue queue).stopEntries ids).record j)
  | @begins _ e next ho he =>
    have hf : Frame c e := by
      rcases he with rfl | rfl
      · exact .refl _
      · exact (Frame.refl c).startQueue
    have hrun : Frame c (e.undertake next) :=
      Frame.run ⟨hf.settings, hf.now, hf.registry, hf.record⟩
    rw [host ho.host, if_neg (Option.some_ne_none j).symm]
    exact holding_of_record (hrun.record j)

theorem lastFetch?_after {c : Client} (h : c.Sound) {a : Act} (p : c.Permits a) (j : EntryId) :
    (c.after a).lastFetch? j = if c.ended? a = some j then some c.now else c.lastFetch? j := by
  have hl := congrArg Prod.snd (holding_after h p j)
  rwa [apply_ite Prod.snd] at hl

theorem cached_after {c : Client} (h : c.Sound) {a : Act} (p : c.Permits a) (j : EntryId) :
    (c.after a).cached j =
      if c.ended? a = some j then ((c.obtained? a).map (·.2.2)).getD (c.cached j)
      else c.cached j := by
  have hl := congrArg Prod.fst (holding_after h p j)
  rwa [apply_ite Prod.fst] at hl

end Client
end Harvest.Sync
