import Harvest.Proofs.Sync.Caches
import Harvest.Proofs.Sync.Conveyance
import Harvest.Proofs.Sync.LatePolls
import Harvest.Proofs.Sync.Returns
/-!
The definition of a server that requests and verdicts follow. Refreshes and submissions read it when
they send their requests, and jobs are judged by it when they leave the queue. A poll is taken up
with the definition of that moment, and sent once the host has answered; it follows the definition
that is current then if nothing happens in between.
-/

namespace Harvest.Sync

/-- Whether a request says what the definition of a server says: its address and its token, and
    when it asks for jobs, its autonomy. -/
inductive Follows (s : Server) (r : Http.Request) : Purpose → Prop
  | resources {id : EntryId} : Coordinator.endpoint s.url "/resources" = .ok r.url →
      r.headers.lookup "authorization" = some (.text s.token) → Follows s r (.resources id)
  | jobs {id : EntryId} {url : Url} {ids : List String} :
      Coordinator.endpoint s.url "/worker/jobs" = .ok url →
      r.url = Coordinator.withPairs url
        (("autonomy", s.autonomy.text) :: ids.map fun id => ("resource[]", id)) →
      r.headers.lookup "authorization" = some (.text s.token) → Follows s r (.jobs id)
  | submission {id : EntryId} : Coordinator.endpoint s.url "/worker/jobs" = .ok r.url →
      r.headers.lookup "authorization" = some (.text s.token) → Follows s r (.submission id)

section

variable {userAgent : String} {s : Server} {r : Http.Request}

theorem follows_resourcesRequest (h : Coordinator.resourcesRequest userAgent s = .ok r)
    (id : EntryId) : Follows s r (.resources id) := by
  obtain ⟨url, hurl, h⟩ := exists_of_bind h
  obtain ⟨fields, hfields, h⟩ := exists_of_bind h
  obtain rfl := Except.ok.inj h
  exact .resources hurl (Coordinator.lookup_headers hfields)

theorem follows_jobsRequest {ids : List String}
    (h : Coordinator.jobsRequest userAgent s ids = .ok r) (id : EntryId) :
    Follows s r (.jobs id) := by
  obtain ⟨url, hurl, h⟩ := exists_of_bind h
  obtain ⟨fields, hfields, h⟩ := exists_of_bind h
  obtain rfl := Except.ok.inj h
  exact .jobs hurl rfl (Coordinator.lookup_headers hfields)

theorem follows_submitRequest {hash : String} {result : JobResult}
    (h : Coordinator.submitRequest userAgent s hash result = .ok r) (id : EntryId) :
    Follows s r (.submission id) := by
  obtain ⟨hurl, htoken⟩ := Coordinator.address_of_submitRequest h
  exact .submission hurl htoken

end

/-- The verdict on a job of a server, by its definition and its resources. -/
def judgement (date : Timestamp) (id : EntryId) (s : Server) (resources : List Resource)
    (q : Queued) : Verdict :=
  if q.parameters.isExpired date then .expired
  else
    match resources.find? fun r => r.id = q.parameters.resourceId with
    | none => .unknownResource id s
    | some r =>
      match s.autonomy with
      | .passive => .passive s r
      | .active =>
        match Job.make q.parameters r s.autonomy with
        | .ok job => .runs job
        | .error fault => .rejected id s fault

namespace Client

/-- Whether a request for a server follows the definition that the server has. -/
def IsCurrent (c : Client) (s : Sign) : Prop :=
  ∀ purpose r id, s = .sent purpose r → purpose.entry? = some id →
    ∃ server, c.server? id = some server ∧ Follows server r purpose

/-- Whether the polls that wait for the host were taken up with the definitions that the servers
    have. -/
def Abreast (c : Client) : Prop :=
  ∀ t ∈ c.tasks, ∀ id server, t.wait = .permission id server → c.server? id = some server

/-- Whether something else happens while a task waits for the host to permit a poll. -/
def Lingers (c : Client) (a : Act) : Prop :=
  ∃ t ∈ c.tasks, (∃ id server, t.wait = .permission id server) ∧
    ∀ answer, a ≠ .wake t (.permitted answer)

section

variable {c : Client} {a : Act} {id : EntryId} {s : Server}

theorem server?_of_entry? {e : Entry} (h : c.entry? id = some e) :
    c.server? id = some e.server := by
  rw [server?, h]
  rfl

theorem isCurrent_of_plain {x : Sign} (h : x.Plain) : c.IsCurrent x := by
  rintro purpose r id rfl
  exact h.elim

/-- All requests for servers that an act sends follow the current definitions. -/
theorem Abreast.isCurrent_of_shown (abreast : c.Abreast) (h : c.Sound) (p : c.Permits a) :
    ∀ x ∈ c.shown a, c.IsCurrent x.2 := by
  have admits : c.Admits a c.IsCurrent := by
    refine ⟨fun _ => isCurrent_of_plain, ?_, ?_, ?_, ?_, ?_⟩
    · rintro i server hash result r hs hr _ _ _ ⟨⟩ ⟨⟩
      exact ⟨server, hs, follows_submitRequest hr i⟩
    · rintro r _ _ _ ⟨⟩ ⟨⟩
    · rintro k i forced next e r rfl he - hr _ _ _ ⟨⟩ ⟨⟩
      exact ⟨e.server, server?_of_entry? he, follows_resourcesRequest hr i⟩
    · rintro k i server next answer r rfl hr _ _ _ ⟨⟩ ⟨⟩
      obtain ⟨ids, -, hids⟩ := exists_of_bind hr
      exact ⟨server, abreast _ p.1 i server rfl, follows_jobsRequest hids i⟩
    · rintro k i server r next reply catalog - - _ _ _ ⟨⟩
  obtain ⟨outs, ho⟩ := passage_after h p admits
  intro x hx
  cases hj : x.2.judges with
  | false => exact ho.signs.2 x hx hj
  | true =>
    rintro purpose r i hs
    rw [hs] at hj
    cases hj

theorem server?_of_rests {d : Client} {n : Next} {server : Server} {more : List Next}
    (h : d.Rests n (.waiting (.permission id server) more)) : d.server? id = some server := by
  generalize hw : Wait.permission id server = w at h
  cases h with
  | refresh hg | start hg =>
    subst hw
    rcases hg with hg | hg <;> cases hg
  | poll he =>
    cases hw
    exact server?_of_entry? he
  | _ => cases hw

/-- Polls that are taken up are taken up with the current definitions, and those that wait for the
    host keep up with them as long as it answers at once. -/
theorem Abreast.after (abreast : c.Abreast) (h : c.Sound) (p : c.Permits a)
    (prompt : ¬ c.Lingers a) : (c.after a).Abreast := by
  have same : (∀ s, a ≠ .addServer s) → (∀ s, a ≠ .updateServer s) → ∀ {i server},
      c.server? i = some server → (c.after a).server? i = some server :=
    fun added updated i _ hs => (server?_after added updated i).trans hs
  intro t ht i server hw
  have hcomes := comes_of_mem h p ht
  cases hcomes with
  | kept hk =>
    have hm := hk.eq_of_permission hw
    obtain ⟨answer, rfl⟩ : ∃ answer, a = .wake t (.permitted answer) := by
      by_contra hne
      exact prompt ⟨t, hm, ⟨i, server, hw⟩, fun answer ha => hne ⟨answer, ha⟩⟩
    exact same (by rintro s ⟨⟩) (by rintro s ⟨⟩) (abreast t hm i server hw)
  | fresh hf => cases hf <;> cases hw
  | execute => cases hw
  | rests _ _ hs hn hr =>
    obtain rfl : _ = Wait.permission i server := hw
    refine same ?_ ?_ ((hs i).symm.trans (server?_of_rests hr)) <;> rintro s rfl <;> cases hn
  | onward _ _ heq =>
    obtain rfl : _ = Wait.permission i server := hw
    have honward := onward_of_heed heq rfl
    generalize Task.wait _ = v at honward
    cases honward

theorem Abreast.afterAll (abreast : c.Abreast) (h : Reachable c) {acts : List Act}
    (allows : c.Allows acts) (prompt : c.Without Lingers acts) : (c.afterAll acts).Abreast := by
  induction acts generalizing c with
  | nil => exact abreast
  | cons a acts ih =>
    exact ih (abreast.after h.sound allows.1 prompt.1) (h.act allows.1) allows.2 prompt.2

theorem verdict_eq_judgement {q : Queued} (hr : c.registered? q.serverId = some id)
    (hs : c.server? id = some s) :
    c.verdict q = judgement c.now.date id s (c.cached id) q := by
  obtain ⟨e, he, rfl⟩ := Option.map_eq_some_iff.1 hs
  have hc : c.cached id = e.resources := by rw [cached, he]; rfl
  have hserver : ((c.registered? q.serverId).bind fun id => (c.known? id).map fun k => (id, k)) =
      some (id, e.server, e.resources) := by
    rw [hr, Option.bind_some, known?, he]
    rfl
  cases hd : q.parameters.isExpired c.now.date with
  | true => simp [verdict, judgement, hd]
  | false =>
    cases hf : e.resources.find? (fun r => r.id = q.parameters.resourceId) with
    | none => simp [verdict, judgement, hd, hserver, hc, hf]
    | some r =>
      cases ha : e.server.autonomy with
      | passive => simp [verdict, judgement, hd, hserver, hc, hf, ha]
      | active =>
        cases hj : Job.make q.parameters r .active <;>
          simp [verdict, judgement, hd, hserver, hc, hf, ha, hj]

/-! Changes of definitions -/

theorem server?_addServer (hid : id < c.entries.length) (t : Server) :
    (c.addServer t).server? id = c.server? id := by
  rw [server?, server?, entry?, entry?, entries_addServer, List.getElem?_append_left hid]

/-- A definition stays as it is until the host changes it. -/
theorem Named.server?_after (h : c.Named) (hs : c.server? id = some s)
    (other : ∀ t, a = .updateServer t → t.id ≠ s.id) : (c.after a).server? id = some s := by
  by_cases hu : ∃ t, a = .updateServer t
  · obtain ⟨t, rfl⟩ := hu
    change (c.updateServer t).2.server? id = _
    unfold updateServer
    split
    · exact hs
    · rename_i j hj
      have hne : j ≠ id := by
        rintro rfl
        have hname : c.serverId? j = some t.id := h.registered hj
        rw [serverId?, hs] at hname
        exact other t rfl (Option.some_inj.1 hname).symm
      rw [server?, entry?_modifyEntry]
      simpa [hne, server?] using hs
  · by_cases hadd : ∃ t, a = .addServer t
    · obtain ⟨t, rfl⟩ := hadd
      obtain ⟨e, he, -⟩ := Option.map_eq_some_iff.1 hs
      exact (server?_addServer (entry?_lt he) t).trans hs
    · exact (Client.server?_after (fun t ht => hadd ⟨t, ht⟩) (fun t ht => hu ⟨t, ht⟩) id).trans hs

theorem server?_afterAll (h : Reachable c) (hs : c.server? id = some s) {acts : List Act}
    (allows : c.Allows acts) (other : ∀ t, .updateServer t ∈ acts → t.id ≠ s.id) :
    (c.afterAll acts).server? id = some s := by
  induction acts generalizing c with
  | nil => exact hs
  | cons a acts ih =>
    refine ih (h.act allows.1) (h.named.server?_after hs ?_) allows.2 fun t ht =>
      other t (List.mem_cons_of_mem a ht)
    rintro t rfl
    exact other t List.mem_cons_self

end

/-- A registered server has a new definition, and nothing else has changed. -/
structure Renewed (c : Client) (s : Server) (id : EntryId) : Prop where
  accepted : (c.updateServer s).1 = .ok ()
  entry : ∀ e, c.entry? id = some e →
    Client.entry? (c.after (.updateServer s)) id = some { e with server := s }
  others : ∀ j, j ≠ id → Client.entry? (c.after (.updateServer s)) j = c.entry? j
  rest : c.after (.updateServer s) = { c with entries := (c.after (.updateServer s)).entries }

/-- There is no server with the id of a definition; this is all that comes of it. -/
structure Refused (c : Client) (s : Server) : Prop where
  error : (c.updateServer s).1 = .error (.config ("Unknown server " ++ s.id))
  noted : c.after (.updateServer s) = c.log (.unregisteredUpdate s)

/-- What an act does for a server under a definition. -/
structure Governs (s : Server) (id : EntryId) (c : Client) (a : Act) : Prop where
  /-- Whatever it sends for the server follows the definition. -/
  requests : ∀ x ∈ c.shown a, ∀ purpose r j, x.2 = .sent purpose r → purpose.entry? = some j →
    c.serverId? j = some s.id → Follows s r purpose
  verdicts : (c.shown a).filter (·.2.judges) = (c.after a).verdicts (c.left a)
  /-- The jobs of the server are judged by the definition. -/
  judged : ∀ q ∈ c.left a, q.serverId = s.id → (c.after a).verdict q =
    judgement (c.after a).now.date id s ((c.after a).cached id) q

section

variable {c : Client} {s : Server} {id : EntryId}

theorem renewed_of_registered (hr : c.registered? s.id = some id) : c.Renewed s id := by
  have hafter : c.after (.updateServer s) = c.modifyEntry id fun e => { e with server := s } := by
    rw [after, updateServer, hr]
  refine ⟨by rw [updateServer, hr], fun e he => ?_, fun j hj => ?_, ?_⟩ <;> rw [hafter]
  · rw [entry?_modifyEntry, he]
    simp
  · rw [entry?_modifyEntry]
    simp [Ne.symm hj]
  · rfl

theorem refused_of_unregistered (hr : c.registered? s.id = none) : c.Refused s := by
  refine ⟨by rw [updateServer, hr], ?_⟩
  rw [after, updateServer, hr]

theorem Renewed.server (h : c.Renewed s id) (known : id < c.entries.length) :
    (c.after (.updateServer s)).server? id = some s := by
  obtain ⟨e, he⟩ := exists_entry? known
  exact server?_of_entry? (h.entry e he)

/-- A server that is registered once has a definition, and polls keep up with it. -/
structure Standing (c : Client) (id : EntryId) (s : Server) : Prop where
  reachable : Reachable c
  mirror : c.Mirror
  abreast : c.Abreast
  server : c.server? id = some s

theorem Standing.listed (h : c.Standing id s) : c.registered? s.id = some id := by
  refine h.mirror.listed ?_
  rw [serverId?, h.server]
  rfl

/-- Between an act and the next a server has a definition that the act does everything under. -/
theorem Standing.governs {a : Act} (h : c.Standing id s) (h' : (c.after a).Standing id s)
    (p : c.Permits a) : Governs s id c a := by
  have sound := h.reachable.sound
  refine ⟨fun x hx purpose r j hx' hj hid => ?_, (passage_left sound p).signs.1, fun q _ hq => ?_⟩
  · obtain ⟨server, hserver, hfollows⟩ :=
      h.abreast.isCurrent_of_shown sound p x hx purpose r j hx' hj
    obtain rfl : j = id := Option.some_inj.1 ((h.mirror.listed hid).symm.trans h.listed)
    obtain rfl : server = s := Option.some_inj.1 (hserver.symm.trans h.server)
    exact hfollows
  · exact verdict_eq_judgement (hq ▸ h'.listed) h'.server

/-- From its change on a definition stands as long as the host does not change it again. -/
theorem standing_afterAll (h : Reachable c) (mirror : c.Mirror) (abreast : c.Abreast)
    {acts rest : List Act} (hr : (c.afterAll acts).registered? s.id = some id)
    (allows : c.Allows (acts ++ .updateServer s :: rest))
    (once : (c.registry.map (·.1) ++
      (acts ++ .updateServer s :: rest).filterMap Act.serverId?).Nodup)
    (prompt : c.Without Lingers (acts ++ .updateServer s :: rest))
    (other : ∀ t, .updateServer t ∈ rest → t.id ≠ s.id) :
    (c.afterAll (acts ++ .updateServer s :: rest)).Standing id s := by
  refine ⟨h.afterAll allows, (mirror.afterAll h allows once).1, abreast.afterAll h allows prompt, ?_⟩
  obtain ⟨hacts, hupdate, hrest⟩ := (allows_append c acts (.updateServer s :: rest)).1 allows
  have hreach := h.afterAll hacts
  have hupdated : ((c.afterAll acts).after (.updateServer s)).server? id = some s :=
    (renewed_of_registered hr).server (hreach.sound.registered.of_registered? hr)
  rw [afterAll_append, afterAll_cons]
  exact server?_afterAll (hreach.act hupdate) hupdated hrest other

end

/-- A changed definition is the one that all requests and verdicts follow from then on, until the
    next change, if the host answers at once what a server may issue jobs for and no server is
    registered twice. The change itself leaves everything else as it was; for a server that is not
    registered it is refused, and changes nothing. -/
theorem updates_take_effect {settings : Settings} {allowed : Server → Except Error (List String)}
    {protection : Fetch.Protection} {now : Moment} {c : Client}
    (hc : Client.new settings allowed protection now = .ok c) {acts : List Act}
    (allows : c.Allows acts) (s : Server) :
    ((c.afterAll acts).registered? s.id = none → (c.afterAll acts).Refused s) ∧
    ∀ id, (c.afterAll acts).registered? s.id = some id → (c.afterAll acts).Renewed s id ∧
      ∀ rest, c.Allows (acts ++ .updateServer s :: rest) →
        ((acts ++ rest).filterMap Act.serverId?).Nodup →
        c.Without Lingers (acts ++ .updateServer s :: rest) →
        (∀ t, .updateServer t ∈ rest → t.id ≠ s.id) →
        ∀ past a post, rest = past ++ a :: post →
          Governs s id (((c.afterAll acts).after (.updateServer s)).afterAll past) a := by
  have h := Reachable.new hc
  have first : c.Mirror ∧ c.registry = [] ∧ c.Abreast := by
    obtain ⟨rfl, -, -⟩ := new_eq hc
    exact ⟨⟨nofun, nofun, fun _ => rfl⟩, rfl, fun t ht => nomatch ht⟩
  refine ⟨refused_of_unregistered, fun id hr => ⟨renewed_of_registered hr, ?_⟩⟩
  intro rest allows' once prompt other past a post heq
  subst heq
  -- the definition stands whenever some of what follows the change has happened
  have standing : ∀ part more, past ++ a :: post = part ++ more →
      (((c.afterAll acts).after (.updateServer s)).afterAll part).Standing id s := by
    intro part more heq
    have hrun : acts ++ .updateServer s :: (past ++ a :: post) =
        (acts ++ .updateServer s :: part) ++ more := by
      rw [heq, List.append_assoc, List.cons_append]
    have honce : (c.registry.map (·.1) ++
        (acts ++ .updateServer s :: part).filterMap Act.serverId?).Nodup := by
      rw [first.2.1, List.map_nil, List.nil_append, List.filterMap_append]
      rw [heq, ← List.append_assoc, List.filterMap_append] at once
      rw [List.filterMap_append] at once
      exact (List.nodup_append.1 once).1
    rw [hrun] at allows' prompt
    have hstands := standing_afterAll h first.1 first.2.2 hr ((allows_append ..).1 allows').1 honce
      ((without_append ..).1 prompt).1 fun t ht => other t (heq ▸ List.mem_append_left more ht)
    rwa [afterAll_append, afterAll_cons] at hstands
  have hafter := standing (past ++ [a]) post (by simp)
  rw [afterAll_append] at hafter
  obtain ⟨-, -, hrest⟩ := (allows_append c acts _).1 allows'
  exact (standing past (a :: post) rfl).governs hafter ((allows_append ..).1 hrest).2.1

/-! A run in which a server moves while its resources are fetched -/

def moved : Server := { home with url := "http://[::1]:1", token := "t", autonomy := .passive }

/-- The resources of a server are asked for. -/
def toAsking : List Act :=
  [.addServer home, .start "h", .wake ⟨0, .granted 0 false, [.started 0 0]⟩ .go]

/-- They arrive, the server is polled, and the host answers. -/
def fromAsking (c : Client) : List Act :=
  c.telling (c.telling [] 0 (content catalogText)) 0 (.permitted (.ok ["r"]))

/-- The tasks that wait for the host to permit a poll. -/
def asking (c : Client) : List TaskId :=
  (c.tasks.filter fun t => t.wait matches .permission ..).map (·.id)

theorem mem_asking {c : Client} {t : Task} (ht : t ∈ c.tasks) {id : EntryId} {server : Server}
    (hw : t.wait = .permission id server) : t.id ∈ c.asking :=
  List.mem_map_of_mem (List.mem_filter.2 ⟨ht, by rw [hw]⟩)

theorem not_lingers_of_silence {c : Client} (h : c.asking = []) (a : Act) : ¬ c.Lingers a := by
  rintro ⟨t, ht, ⟨id, server, hw⟩, -⟩
  have hm := mem_asking ht hw
  rw [h] at hm
  cases hm

theorem not_lingers_of_answer {c : Client} (h : c.Sound) {k : TaskId} (hk : c.asking = [k])
    {t : Task} (ht : c.task? k = some t) (answer : Except Error (List String)) :
    ¬ c.Lingers (.wake t (.permitted answer)) := by
  rintro ⟨u, hu, ⟨id, server, hw⟩, hne⟩
  have hm := mem_asking hu hw
  rw [hk] at hm
  have hu' := h.numbered.task?_eq hu
  rw [List.mem_singleton.1 hm, ht] at hu'
  exact hne answer (by rw [Option.some_inj.1 hu'])

theorem without_telling {R : Client → Act → Prop} {c : Client} {acts : List Act} {k : TaskId}
    {s : Signal} (h : c.Without R acts)
    (last : ∀ t, Client.task? (c.afterAll acts) k = some t →
      ¬ R (c.afterAll acts) (.wake t s)) : c.Without R (c.telling acts k s) := by
  rw [telling, without_append]
  refine ⟨h, ?_⟩
  cases ht : (c.afterAll acts).task? k with
  | none => trivial
  | some t => exact ⟨last t ht, trivial⟩

theorem mem_telling {c : Client} {acts : List Act} {k : TaskId} {s : Signal} {a : Act}
    (h : a ∈ c.telling acts k s) : a ∈ acts ∨ ∃ t, a = .wake t s := by
  rcases List.mem_append.1 h with h | h
  · exact .inl h
  · obtain ⟨t, -, rfl⟩ := List.mem_map.1 h
    exact .inr ⟨t, rfl⟩

/-- The request for the resources goes out under the old definition; the poll that follows goes
    where the server has moved, with its new token and its new autonomy. -/
theorem moved_server_polled :
    let c := (blank .standard).afterAll toAsking
    let d := c.after (.updateServer moved)
    c.Renewed moved 0 ∧
    (∀ past a post, d.fromAsking = past ++ a :: post → Governs moved 0 (d.afterAll past) a) ∧
    (d.along polls d.fromAsking).map (fun x => (x.2.url.text, x.2.headers.lookup "authorization")) =
      [("http://[::1]:1/worker/jobs?autonomy=passive&resource%5B%5D=r", some (.text "t"))] := by
  have hnew : Client.new .standard (fun _ => .ok []) .any ⟨0, ⟨0, 0, 0⟩⟩ =
      .ok (blank .standard) := rfl
  have allows : (blank .standard).Allows toAsking := ⟨trivial, trivial, ⟨.head _, trivial⟩, trivial⟩
  obtain ⟨-, registered⟩ := updates_take_effect hnew allows moved
  obtain ⟨renewed, governs⟩ := registered 0 (by decide +kernel)
  have hmoved : Reachable (((blank .standard).afterAll toAsking).after (.updateServer moved)) :=
    ((Reachable.new hnew).afterAll allows).act trivial
  have replied : (((blank .standard).afterAll toAsking).after (.updateServer moved)).Allows
      (telling _ [] 0 (content catalogText)) :=
    allows_telling trivial fun _ _ => ripe_reply ..
  refine ⟨renewed, governs _ ?_ (by decide +kernel) ?_ ?_, by decide +kernel⟩
  · exact (allows_append ..).2
      ⟨allows, trivial, allows_telling replied fun _ _ => ripe_permitted ..⟩
  · have silent : ∀ {c : Client} {a : Act}, c.asking = [] → ¬ c.Lingers a :=
      fun h => not_lingers_of_silence h _
    refine (without_append ..).2 ⟨⟨silent ?_, silent ?_, silent ?_, trivial⟩, silent ?_,
      without_telling (without_telling trivial fun _ _ => silent ?_) fun t ht =>
        not_lingers_of_answer (hmoved.afterAll replied).sound ?_ ht _⟩ <;> decide +kernel
  · intro t ht
    rcases mem_telling ht with ht | ⟨u, hu⟩
    · rcases mem_telling ht with ht | ⟨u, hu⟩
      · cases ht
      · cases hu
    · cases hu

end Client
end Harvest.Sync
