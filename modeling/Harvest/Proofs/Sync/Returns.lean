import Harvest.Proofs.Page.Belonging
import Harvest.Proofs.Sync.Confinement
import Harvest.Proofs.Sync.Passing
import Harvest.Proofs.Sync.Resubmission
/-!
Where the result of a job goes. It does not name the server that issued the job, so it goes to the
first server that has its resource when it is submitted. Everything that its submission does is done
for that server, under what is known of it at the moment.
-/

namespace Harvest

theorem Page.resourceId_scrape (p : Page) (r : Resource) (bindings : Members)
    (source : Job.Source) : (p.scrape r bindings source).resourceId = r.id := by
  unfold Page.scrape
  dsimp only
  split <;> rfl

/-- Whatever the page of a job is, its result is one for the resource of the job. -/
theorem Executor.resourceId_result (job : Job) (page : Except Error String) :
    (Executor.result job page).resourceId = job.resource.id := by
  cases page with
  | error e => rfl
  | ok html =>
    rw [result]
    split
    · rename_i r bindings h
      obtain ⟨rfl, -, -⟩ := Page.covers_of_matched h
      exact Page.resourceId_scrape ..
    · rfl

theorem Coordinator.lookup_headers {userAgent token : String}
    {fields : List (String × Http.Value)}
    (h : Coordinator.headers userAgent token = .ok fields) :
    fields.lookup "authorization" = some (.text token) := by
  unfold headers at h
  cases ht : Http.Value.ofText token with
  | error e =>
    rw [ht] at h
    cases h
  | ok value =>
    rw [ht] at h
    obtain rfl := Except.ok.inj h
    obtain rfl := Http.Value.eq_of_ofText ht
    rfl

/-- What a request says that submits a result. -/
theorem Coordinator.address_of_submitRequest {userAgent : String} {s : Server} {hash : String}
    {result : JobResult} {r : Http.Request}
    (h : Coordinator.submitRequest userAgent s hash result = .ok r) :
    Coordinator.endpoint s.url "/worker/jobs" = .ok r.url ∧
      r.headers.lookup "authorization" = some (.text s.token) := by
  obtain ⟨url, hurl, h⟩ := exists_of_bind h
  obtain ⟨fields, hfields, h⟩ := exists_of_bind h
  obtain ⟨version, -, h⟩ := exists_of_bind h
  obtain rfl := Except.ok.inj h
  refine ⟨hurl, ?_⟩
  rw [List.lookup_append, Coordinator.lookup_headers hfields]
  rfl

namespace Sync

/-- The job that the host is told to run. -/
def Sign.job? : Sign → Option Job
  | .event (.runJob job) => some job
  | _ => none

theorem Sign.eq_of_job? {s : Sign} {job : Job} (h : s.job? = some job) :
    s = .event (.runJob job) := by
  unfold job? at h
  split at h
  · cases h
    rfl
  · cases h

namespace Client

/-- Whether a resource is among those known of an entry. -/
def Holds (c : Client) (resourceId : String) (id : EntryId) : Prop :=
  ∃ e r, c.entry? id = some e ∧ e.resource? resourceId = some r

/-- Whether a request posts a result to the server of an entry, with its address, its token and the
    version of the resource that is known of it. -/
def Addressed (c : Client) (id : EntryId) (result : JobResult) (r : Http.Request) : Prop :=
  ∃ e resource, c.entry? id = some e ∧ e.resource? result.resourceId = some resource ∧
    r.method = .post ∧ Coordinator.endpoint e.server.url "/worker/jobs" = .ok r.url ∧
    r.body = some result.toJson ∧
    r.headers.lookup "authorization" = some (.text e.server.token) ∧
    r.headers.lookup "if-match" = some (.text resource.hash)

theorem Submittable.addressed {c : Client} {id : EntryId} {result : JobResult} {r : Http.Request}
    (h : c.Submittable id result r) : c.Addressed id result r := by
  obtain ⟨e, resource, he, -, hr, hreq, hmethod, hbody, hhash⟩ := h
  obtain ⟨hurl, htoken⟩ := Coordinator.address_of_submitRequest hreq
  exact ⟨e, resource, he, hr, hmethod, hurl, hbody, htoken, hhash⟩

/-- What an act of a submission does, if it does it for one server. -/
structure KeepsTo (id : EntryId) (result : JobResult) (p : Client × Act) : Prop where
  posts : ∀ x ∈ posts p, x.1 = id ∧ (p.1.after p.2).Addressed id result x.2
  requests : ∀ s ∈ p.1.shown p.2, s.2.Serves id
  others : ∀ j, j ≠ id → Client.entry? (p.1.after p.2) j = Client.entry? p.1 j

/-- What an act does that sends nothing and changes nothing that is known of servers. -/
structure Idles (p : Client × Act) : Prop where
  requests : ∀ s ∈ p.1.shown p.2, ∀ purpose r, s.2 ≠ .sent purpose r
  entries : ∀ j, Client.entry? (p.1.after p.2) j = Client.entry? p.1 j

section

variable {s : Settings} {k : TaskId} {id : EntryId} {result : JobResult}
  {own : List (Client × Act)} {c d : Client} {a : Act}

theorem Submission.addressed (h : Submission s k id result own d) :
    ∀ p ∈ own, ∀ x ∈ posts p, x.1 = id ∧ (p.1.after p.2).Addressed id result x.2 := by
  intro p hp x hx
  obtain ⟨past, rest, heq⟩ := List.append_of_mem hp
  have deed := h.deeds past p rest heq
  by_cases ha : past = [] ∨ Unasked k id p ∨ Fetched k id p
  · rcases deed.attempt ha with ⟨r, hr, hsub⟩ | ⟨hr, -⟩
    · rw [hr] at hx
      obtain rfl := List.mem_singleton.1 hx
      exact ⟨rfl, hsub.addressed⟩
    · rw [hr] at hx
      cases hx
  · obtain ⟨hpast, hu, hf⟩ : past ≠ [] ∧ ¬ Unasked k id p ∧ ¬ Fetched k id p := by
      simpa [not_or] using ha
    rw [deed.silent hpast hu hf] at hx
    cases hx

theorem serves_shown (h : Reveals (Sign.Serves id) c (c.after a)) :
    ∀ s ∈ c.shown a, s.2.Serves id := by
  obtain ⟨new, hnew, hs⟩ := h.signs
  rw [shown_of_signs hnew]
  exact hs

/-- A task that goes on with a submission does it for the server that it submits to. -/
theorem Live.keeps (hc : c.Sound) (live : Live k id result own c) (permits : c.Permits a)
    (ha : c.isTurn k a = true) :
    (∀ s ∈ c.shown a, s.2.Serves id) ∧ ∀ j, j ≠ id → Client.entry? (c.after a) j = c.entry? j := by
  have about : ∀ {t : Task} {s : Signal}, t.wait.entry? = some id →
      (∀ n ∈ c.doneBy (.wake t s), n.entry? = some id) →
      (∀ x ∈ c.shown (.wake t s), x.2.Serves id) ∧
        ∀ j, j ≠ id → Client.entry? (c.after (.wake t s)) j = c.entry? j := by
    intro t s hw hd
    refine ⟨serves_shown (serves_wake hw hd), fun j hj => ?_⟩
    have hne : some id ≠ some j := fun he => hj (Option.some_inj.1 he).symm
    exact (leaves_wake (hw ▸ hne) fun n hn => hd n hn ▸ hne).entry
  obtain ⟨-, -, -, -, hstage⟩ := live
  cases hstage with
  | posted _ hs =>
    obtain ⟨reply, rfl, -⟩ := turn_of_submission hc.numbered permits ha hs
    refine about rfl fun n hn => ?_
    cases occasion_of_doneBy hn with
    | planned hm => cases hm
    | arises hm => cases hm <;> rfl
  | refreshing _ _ _ hs =>
    obtain ⟨rfl, -⟩ := turn_of_granted hc.numbered permits ha hs
    refine about rfl fun n hn => ?_
    cases occasion_of_doneBy hn with
    | planned hm =>
      obtain rfl := List.mem_singleton.1 hm
      rfl
    | arises hm => cases hm
  | fetching _ _ _ _ hs =>
    obtain ⟨reply, rfl, -⟩ := turn_of_resources hc.numbered permits ha hs
    refine about rfl fun n hn => ?_
    cases occasion_of_doneBy hn with
    | planned hm =>
      obtain rfl := List.mem_singleton.1 hm
      rfl
    | arises hm => cases hm

/-- The first act of a submission does it for the server that it submits to. -/
theorem Submits.keeps (hc : Reachable c) (permits : c.Permits a) (submits : c.Submits a k result)
    (howner : c.owner? result.resourceId = some id) :
    (∀ s ∈ c.shown a, s.2.Serves id) ∧ ∀ j, Client.entry? (c.after a) j = c.entry? j := by
  obtain ⟨d, hafter, ready, -⟩ := submits.run hc permits
  have hd : d.owner? result.resourceId = some id := (ready.owner? _).trans howner
  have hserves : Reveals (Sign.Serves id) c d := (Reveals.refl c).congr ready.queue ready.signs
  refine ⟨serves_shown ?_, fun j => ?_⟩
  · rw [hafter, run_submit hd]
    refine serves_run hserves fun n hn => ?_
    obtain rfl := List.mem_singleton.1 (mem_of_mem_doing hn)
    rfl
  · have hrun : Leaves j d (c.after a) := by
      rw [hafter]
      refine leaves_run fun n hn => ?_
      obtain rfl := List.mem_singleton.1 (mem_of_mem_doing hn)
      nofun
    exact hrun.entry.trans (by rw [Client.entry?, ready.entries, entry?])

/-- Without a server that has the resource, nothing is sent. -/
theorem Submits.idles (hc : Reachable c) (permits : c.Permits a) (submits : c.Submits a k result)
    (howner : c.owner? result.resourceId = none) : Idles (c, a) := by
  obtain ⟨d, hafter, ready, -⟩ := submits.run hc permits
  have hd : d.owner? result.resourceId = none := (ready.owner? _).trans howner
  have hlog : c.after a = d.log (.unknownSubmission result.resourceId) :=
    hafter.trans (run_submit_of_none hd)
  have hshown : c.shown a = [(d.now.clock, .notice (.unknownSubmission result.resourceId))] :=
    shown_of_signs (by rw [hlog, log, reveal, ready.signs])
  refine ⟨fun s hs purpose r => ?_, fun j => ?_⟩
  · rw [hshown] at hs
    obtain rfl := List.mem_singleton.1 hs
    exact fun h => by cases h
  · change Client.entry? (c.after a) j = c.entry? j
    rw [hlog, entry?, entry?, ← ready.entries]
    rfl

/-- All turns of a submission do it for the server that it submits to. -/
theorem keeps_turns (hc : Reachable c) {acts : List Act} (allows : c.Allows acts)
    (hk : k < c.taskCount) (h : Submission c.settings k id result own c)
    (hstage : c.Over k ∨ Live k id result own c) :
    ∀ p ∈ c.turns k acts, (∀ s ∈ p.1.shown p.2, s.2.Serves id) ∧
      ∀ j, j ≠ id → Client.entry? (p.1.after p.2) j = Client.entry? p.1 j := by
  -- a submission that is not over stands at one of its stages before each of its turns
  induction acts generalizing c own with
  | nil => exact fun p hp => nomatch hp
  | cons a acts ih =>
    have settings := settings_after hc.sound allows.1
    rw [turns]
    cases ha : c.isTurn k a with
    | true =>
      have hlive : Live k id result own c := hstage.resolve_left (not_over_of_isTurn allows.1 ha)
      obtain ⟨hnext, hnextStage⟩ := hlive.turn hc.sound h allows.1 ha
      have hcount : c.taskCount ≤ (c.after a).taskCount := by
        cases a with
        | wake t s => exact taskCount_wake hc.sound allows.1.1 s
        | _ => cases ha
      have hrest := ih (hc.act allows.1) allows.2 (Nat.lt_of_lt_of_le hk hcount)
        (settings ▸ hnext) hnextStage
      intro p hp
      rcases List.mem_append.1 hp with hp | hp
      · obtain rfl := List.mem_singleton.1 hp
        exact hlive.keeps hc.sound allows.1 ha
      · exact hrest p hp
    | false =>
      have hs := spares_after hc.sound allows.1 hk ha
      exact ih (hc.act allows.1) allows.2 (Nat.lt_of_lt_of_le hk hs.count)
        (settings ▸ h.mono hs.over) (hstage.imp hs.over fun hl => hl.spares hs settings)

/-- Every act of a submission does it for the server that it submits to. -/
theorem keepsTo_submission (hc : Reachable c) {acts : List Act} (allows : c.Allows (a :: acts))
    (submits : c.Submits a k result) (howner : c.owner? result.resourceId = some id) :
    ∀ p ∈ (c, a) :: (c.after a).turns k acts, KeepsTo id result p := by
  have hnext := hc.act allows.1
  obtain ⟨hk, h, hstage⟩ := submission_begins hc allows.1 submits howner
  rw [← settings_after hc.sound allows.1] at h
  have hcourse := submission_afterAll hnext allows.2 hk h hstage
  obtain ⟨hserves, hentries⟩ := submits.keeps hc allows.1 howner
  intro p hp
  refine ⟨hcourse.addressed p hp, ?_, ?_⟩
  · rcases List.mem_cons.1 hp with rfl | hp
    · exact hserves
    · exact (keeps_turns hnext allows.2 hk h hstage p hp).1
  · rcases List.mem_cons.1 hp with rfl | hp
    · exact fun j _ => hentries j
    · exact (keeps_turns hnext allows.2 hk h hstage p hp).2

end

theorem holds_iff {c : Client} {resourceId : String} {id : EntryId} :
    ((c.entry? id).bind fun e => e.resource? resourceId).isSome ↔ c.Holds resourceId id := by
  rw [Option.isSome_iff_exists, Holds]
  constructor
  · rintro ⟨r, hr⟩
    obtain ⟨e, he, hr⟩ := Option.bind_eq_some_iff.1 hr
    exact ⟨e, r, he, hr⟩
  · rintro ⟨e, r, he, hr⟩
    exact ⟨r, Option.bind_eq_some_iff.2 ⟨e, he, hr⟩⟩

/-- The first server that has a resource is one that has it, while none before it does. -/
theorem owner?_eq_some_iff {c : Client} (h : c.Distinct) {resourceId : String} {id : EntryId}
    {before behind : List EntryId} (hids : c.registry.map (·.2) = before ++ id :: behind) :
    c.owner? resourceId = some id ↔
      c.Holds resourceId id ∧ ∀ j ∈ before, ¬ c.Holds resourceId j := by
  have hnodup := h.entries
  rw [hids] at hnodup
  have absent : id ∉ before := fun hm =>
    (List.nodup_append.1 hnodup).2.2 id hm id List.mem_cons_self rfl
  rw [owner?, hids, List.find?_append, ← holds_iff]
  constructor
  · intro hfind
    have hbefore : before.find? (fun id =>
        ((c.entry? id).bind fun e => e.resource? resourceId).isSome) = none := by
      cases hb : before.find? _ with
      | none => rfl
      | some j =>
        rw [hb] at hfind
        obtain rfl := Option.some_inj.1 hfind
        exact absurd (List.mem_of_find?_eq_some hb) absent
    rw [hbefore, Option.none_or] at hfind
    have hid := List.find?_some hfind
    refine ⟨hid, fun j hj hh => ?_⟩
    exact List.find?_eq_none.1 hbefore j hj (holds_iff.2 hh)
  · rintro ⟨hid, hbefore⟩
    have hnone : before.find? (fun id =>
        ((c.entry? id).bind fun e => e.resource? resourceId).isSome) = none :=
      List.find?_eq_none.2 fun j hj hh => hbefore j hj (holds_iff.1 hh)
    rw [hnone, Option.none_or, List.find?_cons, hid]

/-- Where the result of a job goes, of a job that was in the queue. -/
structure Returned (c : Client) (a : Act) (rest : List Act) (k : TaskId) (q : Queued) (job : Job)
    (result : JobResult) : Prop where
  /-- It goes to the first server that has the resource, and to no other. -/
  owner : ∀ id, c.owner? job.resource.id = some id →
    ∀ p ∈ (c, a) :: (c.after a).turns k rest, KeepsTo id result p
  unknown : c.owner? job.resource.id = none →
    ∀ p ∈ (c, a) :: (c.after a).turns k rest, Idles p
  /-- When this is the server that issued the job. -/
  issuer : ∀ id before behind, c.registered? q.serverId = some id →
    c.registry.map (·.2) = before ++ id :: behind →
    (c.owner? job.resource.id = some id ↔
      c.Holds job.resource.id id ∧ ∀ j ∈ before, ¬ c.Holds job.resource.id j)

/-- The result of a job that ran because a server had issued it goes to the first server that has
    its resource when it is submitted: this one gets all POSTs, with its token and with the version
    of the resource that is known of it, and all that comes of them is done for this server. It is
    the one that issued the job if this one still has the resource and none before it does. -/
theorem results_returned {settings : Settings} {allowed : Server → Except Error (List String)}
    {protection : Fetch.Protection} {now : Moment} {c : Client}
    (hc : Client.new settings allowed protection now = .ok c) {acts more rest : List Act}
    {a b : Act} (allows : c.Allows (acts ++ a :: (more ++ b :: rest))) {clock : Nat} {job : Job}
    (run : (clock, .event (.runJob job)) ∈ (c.afterAll acts).shown a) {k : TaskId}
    {page : Except Error String}
    (submits : (c.afterAll (acts ++ a :: more)).Submits b k (Executor.result job page)) :
    ∃ q, c.AnsweredIn q (acts ++ [a]) ∧ ((c.afterAll acts).after a).Qualifies q job ∧
      Returned (c.afterAll (acts ++ a :: more)) b rest k q job (Executor.result job page) := by
  have h := Reachable.new hc
  obtain ⟨hacts, ha, -⟩ := (allows_append c acts _).1 allows
  obtain ⟨q, hq, hqual⟩ : ∃ q, c.AnsweredIn q (acts ++ [a]) ∧
      ((c.afterAll acts).after a).Qualifies q job := by
    obtain ⟨rfl, -, -⟩ := new_eq hc
    obtain ⟨stocked, pending⟩ := stocked_afterAll (.new hc) hacts
      (G := fun q => AnsweredIn _ q (acts ++ [a])) (fun t ht => nomatch ht)
      (fun q hq => nomatch hq) fun q hq => answeredIn_append.2 (.inl hq)
    exact qualifies_of_shown (h.afterAll hacts).sound ha stocked pending
      (fun q hq => answeredIn_append.2 (.inr (.inl hq))) run
  refine ⟨q, hq, hqual, ?_⟩
  have hsplit : acts ++ a :: (more ++ b :: rest) = (acts ++ a :: more) ++ b :: rest := by simp
  rw [hsplit] at allows
  obtain ⟨hmore, hb⟩ := (allows_append c (acts ++ a :: more) _).1 allows
  have hd : Reachable (c.afterAll (acts ++ a :: more)) := h.afterAll hmore
  generalize c.afterAll (acts ++ a :: more) = d at submits hb hd
  have hresource : (Executor.result job page).resourceId = job.resource.id :=
    Executor.resourceId_result job page
  refine ⟨fun id howner => ?_, fun howner => ?_, fun id before behind _ hids => ?_⟩
  · exact keepsTo_submission hd hb submits (hresource ▸ howner)
  · have howner : d.owner? (Executor.result job page).resourceId = none := hresource ▸ howner
    obtain ⟨hk, -, hover, -⟩ := submission_unknown hd hb.1 submits howner
    rw [(turns_of_over (hd.act hb.1) hb.2 hk hover).1]
    intro p hp
    obtain rfl := List.mem_singleton.1 hp
    exact submits.idles hd hb.1 howner
  · exact owner?_eq_some_iff hd.distinct hids

/-- The result of a job whose page cannot be fetched. -/
def unfetched (job : Job) : JobResult := Executor.result job (.error (.network "refused"))

/-- The result of the first job goes to the only server. -/
theorem first_result_returned : ∃ job q,
    (blank .standard).AnsweredIn q (toJob ++ [.startAll]) ∧
    (((blank .standard).afterAll toJob).after .startAll).Qualifies q job ∧
    Returned ((blank .standard).afterAll (toJob ++ [.startAll])) (.submit (unfetched job)) []
      ((blank .standard).afterAll (toJob ++ [.startAll])).taskCount q job (unfetched job) := by
  have hnew : Client.new .standard (fun _ => .ok []) .any ⟨0, ⟨0, 0, 0⟩⟩ =
      .ok (blank .standard) := rfl
  have hruns : (((blank .standard).afterAll toJob).shown .startAll).any (·.2.runsJob) = true := by
    decide +kernel
  obtain ⟨⟨clock, s⟩, hs, hrun⟩ := List.any_eq_true.1 hruns
  obtain ⟨job, rfl⟩ := Sign.exists_of_runsJob hrun
  have allows : (blank .standard).Allows
      (toJob ++ .startAll :: ([] ++ [.submit (unfetched job)])) :=
    (allows_append ..).2 ⟨allows_toJob, trivial, trivial, trivial⟩
  obtain ⟨q, hq, hqual, hreturned⟩ := results_returned hnew allows hs .host
  exact ⟨job, q, hq, hqual, hreturned⟩

/-! A run in which two servers publish resources of the same name -/

def away : Server := ⟨"a", "Away", "http://[::1]:1", "t", .active⟩

def awayText : String :=
  "\x7b\"name\":\"\",\"resources\":[\x7b\"id\":\"r\",\"hostname\":\"[::1]\"," ++
    "\"url_pattern\":\"/\",\"hash\":\"w\"\x7d]\x7d"

/-- Both servers are started, and have the right to refresh. -/
def toAsked : List Act :=
  [.addServer away, .addServer home, .start "a", .start "h",
    .wake ⟨0, .granted 0 false, [.started 0 0]⟩ .go,
    .wake ⟨1, .granted 1 false, [.started 1 1]⟩ .go]

/-- The resources of both have arrived, and a job of the second waits in the queue. -/
def toShared : List Act :=
  let c := blank .standard
  c.telling (c.telling (c.telling (c.telling toAsked 0 (content awayText))
    1 (content catalogText)) 1 (.permitted (.ok ["r"]))) 1 (content jobsText)

theorem allows_toShared : (blank .standard).Allows toShared := by
  have asked : (blank .standard).Allows toAsked :=
    ⟨trivial, trivial, trivial, trivial, ⟨.head _, trivial⟩, ⟨.head _, trivial⟩, trivial⟩
  exact allows_telling (allows_telling (allows_telling
    (allows_telling asked fun _ _ => ripe_reply ..) fun _ _ => ripe_reply ..)
      fun _ _ => ripe_permitted ..) fun _ _ => ripe_reply ..

/-- What tells where a result was posted: the entry, the token and the version. -/
def labels (p : Client × Act) : List (EntryId × Option Http.Value × Option Http.Value) :=
  (posts p).map fun x =>
    (x.1, x.2.headers.lookup "authorization", x.2.headers.lookup "if-match")

/-- The job was issued by the second server, but its result goes to the first one, with the token
    and the version of this one. -/
theorem result_posted_elsewhere : ∃ clock job q,
    (blank .standard).Allows (toShared ++ [.startAll, .submit (unfetched job)]) ∧
    (clock, .event (.runJob job)) ∈ ((blank .standard).afterAll toShared).shown .startAll ∧
    (blank .standard).AnsweredIn q toShared ∧ q.serverId = home.id ∧
    (((blank .standard).afterAll toShared).after .startAll).Qualifies q job ∧
    ((blank .standard).afterAll (toShared ++ [.startAll])).registered? home.id = some 1 ∧
    labels ((blank .standard).afterAll (toShared ++ [.startAll]), .submit (unfetched job)) =
      [(0, some (.text away.token), some (.text "w"))] := by
  have hnew : Client.new .standard (fun _ => .ok []) .any ⟨0, ⟨0, 0, 0⟩⟩ =
      .ok (blank .standard) := rfl
  obtain ⟨-, pending⟩ := stocked_afterAll (.new hnew) allows_toShared
    (G := fun q => (blank .standard).AnsweredIn q toShared) (fun t ht => nomatch ht)
    (fun q hq => nomatch hq) fun q hq => hq
  obtain ⟨issued, planned, posted, registered⟩ :
      ((blank .standard).afterAll toShared).queue.pending.all (·.serverId = home.id) = true ∧
      (((blank .standard).afterAll toShared).tasks.flatMap
        fun t => t.next.flatMap Next.queued) = [] ∧
      (((blank .standard).afterAll toShared).shown .startAll).any (fun s =>
        s.2.job?.any fun job =>
          labels ((blank .standard).afterAll (toShared ++ [.startAll]), .submit (unfetched job)) =
            [(0, some (.text away.token), some (.text "w"))]) = true ∧
      ((blank .standard).afterAll (toShared ++ [.startAll])).registered? home.id = some 1 := by
    decide +kernel
  obtain ⟨⟨clock, s⟩, hs, hposted⟩ := List.any_eq_true.1 posted
  obtain ⟨job, hjob, hlabels⟩ := (Option.any_eq_true ..).1 hposted
  obtain rfl := Sign.eq_of_job? hjob
  have starts : ((blank .standard).afterAll toShared).Permits .startAll := trivial
  obtain ⟨q, ⟨hq, hserver⟩, hqual⟩ := qualifies_of_shown
    (G := fun q => (blank .standard).AnsweredIn q toShared ∧ q.serverId = home.id)
    ((Reachable.new hnew).afterAll allows_toShared).sound starts
    (fun t ht serverId jobs hnext p hp => by
      have hm : (⟨serverId, p⟩ : Queued) ∈ ((blank .standard).afterAll toShared).tasks.flatMap
          fun t => t.next.flatMap Next.queued :=
        List.mem_flatMap.2 ⟨t, ht, List.mem_flatMap.2 ⟨_, hnext, List.mem_map_of_mem hp⟩⟩
      rw [planned] at hm
      cases hm)
    (fun q hq => ⟨pending q hq, of_decide_eq_true (List.all_eq_true.1 issued q hq)⟩)
    (fun q hq => by cases hq) hs
  exact ⟨clock, job, q, (allows_append ..).2 ⟨allows_toShared, starts, trivial, trivial⟩, hs, hq,
    hserver, hqual, registered, of_decide_eq_true hlabels⟩

end Client
end Sync
end Harvest
