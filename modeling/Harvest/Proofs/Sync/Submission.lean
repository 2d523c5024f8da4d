import Harvest.Proofs.Sync.Calls
import Harvest.Proofs.Sync.Signs
/-!
The turns of a task that submits a result. It posts the result, and as long as the answer is that
the resource has changed, it refreshes the resources and posts the result again.
-/

namespace Harvest

/-- Whether a reply says that the resource has changed. -/
def Http.isRefusal : Http.Reply → Bool
  | .ok response => response.status = 412
  | .error _ => false

theorem Coordinator.submission_eq_iff (timeout : Nat) (reply : Http.Reply) :
    Coordinator.submission timeout reply = .ok .preconditionFailed ↔
      Http.isRefusal reply = true := by
  cases reply with
  | error failure => simp [submission, Http.isRefusal]
  | ok response =>
    by_cases h : response.status = 412
    · simp [submission, Http.isRefusal, h]
    · by_cases hs : response.isSuccess
      · simp [submission, Http.isRefusal, h, hs]
      · cases hb : response.body <;> simp [submission, Http.isRefusal, h, hs, hb]

theorem exists_of_bind {ε α β : Type} {x : Except ε α} {f : α → Except ε β} {b : β}
    (h : x.bind f = .ok b) : ∃ a, x = .ok a ∧ f a = .ok b := by
  cases x with
  | error e => cases h
  | ok a => exact ⟨a, rfl, h⟩

theorem Http.Value.eq_of_ofText {text : String} {v : Http.Value}
    (h : Http.Value.ofText text = .ok v) : v = .text text := by
  unfold ofText at h
  split at h
  · exact (Except.ok.inj h).symm
  · cases h

theorem Coordinator.of_submitRequest {userAgent : String} {s : Server} {hash : String}
    {result : JobResult} {r : Http.Request}
    (h : Coordinator.submitRequest userAgent s hash result = .ok r) :
    r.method = .post ∧ r.body = some result.toJson ∧
      r.headers.lookup "if-match" = some (.text hash) := by
  obtain ⟨url, -, h⟩ := exists_of_bind h
  obtain ⟨fields, hfields, h⟩ := exists_of_bind h
  obtain ⟨version, hversion, h⟩ := exists_of_bind h
  obtain rfl := Except.ok.inj h
  obtain rfl := Http.Value.eq_of_ofText hversion
  refine ⟨rfl, rfl, ?_⟩
  unfold headers at hfields
  cases ht : Http.Value.ofText s.token with
  | error e =>
    rw [ht] at hfields
    cases hfields
  | ok token =>
    rw [ht] at hfields
    obtain rfl := Except.ok.inj hfields
    rfl

namespace Sync

/-- The entry and the request of a result that is posted. -/
def Sign.post? : Sign → Option (EntryId × Http.Request)
  | .sent (.submission id) r => some (id, r)
  | _ => none

theorem Sign.Plain.post? {s : Sign} (h : s.Plain) : s.post? = none := by
  unfold Sign.post?
  split
  · exact h.elim
  · rfl

namespace Client

def posts (p : Client × Act) : List (EntryId × Http.Request) :=
  (p.1.shown p.2).filterMap fun s => s.2.post?

/-- Whether a request submits a result as things stand: its server is not paused and has the
    resource, and the result is submitted under the version that is known of it. -/
def Submittable (c : Client) (id : EntryId) (result : JobResult) (r : Http.Request) : Prop :=
  ∃ e resource, c.entry? id = some e ∧ e.status ≠ .paused ∧
    e.resource? result.resourceId = some resource ∧
    Coordinator.submitRequest c.settings.userAgent e.server resource.hash result = .ok r ∧
    r.method = .post ∧ r.body = some result.toJson ∧
    r.headers.lookup "if-match" = some (.text resource.hash)

/-- Whether a result cannot be submitted as things stand: its server is paused, or has lost the
    resource, or there is no such request. -/
def Barred (c : Client) (id : EntryId) (result : JobResult) : Prop :=
  ∃ e, c.entry? id = some e ∧ (e.status = .paused ∨ e.resource? result.resourceId = none ∨
    ∃ resource fault, e.resource? result.resourceId = some resource ∧
      Coordinator.submitRequest c.settings.userAgent e.server resource.hash result = .error fault)

/-- What an attempt comes to. -/
inductive Tried (c d : Client) (k : TaskId) (x : Delivery) : Prop
  | posted {server : Server} {hash : String} {r : Http.Request} {new : List (Nat × Sign)} :
      d.Stands ⟨k, .submission x server hash r, []⟩ → d.Submittable x.entry x.result r →
      d.signs = c.signs ++ new → (new.filterMap fun s => s.2.post?) = [(x.entry, r)] →
      Tried c d k x
  | ended {new : List (Nat × Sign)} : d.Over k → d.Barred x.entry x.result →
      d.signs = c.signs ++ new → (new.filterMap fun s => s.2.post?) = [] → Tried c d k x

section

variable {c d : Client} {k : TaskId} {x : Delivery}

theorem Reveals.filterMap_post? (h : Reveals (fun s => s.post? = none) c d) :
    ∃ new, d.signs = c.signs ++ new ∧ (new.filterMap fun s => s.2.post?) = [] := by
  obtain ⟨new, hnew, hs⟩ := h.signs
  exact ⟨new, hnew, List.filterMap_eq_nil_iff.2 hs⟩

theorem Reveals.posts_eq_nil {a : Act} (h : Reveals (fun s => s.post? = none) c (c.after a)) :
    posts (c, a) = [] := by
  obtain ⟨new, hnew, hs⟩ := h.filterMap_post?
  rw [posts, shown_of_signs hnew]
  exact hs

theorem tried_attempt (h : Reveals (fun s => s.post? = none) c d) (hover : d.Over k) {e : Entry}
    (he : d.entry? x.entry = some e) : Tried c (run k [.attempt x] d) k x := by
  have hlog : ∀ n, d.Barred x.entry x.result → Tried c (d.log n) k x := by
    intro n hb
    obtain ⟨new, hnew, hs⟩ := (h.reveal (s := .notice n) rfl).filterMap_post?
    exact .ended hover hb hnew hs
  simp only [run, perform, attempt, he]
  split <;> rename_i heq <;> split at heq
  · rename_i hp
    cases heq
    exact hlog _ ⟨e, he, .inl hp⟩
  · rename_i hp
    split at heq
    · rename_i hr
      cases heq
      exact hlog _ ⟨e, he, .inr (.inl hr)⟩
    · rename_i r hr
      split at heq
      · rename_i fault hf
        cases heq
        exact hlog _ ⟨e, he, .inr (.inr ⟨r, fault, hr, hf⟩)⟩
      · cases heq
  · cases heq
  · rename_i hp
    split at heq
    · cases heq
    · rename_i r hr
      split at heq
      · cases heq
      · rename_i request hreq
        cases heq
        obtain ⟨new, hnew, hs⟩ := h.filterMap_post?
        have hsigns : (d.send (.submission x.entry) request).signs =
            c.signs ++ (new ++ [(d.now.clock, .sent (.submission x.entry) request)]) := by
          rw [send, reveal, hnew, List.append_assoc]
        refine .posted (List.mem_map_of_mem (f := Task.asGranted)
          (List.mem_append_right _ (List.mem_singleton_self _)))
          ⟨e, r, he, hp, hr, hreq, Coordinator.of_submitRequest hreq⟩ hsigns ?_
        rw [List.filterMap_append, hs]
        rfl

end

/-! Accounts -/

theorem account?_wake {c : Client} (h : c.Sound) {t : Task} (ht : t ∈ c.tasks) {s : Signal}
    {a : Client × Course} (heq : (c.dropTask t.id).heed t s = some a)
    (hn : ∀ id, .start id ∉ a.2.plan) (id : EntryId) :
    (c.wake t s).account? id = a.1.account? id := by
  have hs := (h.resume ht).heed heq
  rw [wake, heq]
  obtain ⟨d, course⟩ := a
  cases course with
  | goesOn next => exact account?_run hs fun hm => hn id (mem_of_mem_doing hm)
  | waits w next => rfl
  | ends => rfl

/-- What becomes of accounts when a task that starts no server is told something. -/
theorem accounts_wake {c : Client} (h : c.Sound) {t : Task} (ht : t ∈ c.tasks) {s : Signal}
    {a : Client × Course} (heq : (c.dropTask t.id).heed t s = some a)
    (hn : ∀ id, .start id ∉ a.2.plan) (id : EntryId) :
    (c.fault? t s ≠ some id → (c.wake t s).account? id = c.account? id) ∧
    (c.fault? t s = some id → c.Pauses t id → (c.wake t s).account? id =
      (c.account? id).map fun y => y.failed.retimed (some (.resume, c.issued.length))) := by
  have hdrop : (c.dropTask t.id).Sound := (h.resume ht).of_suspend
  obtain ⟨hsame, -, hpause⟩ := (told_of_heed hdrop.numbered hdrop.registered heq).account id
  rw [account?_wake h ht heq hn]
  exact ⟨hsame, hpause⟩

/-! The turns -/

section

variable {c : Client} {k : TaskId} {x : Delivery} {server : Server} {hash : String}
  {r : Http.Request} {reply : Http.Reply}

theorem after_of_heed {w : Wait} {next : List Next} {s : Signal} {b : Client × Course}
    (h : (c.dropTask k).heed ⟨k, w, next⟩ s = some b) :
    c.after (.wake ⟨k, w, next⟩ s) = b.1.follow k b.2 := by
  rw [after, wake, h]

theorem delivered_of_not_refusal (c : Client) (x : Delivery) (server : Server) (hash : String)
    (h : Http.isRefusal reply = false) : ∃ n, ∀ next,
      c.delivered x server hash (Coordinator.submission c.settings.requestTimeout reply) next =
        (c.log n, .goesOn next) := by
  have hne : Coordinator.submission c.settings.requestTimeout reply ≠ .ok .preconditionFailed :=
    fun he => Bool.false_ne_true (h.symm.trans ((Coordinator.submission_eq_iff ..).1 he))
  unfold delivered
  dsimp only
  split <;> rename_i heq
  · exact ⟨_, fun _ => rfl⟩
  · exact ⟨_, fun _ => rfl⟩
  · exact ⟨_, fun _ => rfl⟩
  · exact absurd heq hne

theorem reveals_dropTask (c : Client) (k : TaskId) :
    Reveals (fun s => s.post? = none) c (c.dropTask k) :=
  (Reveals.refl c).congr rfl rfl

/-- An answer that does not say that the resource has changed ends a submission. -/
theorem answered_turn {a : Act}
    (ha : a = .wake ⟨k, .submission x server hash r, []⟩ (.reply reply))
    (h : Http.isRefusal reply = false) :
    posts (c, a) = [] ∧ (c.after a).Over k ∧ ∀ id, (c.after a).account? id = c.account? id := by
  obtain ⟨n, hn⟩ := (c.dropTask k).delivered_of_not_refusal x server hash h
  have hheed : (c.dropTask k).heed ⟨k, .submission x server hash r, []⟩ (.reply reply) =
      some ((c.dropTask k).log n, .goesOn []) := congrArg some (hn [])
  have hafter : c.after a = (c.dropTask k).log n := by
    subst ha
    exact after_of_heed hheed
  refine ⟨Reveals.posts_eq_nil ?_, ?_, fun id => ?_⟩ <;> rw [hafter]
  · exact (reveals_dropTask c k).reveal rfl
  · exact over_dropTask c k
  · rfl

theorem heed_of_refusal (c : Client) (k : TaskId) (x : Delivery) (server : Server) (hash : String)
    (r : Http.Request) (next : List Next) (h : Http.isRefusal reply = true) :
    c.heed ⟨k, .submission x server hash r, next⟩ (.reply reply) =
      some (c.delivered x server hash (.ok .preconditionFailed) next) := by
  simp only [heed]
  rw [(Coordinator.submission_eq_iff ..).2 h]

/-- The resource has changed, and the result may be submitted once more. -/
theorem refused_turn (hc : c.Sound) (ht : ⟨k, .submission x server hash r, []⟩ ∈ c.tasks) {a : Act}
    (ha : a = .wake ⟨k, .submission x server hash r, []⟩ (.reply reply))
    (h : Http.isRefusal reply = true) (hn : x.attempt < c.settings.attempts) :
    posts (c, a) = [] ∧ (∀ id, (c.after a).account? id = c.account? id) ∧
      (c.after a).Stands
        ⟨k, .granted x.entry true, [.attempt { x with attempt := x.attempt + 1 }]⟩ := by
  have hs := (Coordinator.submission_eq_iff c.settings.requestTimeout reply).2 h
  have hid : x.entry < (c.dropTask k).entries.length :=
    (hc.resume ht).known_of_suspend (by simp [Task.entries, Wait.entry?])
  obtain ⟨e, he⟩ := exists_entry? hid
  generalize hd : (c.dropTask k).log
    (.resubmitting x.result.resourceId hash x.attempt) = d
  have hheed : (c.dropTask k).heed ⟨k, .submission x server hash r, []⟩ (.reply reply) =
      some (d, .goesOn
        [.refresh x.entry true, .attempt { x with attempt := x.attempt + 1 }]) := by
    subst hd
    rw [heed_of_refusal (h := h)]
    exact congrArg some (if_pos hn)
  have hde : d.entry? x.entry = some e := hd ▸ he
  obtain ⟨w, hw, hg⟩ := acquire_waits hde k true
  have hafter : c.after a = (d.acquire k x.entry true).1.suspend k w
      [.attempt { x with attempt := x.attempt + 1 }] := by
    subst ha
    refine (after_of_heed hheed).trans ?_
    simp only [follow, run, perform]
    generalize d.acquire k x.entry true = b at hw
    obtain ⟨b, p⟩ := b
    obtain rfl : p = _ := hw
    rfl
  have hr : Reveals (fun s => s.post? = none) c d :=
    hd ▸ (reveals_dropTask c k).reveal rfl
  refine ⟨Reveals.posts_eq_nil ?_, fun id => ?_, ?_⟩
  · rw [hafter]
    exact (hr.acquire k x.entry true).congr rfl rfl
  · subst ha
    refine (accounts_wake hc ht hheed (by simp [Course.plan]) id).1 ?_
    simp [fault?, hs, hn]
  · rw [hafter]
    refine List.mem_map.2 ⟨⟨k, w, _⟩, List.mem_append_right _ (List.mem_singleton_self _), ?_⟩
    simp only [Task.asGranted, hg]

theorem exhausted_turn (hc : c.Sound) (ht : ⟨k, .submission x server hash r, []⟩ ∈ c.tasks)
    {a : Act} (ha : a = .wake ⟨k, .submission x server hash r, []⟩ (.reply reply))
    (h : Http.isRefusal reply = true) (hn : ¬ x.attempt < c.settings.attempts) :
    posts (c, a) = [] ∧ (c.after a).Over k ∧ ∀ id, (c.after a).account? id =
      (c.account? id).map fun y =>
        if id = x.entry then y.failed.retimed (some (.resume, c.issued.length)) else y := by
  have hs := (Coordinator.submission_eq_iff c.settings.requestTimeout reply).2 h
  have hdrop : (c.dropTask k).Sound := (hc.resume ht).of_suspend
  generalize hd : ((c.dropTask k).log (.attemptsExhausted x.result.resourceId hash
    c.settings.attempts)).countError x.entry = d
  have hheed : (c.dropTask k).heed ⟨k, .submission x server hash r, []⟩ (.reply reply) =
      some (d.pause x.entry []) := by
    subst hd
    rw [heed_of_refusal (h := h)]
    exact congrArg some (if_neg hn)
  have hplan : (d.pause x.entry []).2.plan = [] := List.sublist_nil.1 (plan_pause ..)
  have hwait : (d.pause x.entry []).2.wait? = none := wait?_pause ..
  have hafter : c.after a = (d.pause x.entry []).1 := by
    subst ha
    refine (after_of_heed hheed).trans ?_
    generalize d.pause x.entry [] = b at hplan hwait
    obtain ⟨b, course⟩ := b
    cases course with
    | goesOn next =>
      obtain rfl : next = [] := hplan
      rfl
    | waits w next => cases hwait
    | ends => rfl
  have hr : Reveals (fun s => s.post? = none) c d :=
    hd ▸ ((reveals_dropTask c k).reveal rfl).modifyEntry ..
  obtain ⟨xs, hx, -⟩ := (told_of_heed hdrop.numbered hdrop.registered hheed).adds
  have hover : (d.pause x.entry []).1.Over k :=
    (hx.spares (hc.numbered.below _ ht)).over (over_dropTask c k)
  refine ⟨Reveals.posts_eq_nil ?_, ?_, fun id => ?_⟩
  · rw [hafter]
    exact hr.pause (fun _ => Sign.Plain.post?) x.entry []
  · rw [hafter]
    exact hover
  · have hf : c.fault? ⟨k, .submission x server hash r, []⟩ (.reply reply) = some x.entry := by
      simp [fault?, hs, hn]
    have hstart : ∀ id, .start id ∉ (d.pause x.entry []).2.plan := by simp [hplan]
    subst ha
    obtain ⟨hsame, hpause⟩ := accounts_wake hc ht hheed hstart id
    by_cases hid : id = x.entry
    · subst hid
      simpa [after] using hpause hf trivial
    · simpa [after, hid] using hsame (fun he => hid (Option.some.inj (he.symm.trans hf)))

/-- A task that waits for the resources of its server submits its result as soon as the fetch is
    over, whatever came of it. -/
theorem tried_of_fetched (hc : c.Sound) {t : Task} (ht : t ∈ c.tasks) {s : Signal} {id : EntryId}
    {outcome : Except Error Resource.Catalog} (hid : x.entry < c.entries.length)
    (hheed : (c.dropTask t.id).heed t s =
      some ((c.dropTask t.id).fetched id server outcome, .goesOn [.attempt x]))
    (hf : c.fault? t s = none) :
    Tried c (c.wake t s) t.id x ∧ ∀ j, (c.wake t s).account? j = c.account? j := by
  have hdrop : (c.dropTask t.id).Sound := (hc.resume ht).of_suspend
  have q := (Quiet.refl (c.dropTask t.id)).fetched hdrop.numbered id server outcome
  have hr := (reveals_dropTask c t.id).fetched (fun _ => Sign.Plain.post?) id server outcome
    fun _ _ => rfl
  have hover := (q.spares (hc.numbered.below t ht)).over (over_dropTask c t.id)
  obtain ⟨e, he⟩ := exists_entry? (q.size.symm ▸ hid)
  refine ⟨?_, fun j => ?_⟩
  · rw [wake, hheed]
    exact tried_attempt hr hover he
  · exact (accounts_wake hc ht hheed (by simp [Course.plan]) j).1 (by simp [hf])

theorem fetched_turn (hc : c.Sound) (ht : ⟨k, .resources x.entry server r, [.attempt x]⟩ ∈ c.tasks)
    {a : Act} (ha : a = .wake ⟨k, .resources x.entry server r, [.attempt x]⟩ (.reply reply)) :
    Tried c (c.after a) k x ∧ ∀ j, (c.after a).account? j = c.account? j := by
  have hid : x.entry < c.entries.length :=
    (hc.resume ht).known_of_suspend (by simp [Task.entries, Wait.entry?])
  have hheed : (c.dropTask k).heed ⟨k, .resources x.entry server r, [.attempt x]⟩ (.reply reply) =
      some ((c.dropTask k).fetched x.entry server
        (Coordinator.catalog c.settings.requestTimeout r reply), .goesOn [.attempt x]) := rfl
  subst ha
  exact tried_of_fetched hc ht hid hheed rfl

/-- A forced refresh begins, however recent the last one is. If there is no request for the
    resources, it is over at once. -/
theorem granted_turn (hc : c.Sound) (ht : ⟨k, .granted x.entry true, [.attempt x]⟩ ∈ c.tasks)
    {a : Act} (ha : a = .wake ⟨k, .granted x.entry true, [.attempt x]⟩ .go) :
    (∀ j, (c.after a).account? j = c.account? j) ∧ ∃ e, c.entry? x.entry = some e ∧
      ((∃ q, Coordinator.resourcesRequest c.settings.userAgent e.server = .ok q ∧
        c.shown a = [(c.now.clock, .sent (.resources x.entry) q)] ∧
        (c.after a).Stands ⟨k, .resources x.entry e.server q, [.attempt x]⟩) ∨
      ((∃ fault, Coordinator.resourcesRequest c.settings.userAgent e.server = .error fault) ∧
        Tried c (c.after a) k x)) := by
  have hid : x.entry < c.entries.length :=
    (hc.resume ht).known_of_suspend (by simp [Task.entries, Wait.entry?])
  obtain ⟨e, he⟩ := exists_entry? hid
  have hde : Client.entry? (c.dropTask k) x.entry = some e := he
  subst ha
  cases hq : Coordinator.resourcesRequest (c.dropTask k).settings.userAgent e.server with
  | ok q =>
    have hheed : (c.dropTask k).heed ⟨k, .granted x.entry true, [.attempt x]⟩ .go =
        some ((c.dropTask k).send (.resources x.entry) q,
          .waits (.resources x.entry e.server q) [.attempt x]) := by
      simp only [heed, refresh, hde, if_true, hq]
    have hafter : c.after (.wake ⟨k, .granted x.entry true, [.attempt x]⟩ .go) =
        ((c.dropTask k).send (.resources x.entry) q).suspend k (.resources x.entry e.server q)
          [.attempt x] := after_of_heed hheed
    refine ⟨fun j => ?_, e, he, .inl ⟨q, hq, ?_, ?_⟩⟩
    · exact (accounts_wake hc ht hheed (by simp [Course.plan]) j).1 (by simp [fault?])
    · exact shown_of_signs (by rw [hafter]; rfl)
    · rw [hafter]
      exact List.mem_map_of_mem (f := Task.asGranted)
        (List.mem_append_right _ (List.mem_singleton_self _))
  | error fault =>
    have hheed : (c.dropTask k).heed ⟨k, .granted x.entry true, [.attempt x]⟩ .go =
        some ((c.dropTask k).fetched x.entry e.server (.error fault), .goesOn [.attempt x]) := by
      simp only [heed, refresh, hde, if_true, hq]
    obtain ⟨htried, haccounts⟩ := tried_of_fetched hc ht hid hheed rfl
    exact ⟨haccounts, e, he, .inr ⟨⟨fault, hq⟩, htried⟩⟩

end

end Client
end Sync
end Harvest
