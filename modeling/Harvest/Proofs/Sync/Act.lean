import Harvest.Sync.Run
/-!
What can happen to a client, one act after the other. The host calls it, time passes, and its tasks
are told what they wait for, in any order and after any delay. Nothing comes between the beginning
and the end of an act, in which at most one task goes on up to its next wait.
-/

namespace Harvest.Sync

inductive Act
  /-- A task is told something. -/
  | wake (task : Task) (signal : Signal)
  | elapse (now : Moment)
  | addServer (server : Server)
  | updateServer (server : Server)
  | start (serverId : String)
  | startAll
  | stop (serverId : String)
  | stopAll
  | submit (result : JobResult)
  /-- The host has a job executed, and submits the result. -/
  | execute (job : Job)

namespace Client

/-- Whether a waiting task can be told something yet. A time that has come and a token that was
    cancelled are told in either order; a timer that is due may go off after it lost its token. -/
def Ripe (c : Client) : Wait → Signal → Prop
  | .tick _ _ ticker, .go => ticker.due ≤ c.now.clock
  | .resume _ _ due _, .go => due ≤ c.now.clock
  | .drive _ ticker, .go => ticker.due ≤ c.now.clock
  | .tick _ token _, .cancelled => token ∈ c.cancelled
  | .resume _ token _ _, .cancelled => token ∈ c.cancelled
  | _, _ => True

/-- Whether an act can happen. -/
def Permits (c : Client) : Act → Prop
  | .wake t s => t ∈ c.tasks ∧ c.Ripe t.wait s
  | .elapse now => c.now.clock ≤ now.clock
  | _ => True

def after (c : Client) : Act → Client
  | .wake t s => c.wake t s
  | .elapse now => { c with now := now }
  | .addServer s => c.addServer s
  | .updateServer s => (c.updateServer s).2
  | .start id =>
    match c.start id with
    | .ok d => d
    | .error _ => c
  | .startAll => c.startAll
  | .stop id => c.stop id
  | .stopAll => c.stopAll
  | .submit r => c.submitResult r
  | .execute job => c.spawn [.execute job]

theorem after_start (c : Client) (serverId : String) :
    c.after (.start serverId) =
      match c.registered? serverId with
      | none => c
      | some id => c.undertake [.start id] := by
  rw [after, start, startPlan]
  cases c.registered? serverId <;> rfl

/-- Whether some acts can happen one after the other. -/
def Allows (c : Client) : List Act → Prop
  | [] => True
  | a :: rest => c.Permits a ∧ (c.after a).Allows rest

def afterAll (c : Client) (acts : List Act) : Client := acts.foldl after c

@[simp] theorem afterAll_nil (c : Client) : c.afterAll [] = c := rfl

@[simp] theorem afterAll_cons (c : Client) (a : Act) (acts : List Act) :
    c.afterAll (a :: acts) = (c.after a).afterAll acts := rfl

theorem afterAll_append (c : Client) (acts more : List Act) :
    c.afterAll (acts ++ more) = (c.afterAll acts).afterAll more := List.foldl_append

theorem allows_append (c : Client) (acts more : List Act) :
    c.Allows (acts ++ more) ↔ c.Allows acts ∧ (c.afterAll acts).Allows more := by
  induction acts generalizing c with
  | nil => simp [Allows]
  | cons a acts ih => simp [Allows, ih, and_assoc]

theorem allows_past {c : Client} {past acts : List Act} (allows : c.Allows acts)
    (hp : past <+: acts) : c.Allows past := by
  obtain ⟨post, rfl⟩ := hp
  exact ((allows_append ..).1 allows).1

/-- The clients that some acts lead to. -/
inductive Reachable : Client → Prop
  | new {settings : Settings} {allowed : Server → Except Error (List String)}
      {protection : Fetch.Protection} {now : Moment} {c : Client} :
      Client.new settings allowed protection now = .ok c → Reachable c
  | act {c : Client} {a : Act} : Reachable c → c.Permits a → Reachable (c.after a)

theorem Reachable.afterAll {c : Client} (h : Reachable c) {acts : List Act}
    (allows : c.Allows acts) : Reachable (c.afterAll acts) := by
  induction acts generalizing c with
  | nil => exact h
  | cons a acts ih => exact ih (h.act allows.1) allows.2

/-! A small run: a server without an address is started, and its first poll fails. -/

/-- A client before anything has happened. -/
def blank (s : Settings) : Client :=
  ⟨s, fun _ => .ok [], .any, ⟨0, ⟨0, 0, 0⟩⟩, [], [], .empty s.queueInterval, [], 0, [], [], []⟩

/-- Settings under which the first error pauses a server. -/
def strict (backoffUnit : Nat) : Settings :=
  { Settings.standard with pauseThreshold := 1, backoffUnit := backoffUnit }

def nowhere : Server := ⟨"n", "Nowhere", "", "", .active⟩

/-- The acts up to the first poll, for the resources of the server cannot be fetched. -/
def toFirstPoll : List Act :=
  [.addServer nowhere, .start "n", .wake ⟨0, .granted 0 false, [.started 0 0]⟩ .go]

def refused : Act := .wake ⟨0, .permission 0 nowhere, []⟩ (.permitted (.error (.network "refused")))

/-! Another run: a server publishes a resource, which is fetched. -/

/-- Some acts, after which a task is told something, if it waits. -/
def telling (c : Client) (acts : List Act) (k : TaskId) (s : Signal) : List Act :=
  acts ++ ((c.afterAll acts).task? k).toList.map (.wake · s)

theorem allows_telling {c : Client} {acts : List Act} {k : TaskId} {s : Signal}
    (allows : c.Allows acts)
    (ripe : ∀ t, Client.task? (c.afterAll acts) k = some t → (c.afterAll acts).Ripe t.wait s) :
    c.Allows (c.telling acts k s) := by
  rw [telling, allows_append]
  refine ⟨allows, ?_⟩
  cases ht : (c.afterAll acts).task? k with
  | none => trivial
  | some t => exact ⟨⟨List.mem_of_find?_eq_some ht, ripe t ht⟩, trivial⟩

theorem ripe_reply (c : Client) (w : Wait) (r : Http.Reply) : c.Ripe w (.reply r) := by
  cases w <;> trivial

theorem ripe_permitted (c : Client) (w : Wait) (answer : Except Error (List String)) :
    c.Ripe w (.permitted answer) := by
  cases w <;> trivial

/-- Whether the time of a wait has come, if it is for a time. -/
def isDue (c : Client) : Wait → Bool
  | .tick _ _ ticker => ticker.due ≤ c.now.clock
  | .resume _ _ due _ => due ≤ c.now.clock
  | .drive _ ticker => ticker.due ≤ c.now.clock
  | _ => true

theorem ripe_go {c : Client} {w : Wait} (h : c.isDue w = true) : c.Ripe w .go := by
  cases w <;> first | trivial | simpa [isDue, Ripe] using h

theorem allows_going {c : Client} {acts : List Act} {k : TaskId} (allows : c.Allows acts)
    (due : (Client.task? (c.afterAll acts) k).all
      (fun t => (c.afterAll acts).isDue t.wait) = true) :
    c.Allows (c.telling acts k .go) :=
  allows_telling allows fun t ht => ripe_go (by simpa [ht] using due)

def home : Server := ⟨"h", "Home", "http://[::1]", "", .active⟩

def content (text : String) : Signal := .reply (.ok ⟨200, none, .ok text⟩)

def catalogText : String :=
  "\x7b\"name\":\"\",\"resources\":[\x7b\"id\":\"r\",\"hostname\":\"[::1]\"," ++
    "\"url_pattern\":\"/\",\"hash\":\"v\"\x7d]\x7d"

def toResources : List Act :=
  (blank .standard).telling
    [.addServer home, .start "h", .wake ⟨0, .granted 0 false, [.started 0 0]⟩ .go]
    0 (content catalogText)

theorem allows_toResources : (blank .standard).Allows toResources :=
  allows_telling ⟨trivial, trivial, ⟨.head _, trivial⟩, trivial⟩ fun _ _ => ripe_reply ..

/-- What a task can be told, and what it does then. -/
inductive Heeds (c : Client) : Task → Signal → Client × Course → Prop
  | turn {k : TaskId} {next : List Next} : c.Heeds ⟨k, .turn, next⟩ .go (c, .goesOn next)
  | granted {k : TaskId} {id : EntryId} {forced : Bool} {next : List Next} :
      c.Heeds ⟨k, .granted id forced, next⟩ .go (c.refresh id forced next)
  | resources {k : TaskId} {id : EntryId} {server : Server} {r : Http.Request}
      {reply : Http.Reply} {next : List Next} :
      c.Heeds ⟨k, .resources id server r, next⟩ (.reply reply)
        (c.fetched id server (Coordinator.catalog c.settings.requestTimeout r reply),
          .goesOn next)
  | permission {k : TaskId} {id : EntryId} {server : Server}
      {answer : Except Error (List String)} {next : List Next} :
      c.Heeds ⟨k, .permission id server, next⟩ (.permitted answer)
        (c.permitted id server answer next)
  | jobs {k : TaskId} {id : EntryId} {server : Server} {r : Http.Request}
      {reply : Http.Reply} {next : List Next} :
      c.Heeds ⟨k, .jobs id server r, next⟩ (.reply reply)
        (c.polled id server (Coordinator.jobs c.settings.requestTimeout r reply) next)
  | submission {k : TaskId} {d : Delivery} {server : Server} {hash : String} {r : Http.Request}
      {reply : Http.Reply} {next : List Next} :
      c.Heeds ⟨k, .submission d server hash r, next⟩ (.reply reply)
        (c.delivered d server hash (Coordinator.submission c.settings.requestTimeout reply) next)
  | page {k : TaskId} {job : Job} {r : Http.Request} {reply : Http.Reply} {next : List Next} :
      c.Heeds ⟨k, .page job r, next⟩ (.reply reply)
        (c, .goesOn (.submit (Executor.result job
          (Fetch.document c.settings.requestTimeout job.url.text reply)) :: next))
  | tick {k : TaskId} {id : EntryId} {token : Token} {ticker : Ticker} {next : List Next} :
      c.Heeds ⟨k, .tick id token ticker, next⟩ .go
        (c, .goesOn (.poll id :: .timer id token (ticker.next c.now.clock) :: next))
  | resume {k : TaskId} {id : EntryId} {token : Token} {due : Nat} {name : String}
      {next : List Next} :
      c.Heeds ⟨k, .resume id token due name, next⟩ .go
        (c.log (.restarting name), .goesOn (.start id :: next))
  | drive {k : TaskId} {driver : Nat} {ticker : Ticker} {next : List Next} {course : Course} :
      (course = .ends ∨ ∃ t, course = .waits (.drive driver t) next) →
      c.Heeds ⟨k, .drive driver ticker, next⟩ .go
        (c.withQueue (c.queue.drive driver c.now.clock), course)
  | tickCancelled {k : TaskId} {id : EntryId} {token : Token} {ticker : Ticker}
      {next : List Next} : c.Heeds ⟨k, .tick id token ticker, next⟩ .cancelled (c, .ends)
  | resumeCancelled {k : TaskId} {id : EntryId} {token : Token} {due : Nat} {name : String}
      {next : List Next} :
      c.Heeds ⟨k, .resume id token due name, next⟩ .cancelled (c, .ends)

theorem heeds_of_heed {c : Client} {t : Task} {s : Signal} {a : Client × Course}
    (h : c.heed t s = some a) : c.Heeds t s a := by
  obtain ⟨k, w, next⟩ := t
  unfold heed at h
  split at h <;> rename_i hw <;> try (obtain rfl : w = _ := hw; injection h with h; subst h)
  case h_1 => exact .turn
  case h_2 => exact .granted
  case h_3 => exact .resources
  case h_4 => exact .permission
  case h_5 => exact .jobs
  case h_6 => exact .submission
  case h_7 => exact .page
  case h_8 => exact .tick
  case h_9 => exact .resume
  case h_10 =>
    obtain rfl : w = _ := hw
    dsimp only at h
    split at h <;> injection h with h <;> subst h
    · exact .drive (.inr ⟨_, rfl⟩)
    · exact .drive (.inl rfl)
  case h_11 => exact .tickCancelled
  case h_12 => exact .resumeCancelled
  case h_13 => cases h

theorem heed_resume (c : Client) (k : TaskId) (id : EntryId) (token : Token) (due : Nat)
    (name : String) (next : List Next) :
    c.heed ⟨k, .resume id token due name, next⟩ .go =
      some (c.log (.restarting name), .goesOn (.start id :: next)) :=
  rfl

/-! What is done in an act -/

/-- What a task does, one thing after the other, up to its next wait. -/
def doing (task : TaskId) : List Next → Client → List Next
  | [], _ => []
  | n :: rest, c =>
    n :: match c.perform task n with
      | (d, .done) => doing task rest d
      | (_, .waiting ..) => []

theorem doing_cons_of_done {c d : Client} {k : TaskId} {n : Next}
    (h : c.perform k n = (d, .done)) (rest : List Next) :
    doing k (n :: rest) c = n :: doing k rest d := by
  rw [doing, h]

theorem doing_cons_of_waiting {c d : Client} {k : TaskId} {n : Next} {w : Wait} {more : List Next}
    (h : c.perform k n = (d, .waiting w more)) (rest : List Next) :
    doing k (n :: rest) c = [n] := by
  rw [doing, h]

def undertaking (c : Client) (next : List Next) : List Next :=
  doing c.taskCount next { c with taskCount := c.taskCount + 1 }

/-- The things that are done in an act, one after the other. -/
def doneBy (c : Client) : Act → List Next
  | .wake t s =>
    match (c.dropTask t.id).heed t s with
    | some (d, .goesOn next) => doing t.id next d
    | _ => []
  | .start id =>
    match c.startPlan id with
    | .ok next => c.undertaking next
    | .error _ => []
  | .startAll => c.startQueue.undertaking c.startServers
  | .submit r => c.undertaking [.submit r]
  | _ => []

theorem doneBy_start (c : Client) (serverId : String) :
    c.doneBy (.start serverId) =
      match c.registered? serverId with
      | none => []
      | some id => c.undertaking [.start id] := by
  rw [doneBy, startPlan]
  cases c.registered? serverId <;> rfl

end Client
end Harvest.Sync
