import Harvest.Proofs.Sync.Runs
/-!
What the tasks of a client look like. A task that waits has one of a few plans, by what it waits
for, and those that wait for their turn have done nothing yet.
-/

namespace Harvest.Sync

/-- What may follow a poll in a plan: its timer, or the starts of other servers. -/
inductive Tail (id : EntryId) : List Next → Prop
  | starts (ids : List EntryId) : Tail id (ids.map .start)
  | timer (token : Token) (ticker : Ticker) : Tail id [.timer id token ticker]

theorem Tail.nil (id : EntryId) : Tail id [] := .starts []

/-- What may follow a refresh. -/
inductive Sequel : EntryId → Bool → List Next → Prop
  | scheduled {id : EntryId} : Sequel id false []
  | started {id : EntryId} {token : Token} (ids : List EntryId) :
      Sequel id false (.started id token :: ids.map .start)
  | enqueue {id : EntryId} {serverId : String} {jobs : List Job.Parameters} {l : List Next} :
      Tail id l → Sequel id true (.enqueue serverId jobs :: l)
  | attempt {d : Delivery} {j : EntryId} {l : List Next} : Tail j l →
      Sequel d.entry true (.attempt d :: l)

def Next.Precedes (l : List Next) : Next → Prop
  | .start _ => ∃ ids : List EntryId, l = ids.map .start
  | .started .. => ∃ ids : List EntryId, l = ids.map .start
  | .refresh id forced => Sequel id forced l
  | .poll id => Tail id l
  | .enqueue .. => ∃ id, Tail id l
  | .attempt _ => ∃ id, Tail id l
  | _ => l = []

/-- What a task may have to do once it is told what it waited for. -/
def Line : List Next → Prop
  | [] => True
  | n :: l => n.Precedes l

theorem line_starts (ids : List EntryId) : Line (ids.map .start) := by
  cases ids with
  | nil => trivial
  | cons id ids => exact ⟨ids, rfl⟩

theorem Tail.line {id : EntryId} {l : List Next} (h : Tail id l) : Line l := by
  cases h with
  | starts ids => exact line_starts ids
  | timer => exact rfl

theorem Sequel.line {id : EntryId} {forced : Bool} {l : List Next} (h : Sequel id forced l) :
    Line l := by
  cases h with
  | scheduled => trivial
  | started ids => exact ⟨ids, rfl⟩
  | enqueue h => exact ⟨_, h⟩
  | attempt h => exact ⟨_, h⟩

theorem Next.Precedes.line {n : Next} {l : List Next} (h : n.Precedes l) : Line l := by
  cases n with
  | start | started =>
    obtain ⟨ids, rfl⟩ := h
    exact line_starts ids
  | refresh => exact Sequel.line h
  | poll => exact Tail.line h
  | enqueue | attempt =>
    obtain ⟨_, h⟩ := h
    exact h.line
  | _ =>
    obtain rfl : l = [] := h
    trivial

theorem Next.Precedes.tail {n : Next} {l : List Next} (h : n.Precedes l) (hn : n.entry? = none) :
    ∃ id, Tail id l := by
  cases n with
  | enqueue => exact h
  | submit | execute | beginDriver =>
    obtain rfl : l = [] := h
    exact ⟨0, .nil 0⟩
  | _ => cases hn

/-- What a task that waits may have to do then. -/
inductive Staged : Wait → List Next → Prop
  | turn {l : List Next} : Line l → Staged .turn l
  | right {w : Wait} {id : EntryId} {forced : Bool} {l : List Next} :
      w.asGranted = .granted id forced → Sequel id forced l → Staged w l
  | resources {id : EntryId} {forced : Bool} {server : Server} {r : Http.Request}
      {l : List Next} : Sequel id forced l → Staged (.resources id server r) l
  | permission {id : EntryId} {server : Server} {l : List Next} : Tail id l →
      Staged (.permission id server) l
  | jobs {id : EntryId} {server : Server} {r : Http.Request} {l : List Next} : Tail id l →
      Staged (.jobs id server r) l
  | submission {d : Delivery} {server : Server} {hash : String} {r : Http.Request}
      {j : EntryId} {l : List Next} : Tail j l → Staged (.submission d server hash r) l
  | page {job : Job} {r : Http.Request} : Staged (.page job r) []
  | tick {id : EntryId} {token : Token} {ticker : Ticker} : Staged (.tick id token ticker) []
  | resume {id : EntryId} {token : Token} {due : Nat} {name : String} :
      Staged (.resume id token due name) []
  | drive {driver : Nat} {ticker : Ticker} : Staged (.drive driver ticker) []

theorem Staged.of_asGranted {w v : Wait} {l : List Next} (h : Staged v l)
    (heq : w.asGranted = v.asGranted) : Staged w l := by
  rcases Wait.eq_of_asGranted heq with rfl | ⟨id, forced, hv⟩
  · exact h
  · cases h with
    | right hg hl => exact .right (heq.trans hg) hl
    | _ => cases hv

def Task.Staged (t : Task) : Prop := Sync.Staged t.wait t.next

namespace Client

section

variable {c : Client} {k : TaskId} {l : List Next}

theorem Fresh.line {t : Task} (h : Fresh t) : t.wait = .turn ∧ Line t.next := by
  cases h with
  | refresh => exact ⟨rfl, Sequel.scheduled⟩
  | driver => exact ⟨rfl, rfl⟩
  | timer => exact ⟨rfl, rfl⟩
  | pause => exact ⟨rfl, rfl⟩

theorem Begun.line (h : c.Begun l) : Line l := by
  cases h with
  | start => exact line_starts _
  | submit => exact rfl

theorem staged_pause {j : EntryId} (h : Tail j l) (id : EntryId) {u : Task}
    (hu : coursing k (c.pause id l).2 = some u) : u.Staged := by
  rw [pause_eq] at hu
  split at hu
  · cases hu
    exact .turn h.line
  · split at hu <;> cases hu
    exact .turn h.line

theorem staged_pollFailed {id : EntryId} (h : Tail id l) {server : Server} {fault : Error}
    {u : Task} (hu : coursing k (c.pollFailed id server fault l).2 = some u) : u.Staged := by
  rw [pollFailed] at hu
  split at hu
  · exact staged_pause h id hu
  · cases hu
    exact .turn h.line

theorem staged_refresh {id : EntryId} {forced : Bool} (h : Sequel id forced l) {u : Task}
    (hu : coursing k (c.refresh id forced l).2 = some u) : u.Staged := by
  unfold refresh at hu
  split at hu
  · cases hu
    exact .turn h.line
  · split at hu
    · cases hu
      exact .turn h.line
    · split at hu <;> cases hu
      · exact .turn h.line
      · exact .resources h

theorem staged_permitted {id : EntryId} (h : Tail id l) {server : Server}
    {answer : Except Error (List String)} {u : Task}
    (hu : coursing k (c.permitted id server answer l).2 = some u) : u.Staged := by
  unfold permitted at hu
  split at hu
  · exact staged_pollFailed h hu
  · cases hu
    exact .jobs h

theorem staged_polled {id : EntryId} (h : Tail id l) {server : Server}
    {answer : Except Error Coordinator.Jobs} {u : Task}
    (hu : coursing k (c.polled id server answer l).2 = some u) : u.Staged := by
  unfold polled at hu
  split at hu
  · exact staged_pollFailed h hu
  · dsimp only at hu
    split at hu <;> cases hu
    · refine .turn ?_
      exact Sequel.enqueue h
    · exact .turn ⟨_, h⟩

theorem staged_delivered {j : EntryId} (h : Tail j l) {d : Delivery} {server : Server}
    {hash : String} {outcome : Except Error Coordinator.Submission} {u : Task}
    (hu : coursing k (c.delivered d server hash outcome l).2 = some u) : u.Staged := by
  unfold delivered at hu
  dsimp only at hu
  split at hu
  · cases hu
    exact .turn h.line
  · cases hu
    exact .turn h.line
  · cases hu
    exact .turn h.line
  · split at hu
    · cases hu
      refine .turn ?_
      exact Sequel.attempt (d := { d with attempt := d.attempt + 1 }) h
    · exact staged_pause h _ hu

theorem staged_heed {t : Task} {s : Signal} {a : Client × Course} (h : t.Staged)
    (heq : c.heed t s = some a) : ∀ u, coursing t.id a.2 = some u → u.Staged := by
  intro u hu
  cases heeds_of_heed heq with
  | turn =>
    cases hu
    exact h
  | granted =>
    cases h with
    | right hg hl =>
      cases hg
      exact staged_refresh hl hu
  | resources =>
    cases hu
    cases h with
    | right hg => cases hg
    | resources hl => exact .turn hl.line
  | permission =>
    cases h with
    | right hg => cases hg
    | permission hl => exact staged_permitted hl hu
  | jobs =>
    cases h with
    | right hg => cases hg
    | jobs hl => exact staged_polled hl hu
  | submission =>
    cases h with
    | right hg => cases hg
    | submission hl => exact staged_delivered hl hu
  | page =>
    cases hu
    cases h with
    | right hg => cases hg
    | page => exact .turn rfl
  | tick =>
    cases hu
    cases h with
    | right hg => cases hg
    | tick => exact .turn (Tail.timer _ _)
  | resume =>
    cases hu
    cases h with
    | right hg => cases hg
    | resume => exact .turn ⟨[], rfl⟩
  | drive hc =>
    rcases hc with rfl | ⟨_, rfl⟩
    · cases hu
    · cases hu
      cases h with
      | right hg => cases hg
      | drive => exact .drive
  | tickCancelled => cases hu
  | resumeCancelled => cases hu

theorem Rests.staged {n : Next} {rest more : List Next} {w : Wait}
    (h : c.Rests n (.waiting w more)) (hn : n.Precedes rest) : Sync.Staged w (more ++ rest) := by
  cases h with
  | refresh hw => exact .right (by rcases hw with rfl | rfl <;> rfl) hn
  | start hw =>
    obtain ⟨ids, rfl⟩ := hn
    exact .right (by rcases hw with rfl | rfl <;> rfl) (.started ids)
  | poll _ hp =>
    rcases hp with rfl | ⟨token, -, rfl⟩
    · exact .permission hn
    · obtain ⟨ids, rfl⟩ := hn
      exact .permission (.starts ids)
  | submission _ _ hs =>
    rcases hs with ⟨hs, -⟩ | rfl
    · obtain ⟨_, hn⟩ := hn.tail hs
      exact .submission hn
    · obtain ⟨_, hn⟩ := hn
      exact .submission hn
  | page =>
    obtain rfl : rest = [] := hn
    exact .page
  | beginTimer | timer =>
    obtain rfl : rest = [] := hn
    exact .tick
  | beginPause =>
    obtain rfl : rest = [] := hn
    exact .resume
  | beginDriver =>
    obtain rfl : rest = [] := hn
    exact .drive

end

theorem lasting_staged : Lasting Task.Staged where
  granted heq h := by
    have hnext := congrArg Task.next heq
    have hstaged := Sync.Staged.of_asGranted h (congrArg Task.wait heq)
    simp only [Task.asGranted_next] at hnext
    rw [← hnext] at hstaged
    exact hstaged
  fresh h := by
    obtain ⟨hw, hl⟩ := h.line
    rw [Task.Staged, hw]
    exact .turn hl
  begun _ _ _ h := .turn h.line
  execute _ _ := .turn rfl
  heed heq h := staged_heed h heq
  done h := by
    cases h with
    | turn h => exact .turn (Next.Precedes.line h)
    | right hg => cases hg
  waiting hr h := by
    cases h with
    | turn h => exact hr.staged h
    | right hg => cases hg

theorem Reachable.staged {c : Client} (h : Reachable c) {t : Task} (ht : t ∈ c.tasks) :
    Sync.Staged t.wait t.next :=
  lasting_staged.reachable h t ht

/-! Where the tasks come from -/

/-- How a task that is there after an act came to be there. -/
inductive Comes (c : Client) (a : Act) : Task → Prop
  | kept {t : Task} : c.Kept t → Comes c a t
  | fresh {t : Task} : Fresh t → Comes c a t
  | execute {k : TaskId} (job : Job) : Comes c a ⟨k, .turn, [.execute job]⟩
  /-- It did something, up to a wait. -/
  | rests {d : Client} {k : TaskId} {n : Next} {w : Wait} {more rest : List Next} :
      (∀ t s, a = .wake t s → t.id = k) → c.cancelled ⊆ d.cancelled →
      (∀ id, d.server? id = c.server? id) → n ∈ c.doneBy a →
      d.Rests n (.waiting w more) → Comes c a ⟨k, w, more ++ rest⟩
  /-- It was told something, and waits for something else. -/
  | onward {t : Task} {s : Signal} {d : Client} {w : Wait} {next : List Next} :
      a = .wake t s → t ∈ c.tasks → (c.dropTask t.id).heed t s = some (d, .waits w next) →
      Comes c a ⟨t.id, w, next⟩

theorem Told.cancelled {c : Client} {t : Task} {s : Signal} {a : Client × Course}
    (h : c.Told t s a) : c.cancelled ⊆ a.1.cancelled := by
  have counted : ∀ {id : EntryId} {b : Client}, Quiet (c.countError id) b →
      b.cancelled = c.cancelled := fun q => q.cancelled
  intro token ht
  cases h with
  | quiet _ q =>
    rw [q.cancelled]
    exact ht
  | counted _ _ q =>
    rw [counted q]
    exact ht
  | paused _ _ q =>
    rw [pause_eq]
    have hm : ∀ id, token ∈ (Client.retime _ id (some .resume)).cancelled := fun id =>
      List.mem_append_left _ ((counted q).symm ▸ ht)
    split
    · exact hm _
    · split <;> exact hm _

theorem Comes.of_kept {c : Client} {a : Act} {t : Task} (h : c.Kept t ∨ Fresh t) :
    c.Comes a t :=
  h.elim .kept .fresh

theorem comes_wake {c : Client} (h : c.Sound) {t : Task} (ht : t ∈ c.tasks) {s : Signal}
    {u : Task} (hu : u ∈ (c.wake t s).tasks) : c.Comes (.wake t s) u := by
  have hdrop : (c.dropTask t.id).Sound := (h.resume ht).of_suspend
  have hkept : ∀ v, (c.dropTask t.id).Kept v → c.Kept v := by
    rintro v ⟨x, hx, heq⟩
    exact ⟨x, (List.mem_filter.1 hx).1, heq⟩
  rw [wake] at hu
  cases heq : (c.dropTask t.id).heed t s with
  | none =>
    rw [heq] at hu
    exact .kept (.of_mem hu)
  | some a =>
    have told := told_of_heed hdrop.numbered hdrop.registered heq
    have hs := (h.resume ht).heed heq
    have ha : ∀ v ∈ a.1.tasks, c.Kept v ∨ Fresh v := fun v hv =>
      (told.mem_tasks hv).imp_left (hkept v)
    obtain ⟨d, course⟩ := a
    rw [heq] at hu
    cases course with
    | goesOn next =>
      have hdone : c.doneBy (.wake t s) = doing t.id next d := by rw [doneBy, heq]
      rcases mem_tasks_run hs hu with ⟨v, hv, hvu⟩ | hf | hr
      · refine .of_kept ((ha v hv).imp ?_ fun hf => hf.of_asGranted hvu)
        rintro ⟨x, hx, hxv⟩
        exact ⟨x, hx, hvu.trans hxv⟩
      · exact .fresh hf
      · obtain ⟨hcancelled, hframe, hn, -, hw⟩ := hr
        refine .rests ?_ (List.Subset.trans told.cancelled hcancelled) (fun id => ?_) (hdone ▸ hn) hw
        · rintro t' s' ⟨⟩
          rfl
        · exact (hframe.server id).trans (server?_heed heq id)
    | waits w next =>
      rcases List.mem_append.1 hu with hu | hu
      · exact .of_kept (ha u hu)
      · obtain rfl := List.mem_singleton.1 hu
        exact .onward rfl ht heq
    | ends => exact .of_kept (ha u hu)

theorem comes_of_mem {c : Client} (h : c.Sound) {a : Act} (p : c.Permits a) {u : Task}
    (hu : u ∈ (c.after a).tasks) : c.Comes a u := by
  have hs := step_after h p
  generalize c.after a = d at hs hu
  cases hs with
  | wake ht => exact comes_wake h ht hu
  | addServer s =>
    rw [tasks_addServer] at hu
    exact .kept (.of_mem hu)
  | execute job =>
    rcases List.mem_append.1 hu with hu | hu
    · exact .kept (.of_mem hu)
    · obtain rfl := List.mem_singleton.1 hu
      exact .execute job
  | still _ _ _ tasks =>
    rw [tasks] at hu
    exact .kept (.of_mem hu)
  | stops =>
    rw [(unchanged_stopEntries ..).1] at hu
    exact .kept (.of_mem hu)
  | @begins a d next ho hd' q _ hs =>
    have hd : ∀ v ∈ d.tasks, c.Kept v ∨ Fresh v := fun v hv =>
      (q.mem_tasks hv).imp_right Chore.fresh
    rcases mem_tasks_run hs hu with ⟨v, hv, hvu⟩ | hf | hr
    · refine .of_kept ((hd v hv).imp ?_ fun hf => hf.of_asGranted hvu)
      rintro ⟨x, hx, hxv⟩
      exact ⟨x, hx, hvu.trans hxv⟩
    · exact .fresh hf
    · obtain ⟨hcancelled, hframe, hn, -, hw⟩ := hr
      have hf : Frame c d := by
        rcases hd' with rfl | rfl
        · exact .refl _
        · exact (Frame.refl c).startQueue
      refine .rests (fun t s ha => absurd ha (ho.host t s)) ?_ (fun id => ?_) (ho.done ▸ hn) hw
      · have hq : d.cancelled = c.cancelled := q.cancelled
        exact hq ▸ hcancelled
      · exact (hframe.server id).trans (hf.server id)

/-- A task that waits for its turn has done nothing yet. -/
theorem Reachable.turn_of_mem {c : Client} (h : Reachable c) {t : Task} (ht : t ∈ c.tasks)
    (hw : t.wait = .turn) : Fresh t ∨ ∃ job, t.next = [.execute job] := by
  induction h generalizing t with
  | new h =>
    obtain ⟨rfl, -, -⟩ := new_eq h
    cases ht
  | act hc p ih =>
    cases comes_of_mem hc.sound p ht with
    | kept hk =>
      obtain ⟨u, hu, heq⟩ := hk
      have hwait := congrArg Task.wait heq
      have hnext := congrArg Task.next heq
      simp only [Task.asGranted, hw] at hwait hnext
      have huw : u.wait = .turn := by
        rcases Wait.eq_of_asGranted hwait with huw | ⟨_, _, hg⟩
        · exact huw.symm
        · cases hwait.trans hg
      refine (ih hu huw).imp (fun hf => hf.of_asGranted heq) ?_
      rintro ⟨job, hj⟩
      exact ⟨job, hnext.trans hj⟩
    | fresh hf => exact .inl hf
    | execute job => exact .inr ⟨job, rfl⟩
    | rests _ _ _ _ hr => exact absurd hw hr.ne_turn
    | onward _ _ heq =>
      exact absurd hw (onward_of_heed heq rfl).ne_turn

end Client
end Harvest.Sync
