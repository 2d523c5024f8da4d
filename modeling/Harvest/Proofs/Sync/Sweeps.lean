import Harvest.Proofs.Sync.Calls
import Harvest.Proofs.Sync.Pausing
/-!
The task that starts all servers. It starts them one after the other, and after each one it waits for
its resources, for what the host says and for the answer to the first poll. What it has begun and what it
has left make up the registered entries at all times.
-/

namespace Harvest.Sync

/-- The entry that is started by something that a task does. -/
def Next.start? : Next → Option EntryId
  | .start id => some id
  | _ => none

def starts (l : List Next) : List EntryId := l.filterMap Next.start?

theorem starts_cons (n : Next) (l : List Next) : starts (n :: l) = n.start?.toList ++ starts l :=
  Client.filterMap_cons_toList ..

theorem starts_map_start (ids : List EntryId) : starts (ids.map .start) = ids := by
  induction ids with
  | nil => rfl
  | cons id ids ih => rw [List.map_cons, starts_cons, ih]; rfl

/-- What a task may have to do between a refresh and the start of the next entry. -/
inductive Next.Follows : Next → Prop
  | started (id : EntryId) (token : Token) : Follows (.started id token)
  | enqueue (serverId : String) (jobs : List Job.Parameters) : Follows (.enqueue serverId jobs)

theorem Next.Follows.start? {n : Next} (h : n.Follows) : n.start? = none := by
  cases h <;> rfl

/-- Whether a task waits in the course of a start, and is to start some entries after that. -/
inductive Starting (ids : List EntryId) : Wait → List Next → Prop
  | right {w : Wait} {id : EntryId} {forced : Bool} {n : Next} : w.asGranted = .granted id forced →
      n.Follows → Starting ids w (n :: ids.map .start)
  | resources {id : EntryId} {server : Server} {r : Http.Request} {n : Next} : n.Follows →
      Starting ids (.resources id server r) (n :: ids.map .start)
  | permission {id : EntryId} {server : Server} :
      Starting ids (.permission id server) (ids.map .start)
  | jobs {id : EntryId} {server : Server} {r : Http.Request} :
      Starting ids (.jobs id server r) (ids.map .start)

theorem Starting.starts {ids : List EntryId} {w : Wait} {next : List Next}
    (h : Starting ids w next) : Sync.starts next = ids := by
  cases h with
  | right _ hn | resources hn => rw [starts_cons, hn.start?, starts_map_start]; rfl
  | permission | jobs => exact starts_map_start ids

theorem Starting.of_asGranted {ids : List EntryId} {v w : Wait} {next : List Next}
    (h : Starting ids w next) (heq : v.asGranted = w.asGranted) : Starting ids v next := by
  rcases Wait.eq_of_asGranted heq with rfl | ⟨id, forced, hw⟩
  · exact h
  · cases h with
    | right hg hn => exact .right (heq.trans hg) hn
    | resources | permission | jobs => cases hw

/-- What such a task has to do when it goes on. -/
inductive Leads (ids : List EntryId) : List Next → Prop
  | starts : Leads ids (ids.map .start)
  | follows {n : Next} : n.Follows → Leads ids (n :: ids.map .start)
  | refetches (id : EntryId) (serverId : String) (jobs : List Job.Parameters) :
      Leads ids (.refresh id true :: .enqueue serverId jobs :: ids.map .start)

namespace Client

/-! What the task does up to its next wait -/

/-- Whether a task has some entries still to start. -/
def Sweeping (c : Client) (k : TaskId) (ids : List EntryId) : Prop :=
  (∃ t ∈ c.tasks, t.id = k ∧ Starting ids t.wait t.next) ∨ ids = [] ∧ c.Over k

/-- Whether a task starts some entries when it goes on, in order, if not all of them before its next
    wait. -/
def Sweeps (k : TaskId) (ids : List EntryId) (next : List Next) (c : Client) : Prop :=
  ∃ left, starts (doing k next c) ++ left = ids ∧ (run k next c).Sweeping k left

theorem Sound.over_of_suspend {c : Client} {k : TaskId} {w : Wait} {next : List Next}
    (h : (c.suspend k w next).Sound) : c.Over k := by
  have hn := h.numbered.nodup
  rw [suspend, List.map_append, List.nodup_append] at hn
  exact fun t ht => hn.2.2 _ (List.mem_map_of_mem ht) _ List.mem_cons_self

section

variable {c : Client} {k : TaskId} {ids : List EntryId} {n : Next} {rest next : List Next}

/-- One thing that the task does, before it goes on or waits. -/
theorem sweeps_cons (left : List EntryId) (h : (c.suspend k .turn (n :: rest)).Sound)
    (hn : n.start?.toList ++ left = ids)
    (done : ∀ d : Client, (d.suspend k .turn rest).Sound → Sweeps k left rest d)
    (waiting : ∀ w more, c.Rests n (.waiting w more) → Starting left w (more ++ rest)) :
    Sweeps k ids (n :: rest) c := by
  have hp := h.perform
  have hr := rests_perform c k n
  generalize heq : c.perform k n = a at hp hr
  obtain ⟨d, p⟩ := a
  cases p with
  | done =>
    obtain ⟨more, hmore, hrun⟩ := done d hp
    refine ⟨more, ?_, ?_⟩
    · rw [doing_cons_of_done heq, starts_cons, List.append_assoc, hmore, hn]
    · rw [run, heq]
      exact hrun
  | waiting w more =>
    refine ⟨left, ?_, ?_⟩
    · rw [doing_cons_of_waiting heq, starts_cons]
      simpa [starts] using hn
    · rw [run, heq]
      exact .inl ⟨_, List.mem_append_right _ List.mem_cons_self, rfl, waiting w more hr⟩

theorem sweeps_starts (h : (c.suspend k .turn (ids.map .start)).Sound) :
    Sweeps k ids (ids.map .start) c := by
  induction ids generalizing c with
  | nil => exact ⟨[], rfl, .inr ⟨rfl, h.over_of_suspend⟩⟩
  | cons id ids ih =>
    refine sweeps_cons ids h rfl (fun d hd => ih hd) fun w more hr => ?_
    cases hr with
    | start hw => exact .right (by rcases hw with rfl | rfl <;> rfl) (.started ..)
    | poll _ hn => simp at hn
    | submission _ hd => cases hd

theorem sweeps_follows (hn : n.Follows) (h : (c.suspend k .turn (n :: ids.map .start)).Sound) :
    Sweeps k ids (n :: ids.map .start) c := by
  refine sweeps_cons ids h (by rw [hn.start?]; rfl) (fun d hd => sweeps_starts hd)
    fun w more hr => ?_
  cases hn with
  | started =>
    cases hr with
    | poll => exact .permission
    | submission _ hd => cases hd
  | enqueue =>
    cases hr with
    | poll _ hn => simp at hn
    | submission _ hd => cases hd

theorem sweeps_of_leads (hl : Leads ids next) (h : (c.suspend k .turn next).Sound) :
    Sweeps k ids next c := by
  cases hl with
  | starts => exact sweeps_starts h
  | follows hn => exact sweeps_follows hn h
  | refetches =>
    refine sweeps_cons ids h rfl (fun d hd => sweeps_follows (.enqueue ..) hd)
      fun w more hr => ?_
    cases hr with
    | refresh hw => exact .right (by rcases hw with rfl | rfl <;> rfl) (.enqueue ..)
    | poll _ hn => simp at hn
    | submission _ hd => cases hd

end

/-! What it does when it is told what it waited for -/

/-- Whether some entry is paused, and has so many errors that its pause exceeds every delay. -/
def Overlong (c : Client) : Prop :=
  ∃ id x, c.account? id = some x ∧ x.status = .paused ∧ c.settings.resumeDelay? x.errors = none

/-- A course on which a task has some entries to start, or comes to its end by a pause without a
    length. -/
inductive Courses (ids : List EntryId) (d : Client) : Course → Prop
  | goesOn {next : List Next} : Leads ids next → Courses ids d (.goesOn next)
  | waits {w : Wait} {next : List Next} : Starting ids w next → Courses ids d (.waits w next)
  | ends : d.Overlong → Courses ids d .ends

section

variable {c : Client} {k : TaskId} {ids : List EntryId} {next : List Next}

theorem courses_pause (hl : Leads ids next) (id : EntryId) :
    Courses ids (c.pause id next).1 (c.pause id next).2 := by
  cases he : c.entry? id with
  | none =>
    have hcourse : (c.pause id next).2 = .goesOn next := by
      rw [pause_eq, entry?_retime, he]
      rfl
    exact hcourse ▸ .goesOn hl
  | some e =>
    obtain ⟨hstops, hwaits, hends⟩ := pausing he next
    cases hdelay : c.settings.resumeDelay? e.errors with
    | some delay => exact (hwaits delay hdelay).2.2 ▸ .goesOn hl
    | none =>
      rw [(hends hdelay).2.2]
      have hsettings : (c.pause id next).1.settings = c.settings :=
        congrArg Prod.fst (fixed_pause c id next)
      refine .ends ⟨id, _, congrArg (Option.map Entry.account) hstops, rfl, ?_⟩
      rw [hsettings, Entry.account_retimed, Account.errors_retimed]
      exact hdelay

theorem courses_pollFailed (hl : Leads ids next) (id : EntryId) (server : Server) (fault : Error) :
    Courses ids (c.pollFailed id server fault next).1 (c.pollFailed id server fault next).2 := by
  rw [pollFailed]
  split
  · exact courses_pause hl id
  · exact .goesOn hl

theorem courses_of_heed {t : Task} {s : Signal} {b : Client × Course}
    (h : Starting ids t.wait t.next) (heq : c.heed t s = some b) : Courses ids b.1 b.2 := by
  cases heeds_of_heed heq with
  | granted =>
    cases h with
    | right hg hn =>
      unfold refresh
      split
      · exact .goesOn (.follows hn)
      · split
        · exact .goesOn (.follows hn)
        · split
          · exact .goesOn (.follows hn)
          · exact .waits (.resources hn)
  | resources =>
    cases h with
    | right hg => cases hg
    | resources hn => exact .goesOn (.follows hn)
  | permission =>
    cases h with
    | right hg => cases hg
    | permission =>
      unfold permitted
      split
      · exact courses_pollFailed .starts ..
      · exact .waits .jobs
  | jobs =>
    cases h with
    | right hg => cases hg
    | jobs =>
      unfold polled
      split
      · exact courses_pollFailed .starts ..
      · dsimp only
        split
        · exact .goesOn (.refetches ..)
        · exact .goesOn (.follows (.enqueue ..))
  | _ =>
    cases h with
    | right hg => cases hg

/-- In a turn the task starts some of the entries that it has to start, and keeps the others, unless it
    comes to its end by a pause without a length. -/
theorem sweeps_turn (h : c.Sound) {a : Act} (p : c.Permits a) {t : Task} (ht : t ∈ c.tasks)
    (hs : Starting ids t.wait t.next) (ha : c.isTurn t.id a = true) :
    ∃ left, starts (c.doneBy a) ++ left = ids ∧ ((c.after a).Sweeping t.id left ∨
      (c.after a).Over t.id ∧ (c.after a).Overlong) := by
  cases a with
  | wake u s =>
    obtain ⟨hid, hheed⟩ : u.id = t.id ∧ ((c.dropTask u.id).heed u s).isSome := by
      simpa [isTurn] using ha
    obtain rfl : u = t := List.inj_on_of_nodup_map h.numbered.nodup p.1 ht hid
    obtain ⟨b, heq⟩ := Option.isSome_iff_exists.1 hheed
    have hdrop : (c.dropTask u.id).Sound := (h.resume ht).of_suspend
    obtain ⟨xs, hx, -⟩ := (told_of_heed hdrop.numbered hdrop.registered heq).adds
    have hover : b.1.Over u.id := (hx.spares (h.numbered.below u ht)).over (over_dropTask c u.id)
    have hsound := (h.resume ht).heed heq
    have hcourse := courses_of_heed hs heq
    rw [after, wake, doneBy, heq]
    obtain ⟨d, course⟩ := b
    cases hcourse with
    | goesOn hl =>
      obtain ⟨left, hleft, hrun⟩ := sweeps_of_leads hl hsound
      exact ⟨left, hleft, .inl hrun⟩
    | waits hw =>
      exact ⟨ids, rfl, .inl (.inl ⟨_, List.mem_append_right _ List.mem_cons_self, rfl, hw⟩)⟩
    | ends hlong => exact ⟨ids, rfl, .inr ⟨hover, hlong⟩⟩
  | _ => cases ha

theorem Sweeping.spares {d : Client} (h : c.Sweeping k ids) (hs : Spares k c d) :
    d.Sweeping k ids := by
  rcases h with ⟨t, ht, hid, hstart⟩ | ⟨rfl, hover⟩
  · obtain ⟨u, hu, heq⟩ :=
      List.mem_map.1 ((hs.stands t.asGranted hid).2 (List.mem_map_of_mem ht))
    have hnext : u.next = t.next := by
      rw [← Task.asGranted_next, heq, Task.asGranted_next]
    refine .inl ⟨u, hu, ?_, ?_⟩
    · rw [← hid, ← Task.asGranted_id, heq, Task.asGranted_id]
    · rw [hnext]
      exact hstart.of_asGranted (congrArg Task.wait heq)
  · exact .inr ⟨rfl, hs.over hover⟩

/-! Through a run -/

/-- The entries that a task begins to start in some acts. -/
def swept (c : Client) (k : TaskId) (acts : List Act) : List EntryId :=
  (c.turns k acts).flatMap fun p => starts (p.1.doneBy p.2)

/-- Whether a task comes to its end in some act by a pause without a length. -/
def CutShort (c : Client) (k : TaskId) (acts : List Act) : Prop :=
  ∃ past a rest, acts = past ++ a :: rest ∧ (c.afterAll past).isTurn k a = true ∧
    ((c.afterAll past).after a).Overlong

theorem swept_cons (c : Client) (k : TaskId) (a : Act) (acts : List Act) :
    c.swept k (a :: acts) =
      (if c.isTurn k a then starts (c.doneBy a) else []) ++ (c.after a).swept k acts := by
  rw [swept, turns, List.flatMap_append, swept]
  split <;> simp

/-- What a task has started is the beginning of what it was to start. The rest it is still to start,
    unless it has come to its end before. -/
theorem sweeping_afterAll (hc : Reachable c) {acts : List Act} (allows : c.Allows acts)
    (hk : k < c.taskCount) (h : c.Sweeping k ids) :
    ∃ left, c.swept k acts ++ left = ids ∧ ((c.afterAll acts).Sweeping k left ∨
      (c.afterAll acts).Over k ∧ c.CutShort k acts) := by
  induction acts generalizing c ids with
  | nil => exact ⟨ids, rfl, .inl h⟩
  | cons a acts ih =>
    have hnext := hc.act allows.1
    have cut : (c.after a).CutShort k acts → c.CutShort k (a :: acts) := by
      rintro ⟨past, b, rest, rfl, hb, hlong⟩
      exact ⟨a :: past, b, rest, rfl, hb, hlong⟩
    rw [swept_cons]
    by_cases ha : c.isTurn k a = true
    · rw [if_pos ha]
      rcases h with ⟨t, ht, rfl, hstart⟩ | ⟨-, hover⟩
      · obtain ⟨left, hleft, hstands⟩ := sweeps_turn hc.sound allows.1 ht hstart ha
        have hcount : c.taskCount ≤ (c.after a).taskCount := by
          cases a with
          | wake u s => exact taskCount_wake hc.sound allows.1.1 s
          | _ => cases ha
        have hk' := Nat.lt_of_lt_of_le hk hcount
        rcases hstands with hsweep | ⟨hover, hlong⟩
        · obtain ⟨more, hmore, hend⟩ := ih hnext allows.2 hk' hsweep
          exact ⟨more, by rw [List.append_assoc, hmore, hleft], hend.imp_right (.imp_right cut)⟩
        · obtain ⟨hturns, hover⟩ := turns_of_over hnext allows.2 hk' hover
          refine ⟨left, ?_, .inr ⟨hover, [], a, acts, rfl, ha, hlong⟩⟩
          rw [swept, hturns]
          simpa using hleft
      · exact absurd hover (not_over_of_isTurn allows.1 ha)
    · rw [if_neg ha]
      have hs := spares_after hc.sound allows.1 hk (Bool.eq_false_iff.2 ha)
      obtain ⟨left, hleft, hend⟩ :=
        ih hnext allows.2 (Nat.lt_of_lt_of_le hk hs.count) (h.spares hs)
      exact ⟨left, hleft, hend.imp_right (.imp_right cut)⟩

end

/-! All servers -/

/-- The course of the call that starts all servers, and of the acts after it. -/
structure Sweep (c : Client) (acts : List Act) : Prop where
  /-- The entries that it has started and those that it has left are the registered ones, in order. It
      has none left when it is over, unless it came to its end by a pause without a length. -/
  started : ∃ left,
    starts (c.doneBy .startAll) ++ (c.after .startAll).swept c.startQueue.taskCount acts ++ left =
      c.registry.map (·.2) ∧
    ((∃ t ∈ ((c.after .startAll).afterAll acts).tasks, t.id = c.startQueue.taskCount ∧
        starts t.next = left) ∨
      ((c.after .startAll).afterAll acts).Over c.startQueue.taskCount ∧
        (left = [] ∨ (c.after .startAll).CutShort c.startQueue.taskCount acts))

theorem sweep {c : Client} (hc : Reachable c) {acts : List Act}
    (allows : (c.after .startAll).Allows acts) : Sweep c acts := by
  have hstarts : c.startServers = (c.registry.map (·.2)).map .start := by simp [startServers]
  have hs := hc.sound.undertakeStartAll
  rw [hstarts] at hs
  obtain ⟨ids, hids, hsweep⟩ := sweeps_starts hs
  have hcount : c.startQueue.taskCount < (c.after .startAll).taskCount := by
    change _ < (run _ c.startServers _).taskCount
    rw [hstarts]
    exact Nat.lt_of_lt_of_le (Nat.lt_succ_self _) (taskCount_run hs)
  have hafter : (c.after .startAll).Sweeping c.startQueue.taskCount ids := by
    change (run _ c.startServers _).Sweeping _ ids
    rw [hstarts]
    exact hsweep
  obtain ⟨left, hleft, hend⟩ := sweeping_afterAll (hc.act (a := .startAll) trivial) allows hcount hafter
  refine ⟨left, ?_, ?_⟩
  · change starts (doing _ c.startServers _) ++ _ ++ left = _
    rw [hstarts, List.append_assoc, hleft]
    exact hids
  · rcases hend with (⟨t, ht, hid, hstart⟩ | ⟨rfl, hover⟩) | ⟨hover, hcut⟩
    · exact .inl ⟨t, ht, hid, hstart.starts⟩
    · exact .inr ⟨hover, .inl rfl⟩
    · exact .inr ⟨hover, .inr hcut⟩

end Client
end Harvest.Sync
