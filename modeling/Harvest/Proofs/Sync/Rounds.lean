import Harvest.Proofs.Sync.Courses
/-!
The rounds of tasks: the servers that a task is still to start or to poll. It comes to none of them
twice, and a task that submits a result starts none. So an error that a task is told of is the last
thing that it has to do with the server.
-/

namespace Harvest.Sync

/-- The entry that a task starts or polls by something that it does. -/
def Next.calls? : Next → Option EntryId
  | .start id => some id
  | .started id _ => some id
  | .poll id => some id
  | _ => none

/-- The entry that a task polls while it waits. -/
def Wait.calls? : Wait → Option EntryId
  | .permission id _ => some id
  | .jobs id _ _ => some id
  | _ => none

def Wait.delivers : Wait → Bool
  | .submission .. => true
  | .page .. => true
  | _ => false

namespace Task

def round (t : Task) : List EntryId := t.wait.calls?.toList ++ t.next.filterMap Next.calls?

def delivers (t : Task) : Bool := t.wait.delivers || t.next.any Next.delivers

structure Rounded (t : Task) : Prop where
  staged : t.Staged
  round : t.round.Nodup
  starts : t.delivers = true → ∀ id, .start id ∉ t.next

theorem Rounded.follows {t u : Task} (h : t.Rounded) (staged : u.Staged)
    (round : u.round.Sublist t.round) (delivers : u.delivers = true → t.delivers = true)
    (starts : ∀ id, .start id ∈ u.next → .start id ∈ t.next) : u.Rounded :=
  ⟨staged, round.nodup h.round, fun hd id hs => h.starts (delivers hd) id (starts id hs)⟩

theorem round_asGranted (t : Task) : t.asGranted.round = t.round := by
  obtain ⟨k, w, next⟩ := t
  cases w <;> rfl

theorem delivers_asGranted (t : Task) : t.asGranted.delivers = t.delivers := by
  obtain ⟨k, w, next⟩ := t
  cases w <;> rfl

theorem round_starts (k : TaskId) (ids : List EntryId) :
    round ⟨k, .turn, ids.map .start⟩ = ids := by
  rw [round, List.filterMap_map]
  exact List.filterMap_some

/-- A task that has nothing to do with servers by what it waits for, and one thing to do. -/
theorem rounded_single {k : TaskId} {w : Wait} (calls : w.calls? = none) (idle : w.delivers = false)
    {n : Next} (staged : Task.Staged ⟨k, w, [n]⟩) : Rounded ⟨k, w, [n]⟩ := by
  refine ⟨staged, ?_, fun hd id hs => ?_⟩
  · rw [round, calls]
    cases h : n.calls? <;> simp [h]
  · obtain rfl := List.mem_singleton.1 hs
    rw [delivers, idle] at hd
    cases hd

end Task

namespace Client

section

variable {c : Client} {k : TaskId}

theorem Onward.delivers {v w : Wait} (h : Onward v w) : w.delivers = false := by
  cases h <;> rfl

theorem Onward.calls? {v w : Wait} (h : Onward v w) :
    w.calls?.toList.Sublist v.calls?.toList := by
  cases h with
  | jobs => exact .refl _
  | resources => exact .refl _
  | drive => exact .refl _

/-- A task goes on with a part of its plan, after some things that start and poll nothing. -/
theorem rounded_goesOn {t u : Task} (h : t.Rounded) (staged : u.Staged)
    (wait : u.wait = .turn ∨ Onward t.wait u.wait) (more : List Next) {rest : List Next}
    (next : u.next = more ++ rest) (sub : rest.Sublist t.next)
    (quiet : ∀ n ∈ more, n.calls? = none ∧ (n.delivers = true → t.delivers = true)) :
    u.Rounded := by
  have hmore : more.filterMap Next.calls? = [] :=
    List.filterMap_eq_nil_iff.2 fun n hn => (quiet n hn).1
  have hcalls : u.wait.calls?.toList.Sublist t.wait.calls?.toList := by
    rcases wait with hw | hw
    · rw [hw]
      exact List.nil_sublist _
    · exact hw.calls?
  have hwait : u.wait.delivers = false := by
    rcases wait with hw | hw
    · rw [hw]
      rfl
    · exact hw.delivers
  refine h.follows staged ?_ (fun hd => ?_) fun id hs => ?_
  · rw [Task.round, next, List.filterMap_append, hmore, List.nil_append]
    exact hcalls.append (sub.filterMap _)
  · rw [Task.delivers, hwait, Bool.false_or, next] at hd
    obtain ⟨n, hn, hd⟩ := List.any_eq_true.1 hd
    rcases List.mem_append.1 hn with hn | hn
    · exact (quiet n hn).2 hd
    · rw [Task.delivers, List.any_eq_true.2 ⟨n, sub.subset hn, hd⟩, Bool.or_true]
  · rw [next] at hs
    rcases List.mem_append.1 hs with hs | hs
    · cases (quiet _ hs).1
    · exact sub.subset hs

theorem rounded_heed {t : Task} {s : Signal} {a : Client × Course} (heq : c.heed t s = some a)
    (h : t.Rounded) : ∀ u, coursing t.id a.2 = some u → u.Rounded := by
  intro u hu
  have staged : u.Staged := staged_heed h.staged heq u hu
  have hwait : u.wait = .turn ∨ Onward t.wait u.wait := by
    have honward := fun w => onward_of_heed heq (w := w)
    obtain ⟨d, course⟩ := a
    cases course with
    | goesOn next =>
      cases hu
      exact .inl rfl
    | waits w next =>
      cases hu
      exact .inr (honward w rfl)
    | ends => cases hu
  have hplan : u.next = a.2.plan := by
    obtain ⟨d, course⟩ := a
    cases course <;> cases hu <;> rfl
  have part : a.2.plan.Sublist t.next → u.Rounded := fun hsub =>
    rounded_goesOn h staged hwait [] hplan hsub (by simp)
  cases heeds_of_heed heq with
  | turn => exact part (.refl _)
  | granted => exact part (by rw [plan_refresh])
  | resources => exact part (.refl _)
  | permission =>
    refine part ?_
    unfold permitted
    split
    · exact plan_pollFailed ..
    · exact .refl _
  | @jobs k id server r reply next =>
    cases hanswer : Coordinator.jobs c.settings.requestTimeout r reply with
    | error fault =>
      rw [hanswer] at part
      exact part (plan_pollFailed ..)
    | ok answer =>
      rw [hanswer] at hplan
      simp only [polled] at hplan
      split at hplan
      · exact rounded_goesOn h staged hwait [_, _] hplan (.refl _)
          (by simp [Next.calls?, Next.delivers])
      · exact rounded_goesOn h staged hwait [_] hplan (.refl _)
          (by simp [Next.calls?, Next.delivers])
  | @submission k d server hash r reply next =>
    cases houtcome : Coordinator.submission c.settings.requestTimeout reply with
    | error fault =>
      rw [houtcome] at part
      exact part (.refl _)
    | ok outcome =>
      rw [houtcome] at hplan part
      cases outcome with
      | accepted => exact part (.refl _)
      | rejected status body => exact part (.refl _)
      | preconditionFailed =>
        simp only [delivered] at hplan part
        split at hplan
        · exact rounded_goesOn h staged hwait [_, _] hplan (.refl _)
            (by simp [Next.calls?, Task.delivers, Wait.delivers])
        · rename_i hlast
          rw [if_neg hlast] at part
          exact part (plan_pause ..)
  | page =>
    exact rounded_goesOn h staged hwait [_] hplan (.refl _)
      (by simp [Next.calls?, Task.delivers, Wait.delivers])
  | tick =>
    cases h.staged with
    | right hg => cases hg
    | tick =>
      cases hu
      exact ⟨staged, List.nodup_singleton _, fun hd => by cases hd⟩
  | resume =>
    cases h.staged with
    | right hg => cases hg
    | resume =>
      cases hu
      exact Task.rounded_single rfl rfl staged
  | drive hc =>
    rcases hc with rfl | ⟨_, rfl⟩
    · cases hu
    · exact part (.refl _)
  | tickCancelled => cases hu
  | resumeCancelled => cases hu

theorem Fresh.rounded {t : Task} (h : Fresh t) : t.Rounded := by
  have hstaged := lasting_staged.fresh h
  cases h with
  | _ => exact Task.rounded_single rfl rfl hstaged

theorem Begun.rounded {next : List Next} (h : c.Begun next) (distinct : c.Distinct) (k : TaskId) :
    Task.Rounded ⟨k, .turn, next⟩ := by
  have hstaged := lasting_staged.begun k distinct h
  cases h with
  | @start ids hids =>
    refine ⟨hstaged, ?_, fun hd => ?_⟩
    · rw [Task.round_starts]
      exact hids.nodup distinct.entries
    · obtain ⟨n, hn, hd⟩ := List.any_eq_true.1 (show (ids.map Next.start).any Next.delivers = true
        from hd)
      obtain ⟨id, -, rfl⟩ := List.mem_map.1 hn
      cases hd
  | submit r => exact Task.rounded_single rfl rfl hstaged

/-- A task that comes to a wait by something that it does starts, polls and submits no more than it
    was to. -/
theorem rounded_rests {n : Next} {rest more : List Next} {w : Wait}
    (h : Task.Rounded ⟨k, .turn, n :: rest⟩) (staged : Task.Staged ⟨k, w, more ++ rest⟩)
    (calls : (w.calls?.toList ++ more.filterMap Next.calls?).Sublist n.calls?.toList)
    (delivers : (w.delivers || more.any Next.delivers) = true → n.delivers = true)
    (starts : ∀ id, .start id ∉ more) : Task.Rounded ⟨k, w, more ++ rest⟩ := by
  refine h.follows staged ?_ (fun hd => ?_) fun id hs => ?_
  · rw [Task.round, Task.round, filterMap_cons_toList, List.filterMap_append, ← List.append_assoc]
    exact calls.append_right _
  · simp only [Task.delivers, List.any_append, ← Bool.or_assoc] at hd
    rw [Task.delivers, List.any_cons]
    rcases (Bool.or_eq_true _ _).mp hd with hd | hd
    · rw [delivers hd, Bool.true_or, Bool.or_true]
    · rw [hd, Bool.or_true, Bool.or_true]
  · exact List.mem_cons_of_mem n ((List.mem_append.1 hs).resolve_left (starts id))

theorem Rests.rounded {n : Next} {rest more : List Next} {w : Wait}
    (h : c.Rests n (.waiting w more)) (hs : Task.Rounded ⟨k, .turn, n :: rest⟩) :
    Task.Rounded ⟨k, w, more ++ rest⟩ := by
  have keeps := rounded_rests hs (lasting_staged.waiting h hs.staged)
  cases h with
  | refresh hw =>
    rcases hw with rfl | rfl
    · exact keeps (.refl _) (by simp [Wait.delivers]) (by simp)
    · exact keeps (.refl _) (by simp [Wait.delivers]) (by simp)
  | start hw =>
    rcases hw with rfl | rfl
    · exact keeps (.refl _) (by simp [Wait.delivers, Next.delivers]) (by simp)
    · exact keeps (.refl _) (by simp [Wait.delivers, Next.delivers]) (by simp)
  | poll _ hn =>
    rcases hn with rfl | ⟨token, -, rfl⟩
    · exact keeps (.refl _) (by simp [Wait.delivers]) (by simp)
    · exact keeps (.refl _) (by simp [Wait.delivers]) (by simp)
  | submission _ hd => exact keeps (List.nil_sublist _) (fun _ => hd) (by simp)
  | page => exact keeps (.refl _) (fun _ => rfl) (by simp)
  | _ => exact keeps (.refl _) (by simp [Wait.delivers]) (by simp)

end

theorem rounded_asGranted {t u : Task} (heq : t.asGranted = u.asGranted) (h : u.Rounded) :
    t.Rounded := by
  have hnext : t.next = u.next := by
    rw [← Task.asGranted_next, heq, Task.asGranted_next]
  refine h.follows (lasting_staged.granted heq h.staged) ?_ (fun hd => ?_) fun id hs => hnext ▸ hs
  · rw [← Task.round_asGranted, heq, Task.round_asGranted]
  · rwa [← Task.delivers_asGranted, ← heq, Task.delivers_asGranted]

theorem lasting_rounded : Lasting Task.Rounded where
  granted := rounded_asGranted
  fresh := Fresh.rounded
  begun k _ distinct hb := hb.rounded distinct k
  execute _ _ := Task.rounded_single rfl rfl (.turn rfl)
  heed := rounded_heed
  done {k n rest} h := by
    refine h.follows (lasting_staged.done h.staged) ?_ (fun hd => ?_) fun id hs =>
      List.mem_cons_of_mem n hs
    · exact (List.sublist_cons_self n rest).filterMap _
    · exact List.any_eq_true.2 ((List.any_eq_true.1 hd).imp fun m hm =>
        ⟨List.mem_cons_of_mem n hm.1, hm.2⟩)
  waiting := Rests.rounded

theorem Reachable.rounded {c : Client} (h : Reachable c) {t : Task} (ht : t ∈ c.tasks) :
    t.Rounded :=
  lasting_rounded.reachable h t ht

/-- A task that is told of an error does not start the entry that it is counted against. -/
theorem not_starts_of_fault {c : Client} (h : Reachable c) {t : Task} {s : Signal}
    (p : c.Permits (.wake t s)) {id : EntryId} (hf : c.fault? t s = some id) :
    .start id ∉ c.doneBy (.wake t s) := by
  have hrounded := h.rounded p.1
  intro hd
  -- an error leaves at most the rest of the plan to do
  have hnext : .start id ∈ t.next := by
    rcases occasion_of_doneBy hd with hn | ha | hn | hn | hn
    · exact hn
    · cases ha
      cases hf
  have hcalls : id ∈ t.next.filterMap Next.calls? := List.mem_filterMap.2 ⟨_, hnext, rfl⟩
  have hnot : t.wait.calls? ≠ some id := fun hw => by
    have hnodup := hrounded.round
    rw [Task.round, hw] at hnodup
    exact (List.nodup_cons.1 hnodup).1 hcalls
  unfold fault? at hf
  split at hf
  · rename_i hw
    split at hf <;> cases hf
    exact hnot (by rw [hw]; rfl)
  · rename_i hw
    split at hf <;> cases hf
    exact hnot (by rw [hw]; rfl)
  · rename_i hw
    exact hrounded.starts (by rw [Task.delivers, hw]; rfl) id hnext
  · cases hf

end Client
end Harvest.Sync
