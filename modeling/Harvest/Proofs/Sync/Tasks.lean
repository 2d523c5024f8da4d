import Mathlib.Data.List.Nodup
import Harvest.Proofs.Sync.Act
/-!
The tasks of a client. A task that acts is not among those that wait; what it does to the others is
at most to hand one of them the right to refresh, and to add new tasks behind them.
-/

namespace Harvest.Sync

/-- A wait, as if what it waits for in a lock were there. -/
def Wait.asGranted : Wait → Wait
  | .lock id forced => .granted id forced
  | w => w

theorem Wait.eq_of_asGranted {w v : Wait} (h : w.asGranted = v.asGranted) :
    w = v ∨ ∃ id forced, v.asGranted = .granted id forced := by
  cases v with
  | lock id forced => exact .inr ⟨id, forced, rfl⟩
  | granted id forced => exact .inr ⟨id, forced, rfl⟩
  | _ =>
    refine .inl ?_
    cases w <;> first | exact h | cases h

def Task.asGranted (t : Task) : Task := { t with wait := t.wait.asGranted }

@[simp] theorem Task.asGranted_id (t : Task) : t.asGranted.id = t.id := rfl

@[simp] theorem Task.asGranted_next (t : Task) : t.asGranted.next = t.next := rfl

namespace Client

/-- The numbers of the tasks are different, and smaller than those of tasks to come. -/
structure Numbered (c : Client) : Prop where
  nodup : (c.tasks.map (·.id)).Nodup
  below : ∀ t ∈ c.tasks, t.id < c.taskCount

/-- One client has the tasks of another one, apart from what they wait for a lock for, and some
    fresh ones. -/
structure Adds (c d : Client) (fresh : List Task) : Prop where
  tasks : (d.tasks.map Task.asGranted).Perm (c.tasks.map Task.asGranted ++ fresh)
  nodup : (fresh.map (·.id)).Nodup
  ids : ∀ t ∈ fresh, c.taskCount ≤ t.id ∧ t.id < d.taskCount
  count : c.taskCount ≤ d.taskCount

theorem Adds.of_eq {c d : Client} (tasks : d.tasks = c.tasks)
    (count : d.taskCount = c.taskCount) : Adds c d [] :=
  ⟨by rw [tasks, List.append_nil], List.nodup_nil, by simp, Nat.le_of_eq count.symm⟩

theorem Adds.refl (c : Client) : Adds c c [] := .of_eq rfl rfl

theorem Adds.trans {c d e : Client} {xs ys : List Task} (h : Adds c d xs) (g : Adds d e ys) :
    Adds c e (xs ++ ys) := by
  refine ⟨?_, ?_, ?_, Nat.le_trans h.count g.count⟩
  · calc
      (e.tasks.map Task.asGranted).Perm (d.tasks.map Task.asGranted ++ ys) := g.tasks
      _ |>.Perm ((c.tasks.map Task.asGranted ++ xs) ++ ys) := h.tasks.append_right ys
      _ |>.Perm (c.tasks.map Task.asGranted ++ (xs ++ ys)) := by rw [List.append_assoc]
  · rw [List.map_append, List.nodup_append]
    refine ⟨h.nodup, g.nodup, ?_⟩
    intro a ha b hb
    obtain ⟨t, ht, rfl⟩ := List.mem_map.1 ha
    obtain ⟨u, hu, rfl⟩ := List.mem_map.1 hb
    exact Nat.ne_of_lt (Nat.lt_of_lt_of_le (h.ids t ht).2 (g.ids u hu).1)
  · intro t ht
    rcases List.mem_append.1 ht with ht | ht
    · exact ⟨(h.ids t ht).1, Nat.lt_of_lt_of_le (h.ids t ht).2 g.count⟩
    · exact ⟨Nat.le_trans h.count (g.ids t ht).1, (g.ids t ht).2⟩

theorem Adds.spawn (c : Client) (next : List Next) :
    Adds c (c.spawn next) [⟨c.taskCount, .turn, next⟩] := by
  refine ⟨?_, by simp, by simp [Client.spawn], by simp [Client.spawn]⟩
  simp [Client.spawn, Task.asGranted, Wait.asGranted]

theorem Adds.suspend {c d : Client} {xs : List Task} (h : Adds c d xs) (k : TaskId) (w : Wait)
    (next : List Next) : Adds (c.suspend k w next) (d.suspend k w next) xs := by
  refine ⟨?_, h.nodup, h.ids, h.count⟩
  simp only [Client.suspend, List.map_append, List.append_assoc]
  calc
    (d.tasks.map Task.asGranted ++ [Task.asGranted ⟨k, w, next⟩]).Perm
        ((c.tasks.map Task.asGranted ++ xs) ++ [Task.asGranted ⟨k, w, next⟩]) :=
      h.tasks.append_right _
    _ |>.Perm (c.tasks.map Task.asGranted ++ ([Task.asGranted ⟨k, w, next⟩] ++ xs)) := by
      rw [List.append_assoc]
      exact List.perm_append_comm.append_left _

theorem Adds.ids_perm {c d : Client} {xs : List Task} (h : Adds c d xs) :
    (d.tasks.map (·.id)).Perm (c.tasks.map (·.id) ++ xs.map (·.id)) := by
  have := h.tasks.map (·.id)
  simpa [Function.comp_def] using this

theorem Adds.numbered {c d : Client} {xs : List Task} (h : Adds c d xs) (hc : c.Numbered) :
    d.Numbered := by
  have hp := h.ids_perm
  constructor
  · rw [hp.nodup_iff, List.nodup_append]
    refine ⟨hc.nodup, h.nodup, ?_⟩
    intro a ha b hb
    obtain ⟨t, ht, rfl⟩ := List.mem_map.1 ha
    obtain ⟨u, hu, rfl⟩ := List.mem_map.1 hb
    exact Nat.ne_of_lt (Nat.lt_of_lt_of_le (hc.below t ht) (h.ids u hu).1)
  · intro t ht
    have hm : t.id ∈ c.tasks.map (·.id) ++ xs.map (·.id) := hp.mem_iff.1 (List.mem_map_of_mem ht)
    rcases List.mem_append.1 hm with hm | hm
    · obtain ⟨u, hu, hid⟩ := List.mem_map.1 hm
      exact hid ▸ Nat.lt_of_lt_of_le (hc.below u hu) h.count
    · obtain ⟨u, hu, hid⟩ := List.mem_map.1 hm
      exact hid ▸ (h.ids u hu).2

/-! Leaving the waiting tasks and coming back -/

theorem Numbered.of_suspend {c : Client} {k : TaskId} {w : Wait} {next : List Next}
    (h : (c.suspend k w next).Numbered) : c.Numbered := by
  have hn := h.nodup
  simp only [suspend, List.map_append] at hn
  exact ⟨(List.nodup_append.1 hn).1, fun t ht => h.below t (by simp [suspend, ht])⟩

theorem Numbered.dropTask_split {c : Client} (h : c.Numbered) {t : Task} {xs ys : List Task}
    (hxy : c.tasks = xs ++ t :: ys) : (c.dropTask t.id).tasks = xs ++ ys := by
  have hn := h.nodup
  rw [hxy] at hn
  simp only [List.map_append, List.map_cons, List.nodup_append, List.nodup_cons] at hn
  have hx : xs.filter (fun u => u.id ≠ t.id) = xs := by
    rw [List.filter_eq_self]
    intro u hu
    simpa using hn.2.2 _ (List.mem_map_of_mem hu) _ List.mem_cons_self
  have hy : ys.filter (fun u => u.id ≠ t.id) = ys := by
    rw [List.filter_eq_self]
    intro u hu
    have : u.id ≠ t.id := fun e => hn.2.1.1 (e ▸ List.mem_map_of_mem hu)
    simpa using this
  rw [dropTask, hxy, List.filter_append, List.filter_cons_of_neg (by simp), hx, hy]

theorem Numbered.exists_split {c : Client} (h : c.Numbered) {t : Task} (ht : t ∈ c.tasks) :
    ∃ xs ys, c.tasks = xs ++ t :: ys ∧ (c.dropTask t.id).tasks = xs ++ ys := by
  obtain ⟨xs, ys, hxy⟩ := List.append_of_mem ht
  exact ⟨xs, ys, hxy, h.dropTask_split hxy⟩

theorem Numbered.task?_eq {c : Client} (h : c.Numbered) {t : Task} (ht : t ∈ c.tasks) :
    c.task? t.id = some t := by
  cases hf : c.task? t.id with
  | none => exact absurd (List.find?_eq_none.1 hf t ht) (by simp)
  | some u =>
    have hid : u.id = t.id := by simpa using List.find?_some hf
    rw [List.inj_on_of_nodup_map h.nodup (List.mem_of_find?_eq_some hf) ht hid]

theorem Numbered.tasks_perm {c : Client} (h : c.Numbered) {t : Task} (ht : t ∈ c.tasks) :
    c.tasks.Perm (t :: (c.dropTask t.id).tasks) := by
  obtain ⟨xs, ys, hxy, hd⟩ := h.exists_split ht
  rw [hd, hxy]
  exact List.perm_middle

/-- A task that goes back to its wait leaves everything as it was, but for the order. -/
theorem Numbered.adds_resume {c : Client} (h : c.Numbered) {t : Task} (ht : t ∈ c.tasks)
    {w : Wait} (hw : w.asGranted = t.wait.asGranted) :
    Adds c ((c.dropTask t.id).suspend t.id w t.next) [] := by
  refine ⟨?_, List.nodup_nil, by simp, Nat.le_refl _⟩
  have ha : Task.asGranted ⟨t.id, w, t.next⟩ = t.asGranted := by simp only [Task.asGranted, hw]
  have hp := ((h.tasks_perm ht).map Task.asGranted).symm
  simp only [suspend, List.map_append, List.map_cons, List.map_nil, ha, List.append_nil]
  exact (List.perm_append_singleton _ _).trans hp

theorem mem_of_task? {c : Client} {k : TaskId} {t : Task} (h : c.task? k = some t) :
    t ∈ c.tasks ∧ t.id = k :=
  ⟨List.mem_of_find?_eq_some h, by simpa using List.find?_some h⟩

/-! What is told of servers has nothing to do with the tasks. -/

theorem entries_addServer (c : Client) (s : Server) :
    (c.addServer s).entries = c.entries ++ [Entry.new s] := by
  unfold addServer
  dsimp only
  split <;> rfl

theorem tasks_addServer (c : Client) (s : Server) : (c.addServer s).tasks = c.tasks := by
  unfold addServer
  dsimp only
  split <;> rfl

theorem taskCount_addServer (c : Client) (s : Server) :
    (c.addServer s).taskCount = c.taskCount := by
  unfold addServer
  dsimp only
  split <;> rfl

/-! What the parts of an act do to the tasks -/

section

variable {c d : Client} {xs : List Task}

theorem Adds.congr (h : Adds c d xs) {e : Client} (tasks : e.tasks = d.tasks)
    (count : e.taskCount = d.taskCount) : Adds c e xs := by
  simpa using h.trans (.of_eq tasks count)

theorem Adds.reveal (h : Adds c d xs) (s : Sign) : Adds c (d.reveal s) xs := h.congr rfl rfl

theorem Adds.modifyEntry (h : Adds c d xs) (id : EntryId) (f : Entry → Entry) :
    Adds c (d.modifyEntry id f) xs := h.congr rfl rfl

theorem Adds.grant (n : c.Numbered) (h : Adds c d xs) (k : TaskId) : Adds c (d.grant k) xs := by
  unfold Client.grant
  split
  · rename_i i id forced next heq
    obtain ⟨hm, hi⟩ := mem_of_task? heq
    subst hi
    have g := (h.numbered n).adds_resume (w := .granted id forced) hm rfl
    simpa using h.trans g
  · exact h

end

end Client
end Harvest.Sync
