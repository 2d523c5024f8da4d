import Harvest.Proofs.Sync.Works
/-!
The right to refresh an entry. At most one task has it, from the moment that it is given until the
fetch of the resources has ended; those that wait for it are on the list of the lock, in the order
in which they came, and there are none while nobody has the right.
-/

namespace Harvest.Sync

/-- Whether a task has the right to refresh an entry. -/
def Task.holds (id : EntryId) (t : Task) : Bool :=
  match t.wait with
  | .granted j _ => j = id
  | .resources j _ _ => j = id
  | _ => false

/-- Whether a task waits for the right to refresh an entry. -/
def Task.lines (id : EntryId) (t : Task) : Bool :=
  match t.wait with
  | .lock j _ => j = id
  | _ => false

/-- Whether a task has nothing to do with the right to refresh an entry. -/
def Task.Apart (id : EntryId) (t : Task) : Prop := t.holds id = false ∧ t.lines id = false

/-- Whether a wait has nothing to do with the right to refresh. -/
def Wait.Free : Wait → Prop
  | .lock .. => False
  | .granted .. => False
  | .resources .. => False
  | _ => True

theorem Wait.Free.apart {w : Wait} (h : w.Free) (k : TaskId) (next : List Next) (id : EntryId) :
    Task.Apart id ⟨k, w, next⟩ := by
  cases w <;> first | exact ⟨rfl, rfl⟩ | exact h.elim

theorem Task.apart_of_ne {k : TaskId} {id j : EntryId} (h : id ≠ j) {w : Wait} {forced : Bool}
    (hw : w.asGranted = .granted id forced) (next : List Next) :
    Task.Apart j ⟨k, w, next⟩ := by
  cases w <;> cases hw
  · exact ⟨rfl, decide_eq_false h⟩
  · exact ⟨decide_eq_false h, rfl⟩

theorem Task.apart_of_holds {t : Task} {id j : EntryId} (h : id ≠ j) (ht : t.holds id = true) :
    t.Apart j := by
  obtain ⟨k, w, next⟩ := t
  cases w with
  | granted | resources =>
    obtain rfl : _ = id := of_decide_eq_true ht
    exact ⟨decide_eq_false h, rfl⟩
  | _ => cases ht

/-- Whether a lock is in order with the tasks that are there. -/
structure Lock.Guards (l : Lock) (id : EntryId) (ts : List Task) : Prop where
  waiting : l.waiting = (ts.filter (Task.lines id)).map (·.id)
  holders : ts.countP (Task.holds id) = l.held.toNat
  free : l.held = false → l.waiting = []

section

variable {l : Lock} {id : EntryId} {k : TaskId} {t : Task} {ts us xs ys : List Task}

theorem Lock.guards_congr (lines : us.filter (Task.lines id) = ts.filter (Task.lines id))
    (holds : us.countP (Task.holds id) = ts.countP (Task.holds id)) :
    l.Guards id us ↔ l.Guards id ts := by
  constructor
  · rintro ⟨hw, hh, hf⟩
    exact ⟨lines ▸ hw, holds ▸ hh, hf⟩
  · rintro ⟨hw, hh, hf⟩
    exact ⟨lines ▸ hw, holds ▸ hh, hf⟩

theorem Lock.guards_append (h : ∀ u ∈ us, u.Apart id) :
    l.Guards id (ts ++ us) ↔ l.Guards id ts := by
  have hlines : us.filter (Task.lines id) = [] :=
    List.filter_eq_nil_iff.2 fun u hu => by simp [(h u hu).2]
  have hholds : us.countP (Task.holds id) = 0 :=
    List.countP_eq_zero.2 fun u hu => by simp [(h u hu).1]
  refine guards_congr ?_ ?_
  · rw [List.filter_append, hlines, List.append_nil]
  · rw [List.countP_append, hholds, Nat.add_zero]

theorem Lock.guards_concat (h : t.Apart id) : l.Guards id (ts ++ [t]) ↔ l.Guards id ts :=
  guards_append fun _ hu => List.mem_singleton.1 hu ▸ h

theorem Lock.guards_middle (h : t.Apart id) :
    l.Guards id (xs ++ t :: ys) ↔ l.Guards id (xs ++ ys) := by
  refine guards_congr ?_ ?_
  · rw [List.filter_append, List.filter_cons_of_neg (by simp [h.2]), List.filter_append]
  · rw [List.countP_append, List.countP_cons_of_neg (by simp [h.1]), List.countP_append]

/-- The right is taken. -/
theorem Lock.Guards.take (h : l.Guards id ts) (free : l.held = false) (forced : Bool)
    (next : List Next) :
    Lock.Guards ⟨true, l.waiting⟩ id (ts ++ [⟨k, .granted id forced, next⟩]) := by
  have hholds : Task.holds id ⟨k, .granted id forced, next⟩ = true := decide_eq_true rfl
  have hlines : Task.lines id ⟨k, .granted id forced, next⟩ = false := rfl
  refine ⟨?_, ?_, nofun⟩
  · rw [List.filter_append, List.filter_cons_of_neg (by simp [hlines]), List.filter_nil,
      List.append_nil]
    exact h.waiting
  · rw [List.countP_append, h.holders, free, List.countP_cons_of_pos hholds]
    rfl

/-- Another task waits for the right. -/
theorem Lock.Guards.join (h : l.Guards id ts) (held : l.held = true) (forced : Bool)
    (next : List Next) :
    Lock.Guards ⟨true, l.waiting ++ [k]⟩ id (ts ++ [⟨k, .lock id forced, next⟩]) := by
  have hholds : Task.holds id ⟨k, .lock id forced, next⟩ = false := rfl
  have hlines : Task.lines id ⟨k, .lock id forced, next⟩ = true := decide_eq_true rfl
  refine ⟨?_, ?_, nofun⟩
  · rw [List.filter_append, List.filter_cons_of_pos hlines, List.map_append, ← h.waiting]
    rfl
  · rw [List.countP_append, h.holders, held, List.countP_cons_of_neg (by simp [hholds])]
    rfl

theorem Lock.Guards.lent (h : l.Guards id (ts ++ [t])) (ht : t.holds id = true) :
    l.waiting = (ts.filter (Task.lines id)).map (·.id) ∧ ts.countP (Task.holds id) = 0 := by
  have hlines : t.lines id = false := by
    obtain ⟨k, w, next⟩ := t
    cases w <;> first | rfl | cases ht
  have hw := h.waiting
  have hh := h.holders
  rw [List.filter_append, List.filter_cons_of_neg (by simp [hlines]), List.filter_nil,
    List.append_nil] at hw
  rw [List.countP_append, List.countP_cons_of_pos ht, List.countP_nil] at hh
  have hone : l.held.toNat ≤ 1 := Bool.toNat_le l.held
  exact ⟨hw, by omega⟩

/-- The right goes from a task that gives it back to the one that has waited longest. -/
theorem Lock.Guards.pass {rest : List TaskId}
    (waiting : (ts.filter (Task.lines id)).map (·.id) = k :: rest)
    (holders : ts.countP (Task.holds id) = 0) :
    ∃ xs ys forced next, ts = xs ++ ⟨k, .lock id forced, next⟩ :: ys ∧
      Lock.Guards ⟨true, rest⟩ id (xs ++ ys ++ [⟨k, .granted id forced, next⟩]) := by
  obtain ⟨t, more, hfilter, hk, hrest⟩ := List.map_eq_cons_iff.1 waiting
  obtain ⟨xs, ys, hts, hxs, ht, hys⟩ := List.filter_eq_cons_iff.1 hfilter
  obtain ⟨j, w, next⟩ := t
  obtain rfl : j = k := hk
  cases w with
  | lock i forced =>
    obtain rfl : i = id := of_decide_eq_true ht
    have hholds : Task.holds i ⟨j, .granted i forced, next⟩ = true := decide_eq_true rfl
    have hlines : Task.lines i ⟨j, .granted i forced, next⟩ = false := rfl
    refine ⟨xs, ys, forced, next, hts, ?_, ?_, nofun⟩
    · rw [List.filter_append, List.filter_append, List.filter_eq_nil_iff.2 hxs, hys,
        List.filter_cons_of_neg (by simp [hlines]), List.filter_nil, List.append_nil,
        List.nil_append, hrest]
    · rw [hts, List.countP_append, List.countP_cons] at holders
      rw [List.countP_append, List.countP_append, List.countP_cons_of_pos hholds, List.countP_nil]
      have hxy : xs.countP (Task.holds i) + ys.countP (Task.holds i) = 0 := by omega
      rw [hxy]
      rfl
  | _ => cases ht

end

namespace Client

def lock? (c : Client) (id : EntryId) : Option Lock := (c.entry? id).map (·.refresh)

theorem lock?_eq (c : Client) (id : EntryId) : c.lock? id = (c.store? id).map (·.2.2) := by
  rw [lock?, store?, Option.map_map]
  rfl

theorem lock?_modifyEntry (c : Client) (id j : EntryId) {f : Entry → Entry} {g : Lock → Lock}
    (hf : ∀ e : Entry, (f e).refresh = g e.refresh) :
    (c.modifyEntry id f).lock? j = (c.lock? j).map fun l => if id = j then g l else l := by
  rw [lock?, entry?_modifyEntry, lock?, Option.map_map, Option.map_map]
  congr 1
  funext e
  by_cases h : id = j
  · simp [h, hf]
  · simp [h]

/-- Whether the locks are in order. -/
def Locked (c : Client) : Prop := ∀ id l, c.lock? id = some l → l.Guards id c.tasks

section

variable {c d : Client} {k : TaskId}

theorem Locked.of_eq (h : c.Locked) (lock : ∀ id, d.lock? id = c.lock? id)
    (tasks : d.tasks = c.tasks) : d.Locked := by
  intro id l hl
  rw [tasks]
  exact h id l (lock id ▸ hl)

theorem Works.lock {ns : List Next} (h : Works c d ns) (id : EntryId) :
    d.lock? id = c.lock? id := by
  rw [lock?_eq, h.store, ← lock?_eq]

theorem Works.locked {ns : List Next} (h : Works c d ns) (hc : c.Locked) : d.Locked := by
  intro id l hl
  rw [h.tasks, Lock.guards_append]
  · exact hc id l (h.lock id ▸ hl)
  · intro u hu
    have hw : u.wait.Free := by
      rw [wait_of_mem_beginners hu]
      trivial
    exact hw.apart u.id u.next id

theorem locked_suspend {w : Wait} (hw : w.Free) {next : List Next} :
    (c.suspend k w next).Locked ↔ c.Locked :=
  forall₂_congr fun id _ => imp_congr_right fun _ => Lock.guards_concat (hw.apart k next id)

theorem locked_turn {next : List Next} : (c.suspend k .turn next).Locked ↔ c.Locked :=
  locked_suspend (w := .turn) trivial

/-- Another lock for an entry, and other tasks. -/
theorem guards_modifyEntry {id : EntryId} {f : Entry → Entry} {g : Lock → Lock}
    (hf : ∀ e : Entry, (f e).refresh = g e.refresh) {ts : List Task}
    (own : ∀ l, c.lock? id = some l → (g l).Guards id ts)
    (others : ∀ j, id ≠ j → ∀ l, c.lock? j = some l → l.Guards j ts) (j : EntryId) (l : Lock)
    (hl : (c.modifyEntry id f).lock? j = some l) : l.Guards j ts := by
  rw [lock?_modifyEntry c id j hf] at hl
  obtain ⟨m, hm, rfl⟩ := Option.map_eq_some_iff.1 hl
  by_cases hj : id = j
  · subst hj
    rw [if_pos rfl]
    exact own m hm
  · rw [if_neg hj]
    exact others j hj m hm

theorem Locked.acquire (h : c.Locked) {id : EntryId} {forced : Bool} {w : Wait} {more : List Next}
    (heq : c.acquire k id forced = (d, .waiting w more)) (next : List Next) :
    (d.suspend k w next).Locked := by
  have others : ∀ {v : Wait}, v.asGranted = .granted id forced → ∀ j, id ≠ j → ∀ l,
      c.lock? j = some l → l.Guards j (c.tasks ++ [⟨k, v, next⟩]) := fun hv j hj l hl =>
    (Lock.guards_concat (Task.apart_of_ne hj hv next)).2 (h j l hl)
  unfold Client.acquire at heq
  split at heq
  · cases heq
  · rename_i e he
    have hl : ∀ l, c.lock? id = some l → e.refresh = l := by
      intro l hl
      rw [lock?, he] at hl
      exact Option.some.inj hl
    split at heq <;> rename_i held <;> obtain ⟨rfl, hw⟩ := Prod.mk.inj heq <;>
      obtain ⟨rfl, -⟩ := Progress.waiting.inj hw
    · refine guards_modifyEntry (g := fun l => ⟨true, l.waiting ++ [k]⟩) (fun _ => rfl) ?_
        (others rfl)
      intro l hm
      exact (h id l hm).join (hl l hm ▸ held) forced next
    · refine guards_modifyEntry (g := fun l => ⟨true, l.waiting⟩) (fun _ => rfl) ?_ (others rfl)
      intro l hm
      exact (h id l hm).take (by simpa [hl l hm] using held) forced next

theorem Locked.release (n : c.Numbered) {t : Task} {id : EntryId}
    (h : (c.suspend t.id t.wait t.next).Locked) (ht : t.holds id = true) :
    (c.release id).Locked := by
  have others : ∀ j, id ≠ j → ∀ l, c.lock? j = some l → l.Guards j c.tasks := fun j hj l hl =>
    (Lock.guards_concat (Task.apart_of_holds hj ht)).1 (h j l hl)
  have own : ∀ l, c.lock? id = some l → l.waiting = (c.tasks.filter (Task.lines id)).map (·.id) ∧
      c.tasks.countP (Task.holds id) = 0 := fun l hl => (h id l hl).lent ht
  unfold Client.release
  split
  · rename_i hnone
    have he : c.entry? id = none := by simpa using hnone
    intro j l hl
    refine others j ?_ l hl
    rintro rfl
    rw [lock?, he] at hl
    cases hl
  · rename_i hnil
    obtain ⟨e, he, hw⟩ := Option.map_eq_some_iff.1 hnil
    obtain ⟨hwaiting, hholds⟩ := own e.refresh (by rw [lock?, he]; rfl)
    refine guards_modifyEntry (g := fun _ => ⟨false, []⟩) (fun _ => rfl) (fun _ _ => ?_) others
    exact ⟨hw.symm.trans hwaiting, hholds, fun _ => rfl⟩
  · rename_i task rest hcons
    obtain ⟨e, he, hw⟩ := Option.map_eq_some_iff.1 hcons
    obtain ⟨hwaiting, hholds⟩ := own e.refresh (by rw [lock?, he]; rfl)
    obtain ⟨xs, ys, forced, next, hts, hpass⟩ :=
      Lock.Guards.pass (hwaiting.symm.trans hw) hholds
    generalize hd : c.modifyEntry id _ = d
    have htasks : d.tasks = xs ++ ⟨task, .lock id forced, next⟩ :: ys := hd ▸ hts
    have hn : d.Numbered := hd ▸ ⟨n.nodup, n.below⟩
    have hmem : ⟨task, .lock id forced, next⟩ ∈ d.tasks := htasks ▸ by simp
    have htask : d.task? task = some ⟨task, .lock id forced, next⟩ := hn.task?_eq hmem
    have hdrop : (d.dropTask task).tasks = xs ++ ys := hn.dropTask_split htasks
    rw [grant, htask]
    intro j l hl
    change l.Guards j ((d.dropTask task).tasks ++ [_])
    rw [hdrop]
    subst hd
    refine guards_modifyEntry (c := c) (g := fun _ => ⟨true, rest⟩) (fun _ => rfl)
      (fun _ _ => hpass) (fun i hi m hm => ?_) j l hl
    have hi' := others i hi m hm
    rw [hts, Lock.guards_middle (Task.apart_of_ne hi rfl next)] at hi'
    exact (Lock.guards_concat (Task.apart_of_ne hi rfl next)).2 hi'

theorem Locked.fetched (n : c.Numbered) {t : Task} {id : EntryId}
    (h : (c.suspend t.id t.wait t.next).Locked) (ht : t.holds id = true) (server : Server)
    (result : Except Error Resource.Catalog) : (c.fetched id server result).Locked := by
  have hm : ∀ f : Entry → Entry, (∀ e, (f e).refresh = e.refresh) → ∀ s,
      (((c.modifyEntry id f).reveal s).release id).Locked := by
    intro f hf s
    have hl : ∀ j, (c.modifyEntry id f).lock? j = c.lock? j := fun j => by
      rw [lock?_modifyEntry c id j (g := fun l => l) hf]
      simp
    exact Locked.release (t := t) (c := (c.modifyEntry id f).reveal s) ⟨n.nodup, n.below⟩
      (h.of_eq hl rfl) ht
  unfold Client.fetched
  split
  · refine hm _ ?_ _
    exact fun _ => rfl
  · refine hm _ ?_ _
    exact fun _ => rfl

/-- A task keeps the right while it waits for the resources. -/
theorem Locked.fetching {id : EntryId} {forced : Bool} {next : List Next}
    (h : (c.suspend k (.granted id forced) next).Locked) (server : Server) (r : Http.Request) :
    (c.suspend k (.resources id server r) next).Locked := by
  intro j l hl
  refine (Lock.guards_congr ?_ ?_).1 (h j l hl)
  · simp [suspend, List.filter_append, Task.lines]
  · simp [suspend, List.countP_append, Task.holds]

theorem Locked.refresh (n : c.Numbered) {id : EntryId} {forced : Bool} {next : List Next}
    (h : (c.suspend k (.granted id forced) next).Locked) :
    ((c.refresh id forced next).1.resumed k (c.refresh id forced next).2).Locked := by
  have ht : Task.holds id ⟨k, .granted id forced, next⟩ = true := decide_eq_true rfl
  have released : ∀ d : Client, d.Numbered → (d.suspend k (.granted id forced) next).Locked →
      ((d.release id).suspend k .turn next).Locked := fun d hn hd =>
    locked_turn.2 (Locked.release (t := ⟨k, .granted id forced, next⟩) hn hd ht)
  unfold Client.refresh
  split
  · rename_i he
    have hrelease : c.release id = c := by rw [Client.release, he]; rfl
    exact hrelease ▸ released c n h
  · rename_i e _
    split
    · rename_i last _
      have hl : ((c.emit (.resourceRateLimit e.server last)).suspend k (.granted id forced)
          next).Locked := h.of_eq (fun _ => rfl) rfl
      exact released _ ⟨n.nodup, n.below⟩ hl
    · split
      · exact locked_turn.2 (h.fetched n (t := ⟨k, .granted id forced, next⟩) ht _ _)
      · rename_i r _
        have hr : ((c.send (.resources id) r).suspend k (.granted id forced) next).Locked :=
          h.of_eq (fun _ => rfl) rfl
        exact hr.fetching e.server r

theorem Wait.free_or (w : Wait) : w.Free ∨ (∃ id forced, w = .lock id forced) ∨
    (∃ id forced, w = .granted id forced) ∨ ∃ id server r, w = .resources id server r := by
  cases w <;> simp [Wait.Free]

theorem Onward.free {v w : Wait} (h : Onward v w) (hv : v.Free) : w.Free := by
  cases h with
  | resources => exact hv.elim
  | jobs | drive => trivial

theorem Locked.resumed (h : c.Locked) {course : Course}
    (free : ∀ w, course.wait? = some w → w.Free) : (c.resumed k course).Locked := by
  cases course with
  | goesOn next => exact locked_turn.2 h
  | waits w next => exact (locked_suspend (free w rfl)).2 h
  | ends => exact h

theorem Locked.heed {t : Task} (n : c.Numbered) (h : (c.suspend t.id t.wait t.next).Locked)
    {s : Signal} {a : Client × Course} (heq : c.heed t s = some a) :
    (a.1.resumed t.id a.2).Locked := by
  obtain ⟨j, w, next⟩ := t
  rcases Wait.free_or w with free | ⟨id, forced, rfl⟩ | ⟨id, forced, rfl⟩ | ⟨id, server, r, rfl⟩
  · obtain ⟨ns, hw⟩ := works_heed heq (by rintro id forced rfl; exact free)
      (by rintro id server r rfl; exact free)
    have hd := hw.locked ((locked_suspend free).1 h)
    exact hd.resumed fun v hv => (onward_of_heed heq hv).free free
  · cases heeds_of_heed heq
  · cases heeds_of_heed heq with
    | granted => exact h.refresh n
  · cases heeds_of_heed heq with
    | resources =>
      refine locked_turn.2 (Locked.fetched n h ?_ _ _)
      exact decide_eq_true rfl

/-! Doing one thing after the other -/

theorem Rests.free {m : Next} {w : Wait} {more : List Next} (h : c.Rests m (.waiting w more))
    (start : ∀ id, m ≠ .start id) (refresh : ∀ id forced, m ≠ .refresh id forced) : w.Free := by
  cases h with
  | start => exact absurd rfl (start _)
  | refresh => exact absurd rfl (refresh _ _)
  | _ => trivial

theorem eq_of_acquire_done {id : EntryId} {forced : Bool}
    (heq : c.acquire k id forced = (d, .done)) : d = c := by
  unfold Client.acquire at heq
  split at heq
  · exact (Prod.mk.inj heq).1.symm
  · split at heq <;> cases heq

theorem Locked.perform (h : c.Locked) (m : Next) (rest : List Next) :
    ((c.perform k m).1.resting k rest (c.perform k m).2).Locked := by
  by_cases hs : ∃ id, m = .start id
  · obtain ⟨id, rfl⟩ := hs
    have hw := (Works.refl c).retime id (some .poll)
    have hd : (c.retime id (some .poll)).Locked := hw.locked h
    rw [Client.perform, beginStart_eq]
    dsimp only
    split <;> rename_i heq
    · exact locked_turn.2 (eq_of_acquire_done heq ▸ hd)
    · exact hd.acquire heq _
  · by_cases hr : ∃ id forced, m = .refresh id forced
    · obtain ⟨id, forced, rfl⟩ := hr
      rw [Client.perform]
      cases heq : c.acquire k id forced with
      | mk d p =>
        cases p with
        | done => exact locked_turn.2 (eq_of_acquire_done heq ▸ h)
        | waiting w more => exact h.acquire heq _
    · have start : ∀ id, m ≠ .start id := fun id heq => hs ⟨id, heq⟩
      have refresh : ∀ id forced, m ≠ .refresh id forced := fun id forced heq =>
        hr ⟨id, forced, heq⟩
      obtain ⟨ns, hw⟩ := works_perform c k start refresh
      have hd := hw.locked h
      have hrests := rests_perform c k m
      generalize c.perform k m = a at hd hrests
      obtain ⟨d, p⟩ := a
      cases p with
      | done => exact locked_turn.2 hd
      | waiting w more => exact (locked_suspend (hrests.free start refresh)).2 hd

theorem Locked.run {next : List Next} (h : c.Locked) : (run k next c).Locked := by
  induction next generalizing c with
  | nil => exact h
  | cons m rest ih =>
    have hp := h.perform (k := k) m rest
    rw [Client.run]
    generalize c.perform k m = a at hp
    obtain ⟨d, p⟩ := a
    cases p with
    | done => exact ih (locked_turn.1 hp)
    | waiting w more => exact hp

theorem Locked.follow {course : Course} (h : (c.resumed k course).Locked) :
    (c.follow k course).Locked := by
  cases course with
  | goesOn next => exact (locked_turn.1 h).run
  | waits w next => exact h
  | ends => exact h

/-- A task that is told something may be thought of as the last one that came to wait. -/
theorem Locked.resume (n : c.Numbered) (h : c.Locked) {t : Task} (ht : t ∈ c.tasks)
    (lines : ∀ id, t.lines id = false) :
    ((c.dropTask t.id).suspend t.id t.wait t.next).Locked := by
  obtain ⟨xs, ys, hts, hdrop⟩ := n.exists_split ht
  intro id l hl
  have hg := h id l hl
  rw [hts] at hg
  change l.Guards id ((c.dropTask t.id).tasks ++ [t])
  rw [hdrop]
  refine (Lock.guards_congr ?_ ?_).1 hg
  · simp [List.filter_append, lines]
  · simp only [List.countP_append, List.countP_cons, List.countP_nil]
    omega

theorem Locked.wake (hs : c.Sound) (h : c.Locked) {t : Task} (ht : t ∈ c.tasks) (s : Signal) :
    (c.wake t s).Locked := by
  rw [Client.wake]
  split
  · rename_i d course heq
    have lines : ∀ id, t.lines id = false := by
      intro id
      obtain ⟨j, w, next⟩ := t
      cases w with
      | lock => cases heeds_of_heed heq
      | _ => rfl
    have hdrop : (c.dropTask t.id).Sound := (hs.resume ht).of_suspend
    exact ((h.resume hs.numbered ht lines).heed hdrop.numbered heq).follow
  · exact h

end

theorem Task.apart_of_entry {t : Task} {id : EntryId} (h : t.wait.entry? ≠ some id) :
    t.Apart id := by
  obtain ⟨k, w, next⟩ := t
  cases w with
  | lock j | granted j | resources j =>
    have hj : j ≠ id := fun he => h (congrArg some he)
    simp [Task.Apart, Task.holds, Task.lines, hj]
  | _ => exact ⟨rfl, rfl⟩

theorem Sound.apart {c : Client} (h : c.Sound) {id : EntryId} (hid : ¬ id < c.entries.length) :
    ∀ t ∈ c.tasks, t.Apart id := by
  intro t ht
  refine Task.apart_of_entry fun hw => hid (h.known id ?_)
  exact List.mem_flatMap.2 ⟨t, ht, List.mem_append_left _ (Option.mem_toList.2 hw)⟩

theorem Locked.addServer {c : Client} (hs : c.Sound) (h : c.Locked) (s : Server) :
    (c.addServer s).Locked := by
  intro id l hl
  rw [tasks_addServer]
  by_cases hid : id < c.entries.length
  · refine h id l ?_
    rwa [lock?, entry?, entries_addServer, List.getElem?_append_left hid] at hl
  · -- no task has anything to do with the new entry
    rw [← List.nil_append c.tasks, Lock.guards_append (hs.apart hid)]
    rw [lock?, entry?, entries_addServer, List.getElem?_append_right (Nat.not_lt.1 hid)] at hl
    obtain ⟨e, he, rfl⟩ := Option.map_eq_some_iff.1 hl
    obtain rfl : e = Entry.new s := List.mem_singleton.1 (List.mem_of_getElem? he)
    exact ⟨rfl, rfl, fun _ => rfl⟩

theorem locked_after {c : Client} (hs : c.Sound) (h : c.Locked) {a : Act} (p : c.Permits a) :
    (c.after a).Locked := by
  have hstep := step_after hs p
  generalize c.after a = d at hstep
  cases hstep with
  | wake ht => exact h.wake hs ht _
  | addServer s => exact h.addServer hs s
  | execute job => exact ((Works.refl c).spawn _).locked h
  | still _ _ _ tasks _ store =>
    refine h.of_eq (fun id => ?_) tasks
    rw [lock?_eq, store, ← lock?_eq]
  | @stops _ queue ids =>
    have hq : Works c { c with queue := queue } [] := (Works.refl c).congr (fun _ => rfl) rfl rfl
    exact (hq.stopEntries ids).locked h
  | @begins _ d next _ hd =>
    have hl : d.Locked := by
      rcases hd with rfl | rfl
      · exact h
      · obtain ⟨ns, hw, -⟩ := (Works.refl c).startQueue
        exact hw.locked h
    exact Locked.run (hl.of_eq (fun _ => rfl) rfl)

/-- The locks are in order. -/
theorem Reachable.locked {c : Client} (h : Reachable c) : c.Locked := by
  induction h with
  | new h =>
    obtain ⟨rfl, -, -⟩ := new_eq h
    intro id l hl
    simp [lock?, entry?] at hl
  | act hr p ih => exact locked_after hr.sound ih p

end Client
end Harvest.Sync
