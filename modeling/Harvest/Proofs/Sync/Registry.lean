import Mathlib.Data.List.Pairwise
import Harvest.Proofs.Sync.Accounts
import Harvest.Proofs.Sync.Frame
/-!
The settings and the registry. Nothing changes the settings, and only registrations change the
registry. No two servers of it have the same id, and no two have the same entry.
-/

namespace Harvest.Sync.Client

theorem Frame.fixed {c d : Client} (h : Frame c d) : d.fixed = c.fixed := by
  rw [Client.fixed, h.settings, h.registry]
  rfl

theorem fixed_wake {c : Client} (h : c.Sound) {t : Task} (ht : t ∈ c.tasks) (s : Signal) :
    (c.wake t s).fixed = c.fixed := by
  have hdrop : (c.dropTask t.id).Sound := (h.resume ht).of_suspend
  rw [wake]
  split
  · rename_i d course heq
    refine ((Frame.refl d).follow t.id course).fixed.trans ?_
    exact (told_of_heed hdrop.numbered hdrop.registered heq).fixed
  · rfl

theorem fixed_stopEntries (ids : List EntryId) (c : Client) :
    (stopEntries ids c).fixed = c.fixed := by
  induction ids generalizing c with
  | nil => rfl
  | cons id ids ih =>
    have hs : (c.stopEntry id).fixed = c.fixed := by
      rw [stopEntry_eq]
      rfl
    exact (ih _).trans hs

theorem fixed_after {c : Client} (h : c.Sound) {a : Act} (p : c.Permits a)
    (ha : ∀ s, a ≠ .addServer s) : (c.after a).fixed = c.fixed := by
  have hs := step_after h p
  generalize c.after a = d at hs
  cases hs with
  | wake ht => exact fixed_wake h ht _
  | addServer s => exact absurd rfl (ha s)
  | execute job => rfl
  | still _ q => exact q.fixed
  | stops => exact fixed_stopEntries _ _
  | begins _ _ q => exact ((Frame.refl _).run).fixed.trans q.fixed

theorem registry_after {c : Client} (h : c.Sound) {a : Act} (p : c.Permits a)
    (ha : ∀ s, a ≠ .addServer s) : (c.after a).registry = c.registry :=
  congrArg Prod.snd (fixed_after h p ha)

theorem settings_after {c : Client} (h : c.Sound) {a : Act} (p : c.Permits a) :
    (c.after a).settings = c.settings := by
  by_cases ha : ∃ s, a = .addServer s
  · obtain ⟨s, rfl⟩ := ha
    change (c.addServer s).settings = c.settings
    unfold addServer
    dsimp only
    split <;> rfl
  · exact congrArg Prod.fst (fixed_after h p fun s hs => ha ⟨s, hs⟩)

theorem settings_afterAll {c : Client} (h : Reachable c) {acts : List Act}
    (allows : c.Allows acts) : (c.afterAll acts).settings = c.settings := by
  induction acts generalizing c with
  | nil => rfl
  | cons a acts ih => exact (ih (h.act allows.1) allows.2).trans (settings_after h.sound allows.1)

/-- A client does not run with settings under which no result is ever submitted. -/
theorem Reachable.attempts {c : Client} (h : Reachable c) : c.settings.attempts ≠ 0 := by
  induction h with
  | new h =>
    obtain ⟨rfl, hattempts, -⟩ := new_eq h
    exact hattempts
  | act hc p ih =>
    rw [settings_after hc.sound p]
    exact ih

theorem registered?_addServer {c : Client} {s : Server} {serverId : String} (hs : s.id ≠ serverId) :
    (c.addServer s).registered? serverId = c.registered? serverId := by
  have hb : (serverId == s.id) = false := beq_false_of_ne (Ne.symm hs)
  unfold addServer
  dsimp only
  split
  · simp [registered?, List.lookup_append, List.lookup_cons, hb]
  · simp only [registered?]
    induction c.registry with
    | nil => rfl
    | cons r rest ih =>
      rw [List.map_cons]
      by_cases hr : r.1 = s.id
      · rw [if_pos hr, List.lookup_cons, List.lookup_cons, hr, hb]
        exact ih
      · rw [if_neg hr, List.lookup_cons, List.lookup_cons, ih]

theorem registered?_addServer_self (c : Client) (s : Server) :
    (c.addServer s).registered? s.id = some c.entries.length := by
  have replaced : ∀ l : List (String × EntryId), (l.lookup s.id).isSome →
      (l.map fun r => if r.1 = s.id then (s.id, c.entries.length) else r).lookup s.id =
        some c.entries.length := by
    intro l hl
    induction l with
    | nil => cases hl
    | cons r rest ih =>
      rw [List.map_cons]
      by_cases hid : r.1 = s.id
      · rw [if_pos hid, List.lookup_cons]
        simp
      · have hb : (s.id == r.1) = false := beq_false_of_ne (Ne.symm hid)
        rw [List.lookup_cons, hb] at hl
        rw [if_neg hid, List.lookup_cons, hb]
        exact ih hl
  unfold addServer
  dsimp only
  split <;> rename_i hr
  · have hnone : c.registry.lookup s.id = none := hr
    rw [registered?, List.lookup_append, hnone, Option.none_or]
    simp
  · exact replaced c.registry (Option.isSome_of_eq_some hr)

/-! No entry twice -/

def Distinct (c : Client) : Prop :=
  c.registry.Pairwise fun r q => r.1 ≠ q.1 ∧ r.2 ≠ q.2

theorem Distinct.entries {c : Client} (h : c.Distinct) : (c.registry.map (·.2)).Nodup :=
  List.pairwise_map.2 (h.imp fun hne => hne.2)

theorem Distinct.addServer {c : Client} (h : c.Distinct) (r : c.Registered) (s : Server) :
    (c.addServer s).Distinct := by
  have hne : ∀ q ∈ c.registry, q.2 ≠ c.entries.length := fun q hq => Nat.ne_of_lt (r q hq)
  unfold Client.addServer
  dsimp only
  split
  · rename_i hnone
    refine List.pairwise_append.2 ⟨h, List.pairwise_singleton _ _, ?_⟩
    intro q hq x hx
    obtain rfl := List.mem_singleton.1 hx
    refine ⟨fun hid => ?_, hne q hq⟩
    have := List.lookup_eq_none_iff.1 hnone q hq
    simp [hid] at this
  · refine List.pairwise_map.2 (List.Pairwise.imp_of_mem ?_ h)
    intro q x hq hx hqx
    split <;> rename_i h1 <;> split <;> rename_i h2
    · exact absurd (h1.trans h2.symm) hqx.1
    · exact ⟨fun he => h2 he.symm, fun he => hne x hx he.symm⟩
    · exact ⟨fun he => h1 he, fun he => hne q hq he⟩
    · exact hqx

theorem Reachable.distinct {c : Client} (h : Reachable c) : c.Distinct := by
  induction h with
  | new h =>
    obtain ⟨rfl, -, -⟩ := new_eq h
    exact .nil
  | @act c a hc p ih =>
    by_cases ha : ∃ s, a = .addServer s
    · obtain ⟨s, rfl⟩ := ha
      exact ih.addServer hc.sound.registered s
    · rw [Distinct, registry_after hc.sound p fun s hs => ha ⟨s, hs⟩]
      exact ih

theorem Distinct.registered?_of_mem {c : Client} (h : c.Distinct) {serverId : String}
    {id : EntryId} (hm : (serverId, id) ∈ c.registry) : c.registered? serverId = some id := by
  obtain ⟨l, r, heq⟩ := List.append_of_mem hm
  refine List.lookup_eq_some_iff.2 ⟨l, r, heq, fun q hq => ?_⟩
  rw [Distinct, heq] at h
  have hne := ((List.pairwise_append.1 h).2.2 q hq _ List.mem_cons_self).1
  simpa using Ne.symm hne

theorem Distinct.eq_of_registered? {c : Client} (h : c.Distinct) {serverId other : String}
    {id : EntryId} (h1 : c.registered? serverId = some id) (h2 : c.registered? other = some id) :
    serverId = other := by
  have hm : ∀ {x : String}, c.registered? x = some id → (x, id) ∈ c.registry := by
    intro x hx
    obtain ⟨l, r, heq, -⟩ := List.lookup_eq_some_iff.1 hx
    simp [heq]
  refine Decidable.byContradiction fun hne => ?_
  have hs : Std.Symm fun r q : String × EntryId => r.1 ≠ q.1 ∧ r.2 ≠ q.2 :=
    ⟨fun _ _ hrq => ⟨hrq.1.symm, hrq.2.symm⟩⟩
  exact (List.Pairwise.forall h (hm h1) (hm h2) fun he => hne (congrArg Prod.fst he)).2 rfl

end Harvest.Sync.Client
