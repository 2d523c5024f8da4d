import Harvest.Json.Basic
/-!
Members of objects. Where a member comes from when others are put in, and what a key leads to. An
object that is sorted by key is known by what its keys lead to; one put over another stays sorted,
and of two members with one key the newer counts.
-/

namespace Harvest.Members

variable {key k : String} {value v : Json} {m n base newer : Members}

theorem mem_of_get? (h : m.get? key = some value) : (key, value) ∈ m := by
  induction m with
  | nil => cases h
  | cons head rest ih =>
    obtain ⟨k, v⟩ := head
    unfold get? at h
    split at h
    · rename_i hk
      cases h
      exact hk ▸ List.mem_cons_self
    · exact List.mem_cons_of_mem _ (ih h)

theorem mem_insert (h : (k, v) ∈ insert key value m) : (k, v) = (key, value) ∨ (k, v) ∈ m := by
  induction m with
  | nil => exact .inl (List.mem_singleton.1 h)
  | cons head rest ih =>
    unfold insert at h
    split at h
    · exact List.mem_cons.1 h
    · split at h
      · exact (List.mem_cons.1 h).imp_right (List.mem_cons_of_mem _)
      · rcases List.mem_cons.1 h with h | h
        · exact .inr (h ▸ List.mem_cons_self)
        · exact (ih h).imp_right (List.mem_cons_of_mem _)

theorem mem_override (h : (k, v) ∈ m.override newer) : (k, v) ∈ m ∨ (k, v) ∈ newer := by
  induction newer generalizing m with
  | nil => exact .inl h
  | cons head rest ih =>
    rcases ih h with h | h
    · exact (mem_insert h).symm.imp_right fun heq => List.mem_cons.2 (.inl heq)
    · exact .inr (List.mem_cons_of_mem _ h)

/-- Whether an object has a member of some name. -/
def Has (m : Members) (key : String) : Prop := (m.get? key).isSome

theorem has_insert : (insert key value m).Has k ↔ k = key ∨ m.Has k := by
  by_cases h : k = key
  · simp [Has, h, get?_insert_self]
  · simp [Has, h, get?_insert_of_ne]

theorem has_override : (m.override newer).Has k ↔ m.Has k ∨ newer.Has k := by
  induction newer generalizing m with
  | nil => simp [override, Has, get?]
  | cons head rest ih =>
    obtain ⟨key, value⟩ := head
    have hcons : Has ((key, value) :: rest) k ↔ key = k ∨ Has rest k := by
      by_cases h : key = k <;> simp [Has, get?, h]
    change ((insert key value m).override rest).Has k ↔ _
    rw [ih, has_insert, hcons]
    grind

/-- Whether the keys of an object grow from member to member. -/
def IsSorted (m : Members) : Prop := m.Pairwise fun a b => a.1 < b.1

theorem isSorted_nil : IsSorted [] := .nil

theorem IsSorted.insert (h : IsSorted m) : IsSorted (insert key value m) := by
  induction m with
  | nil => exact List.pairwise_singleton ..
  | cons head rest ih =>
    obtain ⟨k, v⟩ := head
    obtain ⟨hhead, hrest⟩ := List.pairwise_cons.1 h
    unfold Members.insert
    split
    · rename_i hlt
      refine List.pairwise_cons.2 ⟨fun entry hentry => ?_, h⟩
      rcases List.mem_cons.1 hentry with rfl | hentry
      · exact hlt
      · exact String.lt_trans hlt (hhead entry hentry)
    · rename_i hle
      split
      · rename_i heq
        subst heq
        exact List.pairwise_cons.2 ⟨hhead, hrest⟩
      · rename_i hne
        refine List.pairwise_cons.2 ⟨fun entry hentry => ?_, ih hrest⟩
        rcases mem_insert hentry with heq | hentry
        · obtain ⟨hkey, -⟩ := Prod.mk.inj heq
          exact hkey ▸ Std.lt_of_le_of_ne (String.not_lt.1 hle) (Ne.symm hne)
        · exact hhead entry hentry

theorem IsSorted.override (h : IsSorted m) (newer : Members) : IsSorted (m.override newer) := by
  induction newer generalizing m with
  | nil => exact h
  | cons head rest ih => exact ih h.insert

theorem get?_eq_none (h : ∀ entry ∈ m, entry.1 ≠ key) : m.get? key = none := by
  cases hget : m.get? key with
  | none => rfl
  | some value => exact absurd rfl (h _ (mem_of_get? hget))

theorem get?_eq_none_of_lt (h : ∀ entry ∈ m, key < entry.1) : m.get? key = none :=
  get?_eq_none fun entry hentry heq => String.lt_irrefl key (heq ▸ h entry hentry)

theorem IsSorted.get?_of_lt {rest : Members} (h : IsSorted ((k, v) :: rest)) (hlt : key < k) :
    get? key ((k, v) :: rest) = none := by
  refine get?_eq_none_of_lt fun entry hentry => ?_
  rcases List.mem_cons.1 hentry with rfl | hentry
  · exact hlt
  · exact String.lt_trans hlt ((List.pairwise_cons.1 h).1 entry hentry)

/-- Sorted objects whose keys lead to the same values are the same. -/
theorem IsSorted.ext (hm : IsSorted m) (hn : IsSorted n) (h : ∀ k, m.get? k = n.get? k) :
    m = n := by
  induction m generalizing n with
  | nil =>
    cases n with
    | nil => rfl
    | cons head rest =>
      obtain ⟨k, v⟩ := head
      simpa [get?] using h k
  | cons head rest ih =>
    obtain ⟨k, v⟩ := head
    cases n with
    | nil => simpa [get?] using h k
    | cons head' rest' =>
      obtain ⟨k', v'⟩ := head'
      obtain ⟨hrest, hm'⟩ := List.pairwise_cons.1 hm
      obtain ⟨hrest', hn'⟩ := List.pairwise_cons.1 hn
      -- of two first keys that differ the smaller one leads somewhere in one object only
      obtain rfl : k = k' := by
        rcases Std.lt_trichotomy k k' with hlt | heq | hlt
        · have hk := h k
          rw [hn.get?_of_lt hlt] at hk
          simp [get?] at hk
        · exact heq
        · have hk := h k'
          rw [hm.get?_of_lt hlt] at hk
          simp [get?] at hk
      obtain rfl : v = v' := by simpa [get?] using h k
      congr 1
      refine ih hm' hn' fun j => ?_
      by_cases hj : k = j
      · subst hj
        rw [get?_eq_none_of_lt hrest, get?_eq_none_of_lt hrest']
      · simpa [get?, hj] using h j

theorem get?_append : get? key (m ++ n) = (m.get? key).or (n.get? key) := by
  induction m with
  | nil => rfl
  | cons head rest ih =>
    obtain ⟨k, v⟩ := head
    by_cases h : k = key
    · simp [get?, h]
    · simpa [get?, h] using ih

/-- Of the members that are put over an object the last one with a key counts. -/
theorem get?_override_eq :
    (base.override newer).get? k = (get? k newer.reverse).or (base.get? k) := by
  induction newer generalizing base with
  | nil => rfl
  | cons head rest ih =>
    obtain ⟨key, value⟩ := head
    change ((insert key value base).override rest).get? k = _
    rw [ih, List.reverse_cons, get?_append, Option.or_assoc]
    congr 1
    by_cases h : k = key
    · simp [get?, h, get?_insert_self]
    · simp [get?, Ne.symm h, get?_insert_of_ne h]

/-- Whether no two members of an object have the same key. -/
def AreDistinct (m : Members) : Prop := m.Pairwise fun a b => a.1 ≠ b.1

theorem IsSorted.areDistinct (h : IsSorted m) : AreDistinct m := by
  refine List.Pairwise.imp ?_ h
  intro a b hlt heq
  exact String.lt_irrefl _ (heq ▸ hlt)

theorem AreDistinct.get?_reverse (h : AreDistinct m) : get? k m.reverse = m.get? k := by
  induction m with
  | nil => rfl
  | cons head rest ih =>
    obtain ⟨key, value⟩ := head
    obtain ⟨hhead, hrest⟩ := List.pairwise_cons.1 h
    rw [List.reverse_cons, get?_append, ih hrest]
    by_cases hk : key = k
    · subst hk
      simp [get?, get?_eq_none fun entry hentry => Ne.symm (hhead entry hentry)]
    · simp [get?, hk]

/-- Key by key, what is newer counts. -/
theorem get?_override (h : IsSorted newer) :
    (base.override newer).get? k = (newer.get? k).or (base.get? k) := by
  rw [get?_override_eq, h.areDistinct.get?_reverse]

/-- What is put over an object in two parts may be put together first. -/
theorem override_override (h : IsSorted base) (values newer : Members) :
    (base.override values).override newer =
      base.override ((override [] values).override newer) := by
  have hboth : IsSorted ((override [] values).override newer) :=
    (isSorted_nil.override values).override newer
  refine ((h.override values).override newer).ext (h.override _) fun k => ?_
  rw [get?_override hboth, get?_override_eq, get?_override_eq, get?_override_eq, get?_override_eq]
  simp [get?, Option.or_assoc]

theorem AreDistinct.get?_of_mem (h : AreDistinct m) (hmem : (k, v) ∈ m) : m.get? k = some v := by
  induction m with
  | nil => cases hmem
  | cons head rest ih =>
    obtain ⟨key, value⟩ := head
    obtain ⟨hhead, hrest⟩ := List.pairwise_cons.1 h
    rcases List.mem_cons.1 hmem with heq | hmem
    · cases heq
      simp [get?]
    · have hne : key ≠ k := hhead _ hmem
      simp [get?, hne, ih hrest hmem]

theorem get?_map (f : Json → Json) : get? k (m.map fun e => (e.1, f e.2)) = (m.get? k).map f := by
  induction m with
  | nil => rfl
  | cons head rest ih =>
    obtain ⟨key, value⟩ := head
    by_cases h : key = k
    · simp [get?, h]
    · simpa [get?, h] using ih

theorem get?_filter (p : String → Bool) :
    get? k (m.filter fun e => p e.1) = if p k then m.get? k else none := by
  induction m with
  | nil => simp [get?]
  | cons head rest ih =>
    obtain ⟨key, value⟩ := head
    rw [List.filter_cons]
    by_cases h : key = k
    · subst h
      cases hp : p key <;> simp [get?, hp, ih]
    · cases hp : p key <;> simp [get?, h, ih]

theorem isSorted_ofList (m : List (String × Json)) : IsSorted (ofList m) :=
  isSorted_nil.override m

theorem AreDistinct.get?_ofList (h : AreDistinct m) : get? k (ofList m) = m.get? k := by
  rw [ofList, get?_override_eq, h.get?_reverse]
  simp [get?]

theorem mem_of_mem_ofList {entry : String × Json} (h : entry ∈ ofList m) : entry ∈ m := by
  simpa using mem_override h

theorem IsSorted.ofList_eq (h : IsSorted m) : ofList m = m :=
  (isSorted_ofList m).ext h fun _ => h.areDistinct.get?_ofList

end Harvest.Members
