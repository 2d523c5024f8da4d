import Mathlib.Data.List.Sort
import Harvest.Html.Place
/-!
Addresses of nodes. An address leads down from some nodes by an index among them, then by one among
the children of the node found there, and so on. The order of the addresses is that of the document:
a node comes before all that it holds, and siblings with what they hold come one after the other.
-/

namespace Harvest.Html

/-- The nodes that a node holds. -/
def Node.children : Node → List Node
  | .text _ => []
  | .comment _ => []
  | .element _ c => c
  | .contents c => c

theorem Node.sizeOf_lt_of_mem {n m : Node} (h : m ∈ n.children) : sizeOf m < sizeOf n := by
  cases n with
  | text | comment => cases h
  | element t c =>
    have hm : sizeOf m < sizeOf c := List.sizeOf_lt_of_mem h
    simp only [Node.element.sizeOf_spec]
    omega
  | contents c =>
    have hm : sizeOf m < sizeOf c := List.sizeOf_lt_of_mem h
    simp only [Node.contents.sizeOf_spec]
    omega

/-- What is so of a node whenever it is so of all that it holds is so of every node. -/
theorem Node.induct {P : Node → Prop} (h : ∀ n : Node, (∀ m ∈ n.children, P m) → P n) (n : Node) :
    P n :=
  h n fun m _ => Node.induct h m
termination_by sizeOf n
decreasing_by exact Node.sizeOf_lt_of_mem ‹_›

/-- The node at an address, the node itself standing at the empty one. -/
def Node.at? (n : Node) : List Nat → Option Node
  | [] => some n
  | i :: a => n.children[i]?.bind fun m => m.at? a

/-- The node at an address below some nodes. -/
def at? (nodes : List Node) : List Nat → Option Node
  | [] => none
  | i :: a => nodes[i]?.bind fun n => n.at? a

@[simp] theorem at?_nil (a : List Nat) : at? [] a = none := by
  cases a <;> simp [at?]

theorem at?_cons_zero (n : Node) (nodes : List Node) (a : List Nat) :
    at? (n :: nodes) (0 :: a) = n.at? a := by
  simp [at?]

theorem at?_cons_succ (n : Node) (nodes : List Node) (i : Nat) (a : List Nat) :
    at? (n :: nodes) ((i + 1) :: a) = at? nodes (i :: a) := by
  simp [at?]

theorem Node.exists_at?_iff {n m : Node} :
    (∃ a, n.at? a = some m) ↔ n = m ∨ ∃ a, Html.at? n.children a = some m := by
  constructor
  · rintro ⟨a, ha⟩
    cases a with
    | nil => exact .inl (Option.some.inj ha)
    | cons i a => exact .inr ⟨i :: a, ha⟩
  · rintro (rfl | ⟨a, ha⟩)
    · exact ⟨[], rfl⟩
    · cases a with
      | nil => cases ha
      | cons i a => exact ⟨i :: a, ha⟩

theorem Node.at?_append (n : Node) (a b : List Nat) :
    n.at? (a ++ b) = (n.at? a).bind fun m => m.at? b := by
  induction a generalizing n with
  | nil => rfl
  | cons i a ih =>
    cases h : n.children[i]? with
    | none => simp [Node.at?, h]
    | some m => simp [Node.at?, h, ih m]

theorem at?_append {nodes : List Node} {a : List Nat} {n : Node} (h : at? nodes a = some n)
    (b : List Nat) : at? nodes (a ++ b) = n.at? b := by
  cases a with
  | nil => cases h
  | cons i a =>
    obtain ⟨m, hm, hn⟩ := Option.bind_eq_some_iff.1 h
    simp [at?, hm, Node.at?_append, hn]

/-- Whether some addresses are all that there are below some nodes, in the order of the document. -/
structure IsDocumentOrder (nodes : List Node) (l : List (List Nat)) : Prop where
  sorted : l.Pairwise (· < ·)
  complete : ∀ a, a ∈ l ↔ (at? nodes a).isSome = true

theorem IsDocumentOrder.unique {nodes : List Node} {l l' : List (List Nat)}
    (h : IsDocumentOrder nodes l) (h' : IsDocumentOrder nodes l') : l = l' := by
  have nodup : ∀ {l : List (List Nat)}, l.Pairwise (· < ·) → l.Nodup := fun hl =>
    hl.imp fun {a b} hlt (he : a = b) => List.lt_irrefl b (he ▸ hlt)
  have hperm : l.Perm l' := (List.perm_ext_iff_of_nodup (nodup h.sorted) (nodup h'.sorted)).2
    fun a => (h.complete a).trans (h'.complete a).symm
  exact hperm.eq_of_pairwise (fun a b _ _ hab hba => absurd hab (List.lt_asymm hba)) h.sorted
    h'.sorted

/-! All addresses, enumerated -/

mutual

/-- The addresses of a node and of everything that it holds. -/
def Node.addresses : Node → List (List Nat)
  | .text _ => [[]]
  | .comment _ => [[]]
  | .element _ c => [] :: addressesFrom 0 c
  | .contents c => [] :: addressesFrom 0 c

/-- The addresses below some nodes, the first of which stands at an index. -/
def addressesFrom (i : Nat) : List Node → List (List Nat)
  | [] => []
  | n :: r => n.addresses.map (i :: ·) ++ addressesFrom (i + 1) r

end

theorem Node.addresses_eq (n : Node) : n.addresses = [] :: addressesFrom 0 n.children := by
  cases n <;> simp [Node.addresses, Node.children, addressesFrom]

theorem mem_addressesFrom {nodes : List Node}
    (h : ∀ n ∈ nodes, ∀ a, a ∈ n.addresses ↔ (n.at? a).isSome = true) (i : Nat) (a : List Nat) :
    a ∈ addressesFrom i nodes ↔ ∃ j b, a = (i + j) :: b ∧ (at? nodes (j :: b)).isSome = true := by
  induction nodes generalizing i with
  | nil => simp [addressesFrom, at?]
  | cons n r ih =>
    have hr := ih (fun m hm => h m (List.mem_cons_of_mem n hm)) (i + 1)
    rw [addressesFrom, List.mem_append, hr, List.mem_map]
    constructor
    · rintro (⟨b, hb, rfl⟩ | ⟨j, b, rfl, hb⟩)
      · exact ⟨0, b, rfl, by rwa [at?_cons_zero, ← h n List.mem_cons_self]⟩
      · exact ⟨j + 1, b, by rw [Nat.add_assoc, Nat.add_comm 1 j], by rwa [at?_cons_succ]⟩
    · rintro ⟨j, b, rfl, hb⟩
      cases j with
      | zero => exact .inl ⟨b, by rwa [h n List.mem_cons_self, ← at?_cons_zero], rfl⟩
      | succ j =>
        exact .inr ⟨j, b, by rw [Nat.add_assoc, Nat.add_comm 1 j], by rwa [← at?_cons_succ]⟩

theorem Node.mem_addresses (n : Node) : ∀ a, a ∈ n.addresses ↔ (n.at? a).isSome = true := by
  induction n using Node.induct with
  | h n ih =>
    intro a
    rw [addresses_eq, List.mem_cons, mem_addressesFrom ih]
    cases a with
    | nil => simp [Node.at?]
    | cons i a => simp [Node.at?, Html.at?]

theorem pairwise_addressesFrom {nodes : List Node}
    (h : ∀ n ∈ nodes, n.addresses.Pairwise (· < ·)) (i : Nat) :
    (addressesFrom i nodes).Pairwise (· < ·) := by
  induction nodes generalizing i with
  | nil => exact .nil
  | cons n r ih =>
    have hr := ih (fun m hm => h m (List.mem_cons_of_mem n hm)) (i + 1)
    refine List.pairwise_append.2 ⟨?_, hr, ?_⟩
    · exact List.pairwise_map.2 ((h n List.mem_cons_self).imp fun hlt =>
        List.cons_lt_cons_iff.2 (.inr ⟨rfl, hlt⟩))
    · intro a ha b hb
      obtain ⟨a, -, rfl⟩ := List.mem_map.1 ha
      obtain ⟨j, b, rfl, -⟩ := (mem_addressesFrom (fun m _ => m.mem_addresses) _ _).1 hb
      exact List.cons_lt_cons_iff.2 (.inl (by omega))

theorem Node.pairwise_addresses (n : Node) : n.addresses.Pairwise (· < ·) := by
  induction n using Node.induct with
  | h n ih =>
    rw [addresses_eq]
    refine List.pairwise_cons.2 ⟨fun a ha => ?_, pairwise_addressesFrom ih 0⟩
    obtain ⟨j, b, rfl, -⟩ := (mem_addressesFrom (fun m _ => m.mem_addresses) _ _).1 ha
    exact List.nil_lt_cons _ _

theorem isDocumentOrder_addressesFrom (nodes : List Node) :
    IsDocumentOrder nodes (addressesFrom 0 nodes) := by
  refine ⟨pairwise_addressesFrom (fun n _ => n.pairwise_addresses) 0, fun a => ?_⟩
  rw [mem_addressesFrom fun n _ => n.mem_addresses]
  cases a with
  | nil => simp [at?]
  | cons i a => simp

/-! Places and addresses -/

section

variable {t : Tag} {c : List Node}

theorem exists_mem_placesAmong {nodes : List Node}
    (h : ∀ n ∈ nodes, ∀ make address, (∀ t c, Place.selfNode (make t c) = .element t c) →
      ((∃ p ∈ placesIn make address n, p.selfNode = .element t c) ↔
        ∃ a, n.at? a = some (.element t c)))
    (make : Tag → List Node → Position → Place)
    (hmake : ∀ t c x, (make t c x).selfNode = .element t c) (top : Bool) (above : List Nat)
    (before : List Node) (i : Nat) :
    (∃ p ∈ placesAmong make top above before i nodes, p.selfNode = .element t c) ↔
      ∃ a, at? nodes a = some (.element t c) := by
  induction nodes generalizing before i with
  | nil => simp [placesAmong]
  | cons n r ih =>
    have hn := h n List.mem_cons_self (fun t c => make t c ⟨before, r, top, i :: above⟩)
      (i :: above) fun t c => hmake t c _
    have hr := ih (fun m hm => h m (List.mem_cons_of_mem n hm)) (n :: before) (i + 1)
    simp only [placesAmong, List.mem_append, or_and_right, exists_or, hn, hr]
    constructor
    · rintro (⟨a, ha⟩ | ⟨a, ha⟩)
      · exact ⟨0 :: a, by rwa [at?_cons_zero]⟩
      · cases a with
        | nil => cases ha
        | cons j a => exact ⟨(j + 1) :: a, by rwa [at?_cons_succ]⟩
    · rintro ⟨a, ha⟩
      cases a with
      | nil => cases ha
      | cons j a =>
        cases j with
        | zero => exact .inl ⟨a, by rwa [← at?_cons_zero]⟩
        | succ j => exact .inr ⟨j :: a, by rwa [← at?_cons_succ]⟩

theorem exists_mem_placesIn (n : Node) : ∀ make address,
    (∀ t c, Place.selfNode (make t c) = .element t c) →
    ((∃ p ∈ placesIn make address n, p.selfNode = .element t c) ↔
      ∃ a, n.at? a = some (.element t c)) := by
  induction n using Node.induct with
  | h n ih =>
    intro make address hmake
    rw [Node.exists_at?_iff]
    cases n with
    | text | comment => simp [placesIn, Node.children]
    | contents nodes =>
      have hbelow := exists_mem_placesAmong ih (fun t c x => .orphan t c x)
        (fun _ _ _ => rfl) false address [] 0
      simpa [placesIn, Node.children] using hbelow
    | element u nodes =>
      have hbelow := exists_mem_placesAmong ih
        (fun t c x => .child (make u nodes) t c x) (fun _ _ _ => rfl) false address [] 0
      simp only [placesIn, List.mem_cons, exists_eq_or_imp, hmake]
      exact or_congr_right hbelow

/-- Whether an element stands in a document: at some address, or below what was taken out of it. -/
inductive Document.Holds (d : Document) (t : Tag) (c : List Node) : Prop
  | standing {a : List Nat} : at? d.nodes a = some (.element t c) → d.Holds t c
  | belowLost {u : Tag} {nodes : List Node} {a : List Nat} : .element u nodes ∈ d.lost →
      at? nodes a = some (.element t c) → d.Holds t c

theorem Document.exists_mem_places (d : Document) :
    (∃ p ∈ d.places, p.selfNode = .element t c) ↔ ∃ a, at? d.nodes a = some (.element t c) :=
  exists_mem_placesAmong (fun n _ => exists_mem_placesIn n) _ (fun _ _ _ => rfl) true [] [] 0

theorem exists_mem_placesBelowLost (lost : List Node) (i : Nat) :
    (∃ p ∈ placesBelowLost i lost, p.selfNode = .element t c) ↔
      ∃ u nodes a, .element u nodes ∈ lost ∧ at? nodes a = some (.element t c) := by
  induction lost generalizing i with
  | nil => simp [placesBelowLost]
  | cons n r ih =>
    cases n with
    | element u nodes =>
      have hdescendants : (∃ p ∈ (Place.orphan u nodes ⟨[], [], false, [i]⟩).descendants,
          p.selfNode = .element t c) ↔ ∃ a, at? nodes a = some (.element t c) :=
        exists_mem_placesAmong (fun n _ => exists_mem_placesIn n) _ (fun _ _ _ => rfl) false _ [] 0
      simp only [placesBelowLost, List.mem_append, or_and_right, exists_or, hdescendants,
        ih (i + 1), List.mem_cons, Node.element.injEq]
      refine or_congr_left ⟨fun ⟨a, ha⟩ => ⟨u, nodes, a, ⟨rfl, rfl⟩, ha⟩, ?_⟩
      rintro ⟨_, _, a, ⟨rfl, rfl⟩, ha⟩
      exact ⟨a, ha⟩
    | _ => simp [placesBelowLost, ih (i + 1)]

theorem Document.exists_mem_elements (d : Document) :
    (∃ p ∈ d.elements, p.selfNode = .element t c) ↔ d.Holds t c := by
  simp only [elements, List.mem_mergeSort, List.mem_append, or_and_right, exists_or,
    d.exists_mem_places, exists_mem_placesBelowLost]
  constructor
  · rintro (⟨a, ha⟩ | ⟨u, nodes, a, hlost, ha⟩)
    · exact .standing ha
    · exact .belowLost hlost ha
  · rintro (ha | ⟨hlost, ha⟩)
    · exact .inl ⟨_, ha⟩
    · exact .inr ⟨_, _, _, hlost, ha⟩

end

end Harvest.Html
