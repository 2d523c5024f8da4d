import Harvest.Html.Arena
import Harvest.Proofs.Html.Addresses
/-!
What is so of a table of nodes all the while a document is built: no `br` holds anything, and the
children of a template go to its contents, which hang first below it. What a node is never changes
once it is in the table, so each operation is judged by the row of children that it writes.
-/

namespace Harvest.Html

/-- Whether no `br` below some nodes holds anything. -/
def BreaksEmpty (nodes : List Node) : Prop :=
  ∀ a t c, at? nodes a = some (.element t c) → t.name = "br" → c = []

theorem BreaksEmpty.below {nodes : List Node} (h : BreaksEmpty nodes) {a : List Nat} {n : Node}
    (hn : at? nodes a = some n) : BreaksEmpty n.children := by
  intro b t c hb
  cases b with
  | nil => cases hb
  | cons i b =>
    refine h (a ++ i :: b) t c ?_
    rw [at?_append hn]
    exact hb

namespace Arena

/-- What a node is, whatever it says and whatever attributes it has. -/
inductive Kind
  | document
  | contents
  | leaf
  | element (vocabulary : Vocabulary) (name : String)
  deriving DecidableEq

def Content.kind : Content → Kind
  | .document => .document
  | .contents => .contents
  | .text _ => .leaf
  | .comment _ => .leaf
  | .element tag => .element tag.vocabulary tag.name

def Kind.template : Kind := .element .html "template"

def kind? (a : Arena) (i : Nat) : Option Kind := (a.cell? i).map fun c => c.content.kind

theorem kind?_of_tag? {a : Arena} {i : Nat} {t : Tag} (h : a.tag? i = some t) :
    a.kind? i = some (.element t.vocabulary t.name) := by
  unfold tag? at h
  split at h
  · cases h
    simp [kind?, *, Content.kind]
  · cases h

theorem tag?_of_kind? {a : Arena} {i : Nat} {v : Vocabulary} {name : String}
    (h : a.kind? i = some (.element v name)) :
    ∃ t, a.tag? i = some t ∧ t.vocabulary = v ∧ t.name = name := by
  obtain ⟨c, hc, hkind⟩ := Option.map_eq_some_iff.1 h
  rcases c with ⟨content, _, _⟩
  cases content <;> cases hkind
  exact ⟨_, by simp [tag?, hc], rfl, rfl⟩

section

variable (kind? : Nat → Option Kind)

/-- Whether a node may hold others. -/
def MayHold (i : Nat) : Prop := ∃ k, kind? i = some k ∧ ∀ v, k ≠ .element v "br"

/-- Whether a node is not the contents of a template, which stay where they are. -/
def IsMovable (i : Nat) : Prop := ∃ k, kind? i = some k ∧ k ≠ .contents

/-- Whether some children fit a node of a kind. -/
structure RowFits (k : Kind) (row : List Nat) : Prop where
  bare : ∀ v, k = .element v "br" → row = []
  first : k = .template → ∃ i r, row = i :: r ∧ kind? i = some .contents
  others : k ≠ .template → ∀ i ∈ row, IsMovable kind? i

structure CellFits (c : Cell) : Prop where
  parent : ∀ p, c.parent = some p → MayHold kind? p
  row : RowFits kind? c.content.kind c.children.toList

end

section

variable {kind? : Nat → Option Kind} {k : Kind} {row : List Nat} {i s : Nat}

theorem rowFits_nil (hk : k ≠ .template) : RowFits kind? k [] :=
  ⟨fun _ _ => rfl, fun h => absurd h hk, by simp⟩

theorem RowFits.remove (h : RowFits kind? k row) (hi : IsMovable kind? i) :
    RowFits kind? k (row.filter (· ≠ i)) where
  bare v hk := by rw [h.bare v hk, List.filter_nil]
  first hk := by
    obtain ⟨m, r, rfl, hm⟩ := h.first hk
    have hne : m ≠ i := by
      rintro rfl
      obtain ⟨_, hm', hne⟩ := hi
      exact hne (Option.some.inj (hm'.symm.trans hm))
    exact ⟨m, r.filter (· ≠ i), by simp [hne], hm⟩
  others hk m hm := h.others hk m (List.mem_of_mem_filter hm)

theorem RowFits.add (h : RowFits kind? k row) (hk : ∀ v, k ≠ .element v "br")
    (hi : IsMovable kind? i) : RowFits kind? k (row ++ [i]) where
  bare v hv := absurd hv (hk v)
  first hk := by
    obtain ⟨m, r, rfl, hm⟩ := h.first hk
    exact ⟨m, r ++ [i], rfl, hm⟩
  others hk m hm := by
    rcases List.mem_append.1 hm with hm | hm
    · exact h.others hk m hm
    · rwa [List.mem_singleton.1 hm]

theorem RowFits.insert (h : RowFits kind? k row) (hk : ∀ v, k ≠ .element v "br")
    (hs : IsMovable kind? s) (hi : IsMovable kind? i) :
    RowFits kind? k (row.takeWhile (· ≠ s) ++ i :: row.dropWhile (· ≠ s)) where
  bare v hv := absurd hv (hk v)
  first hk := by
    obtain ⟨m, r, rfl, hm⟩ := h.first hk
    have hne : m ≠ s := by
      rintro rfl
      obtain ⟨_, hm', hne⟩ := hs
      exact hne (Option.some.inj (hm'.symm.trans hm))
    exact ⟨m, _, by rw [List.takeWhile_cons_of_pos (by simpa using hne), List.cons_append], hm⟩
  others hk m hm := by
    rcases List.mem_append.1 hm with hm | hm
    · exact h.others hk m ((List.takeWhile_prefix _).subset hm)
    · rcases List.mem_cons.1 hm with rfl | hm
      · exact hi
      · exact h.others hk m ((List.dropWhile_suffix _).subset hm)

end

/-- Whether what each node is stays the same from one table to another. -/
def Grows (a b : Arena) : Prop := ∀ i k, a.kind? i = some k → b.kind? i = some k

theorem Grows.refl (a : Arena) : a.Grows a := fun _ _ h => h

theorem Grows.trans {a b c : Arena} (hab : a.Grows b) (hbc : b.Grows c) : a.Grows c :=
  fun i k h => hbc i k (hab i k h)

theorem Grows.of_eq {a b : Arena} (h : b.kind? = a.kind?) : a.Grows b := fun i k hi => by
  rwa [h]

section

variable {a b : Arena}

theorem MayHold.grow {i : Nat} (h : MayHold a.kind? i) (hg : a.Grows b) : MayHold b.kind? i :=
  let ⟨k, hk, hne⟩ := h
  ⟨k, hg i k hk, hne⟩

theorem IsMovable.grow {i : Nat} (h : IsMovable a.kind? i) (hg : a.Grows b) :
    IsMovable b.kind? i :=
  let ⟨k, hk, hne⟩ := h
  ⟨k, hg i k hk, hne⟩

theorem CellFits.grow {c : Cell} (h : CellFits a.kind? c) (hg : a.Grows b) :
    CellFits b.kind? c where
  parent p hp := (h.parent p hp).grow hg
  row := {
    bare := h.row.bare
    first := fun hk =>
      let ⟨i, r, hrow, hi⟩ := h.row.first hk
      ⟨i, r, hrow, hg i _ hi⟩
    others := fun hk i hi => (h.row.others hk i hi).grow hg }

end

structure Sound (a : Arena) : Prop where
  root : a.kind? 0 = some .document
  cells : ∀ i c, a.cell? i = some c → CellFits a.kind? c

theorem sound_empty : empty.Sound where
  root := rfl
  cells i c h := by
    obtain ⟨hi, rfl⟩ := List.getElem?_eq_some_iff.1 (Array.getElem?_toList.trans h)
    have hzero : i = 0 := by
      simp only [empty, List.length_cons, List.length_nil] at hi
      omega
    subst hzero
    exact ⟨by simp [empty], rowFits_nil (by simp [empty, Content.kind, Kind.template])⟩

/-! Changing a node that is there -/

section

variable {a : Arena} {i p s : Nat}

theorem cell?_update (a : Arena) (i : Nat) (f : Cell → Cell) (j : Nat) :
    (a.update i f).cell? j = if i = j then (a.cell? j).map f else a.cell? j := by
  simp [update, cell?, Array.getElem?_modify]

theorem kind?_update (a : Arena) (i : Nat) {f : Cell → Cell}
    (hf : ∀ c, (f c).content.kind = c.content.kind) : (a.update i f).kind? = a.kind? := by
  funext j
  by_cases hj : i = j
  · simp [kind?, cell?_update, hj, hf, Function.comp_def]
  · simp [kind?, cell?_update, hj]

theorem Sound.update (h : a.Sound) {f : Cell → Cell}
    (hkind : ∀ c, (f c).content.kind = c.content.kind)
    (hfits : ∀ c, a.cell? i = some c → CellFits a.kind? c → CellFits a.kind? (f c)) :
    (a.update i f).Sound := by
  refine ⟨by rw [a.kind?_update i hkind]; exact h.root, fun j c hc => ?_⟩
  rw [a.kind?_update i hkind]
  rw [cell?_update] at hc
  by_cases hj : i = j
  · subst hj
    rw [if_pos rfl] at hc
    obtain ⟨c', hc', rfl⟩ := Option.map_eq_some_iff.1 hc
    exact hfits c' hc' (h.cells i c' hc')
  · rw [if_neg hj] at hc
    exact h.cells j c hc

theorem children_eq {c : Cell} (h : a.cell? i = some c) : a.children i = c.children := by
  simp [children, h]

@[simp] theorem kind?_setParent (a : Arena) (i : Nat) (parent : Option Nat) :
    (a.setParent i parent).kind? = a.kind? :=
  a.kind?_update i fun _ => rfl

@[simp] theorem kind?_setChildren (a : Arena) (i : Nat) (row : Array Nat) :
    (a.setChildren i row).kind? = a.kind? :=
  a.kind?_update i fun _ => rfl

theorem Sound.setParent (h : a.Sound) {parent : Option Nat}
    (hp : ∀ p, parent = some p → MayHold a.kind? p) : (a.setParent i parent).Sound :=
  h.update (fun _ => rfl) fun _ _ hfits => ⟨hp, hfits.row⟩

theorem Sound.setChildren (h : a.Sound) {row : Array Nat}
    (hrow : ∀ k, a.kind? i = some k → RowFits a.kind? k (a.children i).toList →
      RowFits a.kind? k row.toList) :
    (a.setChildren i row).Sound := by
  refine h.update (fun _ => rfl) fun c hc hfits => ⟨hfits.parent, hrow _ ?_ ?_⟩
  · simp [kind?, hc]
  · rw [children_eq hc]
    exact hfits.row

theorem Sound.mayHold_parent (h : a.Sound) (hp : a.parent? i = some p) : MayHold a.kind? p := by
  obtain ⟨c, hc, hparent⟩ := Option.bind_eq_some_iff.1 hp
  exact (h.cells i c hc).parent p hparent

theorem MayHold.not_break {kind? : Nat → Option Kind} {k : Kind} (h : MayHold kind? i)
    (hk : kind? i = some k) (v : Vocabulary) : k ≠ .element v "br" := by
  obtain ⟨k', hk', hne⟩ := h
  rw [Option.some.inj (hk.symm.trans hk')]
  exact hne v

@[simp] theorem kind?_detach (a : Arena) (i : Nat) : (a.detach i).kind? = a.kind? := by
  unfold detach
  split <;> simp

theorem Sound.detach (h : a.Sound) (hi : IsMovable a.kind? i) : (a.detach i).Sound := by
  unfold Arena.detach
  split
  · exact h
  · refine Sound.setParent (h.setChildren fun k _ hrow => ?_) (by simp)
    rw [Array.toList_filter]
    exact hrow.remove hi

theorem append_eq (a : Arena) (p i : Nat) :
    a.append p i =
      ((a.detach i).setChildren p (((a.detach i).children p).push i)).setParent i (some p) := by
  have hupdate : ∀ b : Arena, b.update p (fun c => { c with children := c.children.push i }) =
      b.setChildren p ((b.children p).push i) := by
    intro b
    refine congrArg Arena.mk (Array.ext_getElem? fun j => ?_)
    simp only [Array.getElem?_modify]
    by_cases hj : p = j
    · subst hj
      cases hc : b.cells[p]? with
      | none => simp
      | some c => simp [children, cell?, hc]
    · simp [hj]
  rw [append, hupdate]

@[simp] theorem kind?_append (a : Arena) (p i : Nat) : (a.append p i).kind? = a.kind? := by
  rw [append_eq]
  simp

theorem Sound.append (h : a.Sound) (hp : MayHold a.kind? p) (hi : IsMovable a.kind? i) :
    (a.append p i).Sound := by
  rw [append_eq]
  refine ((h.detach hi).setChildren fun k hk hrow => ?_).setParent fun q hq => ?_
  · simp only [kind?_detach] at hk hrow ⊢
    rw [Array.toList_push]
    exact hrow.add (hp.not_break hk) hi
  · cases hq
    simpa using hp

@[simp] theorem kind?_insertBefore (a : Arena) (s i : Nat) :
    (a.insertBefore s i).kind? = a.kind? := by
  simp only [insertBefore]
  split <;> simp

theorem Sound.insertBefore (h : a.Sound) (hs : IsMovable a.kind? s) (hi : IsMovable a.kind? i) :
    (a.insertBefore s i).Sound := by
  simp only [Arena.insertBefore]
  split
  · exact h.detach hi
  · next p hp =>
    have hhold := (h.detach hi).mayHold_parent hp
    refine ((h.detach hi).setChildren fun k hk hrow => ?_).setParent fun q hq => ?_
    · have hnot := hhold.not_break hk
      simp only [kind?_detach] at hrow ⊢
      exact hrow.insert hnot hs hi
    · cases hq
      rwa [kind?_setChildren]

theorem sound_foldl_append {l : List Nat} (h : a.Sound) (hp : MayHold a.kind? p)
    (hl : ∀ i ∈ l, IsMovable a.kind? i) :
    (l.foldl (fun a i => a.append p i) a).Sound ∧
      (l.foldl (fun a i => a.append p i) a).kind? = a.kind? := by
  induction l generalizing a with
  | nil => exact ⟨h, rfl⟩
  | cons i l ih =>
    have hnext := h.append hp (hl i List.mem_cons_self)
    have hrest := ih hnext (by simpa using hp) fun j hj => by
      simpa using hl j (List.mem_cons_of_mem i hj)
    exact ⟨hrest.1, hrest.2.trans (kind?_append a p i)⟩

theorem Sound.moveChildren (h : a.Sound) {k : Kind} (hs : a.kind? s = some k)
    (hk : k ≠ .template) (hp : MayHold a.kind? p) :
    (a.moveChildren s p).Sound ∧ (a.moveChildren s p).kind? = a.kind? := by
  unfold Arena.moveChildren
  rw [← Array.foldl_toList]
  obtain ⟨c, hc, rfl⟩ := Option.map_eq_some_iff.1 hs
  rw [children_eq hc]
  exact sound_foldl_append h hp ((h.cells s c hc).row.others hk)

@[simp] theorem kind?_extendText (a : Arena) (i : Nat) (s : String) :
    (a.extendText i s).kind? = a.kind? :=
  a.kind?_update i fun c => by
    rcases c with ⟨content, _, _⟩
    cases content <;> rfl

theorem Sound.extendText (h : a.Sound) (i : Nat) (s : String) : (a.extendText i s).Sound := by
  refine h.update (fun c => ?_) fun c _ hfits => ?_
  · rcases c with ⟨content, _, _⟩
    cases content <;> rfl
  · rcases c with ⟨content, _, _⟩
    cases content <;> exact ⟨hfits.parent, hfits.row⟩

@[simp] theorem kind?_addMissing (a : Arena) (i : Nat) (attributes : List Attribute) :
    (a.addMissing i attributes).kind? = a.kind? :=
  a.kind?_update i fun c => by
    rcases c with ⟨content, _, _⟩
    cases content <;> rfl

theorem Sound.addMissing (h : a.Sound) (i : Nat) (attributes : List Attribute) :
    (a.addMissing i attributes).Sound := by
  refine h.update (fun c => ?_) fun c _ hfits => ?_
  · rcases c with ⟨content, _, _⟩
    cases content <;> rfl
  · rcases c with ⟨content, _, _⟩
    cases content <;> exact ⟨hfits.parent, hfits.row⟩

end

/-! Adding nodes -/

section

variable {a : Arena}

theorem cell?_lt {i : Nat} {c : Cell} (h : a.cell? i = some c) : i < a.cells.size := by
  obtain ⟨hi, -⟩ := Array.getElem?_eq_some_iff.1 h
  exact hi

theorem Sound.extend {b : Arena} (h : a.Sound) (hold : ∀ i < a.cells.size, b.cell? i = a.cell? i)
    (hnew : ∀ i c, a.cells.size ≤ i → b.cell? i = some c → CellFits b.kind? c) :
    b.Sound ∧ a.Grows b := by
  have hgrows : a.Grows b := fun i k hk => by
    obtain ⟨c, hc, rfl⟩ := Option.map_eq_some_iff.1 hk
    simp [kind?, hold i (cell?_lt hc), hc]
  refine ⟨⟨hgrows 0 _ h.root, fun i c hc => ?_⟩, hgrows⟩
  by_cases hi : i < a.cells.size
  · exact (h.cells i c (hold i hi ▸ hc)).grow hgrows
  · exact hnew i c (Nat.le_of_not_lt hi) hc

theorem cell?_add (a : Arena) (content : Content) (i : Nat) :
    (a.add content).2.cell? i =
      if i = a.cells.size then some { content := content } else a.cell? i := by
  simp [add, cell?, Array.getElem?_push]

theorem kind?_add_self (a : Arena) (content : Content) :
    (a.add content).2.kind? (a.add content).1 = some content.kind := by
  rw [kind?, cell?_add, if_pos (by rfl)]
  rfl

theorem cellFits_new (kind? : Nat → Option Kind) {content : Content}
    (h : content.kind ≠ .template) : CellFits kind? { content := content } :=
  ⟨by simp, rowFits_nil h⟩

theorem Sound.add (h : a.Sound) (content : Content) (hc : content.kind ≠ .template) :
    (a.add content).2.Sound ∧ a.Grows (a.add content).2 := by
  refine h.extend (fun i hi => ?_) fun i c hi hcell => ?_
  · rw [cell?_add, if_neg (Nat.ne_of_lt hi)]
  · rw [cell?_add] at hcell
    split at hcell
    · cases hcell
      exact cellFits_new _ hc
    · exact absurd (cell?_lt hcell) (Nat.not_lt.2 hi)

theorem addElement_of_ne {tag : Tag} (h : tag.isHtml "template" = false) :
    a.addElement tag = a.add (.element tag) := by
  simp [addElement, h]

theorem cell?_addElement_template {tag : Tag} (h : tag.isHtml "template" = true) (i : Nat) :
    (a.addElement tag).2.cell? i =
      if i = a.cells.size + 1 then some { content := .contents, parent := some a.cells.size }
      else if i = a.cells.size then
        some { content := .element tag, children := #[a.cells.size + 1] }
      else a.cell? i := by
  have hcell : ∀ j, ((a.add (.element tag)).2.add .contents).2.cell? j =
      if j = a.cells.size + 1 then some { content := .contents }
      else if j = a.cells.size then some { content := .element tag } else a.cell? j := by
    intro j
    rw [cell?_add, cell?_add]
    simp [add]
  have hparent : ((a.add (.element tag)).2.add .contents).2.parent? (a.cells.size + 1) = none := by
    simp [parent?, hcell]
  have hchildren : ((a.add (.element tag)).2.add .contents).2.children a.cells.size = #[] := by
    simp [children, hcell]
  have hplace : ((a.add (.element tag)).2.add .contents).1 = a.cells.size + 1 := by simp [add]
  have happend : (a.addElement tag).2 =
      (((a.add (.element tag)).2.add .contents).2.setChildren a.cells.size
        #[a.cells.size + 1]).setParent (a.cells.size + 1) (some a.cells.size) := by
    simp only [addElement, h, if_true, append_eq, hplace]
    rw [show (a.add (.element tag)).1 = a.cells.size from rfl, detach, hparent]
    simp only [hchildren]
    rfl
  rw [happend, setParent, setChildren, cell?_update, cell?_update, hcell]
  by_cases hi : i = a.cells.size + 1
  · simp [hi]
  · by_cases hi' : i = a.cells.size
    · simp [hi']
    · simp [hi, hi', Ne.symm hi, Ne.symm hi']

theorem kind_eq_template_iff {tag : Tag} :
    (Content.element tag).kind = .template ↔ tag.isHtml "template" = true := by
  simp [Content.kind, Kind.template, Tag.isHtml]

theorem Sound.addElement (h : a.Sound) (tag : Tag) :
    (a.addElement tag).2.Sound ∧ a.Grows (a.addElement tag).2 ∧
      (a.addElement tag).2.kind? (a.addElement tag).1 =
        some (.element tag.vocabulary tag.name) := by
  cases htag : tag.isHtml "template" with
  | false =>
    have hadd := h.add (.element tag) (by rw [Ne, kind_eq_template_iff, htag]; decide)
    rw [addElement_of_ne htag]
    exact ⟨hadd.1, hadd.2, a.kind?_add_self _⟩
  | true =>
    have hcell := cell?_addElement_template (a := a) htag
    have hplace : (a.addElement tag).1 = a.cells.size := by
      simp [Arena.addElement, htag, Arena.add]
    have hself : (a.addElement tag).2.kind? a.cells.size =
        some (.element tag.vocabulary tag.name) := by
      simp [kind?, hcell, Content.kind]
    have hcontents : (a.addElement tag).2.kind? (a.cells.size + 1) = some .contents := by
      simp [kind?, hcell, Content.kind]
    have htemplate := kind_eq_template_iff.2 htag
    have hbreak : ∀ v, (Content.element tag).kind ≠ .element v "br" := by
      simp [htemplate, Kind.template]
    have hextend := h.extend (b := (a.addElement tag).2) (fun i hi => ?_) fun i c hi hc => ?_
    · exact ⟨hextend.1, hextend.2, hplace ▸ hself⟩
    · rw [hcell, if_neg (by omega), if_neg (by omega)]
    · rw [hcell] at hc
      split at hc
      · cases hc
        refine ⟨fun p hp => ?_, rowFits_nil (by simp [Content.kind, Kind.template])⟩
        cases hp
        exact ⟨_, hself, hbreak⟩
      · split at hc
        · cases hc
          exact ⟨by simp, ⟨fun v hv => absurd hv (hbreak v), fun _ => ⟨_, [], rfl, hcontents⟩,
            fun hk => absurd htemplate hk⟩⟩
        · exact absurd (cell?_lt hc) (Nat.not_lt.2 hi)

end

/-! What is read off a table -/

section

variable {a : Arena}

theorem Sound.mayHold_holder (h : a.Sound) {i : Nat} (hi : MayHold a.kind? i) :
    MayHold a.kind? (a.holder i) := by
  unfold holder
  split
  · next tag htag =>
    split
    · next htemplate =>
      have hkind := kind?_of_tag? htag
      rw [show Kind.element tag.vocabulary tag.name = .template from
        kind_eq_template_iff.2 htemplate] at hkind
      obtain ⟨c, hc, hck⟩ := Option.map_eq_some_iff.1 hkind
      obtain ⟨k, r, hrow, hk⟩ := (h.cells i c hc).row.first hck
      have hzero : (a.children i)[0]? = some k := by
        rw [children_eq hc, ← Array.getElem?_toList, hrow]
        rfl
      rw [hzero]
      exact ⟨_, hk, by simp⟩
    · exact hi
  · exact hi

theorem Sound.appendText (h : a.Sound) {p : Nat} (hp : MayHold a.kind? p) (s : String) :
    (a.appendText p s).Sound ∧ a.Grows (a.appendText p s) := by
  have hfresh : ((a.add (.text s)).2.append p (a.add (.text s)).1).Sound ∧
      a.Grows ((a.add (.text s)).2.append p (a.add (.text s)).1) := by
    obtain ⟨hadd, hgrows⟩ := h.add (.text s) (by simp [Content.kind, Kind.template])
    exact ⟨hadd.append (hp.grow hgrows) ⟨_, a.kind?_add_self _, by simp [Content.kind]⟩,
      hgrows.trans (.of_eq (kind?_append ..))⟩
  unfold Arena.appendText
  split
  · split
    · exact ⟨h.extendText _ s, .of_eq (kind?_extendText ..)⟩
    · exact hfresh
  · exact hfresh

theorem Sound.textBefore (h : a.Sound) {i : Nat} (hi : IsMovable a.kind? i) (s : String) :
    (a.textBefore i s).Sound ∧ a.Grows (a.textBefore i s) := by
  unfold Arena.textBefore
  simp only
  split
  · exact ⟨h.extendText _ s, .of_eq (kind?_extendText ..)⟩
  · obtain ⟨hadd, hgrows⟩ := h.add (.text s) (by simp [Content.kind, Kind.template])
    exact ⟨hadd.insertBefore (hi.grow hgrows) ⟨_, a.kind?_add_self _, by simp [Content.kind]⟩,
      hgrows.trans (.of_eq (kind?_insertBefore ..))⟩

theorem Sound.breaksEmpty_freezeAll (h : a.Sound) (depth : Nat) (places : List Nat) :
    BreaksEmpty (a.freezeAll depth places) := by
  induction depth generalizing places with
  | zero => intro address t c hat; simp [freezeAll] at hat
  | succ depth ih =>
    rintro (_ | ⟨i, address⟩) t c hat hbr
    · cases hat
    obtain ⟨n, hn, hat⟩ := Option.bind_eq_some_iff.1 hat
    obtain ⟨place, -, hplace⟩ := List.mem_filterMap.1 (List.mem_of_getElem? hn)
    cases hcell : a.cell? place with
    | none => simp [hcell] at hplace
    | some cell =>
      rw [hcell] at hplace
      rcases cell with ⟨content, parent, row⟩
      cases address with
      | nil =>
        cases hat
        cases content <;> simp only [Option.some.injEq, reduceCtorEq, Node.element.injEq] at hplace
        obtain ⟨rfl, rfl⟩ := hplace
        have hrow : row.toList = [] := (h.cells place _ hcell).row.bare _ (by
          simp only [Content.kind]
          exact congrArg _ hbr)
        rw [hrow]
        cases depth <;> rfl
      | cons j address =>
        cases content with
        | document => cases hplace
        | text | comment =>
          cases hplace
          cases hat
        | contents | element =>
          cases hplace
          exact ih _ (j :: address) t c hat hbr

end

end Arena

end Harvest.Html
