import Harvest.Html.Builder.Body
import Harvest.Proofs.Html.Arenas
/-!
While a document is built, no `br` is ever open and none is ever copied, so nothing is put into
one. One lemma for each operation on the state says that this stays so: closing elements, inserting
them, and taking formatting up again.
-/

namespace Harvest.Html

open Arena (MayHold IsMovable Grows)

/-- Whether a node may be open: an element, but no `br`. -/
def Arena.MayOpen (kind? : Nat → Option Arena.Kind) (i : Nat) : Prop :=
  ∃ v name, kind? i = some (.element v name) ∧ name ≠ "br"

open Arena (MayOpen)

section

variable {a b : Arena} {i : Nat}

theorem Arena.MayOpen.mayHold (h : MayOpen a.kind? i) : MayHold a.kind? i :=
  let ⟨_, _, hkind, hname⟩ := h
  ⟨_, hkind, fun _ he => hname (Arena.Kind.element.inj he).2⟩

theorem Arena.MayOpen.isMovable (h : MayOpen a.kind? i) : IsMovable a.kind? i :=
  let ⟨_, _, hkind, _⟩ := h
  ⟨_, hkind, Arena.Kind.noConfusion⟩

theorem Arena.MayOpen.grow (h : MayOpen a.kind? i) (hg : a.Grows b) : MayOpen b.kind? i :=
  let ⟨v, name, hkind, hname⟩ := h
  ⟨v, name, hg i _ hkind, hname⟩

theorem Arena.Sound.mayHold_root (h : a.Sound) : MayHold a.kind? 0 :=
  ⟨_, h.root, fun _ => Arena.Kind.noConfusion⟩

end

namespace Builder

structure Sound (b : Builder) : Prop where
  arena : b.arena.Sound
  opened : ∀ i ∈ b.opened, MayOpen b.arena.kind? i
  head : ∀ i, b.head = some i → MayOpen b.arena.kind? i
  formatting : ∀ i t, Formatting.element i t ∈ b.formatting → t.name ≠ "br"

theorem sound_empty : Sound {} where
  arena := Arena.sound_empty
  opened _ hi := nomatch hi
  head _ hi := nomatch hi
  formatting _ _ ht := nomatch ht

section

variable {b : Builder}

/-! Closing and forgetting -/

theorem Sound.open_to (h : b.Sound) {l : List Nat} (hl : ∀ i ∈ l, MayOpen b.arena.kind? i) :
    Sound { b with opened := l } :=
  ⟨h.arena, hl, h.head, h.formatting⟩

theorem Sound.close_to (h : b.Sound) {l : List Nat} (hl : ∀ i ∈ l, i ∈ b.opened) :
    Sound { b with opened := l } :=
  h.open_to fun i hi => h.opened i (hl i hi)

theorem Sound.format_to (h : b.Sound) {l : List Formatting}
    (hl : ∀ i t, Formatting.element i t ∈ l → t.name ≠ "br") :
    Sound { b with formatting := l } :=
  ⟨h.arena, h.opened, h.head, hl⟩

theorem Sound.forget_to (h : b.Sound) {l : List Formatting}
    (hl : ∀ i t, Formatting.element i t ∈ l → Formatting.element i t ∈ b.formatting) :
    Sound { b with formatting := l } :=
  h.format_to fun i t ht => h.formatting i t (hl i t ht)

@[grind ←]
theorem Sound.pop (h : b.Sound) : b.pop.Sound :=
  h.close_to fun _ => List.mem_of_mem_tail

@[grind ←]
theorem Sound.popThrough (h : b.Sound) (names : List String) : (b.popThrough names).Sound :=
  h.close_to fun _ hi => (List.dropWhile_suffix _).subset (List.mem_of_mem_tail hi)

@[grind ←]
theorem Sound.popTo (h : b.Sound) (names : List String) : (b.popTo names).Sound :=
  h.close_to (List.dropWhile_suffix _).subset

@[grind ←]
theorem Sound.popThroughPlace (h : b.Sound) (i : Nat) : (b.popThroughPlace i).Sound :=
  h.close_to fun _ hi => (List.dropWhile_suffix _).subset (List.mem_of_mem_tail hi)

@[grind ←]
theorem Sound.closeImplied (h : b.Sound) (except : List String) : (b.closeImplied except).Sound :=
  h.close_to (List.dropWhile_suffix _).subset

@[grind ←]
theorem Sound.closeThoroughly (h : b.Sound) : b.closeThoroughly.Sound :=
  h.close_to (List.dropWhile_suffix _).subset

@[grind ←]
theorem Sound.closeParagraph (h : b.Sound) : b.closeParagraph.Sound := by
  unfold Builder.closeParagraph
  split
  · exact (h.closeImplied ["p"]).popThrough ["p"]
  · exact h

@[grind ←]
theorem Sound.close (h : b.Sound) (i : Nat) : (b.close i).Sound :=
  h.close_to fun _ => List.mem_of_mem_filter

@[grind ←]
theorem Sound.leaveForeign (h : b.Sound) : b.leaveForeign.Sound :=
  h.close_to (List.dropWhile_suffix _).subset

@[grind ←]
theorem Sound.pushMarker (h : b.Sound) : b.pushMarker.Sound :=
  h.forget_to fun _ _ ht => (List.mem_cons.1 ht).resolve_left Formatting.noConfusion

@[grind ←]
theorem Sound.clearToMarker (h : b.Sound) : b.clearToMarker.Sound :=
  h.forget_to fun _ _ ht => (List.dropWhile_suffix _).subset (List.mem_of_mem_tail ht)

@[grind ←]
theorem Sound.forget (h : b.Sound) (i : Nat) : (b.forget i).Sound :=
  h.forget_to fun _ _ => List.mem_of_mem_filter

@[grind ←]
theorem Sound.refuseFrameset (h : b.Sound) : b.refuseFrameset.Sound :=
  ⟨h.arena, h.opened, h.head, h.formatting⟩

@[grind ←]
theorem Sound.enter (h : b.Sound) (phase : Phase) : (b.enter phase).Sound :=
  ⟨h.arena, h.opened, h.head, h.formatting⟩

@[grind ←]
theorem Sound.resetPhase (h : b.Sound) : b.resetPhase.Sound :=
  ⟨h.arena, h.opened, h.head, h.formatting⟩

@[grind ←]
theorem Sound.closeInScope (h : b.Sound) (boundary : Tag → Bool) (except names : List String) :
    (b.closeInScope boundary except names).Sound := by
  unfold Builder.closeInScope
  split
  · exact (h.closeImplied except).popThrough names
  · exact h

@[grind ←]
theorem Sound.closeItem (h : b.Sound) (names : List String) : (b.closeItem names).Sound := by
  have hlook : ∀ l, (closeItem.look b names l).Sound := by
    intro l
    induction l with
    | nil => exact h
    | cons i r ih =>
      unfold closeItem.look
      split
      · exact ih
      · split
        · exact (h.closeImplied _).popThrough _
        · split
          · exact h
          · exact ih
  exact hlook b.opened

@[grind ←]
theorem Sound.closeOther (h : b.Sound) (name : String) : (b.closeOther name).Sound := by
  have hlook : ∀ l, (closeOther.look b name l).Sound := by
    intro l
    induction l with
    | nil => exact h
    | cons i r ih =>
      unfold closeOther.look
      split
      · exact ih
      · split
        · exact (h.closeImplied _).popThroughPlace _
        · split
          · exact h
          · exact ih
  exact hlook b.opened

@[grind ←]
theorem Sound.closeTemplate (h : b.Sound) : b.closeTemplate.Sound := by
  unfold Builder.closeTemplate
  split
  · have hclosed := ((h.closeThoroughly.popThrough ["template"]).clearToMarker)
    exact ⟨hclosed.arena, hclosed.opened, hclosed.head, hclosed.formatting⟩
  · exact h

/-! Inserting -/

theorem Sound.grow (h : b.Sound) {a : Arena} (ha : a.Sound) (hg : b.arena.Grows a) :
    Sound { b with arena := a } where
  arena := ha
  opened i hi := (h.opened i hi).grow hg
  head i hi := (h.head i hi).grow hg
  formatting := h.formatting

/-- Whether something can be put in a place. -/
def Target.Fits (kind? : Nat → Option Arena.Kind) : Target → Prop
  | .lastIn p => MayHold kind? p
  | .before s => IsMovable kind? s

theorem Sound.mayHold_getD (h : b.Sound) {o : Option Nat} (hi : ∀ i ∈ o, i ∈ b.opened) :
    MayHold b.arena.kind? (o.getD 0) := by
  cases o with
  | none => exact h.arena.mayHold_root
  | some i => exact (h.opened i (hi i rfl)).mayHold

theorem Sound.target (h : b.Sound) {p : Nat} (hp : MayHold b.arena.kind? p) :
    (b.target p).Fits b.arena.kind? := by
  simp only [Builder.target]
  split
  · split
    · exact h.mayHold_getD fun i hi => List.mem_of_getLast? hi
    · next i r habove =>
      have hmem : ∀ j ∈ i :: r, j ∈ b.opened := fun j hj =>
        (List.dropWhile_suffix _).subset (habove ▸ hj)
      split
      · exact h.arena.mayHold_holder (h.opened i (hmem i List.mem_cons_self)).mayHold
      · split
        · exact (h.opened i (hmem i List.mem_cons_self)).isMovable
        · refine h.arena.mayHold_holder (h.mayHold_getD fun j hj => ?_)
          exact hmem j (List.mem_cons_of_mem i (List.mem_of_mem_head? hj))
  · exact h.arena.mayHold_holder hp

theorem Sound.here (h : b.Sound) : b.here.Fits b.arena.kind? :=
  h.target (h.mayHold_getD fun _ hi => List.mem_of_mem_head? hi)

theorem Target.Fits.grow {a a' : Arena} {t : Target} (h : t.Fits a.kind?) (hg : a.Grows a') :
    t.Fits a'.kind? := by
  cases t with
  | lastIn p => exact MayHold.grow h hg
  | before s => exact IsMovable.grow h hg

@[simp] theorem kind?_place (b : Builder) (t : Target) (i : Nat) :
    (b.place t i).arena.kind? = b.arena.kind? := by
  cases t <;> simp [Builder.place]

theorem Sound.place (h : b.Sound) {t : Target} (ht : t.Fits b.arena.kind?) {i : Nat}
    (hi : IsMovable b.arena.kind? i) : (b.place t i).Sound := by
  cases t with
  | lastIn p => exact h.grow (h.arena.append ht hi) (.of_eq (Arena.kind?_append ..))
  | before s => exact h.grow (h.arena.insertBefore ht hi) (.of_eq (Arena.kind?_insertBefore ..))

/-- An element is opened on top of a sound state. -/
theorem Sound.exists_openTag (h : b.Sound) (tag : Tag) :
    ∃ c : Builder, ∃ i, c.Sound ∧ c.arena.kind? i = some (.element tag.vocabulary tag.name) ∧
      b.openTag tag = { c with opened := i :: c.opened } := by
  obtain ⟨hsound, hgrows, hkind⟩ := h.arena.addElement tag
  have hmovable : IsMovable (b.arena.addElement tag).2.kind? (b.arena.addElement tag).1 :=
    ⟨_, hkind, Arena.Kind.noConfusion⟩
  have hplaced := (h.grow hsound hgrows).place (h.here.grow hgrows) hmovable
  exact ⟨_, _, hplaced, by rw [kind?_place]; exact hkind, rfl⟩

theorem Sound.open_one (h : b.Sound) {i : Nat} (hi : MayOpen b.arena.kind? i) :
    Sound { b with opened := i :: b.opened } :=
  h.open_to fun j hj => by
    rcases List.mem_cons.1 hj with rfl | hj
    · exact hi
    · exact h.opened j hj

theorem Sound.openTag (h : b.Sound) {tag : Tag} (hname : tag.name ≠ "br") :
    (b.openTag tag).Sound := by
  obtain ⟨c, i, hc, hi, heq⟩ := h.exists_openTag tag
  rw [heq]
  exact hc.open_one ⟨_, _, hi, hname⟩

@[grind ←]
theorem Sound.openHtml (h : b.Sound) {name : String} (hname : name ≠ "br")
    (attributes : List Attribute) : (b.openHtml name attributes).Sound :=
  h.openTag hname

/-- An element that is closed at once may be a `br`. -/
@[grind ←]
theorem Sound.insertVoid (h : b.Sound) (name : String) (attributes : List Attribute) :
    (b.insertVoid name attributes).Sound := by
  obtain ⟨c, i, hc, -, heq⟩ := h.exists_openTag { vocabulary := .html, name, attributes }
  rw [Builder.insertVoid, Builder.openHtml, heq]
  exact ⟨hc.arena, hc.opened, hc.head, hc.formatting⟩

@[grind ←]
theorem Sound.insertText (h : b.Sound) (s : String) : (b.insertText s).Sound := by
  have hhere := h.here
  unfold Builder.insertText
  split
  · next p heq =>
    rw [heq] at hhere
    obtain ⟨hsound, hgrows⟩ := h.arena.appendText hhere s
    exact h.grow hsound hgrows
  · next i heq =>
    rw [heq] at hhere
    obtain ⟨hsound, hgrows⟩ := h.arena.textBefore hhere s
    exact h.grow hsound hgrows

theorem Sound.addComment (h : b.Sound) (s : String) :
    Sound { b with arena := (b.arena.add (.comment s)).2 } ∧
      b.arena.Grows (b.arena.add (.comment s)).2 ∧
      IsMovable (b.arena.add (.comment s)).2.kind? (b.arena.add (.comment s)).1 := by
  obtain ⟨hsound, hgrows⟩ := h.arena.add (.comment s) nofun
  exact ⟨h.grow hsound hgrows, hgrows, _, b.arena.kind?_add_self _, nofun⟩

theorem Sound.insertCommentIn (h : b.Sound) {p : Nat} (hp : MayHold b.arena.kind? p) (s : String) :
    (b.insertCommentIn p s).Sound := by
  obtain ⟨hadded, hgrows, hmovable⟩ := h.addComment s
  exact hadded.place (t := .lastIn p) (hp.grow hgrows) hmovable

@[grind ←]
theorem Sound.insertComment (h : b.Sound) (s : String) : (b.insertComment s).Sound := by
  obtain ⟨hadded, hgrows, hmovable⟩ := h.addComment s
  exact hadded.place (h.here.grow hgrows) hmovable

@[grind ←]
theorem Sound.openText (h : b.Sound) {name : String} (hname : name ≠ "br")
    (attributes : List Attribute) (reading : Token.Mode) :
    (b.openText name attributes reading).Sound :=
  have hopened := h.openHtml hname attributes
  ⟨hopened.arena, hopened.opened, hopened.head, hopened.formatting⟩

@[grind ←]
theorem Sound.openForeign (h : b.Sound) (v : Vocabulary) {name : String} (hname : name ≠ "br")
    (attributes : List Attribute) (selfClosing : Bool) :
    (b.openForeign v name attributes selfClosing).Sound := by
  have hspelled : spelled svgNames name ≠ "br" := by
    unfold spelled
    cases hfind : svgNames.find? fun n => Text.lowered n = name with
    | none => exact hname
    | some n =>
      rintro rfl
      exact absurd (List.mem_of_find?_eq_some hfind) (by decide)
  have hopened : (b.openTag ⟨v, if v = .svg then spelled svgNames name else name,
      attributesIn v attributes, 0⟩).Sound :=
    h.openTag (by dsimp only; split <;> assumption)
  cases selfClosing with
  | true => exact hopened.pop
  | false => exact hopened

/-! Formatting -/

/-- A formatting element is opened and remembered. -/
theorem Sound.remember (h : b.Sound) {tag : Tag} (hname : tag.name ≠ "br") :
    Sound (match (b.openTag tag).current? with
      | some i => { b.openTag tag with formatting := .element i tag :: (b.openTag tag).formatting }
      | none => b.openTag tag) := by
  have hopened := h.openTag hname
  split
  · refine hopened.format_to fun j t ht => ?_
    rcases List.mem_cons.1 ht with ht | ht
    · cases ht
      exact hname
    · exact hopened.formatting j t ht
  · exact hopened

@[grind ←]
theorem Sound.reconstruct (h : b.Sound) : b.reconstruct.Sound := by
  refine List.foldlRecOn (motive := Builder.Sound) _ _
    (h.forget_to fun _ _ ht => (List.dropWhile_suffix _).subset ht) fun c hc f hf => ?_
  have hmem := (List.takeWhile_prefix _).subset (List.mem_reverse.1 hf)
  cases f with
  | marker => exact hc
  | element i tag => exact hc.remember (h.formatting i tag hmem)

@[grind ←]
theorem Sound.openFormatting (h : b.Sound) {name : String} (hname : name ≠ "br")
    (attributes : List Attribute) : (b.openFormatting name attributes).Sound := by
  simp only [Builder.openFormatting]
  refine Sound.remember ?_ hname
  split
  · split
    · exact h.forget _
    · exact h
  · exact h

theorem Sound.copyElement (h : b.Sound) (tag : Tag) :
    (b.copyElement tag).2.Sound ∧ b.arena.Grows (b.copyElement tag).2.arena ∧
      (b.copyElement tag).2.arena.kind? (b.copyElement tag).1 =
        some (.element tag.vocabulary tag.name) := by
  obtain ⟨hsound, hgrows, hkind⟩ := h.arena.addElement tag
  exact ⟨h.grow hsound hgrows, hgrows, hkind⟩

theorem Sound.replace_opened (h : b.Sound) (i : Nat) {copy : Nat}
    (hcopy : MayOpen b.arena.kind? copy) :
    Sound { b with opened := b.opened.map fun j => if j = i then copy else j } :=
  h.open_to fun j hj => by
    obtain ⟨k, hk, rfl⟩ := List.mem_map.1 hj
    split
    · exact hcopy
    · exact h.opened k hk

theorem Sound.replace_formatting (h : b.Sound) (i copy : Nat) {tag : Tag}
    (htag : tag.name ≠ "br") :
    Sound { b with
      formatting := b.formatting.map fun f => if f.isAt i then .element copy tag else f } :=
  h.format_to fun j t ht => by
    obtain ⟨f, hf, heq⟩ := List.mem_map.1 ht
    split at heq
    · cases heq
      exact htag
    · exact h.formatting j t (heq ▸ hf)

theorem formatting_of_findSome? {l : List Formatting} {i : Nat} {t : Tag}
    (h : l.findSome? (fun
      | .element j t => if j = i then some t else none
      | .marker => none) = some t) : ∃ j, Formatting.element j t ∈ l := by
  obtain ⟨f, hf, heq⟩ := List.exists_of_findSome?_eq_some h
  cases f with
  | marker => cases heq
  | element j u =>
    dsimp only at heq
    split at heq
    · cases heq
      exact ⟨j, hf⟩
    · cases heq

theorem sound_copyBetween {a : Arena} (block : Nat) (row : List Nat) (count : Nat) (n : Nesting)
    (h : n.builder.Sound) (hgrows : a.Grows n.builder.arena)
    (hnode : IsMovable n.builder.arena.kind? n.node) :
    (copyBetween block count row n).builder.Sound ∧
      a.Grows (copyBetween block count row n).builder.arena ∧
      IsMovable (copyBetween block count row n).builder.arena.kind?
        (copyBetween block count row n).node := by
  induction row generalizing count n with
  | nil =>
    unfold copyBetween
    exact ⟨h, hgrows, hnode⟩
  | cons i row ih =>
    simp only [copyBetween]
    split
    · exact ih _ _ (h.close i) hgrows hnode
    · next tag hentry =>
      obtain ⟨j, hmem⟩ := formatting_of_findSome? hentry
      split
      · exact ih _ _ ((h.forget i).close i) hgrows hnode
      · obtain ⟨hcopied, hmore, hkind⟩ := h.copyElement tag
        generalize n.builder.copyElement tag = p at hcopied hmore hkind ⊢
        obtain ⟨copy, c⟩ := p
        have hname := h.formatting j tag hmem
        have hopen : MayOpen c.arena.kind? copy := ⟨_, _, hkind, hname⟩
        have hsame := Arena.kind?_append c.arena copy n.node
        have hlinked := ((hcopied.replace_opened i hopen).replace_formatting i copy hname).grow
          (hcopied.arena.append hopen.mayHold (hnode.grow hmore)) (.of_eq hsame)
        exact ih _ _ hlinked ((hgrows.trans hmore).trans (.of_eq hsame))
          (hsame ▸ hopen.isMovable)

/-- What is open above a formatting element in scope is no boundary. -/
theorem not_isBoundary_of_placeInScope {l : List Nat} {i j : Nat} {t : Tag}
    (h : placeInScope.look b i l = true) (hj : j ∈ l.takeWhile (· ≠ i)) (ht : b.tag? j = some t) :
    isBoundary t = false := by
  induction l with
  | nil => cases hj
  | cons m r ih =>
    unfold placeInScope.look at h
    by_cases hm : m = i
    · simp [hm] at hj
    · rw [List.takeWhile_cons_of_pos (by simpa using hm)] at hj
      rw [if_neg hm] at h
      rcases List.mem_cons.1 hj with rfl | hj
      · rw [ht] at h
        dsimp only at h
        split at h
        · cases h
        · next hnot => exact Bool.eq_false_iff.2 hnot
      · split at h
        · split at h
          · cases h
          · exact ih h hj
        · exact ih h hj

theorem mem_putFormatting {entry f : Formatting} {bookmark : Bookmark} {row : List Formatting}
    (h : f ∈ putFormatting entry bookmark row) : f = entry ∨ f ∈ row := by
  cases bookmark with
  | replacing i =>
    obtain ⟨g, hg, rfl⟩ := List.mem_map.1 h
    split
    · exact .inl rfl
    · exact .inr hg
  | newerThan i =>
    obtain ⟨g, hg, hf⟩ := List.mem_flatMap.1 h
    split at hf
    · rcases List.mem_cons.1 hf with rfl | hf
      · exact .inl rfl
      · exact .inr (List.mem_singleton.1 hf ▸ hg)
    · exact .inr (List.mem_singleton.1 hf ▸ hg)

/-- A block stands between a formatting element in scope and the top. -/
theorem Sound.kind?_block (h : b.Sound) {i block : Nat} (hscope : b.placeInScope i = true)
    (hblock : block ∈ b.opened.takeWhile (· ≠ i)) :
    ∃ k, b.arena.kind? block = some k ∧ k ≠ .template := by
  obtain ⟨v, name, hkind, -⟩ := h.opened block ((List.takeWhile_prefix _).subset hblock)
  obtain ⟨t, ht, rfl, rfl⟩ := Arena.tag?_of_kind? hkind
  refine ⟨_, hkind, fun htemplate => ?_⟩
  have hboundary := not_isBoundary_of_placeInScope hscope hblock ht
  obtain ⟨hv, hn⟩ := Arena.Kind.element.inj htemplate
  simp [isBoundary, hv, hn] at hboundary

/-- What a block holds goes into a copy of the formatting element, which goes into the block. -/
theorem Sound.wrap (h : b.Sound) {block copy : Nat} {k : Arena.Kind}
    (hkind : b.arena.kind? block = some k) (hk : k ≠ .template)
    (hblock : MayHold b.arena.kind? block) (hcopy : MayOpen b.arena.kind? copy) :
    Sound { b with arena := (b.arena.moveChildren block copy).append block copy } ∧
      MayOpen ((b.arena.moveChildren block copy).append block copy).kind? copy := by
  obtain ⟨hmoved, hsame⟩ := h.arena.moveChildren hkind hk hcopy.mayHold
  have hsame' := (Arena.kind?_append _ block copy).trans hsame
  refine ⟨h.grow (hmoved.append ?_ ?_) (.of_eq hsame'), ?_⟩
  · rwa [hsame]
  · rw [hsame]
    exact hcopy.isMovable
  · rwa [hsame']

theorem Sound.name_of_latest? (h : b.Sound) {name : String} {i : Nat} {tag : Tag}
    (hlatest : b.latest? name = some (i, tag)) : tag.name ≠ "br" := by
  obtain ⟨f, hf, heq⟩ := List.exists_of_findSome?_eq_some hlatest
  have hmem := (List.takeWhile_prefix _).subset hf
  cases f with
  | marker => cases heq
  | element j t =>
    dsimp only at heq
    split at heq
    · cases heq
      exact h.formatting i tag hmem
    · cases heq

theorem Sound.adoptOnce (h : b.Sound) (name : String) : (b.adoptOnce name).1.Sound := by
  simp only [Builder.adoptOnce]
  split
  · exact h.closeOther name
  next i tag hlatest =>
  have hname := h.name_of_latest? hlatest
  split
  · exact h.forget i
  split
  · exact h
  next hscope =>
  split
  · exact (h.popThroughPlace i).forget i
  next block hblock =>
  have habove := List.mem_reverse.1 (List.mem_of_find?_eq_some hblock)
  obtain ⟨k, hk, htemplate⟩ := h.kind?_block (by simpa using hscope) habove
  have hopen := h.opened block ((List.takeWhile_prefix _).subset habove)
  obtain ⟨hn, hgrows, hnode⟩ := sound_copyBetween block
    ((b.opened.takeWhile (· ≠ i)).dropWhile (· ≠ block)).tail 0 ⟨b, block, .replacing i⟩ h (.refl _)
    hopen.isMovable
  generalize copyBetween block 0 _ _ = n at hn hgrows hnode ⊢
  have hancestor := (h.mayHold_getD (o := (b.opened.dropWhile (· ≠ i)).tail.head?) fun j hj =>
    (List.dropWhile_suffix _).subset (List.mem_of_mem_tail (List.mem_of_mem_head? hj))).grow hgrows
  have hplaced := hn.place (hn.target hancestor) hnode
  have hsame := kind?_place n.builder
    (n.builder.target ((b.opened.dropWhile (· ≠ i)).tail.head?.getD 0)) n.node
  generalize n.builder.place _ n.node = c at hplaced hsame ⊢
  have hgrows' := hgrows.trans (.of_eq hsame)
  obtain ⟨hcopied, hmore, hcopy⟩ := hplaced.copyElement tag
  generalize c.copyElement tag = p at hcopied hmore hcopy ⊢
  obtain ⟨copy, c⟩ := p
  have hgrows'' := hgrows'.trans hmore
  obtain ⟨hwrapped, hcopy⟩ := hcopied.wrap (hgrows'' _ _ hk) htemplate
    (hopen.mayHold.grow hgrows'') ⟨_, _, hcopy, hname⟩
  refine Sound.open_to (((hwrapped.format_to fun j t ht => ?_).forget i).close i) fun j hj => ?_
  · rcases mem_putFormatting ht with ht | ht
    · cases ht
      exact hname
    · exact hwrapped.formatting j t ht
  · obtain ⟨m, hm, hj⟩ := List.mem_flatMap.1 hj
    split at hj
    · rcases List.mem_cons.1 hj with rfl | hj
      · exact hcopy
      · exact List.mem_singleton.1 hj ▸ hwrapped.opened m (List.mem_of_mem_filter hm)
    · exact List.mem_singleton.1 hj ▸ hwrapped.opened m (List.mem_of_mem_filter hm)

@[grind ←]
theorem Sound.adopt (h : b.Sound) (name : String) : (b.adopt name).Sound := by
  have hrounds : ∀ rounds (c : Builder), c.Sound → (adoptRounds name rounds c).Sound := by
    intro rounds
    induction rounds with
    | zero => exact fun c hc => hc
    | succ rounds ih =>
      intro c hc
      have hnext := hc.adoptOnce name
      unfold adoptRounds
      split
      · next d heq =>
        rw [heq] at hnext
        exact ih d hnext
      · next d heq => rwa [heq] at hnext
  unfold Builder.adopt
  split
  · split
    · exact h.pop
    · exact hrounds 8 b h
  · exact h

end

end Builder

end Harvest.Html
