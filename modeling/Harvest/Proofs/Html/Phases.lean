import Harvest.Html.Reader
import Harvest.Proofs.Html.Building
/-!
Tokens keep a state sound, whatever the phase, so that in every document no `br` holds anything.
-/

namespace Harvest.Html

open Arena (MayHold MayOpen)

namespace Builder

section

variable {b : Builder}

/-! In front of the body -/

theorem Sound.openRoot (h : b.Sound) (attributes : List Attribute) :
    (b.openRoot attributes).Sound := by
  obtain ⟨hsound, hgrows, hkind⟩ :=
    h.arena.addElement { vocabulary := .html, name := "html", attributes }
  simp only [Builder.openRoot]
  generalize b.arena.addElement _ = p at hsound hgrows hkind ⊢
  obtain ⟨i, a⟩ := p
  have hopen : MayOpen a.kind? i := ⟨_, _, hkind, by simp⟩
  have hsame := Arena.kind?_append a 0 i
  have hlinked := h.grow (hsound.append hsound.mayHold_root hopen.isMovable)
    (hgrows.trans (.of_eq hsame))
  refine ⟨hlinked.arena, fun j hj => ?_, hlinked.head, hlinked.formatting⟩
  rw [List.mem_singleton.1 hj]
  exact hsame ▸ hopen

@[grind ←]
theorem Sound.addMissing (h : b.Sound) (i : Nat) (attributes : List Attribute) :
    Sound { b with arena := b.arena.addMissing i attributes } :=
  h.grow (h.arena.addMissing i attributes) (.of_eq (Arena.kind?_addMissing ..))

@[grind ←]
theorem Sound.mergeRoot (h : b.Sound) (attributes : List Attribute) :
    (b.mergeRoot attributes).Sound := by
  unfold Builder.mergeRoot
  split
  · exact h
  · split
    · exact h.addMissing _ attributes
    · exact h

@[grind ←]
theorem Sound.openHead (h : b.Sound) (attributes : List Attribute) :
    (b.openHead attributes).Sound :=
  have hopened : (b.openHtml "head" attributes).Sound := h.openHtml (by decide) attributes
  ⟨hopened.arena, hopened.opened, fun i hi => hopened.opened i (List.mem_of_mem_head? hi),
    hopened.formatting⟩

theorem Sound.openTemplate (h : b.Sound) (attributes : List Attribute) :
    (b.openTemplate attributes).Sound :=
  have htemplate : (b.openHtml "template" attributes).Sound := h.openHtml (by decide) attributes
  have hopened := htemplate.pushMarker
  ⟨hopened.arena, hopened.opened, hopened.head, hopened.formatting⟩

@[grind ←]
theorem Sound.openHeadTag (h : b.Sound) (name : String) (attributes : List Attribute) :
    (b.openHeadTag name attributes).Sound := by
  unfold Builder.openHeadTag
  split
  case h_6 => exact h.openTemplate attributes
  case h_7 => exact h.insertVoid name attributes
  all_goals exact h.openText (by decide) attributes _

@[grind ←]
theorem Sound.openBody (h : b.Sound) (attributes : List Attribute) :
    (b.openBody attributes).Sound :=
  (h.openHtml (by decide) attributes).enter .inBody

@[grind ←]
theorem Sound.openBehindHead (h : b.Sound) (name : String) (attributes : List Attribute) :
    (b.openBehindHead name attributes).Sound := by
  unfold Builder.openBehindHead
  split
  · exact h
  · next i hi => exact ((h.open_one (h.head i hi)).openHeadTag name attributes).close i

/-- Whether a state is sound that a token leads to. -/
@[grind]
def Verdict.Sound : Verdict → Prop
  | .done b => b.Sound
  | .again b => b.Sound

theorem Sound.initial (h : b.Sound) (t : Token) : (initial t b).Sound := by
  unfold Builder.initial
  split
  · exact h
  · exact h.insertCommentIn h.arena.mayHold_root _
  all_goals exact ⟨h.arena, h.opened, h.head, h.formatting⟩

theorem Sound.beforeHtml (h : b.Sound) (t : Token) : (beforeHtml t b).Sound := by
  unfold Builder.beforeHtml
  split
  · exact h
  · exact h.insertCommentIn h.arena.mayHold_root _
  · exact h
  · exact h.openRoot _
  · split
    · exact h.openRoot []
    · exact h
  · exact h.openRoot []

theorem Sound.beforeHead (h : b.Sound) (t : Token) : (beforeHead t b).Sound := by
  fun_cases Builder.beforeHead <;> grind

theorem Sound.inHead (h : b.Sound) (t : Token) : (inHead t b).Sound := by
  fun_cases Builder.inHead <;> grind

theorem Sound.afterHead (h : b.Sound) (t : Token) : (afterHead t b).Sound := by
  fun_cases Builder.afterHead <;> grind

/-! In the body -/

@[grind ←]
theorem Sound.endTemplate (h : b.Sound) : b.endTemplate.Sound := by
  unfold Builder.endTemplate
  split
  · have hclosed := (h.popThrough ["template"]).clearToMarker
    exact ⟨hclosed.arena, hclosed.opened, hclosed.head, hclosed.formatting⟩
  · exact h

@[grind ←]
theorem Sound.mergeBody (h : b.Sound) (attributes : List Attribute) :
    (b.mergeBody attributes).Sound := by
  unfold Builder.mergeBody
  split
  · split
    · exact (h.addMissing _ attributes).refuseFrameset
    · exact h
  · exact h

@[grind ←]
theorem Sound.replaceBody (h : b.Sound) (attributes : List Attribute) :
    (b.replaceBody attributes).Sound := by
  unfold Builder.replaceBody
  split
  · next root i r hopened =>
    have hmem : ∀ j ∈ root :: i :: r, j ∈ b.opened := fun j hj =>
      List.mem_reverse.1 (hopened ▸ hj)
    split
    · have hdetached := (h.grow (h.arena.detach (h.opened i (hmem i (by simp))).isMovable)
        (.of_eq (Arena.kind?_detach ..))).close_to (l := [root]) (by
          intro j hj
          rw [List.mem_singleton.1 hj]
          exact hmem root (by simp))
      exact (hdetached.openHtml (by decide) attributes).enter .inFrameset
    · exact h
  · exact h

@[grind ←]
theorem Sound.openForm (h : b.Sound) (attributes : List Attribute) :
    (b.openForm attributes).Sound := by
  have hopened : (b.closeParagraph.openHtml "form" attributes).Sound :=
    h.closeParagraph.openHtml (by decide) attributes
  simp only [Builder.openForm]
  split
  · exact h
  · split
    · exact hopened
    · exact ⟨hopened.arena, hopened.opened, hopened.head, hopened.formatting⟩

@[grind ←]
theorem Sound.closeForm (h : b.Sound) : b.closeForm.Sound := by
  unfold Builder.closeForm
  split
  · exact h.closeInScope isBoundary [] ["form"]
  · split
    · exact h
    · have hnone : Sound { b with form := none } := ⟨h.arena, h.opened, h.head, h.formatting⟩
      dsimp only
      split
      · exact (hnone.closeImplied []).close _
      · exact hnone

@[grind ←]
theorem Sound.openLink (h : b.Sound) (attributes : List Attribute) :
    (b.openLink attributes).Sound := by
  unfold Builder.openLink
  split
  · next i _ _ => exact (((h.adopt "a").forget i).close i).reconstruct.openFormatting (by decide) _
  · exact h.reconstruct.openFormatting (by decide) _

@[grind ←]
theorem Sound.openSelect (h : b.Sound) (attributes : List Attribute) :
    (b.openSelect attributes).Sound := by
  unfold Builder.openSelect
  split
  · exact h.popThrough ["select"]
  · exact (h.reconstruct.openHtml (by decide) attributes).refuseFrameset

@[grind ←]
theorem Sound.openOption (h : b.Sound) {name : String} (hname : name ≠ "br")
    (attributes : List Attribute) : (b.openOption name attributes).Sound := by
  unfold Builder.openOption
  refine Sound.openHtml (Sound.reconstruct ?_) hname attributes
  split
  · exact h.closeImplied _
  · split
    · exact h.pop
    · exact h

@[grind ←]
theorem Sound.insertRule (h : b.Sound) (attributes : List Attribute) :
    (b.insertRule attributes).Sound := by
  unfold Builder.insertRule
  refine (Sound.insertVoid ?_ "hr" attributes).refuseFrameset
  split
  · exact h.closeParagraph.closeImplied []
  · exact h.closeParagraph

@[grind ←]
theorem Sound.insertField (h : b.Sound) (attributes : List Attribute) :
    (b.insertField attributes).Sound := by
  have hinserted : ∀ c : Builder, c.Sound →
      (if isHiddenInput attributes then c.reconstruct.insertVoid "input" attributes
        else (c.reconstruct.insertVoid "input" attributes).refuseFrameset).Sound := by
    intro c hc
    split
    · exact hc.reconstruct.insertVoid "input" attributes
    · exact (hc.reconstruct.insertVoid "input" attributes).refuseFrameset
  unfold Builder.insertField
  split
  · exact hinserted _ (h.popThrough ["select"])
  · exact hinserted _ h

theorem openingInBody_br (b : Builder) (attributes : List Attribute) (selfClosing : Bool) :
    b.openingInBody "br" attributes selfClosing =
      (b.reconstruct.insertVoid "br" attributes).refuseFrameset :=
  rfl

theorem sound_ite {p : Prop} [Decidable p] {c : Builder} (hb : p → b.Sound) (hc : ¬ p → c.Sound) :
    (if p then b else c).Sound := by
  split
  · exact hb ‹_›
  · exact hc ‹_›

theorem Sound.openingInBody (h : b.Sound) (name : String) (attributes : List Attribute)
    (selfClosing : Bool) : (b.openingInBody name attributes selfClosing).Sound := by
  by_cases hname : name = "br"
  · subst hname
    rw [openingInBody_br]
    exact (h.reconstruct.insertVoid "br" attributes).refuseFrameset
  have hline := h.closeParagraph.openHtml hname attributes
  have hpre : Sound { b.closeParagraph.openHtml name attributes with
      skipLineFeed := true, framesetOk := false } :=
    ⟨hline.arena, hline.opened, hline.head, hline.formatting⟩
  have hplain : Sound { b.closeParagraph.openHtml name attributes with reading := .plain } :=
    ⟨hline.arena, hline.opened, hline.head, hline.formatting⟩
  have harea := (h.openText hname attributes (.escapable name)).refuseFrameset
  have htextarea : Sound { (b.openText name attributes (.escapable name)).refuseFrameset with
      skipLineFeed := true } :=
    ⟨harea.arena, harea.opened, harea.head, harea.formatting⟩
  unfold Builder.openingInBody
  iterate 14
    apply sound_ite <;> intro _
    · clear * - h hname hpre
      grind
  split
  all_goals
    clear * - h hname hplain htextarea
    grind

theorem Sound.closingInBody (h : b.Sound) (name : String) : (b.closingInBody name).Sound := by
  fun_cases Builder.closingInBody
  all_goals
    clear * - h
    grind

theorem Sound.inBody (h : b.Sound) (t : Token) : (inBody t b).Sound := by
  unfold Builder.inBody
  split
  · exact h
  · exact h.reconstruct.insertText _
  · exact (h.reconstruct.insertText _).refuseFrameset
  · exact h.insertComment _
  · exact h
  · split
    · exact h
    · exact h.endTemplate
  · exact h.openingInBody _ _ _
  · exact h.closingInBody _

theorem Sound.inText (h : b.Sound) (t : Token) : (inText t b).Sound := by
  unfold Builder.inText
  split
  · exact h.insertText _
  · exact ⟨h.arena, h.pop.opened, h.head, h.formatting⟩
  · exact ⟨h.arena, h.pop.opened, h.head, h.formatting⟩
  · exact h

/-! In tables and templates -/

@[grind ←]
theorem Sound.fostered (h : b.Sound) (t : Token) : (fostered t b).Sound := by
  have hinside := Sound.inBody (b := { b with fostering := true })
    ⟨h.arena, h.opened, h.head, h.formatting⟩ t
  unfold Builder.fostered
  cases hbody : Builder.inBody t { b with fostering := true } with
  | done c | again c =>
    rw [hbody] at hinside
    exact ⟨hinside.arena, hinside.opened, hinside.head, hinside.formatting⟩

@[grind ←]
theorem Sound.openIn (h : b.Sound) (context : List String) {name : String} (hname : name ≠ "br")
    (attributes : List Attribute) (phase : Phase) :
    (b.openIn context name attributes phase).Sound :=
  ((h.popTo context).openHtml hname attributes).enter phase

theorem ne_br_of_contains {names : List String} {name : String} (h : names.contains name = true)
    (hnames : names.contains "br" = false) : name ≠ "br" := by
  rintro rfl
  rw [h] at hnames
  cases hnames

theorem Sound.openTableForm (h : b.Sound) (attributes : List Attribute) :
    (let c := b.openHtml "form" attributes
    { c with form := c.current? }.pop).Sound :=
  have hopened : (b.openHtml "form" attributes).Sound := h.openHtml (by decide) attributes
  ⟨hopened.arena, hopened.pop.opened, hopened.head, hopened.formatting⟩

theorem Sound.openingInTable (h : b.Sound) (t : Token) (name : String)
    (attributes : List Attribute) : (openingInTable t name attributes b).Sound := by
  unfold Builder.openingInTable
  split
  · next hgroup => exact h.openIn _ (ne_br_of_contains hgroup rfl) _ _
  split
  · exact h.openIn _ (by decide) _ _
  split
  · exact ((h.popTo _).pushMarker.openHtml (by decide) _).enter _
  · exact h.openIn _ (by decide) _ _
  · exact h.openIn _ (by decide) _ _
  · split
    · exact (h.popThrough _).resetPhase
    · exact h
  · exact h.openHeadTag _ _
  · exact h.openHeadTag _ _
  · exact h.openHeadTag _ _
  · split
    · exact h.insertVoid _ _
    · exact h.fostered t
  · split
    · exact h
    · exact h.openTableForm attributes
  · exact h.fostered t

@[grind ←]
theorem Sound.inTable (h : b.Sound) (t : Token) : (inTable t b).Sound := by
  unfold Builder.inTable
  split
  · split
    · exact ⟨h.arena, h.opened, h.head, h.formatting⟩
    · exact h.fostered _
  · exact h.insertComment _
  · exact h
  · exact h.inBody _
  · exact h.openingInTable _ _ _
  · split
    · exact h
    · split
      · split
        · exact (h.popThrough _).resetPhase
        · exact h
      · exact h.closeTemplate
      · exact h.fostered _

theorem Sound.insertPending (h : b.Sound) : b.insertPending.Sound := by
  have hfold : ∀ (f : Builder → Token.Kind × String → Builder), (∀ c x, c.Sound → (f c x).Sound) →
      ∀ (held : List (Token.Kind × String)) (c : Builder), c.Sound → (held.foldl f c).Sound := by
    intro f hf held
    induction held with
    | nil => exact fun c hc => hc
    | cons x held ih => exact fun c hc => ih _ (hf c x hc)
  have hfree : Sound { b with pending := [], phase := b.resume } :=
    ⟨h.arena, h.opened, h.head, h.formatting⟩
  unfold Builder.insertPending
  dsimp only
  split
  · exact hfold _ (fun c x hc => hc.insertText x.2) _ _ hfree
  · refine hfold _ (fun c x hc => ?_) _ _ hfree
    have hfostered := hc.fostered (.characters x.1 x.2)
    split
    · next d hd => rwa [hd] at hfostered
    · next d hd => rwa [hd] at hfostered

theorem Sound.inTableText (h : b.Sound) (t : Token) : (inTableText t b).Sound := by
  unfold Builder.inTableText
  split
  · exact h
  · exact ⟨h.arena, h.opened, h.head, h.formatting⟩
  · exact h.insertPending

attribute [grind ←] Sound.inBody

theorem Sound.inCaption (h : b.Sound) (t : Token) : (inCaption t b).Sound := by
  fun_cases Builder.inCaption <;> grind

theorem Sound.inColumnGroup (h : b.Sound) (t : Token) : (inColumnGroup t b).Sound := by
  fun_cases Builder.inColumnGroup <;> grind

theorem Sound.inTableBody (h : b.Sound) (t : Token) : (inTableBody t b).Sound := by
  fun_cases Builder.inTableBody <;> grind

theorem Sound.inRow (h : b.Sound) (t : Token) : (inRow t b).Sound := by
  fun_cases Builder.inRow <;> grind

theorem Sound.inCell (h : b.Sound) (t : Token) : (inCell t b).Sound := by
  fun_cases Builder.inCell <;> grind [Builder.closeCell]

@[grind ←]
theorem Sound.reenter (h : b.Sound) (phase : Phase) : (b.reenter phase).Sound :=
  ⟨h.arena, h.opened, h.head, h.formatting⟩

theorem Sound.inTemplate (h : b.Sound) (t : Token) : (inTemplate t b).Sound := by
  fun_cases Builder.inTemplate <;> grind

/-! Behind the body, and framesets -/

theorem Sound.afterBody (h : b.Sound) (t : Token) : (afterBody t b).Sound := by
  have hroot := h.mayHold_getD (o := b.opened.getLast?) fun _ => List.mem_of_getLast?
  fun_cases Builder.afterBody <;> grind [Sound.insertCommentIn]

theorem Sound.afterAfterBody (h : b.Sound) (t : Token) : (afterAfterBody t b).Sound := by
  have hroot := h.arena.mayHold_root
  fun_cases Builder.afterAfterBody <;> grind [Sound.insertCommentIn]

theorem Sound.inFrameset (h : b.Sound) (t : Token) : (inFrameset t b).Sound := by
  fun_cases Builder.inFrameset <;> grind

theorem Sound.afterFrameset (h : b.Sound) (t : Token) : (afterFrameset t b).Sound := by
  fun_cases Builder.afterFrameset <;> grind

theorem Sound.afterAfterFrameset (h : b.Sound) (t : Token) : (afterAfterFrameset t b).Sound := by
  have hroot := h.arena.mayHold_root
  fun_cases Builder.afterAfterFrameset <;> grind [Sound.insertCommentIn]

/-! Other vocabularies -/

def Foreign.Sound : Foreign → Prop
  | .done b => b.Sound
  | .left b => b.Sound

theorem Sound.closeForeign (h : b.Sound) (name : String) : (closeForeign name b).Sound := by
  have hlook : ∀ (l : List Nat) (first : Bool), (∀ i ∈ l, i ∈ b.opened) →
      (closeForeign.look name b first l).Sound := by
    intro l
    induction l with
    | nil => exact fun _ _ => h
    | cons i r ih =>
      intro first hl
      have hrest := fun j hj => hl j (List.mem_cons_of_mem i hj)
      cases r with
      | nil => exact h
      | cons j r =>
        unfold closeForeign.look
        split
        · exact ih false hrest
        · split
          · exact h
          · split
            · exact h.close_to hrest
            · exact ih false hrest
  exact hlook b.opened true fun _ => id

theorem Sound.foreign (h : b.Sound) (t : Token) : (foreign t b).Sound := by
  unfold Builder.foreign
  split
  · exact h.insertText _
  · exact h.insertText _
  · exact (h.insertText _).refuseFrameset
  · exact h.insertComment _
  · exact h
  · next name attributes selfClosing =>
    split
    · exact h.leaveForeign
    · next hstay =>
      have hname : name ≠ "br" := by
        rintro rfl
        exact hstay rfl
      split
      · exact h.openForeign _ hname _ _
      · exact h
  · split
    · exact h.leaveForeign
    · exact h.closeForeign _
  · exact h

/-! Documents -/

theorem Sound.byPhase (h : b.Sound) (t : Token) : (byPhase t b).Sound := by
  unfold Builder.byPhase
  split
  · exact h.initial t
  · exact h.beforeHtml t
  · exact h.beforeHead t
  · exact h.inHead t
  · exact h.afterHead t
  · exact h.inBody t
  · exact h.inText t
  · exact h.inTable t
  · exact h.inTableText t
  · exact h.inCaption t
  · exact h.inColumnGroup t
  · exact h.inTableBody t
  · exact h.inRow t
  · exact h.inCell t
  · exact h.inTemplate t
  · exact h.afterBody t
  · exact h.inFrameset t
  · exact h.afterFrameset t
  · exact h.afterAfterBody t
  · exact h.afterAfterFrameset t

theorem Sound.once (h : b.Sound) (t : Token) : (once t b).Sound := by
  have hforeign := h.foreign t
  unfold Builder.once
  split
  · split
    · next c hc => rwa [hc] at hforeign
    · next c hc =>
      rw [hc] at hforeign
      exact Sound.byPhase hforeign t
  · exact h.byPhase t

theorem Sound.settle (h : b.Sound) (t : Token) (fuel : Nat) : (settle t fuel b).Sound := by
  induction fuel generalizing b with
  | zero => exact h
  | succ fuel ih =>
    have hnext := h.once t
    unfold Builder.settle
    split
    · next c hc => rwa [hc] at hnext
    · next c hc =>
      rw [hc] at hnext
      exact ih hnext

theorem Sound.take (h : b.Sound) (t : Token) : (b.take t).Sound := by
  have hkept : Sound { b with skipLineFeed := false } := ⟨h.arena, h.opened, h.head, h.formatting⟩
  unfold Builder.take
  dsimp only
  split
  · split
    · split
      · exact hkept
      · exact hkept.settle _ _
    · exact hkept.settle _ _
  · exact hkept.settle _ _

theorem Sound.foldl_take (h : b.Sound) (tokens : List Token) :
    (tokens.foldl Builder.take b).Sound := by
  induction tokens generalizing b with
  | nil => exact h
  | cons t tokens ih => exact ih (h.take t)

theorem Sound.takeAll (h : b.Sound) (fuel : Nat) (s : List Char) : (takeAll fuel s b).Sound := by
  induction fuel generalizing b s with
  | zero => exact h
  | succ fuel ih =>
    cases s with
    | nil => exact h.take .ended
    | cons c s => exact ih (h.foldl_take _) _

end

end Builder

theorem Document.breaksEmpty_parse (text : String) :
    BreaksEmpty (parse text).nodes ∧ BreaksEmpty (parse text).lost :=
  have hsound := (Builder.sound_empty.takeAll _ _).arena
  ⟨hsound.breaksEmpty_freezeAll _ _, hsound.breaksEmpty_freezeAll _ _⟩

end Harvest.Html
