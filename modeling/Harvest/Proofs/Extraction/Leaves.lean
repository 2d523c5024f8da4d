import Harvest.Extraction
import Harvest.Pass
/-!
What passes give, and the values of extractors. A property of the value that a pass ends with is a
claim about this case only: a pass that fails or bails out gives nothing, and nothing follows it.
What is read from a node and transformed has no parts.
-/

namespace Harvest.Pass

/-- Whether a pass gives nothing but values of a kind. -/
def Gives (p : Pass α) (P : α → Prop) : Prop := ∀ a, p.result = .ok a → P a

variable {P Q : α → Prop} {R : β → Prop} {a : α} {p : Pass α}

theorem Gives.imp (h : p.Gives P) (imp : ∀ a, P a → Q a) : p.Gives Q :=
  fun a ha => imp a (h a ha)

theorem gives_pure (h : P a) : (Pass.pure a).Gives P := by
  intro b hb
  cases hb
  exact h

theorem gives_warn {warning : String} (h : P a) : (Pass.warn warning a).Gives P := by
  intro b hb
  cases hb
  exact h

theorem gives_fail (e : Error) : (Pass.fail e : Pass α).Gives P := by
  intro a h
  cases h

theorem gives_ofExcept {e : Except Error α} (h : ∀ a, e = .ok a → P a) :
    (Pass.ofExcept e).Gives P := by
  cases e with
  | ok a => exact gives_pure (h a rfl)
  | error e => exact gives_fail e

theorem gives_true (p : Pass α) : p.Gives fun _ => True := fun _ _ => trivial

theorem Gives.bind {f : α → Pass β} (h : p.Gives P) (next : ∀ a, P a → (f a).Gives R) :
    (p.bind f).Gives R := by
  intro b hb
  unfold Pass.bind at hb
  split at hb
  · rename_i a ha
    exact next a (h a ha) b hb
  · cases hb

/-- A pass that goes on after another one, whatever that gives. -/
theorem gives_bind {f : α → Pass β} (p : Pass α) (next : ∀ a, (f a).Gives R) :
    (p.bind f).Gives R :=
  (gives_true p).bind fun a _ => next a

theorem bind_of_ok {f : α → Pass β} (h : p.result = .ok a) :
    p.bind f = ⟨p.warnings ++ (f a).warnings, (f a).result⟩ := by
  simp [Pass.bind, h]

theorem bind_of_error {f : α → Pass β} {stop : Stop} (h : p.result = .error stop) :
    p.bind f = ⟨p.warnings, .error stop⟩ := by
  simp [Pass.bind, h]

theorem warnings_bind_pure (p : Pass α) (f : α → β) :
    (p.bind fun a => .pure (f a)).warnings = p.warnings := by
  cases h : p.result with
  | ok a => simp [bind_of_ok h, Pass.pure]
  | error stop => simp [bind_of_error h]

theorem exists_of_bind_ok {f : α → Pass β} {b : β} (h : (p.bind f).result = .ok b) :
    ∃ a, p.result = .ok a ∧ (f a).result = .ok b := by
  cases hp : p.result with
  | ok a => exact ⟨a, rfl, by simpa [bind_of_ok hp] using h⟩
  | error stop => simp [bind_of_error hp] at h

/-- Passes that go on alike after every value that is given are the same. -/
theorem Gives.bind_congr {f g : α → Pass β} (h : p.Gives P) (next : ∀ a, P a → f a = g a) :
    p.bind f = p.bind g := by
  unfold Pass.bind
  split
  · rename_i a ha
    rw [next a (h a ha)]
  · rfl

/-- What a pass comes to, apart from its value. -/
def void (p : Pass α) : Pass Unit := ⟨p.warnings, p.result.map fun _ => ()⟩

/-- What follows the value of a pass; nothing does if there is none. -/
def follow (p : Pass α) (f : α → List γ) : List γ :=
  match p.result with
  | .ok a => f a
  | .error _ => []

theorem follow_nil (p : Pass α) : p.follow (fun _ => ([] : List γ)) = [] := by
  unfold follow
  split <;> rfl

theorem void_bind_of_ok {f : α → Pass β} (h : p.result = .ok a) :
    (p.bind f).void = p.void.bind fun _ => (f a).void := by
  simp [void, Pass.bind, h, Except.map]

theorem void_bind_of_error {f : α → Pass β} {stop : Stop} (h : p.result = .error stop) :
    (p.bind f).void = p.void := by
  simp [void, Pass.bind, h, Except.map]

def Bails (p : Pass α) : Prop := p.result = .error .bailed

theorem not_bails_pure (a : α) : ¬(Pass.pure a).Bails := by
  rintro ⟨⟩

theorem not_bails_warn (warning : String) (a : α) : ¬(Pass.warn warning a).Bails := by
  rintro ⟨⟩

theorem not_bails_fail (e : Error) : ¬(Pass.fail e : Pass α).Bails := by
  rintro ⟨⟩

theorem not_bails_ofExcept (e : Except Error α) : ¬(Pass.ofExcept e).Bails := by
  cases e <;> rintro ⟨⟩

theorem not_bails_bind {f : α → Pass β} (h : ¬p.Bails) (next : ∀ a, ¬(f a).Bails) :
    ¬(p.bind f).Bails := by
  unfold Pass.bind
  split
  · exact next _
  · rename_i stop hstop
    rintro ⟨⟩
    exact h hstop

theorem bails_void : p.void.Bails ↔ p.Bails := by
  unfold Bails void
  cases p.result <;> simp [Except.map]

end Harvest.Pass

namespace Harvest

def Json.Number.IsFinite : Json.Number → Prop
  | .int _ => True
  | .float x => x.isFinite

/-- Whether a value is null, a text or a finite number. -/
def Json.IsLeaf : Json → Prop
  | .null | .str _ => True
  | .num n => n.IsFinite
  | .bool _ | .arr _ | .obj _ => False

theorem isLeaf_textOrNull (s : Option String) : (Resource.textOrNull s).IsLeaf := by
  cases s <;> trivial

namespace Transform

theorem isFinite_of_parse {l : Locale} {s : String} {x : Binary64} (h : l.parse? s = some x) :
    x.isFinite := by
  unfold Locale.parse? at h
  split at h
  · cases h
  · exact (Option.filter_eq_some_iff.1 h).2

theorem isLeaf_numberJson {x : Binary64} (h : x.isFinite) : (numberJson x).IsLeaf := by
  unfold numberJson
  split
  · split
    · trivial
    · exact h
  · exact h

theorem number_gives_leaf (l : Locale) (s : String) : (number l s).Gives Json.IsLeaf := by
  unfold number
  split
  · exact Pass.gives_pure (isLeaf_numberJson (isFinite_of_parse ‹_›))
  · exact Pass.gives_warn trivial

theorem regexText_gives_leaf (pattern : String) (replacement : Option String) (s : String) :
    (regexText pattern replacement s).Gives Json.IsLeaf := by
  have hgroup : ∀ r, (regexText.group pattern s r).Gives Json.IsLeaf := by
    intro r
    unfold regexText.group
    split
    · split
      · exact Pass.gives_fail _
      · exact Pass.gives_pure trivial
    · exact Pass.gives_fail _
  unfold regexText
  split
  · exact Pass.gives_fail _
  · split
    · split
      · exact hgroup _
      · exact Pass.gives_pure trivial
    · exact hgroup _

/-- A transformation makes a leaf of a leaf. -/
theorem apply_gives_leaf (c : Context) (t : Resource.Transformer) {v : Json} (h : v.IsLeaf) :
    (apply c t v).Gives Json.IsLeaf := by
  cases t with
  | regex pattern replacement =>
    exact Pass.gives_bind _ fun s => regexText_gives_leaf pattern replacement s
  | toNumber options =>
    cases v with
    | num n => exact Pass.gives_pure h
    | str s => exact number_gives_leaf _ s
    | null | bool | arr | obj => exact Pass.gives_fail _
  | toUrl =>
    refine Pass.gives_bind _ fun s => Pass.gives_ofExcept fun a ha => ?_
    cases hs : absolute c.hostname s with
    | error e => simp [hs, Except.map] at ha
    | ok text =>
      obtain rfl : Json.str text = a := by simpa [hs, Except.map] using ha
      trivial
  | fallback literal =>
    refine Pass.gives_pure ?_
    split
    · trivial
    · exact h
  | trim => exact Pass.gives_bind _ fun s => Pass.gives_pure trivial
  | unrecognized => exact Pass.gives_warn h

theorem applyAll_gives_leaf (c : Context) (ts : List Resource.Transformer) {v : Json}
    (h : v.IsLeaf) : (applyAll c ts v).Gives Json.IsLeaf := by
  induction ts generalizing v with
  | nil => exact Pass.gives_pure h
  | cons t ts ih => exact (apply_gives_leaf c t h).bind fun w hw => ih hw

end Transform

namespace Extraction

open Resource

theorem read_gives_leaf (source : Source) (p : Html.Place) :
    (read source p).Gives Json.IsLeaf := by
  unfold read
  split
  · exact Pass.gives_pure trivial
  · exact Pass.gives_pure (isLeaf_textOrNull _)
  · split
    · exact Pass.gives_pure (isLeaf_textOrNull _)
    · exact Pass.gives_warn trivial

theorem extract_gives_leaf (c : Transform.Context) (e : Extractor) (p : Html.Place) :
    (extract c e p).Gives Json.IsLeaf :=
  (read_gives_leaf e.source p).bind fun _ => Transform.applyAll_gives_leaf c e.transformers

end Extraction
end Harvest
