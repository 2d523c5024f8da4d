import Harvest.Proofs.Resource.Changes
/-!
Resources of a newer coordinator. Members that are not known, the order of members and what a
transformer of an unknown kind holds change nothing in what is read, anywhere in a resource and
however often such changes are made. Only a name that is written as an object has to stay as it is.
-/

namespace Harvest.Resource

open Json

variable {p : Role} {v w : Json} {top : Nat} {fs : Fields}

/-! Readers -/

section

variable {α : Type} {f g : Json → Option α} {a d : α} {x y : Field}

/-- Whether what the one reader gives of a value is what the other one gives of a changed value of less
    than some depth. -/
def Carries (top : Nat) (p : Role) (f g : Json → Option α) : Prop :=
  ∀ ⦃v w : Json⦄ ⦃a : α⦄, Change p v w → w.depth < top → f v = some a → g w = some a

theorem carries_atom (hf : ∀ {v a}, f v = some a → isAtom v) : Carries top p f f := by
  intro v w a h _ ha
  rw [h.eq_of_isAtom (.inl (hf ha))]
  exact ha

theorem carries_string? : Carries top p string? string? := by
  refine carries_atom fun {v} _ h => ?_
  cases v <;> first | rfl | cases h

theorem carries_bool? : Carries top p bool? bool? := by
  refine carries_atom fun {v} _ h => ?_
  cases v <;> first | rfl | cases h

theorem carries_name (hf : ∀ {v a}, f v = some a → IsName v) : Carries top .choice f f := by
  intro v w a h _ ha
  rw [(hf ha).unchanged h]
  exact ha

theorem isName_of_choice? {names : List String} {i : Nat} (h : choice? names v = some i) :
    IsName v := by
  unfold choice? at h
  split at h
  · exact .str
  · exact .null
  · cases h

theorem isName_of_innerChoice? {names : List String} {i : Nat}
    (h : innerChoice? names v = some i) : IsName v := by
  unfold innerChoice? at h
  split at h
  · exact .empty
  · exact isName_of_choice? h

theorem Row.mapM {items items' : List Json} {as : List α}
    (h : Row top (fun _ => p) items items') (hf : Carries top p f g)
    (ha : items.mapM f = some as) : items'.mapM g = some as := by
  induction items generalizing items' as with
  | nil =>
    cases h
    exact ha
  | cons v vs ih =>
    cases h with
    | cons h hd rest =>
      simp only [List.mapM_cons, Option.bind_eq_bind, Option.bind_eq_some_iff] at ha ⊢
      obtain ⟨b, hb, bs, hbs, has⟩ := ha
      exact ⟨b, hf h hd hb, bs, ih rest hbs, has⟩

theorem carries_list? (hf : Carries top p f g) : Carries top (.list p) (list? f) (list? g) := by
  intro v w as h hd ha
  cases v with
  | arr items =>
    obtain ⟨items', rfl, hrow⟩ := h.row
    exact hrow.mapM (fun _ _ _ h hw => hf h (Nat.lt_trans hw hd)) ha
  | _ => cases ha

theorem FieldChange.required (h : FieldChange top p x y) (hf : Carries top p f g)
    (ha : x.required f = some a) : y.required g = some a := by
  cases h with
  | given h hd => exact hf h hd ha
  | absent => cases ha
  | cut => cases ha

theorem FieldChange.orDefault (h : FieldChange top p x y) (hf : Carries top p f g)
    (ha : x.orDefault d f = some a) : y.orDefault d g = some a := by
  cases h with
  | given h hd => exact hf h hd ha
  | absent => exact ha
  | cut => exact ha

theorem nullable_given (hv : v ≠ .null) : (Field.given v).nullable f = (f v).map some := by
  cases v with
  | null => exact absurd rfl hv
  | _ => rfl

theorem FieldChange.nullable {o : Option α} (h : FieldChange top p x y) (hf : Carries top p f g)
    (ho : x.nullable f = some o) : y.nullable g = some o := by
  cases h with
  | @given v w h hd =>
    by_cases hnull : w = .null
    · subst hnull
      rw [← h.eq_of_isAtom (.inr rfl)] at ho
      exact ho
    · have hv : v ≠ .null := by
        rintro rfl
        exact hnull (h.eq_of_isAtom (.inl rfl))
      rw [nullable_given hv] at ho
      obtain ⟨b, hb, rfl⟩ := Option.map_eq_some_iff.1 ho
      rw [nullable_given hnull, hf h hd hb]
      rfl
  | absent => exact ho
  | cut => exact ho

end

/-! Transformers -/

theorem TrimPart.carries : Carries top .choice TrimPart.ofJson? TrimPart.ofJson? := by
  refine carries_name fun {v} a h => ?_
  unfold TrimPart.ofJson? at h
  split at h
  · next hv => exact isName_of_innerChoice? hv
  · next hv => exact isName_of_innerChoice? hv
  · cases h

theorem forcedLocale_carries :
    Carries top (.record [("force_locale", .plain)]) forcedLocale? forcedLocale? := by
  intro v w a h _ ha
  unfold forcedLocale? at ha ⊢
  split at ha
  · next locale hv =>
    obtain ⟨ys, hw, halign⟩ := (h.matches (by decide)).record? hv rfl
    obtain _ | ⟨hlocale, _ | _⟩ := halign
    rw [hw]
    exact hlocale.nullable carries_string? ha
  · cases ha

theorem castOf?_matches {a : Transformer} (h : Matches top castFields v w)
    (ha : castOf? v = some a) : castOf? w = some a := by
  unfold castOf? at ha ⊢
  split at ha
  · next type options hv =>
    obtain ⟨ys, hw, halign⟩ := h.record? hv rfl
    obtain _ | ⟨htype, _ | ⟨hoptions, _ | _⟩⟩ := halign
    rw [hw]
    simp only [Option.bind_eq_bind, Option.bind_eq_some_iff] at ha ⊢
    obtain ⟨t, ht, o, ho, ha⟩ := ha
    exact ⟨t, htype.required (carries_name isName_of_innerChoice?) ht, o,
      hoptions.nullable forcedLocale_carries ho, ha⟩
  · cases ha

theorem Matches.isUnused (h : Matches top fs v w) (hv : isUnused v) : isUnused w := by
  cases h with
  | atom => exact hv
  | obj => rfl
  | arr h =>
    cases h with
    | nil => rfl
    | cons => cases hv

theorem Transformer.carries : Carries top (.tagged .transformer)
    (Transformer.ofJson? .inner) (Transformer.ofJson? .inner) := by
  intro v w a h _ ha
  simp only [Transformer.ofJson?, Option.bind_eq_bind, Option.bind_eq_some_iff] at ha ⊢
  obtain ⟨⟨kind, content⟩, htag, index, hindex, ha⟩ := ha
  dsimp only at ha
  split at ha
  -- a regular expression
  · obtain ⟨content', htag', hm⟩ := h.tagged?_known htag hindex
    refine ⟨⟨kind, content'⟩, htag', _, hindex, ?_⟩
    split at ha
    · next pattern substitute hc =>
      obtain ⟨ys, hw, halign⟩ := hm.record? hc rfl
      obtain _ | ⟨hpattern, _ | ⟨hsubstitute, _ | _⟩⟩ := halign
      rw [hw]
      simp only [Option.bind_eq_some_iff] at ha ⊢
      obtain ⟨s, hs, o, ho, ha⟩ := ha
      exact ⟨s, hpattern.required carries_string? hs, o,
        hsubstitute.nullable carries_string? ho, ha⟩
    · cases ha
  -- a cast
  · obtain ⟨content', htag', hm⟩ := h.tagged?_known htag hindex
    exact ⟨⟨kind, content'⟩, htag', _, hindex, castOf?_matches hm ha⟩
  -- a literal
  · obtain ⟨content', htag', hm⟩ := h.tagged?_known htag hindex
    refine ⟨⟨kind, content'⟩, htag', _, hindex, ?_⟩
    split at ha
    · next value hc =>
      obtain ⟨ys, hw, halign⟩ := hm.record? hc rfl
      obtain _ | ⟨hvalue, _ | _⟩ := halign
      rw [hw]
      simp only [Option.bind_eq_some_iff] at ha ⊢
      obtain ⟨s, hs, ha⟩ := ha
      exact ⟨s, hvalue.required carries_string? hs, ha⟩
    · cases ha
  -- a trim
  · obtain ⟨content', htag', hm⟩ := h.tagged?_known htag hindex
    refine ⟨⟨kind, content'⟩, htag', _, hindex, ?_⟩
    split at ha
    · next options hc =>
      obtain ⟨ys, hw, halign⟩ := hm.record? hc rfl
      obtain _ | ⟨hoptions, _ | _⟩ := halign
      rw [hw]
      simp only [Option.bind_eq_some_iff] at ha ⊢
      obtain ⟨parts, hparts, ha⟩ := ha
      exact ⟨parts, hoptions.required (carries_list? TrimPart.carries) hparts, ha⟩
    · cases ha
  -- a kind that is not known
  · split at ha
    · next hunused =>
      obtain ⟨content', htag', hm⟩ | ⟨-, -, kind', members, htag', hindex'⟩ := h.tagged? htag
      · refine ⟨⟨kind, content'⟩, htag', index, hindex, ?_⟩
        simp only [hm.isUnused hunused, if_true, ha]
      · exact ⟨⟨kind', .obj members⟩, htag', none, hindex', ha⟩
    · cases ha

theorem transformers_carry :
    Carries top (.list (.tagged .transformer)) transformers? transformers? :=
  carries_list? Transformer.carries

theorem Extractor.carries {nesting : Nesting} : Carries top (.tagged .extractor)
    (Extractor.ofJson? nesting) (Extractor.ofJson? nesting) := by
  intro v w a h _ ha
  simp only [Extractor.ofJson?, Option.bind_eq_bind, Option.bind_eq_some_iff] at ha ⊢
  obtain ⟨⟨kind, content⟩, htag, index, hindex, ha⟩ := ha
  dsimp only at ha
  split at ha
  -- a text
  · obtain ⟨content', htag', hm⟩ := h.tagged?_known htag hindex
    refine ⟨⟨kind, content'⟩, htag', _, hindex, ?_⟩
    split at ha
    · next key chain hc =>
      obtain ⟨ys, hw, halign⟩ := hm.record? hc rfl
      obtain _ | ⟨hkey, _ | ⟨hchain, _ | _⟩⟩ := halign
      rw [hw]
      simp only [Option.bind_eq_some_iff] at ha ⊢
      obtain ⟨k, hk, ts, hts, ha⟩ := ha
      exact ⟨k, hkey.required carries_string? hk, ts,
        hchain.orDefault transformers_carry hts, ha⟩
    · cases ha
  -- an attribute
  · obtain ⟨content', htag', hm⟩ := h.tagged?_known htag hindex
    refine ⟨⟨kind, content'⟩, htag', _, hindex, ?_⟩
    split at ha
    · next key name chain hc =>
      obtain ⟨ys, hw, halign⟩ := hm.record? hc rfl
      obtain _ | ⟨hkey, _ | ⟨hname, _ | ⟨hchain, _ | _⟩⟩⟩ := halign
      rw [hw]
      simp only [Option.bind_eq_some_iff] at ha ⊢
      obtain ⟨k, hk, n, hn, ts, hts, ha⟩ := ha
      exact ⟨k, hkey.required carries_string? hk, n, hname.required carries_string? hn, ts,
        hchain.orDefault transformers_carry hts, ha⟩
    · cases ha
  -- a style
  · obtain ⟨content', htag', hm⟩ := h.tagged?_known htag hindex
    refine ⟨⟨kind, content'⟩, htag', _, hindex, ?_⟩
    split at ha
    · next key declaration pseudo chain hc =>
      obtain ⟨ys, hw, halign⟩ := hm.record? hc rfl
      obtain _ | ⟨hkey, _ | ⟨hdeclaration, _ | ⟨hpseudo, _ | ⟨hchain, _ | _⟩⟩⟩⟩ := halign
      rw [hw]
      simp only [Option.bind_eq_some_iff] at ha ⊢
      obtain ⟨k, hk, d, hd, o, ho, ts, hts, ha⟩ := ha
      exact ⟨k, hkey.required carries_string? hk, d, hdeclaration.required carries_string? hd,
        o, hpseudo.nullable carries_string? ho, ts, hchain.orDefault transformers_carry hts, ha⟩
    · cases ha
  · cases ha

theorem extractors_carry {nesting : Nesting} : Carries top (.list (.tagged .extractor))
    (list? (Extractor.ofJson? nesting)) (list? (Extractor.ofJson? nesting)) :=
  carries_list? Extractor.carries

/-! Rules -/

theorem warning?_matches {a : Option String} (h : Matches top [("warning", .plain)] v w)
    (ha : warning? v = some a) : warning? w = some a := by
  unfold warning? at ha ⊢
  split at ha
  · next warning hv =>
    obtain ⟨ys, hw, halign⟩ := h.record? hv rfl
    obtain _ | ⟨hwarning, _ | _⟩ := halign
    rw [hw]
    exact hwarning.nullable carries_string? ha
  · cases ha

/-- Whether what is read in some steps is read of a changed value in as many as its depth asks
    for. -/
structure Sustains (n : Nat) : Prop where
  rule {nesting : Nesting} {top m : Nat} (hm : 2 * top ≤ m) :
    Carries top (.tagged .rule) (ruleWithin? nesting n) (ruleWithin? nesting m)
  field {nesting : Nesting} {top m : Nat} {x y : Field} {a : Recovery} (hm : 2 * top < m)
    (h : FieldChange top (.tagged .recovery) x y) (ha : recoveryField? nesting n x = some a) :
    recoveryField? nesting m y = some a
  recovery {nesting : Nesting} {top m : Nat} (hm : 2 * top ≤ m) :
    Carries top (.tagged .recovery) (recoveryWithin? nesting n) (recoveryWithin? nesting m)

section

variable {n m : Nat} {nesting : Nesting}

theorem Sustains.rule_succ (hn : Sustains n) (hm : 2 * top ≤ m) :
    Carries top (.tagged .rule) (ruleWithin? nesting (n + 1)) (ruleWithin? nesting m) := by
  intro v w a h hd ha
  obtain ⟨m, rfl⟩ : ∃ k, m = k + 1 := ⟨m - 1, by omega⟩
  simp only [ruleWithin?, Option.bind_eq_bind, Option.bind_eq_some_iff] at ha ⊢
  obtain ⟨⟨kind, content⟩, htag, index, hindex, ha⟩ := ha
  dsimp only at ha
  split at ha
  -- a rule for one node
  · obtain ⟨content', htag', hc⟩ := h.tagged?_known htag hindex
    refine ⟨⟨kind, content'⟩, htag', _, hindex, ?_⟩
    split at ha
    · next selector extractors missing hfields =>
      obtain ⟨ys, hw, halign⟩ := hc.record? hfields rfl
      obtain _ | ⟨hselector, _ | ⟨hextractors, _ | ⟨hmissing, _ | _⟩⟩⟩ := halign
      rw [hw]
      simp only [Option.bind_eq_some_iff] at ha ⊢
      obtain ⟨s, hs, es, hes, r, hr, ha⟩ := ha
      exact ⟨s, hselector.nullable carries_string? hs, es,
        hextractors.orDefault extractors_carry hes, r, hn.field (by omega) hmissing hr, ha⟩
    · cases ha
  -- a rule for all nodes of a kind
  · obtain ⟨content', htag', hc⟩ := h.tagged?_known htag hindex
    refine ⟨⟨kind, content'⟩, htag', _, hindex, ?_⟩
    split at ha
    · next key selector fields hfields =>
      obtain ⟨ys, hw, halign⟩ := hc.record? hfields rfl
      obtain _ | ⟨hkey, _ | ⟨hselector, _ | ⟨hrules, _ | _⟩⟩⟩ := halign
      rw [hw]
      simp only [Option.bind_eq_some_iff] at ha ⊢
      obtain ⟨k, hk, s, hs, rs, hrs, ha⟩ := ha
      exact ⟨k, hkey.required carries_string? hk, s, hselector.required carries_string? hs, rs,
        hrules.orDefault (carries_list? (hn.rule (by omega))) hrs, ha⟩
    · cases ha
  · cases ha

theorem Sustains.field_succ {x y : Field} {a : Recovery} (hn : Sustains n) (hm : 2 * top < m)
    (h : FieldChange top (.tagged .recovery) x y)
    (ha : recoveryField? nesting (n + 1) x = some a) : recoveryField? nesting m y = some a := by
  obtain ⟨m, rfl⟩ : ∃ k, m = k + 1 := ⟨m - 1, by omega⟩
  simp only [recoveryField?, Option.bind_eq_bind, Option.bind_eq_some_iff] at ha ⊢
  obtain ⟨o, ho, ha⟩ := ha
  exact ⟨o, h.nullable (hn.recovery (by omega)) ho, ha⟩

theorem Sustains.recovery_succ (hn : Sustains n) (hm : 2 * top ≤ m) :
    Carries top (.tagged .recovery) (recoveryWithin? nesting (n + 1))
      (recoveryWithin? nesting m) := by
  intro v w a h hd ha
  obtain ⟨m, rfl⟩ : ∃ k, m = k + 1 := ⟨m - 1, by omega⟩
  simp only [recoveryWithin?, Option.bind_eq_bind, Option.bind_eq_some_iff] at ha ⊢
  obtain ⟨⟨kind, content⟩, htag, index, hindex, ha⟩ := ha
  dsimp only at ha
  split at ha
  -- a bail
  · obtain ⟨content', htag', hc⟩ := h.tagged?_known htag hindex
    refine ⟨⟨kind, content'⟩, htag', _, hindex, ?_⟩
    obtain ⟨o, ho, ha⟩ := Option.bind_eq_some_iff.1 ha
    exact Option.bind_eq_some_iff.2 ⟨o, warning?_matches hc ho, ha⟩
  -- an omission
  · obtain ⟨content', htag', hc⟩ := h.tagged?_known htag hindex
    refine ⟨⟨kind, content'⟩, htag', _, hindex, ?_⟩
    obtain ⟨o, ho, ha⟩ := Option.bind_eq_some_iff.1 ha
    exact Option.bind_eq_some_iff.2 ⟨o, warning?_matches hc ho, ha⟩
  -- a fallback
  · obtain ⟨content', htag', hc⟩ := h.tagged?_known htag hindex
    refine ⟨⟨kind, content'⟩, htag', _, hindex, ?_⟩
    split at ha
    · next selector hfields =>
      obtain ⟨ys, hw, halign⟩ := hc.record? hfields rfl
      obtain _ | ⟨hselector, _ | _⟩ := halign
      rw [hw]
      obtain ⟨r, hr, ha⟩ := Option.bind_eq_some_iff.1 ha
      exact Option.bind_eq_some_iff.2 ⟨r, hselector.required (hn.rule (by omega)) hr, ha⟩
    · cases ha
  · cases ha

theorem sustains (n : Nat) : Sustains n := by
  induction n with
  | zero =>
    exact
      { rule := fun _ _ _ _ _ _ ha => by rw [ruleWithin?] at ha; cases ha
        field := fun _ _ ha => by rw [recoveryField?] at ha; cases ha
        recovery := fun _ _ _ _ _ _ ha => by rw [recoveryWithin?] at ha; cases ha }
  | succ n ih => exact ⟨ih.rule_succ, ih.field_succ, ih.recovery_succ⟩

theorem Rule.carries :
    Carries top (.tagged .rule) (Rule.ofJson? nesting) (Rule.ofJson? nesting) := by
  intro v w a h _ ha
  refine (sustains _).rule ?_ h (Nat.lt_succ_self _) ha
  unfold enough
  omega

theorem PageRule.carries :
    Carries top (.record nodeFields) (PageRule.ofJson? nesting) (PageRule.ofJson? nesting) := by
  intro v w a h _ ha
  unfold PageRule.ofJson? at ha ⊢
  split at ha
  · next selector extractors missing hv =>
    obtain ⟨ys, hw, halign⟩ := (h.matches (by decide)).record? hv rfl
    obtain _ | ⟨hselector, _ | ⟨hextractors, _ | ⟨hmissing, _ | _⟩⟩⟩ := halign
    rw [hw]
    simp only [Option.bind_eq_bind, Option.bind_eq_some_iff] at ha ⊢
    obtain ⟨s, hs, es, hes, r, hr, ha⟩ := ha
    refine ⟨s, hselector.nullable carries_string? hs, es,
      hextractors.orDefault extractors_carry hes, r, (sustains _).field ?_ hmissing hr, ha⟩
    unfold enough
    omega
  · cases ha

end

/-! Resources -/

theorem Variable.carries :
    Carries top (.record variableFields) Variable.ofJson? Variable.ofJson? := by
  intro v w a h _ ha
  unfold Variable.ofJson? at ha ⊢
  split at ha
  · next kind identifier label description default hv =>
    obtain ⟨ys, hw, halign⟩ := (h.matches (by decide)).record? hv rfl
    obtain _ | ⟨hkind, _ | ⟨hidentifier, _ | ⟨hlabel, _ | ⟨hdescription,
      _ | ⟨hdefault, _ | _⟩⟩⟩⟩⟩ := halign
    rw [hw]
    simp only [Option.bind_eq_bind, Option.bind_eq_some_iff] at ha ⊢
    obtain ⟨k, hk, i, hi, l, hl, d, hd, o, ho, ha⟩ := ha
    exact ⟨k, hkind.required (carries_name isName_of_choice?) hk, i,
      hidentifier.required carries_string? hi, l, hlabel.nullable carries_string? hl, d,
      hdescription.orDefault carries_string? hd, o, hdefault.nullable carries_string? ho, ha⟩
  · cases ha

theorem carries {nesting : Nesting} :
    Carries top (.record resourceFields) (ofJson? nesting) (ofJson? nesting) := by
  intro v w a h _ ha
  unfold ofJson? at ha ⊢
  split at ha
  · next id hostname pattern inputs pageRules waitFor descriptors hash disabled hv =>
    obtain ⟨ys, hw, halign⟩ := (h.matches (by decide)).record? hv rfl
    obtain _ | ⟨hid, _ | ⟨hhostname, _ | ⟨hpattern, _ | ⟨hinputs, _ | ⟨hpages, _ | ⟨hwait,
      _ | ⟨hrules, _ | ⟨hhash, _ | ⟨hdisabled, _ | _⟩⟩⟩⟩⟩⟩⟩⟩⟩ := halign
    rw [hw]
    simp only [Option.bind_eq_bind, Option.bind_eq_some_iff] at ha ⊢
    obtain ⟨i, hi, n, hn, u, hu, vs, hvs, ps, hps, ws, hws, rs, hrs, s, hs, d, hd, ha⟩ := ha
    exact ⟨i, hid.required carries_string? hi, n, hhostname.required carries_string? hn, u,
      hpattern.required carries_string? hu, vs,
      hinputs.orDefault (carries_list? Variable.carries) hvs, ps,
      hpages.orDefault (carries_list? PageRule.carries) hps, ws,
      hwait.nullable (carries_list? carries_string?) hws, rs,
      hrules.orDefault (carries_list? Rule.carries) hrs, s, hhash.required carries_string? hs, d,
      hdisabled.orDefault carries_bool? hd, ha⟩
  · cases ha

/-- Whatever a newer coordinator adds, rearranges or puts in the place of unknown transformers, the
    same resource is read. -/
theorem newer_reads {nesting : Nesting} {v w : Json} {r : Resource}
    (h : Relation.ReflTransGen (Change (.record resourceFields)) v w)
    (hv : ofJson? nesting v = some r) : ofJson? nesting w = some r := by
  induction h with
  | refl => exact hv
  | tail _ hstep ih => exact carries hstep (Nat.lt_succ_self _) ih

/-- A resource with one variable, whose kind is given in some way, and one extractor. -/
def sample (kind extractor : Json) : Json :=
  .obj [("id", .str "r"), ("hostname", .str "example.com"), ("url_pattern", .str "/p"),
    ("variables", .arr [.obj [("kind", kind), ("identifier", .str "q")]]),
    ("meta", .arr [.obj [("extractors", .arr [extractor])]]), ("hash", .str "h")]

/-- An extractor with one transformer. -/
def sampleExtractor (transformer : Json) : Json :=
  .obj [("kind", .str "extractor:text"), ("key", .str "title"),
    ("transformers", .arr [transformer])]

theorem change_sample {kind x y : Json} (h : Change (.tagged .extractor) x y) :
    Change (.record resourceFields) (sample kind x) (sample kind y) := by
  have hextractors : Change (.list (.tagged .extractor)) (.arr [x]) (.arr [y]) := .item (l := []) h
  have hpage : Change (.record nodeFields) (.obj [("extractors", .arr [x])])
      (.obj [("extractors", .arr [y])]) :=
    .member (l := []) hextractors
  have hpages : Change (.list (.record nodeFields)) (.arr [.obj [("extractors", .arr [x])]])
      (.arr [.obj [("extractors", .arr [y])]]) := .item (l := []) hpage
  exact .member (l := [("id", .str "r"), ("hostname", .str "example.com"),
    ("url_pattern", .str "/p"),
    ("variables", .arr [.obj [("kind", kind), ("identifier", .str "q")]])])
    hpages

theorem change_sampleExtractor {x y : Json} (h : Change (.tagged .transformer) x y) :
    Change (.tagged .extractor) (sampleExtractor x) (sampleExtractor y) := by
  have hitem : Change (.list (.tagged .transformer)) (.arr [x]) (.arr [y]) := .item (l := []) h
  exact .member (l := [("kind", .str "extractor:text"), ("key", .str "title")]) hitem

def upperCase : Json := .obj [("kind", .str "transformer:upper")]

def titleCase : Json := .obj [("locale", .str "en"), ("kind", .str "transformer:title")]

/-- The extractor with another transformer, its members in another order and with one more. -/
def newerExtractor : Json :=
  .obj [("key", .str "title"), ("kind", .str "extractor:text"), ("note", .null),
    ("transformers", .arr [titleCase])]

/-- An extractor of a newer coordinator is read as the one that it stands for. -/
theorem newerExtractor_reads :
    ∃ r, ofJson? .inner (sample (.str "url") (sampleExtractor upperCase)) = some r ∧
      ofJson? .inner (sample (.str "url") newerExtractor) = some r := by
  have hold : IsUnknown upperCase := ⟨.named "transformer:upper", [], rfl, by decide⟩
  have hnew : IsUnknown titleCase :=
    ⟨.named "transformer:title", [("locale", .str "en")], rfl, by decide⟩
  have hreplaced : Change (.tagged .extractor) (sampleExtractor upperCase)
      (sampleExtractor titleCase) := change_sampleExtractor (.replace hold hnew)
  have hreordered : Change (.tagged .extractor) (sampleExtractor titleCase)
      (.obj [("key", .str "title"), ("kind", .str "extractor:text"),
        ("transformers", .arr [titleCase])]) := .reorder (.swap ..)
  have hadded : Change (.tagged .extractor)
      (.obj [("key", .str "title"), ("kind", .str "extractor:text"),
        ("transformers", .arr [titleCase])]) newerExtractor :=
    .add (l := [("key", .str "title"), ("kind", .str "extractor:text")]) nofun (by decide)
  have hread : (ofJson? .inner (sample (.str "url") (sampleExtractor upperCase))).isSome := by
    decide +kernel
  obtain ⟨r, hr⟩ := Option.isSome_iff_exists.1 hread
  exact ⟨r, hr, newer_reads (((Relation.ReflTransGen.single (change_sample hreplaced)).tail
    (change_sample hreordered)).tail (change_sample hadded)) hr⟩

/-- A name that is written as an object is refused when it gets a member, though there are no
    fields in it. -/
theorem noted_name_refused :
    (ofJson? .inner (sample (.obj [("url", .null)]) (sampleExtractor upperCase))).isSome = true ∧
      ofJson? .inner (sample (.obj [("url", .null), ("note", .null)])
        (sampleExtractor upperCase)) = none := by
  refine ⟨by decide +kernel, Option.isNone_iff_eq_none.1 ?_⟩
  decide +kernel

end Harvest.Resource
