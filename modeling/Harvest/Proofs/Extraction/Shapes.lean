import Harvest.Proofs.Extraction.Leaves
import Harvest.Proofs.Json.Members
/-!
The shape of payloads. What the extractors of a rule put into an object, in any order and one over
the other, stands on the paths of their keys. Whatever the document, a payload holds what the rules
declare: below the keys of a node only what its extractors may put there, below the key of an array
only records, each of which holds what the fields declare.
-/

namespace Harvest.Extraction

open Resource

/-- Whether a value may stand at a path, given the keys of some extractors. Where a key ends there
    is a leaf, and where one goes on an object, whose members may stand where they do. -/
inductive Fits (keys : List (List String)) : List String → Json → Prop
  | leaf {path : List String} {v : Json} : path ∈ keys → v.IsLeaf → Fits keys path v
  | inside {path : List String} {m : Members} : (∃ part rest, path ++ part :: rest ∈ keys) →
      (∀ k v, (k, v) ∈ m → Fits keys (path ++ [k]) v) → Fits keys path (.obj m)

/-- Whether all members of an object may stand below a path. -/
def Below (keys : List (List String)) (path : List String) (m : Members) : Prop :=
  ∀ k v, (k, v) ∈ m → Fits keys (path ++ [k]) v

section

variable {keys : List (List String)} {path parts : List String} {m : Members} {v : Json}

theorem below_nil : Below keys path [] := by
  rintro k v ⟨⟩

theorem Below.insert (h : Below keys path m) {part : String} (hv : Fits keys (path ++ [part]) v) :
    Below keys path (Members.insert part v m) := by
  intro k w hw
  rcases Members.mem_insert hw with heq | hw
  · cases heq
    exact hv
  · exact h k w hw

/-- What was an object at a path stays there, and anything else gives way. -/
theorem Below.membersOf (h : Below keys path m) (part : String) :
    Below keys (path ++ [part]) (membersOf (m.get? part)) := by
  unfold Extraction.membersOf
  split
  · rename_i inner hinner
    cases h part _ (Members.mem_of_get? hinner) with
    | leaf _ hleaf => exact hleaf.elim
    | inside _ hinside => exact hinside
  · exact below_nil

theorem Below.insertAt (h : Below keys path m) (hne : parts ≠ []) (hkey : path ++ parts ∈ keys)
    (hv : v.IsLeaf) : Below keys path (insertAt parts v m) := by
  induction parts generalizing path m with
  | nil => exact absurd rfl hne
  | cons part rest ih =>
    cases rest with
    | nil => exact h.insert (.leaf hkey hv)
    | cons next rest =>
      refine h.insert (.inside ⟨next, rest, ?_⟩ (ih (h.membersOf part) (by simp) ?_)) <;>
        simpa using hkey

theorem splitChars_ne_nil (p : Char → Bool) (s : List Char) : Text.splitChars p s ≠ [] := by
  induction s with
  | nil => simp [Text.splitChars]
  | cons c r ih =>
    unfold Text.splitChars
    split
    · simp
    · split <;> simp

theorem keyParts_ne_nil (key : String) : keyParts key ≠ [] := by
  simp [keyParts, splitChars_ne_nil]

/-- The first part of a key. -/
def topOf (key : String) : String := (keyParts key).headD ""

theorem has_insertPath {key k : String} :
    (insertPath m key v).Has k ↔ k = topOf key ∨ m.Has k := by
  unfold insertPath topOf
  have hne := keyParts_ne_nil key
  generalize keyParts key = parts at hne
  match parts with
  | [part] => exact Members.has_insert
  | part :: next :: rest => exact Members.has_insert

end

/-- The keys of some extractors, in parts. -/
def keysOf (extractors : List Extractor) : List (List String) :=
  extractors.map fun e => keyParts e.key

/-- What some extractors put into an object stands below their keys, and each puts something. -/
theorem extractAll_gives (c : Transform.Context) (p : Html.Place) {keys : List (List String)}
    (extractors : List Extractor) {m : Members} (h : Below keys [] m)
    (hkeys : keysOf extractors ⊆ keys) : (extractAll c p extractors m).Gives fun out =>
      Below keys [] out ∧
      ∀ k, (m.Has k ∨ ∃ e ∈ extractors, k = topOf e.key) → out.Has k := by
  induction extractors generalizing m with
  | nil => exact Pass.gives_pure ⟨h, by simp⟩
  | cons e rest ih =>
    refine (extract_gives_leaf c e p).bind fun v hv => ?_
    have hkey : keyParts e.key ∈ keys := hkeys List.mem_cons_self
    refine (ih (h.insertAt (keyParts_ne_nil e.key) hkey hv)
      (List.Subset.trans (List.subset_cons_self ..) hkeys)).imp fun out ⟨hbelow, hhas⟩ => ?_
    refine ⟨hbelow, fun k hk => hhas k ?_⟩
    change (insertPath m e.key v).Has k ∨ _
    rw [has_insertPath]
    rcases hk with hk | ⟨e', he', rfl⟩
    · exact .inl (.inr hk)
    · rcases List.mem_cons.1 he' with rfl | he'
      · exact .inl (.inl rfl)
      · exact .inr ⟨e', he', rfl⟩

/-! Payloads -/

open Html

/-- The members that a rule declares itself. -/
def ownKeys : Rule → List String
  | .node _ extractors _ => extractors.map fun e => topOf e.key
  | .array key _ _ => [key]

/-- Whether a rule has no recovery for a missing node. -/
def IsStrict : Rule → Prop
  | .node _ _ recovery => recovery = .none
  | .array .. => True

/-- Whether an object has everything that rules without a recovery declare. -/
def Complete (rules : List Rule) (m : Members) : Prop :=
  ∀ r ∈ rules, IsStrict r → ∀ k ∈ ownKeys r, m.Has k

mutual

/-- The members that a rule declares, those that take the place of a missing node included. -/
def allKeys : Rule → List String
  | .node _ extractors recovery => extractors.map (fun e => topOf e.key) ++ otherKeys recovery
  | .array key _ _ => [key]

def otherKeys : Recovery → List String
  | .fallback r => allKeys r
  | .none | .bail _ | .omit _ => []

end

mutual

/-- Whether a rule may lead to a member. -/
def Yields : Rule → String → Json → Prop
  | .node _ extractors recovery, k, v => Fits (keysOf extractors) [k] v ∨ Replaces recovery k v
  | .array key _ fields, k, v =>
    k = key ∧ ∃ items, v = .arr items ∧ ∀ item ∈ items, ∃ record, item = .obj record ∧
      (∀ i w, (i, w) ∈ record → YieldsAny fields i w) ∧ Complete fields record

/-- Whether what is done for a missing node may lead to a member. -/
def Replaces : Recovery → String → Json → Prop
  | .fallback r, k, v => Yields r k v
  | .none, _, _ | .bail _, _, _ | .omit _, _, _ => False

/-- Whether one of some rules may lead to a member. -/
def YieldsAny : List Rule → String → Json → Prop
  | [], _, _ => False
  | r :: rest, k, v => Yields r k v ∨ YieldsAny rest k v

end

theorem yieldsAny_iff {l : List Rule} {k : String} {v : Json} :
    YieldsAny l k v ↔ ∃ r ∈ l, Yields r k v := by
  induction l with
  | nil => simp [YieldsAny]
  | cons r rest ih => simp [YieldsAny, ih]

theorem mem_tops_of_fits {extractors : List Extractor} {k : String} {v : Json}
    (h : Fits (keysOf extractors) [k] v) : k ∈ extractors.map fun e => topOf e.key := by
  obtain ⟨rest, hmem⟩ : ∃ rest, k :: rest ∈ keysOf extractors := by
    cases h with
    | leaf hmem => exact ⟨[], hmem⟩
    | inside hmem =>
      obtain ⟨part, rest, hmem⟩ := hmem
      exact ⟨part :: rest, hmem⟩
  obtain ⟨e, he, hkey⟩ := List.mem_map.1 hmem
  exact List.mem_map.2 ⟨e, he, by rw [topOf, hkey]; rfl⟩

mutual

theorem mem_allKeys_of_yields {k : String} {v : Json} :
    (r : Rule) → Yields r k v → k ∈ allKeys r
  | .node _ _ recovery, h => by
    simp only [Yields, allKeys, List.mem_append] at h ⊢
    exact h.imp mem_tops_of_fits (mem_otherKeys_of_replaces recovery)
  | .array .., h => by
    simp only [Yields, allKeys, List.mem_singleton] at h ⊢
    exact h.1

theorem mem_otherKeys_of_replaces {k : String} {v : Json} :
    (recovery : Recovery) → Replaces recovery k v → k ∈ otherKeys recovery
  | .fallback r, h => mem_allKeys_of_yields r h
  | .none, h | .bail _, h | .omit _, h => h.elim

end

theorem each_gives {f : α → Pass β} {P : β → Prop} (h : ∀ a, (f a).Gives P) (l : List α) :
    (each f l).Gives fun bs => ∀ b ∈ bs, P b := by
  induction l with
  | nil => exact Pass.gives_pure (by simp)
  | cons a rest ih =>
    refine (h a).bind fun b hb => ih.bind fun bs hbs => Pass.gives_pure ?_
    simpa using ⟨hb, hbs⟩

theorem Complete.mono {l : List Rule} {m n : Members} (h : Complete l m)
    (le : ∀ k, m.Has k → n.Has k) : Complete l n :=
  fun r hr strict k hk => le k (h r hr strict k hk)

mutual

/-- A rule leads only to members that it declares, and to all of them if it has no recovery. -/
theorem rule_gives (s : Setting) : (r : Rule) → (scope : Scope) → (rule s r scope).Gives fun m =>
    (∀ k v, (k, v) ∈ m → Yields r k v) ∧ (IsStrict r → ∀ k ∈ ownKeys r, m.Has k)
  | .node selector extractors recovery, scope => by
    refine Pass.gives_bind _ fun place => ?_
    cases place with
    | some p =>
      refine (extractAll_gives s.context p extractors below_nil (List.Subset.refl _)).imp
        fun m ⟨hbelow, hhas⟩ => ⟨fun k v hkv => .inl (hbelow k v hkv), fun _ k hk => ?_⟩
      obtain ⟨e, he, rfl⟩ := List.mem_map.1 hk
      exact hhas _ (.inr ⟨e, he, rfl⟩)
    | none =>
      exact (recover_gives s _ recovery).imp fun m ⟨hm, hne⟩ =>
        ⟨fun k v hkv => .inr (hm k v hkv), fun strict => absurd strict hne⟩
  | .array key selector fields, scope => by
    refine Pass.gives_bind _ fun css => (each_gives (P := fun item =>
      ∃ record, item = .obj record ∧ (∀ i w, (i, w) ∈ record → YieldsAny fields i w) ∧
        Complete fields record) (fun p => ?_) _).bind fun items hitems => Pass.gives_pure ⟨?_, ?_⟩
    · refine (rules_gives s fields (.element p) []).bind fun m ⟨hm, _, hcomplete⟩ =>
        Pass.gives_pure ⟨m, rfl, fun i w hiw => ?_, hcomplete⟩
      exact (hm i w hiw).resolve_left (by simp)
    · intro k v hkv
      obtain ⟨rfl, rfl⟩ := Prod.mk.inj (List.mem_singleton.1 hkv)
      exact ⟨rfl, items, rfl, hitems⟩
    · intro _ k hk
      obtain rfl : k = key := List.mem_singleton.1 hk
      simp [Members.Has, Members.get?]

theorem rules_gives (s : Setting) : (l : List Rule) → (scope : Scope) → (base : Members) →
    (rules s l scope base).Gives fun m =>
      (∀ k v, (k, v) ∈ m → (k, v) ∈ base ∨ YieldsAny l k v) ∧
      (∀ k, base.Has k → m.Has k) ∧ Complete l m
  | [], _, base => Pass.gives_pure ⟨fun k v h => .inl h, fun k h => h, by simp [Complete]⟩
  | r :: rest, scope, base => by
    refine (rule_gives s r scope).bind fun values ⟨hvalues, hstrict⟩ =>
      (rules_gives s rest scope (base.override values)).imp fun m ⟨hm, hhas, hcomplete⟩ =>
        ⟨fun k v hkv => ?_, fun k hk => hhas k (Members.has_override.2 (.inl hk)), ?_⟩
    · rcases hm k v hkv with h | h
      · exact (Members.mem_override h).imp_right fun h => .inl (hvalues k v h)
      · exact .inr (.inr h)
    · intro r' hr' strict k hk
      rcases List.mem_cons.1 hr' with rfl | hr'
      · exact hhas k (Members.has_override.2 (.inr (hstrict strict k hk)))
      · exact hcomplete r' hr' strict k hk

theorem recover_gives (s : Setting) (selector : String) : (recovery : Recovery) →
    (recover s selector recovery).Gives fun m =>
      (∀ k v, (k, v) ∈ m → Replaces recovery k v) ∧ recovery ≠ .none
  | .none => Pass.gives_fail _
  | .bail warning => Pass.gives_bind _ fun _ m hm => by cases hm
  | .omit warning => Pass.gives_bind _ fun _ => Pass.gives_pure ⟨by simp, by simp⟩
  | .fallback r => (rule_gives s r (.element s.body)).imp fun m h => ⟨h.1, by simp⟩

end

/-- A payload has only members that a descriptor declares, each of a shape that this descriptor
    declares for it, and unless the pass bails out, it has all members that descriptors without a
    recovery declare. -/
theorem payload_conforms {r : Resource} {d : Document} {m : Members}
    (h : (r.extract d).payload = .ok m) :
    (∀ k v, (k, v) ∈ m → ∃ rule ∈ r.descriptors, k ∈ allKeys rule ∧ Yields rule k v) ∧
    ((run r d).result ≠ .error .bailed → Complete r.descriptors m) := by
  simp only [Resource.extract] at h
  split at h
  · rename_i values hvalues
    obtain rfl : values = m := Except.ok.inj h
    have gives : (run r d).Gives fun m =>
        (∀ k v, (k, v) ∈ m → (k, v) ∈ [] ∨ YieldsAny r.descriptors k v) ∧
        (∀ k, Members.Has [] k → m.Has k) ∧ Complete r.descriptors m :=
      Pass.gives_bind _ fun _ => rules_gives _ _ _ _
    obtain ⟨hm, -, hcomplete⟩ := gives values hvalues
    refine ⟨fun k v hkv => ?_, fun _ => hcomplete⟩
    obtain ⟨rule, hrule, hyields⟩ := yieldsAny_iff.1 ((hm k v hkv).resolve_left (by simp))
    exact ⟨rule, hrule, mem_allKeys_of_yields rule hyields, hyields⟩
  · rename_i hbailed
    obtain rfl : [] = m := Except.ok.inj h
    exact ⟨by simp, fun hne => absurd hbailed hne⟩
  · cases h

/-! A page without a heading, in whose place the items of a list are taken -/

def tagged (name : String) (made : Nat) : Tag := ⟨.html, name, [], made⟩

def page : Document where
  nodes := [.element (tagged "html" 0) [.element (tagged "body" 1)
    [.element (tagged "li" 2) [.element (tagged "b" 3) [.text "1.5"]],
     .element (tagged "li" 4) [.text " x "]]]]

def prices : Rule :=
  .array "items" "li" [.node (some "b") [⟨.text, "price", [.toNumber none]⟩] (.omit none)]

def shop : Resource where
  id := "shop"
  hostname := "shop.test"
  urlPattern := "/"
  inputs := []
  pageRules := []
  waitFor := none
  descriptors := [.node none [⟨.text, "page.text", [.trim [.outside]]⟩] .none,
    .node (some "h1") [⟨.text, "title", []⟩] (.fallback prices)]
  hash := "h"
  disabled := false

/-- The payload of the page as text. -/
def shopText : String :=
  "\x7b\"items\":[\x7b\"price\":1.5\x7d,\x7b\x7d],\"page\":\x7b\"text\":\"1.5 x\"\x7d\x7d"

/-- The elements of the page were made in the order in which they stand. -/
theorem elements_page : page.elements = page.places :=
  Document.elements_eq_places rfl (by decide +kernel)

theorem run_shop : ((run shop page).result.toOption.map fun m => (Json.obj m).compact) =
    some shopText := by
  simp only [run, setting, bodyOf, elements_page]
  decide +kernel

theorem shop_conforms : ∃ m, (shop.extract page).payload = .ok m ∧ (Json.obj m).compact = shopText ∧
    (∀ k v, (k, v) ∈ m → ∃ rule ∈ shop.descriptors, k ∈ allKeys rule ∧ Yields rule k v) ∧
    Complete shop.descriptors m := by
  obtain ⟨m, hm, htext⟩ := Option.map_eq_some_iff.1 run_shop
  have hresult : (run shop page).result = .ok m := by
    cases h : (run shop page).result with
    | error e => simp [h, Except.toOption] at hm
    | ok m' =>
      rw [h] at hm
      exact congrArg Except.ok (Option.some_inj.1 hm)
  have hpayload : (shop.extract page).payload = .ok m := by
    simp only [Resource.extract, hresult]
  obtain ⟨hyields, hcomplete⟩ := payload_conforms hpayload
  exact ⟨m, hpayload, htext, hyields, hcomplete (by rw [hresult]; rintro ⟨⟩)⟩

end Harvest.Extraction
