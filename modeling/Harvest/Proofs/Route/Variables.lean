import Harvest.Route
import Harvest.Proofs.Json.Members
import Harvest.Proofs.Regex.Names
import Harvest.Proofs.Route.Anchoring
/-!
The variables of a location. A name leads to what the last variable of the path says that is
reported under it, and to what the last one of the query says only if there is none; so the order of
the definitions matters only among variables of one kind and one name.
-/

namespace Harvest

/-! Members made from a list, looked up by key -/

namespace Members

variable {k : String} {α β : Type}

theorem get?_map_entries (key : α → String) (value : α → Json) (l : List α) :
    get? k (l.map fun a => (key a, value a)) = (l.find? fun a => key a = k).map value := by
  induction l with
  | nil => rfl
  | cons a rest ih =>
    by_cases h : key a = k
    · simp [get?, h]
    · simpa [get?, h] using ih

theorem get?_filterMap_entries (key : α → String) (part : α → Option β) (value : β → Json)
    (l : List α) :
    get? k (l.filterMap fun a => (part a).map fun b => (key a, value b)) =
      (l.find? fun a => key a = k && (part a).isSome).bind fun a => (part a).map value := by
  induction l with
  | nil => rfl
  | cons a rest ih =>
    cases hpart : part a with
    | none => simpa [hpart] using ih
    | some b =>
      by_cases h : key a = k
      · simp [get?, h, hpart]
      · simpa [get?, h, hpart] using ih

end Members

namespace Resource

/-- Whether something is the last of a list that has a property. -/
def IsLast (P : α → Prop) (l : List α) (a : α) : Prop :=
  P a ∧ ∃ before after, l = before ++ a :: after ∧ ∀ b ∈ after, ¬ P b

theorem isLast_iff {P : α → Prop} [DecidablePred P] {l : List α} {a : α} :
    IsLast P l a ↔ l.reverse.find? (fun a => P a) = some a := by
  rw [List.find?_eq_some_iff_append]
  constructor
  · rintro ⟨ha, before, after, rfl, hafter⟩
    exact ⟨by simpa using ha, after.reverse, before.reverse, by simp, by simpa using hafter⟩
  · rintro ⟨ha, before, after, hl, hbefore⟩
    refine ⟨by simpa using ha, after.reverse, before.reverse, ?_, by simpa using hbefore⟩
    have hreverse := congrArg List.reverse hl
    simpa using hreverse

section

variable {u : Url} {groups : List (String × Option String)} {l l' : List Variable} {k : String}

/-- What the variables of the query report, in their order. -/
def queryMembers (u : Url) (l : List Variable) : Members :=
  (l.filter (·.kind = .query)).map fun v => (v.outputName, textOrNull (v.queryValue u))

/-- What the variables of the path report, in their order. -/
def pathMembers (groups : List (String × Option String)) (l : List Variable) : Members :=
  (l.filter (·.kind = .url)).filterMap fun v =>
    (groups.lookup v.identifier).map fun text => (v.outputName, textOrNull text)

theorem variablesFrom_eq (r : Resource) (u : Url) (groups : List (String × Option String)) :
    r.variablesFrom u groups =
      (Members.override [] (queryMembers u r.inputs)).override (pathMembers groups r.inputs) := by
  simp only [variablesFrom, Members.override, queryMembers, pathMembers, List.foldl_map,
    List.foldl_filterMap]
  congr 1
  funext acc v
  cases groups.lookup v.identifier <;> rfl

/-- Whether a variable reports a text of the path under some name. -/
def Variable.IsOfPath (names : List String) (k : String) (v : Variable) : Prop :=
  v.kind = .url ∧ v.outputName = k ∧ v.identifier ∈ names

/-- Whether a variable reports a text of the query under some name. -/
def Variable.IsOfQuery (k : String) (v : Variable) : Prop :=
  v.kind = .query ∧ v.outputName = k

instance (names : List String) (k : String) : DecidablePred (Variable.IsOfPath names k) :=
  fun v => inferInstanceAs (Decidable (v.kind = .url ∧ v.outputName = k ∧ v.identifier ∈ names))

instance (k : String) : DecidablePred (Variable.IsOfQuery k) :=
  fun v => inferInstanceAs (Decidable (v.kind = .query ∧ v.outputName = k))

theorem get?_queryMembers : Members.get? k (queryMembers u l).reverse =
    (l.reverse.find? fun v => v.IsOfQuery k).map fun v => textOrNull (v.queryValue u) := by
  unfold queryMembers
  rw [← List.map_reverse, ← List.filter_reverse, Members.get?_map_entries, List.find?_filter]
  congr 2
  funext v
  rw [Bool.eq_iff_iff]
  simp only [decide_eq_true_iff]
  rfl

theorem isSome_lookup_iff {name : String} :
    (groups.lookup name).isSome = true ↔ name ∈ groups.map Prod.fst := by
  simp only [List.lookup_isSome_iff, List.mem_map, beq_iff_eq, eq_comm (a := name)]

theorem get?_pathMembers : Members.get? k (pathMembers groups l).reverse =
    (l.reverse.find? fun v => v.IsOfPath (groups.map Prod.fst) k).bind fun v =>
      (groups.lookup v.identifier).map textOrNull := by
  unfold pathMembers
  rw [← List.filterMap_reverse, ← List.filter_reverse, Members.get?_filterMap_entries,
    List.find?_filter]
  congr 2
  funext v
  rw [Bool.eq_iff_iff]
  simp only [Bool.and_eq_true, decide_eq_true_iff, isSome_lookup_iff]
  rfl

theorem get?_variablesFrom (r : Resource) : (r.variablesFrom u groups).get? k =
    ((r.inputs.reverse.find? fun v => v.IsOfPath (groups.map Prod.fst) k).bind fun v =>
      (groups.lookup v.identifier).map textOrNull).or
    ((r.inputs.reverse.find? fun v => v.IsOfQuery k).map fun v => textOrNull (v.queryValue u)) := by
  rw [variablesFrom_eq, Members.get?_override_eq, Members.get?_override_eq, get?_pathMembers,
    get?_queryMembers]
  simp [Members.get?]

/-! The order of the definitions -/

/-- Whether two lists have the same variables of each kind under each name, in the same order. -/
def Rearranges (l l' : List Variable) : Prop :=
  ∀ kind name, l.filter (fun v => v.kind = kind && v.outputName = name) =
    l'.filter fun v => v.kind = kind && v.outputName = name

theorem rearranges_of_kinds
    (h : ∀ kind, l.filter (·.kind = kind) = l'.filter (·.kind = kind)) : Rearranges l l' := by
  intro kind name
  have hsplit : ∀ l : List Variable, l.filter (fun v => v.kind = kind && v.outputName = name) =
      (l.filter (·.kind = kind)).filter (·.outputName = name) := by
    intro l
    rw [List.filter_filter]
    congr 1
    funext v
    rw [Bool.and_comm]
  rw [hsplit, hsplit, h]

theorem rearranges_swap {v w : Variable} (h : v.kind ≠ w.kind ∨ v.outputName ≠ w.outputName)
    (before after : List Variable) :
    Rearranges (before ++ v :: w :: after) (before ++ w :: v :: after) := by
  intro kind name
  by_cases hv : v.kind = kind ∧ v.outputName = name
  · obtain ⟨rfl, rfl⟩ := hv
    have hw : (decide (w.kind = v.kind) && decide (w.outputName = v.outputName)) = false := by
      rw [Bool.and_eq_false_iff, decide_eq_false_iff_not, decide_eq_false_iff_not]
      exact h.imp Ne.symm Ne.symm
    simp [hw]
  · have hv' : (decide (v.kind = kind) && decide (v.outputName = name)) = false := by
      simpa using hv
    simp [List.filter_cons, hv']

/-- Where all names differ there is at most one variable under each. -/
theorem rearranges_of_perm (h : l.Perm l') (hnames : (l.map Variable.outputName).Nodup) :
    Rearranges l l' := by
  intro kind name
  have hperm := h.filter fun v => v.kind = kind && v.outputName = name
  have hsub := (List.filter_sublist (l := l)
    (p := fun v => v.kind = kind && v.outputName = name)).map Variable.outputName
  have hnamed : ∀ v ∈ l.filter (fun v => v.kind = kind && v.outputName = name),
      v.outputName = name := by
    intro v hv
    have hkept := (List.mem_filter.1 hv).2
    simp only [Bool.and_eq_true, decide_eq_true_iff] at hkept
    exact hkept.2
  -- two of them would have the same name
  generalize l.filter (fun v => v.kind = kind && v.outputName = name) = same at *
  match same with
  | [] => exact (List.nil_perm.1 hperm).symm
  | [v] => exact List.singleton_perm.1 hperm
  | v :: w :: rest =>
    have hdistinct := List.pairwise_map.1 (hnames.sublist hsub)
    have hne := (List.pairwise_cons.1 hdistinct).1 w List.mem_cons_self
    exact absurd ((hnamed v (by simp)).trans (hnamed w (by simp)).symm) hne

theorem Rearranges.find?_eq (h : Rearranges l l') (kind : Variable.Kind) {p : Variable → Bool}
    (hp : ∀ v, p v = true → v.kind = kind ∧ v.outputName = k) :
    l.reverse.find? p = l'.reverse.find? p := by
  have hsplit : ∀ l : List Variable, l.reverse.find? p =
      (l.filter fun v => v.kind = kind && v.outputName = k).reverse.find? p := by
    intro l
    rw [← List.filter_reverse, List.find?_filter]
    congr 1
    funext v
    cases hv : p v with
    | false => simp
    | true =>
      obtain ⟨hkind, hname⟩ := hp v hv
      simp [hkind, hname]
  rw [hsplit l, hsplit l', h]

def withInputs (r : Resource) (l : List Variable) : Resource := { r with inputs := l }

theorem isSorted_variablesFrom (r : Resource) : (r.variablesFrom u groups).IsSorted := by
  rw [variablesFrom_eq]
  exact (Members.isSorted_nil.override _).override _

theorem Rearranges.variablesFrom_eq {r : Resource} (h : Rearranges r.inputs l) :
    (r.withInputs l).variablesFrom u groups = r.variablesFrom u groups := by
  refine Members.IsSorted.ext (isSorted_variablesFrom _) (isSorted_variablesFrom r) fun k => ?_
  have hpath : r.inputs.reverse.find? (fun v => v.IsOfPath (groups.map Prod.fst) k) =
      l.reverse.find? fun v => v.IsOfPath (groups.map Prod.fst) k :=
    h.find?_eq .url fun v hv => ⟨(of_decide_eq_true hv).1, (of_decide_eq_true hv).2.1⟩
  have hquery : r.inputs.reverse.find? (fun v => v.IsOfQuery k) =
      l.reverse.find? fun v => v.IsOfQuery k :=
    h.find?_eq .query fun v hv => of_decide_eq_true hv
  rw [get?_variablesFrom, get?_variablesFrom, hpath, hquery]
  rfl

theorem Rearranges.readVariables_eq {r : Resource} (h : Rearranges r.inputs l) (u : Url) :
    (r.withInputs l).readVariables u = r.readVariables u := by
  have hsame : (r.withInputs l).variablesFrom u = r.variablesFrom u := by
    funext groups
    exact h.variablesFrom_eq
  unfold readVariables
  rw [hsame]
  rfl

/-! What a name leads to -/

/-- Whether the variables of a location are as they should be, where its path has some groups. -/
structure Resolves (r : Resource) (u : Url) (names : List String)
    (groups : List (String × Option String)) (m : Members) : Prop where
  /-- Each named group of the pattern has one text, or none if it took no part in the match. -/
  named : groups.map Prod.fst = names ∧ names.Nodup
  sorted : m.IsSorted
  keys : ∀ k, m.Has k ↔ ∃ v ∈ r.inputs, v.outputName = k ∧
    (v.kind = .query ∨ v.kind = .url ∧ v.identifier ∈ names)
  /-- The last variable of the path counts. -/
  ofPath : ∀ k v, IsLast (Variable.IsOfPath names k) r.inputs v →
    ∃ text, (v.identifier, text) ∈ groups ∧ m.get? k = some (textOrNull text)
  /-- If there is none, the last variable of the query does: its first pair or its default. -/
  ofQuery : ∀ k v, (∀ w ∈ r.inputs, ¬ w.IsOfPath names k) →
    IsLast (Variable.IsOfQuery k) r.inputs v →
    m.get? k = some (textOrNull ((u.queryPairs.lookup v.identifier).or v.default))

theorem queryValue_eq (v : Variable) (u : Url) :
    v.queryValue u = (u.queryPairs.lookup v.identifier).or v.default := by
  have hlookup : ∀ pairs : List (String × String), pairs.lookup v.identifier =
      (pairs.find? fun p => p.1 = v.identifier).map Prod.snd := by
    intro pairs
    induction pairs with
    | nil => rfl
    | cons head rest ih =>
      obtain ⟨name, text⟩ := head
      by_cases h : v.identifier = name
      · simp [h]
      · have hne : (v.identifier == name) = false := by simpa using h
        simp [List.lookup_cons, hne, ih, Ne.symm h]
  unfold Variable.queryValue
  rw [hlookup]
  cases u.queryPairs.find? fun p => p.1 = v.identifier <;> rfl

theorem mem_of_lookup {name : String} {text : Option String}
    (h : groups.lookup name = some text) : (name, text) ∈ groups := by
  obtain ⟨before, after, rfl, -⟩ := List.lookup_eq_some_iff.1 h
  exact List.mem_append_right before List.mem_cons_self

theorem has_variablesFrom_iff (r : Resource) : (r.variablesFrom u groups).Has k ↔
    ∃ v ∈ r.inputs, v.outputName = k ∧
      (v.kind = .query ∨ v.kind = .url ∧ v.identifier ∈ groups.map Prod.fst) := by
  have hpath : ∀ v : Variable, v.IsOfPath (groups.map Prod.fst) k →
      ((groups.lookup v.identifier).map textOrNull).isSome = true := by
    intro v hv
    rw [Option.isSome_map, isSome_lookup_iff]
    exact hv.2.2
  unfold Members.Has
  rw [get?_variablesFrom]
  cases hfind : r.inputs.reverse.find? fun v => v.IsOfPath (groups.map Prod.fst) k with
  | some v =>
    have hv : v.IsOfPath (groups.map Prod.fst) k := by simpa using List.find?_some hfind
    have hmem := List.mem_reverse.1 (List.mem_of_find?_eq_some hfind)
    refine iff_of_true ?_ ⟨v, hmem, hv.2.1, .inr ⟨hv.1, hv.2.2⟩⟩
    rw [Option.isSome_or, Option.bind_some, hpath v hv, Bool.true_or]
  | none =>
    have hnone : ∀ v ∈ r.inputs, ¬ v.IsOfPath (groups.map Prod.fst) k := by
      intro v hv
      simpa using List.find?_eq_none.1 hfind v (List.mem_reverse.2 hv)
    rw [Option.bind_none, Option.none_or, Option.isSome_map, List.find?_isSome]
    constructor
    · rintro ⟨v, hv, hquery⟩
      obtain ⟨hkind, hname⟩ := of_decide_eq_true hquery
      exact ⟨v, List.mem_reverse.1 hv, hname, .inl hkind⟩
    · rintro ⟨v, hv, hname, hkind | ⟨hkind, hid⟩⟩
      · exact ⟨v, List.mem_reverse.2 hv, decide_eq_true ⟨hkind, hname⟩⟩
      · exact absurd ⟨hkind, hname, hid⟩ (hnone v hv)

theorem resolves_variablesFrom (r : Resource)
    (hnames : (groups.map Prod.fst).Nodup) :
    Resolves r u (groups.map Prod.fst) groups (r.variablesFrom u groups) := by
  refine ⟨⟨rfl, hnames⟩, isSorted_variablesFrom r, fun k => has_variablesFrom_iff r,
    fun k v hlast => ?_, fun k v hnone hlast => ?_⟩
  · obtain ⟨text, htext⟩ := Option.isSome_iff_exists.1 (isSome_lookup_iff.2 hlast.1.2.2)
    refine ⟨text, mem_of_lookup htext, ?_⟩
    rw [get?_variablesFrom, isLast_iff.1 hlast, Option.bind_some, htext]
    rfl
  · have hpath : (r.inputs.reverse.find? fun v => v.IsOfPath (groups.map Prod.fst) k) = none := by
      rw [List.find?_eq_none]
      intro w hw
      simpa using hnone w (List.mem_reverse.1 hw)
    rw [get?_variablesFrom, hpath, isLast_iff.1 hlast, ← queryValue_eq]
    rfl

/-- The variables of a location whose path matches are those that the definitions say, and the
    order of definitions with different names or of different kinds does not matter. -/
theorem variables_resolved (r : Resource) (u : Url) :
    (∀ route groups, Route.compile r.urlPattern = .ok route →
      route.captures? u.pathText = some groups →
      ∃ m, r.readVariables u = .ok (some m) ∧ Resolves r u route.regex.groupNames groups m) ∧
    (∀ before v w after, r.inputs = before ++ v :: w :: after →
      v.kind ≠ w.kind ∨ v.outputName ≠ w.outputName →
      (r.withInputs (before ++ w :: v :: after)).readVariables u = r.readVariables u) ∧
    (∀ l, r.inputs.Perm l → (r.inputs.map Variable.outputName).Nodup →
      (r.withInputs l).readVariables u = r.readVariables u) ∧
    (∀ l, (∀ kind, r.inputs.filter (·.kind = kind) = l.filter (·.kind = kind)) →
      (r.withInputs l).readVariables u = r.readVariables u) := by
  refine ⟨fun route groups hroute hgroups => ?_, fun before v w after hinputs h => ?_,
    fun l hperm hnames => (rearranges_of_perm hperm hnames).readVariables_eq u,
    fun l h => (rearranges_of_kinds h).readVariables_eq u⟩
  · refine ⟨r.variablesFrom u groups, by simp [readVariables, hroute, hgroups], ?_⟩
    obtain ⟨m, -, rfl⟩ := Option.map_eq_some_iff.1 hgroups
    have hnames := Regex.nodup_groupNames (Route.regex_of_compile hroute)
    rw [← Regex.map_fst_namedGroups route.regex m] at hnames ⊢
    exact resolves_variablesFrom r hnames
  · have hswap := rearranges_swap h before after
    rw [← hinputs] at hswap
    exact hswap.readVariables_eq u

end

/-! A page of one item, with a variable of the path and one of the query -/

def itemId : Variable := ⟨.url, "id", none, "The item", none⟩

def itemSource : Variable :=
  ⟨.query, "ref", some "source", "Where the visitor comes from", some "-"⟩

def item : Resource where
  id := "item"
  hostname := "shop.example"
  urlPattern := "/items/(?P<id>[0-9]+)"
  inputs := [itemId, itemSource]
  pageRules := []
  waitFor := none
  descriptors := []
  hash := "h"
  disabled := false

def itemAddress : Url where
  scheme := "https"
  username := ""
  password := none
  host := some (.domain "shop.example")
  port := none
  path := .segments ["items", "7"]
  query := some "ref=mail"
  fragment := none

theorem exists_item_groups : ∃ route groups, Route.compile item.urlPattern = .ok route ∧
    route.captures? itemAddress.pathText = some groups := by
  -- placeholders are put in place by well-founded recursion, which is not computed
  have hexpression : Route.expression item.urlPattern = "^/items/(?P<id>[0-9]+)$" := by
    have hnormal : normalizePath item.urlPattern = "/items/(?P<id>[0-9]+)" := by decide
    simp [Route.expression, hnormal, Route.expand]
  have hmatches : ((Regex.compile "^/items/(?P<id>[0-9]+)$").toOption.bind
      (·.captures? (normalizePath itemAddress.pathText))).isSome = true := by decide +kernel
  obtain ⟨m, h⟩ := Option.isSome_iff_exists.1 hmatches
  obtain ⟨regex, hregex, hm⟩ := Option.bind_eq_some_iff.1 h
  cases hcompile : Regex.compile "^/items/(?P<id>[0-9]+)$" with
  | error fault => simp [hcompile, Except.toOption] at hregex
  | ok regex' =>
    obtain rfl : regex' = regex := by simpa [hcompile, Except.toOption] using hregex
    exact ⟨⟨regex'⟩, regex'.namedGroups m, by rw [Route.compile, hexpression, hcompile],
      by rw [Route.captures?, hm, Option.map_some]⟩

theorem item_variables_resolved :
    (∃ route groups m, Route.compile item.urlPattern = .ok route ∧
      route.captures? itemAddress.pathText = some groups ∧
      item.readVariables itemAddress = .ok (some m) ∧
      Resolves item itemAddress route.regex.groupNames groups m) ∧
    [itemId, itemSource].Perm [itemSource, itemId] ∧
    (item.withInputs [itemSource, itemId]).readVariables itemAddress =
      item.readVariables itemAddress := by
  obtain ⟨hresolved, hswap, hperm, hkinds⟩ := variables_resolved item itemAddress
  obtain ⟨route, groups, hroute, hgroups⟩ := exists_item_groups
  obtain ⟨m, hm, hresolves⟩ := hresolved route groups hroute hgroups
  have hreversed : [itemId, itemSource].Perm [itemSource, itemId] := List.Perm.swap _ _ []
  have hmoved := hswap [] itemId itemSource [] rfl (.inl (by decide))
  have hreordered := hperm [itemSource, itemId] hreversed (by decide)
  have hsame := hkinds [itemSource, itemId] (by rintro (_ | _) <;> rfl)
  exact ⟨⟨route, groups, m, hroute, hgroups, hm, hresolves⟩, hreversed,
    hmoved.trans (hreordered.symm.trans hsame)⟩

end Resource
end Harvest
