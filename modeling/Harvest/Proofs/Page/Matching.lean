import Harvest.Proofs.Page.Belonging
import Mathlib.Data.List.Induction
/-!
Which resource a page is matched with. A matcher answers by the page and the resources that it was
given last. A page without a host is not found and one that another page stands in for is told; any
other page is matched with the first resource that it belongs to. Resources that it does not belong
to may stand anywhere between the others.
-/

namespace Harvest

/-- What a matcher may be told while it is in use. -/
inductive Matcher.Update
  | page (p : Page)
  | resources (rs : List Resource)

namespace Matcher

def Update.page? : Update → Option Page
  | page p => some p
  | resources _ => none

def Update.resources? : Update → Option (List Resource)
  | page _ => none
  | resources rs => some rs

def after (m : Matcher) : Update → Matcher
  | .page p => m.updatePage p
  | .resources rs => m.updateResources rs

def afterAll (m : Matcher) (updates : List Update) : Matcher :=
  updates.foldl after m

/-- The page that was told last. -/
def lastPage (m : Matcher) (updates : List Update) : Page :=
  (updates.reverse.findSome? Update.page?).getD m.page

/-- The resources that were told last. -/
def lastResources (m : Matcher) (updates : List Update) : List Resource :=
  (updates.reverse.findSome? Update.resources?).getD m.resources

theorem afterAll_concat (m : Matcher) (updates : List Update) (update : Update) :
    m.afterAll (updates ++ [update]) = (m.afterAll updates).after update := by
  simp [afterAll]

theorem afterAll_eq (m : Matcher) (updates : List Update) :
    m.afterAll updates = ⟨m.lastPage updates, m.lastResources updates⟩ := by
  induction updates using List.reverseRecOn with
  | nil => rfl
  | append_singleton updates update ih =>
    rw [afterAll_concat, ih]
    cases update <;>
      simp [after, updatePage, updateResources, lastPage, lastResources, List.findSome?_cons,
        Update.page?, Update.resources?]

end Matcher

namespace Resource

variable {r : Resource} {u : Url}

/-- The reasons for which an address does not belong to a resource. -/
theorem not_covers_iff : ¬ r.Covers u ↔ r.disabled = true ∨ u.hostText? ≠ some r.hostname ∨
    (∃ e, Route.compile r.urlPattern = .error e) ∨
    ∃ route, Route.compile r.urlPattern = .ok route ∧ route.isMatch u.pathText = false := by
  constructor
  · intro h
    cases hd : r.disabled with
    | true => exact .inl rfl
    | false =>
      by_cases hhost : u.hostText? = some r.hostname
      · refine .inr (.inr ?_)
        cases hroute : Route.compile r.urlPattern with
        | error e => exact .inl ⟨e, rfl⟩
        | ok route =>
          cases hm : route.isMatch u.pathText with
          | false => exact .inr ⟨route, rfl, hm⟩
          | true => exact absurd ⟨hd, hhost, route, hroute, hm⟩ h
      · exact .inr (.inl hhost)
  · rintro h ⟨hd, hhost, route, hroute, hm⟩
    rcases h with h | h | ⟨e, h⟩ | ⟨other, h, hno⟩
    · simp [hd] at h
    · exact h hhost
    · simp [hroute] at h
    · obtain rfl := Except.ok.inj (hroute.symm.trans h)
      simp [hm] at hno

end Resource

namespace Page

variable {p : Page} {r : Resource} {rs : List Resource} {host : String} {bindings : Members}

/-- Once the host of an address is known, its variables are read for just the resources that it
    belongs to. -/
theorem variablesFor_eq_some_iff {u : Url} (hhost : u.hostText? = some host) :
    variablesFor? host u r = some bindings ↔
      r.Covers u ∧ r.readVariables u = .ok (some bindings) := by
  constructor
  · intro h
    obtain ⟨hd, rfl, hread⟩ := exists_variablesFor_iff.1 ⟨bindings, h⟩
    refine ⟨⟨hd, hhost, Resource.exists_readVariables_iff.1 hread⟩, ?_⟩
    unfold variablesFor? at h
    rw [if_neg (by simp [hd])] at h
    obtain ⟨read, hread⟩ := hread
    simp only [hread] at h
    rw [hread, h]
  · rintro ⟨hcovers, hread⟩
    have hname : r.hostname = host := Option.some.inj (hcovers.host.symm.trans hhost)
    simp [variablesFor?, hcovers.enabled, hname, hread]

theorem variablesFor_eq_none_iff {u : Url} (hhost : u.hostText? = some host) :
    variablesFor? host u r = none ↔ ¬ r.Covers u := by
  rw [Option.eq_none_iff_forall_ne_some]
  constructor
  · intro h hcovers
    obtain ⟨bindings, hread⟩ := Resource.exists_readVariables_iff.2 hcovers.path
    exact h bindings ((variablesFor_eq_some_iff hhost).2 ⟨hcovers, hread⟩)
  · intro h bindings hb
    exact h ((variablesFor_eq_some_iff hhost).1 hb).1

theorem check_eq_notFound_iff : p.check rs = .fail .notFound ↔ p.url.hostText? = none := by
  unfold check
  cases p.url.hostText? with
  | none => simp
  | some host =>
    cases p.document.wellKnownResponse? with
    | some response => simp
    | none =>
      dsimp only
      split <;> simp

theorem check_eq_wellKnown_iff {response : WellKnownResponse} :
    p.check rs = .fail (.wellKnownResponse response) ↔
      p.url.hostText? ≠ none ∧ p.document.wellKnownResponse? = some response := by
  unfold check
  cases p.url.hostText? with
  | none => simp
  | some host =>
    cases p.document.wellKnownResponse? with
    | some response => simp
    | none =>
      dsimp only
      split <;> simp

/-- The answer by what a search through the resources found. -/
def Check.ofFound : Option (Resource × Members) → Check
  | some (r, bindings) => .matched r bindings
  | none => .fail .noMatchingResource

/-- The first resource whose variables are read from an address, with the variables. -/
def search (host : String) (u : Url) (rs : List Resource) : Option (Resource × Members) :=
  rs.findSome? fun r => (variablesFor? host u r).map (r, ·)

/-- The resources of a page that has a host and is itself are searched in their order. -/
theorem check_eq_search (hhost : p.url.hostText? = some host)
    (hpage : p.document.wellKnownResponse? = none) :
    p.check rs = .ofFound (search host p.url rs) := by
  simp only [check, hhost, hpage, search]
  cases rs.findSome? fun r => (variablesFor? host p.url r).map (r, ·) <;> rfl

/-- A resource is the first one that an address belongs to. -/
def IsFirst (r : Resource) (u : Url) (rs : List Resource) : Prop :=
  r.Covers u ∧ ∃ before after, rs = before ++ r :: after ∧ ∀ other ∈ before, ¬ other.Covers u

theorem search_eq_some_iff {u : Url} (hhost : u.hostText? = some host) :
    search host u rs = some (r, bindings) ↔
      IsFirst r u rs ∧ r.readVariables u = .ok (some bindings) := by
  rw [search, List.findSome?_eq_some_iff]
  constructor
  · rintro ⟨before, found, after, hrs, hfound, hbefore⟩
    obtain ⟨b, hb, heq⟩ := Option.map_eq_some_iff.1 hfound
    obtain ⟨rfl, rfl⟩ := Prod.mk.inj heq
    obtain ⟨hcovers, hread⟩ := (variablesFor_eq_some_iff hhost).1 hb
    refine ⟨⟨hcovers, before, after, hrs, fun other hother => ?_⟩, hread⟩
    exact (variablesFor_eq_none_iff hhost).1 (Option.map_eq_none_iff.1 (hbefore other hother))
  · rintro ⟨⟨hcovers, before, after, hrs, hbefore⟩, hread⟩
    refine ⟨before, r, after, hrs, ?_, fun other hother => ?_⟩
    · rw [(variablesFor_eq_some_iff hhost).2 ⟨hcovers, hread⟩]
      rfl
    · rw [(variablesFor_eq_none_iff hhost).2 (hbefore other hother)]
      rfl

theorem search_eq_none_iff {u : Url} (hhost : u.hostText? = some host) :
    search host u rs = none ↔ ∀ r ∈ rs, ¬ r.Covers u := by
  simp [search, List.findSome?_eq_none_iff, variablesFor_eq_none_iff hhost]

theorem search_append (first second : List Resource) (u : Url) :
    search host u (first ++ second) = (search host u first).or (search host u second) := by
  simp [search, List.findSome?_append]

theorem check_eq_matched_iff : p.check rs = .matched r bindings ↔
    p.document.wellKnownResponse? = none ∧ IsFirst r p.url rs ∧
      r.readVariables p.url = .ok (some bindings) := by
  cases hhost : p.url.hostText? with
  | none =>
    refine iff_of_false (by simp [check, hhost]) fun ⟨_, ⟨hcovers, _⟩, _⟩ => ?_
    simpa [hhost] using hcovers.host
  | some host =>
    cases hpage : p.document.wellKnownResponse? with
    | some response => simp [check, hhost, hpage]
    | none =>
      rw [check_eq_search hhost hpage, ← search_eq_some_iff hhost]
      cases search host p.url rs <;> simp [Check.ofFound, Prod.ext_iff]

theorem check_eq_noMatching_iff : p.check rs = .fail .noMatchingResource ↔
    p.url.hostText? ≠ none ∧ p.document.wellKnownResponse? = none ∧
      ∀ r ∈ rs, ¬ r.Covers p.url := by
  cases hhost : p.url.hostText? with
  | none => simp [check, hhost]
  | some host =>
    cases hpage : p.document.wellKnownResponse? with
    | some response => simp [check, hhost, hpage]
    | none =>
      rw [check_eq_search hhost hpage, ← search_eq_none_iff hhost]
      cases search host p.url rs <;> simp [Check.ofFound]

/-- Resources that an address does not belong to do not count, wherever they stand. -/
theorem check_insert {extra : List Resource} (h : ∀ r ∈ extra, ¬ r.Covers p.url)
    (before after : List Resource) :
    p.check (before ++ extra ++ after) = p.check (before ++ after) := by
  cases hhost : p.url.hostText? with
  | none => rw [check_eq_notFound_iff.2 hhost, check_eq_notFound_iff.2 hhost]
  | some host =>
    cases hpage : p.document.wellKnownResponse? with
    | some response =>
      rw [check_eq_wellKnown_iff.2 ⟨by simp [hhost], hpage⟩,
        check_eq_wellKnown_iff.2 ⟨by simp [hhost], hpage⟩]
    | none =>
      have hextra : search host p.url extra = none := (search_eq_none_iff hhost).2 h
      rw [check_eq_search hhost hpage, check_eq_search hhost hpage]
      simp [search_append, hextra]

end Page

/-- A matcher checks the page that it was told last against the resources that it was told last,
    and its answer is one of four: the page has no host, or another page stands in for it, or it is
    matched with the first resource that its address belongs to and the variables of that one, or
    it belongs to none. Resources that it does not belong to may come and go anywhere. -/
theorem Matcher.matches_first (m : Matcher) (updates : List Update) :
    let p := m.lastPage updates
    let rs := m.lastResources updates
    let answer := (m.afterAll updates).check
    answer = p.check rs ∧
    (answer = .fail .notFound ↔ p.url.hostText? = none) ∧
    (∀ response, answer = .fail (.wellKnownResponse response) ↔
      p.url.hostText? ≠ none ∧ p.document.wellKnownResponse? = some response) ∧
    (∀ r bindings, answer = .matched r bindings ↔
      p.document.wellKnownResponse? = none ∧ Page.IsFirst r p.url rs ∧
        r.readVariables p.url = .ok (some bindings)) ∧
    (answer = .fail .noMatchingResource ↔ p.url.hostText? ≠ none ∧
      p.document.wellKnownResponse? = none ∧ ∀ r ∈ rs, ¬ r.Covers p.url) ∧
    (∀ before extra after, rs = before ++ after → (∀ r ∈ extra, ¬ r.Covers p.url) →
      p.check (before ++ extra ++ after) = answer) ∧
    ∀ r : Resource, ¬ r.Covers p.url ↔ r.disabled = true ∨ p.url.hostText? ≠ some r.hostname ∨
      (∃ e, Route.compile r.urlPattern = .error e) ∨
      ∃ route, Route.compile r.urlPattern = .ok route ∧ route.isMatch p.url.pathText = false := by
  intro p rs answer
  have hanswer : answer = p.check rs := congrArg Matcher.check (afterAll_eq m updates)
  rw [hanswer]
  refine ⟨rfl, Page.check_eq_notFound_iff, fun _ => Page.check_eq_wellKnown_iff,
    fun _ _ => Page.check_eq_matched_iff, Page.check_eq_noMatching_iff, ?_,
    fun _ => Resource.not_covers_iff⟩
  intro before extra after hrs hextra
  rw [hrs, Page.check_insert hextra]

end Harvest
