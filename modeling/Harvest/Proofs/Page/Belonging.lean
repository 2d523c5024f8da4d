import Harvest.Executor
/-!
Which pages belong to a resource. A job is made of a request exactly if its address belongs to the
resource, and a page is matched exactly if its address does and no other page stands in for it; so
the page of a job can fail its check only where another page stands in.
-/

namespace Harvest

/-- Whether the pages of an address belong to a resource. -/
structure Resource.Covers (r : Resource) (u : Url) : Prop where
  enabled : r.disabled = false
  host : u.hostText? = some r.hostname
  path : ∃ route, Route.compile r.urlPattern = .ok route ∧ route.isMatch u.pathText

theorem Route.isMatch_iff {route : Route} {path : String} :
    route.isMatch path ↔ ∃ groups, route.captures? path = some groups := by
  rw [← Option.isSome_iff_exists, captures?, Option.isSome_map]
  rfl

/-- A job is made of just the requests whose addresses belong to the resource. -/
theorem Job.make_eq_ok_iff {p : Job.Parameters} {r : Resource} {autonomy : Autonomy} {job : Job} :
    Job.make p r autonomy = .ok job ↔
      ∃ u, Url.parse p.url = .ok u ∧ r.Covers u ∧ job = ⟨p, r, autonomy, u⟩ := by
  constructor
  · intro h
    unfold Job.make at h
    split at h
    · cases h
    · rename_i u hu
      split at h
      · cases h
      · rename_i hd
        split at h
        · cases h
        · rename_i hhost
          split at h
          · cases h
          · rename_i route hroute
            split at h
            · rename_i hm
              exact ⟨u, hu, ⟨by simpa using hd, by simpa using hhost, route, hroute, hm⟩,
                (Except.ok.inj h).symm⟩
            · cases h
  · rintro ⟨u, hu, ⟨hd, hhost, route, hroute, hm⟩, rfl⟩
    simp [Job.make, hu, hd, hhost, hroute, hm]

/-- The variables of an address are read if its path matches. -/
theorem Resource.exists_readVariables_iff {r : Resource} {u : Url} :
    (∃ bindings, r.readVariables u = .ok (some bindings)) ↔
      ∃ route, Route.compile r.urlPattern = .ok route ∧ route.isMatch u.pathText := by
  unfold readVariables
  cases Route.compile r.urlPattern with
  | error e => simp
  | ok route =>
    constructor
    · rintro ⟨bindings, h⟩
      obtain ⟨groups, hgroups, -⟩ := Option.map_eq_some_iff.1 (Except.ok.inj h)
      exact ⟨route, rfl, Route.isMatch_iff.2 ⟨groups, hgroups⟩⟩
    · rintro ⟨_, ⟨⟩, hm⟩
      obtain ⟨groups, hgroups⟩ := Route.isMatch_iff.1 hm
      exact ⟨r.variablesFrom u groups, by simp [hgroups]⟩

namespace Page

variable {p : Page} {r : Resource} {host : String}

theorem exists_variablesFor_iff {u : Url} : (∃ bindings, variablesFor? host u r = some bindings) ↔
    r.disabled = false ∧ r.hostname = host ∧
      ∃ bindings, r.readVariables u = .ok (some bindings) := by
  unfold variablesFor?
  split
  · rename_i h
    refine iff_of_false (by simp) fun ⟨hd, hhost, _⟩ => ?_
    simp [hd, hhost] at h
  · rename_i h
    obtain ⟨hd, hhost⟩ : r.disabled = false ∧ r.hostname = host := by simpa using h
    cases r.readVariables u with
    | ok bindings => simp [hd, hhost]
    | error e => simp

/-- A resource is looked at once the page has a host and no other page stands in for it. -/
theorem check_single (hhost : p.url.hostText? = some host)
    (hpage : p.document.wellKnownResponse? = none) : p.check [r] =
      match variablesFor? host p.url r with
      | some bindings => .matched r bindings
      | none => .fail .noMatchingResource := by
  unfold check
  rw [hhost, hpage]
  cases h : variablesFor? host p.url r <;> simp [h]

theorem exists_matched_of_covers (hpage : p.document.wellKnownResponse? = none)
    (h : r.Covers p.url) : ∃ bindings, p.check [r] = .matched r bindings := by
  obtain ⟨bindings, hb⟩ := exists_variablesFor_iff.2
    ⟨h.enabled, rfl, Resource.exists_readVariables_iff.2 h.path⟩
  exact ⟨bindings, by rw [check_single h.host hpage, hb]⟩

theorem covers_of_matched {found : Resource} {bindings : Members}
    (h : p.check [r] = .matched found bindings) :
    found = r ∧ p.document.wellKnownResponse? = none ∧ r.Covers p.url := by
  cases hhost : p.url.hostText? with
  | none => simp [check, hhost] at h
  | some host =>
    cases hpage : p.document.wellKnownResponse? with
    | some response => simp [check, hhost, hpage] at h
    | none =>
      rw [check_single hhost hpage] at h
      split at h
      · rename_i b hb
        cases h
        obtain ⟨hd, rfl, hread⟩ := exists_variablesFor_iff.1 ⟨_, hb⟩
        exact ⟨rfl, rfl, hd, hhost, Resource.exists_readVariables_iff.1 hread⟩
      · cases h

/-- A page of the resource fails its check only where another page stands in for it. -/
theorem check_of_covers (h : r.Covers p.url) :
    (p.document.wellKnownResponse? = none ∧ ∃ bindings, p.check [r] = .matched r bindings) ∨
    p.check [r] = .fail (.wellKnownResponse .cloudflare) := by
  cases hpage : p.document.wellKnownResponse? with
  | none => exact .inl ⟨rfl, exists_matched_of_covers hpage h⟩
  | some response =>
    cases response
    exact .inr (by simp [check, h.host, hpage])

end Page

/-- The executor gives the page of a job, or says that another page stands in for it. -/
theorem Executor.result_of_covers {job : Job} (h : job.resource.Covers job.url) (html : String) :
    (∃ data, result job (.ok html) = .ofPage data) ∨
    result job (.ok html) = .ofFailure job.resource.id job.source
      ("Page check failed: " ++ (Page.NoMatch.wellKnownResponse .cloudflare).text) := by
  let page : Page := ⟨job.url, Html.Document.parse html⟩
  rcases Page.check_of_covers (p := page) h with ⟨-, bindings, hmatched⟩ | hfail
  · exact .inl ⟨page.scrape job.resource bindings job.source, by rw [result, hmatched]⟩
  · exact .inr (by rw [result, hfail])

/-- Jobs are made of just the requests whose pages are matched, whatever the document is unless it
    stands in for the page; and the page of a job fails its check only if one does. -/
theorem made_iff_matched {d : Html.Document} (h : d.wellKnownResponse? = none)
    (p : Job.Parameters) (r : Resource) (autonomy : Autonomy) :
    ((∃ job, Job.make p r autonomy = .ok job) ↔ ∃ u found bindings,
      Url.parse p.url = .ok u ∧ Page.check ⟨u, d⟩ [r] = .matched found bindings) ∧
    (∀ (route : Route) (path : String),
      route.isMatch path ↔ ∃ groups, route.captures? path = some groups) ∧
    (∀ job, Job.make p r autonomy = .ok job →
      (∀ fetched : Html.Document,
        (fetched.wellKnownResponse? = none ∧ ∃ bindings,
          Page.check ⟨job.url, fetched⟩ [job.resource] = .matched job.resource bindings) ∨
        Page.check ⟨job.url, fetched⟩ [job.resource] = .fail (.wellKnownResponse .cloudflare)) ∧
      (∀ html, (∃ data, Executor.result job (.ok html) = .ofPage data) ∨
        Executor.result job (.ok html) = .ofFailure job.resource.id job.source
          ("Page check failed: " ++ (Page.NoMatch.wellKnownResponse .cloudflare).text))) := by
  refine ⟨⟨?_, ?_⟩, fun _ _ => Route.isMatch_iff, ?_⟩
  · rintro ⟨job, hjob⟩
    obtain ⟨u, hu, hcovers, -⟩ := Job.make_eq_ok_iff.1 hjob
    obtain ⟨bindings, hb⟩ := Page.exists_matched_of_covers (p := ⟨u, d⟩) h hcovers
    exact ⟨u, r, bindings, hu, hb⟩
  · rintro ⟨u, found, bindings, hu, hb⟩
    obtain ⟨-, -, hcovers⟩ := Page.covers_of_matched hb
    exact ⟨_, Job.make_eq_ok_iff.2 ⟨u, hu, hcovers, rfl⟩⟩
  · rintro job hjob
    obtain ⟨u, -, hcovers, rfl⟩ := Job.make_eq_ok_iff.1 hjob
    exact ⟨fun fetched => Page.check_of_covers (p := ⟨u, fetched⟩) hcovers,
      Executor.result_of_covers hcovers⟩

/-- A document whose places are in the order in which they were made is no challenge if none of
    them is selected. -/
theorem Html.Document.wellKnownResponse?_eq_none {d : Html.Document}
    (hlost : Html.placesBelowLost d.nodes.length d.lost = [])
    (hmade : d.places.Pairwise fun p q => p.tag.made ≤ q.tag.made)
    (hselected : challengeSignatures.all fun c =>
      !((Css.Selector.parse? c).map fun s => d.places.any s.selects).getD false) :
    d.wellKnownResponse? = none := by
  have hhas (c : String) : d.has c =
      ((Css.Selector.parse? c).map fun s => d.places.any s.selects).getD false := by
    -- sorting is by well-founded recursion, which is not computed
    rw [has, elements_eq_places hlost hmade]
    cases Css.Selector.parse? c <;> rfl
  have hnone : challengeSignatures.any d.has = false := by
    simpa [hhas] using hselected
  simp [wellKnownResponse?, hnone]

/-! A request for a page with a script of its own, with a slash at the end of its address -/

def scriptedPage : Html.Document where
  nodes := [.element ⟨.html, "html", [], 0⟩
    [.element ⟨.html, "script", [⟨"src", "/item.js", false⟩], 1⟩ []]]

def itemPages : Resource where
  id := "items"
  hostname := "[::1]"
  urlPattern := "/items"
  inputs := []
  pageRules := []
  waitFor := none
  descriptors := []
  hash := "h"
  disabled := false

def itemRequest : Job.Parameters :=
  ⟨"j", "items", "http://[::1]/items/", ⟨0, 0, 0⟩, ⟨0, 0, 0⟩⟩

theorem no_challenge_scripted : scriptedPage.wellKnownResponse? = none :=
  Html.Document.wellKnownResponse?_eq_none rfl (by decide +kernel) (by decide +kernel)

theorem exists_item_job : ∃ job, Job.make itemRequest itemPages .active = .ok job := by
  have hmade : (Job.make itemRequest itemPages .active).toOption.isSome = true := by decide +kernel
  obtain ⟨job, hjob⟩ := Option.isSome_iff_exists.1 hmade
  cases h : Job.make itemRequest itemPages .active with
  | error e => simp [h, Except.toOption] at hjob
  | ok job' => exact ⟨job', rfl⟩

theorem item_matched : scriptedPage.wellKnownResponse? = none ∧
    ∃ job u found bindings, Job.make itemRequest itemPages .active = .ok job ∧
      Url.parse itemRequest.url = .ok u ∧
      Page.check ⟨u, scriptedPage⟩ [itemPages] = .matched found bindings := by
  obtain ⟨hmade, -, -⟩ := made_iff_matched no_challenge_scripted itemRequest itemPages .active
  obtain ⟨job, hjob⟩ := exists_item_job
  obtain ⟨u, found, bindings, hu, hmatched⟩ := hmade.1 ⟨job, hjob⟩
  exact ⟨no_challenge_scripted, job, u, found, bindings, hjob, hu, hmatched⟩

end Harvest
