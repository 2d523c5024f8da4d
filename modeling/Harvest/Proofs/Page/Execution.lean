import Harvest.Command.Work
import Harvest.Interpreter
import Harvest.Proofs.Page.Belonging
/-!
The results of jobs. A job whose page comes in time is a success unless another page stands in for
it, also where the rules of the resource fail on it; and what is harvested then is what a command
harvests from the same page.
-/

namespace Harvest

open Page (NoMatch)

theorem Job.covers_of_make {p : Job.Parameters} {r : Resource} {autonomy : Autonomy} {job : Job}
    (h : Job.make p r autonomy = .ok job) :
    Url.parse p.url = .ok job.url ∧ job.resource.Covers job.url := by
  obtain ⟨u, hu, hcovers, rfl⟩ := Job.make_eq_ok_iff.1 h
  exact ⟨hu, hcovers⟩

/-- The page that a fetch for a job brings. -/
def Job.page (job : Job) (html : String) : Page := ⟨job.url, Html.Document.parse html⟩

/-- Whether a page holds what its resource has to say about a document: the payload, or no payload
    and the error behind the warnings. -/
def ScrapedPage.Holds (page : ScrapedPage) (r : Resource) (d : Html.Document) : Prop :=
  match (Interpreter.new r).parse d with
  | (.ok payload, i) => page.payload = payload ∧ page.warnings = i.warnings
  | (.error e, i) => page.payload = [] ∧ page.warnings = i.warnings ++ [e.message]

theorem Page.scrape_holds (p : Page) (r : Resource) (bindings : Members) (source : Job.Source) :
    (p.scrape r bindings source).Holds r p.document := by
  unfold ScrapedPage.Holds scrape
  rw [Interpreter.parse_eq]
  dsimp only [Interpreter.new]
  cases (r.extract p.document).payload with
  | ok payload => exact ⟨rfl, rfl⟩
  | error e => exact ⟨rfl, rfl⟩

section Scrape

variable {p : Page} {r : Resource} {bindings : Members} {source : Job.Source}

theorem Page.scrape_resourceId : (p.scrape r bindings source).resourceId = r.id := by
  unfold scrape
  dsimp only
  split <;> rfl

theorem Page.scrape_bindings : (p.scrape r bindings source).bindings = bindings := by
  unfold scrape
  dsimp only
  split <;> rfl

theorem Page.scrape_source : (p.scrape r bindings source).source = source := by
  unfold scrape
  dsimp only
  split <;> rfl

/-- How a page came to be harvested shows nowhere else. -/
theorem Page.scrape_withSource (other : Job.Source) :
    { p.scrape r bindings source with source := other } = p.scrape r bindings other := by
  unfold scrape
  dsimp only
  split <;> rfl

end Scrape

/-- The variables of a page that is matched are those of its address. -/
theorem Page.readVariables_of_matched {p : Page} {r found : Resource} {bindings : Members}
    (h : p.check [r] = .matched found bindings) :
    r.readVariables p.url = .ok (some bindings) := by
  obtain ⟨rfl, hpage, hcovers⟩ := covers_of_matched h
  rw [check_single hcovers.host hpage] at h
  cases hb : variablesFor? found.hostname p.url found with
  | none => simp [hb] at h
  | some b =>
    obtain rfl : b = bindings := by simpa [hb] using h
    unfold variablesFor? at hb
    rw [if_neg (by simp [hcovers.enabled])] at hb
    cases hread : found.readVariables p.url with
    | error e => simp [hread] at hb
    | ok read => simpa [hread] using hb

namespace Executor

variable {job : Job} {timeout delay : Nat} {fetched : Except Error String} {html : String}

/-- What is told of a job whose page another one stands in for. -/
def standInText : String := "Page check failed: well-known response: cloudflare"

theorem result_of_late (h : timeout < delay) :
    result job (withinTime timeout delay fetched) =
      .ofFailure job.resource.id job.source (Error.timeout timeout).message := by
  rw [withinTime, if_neg (Nat.not_le.2 h)]
  rfl

theorem withinTime_of_le (h : delay ≤ timeout) : withinTime timeout delay fetched = fetched :=
  if_pos h

theorem result_of_challenge (hcovers : job.resource.Covers job.url)
    (h : (Html.Document.parse html).wellKnownResponse? ≠ none) :
    result job (.ok html) = .ofFailure job.resource.id job.source standInText := by
  rcases Page.check_of_covers (p := job.page html) hcovers with ⟨hnone, -⟩ | hfail
  · exact absurd hnone h
  · unfold Job.page at hfail
    rw [result, hfail]
    rfl

/-- The page of a job that is no other page is harvested with the variables of its address. -/
theorem result_of_page (hcovers : job.resource.Covers job.url)
    (h : (Html.Document.parse html).wellKnownResponse? = none) :
    ∃ bindings,
      (job.page html).check [job.resource] = .matched job.resource bindings ∧
      result job (.ok html) =
        .ofPage ((job.page html).scrape job.resource bindings job.source) := by
  obtain ⟨bindings, hmatched⟩ := Page.exists_matched_of_covers (p := job.page html) h hcovers
  refine ⟨bindings, hmatched, ?_⟩
  unfold Job.page at hmatched
  rw [result, hmatched]
  rfl

/-- The ways in which the fetch for a job may turn out, and what is made of each. -/
inductive Comes (job : Job) (timeout delay : Nat) (fetched : Except Error String) :
    JobResult → Prop
  | late (h : timeout < delay) :
    Comes job timeout delay fetched
      (.ofFailure job.resource.id job.source (Error.timeout timeout).message)
  | failed (hle : delay ≤ timeout) {e : Error} (h : fetched = .error e) :
    Comes job timeout delay fetched (.ofFailure job.resource.id job.source e.message)
  | challenged (hle : delay ≤ timeout) {html : String} (h : fetched = .ok html)
      (hpage : (Html.Document.parse html).wellKnownResponse? ≠ none) :
    Comes job timeout delay fetched (.ofFailure job.resource.id job.source standInText)
  | harvested (hle : delay ≤ timeout) {html : String} (h : fetched = .ok html)
      (hpage : (Html.Document.parse html).wellKnownResponse? = none) {bindings : Members}
      (hmatched : (job.page html).check [job.resource] = .matched job.resource bindings) :
    Comes job timeout delay fetched
      (.ofPage ((job.page html).scrape job.resource bindings job.source))

theorem comes_execute (hcovers : job.resource.Covers job.url) (timeout delay : Nat)
    (fetched : Except Error String) :
    Comes job timeout delay fetched (execute timeout job delay fetched).result := by
  rw [execute]
  rcases Nat.lt_or_ge timeout delay with hlate | hle
  · rw [result_of_late hlate]
    exact .late hlate
  · rw [withinTime_of_le hle]
    cases fetched with
    | error e => exact .failed hle rfl
    | ok html =>
      by_cases hpage : (Html.Document.parse html).wellKnownResponse? = none
      · obtain ⟨bindings, hmatched, hresult⟩ := result_of_page hcovers hpage
        rw [hresult]
        exact .harvested hle rfl hpage hmatched
      · rw [result_of_challenge hcovers hpage]
        exact .challenged hle rfl hpage

variable {r : JobResult}

theorem Comes.identity (h : Comes job timeout delay fetched r) :
    r.resourceId = job.resource.id ∧ r.source = job.source := by
  cases h with
  | late | failed | challenged => exact ⟨rfl, rfl⟩
  | harvested => exact ⟨Page.scrape_resourceId, Page.scrape_source⟩

theorem Comes.isSuccess_iff (h : Comes job timeout delay fetched r) :
    r.isSuccess ↔ delay ≤ timeout ∧ ∃ html, fetched = .ok html ∧
      (Html.Document.parse html).wellKnownResponse? = none := by
  cases h with
  | late h => exact iff_of_false Bool.false_ne_true (by omega)
  | failed hle h => exact iff_of_false Bool.false_ne_true (by simp [h])
  | challenged hle h hpage =>
    refine iff_of_false Bool.false_ne_true ?_
    rintro ⟨-, html, hok, hnone⟩
    obtain rfl := Except.ok.inj (h.symm.trans hok)
    exact hpage hnone
  | harvested hle h hpage => exact iff_of_true rfl ⟨hle, _, h, hpage⟩

/-- A success is the page that was fetched: with the variables of the address of the job and with
    what the rules make of the document, and a command harvests the same from it. -/
theorem Comes.page (hle : Comes job timeout delay fetched r) {flag : Bool} {page : ScrapedPage}
    (h : r = .success flag page) :
    flag = true ∧ ∃ html, fetched = .ok html ∧
      job.resource.readVariables job.url = .ok (some page.bindings) ∧
      page.Holds job.resource (Html.Document.parse html) ∧
      ∀ url, Url.parse url = .ok job.url →
        Command.extractPage url html [job.resource] = .ok { page with source := .passive } := by
  cases hle with
  | late | failed | challenged => cases h
  | @harvested hle html hok hpage bindings hmatched =>
    cases h
    refine ⟨rfl, html, hok, ?_, Page.scrape_holds .., fun url hurl => ?_⟩
    · have hread := Page.readVariables_of_matched hmatched
      rw [Page.scrape_bindings]
      exact hread
    · have hparse : Page.parse url html = .ok (job.page html) := by
        rw [Page.parse, hurl]
        rfl
      rw [Command.extractPage, hparse]
      dsimp only
      rw [hmatched, Page.scrape_withSource]

/-- The result of every job that was made: whose it is, when it is a success, what the failures say
    and what a success holds. -/
theorem job_executed {p : Job.Parameters} {res : Resource} {autonomy : Autonomy}
    (hjob : Job.make p res autonomy = .ok job) (timeout delay : Nat)
    (fetched : Except Error String) :
    let r := (execute timeout job delay fetched).result
    (r.resourceId = job.resource.id ∧ r.source = .active job.id) ∧
    (r.isSuccess ↔ delay ≤ timeout ∧ ∃ html, fetched = .ok html ∧
      (Html.Document.parse html).wellKnownResponse? = none) ∧
    (timeout < delay → r = .ofFailure job.resource.id (.active job.id)
      ("Timed out after " ++ toString timeout ++ "ms")) ∧
    (∀ e, delay ≤ timeout → fetched = .error e →
      r = .ofFailure job.resource.id (.active job.id) e.message) ∧
    (∀ html, delay ≤ timeout → fetched = .ok html →
      (Html.Document.parse html).wellKnownResponse? ≠ none →
      r = .ofFailure job.resource.id (.active job.id)
        "Page check failed: well-known response: cloudflare") ∧
    Url.parse p.url = .ok job.url ∧
    ∀ flag page, r = .success flag page → flag = true ∧ ∃ html, fetched = .ok html ∧
      job.resource.readVariables job.url = .ok (some page.bindings) ∧
      page.Holds job.resource (Html.Document.parse html) ∧
      ∀ url, Url.parse url = .ok job.url →
        Command.extractPage url html [job.resource] = .ok { page with source := .passive } := by
  obtain ⟨hu, hcovers⟩ := Job.covers_of_make hjob
  have hcomes := comes_execute hcovers timeout delay fetched
  refine ⟨hcomes.identity, hcomes.isSuccess_iff, fun hlate => ?_, fun e hle he => ?_,
    fun html hle hok hpage => ?_, hu, fun flag page => hcomes.page⟩
  · exact result_of_late hlate
  · rw [execute, withinTime_of_le hle, he]
    rfl
  · rw [execute, withinTime_of_le hle, hok]
    exact result_of_challenge hcovers hpage

end Executor

/-- A job for a page that comes when its time is just up, with the text of a paragraph. -/
theorem Executor.item_executed : ∃ job, Job.make itemRequest itemPages .active = .ok job ∧
    (execute 10 job 10 (.ok "<p>An item")).result.isSuccess := by
  obtain ⟨job, hjob⟩ := exists_item_job
  obtain ⟨-, hsuccess, -⟩ := job_executed hjob 10 10 (.ok "<p>An item")
  exact ⟨job, hjob, hsuccess.2 ⟨Nat.le_refl 10, _, rfl,
    Html.Document.wellKnownResponse?_eq_none rfl (by decide +kernel) (by decide +kernel)⟩⟩

end Harvest
