import Harvest.Proofs.Sync.Resumption
/-!
Errors and pauses. Every error of an entry is counted, and a pause lasts as long as the number of
errors at its beginning says: a multiple of a unit, up to a cap. Where this is more than a delay can
be, the pause has no end.
-/

namespace Harvest.Sync.Client

/-- What becomes of a pause under a token, which is to end at a moment. -/
structure Resumption (c : Client) (id : EntryId) (token : Token) (due : Nat) (acts : List Act) :
    Prop where
  /-- The entry is paused until it is started or halted. If nothing is late, the moment has not
      passed. -/
  paused : ∀ past, past <+: acts → c.Without (·.Disturbs id) past →
    (c.afterAll past).Paused id token ∧
      (c.Without Delays past → (c.afterAll past).now.clock ≤ due)
  /-- The end of the pause starts the entry, and it comes once. Unless the entry was started or
      halted before, it does not come too early, and if nothing is late, it comes in time. -/
  restarts : ∀ past a post, acts = past ++ a :: post → a.Resumes id token →
    (c.afterAll past).Starts id a ∧ (∀ b ∈ post, ¬ b.Resumes id token) ∧
      (c.Without (·.Disturbs id) past → due ≤ (c.afterAll past).now.clock ∧
        (c.Without Delays past → (c.afterAll past).now.clock = due))
  /-- When the moment has passed, and nothing was late, the end of the pause has come in time, unless
      another act has started the entry or halted it before. -/
  ends : c.Without Delays acts → due < (c.afterAll acts).now.clock →
    ∃ past a post, acts = past ++ a :: post ∧ c.Without (·.Disturbs id) past ∧
      (a.Resumes id token ∧ (c.afterAll past).now.clock = due ∨
        (c.afterAll past).Disturbs id a ∧ ¬ a.Resumes id token)

/-- What becomes of a pause without an end. -/
structure Stranded (c : Client) (id : EntryId) (token : Token) (acts : List Act) : Prop where
  paused : ∀ past, past <+: acts → c.Without (·.Disturbs id) past →
    (c.afterAll past).Paused id token
  endless : ∀ a ∈ acts, ¬ a.Resumes id token

section

variable {c : Client} {id : EntryId} {token : Token} {acts : List Act}

theorem paused_afterAll_of_calm (h : Reachable c) (hp : c.Paused id token)
    (allows : c.Allows acts) (calm : c.Without (·.Disturbs id) acts) :
    (c.afterAll acts).Paused id token := by
  induction acts generalizing c with
  | nil => exact hp
  | cons a acts ih =>
    exact ih (h.act allows.1) (hp.after h.sound allows.1 calm.1) allows.2 calm.2

theorem owned_of_paused (h : c.Sound) (hp : c.Paused id token) : c.issued[token]? = some id := by
  obtain ⟨x, hx, -, hk⟩ := hp
  obtain ⟨e, he, rfl⟩ := Option.map_eq_some_iff.1 hx
  exact h.issued_of_held he (.inr hk)

theorem stranded (h : Reachable c) (hp : c.Paused id token) (hn : ¬ c.Awaited id token)
    (allows : c.Allows acts) : Stranded c id token acts where
  paused _ hpast calm := paused_afterAll_of_calm h hp (allows_past allows hpast) calm
  endless := not_resumes_of_not_awaited h (owned_of_paused h.sound hp) hn allows

/-- The task that ends a pause waits for its moment, which has come when it goes on. -/
theorem due_le_of_resumes (h : c.Sound) {due : Nat} (he : c.Ends id token due) {a : Act}
    (p : c.Permits a) (ha : a.Resumes id token) : due ≤ c.now.clock := by
  obtain ⟨k, moment, name, next, rfl⟩ := ha.eq_wake
  have htimer : ⟨.resume, id, token⟩ ∈ Task.timers ⟨k, .resume id token moment name, next⟩ :=
    List.mem_cons_self
  cases he with
  | turn ht =>
    have heq := h.eq_of_token p.1 ht htimer List.mem_cons_self rfl
    cases heq
  | wait ht =>
    have heq := h.eq_of_token p.1 ht htimer List.mem_cons_self rfl
    cases heq
    exact p.2

theorem resumption (h : Reachable c) (hp : c.Paused id token) {due : Nat}
    (he : c.Ends id token due) (hle : c.now.clock ≤ due) (allows : c.Allows acts) :
    Resumption c id token due acts := by
  have hrestarts : ∀ past a post, acts = past ++ a :: post → a.Resumes id token →
      (c.afterAll past).Starts id a ∧ (∀ b ∈ post, ¬ b.Resumes id token) ∧
        (c.Without (·.Disturbs id) past → due ≤ (c.afterAll past).now.clock ∧
          (c.Without Delays past → (c.afterAll past).now.clock = due)) := by
    intro past a post heq ha
    obtain ⟨hreach, p, hpost⟩ := h.past allows heq
    have hpast : c.Allows past := allows_past allows ⟨a :: post, heq.symm⟩
    have hspends : Spends id ((c.afterAll past).Halts id a ∨ (c.afterAll past).Starts id a)
        (c.afterAll past) ((c.afterAll past).after a) := spends_after hreach.sound p
    have hown := hspends.issued token id (hreach.sound.owned _ (awaited_of_resumes p ha))
    refine ⟨starts_of_resumes ha, ?_, fun calm => ?_⟩
    · exact not_resumes_of_not_awaited (hreach.act p) hown
        (not_awaited_after_resumes hreach.sound p ha) hpost
    · obtain ⟨-, later, hlater, he, hin⟩ := pause_afterAll h hp he hpast calm
      have hdue := due_le_of_resumes hreach.sound he p ha
      refine ⟨Nat.le_trans hlater hdue, fun punctual => ?_⟩
      obtain ⟨rfl, hclock⟩ := hin hle punctual
      exact Nat.le_antisymm hclock hdue
  refine ⟨fun past hpast calm => ?_, hrestarts, fun punctual hlt => ?_⟩
  · obtain ⟨hp, _, -, -, hin⟩ := pause_afterAll h hp he (allows_past allows hpast) calm
    exact ⟨hp, fun punctual => (hin hle punctual).2⟩
  -- without a start or a stop the moment would not have passed; so there is a first one
  · have hdisturbed : ¬ c.Without (·.Disturbs id) acts := fun calm => by
      obtain ⟨-, _, -, -, hin⟩ := pause_afterAll h hp he allows calm
      exact Nat.not_lt.2 (hin hle punctual).2 hlt
    obtain ⟨past, a, post, heq, calm, ha⟩ := exists_first hdisturbed
    refine ⟨past, a, post, heq, calm, ?_⟩
    by_cases hr : a.Resumes id token
    · have hpast : c.Without Delays past := by
        rw [heq] at punctual
        exact ((without_append ..).1 punctual).1
      exact .inl ⟨hr, ((hrestarts past a post heq hr).2.2 calm).2 hpast⟩
    · exact .inr ⟨ha, hr⟩

end

/-- Whether the errors of an act pause an entry: it gives a submission up, or a poll fails and the
    new number is a multiple of the threshold. -/
def BacksOff (c : Client) (id : EntryId) (a : Act) : Prop :=
  id ∈ c.exhausted a ∨
    id ∈ c.failedPolls a ∧ (c.after a).errors id % c.settings.pauseThreshold = 0

section

variable {c : Client} {id : EntryId} {a : Act}

theorem paused_of_backsOff (h : Reachable c) (p : c.Permits a) (ha : c.BacksOff id a) :
    ∃ x, c.account? id = some x ∧ (c.after a).errors id = x.errors + 1 ∧
      (c.after a).Paused id c.issued.length := by
  have hcounts : c.Counts id a := counts_after h p
  have hpaused : ∀ x : Account, c.account? id = some x →
      (c.after a).account? id = some (x.failed.retimed (some (.resume, c.issued.length))) →
      ∃ x, c.account? id = some x ∧ (c.after a).errors id = x.errors + 1 ∧
        (c.after a).Paused id c.issued.length := by
    intro x hx hy
    refine ⟨x, hx, ?_, _, hy, rfl, rfl⟩
    rw [errors, hy]
    rfl
  rcases ha with ha | ⟨ha, hcount⟩
  · obtain ⟨x, hx, hy⟩ := hcounts.submissions ha
    exact hpaused x hx hy
  · obtain ⟨x, hx, hy⟩ := hcounts.polls ha
    have herrors : (c.after a).errors id = x.errors + 1 := by
      rw [errors, hy]
      split <;> simp [Account.failed]
    rw [herrors] at hcount
    rw [if_pos hcount] at hy
    exact hpaused x hx hy

theorem fault_of_backsOff (h : Reachable c) (p : c.Permits a) (ha : c.BacksOff id a) :
    ∃ t s, a = .wake t s ∧ c.fault? t s = some id ∧ c.Pauses t id := by
  have hfaults : id ∈ c.faults a := List.mem_append.2 (ha.symm.imp_left And.left)
  obtain ⟨t, s, rfl⟩ := exists_wake_of_mem hfaults
  obtain ⟨x, hx, herrors, -⟩ := paused_of_backsOff h p ha
  refine ⟨t, s, rfl, fault?_of_mem hfaults, ?_⟩
  rcases ha with ha | ⟨ha, hcount⟩
  · exact pauses_of_exhausted ha
  · rw [herrors] at hcount
    exact (pauses_of_failedPolls ha hx).2 hcount

end

/-- A pause, at the act that begins it. -/
structure Backoff (c : Client) (id : EntryId) (a : Act) (acts : List Act) : Prop where
  paused : (c.after a).Paused id c.issued.length
  resumes : c.settings.backoffUnit * min ((c.after a).errors id) c.settings.backoffCap <
      Settings.delayLimit →
    Resumption (c.after a) id c.issued.length (c.now.clock +
      c.settings.backoffUnit * min ((c.after a).errors id) c.settings.backoffCap) acts
  stranded : Settings.delayLimit ≤
      c.settings.backoffUnit * min ((c.after a).errors id) c.settings.backoffCap →
    Stranded (c.after a) id c.issued.length acts

theorem backoff {c : Client} {id : EntryId} {a : Act} {acts : List Act} (h : Reachable c)
    (p : c.Permits a) (allows : (c.after a).Allows acts) (ha : c.BacksOff id a) :
    Backoff c id a acts := by
  obtain ⟨x, hx, herrors, hp⟩ := paused_of_backsOff h p ha
  obtain ⟨t, s, rfl, hf, hpauses⟩ := fault_of_backsOff h p ha
  have hnext := h.act p
  refine ⟨hp, fun hlt => ?_, fun hle => ?_⟩
  · rw [herrors] at hlt ⊢
    have hdelay : c.settings.resumeDelay? (x.errors + 1) =
        some (c.settings.backoffUnit * min (x.errors + 1) c.settings.backoffCap) := if_pos hlt
    have he := ends_of_fault h.sound p hf hpauses hx hdelay
    refine resumption hnext hp he ?_ allows
    change (c.wake t s).now.clock ≤ _
    rw [now_wake]
    exact Nat.le_add_right _ _
  · refine stranded hnext hp (fun hawaited => ?_) allows
    cases goes_after h.sound h.singles p hp with
    | on hold =>
      exact Nat.lt_irrefl _ (List.getElem?_eq_some_iff.1 (owned_of_paused h.sound hold)).1
    | @begins y _ hy hiff =>
      have hy' : y.errors = x.errors + 1 := by
        rw [← herrors, errors, hy]
        rfl
      have hnone : c.settings.resumeDelay? y.errors = none := by
        rw [hy']
        rw [herrors] at hle
        exact if_neg (Nat.not_lt.2 hle)
      simpa [hnone] using hiff.1 hawaited

/-- At all times the number of errors of an entry is that of its polls that failed and of the
    submissions to it that were given up since it was registered. A poll that fails pauses it,
    exactly if the new number is a multiple of the threshold, and a submission that is given up does
    so always. A pause is to last as long as the new number says, unless that is more than a delay
    can be. -/
theorem errors_accounted {settings : Settings} {allowed : Server → Except Error (List String)}
    {protection : Fetch.Protection} {now : Moment} {c : Client}
    (hc : Client.new settings allowed protection now = .ok c) {acts : List Act}
    (allows : c.Allows acts) (id : EntryId) :
    (c.afterAll acts).errors id =
      (c.along failedPolls acts).count id + (c.along exhausted acts).count id ∧
    ∀ past a post, acts = past ++ a :: post →
      (c.afterAll past).Counts id a ∧
        ((c.afterAll past).BacksOff id a → Backoff (c.afterAll past) id a post) := by
  have h := Reachable.new hc
  refine ⟨?_, fun past a post heq => ?_⟩
  · have herrors : c.errors id = 0 := by
      obtain ⟨rfl, -, -⟩ := new_eq hc
      rfl
    rw [errors_afterAll h allows, herrors, Nat.zero_add]
  · obtain ⟨hreach, p, hpost⟩ := h.past allows heq
    exact ⟨counts_after hreach p, backoff hreach p hpost⟩

/-- The acts from the first pause of a server up to its end. -/
def toRestart : List Act :=
  [.wake ⟨1, .turn, [.beginTimer 0 0]⟩ .go,
    .wake ⟨2, .turn, [.beginPause 0 1 1 nowhere.name]⟩ .go, .elapse ⟨1, ⟨0, 0, 0⟩⟩,
    .wake ⟨2, .resume 0 1 1 nowhere.name, []⟩ .go]

theorem allows_toRestart : (blank (strict 1)).Allows (toFirstPoll ++ refused :: toRestart) := by
  refine ⟨trivial, trivial, ⟨.head _, trivial⟩, ⟨.tail _ (.head _), trivial⟩, ⟨.head _, trivial⟩,
    ⟨.head _, trivial⟩, Nat.zero_le _, ⟨.tail _ (.head _), Nat.le_refl _⟩, trivial⟩

theorem punctual_toRestart :
    ((blank (strict 1)).afterAll (toFirstPoll ++ [refused])).Without Delays toRestart := by
  refine ⟨not_false, not_false, ?_, not_false, trivial⟩
  rintro ⟨t, ht, due, hdue, hlt⟩
  rcases List.mem_cons.1 ht with rfl | ht
  · cases hdue
    exact absurd hlt (by decide)
  · obtain rfl := List.mem_singleton.1 ht
    cases hdue
    exact absurd hlt (by decide)

/-- The first error of a server pauses it for a unit, at the end of which it is started. -/
theorem first_error_accounted :
    let c := (blank (strict 1)).afterAll (toFirstPoll ++ [refused])
    c.errors 0 = 1 ∧ Resumption c 0 1 1 toRestart ∧ c.Without Delays toRestart ∧
      ∃ past a, toRestart = past ++ [a] ∧ a.Resumes 0 1 ∧ (c.afterAll past).now.clock = 1 := by
  intro c
  have hnew : Client.new (strict 1) (fun _ => .ok []) .any ⟨0, ⟨0, 0, 0⟩⟩ =
      .ok (blank (strict 1)) := rfl
  have hbacks : ((blank (strict 1)).afterAll toFirstPoll).BacksOff 0 refused :=
    .inr ⟨List.mem_cons_self, rfl⟩
  obtain ⟨-, hacts⟩ := errors_accounted hnew allows_toRestart 0
  obtain ⟨-, hpauses⟩ := hacts toFirstPoll refused toRestart rfl
  have hresumption : Resumption c 0 1 1 toRestart := (hpauses hbacks).resumes (by decide)
  have hend : Act.Resumes 0 1 (.wake ⟨2, .resume 0 1 1 nowhere.name, []⟩ .go) := ⟨rfl, rfl⟩
  have hfirst : (blank (strict 1)).Allows (toFirstPoll ++ [refused]) :=
    allows_past allows_toRestart ⟨toRestart, rfl⟩
  refine ⟨?_, hresumption, punctual_toRestart, toRestart.take 3, _, rfl, hend, ?_⟩
  · rw [(errors_accounted hnew hfirst 0).1]
    rfl
  · rfl

end Harvest.Sync.Client
