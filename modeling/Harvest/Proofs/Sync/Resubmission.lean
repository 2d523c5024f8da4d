import Harvest.Proofs.Sync.Registry
import Harvest.Proofs.Sync.Submission
/-!
Submitting a result, from the call to its end, whatever else happens meanwhile. A result is posted
again only after the answer that its resource has changed and one forced refresh, at most as often
as the settings say, and only if all those answers come is its server paused.
-/

namespace Harvest.Sync

/-- The answer to a POST that an act brings. -/
def Act.answer? : Act → Option Http.Reply
  | .wake ⟨_, .submission .., _⟩ (.reply r) => some r
  | _ => none

/-- Whether an act brings the answer to a POST that the resource has changed. -/
def Act.refuses (a : Act) : Bool := a.answer?.any Http.isRefusal

namespace Client

/-! Acts of a submission, each with the client as it was before -/

/-- A forced refresh asks for the resources, and nothing else is to be seen of it. -/
inductive Asked (k : TaskId) (id : EntryId) : Client × Act → Prop
  | intro {c : Client} {next : List Next} {r : Http.Request} :
      c.shown (.wake ⟨k, .granted id true, next⟩ .go) =
        [(c.now.clock, .sent (.resources id) r)] →
      Asked k id (c, .wake ⟨k, .granted id true, next⟩ .go)

/-- A forced refresh for which there is no request. -/
inductive Unasked (k : TaskId) (id : EntryId) : Client × Act → Prop
  | intro {c : Client} {next : List Next} {e : Entry} {fault : Error} : c.entry? id = some e →
      Coordinator.resourcesRequest c.settings.userAgent e.server = .error fault →
      Unasked k id (c, .wake ⟨k, .granted id true, next⟩ .go)

/-- The end of a refresh that asked for the resources, whatever the answer is. -/
inductive Fetched (k : TaskId) (id : EntryId) : Client × Act → Prop
  | intro {c : Client} {server : Server} {r : Http.Request} {next : List Next}
      {reply : Http.Reply} :
      Fetched k id (c, .wake ⟨k, .resources id server r, next⟩ (.reply reply))

/-- The acts after a POST up to the next one: the resource has changed, and one forced refresh. -/
inductive Round (k : TaskId) (id : EntryId) : List (Client × Act) → Prop
  | asked {p q u : Client × Act} : p.2.refuses → Asked k id q → Fetched k id u →
      Round k id [p, q, u]
  | unasked {p u : Client × Act} : p.2.refuses → Unasked k id u → Round k id [p, u]

/-- What an act of a submission does, between those before and those after it. -/
structure Deed (s : Settings) (k : TaskId) (id : EntryId) (result : JobResult)
    (past : List (Client × Act)) (p : Client × Act) (rest : List (Client × Act)) (d : Client) :
    Prop where
  /-- At first and after every refresh the result is posted, or there is a reason against it and
      the submission ends. -/
  attempt : past = [] ∨ Unasked k id p ∨ Fetched k id p →
    (∃ r, posts p = [(id, r)] ∧ (p.1.after p.2).Submittable id result r) ∨
      posts p = [] ∧ (p.1.after p.2).Barred id result ∧ rest = [] ∧ d.Over k
  silent : past ≠ [] → ¬ Unasked k id p → ¬ Fetched k id p → posts p = []
  answered : ∀ r, p.2.answer? = some r → Http.isRefusal r = false → rest = [] ∧ d.Over k
  exhausted : p.2.refuses → (past ++ [p]).countP (·.2.refuses) = s.attempts →
    rest = [] ∧ d.Over k ∧ ∀ j, (p.1.after p.2).account? j = (p.1.account? j).map fun y =>
      if j = id then y.failed.retimed (some (.resume, p.1.issued.length)) else y
  spared : ¬ (p.2.refuses ∧ (past ++ [p]).countP (·.2.refuses) = s.attempts) →
    ∀ j, (p.1.after p.2).account? j = p.1.account? j

/-- What the acts of a submission do. -/
structure Submission (s : Settings) (k : TaskId) (id : EntryId) (result : JobResult)
    (own : List (Client × Act)) (d : Client) : Prop where
  few : (own.flatMap posts).length ≤ s.attempts
  deeds : ∀ past p rest, own = past ++ p :: rest → Deed s k id result past p rest d
  rounds : ∀ p ys q, p :: (ys ++ [q]) <:+: own → posts p ≠ [] → (∀ y ∈ ys, posts y = []) →
    posts q ≠ [] → Round k id (ys ++ [q])

section

variable {s : Settings} {k : TaskId} {id : EntryId} {result : JobResult}
  {past rest own : List (Client × Act)} {p : Client × Act} {c d : Client}

theorem Deed.mono (h : Deed s k id result past p rest c) (hover : c.Over k → d.Over k) :
    Deed s k id result past p rest d where
  attempt ha := (h.attempt ha).imp_right fun ⟨hp, hb, hr, ho⟩ => ⟨hp, hb, hr, hover ho⟩
  silent := h.silent
  answered r hr hf := (h.answered r hr hf).imp_right hover
  exhausted hr hn := (h.exhausted hr hn).imp_right fun ⟨ho, ha⟩ => ⟨hover ho, ha⟩
  spared := h.spared

/-- An act after which the submission was not over. -/
theorem Deed.extend (h : Deed s k id result past p rest c) (hover : ¬ c.Over k)
    (q : Client × Act) : Deed s k id result past p (rest ++ [q]) d where
  attempt ha := (h.attempt ha).imp_right fun ⟨_, _, _, ho⟩ => absurd ho hover
  silent := h.silent
  answered r hr hf := absurd (h.answered r hr hf).2 hover
  exhausted hr hn := absurd (h.exhausted hr hn).2.1 hover
  spared := h.spared

theorem Submission.mono (h : Submission s k id result own c) (hover : c.Over k → d.Over k) :
    Submission s k id result own d :=
  ⟨h.few, fun past p rest heq => (h.deeds past p rest heq).mono hover, h.rounds⟩

theorem Submission.concat (h : Submission s k id result own c) (hover : ¬ c.Over k)
    (few : ((own ++ [p]).flatMap posts).length ≤ s.attempts) (deed : Deed s k id result own p [] d)
    (round : ∀ q ys, q :: ys <:+ own → posts q ≠ [] → (∀ y ∈ ys, posts y = []) → posts p ≠ [] →
      Round k id (ys ++ [p])) : Submission s k id result (own ++ [p]) d := by
  refine ⟨few, fun past q rest heq => ?_, fun q ys u hin hq hys hu => ?_⟩
  · rcases List.eq_nil_or_concat rest with rfl | ⟨rest, x, rfl⟩
    · obtain ⟨rfl, hp⟩ := List.append_inj' heq rfl
      obtain rfl := List.singleton_inj.1 hp
      exact deed
    · rw [List.concat_eq_append] at heq ⊢
      have heq : own ++ [p] = (past ++ q :: rest) ++ [x] := by simpa using heq
      obtain ⟨rfl, hx⟩ := List.append_inj' heq rfl
      obtain rfl := List.singleton_inj.1 hx
      exact (h.deeds past q rest rfl).extend hover p
  -- two POSTs with none between them are among the acts before, or the new act is the second
  · rcases List.infix_concat_iff.1 hin with hin | hin
    · rcases List.suffix_concat_iff.1 hin with hnil | ⟨t, ht, hsuf⟩
      · cases hnil
      · have ht : (q :: ys) ++ [u] = t ++ [p] := ht
        obtain ⟨rfl, hx⟩ := List.append_inj' ht rfl
        obtain rfl := List.singleton_inj.1 hx
        exact round q ys hsuf hq hys hu
    · exact h.rounds q ys u hin hq hys hu

theorem Submission.single (few : (posts p).length ≤ s.attempts)
    (deed : Deed s k id result [] p [] d) : Submission s k id result [p] d := by
  refine ⟨by simpa using few, fun past q rest heq => ?_, fun q ys u hin => ?_⟩
  · cases past with
    | nil =>
      obtain ⟨rfl, rfl⟩ := List.cons.inj heq
      exact deed
    | cons x past => exact absurd (List.cons.inj heq).2 (by simp)
  · have hlen := hin.length_le
    simp at hlen

/-! Stages of a submission -/

/-- How far a submission has come that has posted its result so many times, of which so many were
    refused: the acts since the last POST, and what its task waits for. -/
inductive Stage (k : TaskId) (id : EntryId) (result : JobResult) (c : Client) (n refusals : Nat) :
    List (Client × Act) → Prop
  | posted {server : Server} {hash : String} {r : Http.Request} : refusals + 1 = n →
      c.Stands ⟨k, .submission ⟨id, result, n⟩ server hash r, []⟩ →
      Stage k id result c n refusals []
  | refreshing {p : Client × Act} : p.2.refuses → refusals = n → n < c.settings.attempts →
      c.Stands ⟨k, .granted id true, [.attempt ⟨id, result, n + 1⟩]⟩ →
      Stage k id result c n refusals [p]
  | fetching {p q : Client × Act} {server : Server} {r : Http.Request} : p.2.refuses →
      Asked k id q → refusals = n → n < c.settings.attempts →
      c.Stands ⟨k, .resources id server r, [.attempt ⟨id, result, n + 1⟩]⟩ →
      Stage k id result c n refusals [p, q]

/-- A submission that is not over. -/
inductive Live (k : TaskId) (id : EntryId) (result : JobResult) (own : List (Client × Act))
    (c : Client) : Prop
  | intro {past rest : List (Client × Act)} {p : Client × Act} : own = past ++ p :: rest →
      posts p ≠ [] → (∀ y ∈ rest, posts y = []) →
      (own.flatMap posts).length ≤ c.settings.attempts →
      Stage k id result c (own.flatMap posts).length (own.countP (·.2.refuses)) rest →
      Live k id result own c

theorem Stage.spares {n refusals : Nat} (h : Stage k id result c n refusals rest)
    (hs : Spares k c d) (settings : d.settings = c.settings) :
    Stage k id result d n refusals rest := by
  cases h with
  | posted hr ht => exact .posted hr ((hs.stands _ rfl).2 ht)
  | refreshing hp hr hn ht => exact .refreshing hp hr (settings ▸ hn) ((hs.stands _ rfl).2 ht)
  | fetching hp hq hr hn ht => exact .fetching hp hq hr (settings ▸ hn) ((hs.stands _ rfl).2 ht)

theorem Live.spares (h : Live k id result own c) (hs : Spares k c d)
    (settings : d.settings = c.settings) : Live k id result own d := by
  obtain ⟨heq, hp, hrest, hfew, hstage⟩ := h
  exact .intro heq hp hrest (settings ▸ hfew) (hstage.spares hs settings)

theorem eq_of_suffix {zs : List (Client × Act)} {q : Client × Act} (heq : own = past ++ p :: rest)
    (hp : posts p ≠ []) (hrest : ∀ y ∈ rest, posts y = []) (hsuf : q :: zs <:+ own)
    (hq : posts q ≠ []) (hzs : ∀ z ∈ zs, posts z = []) : zs = rest := by
  -- of two suffixes one holds the other, and each has its only POST at its head
  have hown : p :: rest <:+ own := ⟨past, heq.symm⟩
  rcases List.suffix_or_suffix_of_suffix hsuf hown with h | h
  · rcases List.suffix_cons_iff.1 h with h | h
    · exact (List.cons.inj h).2
    · exact absurd (hrest q (h.subset List.mem_cons_self)) hq
  · rcases List.suffix_cons_iff.1 h with h | h
    · exact (List.cons.inj h).2.symm
    · exact absurd (hzs p (h.subset List.mem_cons_self)) hp

theorem deed_of_tried {x : Delivery} {a : Act} (h : Tried c (c.after a) k x)
    (haccounts : ∀ j, (c.after a).account? j = c.account? j) (ha : a.answer? = none)
    (hp : past = [] ∨ Unasked k x.entry (c, a) ∨ Fetched k x.entry (c, a)) :
    Deed s k x.entry x.result past (c, a) [] (c.after a) := by
  have hrefuses : ¬ a.refuses := by simp [Act.refuses, ha]
  refine ⟨fun _ => ?_, fun h1 h2 h3 => ?_, fun r hr _ => ?_, fun hr => absurd hr hrefuses,
    fun _ => haccounts⟩
  · cases h with
    | posted _ hsub hnew hs =>
      refine .inl ⟨_, ?_, hsub⟩
      rw [posts, shown_of_signs hnew, hs]
    | ended hover hbar hnew hs =>
      refine .inr ⟨?_, hbar, rfl, hover⟩
      rw [posts, shown_of_signs hnew, hs]
  · exact absurd hp (not_or.2 ⟨h1, not_or.2 ⟨h2, h3⟩⟩)
  · cases ha.symm.trans hr

theorem length_flatMap_concat {α β : Type} (f : α → List β) (l : List α) (a : α) :
    ((l ++ [a]).flatMap f).length = (l.flatMap f).length + (f a).length := by
  rw [List.flatMap_append, List.length_append, List.flatMap_singleton]

theorem live_of_tried {n : Nat} {a : Act} (h : Tried c (c.after a) k ⟨id, result, n⟩)
    (ha : a.answer? = none) (settings : (c.after a).settings = c.settings)
    (hlen : (own.flatMap posts).length + 1 = n) (hn : n ≤ c.settings.attempts)
    (hcount : own.countP (·.2.refuses) + 1 = n) :
    (c.after a).Over k ∨ Live k id result (own ++ [(c, a)]) (c.after a) := by
  cases h with
  | @posted server hash r new hstands _ hnew hs =>
    have hpost : posts (c, a) = [(id, r)] := by rw [posts, shown_of_signs hnew, hs]
    have hrefuses : a.refuses = false := by simp [Act.refuses, ha]
    have hlen : ((own ++ [(c, a)]).flatMap posts).length = n := by
      rw [length_flatMap_concat, hpost]
      exact hlen
    have hcount : (own ++ [(c, a)]).countP (·.2.refuses) + 1 = n := by
      simp [List.countP_append, hrefuses, hcount]
    refine .inr (.intro rfl (by simp [hpost]) (by simp) ?_ ?_)
    · rw [hlen, settings]
      exact hn
    · rw [hlen]
      exact .posted hcount hstands
  | ended hover => exact .inl hover

/-- The result is submitted again after a refresh. -/
theorem Submission.again (h : Submission c.settings k id result own c) (hover : ¬ c.Over k)
    {a : Act} (settings : (c.after a).settings = c.settings) (heq : own = past ++ p :: rest)
    (hp : posts p ≠ []) (hrest : ∀ y ∈ rest, posts y = [])
    (hn : (own.flatMap posts).length < c.settings.attempts)
    (hcount : own.countP (·.2.refuses) = (own.flatMap posts).length)
    (tried : Tried c (c.after a) k ⟨id, result, (own.flatMap posts).length + 1⟩)
    (haccounts : ∀ j, (c.after a).account? j = c.account? j) (ha : a.answer? = none)
    (hend : Unasked k id (c, a) ∨ Fetched k id (c, a))
    (hround : Round k id (rest ++ [(c, a)])) :
    Submission c.settings k id result (own ++ [(c, a)]) (c.after a) ∧
      ((c.after a).Over k ∨ Live k id result (own ++ [(c, a)]) (c.after a)) := by
  have deed : Deed c.settings k id result own (c, a) [] (c.after a) :=
    deed_of_tried tried haccounts ha (.inr hend)
  have hlast : (posts (c, a)).length ≤ 1 := by
    rcases deed.attempt (.inr hend) with ⟨r, hr, -⟩ | ⟨hr, -⟩ <;> simp [hr]
  refine ⟨h.concat hover ?_ deed fun q ys hsuf hq hys _ => ?_, ?_⟩
  · rw [length_flatMap_concat]
    exact Nat.le_trans (Nat.add_le_add_left hlast _) hn
  · obtain rfl := eq_of_suffix heq hp hrest hsuf hq hys
    exact hround
  · exact live_of_tried tried ha settings rfl hn (by rw [hcount])

theorem Submission.silent (h : Submission c.settings k id result own c) (hover : ¬ c.Over k)
    {a : Act} (hposts : posts (c, a) = [])
    (deed : Deed c.settings k id result own (c, a) [] (c.after a)) :
    Submission c.settings k id result (own ++ [(c, a)]) (c.after a) :=
  h.concat hover (by simpa [hposts] using h.few) deed fun _ _ _ _ _ hp => absurd hposts hp

/-! Turns -/

theorem Stage.not_over {n refusals : Nat} (h : Stage k id result c n refusals rest) :
    ¬ c.Over k := by
  rw [over_iff]
  intro hover
  cases h with
  | posted _ ht => exact hover _ ht rfl
  | refreshing _ _ _ ht => exact hover _ ht rfl
  | fetching _ _ _ _ ht => exact hover _ ht rfl

section

variable {a : Act} {x : Delivery} {server : Server} {hash : String} {r : Http.Request}
  {next : List Next} (n : c.Numbered) (permits : c.Permits a) (ha : c.isTurn k a = true)
include n permits ha

theorem turn_of_submission (ht : c.Stands ⟨k, .submission x server hash r, next⟩) :
    ∃ reply, a = .wake ⟨k, .submission x server hash r, next⟩ (.reply reply) ∧
      ⟨k, .submission x server hash r, next⟩ ∈ c.tasks := by
  obtain ⟨u, s, b, rfl, hu, heq, hb⟩ := exists_of_isTurn n permits ht ha
  cases hb <;> simp [Task.asGranted, Wait.asGranted] at heq
  obtain ⟨rfl, ⟨rfl, rfl, rfl, rfl⟩, rfl⟩ := heq
  exact ⟨_, rfl, hu⟩

theorem turn_of_granted (ht : c.Stands ⟨k, .granted id true, next⟩) :
    a = .wake ⟨k, .granted id true, next⟩ .go ∧ ⟨k, .granted id true, next⟩ ∈ c.tasks := by
  obtain ⟨u, s, b, rfl, hu, heq, hb⟩ := exists_of_isTurn n permits ht ha
  cases hb <;> simp [Task.asGranted, Wait.asGranted] at heq
  obtain ⟨rfl, ⟨rfl, rfl⟩, rfl⟩ := heq
  exact ⟨rfl, hu⟩

theorem turn_of_resources (ht : c.Stands ⟨k, .resources id server r, next⟩) :
    ∃ reply, a = .wake ⟨k, .resources id server r, next⟩ (.reply reply) ∧
      ⟨k, .resources id server r, next⟩ ∈ c.tasks := by
  obtain ⟨u, s, b, rfl, hu, heq, hb⟩ := exists_of_isTurn n permits ht ha
  cases hb <;> simp [Task.asGranted, Wait.asGranted] at heq
  obtain ⟨rfl, ⟨rfl, rfl, rfl⟩, rfl⟩ := heq
  exact ⟨_, rfl, hu⟩

end

theorem deed_of_silent {a : Act} (hown : own ≠ []) (hu : ¬ Unasked k id (c, a))
    (hf : ¬ Fetched k id (c, a)) (hposts : posts (c, a) = [])
    (answered : ∀ r, a.answer? = some r → Http.isRefusal r = false → (c.after a).Over k)
    (exhausted : a.refuses → (own ++ [(c, a)]).countP (·.2.refuses) = s.attempts →
      (c.after a).Over k ∧ ∀ j, (c.after a).account? j = (c.account? j).map fun y =>
        if j = id then y.failed.retimed (some (.resume, c.issued.length)) else y)
    (spared : ¬ (a.refuses ∧ (own ++ [(c, a)]).countP (·.2.refuses) = s.attempts) →
      ∀ j, (c.after a).account? j = c.account? j) :
    Deed s k id result own (c, a) [] (c.after a) where
  attempt h := absurd h (not_or.2 ⟨hown, not_or.2 ⟨hu, hf⟩⟩)
  silent _ _ _ := hposts
  answered r hr h := ⟨rfl, answered r hr h⟩
  exhausted hr hn := ⟨rfl, exhausted hr hn⟩
  spared := spared

theorem Submission.answered (hc : c.Sound) (h : Submission c.settings k id result own c)
    {server : Server} {hash : String} {r : Http.Request} {reply : Http.Reply} {a : Act}
    (ha : a = .wake ⟨k, .submission ⟨id, result, (own.flatMap posts).length⟩ server hash r, []⟩
      (.reply reply))
    (ht : ⟨k, .submission ⟨id, result, (own.flatMap posts).length⟩ server hash r, []⟩ ∈ c.tasks)
    (settings : (c.after a).settings = c.settings) (heq : own = past ++ [p]) (hp : posts p ≠ [])
    (hfew : (own.flatMap posts).length ≤ c.settings.attempts)
    (hcount : own.countP (·.2.refuses) + 1 = (own.flatMap posts).length) :
    Submission c.settings k id result (own ++ [(c, a)]) (c.after a) ∧
      ((c.after a).Over k ∨ Live k id result (own ++ [(c, a)]) (c.after a)) := by
  have hover : ¬ c.Over k := fun hover => hover _ ht rfl
  have hown : own ≠ [] := by simp [heq]
  have hu : ¬ Unasked k id (c, a) := by
    rw [ha]
    rintro ⟨⟩
  have hf : ¬ Fetched k id (c, a) := by
    rw [ha]
    rintro ⟨⟩
  have hanswer : a.answer? = some reply := by
    rw [ha]
    rfl
  have hrefuses : a.refuses = Http.isRefusal reply := by simp [Act.refuses, hanswer]
  cases hr : Http.isRefusal reply with
  | false =>
    obtain ⟨hposts, hend, haccounts⟩ := answered_turn ha hr
    have hno : ¬ a.refuses := by simp [hrefuses, hr]
    refine ⟨h.silent hover hposts ?_, .inl hend⟩
    exact deed_of_silent hown hu hf hposts (fun _ _ _ => hend) (fun h => absurd h hno)
      fun _ => haccounts
  | true =>
    have hyes : a.refuses = true := hrefuses.trans hr
    have hn : (own ++ [(c, a)]).countP (·.2.refuses) = (own.flatMap posts).length := by
      simp [List.countP_append, hyes, hcount]
    have hanswered : ∀ q, a.answer? = some q → Http.isRefusal q = false → (c.after a).Over k := by
      intro q hq hfalse
      obtain rfl := Option.some.inj (hanswer.symm.trans hq)
      exact absurd (hr.symm.trans hfalse) (by simp)
    by_cases hlt : (own.flatMap posts).length < c.settings.attempts
    · obtain ⟨hposts, haccounts, hstands⟩ := refused_turn hc ht ha hr hlt
      have hlen : ((own ++ [(c, a)]).flatMap posts).length = (own.flatMap posts).length := by
        rw [length_flatMap_concat, hposts]
        rfl
      refine ⟨h.silent hover hposts ?_, .inr ?_⟩
      · refine deed_of_silent hown hu hf hposts hanswered (fun _ he => ?_) fun _ => haccounts
        exact absurd (hn.symm.trans he) (Nat.ne_of_lt hlt)
      · have hconcat : own ++ [(c, a)] = past ++ p :: [(c, a)] := by simp [heq]
        refine .intro hconcat hp (by simp [hposts]) ?_ ?_
        · rw [hlen, settings]
          exact hfew
        · rw [hlen, hn]
          exact .refreshing hyes rfl (settings ▸ hlt) hstands
    · obtain ⟨hposts, hend, haccounts⟩ := exhausted_turn hc ht ha hr hlt
      refine ⟨h.silent hover hposts ?_, .inl hend⟩
      refine deed_of_silent hown hu hf hposts hanswered (fun _ _ => ⟨hend, haccounts⟩) fun hne => ?_
      exact absurd ⟨hyes, hn.trans (Nat.le_antisymm hfew (Nat.not_lt.1 hlt))⟩ hne

theorem Submission.refreshed (hc : c.Sound) (h : Submission c.settings k id result own c)
    {a : Act} {q : Client × Act}
    (ha : a = .wake ⟨k, .granted id true,
      [.attempt ⟨id, result, (own.flatMap posts).length + 1⟩]⟩ .go)
    (ht : ⟨k, .granted id true, [.attempt ⟨id, result, (own.flatMap posts).length + 1⟩]⟩ ∈ c.tasks)
    (settings : (c.after a).settings = c.settings) (heq : own = past ++ [p, q]) (hp : posts p ≠ [])
    (hq : posts q = []) (hrefuses : q.2.refuses)
    (hn : (own.flatMap posts).length < c.settings.attempts)
    (hcount : own.countP (·.2.refuses) = (own.flatMap posts).length) :
    Submission c.settings k id result (own ++ [(c, a)]) (c.after a) ∧
      ((c.after a).Over k ∨ Live k id result (own ++ [(c, a)]) (c.after a)) := by
  have hover : ¬ c.Over k := fun hover => hover _ ht rfl
  have hanswer : a.answer? = none := by
    rw [ha]
    rfl
  have hno : a.refuses = false := by simp [Act.refuses, hanswer]
  obtain ⟨haccounts, e, he, ⟨r, hr, hshown, hstands⟩ | ⟨⟨fault, hf⟩, htried⟩⟩ :=
    granted_turn (x := ⟨id, result, (own.flatMap posts).length + 1⟩) hc ht ha
  · have hposts : posts (c, a) = [] := by
      rw [posts, hshown]
      rfl
    have hlen : ((own ++ [(c, a)]).flatMap posts).length = (own.flatMap posts).length := by
      rw [length_flatMap_concat, hposts]
      rfl
    have hasked : Asked k id (c, a) := by
      subst ha
      exact .intro hshown
    refine ⟨h.silent hover hposts ?_, .inr ?_⟩
    · refine deed_of_silent (by simp [heq]) ?_ ?_ hposts (fun q hq => ?_) (fun hr => ?_)
        fun _ => haccounts
      · rintro ⟨he', hf⟩
        obtain rfl := Option.some.inj (he.symm.trans he')
        cases hr.symm.trans hf
      · rw [ha]
        rintro ⟨⟩
      · cases hanswer.symm.trans hq
      · exact absurd hr (by simp [hno])
    · have hconcat : own ++ [(c, a)] = past ++ p :: [q, (c, a)] := by simp [heq]
      refine .intro hconcat hp (by simp [hposts, hq]) ?_ ?_
      · rw [hlen, settings]
        exact Nat.le_of_lt hn
      · rw [hlen]
        refine .fetching hrefuses hasked ?_ (settings ▸ hn) hstands
        simp [List.countP_append, hno, hcount]
  · have hend : Unasked k id (c, a) := by
      subst ha
      exact .intro he hf
    exact h.again hover settings heq hp (by simp [hq]) hn hcount htried haccounts hanswer
      (.inl hend) (.unasked hrefuses hend)

theorem Live.turn (hc : c.Sound) (h : Submission c.settings k id result own c)
    (live : Live k id result own c) {a : Act} (permits : c.Permits a)
    (ha : c.isTurn k a = true) :
    Submission c.settings k id result (own ++ [(c, a)]) (c.after a) ∧
      ((c.after a).Over k ∨ Live k id result (own ++ [(c, a)]) (c.after a)) := by
  have settings := settings_after hc permits
  obtain ⟨heq, hp, hrest, hfew, hstage⟩ := live
  have hover := hstage.not_over
  cases hstage with
  | posted hcount hs =>
    obtain ⟨reply, hact, ht⟩ := turn_of_submission hc.numbered permits ha hs
    exact h.answered hc hact ht settings heq hp hfew hcount
  | refreshing hrefuses hcount hn hs =>
    obtain ⟨hact, ht⟩ := turn_of_granted hc.numbered permits ha hs
    exact h.refreshed hc hact ht settings heq hp (hrest _ (List.mem_singleton_self _)) hrefuses hn
      hcount
  | fetching hrefuses hasked hcount hn hs =>
    obtain ⟨reply, hact, ht⟩ := turn_of_resources hc.numbered permits ha hs
    obtain ⟨htried, haccounts⟩ :=
      fetched_turn (x := ⟨id, result, (own.flatMap posts).length + 1⟩) hc ht hact
    have hend : Fetched k id (c, a) := by
      subst hact
      exact .intro
    have hanswer : a.answer? = none := by
      rw [hact]
      rfl
    exact h.again hover settings heq hp hrest hn hcount htried haccounts hanswer (.inr hend)
      (.asked hrefuses hasked hend)

/-- A submission takes its course, whatever happens meanwhile. -/
theorem submission_afterAll (hc : Reachable c) {acts : List Act} (allows : c.Allows acts)
    (hk : k < c.taskCount) (h : Submission c.settings k id result own c)
    (hstage : c.Over k ∨ Live k id result own c) :
    Submission c.settings k id result (own ++ c.turns k acts) (c.afterAll acts) := by
  -- a turn of the task brings the submission to its next stage; in other acts the task stands still
  induction acts generalizing c own with
  | nil => simpa [turns] using h
  | cons a acts ih =>
    have settings := settings_after hc.sound allows.1
    rw [turns, afterAll_cons, ← List.append_assoc, ← settings]
    cases ha : c.isTurn k a with
    | true =>
      have hlive : Live k id result own c := hstage.resolve_left (not_over_of_isTurn allows.1 ha)
      obtain ⟨hnext, hstage⟩ := hlive.turn hc.sound h allows.1 ha
      refine ih (hc.act allows.1) allows.2 (Nat.lt_of_lt_of_le hk ?_) (settings ▸ hnext) hstage
      cases a with
      | wake t s => exact taskCount_wake hc.sound allows.1.1 s
      | _ => cases ha
    | false =>
      have hs := spares_after hc.sound allows.1 hk ha
      rw [if_neg (by simp), List.append_nil]
      refine ih (hc.act allows.1) allows.2 (Nat.lt_of_lt_of_le hk hs.count)
        (settings ▸ h.mono hs.over) ?_
      exact hstage.imp hs.over fun hl => hl.spares hs settings

theorem submission_begins (hc : Reachable c) {a : Act} (permits : c.Permits a)
    (submits : c.Submits a k result) (howner : c.owner? result.resourceId = some id) :
    k < (c.after a).taskCount ∧ Submission c.settings k id result [(c, a)] (c.after a) ∧
      ((c.after a).Over k ∨ Live k id result [(c, a)] (c.after a)) := by
  obtain ⟨d, hafter, ready, hs⟩ := submits.run hc permits
  have settings := settings_after hc.sound permits
  have hattempts : 1 ≤ c.settings.attempts := Nat.one_le_iff_ne_zero.2 hc.attempts
  have hanswer : a.answer? = none := by
    cases submits <;> rfl
  have hd : d.owner? result.resourceId = some id := (ready.owner? _).trans howner
  have hrun : c.after a = run k [.attempt ⟨id, result, 1⟩] d := hafter.trans (run_submit hd)
  have hsome := List.find?_some howner
  obtain ⟨e, he⟩ : ∃ e, d.entry? id = some e := by
    rw [Client.entry?, ready.entries]
    cases he : c.entry? id with
    | none => simp [he] at hsome
    | some e => exact ⟨e, he⟩
  have tried : Tried c (c.after a) k ⟨id, result, 1⟩ := by
    rw [hrun]
    exact tried_attempt ((Reveals.refl c).congr ready.queue ready.signs) ready.ended he
  have haccounts : ∀ j, (c.after a).account? j = c.account? j := by
    intro j
    rw [hafter, account?_run hs fun hm => by simpa using mem_of_mem_doing hm]
    rw [account?, entry?, ready.entries]
    rfl
  have deed : Deed c.settings k id result [] (c, a) [] (c.after a) :=
    deed_of_tried tried haccounts hanswer (.inl rfl)
  refine ⟨?_, .single ?_ deed, ?_⟩
  · rw [hafter]
    exact Nat.lt_of_lt_of_le ready.count (taskCount_run hs)
  · rcases deed.attempt (.inl rfl) with ⟨r, hr, -⟩ | ⟨hr, -⟩
    · simpa [hr] using hattempts
    · simp [hr]
  · have hlive : (c.after a).Over k ∨ Live k id result ([] ++ [(c, a)]) (c.after a) :=
      live_of_tried tried hanswer settings rfl hattempts rfl
    exact hlive

theorem submission_unknown (hc : Reachable c) {a : Act} (permits : c.Permits a)
    (submits : c.Submits a k result) (howner : c.owner? result.resourceId = none) :
    k < (c.after a).taskCount ∧ posts (c, a) = [] ∧ (c.after a).Over k ∧
      ∀ j, (c.after a).account? j = c.account? j := by
  obtain ⟨d, hafter, ready, -⟩ := submits.run hc permits
  have hd : d.owner? result.resourceId = none := (ready.owner? _).trans howner
  have hlog : c.after a = d.log (.unknownSubmission result.resourceId) :=
    hafter.trans (run_submit_of_none hd)
  have hr : Reveals (fun s => s.post? = none) c d :=
    (Reveals.refl c).congr ready.queue ready.signs
  refine ⟨?_, Reveals.posts_eq_nil ?_, ?_, fun j => ?_⟩ <;> rw [hlog]
  · exact ready.count
  · exact hr.reveal rfl
  · exact ready.ended
  · rw [account?, entry?, account?, entry?, ← ready.entries]
    rfl

end

def failed : JobResult := .ofFailure "r" .passive "failed"

end Client
end Harvest.Sync
