import Harvest.Proofs.Fetch.Spellings
/-!
Which addresses are fetched. Where only public addresses may be fetched, a reserved one is refused
before anything is sent, in whichever form it is written; but of the blocks of this host and of the
reserved block at the end only one address each is known, and an IPv4 address in the place of the
last two pieces of an IPv6 address is seen only behind the prefix that maps it.
-/

namespace Harvest.Fetch

theorem inBlock_iff {base free a : Nat} :
    inBlock base free a = true ↔ a / Nat.pow 2 free = base / Nat.pow 2 free :=
  decide_eq_true_iff

/-- The blocks of IPv4 addresses that are not public, each with the number of its free bits. -/
def reservedBlocks : List (Nat × Nat) :=
  [(v4 0 0 0 0, 24), (v4 10 0 0 0, 24), (v4 100 64 0 0, 22), (v4 127 0 0 0, 24),
    (v4 169 254 0 0, 16), (v4 172 16 0 0, 20), (v4 192 168 0 0, 16), (v4 192 0 2 0, 8),
    (v4 198 51 100 0, 8), (v4 203 0 113 0, 8), (v4 240 0 0 0, 28)]

/-- Whether an IPv4 address is not public. -/
def IsReservedV4 (a : Nat) : Prop := ∃ block ∈ reservedBlocks, inBlock block.1 block.2 a = true

/-- Whether an IPv4 address is fetched although it is not public: the first block but for its first
    address, and the last one but for its last. -/
def IsMissedV4 (a : Nat) : Prop :=
  (inBlock (v4 0 0 0 0) 24 a = true ∧ a ≠ v4 0 0 0 0) ∨
    (inBlock (v4 240 0 0 0) 28 a = true ∧ a ≠ v4 255 255 255 255)

theorem isPrivateV4_iff {a : Nat} : isPrivateV4 a = true ↔ IsReservedV4 a ∧ ¬ IsMissedV4 a := by
  simp only [isPrivateV4, IsReservedV4, IsMissedV4, reservedBlocks, Bool.or_eq_true, inBlock_iff,
    decide_eq_true_eq, List.mem_cons, List.not_mem_nil, or_false, exists_eq_or_imp, exists_eq_left,
    v4]
  simp only [Nat.pow_eq]
  omega

/-- Whether an IPv6 address is not public: it is none or that of this host, or in the block of one
    link or of one site, or it stands for an IPv4 address that is not public. -/
inductive IsReservedV6 : List Nat → Prop
  | unspecified : IsReservedV6 [0, 0, 0, 0, 0, 0, 0, 0]
  | loopback : IsReservedV6 [0, 0, 0, 0, 0, 0, 0, 1]
  | linkLocal {first : Nat} {rest : List Nat} (h : inBlock 0xFE80 6 first = true) :
    IsReservedV6 (first :: rest)
  | uniqueLocal {first : Nat} {rest : List Nat} (h : inBlock 0xFC00 9 first = true) :
    IsReservedV6 (first :: rest)
  | mapped {high low : Nat} (h : IsReservedV4 (high * Nat.pow 2 16 + low)) :
    IsReservedV6 [0, 0, 0, 0, 0, 0xFFFF, high, low]
  | compatible {high low : Nat} (h : IsReservedV4 (high * Nat.pow 2 16 + low)) :
    IsReservedV6 [0, 0, 0, 0, 0, 0, high, low]

/-- Whether an IPv6 address is fetched although it is not public. -/
inductive IsMissedV6 : List Nat → Prop
  | mapped {high low : Nat} (h : IsMissedV4 (high * Nat.pow 2 16 + low)) :
    IsMissedV6 [0, 0, 0, 0, 0, 0xFFFF, high, low]
  | compatible {high low : Nat} (h : IsReservedV4 (high * Nat.pow 2 16 + low))
      (hfirst : high = 0 → low ≠ 0 ∧ low ≠ 1) : IsMissedV6 [0, 0, 0, 0, 0, 0, high, low]

theorem isPrivateV6_cons {first : Nat} {rest : List Nat} (h : first ≠ 0) :
    isPrivateV6 (first :: rest) = (inBlock 0xFE80 6 first || inBlock 0xFC00 9 first) := by
  unfold isPrivateV6
  split <;> simp_all

theorem not_inBlock_zero : inBlock 0xFE80 6 0 = false ∧ inBlock 0xFC00 9 0 = false := by decide

theorem isPrivateV6_of_isReservedV6 {ps : List Nat} (h : IsReservedV6 ps) (hno : ¬ IsMissedV6 ps) :
    isPrivateV6 ps = true := by
  cases h with
  | unspecified => rfl
  | loopback => rfl
  | linkLocal h =>
    rw [isPrivateV6_cons (by rintro rfl; simp [not_inBlock_zero] at h), h, Bool.true_or]
  | uniqueLocal h =>
    rw [isPrivateV6_cons (by rintro rfl; simp [not_inBlock_zero] at h), h, Bool.or_true]
  | mapped h => exact isPrivateV4_iff.2 ⟨h, fun hmissed => hno (.mapped hmissed)⟩
  | @compatible high low h =>
    have hfirst : high = 0 ∧ (low = 0 ∨ low = 1) := by
      apply Decidable.byContradiction
      intro hother
      exact hno (.compatible h (by omega))
    obtain ⟨rfl, rfl | rfl⟩ := hfirst <;> rfl

theorem isPrivateV6_iff {ps : List Nat} :
    isPrivateV6 ps = true ↔ IsReservedV6 ps ∧ ¬ IsMissedV6 ps := by
  refine ⟨fun h => ?_, fun ⟨h, hno⟩ => isPrivateV6_of_isReservedV6 h hno⟩
  unfold isPrivateV6 at h
  split at h
  · refine ⟨.loopback, fun hmissed => ?_⟩
    cases hmissed with
    | compatible _ hfirst => exact (hfirst rfl).2 rfl
  · refine ⟨.unspecified, fun hmissed => ?_⟩
    cases hmissed with
    | compatible _ hfirst => exact (hfirst rfl).1 rfl
  · obtain ⟨hreserved, hno⟩ := isPrivateV4_iff.1 h
    refine ⟨.mapped hreserved, fun hmissed => ?_⟩
    cases hmissed with
    | mapped hmissed => exact hno hmissed
  · rename_i first rest hself hnone hmapped
    have hfirst : first ≠ 0 := by
      rintro rfl
      simp [not_inBlock_zero] at h
    refine ⟨?_, fun hmissed => ?_⟩
    · rcases Bool.or_eq_true _ _ ▸ h with h | h
      · exact .linkLocal h
      · exact .uniqueLocal h
    · cases hmissed <;> exact hfirst rfl
  · cases h

/-- Whether a host is an address that is not public. -/
def IsReserved : Url.Host → Prop
  | .domain _ => False
  | .ipv4 a => IsReservedV4 a
  | .ipv6 ps => IsReservedV6 ps

/-- Whether a host is an address that is fetched although it is not public. -/
def IsMissed : Url.Host → Prop
  | .domain _ => False
  | .ipv4 a => IsMissedV4 a
  | .ipv6 ps => IsMissedV6 ps

/-- Whether a host is no name. -/
def IsAddress : Url.Host → Prop
  | .domain _ => False
  | .ipv4 _ => True
  | .ipv6 _ => True

theorem hostFault?_of_isAddress {h : Url.Host} (haddress : IsAddress h) (hregular : h.IsRegular) :
    ((IsReserved h ∧ ¬ IsMissed h) ∧ hostFault? h = some (blocked h)) ∨
    (¬ (IsReserved h ∧ ¬ IsMissed h) ∧ hostFault? h = none) := by
  cases h with
  | domain name => exact haddress.elim
  | ipv4 a =>
    have hiff : isPrivateV4 a = true ↔ IsReservedV4 a ∧ ¬ IsMissedV4 a := isPrivateV4_iff
    rw [hostFault?_ipv4 hregular]
    cases hprivate : isPrivateV4 a with
    | true => exact .inl ⟨hiff.1 hprivate, rfl⟩
    | false => exact .inr ⟨fun h => by simp [hiff.2 h] at hprivate, rfl⟩
  | ipv6 ps =>
    have hiff : isPrivateV6 ps = true ↔ IsReservedV6 ps ∧ ¬ IsMissedV6 ps := isPrivateV6_iff
    rw [hostFault?_ipv6 hregular]
    cases hprivate : isPrivateV6 ps with
    | true => exact .inl ⟨hiff.1 hprivate, rfl⟩
    | false => exact .inr ⟨fun h => by simp [hiff.2 h] at hprivate, rfl⟩

section

open Rehearsal (Session)

variable {text : String} {u : Url} {h : Url.Host}

/-- A web address of an IP address is fetched, or refused for the address. -/
theorem publicUrl_of_isAddress (hu : Url.parse text = .ok u) (hweb : isWeb u = true)
    (hhost : u.host = some h) (haddress : IsAddress h) :
    ((IsReserved h ∧ ¬ IsMissed h) ∧ publicUrl text = .error (blocked h)) ∨
    (¬ (IsReserved h ∧ ¬ IsMissed h) ∧ publicUrl text = .ok u) := by
  have hregular : h.IsRegular := Url.hasRegularHost_of_parse hu h hhost
  rcases hostFault?_of_isAddress haddress hregular with ⟨hreserved, hfault⟩ | ⟨hpublic, hfault⟩
  · exact .inl ⟨hreserved, by simp [publicUrl, hu, hweb, hhost, hfault]⟩
  · exact .inr ⟨hpublic, by simp [publicUrl, hu, hweb, hhost, hfault]⟩

/-- Of the web addresses with an IP address just the ones that are not public and not missed are
    refused, without a request; of the rest one request is sent, to the address itself. -/
theorem reserved_refused_iff (hu : Url.parse text = .ok u) (hweb : isWeb u = true)
    (hhost : u.host = some h) (haddress : IsAddress h) (settings : Settings) (s : Session) :
    let fetched := s.fetch settings .publicOnly text
    (fetched.2.sent = s.sent ↔ IsReserved h ∧ ¬ IsMissed h) ∧
    (fetched.2.sent = s.sent → fetched = (.error (blocked h), s)) ∧
    (fetched.2.sent ≠ s.sent →
      ∃ r, fetched.2.sent = s.sent ++ [⟨s.now, r⟩] ∧ r.method = .get ∧ r.url = u) := by
  intro fetched
  rcases publicUrl_of_isAddress hu hweb hhost haddress with ⟨hreserved, hurl⟩ | ⟨hpublic, hurl⟩
  · have hfetched : fetched = (.error (blocked h), s) := by
      simp [fetched, Session.fetch, request, hurl, Except.map, Session.exchange]
    simp [hfetched, hreserved]
  · have hsent : ∃ r, fetched.2.sent = s.sent ++ [⟨s.now, r⟩] ∧ r.method = .get ∧ r.url = u := by
      simp [fetched, Session.fetch, request, hurl, Except.map, Session.exchange, hweb]
    have hne : fetched.2.sent ≠ s.sent := by
      obtain ⟨r, hr, -⟩ := hsent
      simp [hr]
    exact ⟨iff_of_false hne hpublic, fun h => absurd h hne, fun _ => hsent⟩

/-- The URL of the loopback address of IPv4 written as one of IPv6. -/
def compatibleLoopback : Url :=
  ⟨"http", "", none, some (.ipv6 [0, 0, 0, 0, 0, 0, 0x7F00, 1]), none, .segments [""], none, none⟩

theorem parse_compatibleLoopback : Url.parse "http://[::7f00:1]/" = .ok compatibleLoopback :=
  ok_of_toOption (by decide +kernel)

theorem loopback_reserved : IsReservedV6 [0, 0, 0, 0, 0, 0, 0x7F00, 1] :=
  .compatible ⟨(v4 127 0 0 0, 24), by simp [reservedBlocks], by decide⟩

theorem loopback_missed : IsMissedV6 [0, 0, 0, 0, 0, 0, 0x7F00, 1] :=
  .compatible ⟨(v4 127 0 0 0, 24), by simp [reservedBlocks], by decide⟩ (by decide)

/-- The loopback address is asked for a page if it is written as an address of IPv6. -/
theorem loopback_fetched :
    Url.parse "http://[::7f00:1]/" = .ok compatibleLoopback ∧
    isWeb compatibleLoopback = true ∧
    compatibleLoopback.host = some (.ipv6 [0, 0, 0, 0, 0, 0, 0x7F00, 1]) ∧
    IsReserved (.ipv6 [0, 0, 0, 0, 0, 0, 0x7F00, 1]) ∧
    ((⟨0, [], []⟩ : Session).fetch .standard .publicOnly "http://[::7f00:1]/").2.sent.map
      (·.request.url) = [compatibleLoopback] := by
  have hweb : isWeb compatibleLoopback = true := by decide
  obtain ⟨hiff, -, hsent⟩ := reserved_refused_iff parse_compatibleLoopback hweb rfl
    (h := .ipv6 [0, 0, 0, 0, 0, 0, 0x7F00, 1]) trivial .standard ⟨0, [], []⟩
  obtain ⟨r, hr, -, hurl⟩ := hsent fun h => (hiff.1 h).2 loopback_missed
  refine ⟨parse_compatibleLoopback, hweb, rfl, loopback_reserved, ?_⟩
  simp [hr, hurl]

end

end Harvest.Fetch
