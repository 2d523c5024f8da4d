import Harvest.Proofs.Url.Hosts
import Harvest.Rehearsal.Transport
/-!
The spellings of addresses. A host that is an address is written in one form only, from which the
same address is read once more, and an address of version 4 behind the prefix that maps it is judged
as itself. So of all the URLs of one address either none is fetched or each is.
-/

namespace Harvest.Fetch

open Url (Address.v4Text Address.v6Text)

section Brackets

variable {s : List Char}

theorem dropWhile_eq_self {c : Char} (h : c ∉ s) : s.dropWhile (· = c) = s := by
  cases s with
  | nil => rfl
  | cons d s =>
    apply List.dropWhile_cons_of_neg
    rw [decide_eq_true_eq]
    rintro rfl
    exact h List.mem_cons_self

theorem unbracketed_eq_self (hopen : '[' ∉ s) (hclose : ']' ∉ s) : unbracketed s = s := by
  rw [unbracketed, dropWhile_eq_self hopen,
    dropWhile_eq_self (fun h => hclose (List.mem_reverse.1 h)), List.reverse_reverse]

theorem unbracketed_of_brackets (hopen : '[' ∉ s) (hclose : ']' ∉ s) :
    unbracketed ('[' :: s ++ [']']) = s := by
  have hfront : ('[' :: s ++ [']']).dropWhile (· = '[') = s ++ [']'] := by
    have hno : '[' ∉ s ++ [']'] := by simp [hopen]
    rw [List.cons_append, List.dropWhile_cons_of_pos (by decide), dropWhile_eq_self hno]
  have hback : (s ++ [']']).reverse.dropWhile (· = ']') = s.reverse := by
    rw [List.reverse_concat, List.dropWhile_cons_of_pos (by decide),
      dropWhile_eq_self fun h => hclose (List.mem_reverse.1 h)]
  rw [unbracketed, hfront, hback, List.reverse_reverse]

end Brackets

theorem ok_of_toOption {ε α : Type} {x : Except ε α} {a : α} (h : x.toOption = some a) :
    x = .ok a := by
  cases x with
  | error e => cases h
  | ok b => exact congrArg Except.ok (Option.some.inj h)

/-! The text of an address is read as the address. -/

theorem read?_v4Text {a : Nat} (h : a < Nat.pow 2 32) :
    Ip.read? (Address.v4Text a).toList = some (.v4 a) := by
  rw [Ip.read?, Url.Address.embedded?_v4Text h]
  exact congrArg (some ∘ Ip.v4) (Nat.div_add_mod' a (Nat.pow 2 16))

theorem read?_v6Text {ps : List Nat} (hlength : ps.length = 8) (h : ∀ p ∈ ps, p < Nat.pow 2 16) :
    Ip.read? (Address.v6Text ps).toList = some (.v6 ps) := by
  rw [Ip.read?, Url.Address.embedded?_v6Text, Url.Address.v6?_v6Text hlength h]
  rfl

theorem hostFault?_ipv4 {a : Nat} (h : (Url.Host.ipv4 a).IsRegular) :
    hostFault? (.ipv4 a) = if isPrivateV4 a then some (blocked (.ipv4 a)) else none := by
  have htext : unbracketed (Address.v4Text a).toList = (Address.v4Text a).toList :=
    unbracketed_eq_self (Url.Address.v4Text_has_no rfl (by decide) a)
      (Url.Address.v4Text_has_no rfl (by decide) a)
  rw [hostFault?, Url.Host.text, htext, read?_v4Text h]
  rfl

theorem hostFault?_ipv6 {ps : List Nat} (h : (Url.Host.ipv6 ps).IsRegular) :
    hostFault? (.ipv6 ps) = if isPrivateV6 ps then some (blocked (.ipv6 ps)) else none := by
  have htext : unbracketed ("[" ++ Address.v6Text ps ++ "]").toList =
      (Address.v6Text ps).toList := by
    rw [String.toList_append, String.toList_append]
    exact unbracketed_of_brackets (Url.Address.v6Text_has_no (by decide) (by decide) ps)
      (Url.Address.v6Text_has_no (by decide) (by decide) ps)
  rw [hostFault?, Url.Host.text, htext, read?_v6Text h.1 h.2]
  rfl

/-- The addresses that a host is: its own, and the one of version 4 that it maps. -/
inductive Denotes : Url.Host → Ip → Prop
  | v4 (a : Nat) : Denotes (.ipv4 a) (.v4 a)
  | v6 (ps : List Nat) : Denotes (.ipv6 ps) (.v6 ps)
  | mapped (high low : Nat) :
    Denotes (.ipv6 [0, 0, 0, 0, 0, 0xFFFF, high, low]) (.v4 (high * Nat.pow 2 16 + low))

theorem hostFault?_of_denotes {h : Url.Host} {ip : Ip} (hdenotes : Denotes h ip)
    (hregular : h.IsRegular) :
    hostFault? h = if ip.isPrivate then some (blocked h) else none := by
  cases hdenotes with
  | v4 a => exact hostFault?_ipv4 hregular
  | v6 ps => exact hostFault?_ipv6 hregular
  | mapped high low => exact hostFault?_ipv6 hregular

section

open Rehearsal (Session)

variable {text text' : String} {u u' : Url} {h h' : Url.Host} {ip : Ip}

theorem publicUrl_of_denotes (hu : Url.parse text = .ok u) (hweb : isWeb u = true)
    (hhost : u.host = some h) (hdenotes : Denotes h ip) :
    publicUrl text = if ip.isPrivate then .error (blocked h) else .ok u := by
  have hregular : h.IsRegular := Url.hasRegularHost_of_parse hu h hhost
  have hfault := hostFault?_of_denotes hdenotes hregular
  cases hprivate : ip.isPrivate <;> simp [publicUrl, hu, hweb, hhost, hfault, hprivate]

theorem fetch_of_isPrivate (hu : Url.parse text = .ok u) (hweb : isWeb u = true)
    (hhost : u.host = some h) (hdenotes : Denotes h ip) (hprivate : ip.isPrivate = true)
    (settings : Settings) (s : Session) :
    s.fetch settings .publicOnly text = (.error (blocked h), s) := by
  have hurl := publicUrl_of_denotes hu hweb hhost hdenotes
  simp [Session.fetch, request, hurl, hprivate, Except.map, Session.exchange]

theorem fetch_of_isPublic (hu : Url.parse text = .ok u) (hweb : isWeb u = true)
    (hhost : u.host = some h) (hdenotes : Denotes h ip) (hpublic : ip.isPrivate = false)
    (settings : Settings) (s : Session) :
    ∃ r, (s.fetch settings .publicOnly text).2.sent = s.sent ++ [⟨s.now, r⟩] ∧
      r.method = .get ∧ r.url = u := by
  have hurl := publicUrl_of_denotes hu hweb hhost hdenotes
  simp [Session.fetch, request, hurl, hpublic, Except.map, Session.exchange, hweb]

/-- Of two web addresses of one IP address either both are refused, without a request, or both are
    fetched, by the address alone: whatever else they are made of and however it is spelled. -/
theorem spellings_agree (hu : Url.parse text = .ok u) (hweb : isWeb u = true)
    (hhost : u.host = some h) (hdenotes : Denotes h ip)
    (hu' : Url.parse text' = .ok u') (hweb' : isWeb u' = true)
    (hhost' : u'.host = some h') (hdenotes' : Denotes h' ip)
    (settings settings' : Settings) (s s' : Session) :
    (ip.isPrivate = true ∧
      s.fetch settings .publicOnly text = (.error (blocked h), s) ∧
      s'.fetch settings' .publicOnly text' = (.error (blocked h'), s')) ∨
    (ip.isPrivate = false ∧
      (∃ r, (s.fetch settings .publicOnly text).2.sent = s.sent ++ [⟨s.now, r⟩] ∧
        r.method = .get ∧ r.url = u) ∧
      ∃ r, (s'.fetch settings' .publicOnly text').2.sent = s'.sent ++ [⟨s'.now, r⟩] ∧
        r.method = .get ∧ r.url = u') := by
  cases hprivate : ip.isPrivate with
  | true =>
    exact .inl ⟨rfl, fetch_of_isPrivate hu hweb hhost hdenotes hprivate settings s,
      fetch_of_isPrivate hu' hweb' hhost' hdenotes' hprivate settings' s'⟩
  | false =>
    exact .inr ⟨rfl, fetch_of_isPublic hu hweb hhost hdenotes hprivate settings s,
      fetch_of_isPublic hu' hweb' hhost' hdenotes' hprivate settings' s'⟩

/-- The loopback address with its first byte in hexadecimal and the other bytes as one number. -/
def hexLoopback : Url :=
  ⟨"http", "user", none, some (.ipv4 (v4 127 0 0 1)), some 8080, .segments ["a"], some "b", none⟩

theorem parse_hexLoopback : Url.parse "http://user@0x7f.1:8080/a?b" = .ok hexLoopback :=
  ok_of_toOption (by decide +kernel)

/-- The loopback address behind the prefix that maps it. -/
def mappedLoopback : Url :=
  ⟨"https", "", none, some (.ipv6 [0, 0, 0, 0, 0, 0xFFFF, 0x7F00, 1]), none, .segments [""], none,
    none⟩

theorem parse_mappedLoopback : Url.parse "https://[::ffff:127.0.0.1]" = .ok mappedLoopback :=
  ok_of_toOption (by decide +kernel)

theorem loopback_spellings :
    Url.parse "http://user@0x7f.1:8080/a?b" = .ok hexLoopback ∧
    Url.parse "https://[::ffff:127.0.0.1]" = .ok mappedLoopback ∧
    (⟨0, [], []⟩ : Session).fetch .standard .publicOnly "http://user@0x7f.1:8080/a?b" =
      (.error (blocked (.ipv4 (v4 127 0 0 1))), ⟨0, [], []⟩) ∧
    (⟨0, [], []⟩ : Session).fetch .standard .publicOnly "https://[::ffff:127.0.0.1]" =
      (.error (blocked (.ipv6 [0, 0, 0, 0, 0, 0xFFFF, 0x7F00, 1])), ⟨0, [], []⟩) := by
  have hagree := spellings_agree parse_hexLoopback (by decide) rfl (.v4 _)
    parse_mappedLoopback (by decide) rfl (.mapped _ _) .standard .standard ⟨0, [], []⟩ ⟨0, [], []⟩
  rcases hagree with ⟨-, hrefused, hrefused'⟩ | ⟨hpublic, -⟩
  · exact ⟨parse_hexLoopback, parse_mappedLoopback, hrefused, hrefused'⟩
  · cases hpublic

end

end Harvest.Fetch
