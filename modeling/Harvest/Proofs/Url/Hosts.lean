import Harvest.Proofs.Url.Addresses
import Harvest.Url.Reader
/-!
The hosts of URLs. Whatever text a URL is read from, a host of it that is an address is one of
32 bits or of eight pieces of 16 bits.
-/

namespace Harvest.Url

namespace Host

/-- Whether the numbers of an address are in their range. -/
def IsRegular : Host → Prop
  | .domain _ => True
  | .ipv4 a => a < Nat.pow 2 32
  | .ipv6 ps => ps.length = 8 ∧ ∀ p ∈ ps, p < Nat.pow 2 16

variable {s : List Char} {h : Host}

theorem isRegular_of_bracketed (hread : bracketed s = .ok h) : h.IsRegular := by
  unfold bracketed at hread
  split at hread
  · split at hread
    · rename_i hpieces
      cases hread
      exact Address.v6?_regular hpieces
    · cases hread
  · cases hread

theorem isRegular_of_special (hread : special s = .ok h) : h.IsRegular := by
  unfold special at hread
  split at hread
  · exact isRegular_of_bracketed hread
  · split at hread
    · cases hread
    · split at hread
      · cases hread
      · cases hread
      · split at hread
        · split at hread
          · rename_i haddress
            cases hread
            exact Address.v4?_lt haddress
          · cases hread
        · cases hread
          trivial

theorem isRegular_of_general (hread : general s = .ok h) : h.IsRegular := by
  unfold general at hread
  split at hread
  · exact isRegular_of_bracketed hread
  · split at hread
    · cases hread
    · cases hread
      trivial

end Host

/-- Whether a URL has no host or one whose numbers are in their range. -/
def HasRegularHost (u : Url) : Prop := ∀ h, u.host = some h → h.IsRegular

namespace Reader

variable {α β : Type} {scheme : String} {s r : List Char} {u : Url}

theorem exists_of_bind_ok {x : Except Fault α} {g : α → Except Fault β} {b : β}
    (h : x.bind g = .ok b) : ∃ a, x = .ok a ∧ g a = .ok b := by
  cases x with
  | error fault => cases h
  | ok a => exact ⟨a, rfl, h⟩

theorem hasRegularHost_of_none (h : u.host = none) : (finish u r).HasRegularHost := by
  intro host hhost
  rw [finish, h] at hhost
  cases hhost

theorem hasRegularHost_of_some {host : Host} (hhost : u.host = some host) (h : host.IsRegular) :
    (finish u r).HasRegularHost := by
  intro host' hhost'
  rw [finish, hhost] at hhost'
  cases hhost'
  exact h

/-- The host of an authority is read from a part of its text. -/
theorem host_of_authority (hread : authority scheme s = .ok u) :
    ∃ raw host, (Host.special raw = .ok host ∨ Host.general raw = .ok host) ∧
      u.host = some host := by
  obtain ⟨⟨user, password, rest⟩, -, hread⟩ := exists_of_bind_ok hread
  dsimp only at hread
  split at hread
  · cases hread
  · split at hread
    all_goals
      obtain ⟨host, hhost, hread⟩ := exists_of_bind_ok hread
      split at hread
      all_goals
        split at hread
        · cases hread
        · obtain ⟨⟨port, rest'⟩, -, hread⟩ := exists_of_bind_ok hread
          cases hread
          refine ⟨(hostSpan (isSpecial scheme) false rest).1, host, ?_, rfl⟩
          first
            | exact .inl hhost
            | exact .inr hhost

theorem hasRegularHost_of_authority (hread : authority scheme s = .ok u) : u.HasRegularHost := by
  obtain ⟨raw, host, hhost, hu⟩ := host_of_authority hread
  intro host' hhost'
  cases hu.symm.trans hhost'
  exact hhost.elim Host.isRegular_of_special Host.isRegular_of_general

theorem hasRegularHost_of_fileAt {host : Host} (h : host.IsRegular) (start : List String) :
    (fileAt host start s).HasRegularHost :=
  hasRegularHost_of_some rfl h

theorem hasRegularHost_of_noHost : (fileAt noHost [] s).HasRegularHost :=
  hasRegularHost_of_fileAt (show noHost.IsRegular from trivial) []

theorem hasRegularHost_of_single (hread : file.single none s = .ok u) : u.HasRegularHost := by
  cases s <;> cases hread <;> exact hasRegularHost_of_noHost

theorem hasRegularHost_of_file (hread : file none s = .ok u) : u.HasRegularHost := by
  unfold file at hread
  split at hread
  · split at hread
    · dsimp only at hread
      split at hread
      · cases hread
        exact hasRegularHost_of_noHost
      · split at hread
        · cases hread
          exact hasRegularHost_of_noHost
        · obtain ⟨host, hhost, hread⟩ := exists_of_bind_ok hread
          cases hread
          apply hasRegularHost_of_fileAt
          split
          · trivial
          · exact Host.isRegular_of_special hhost
    · exact hasRegularHost_of_single hread
  · exact hasRegularHost_of_single hread

theorem hasRegularHost_of_readGeneral (hread : general scheme s = .ok u) : u.HasRegularHost := by
  unfold general at hread
  split at hread
  · exact hasRegularHost_of_authority hread
  · cases hread
    exact hasRegularHost_of_none rfl
  · cases hread
    exact hasRegularHost_of_none rfl

theorem hasRegularHost_of_withScheme (hread : withScheme none scheme s = .ok u) :
    u.HasRegularHost := by
  unfold withScheme at hread
  split at hread
  · exact hasRegularHost_of_file hread
  · split at hread
    · exact hasRegularHost_of_authority hread
    · exact hasRegularHost_of_readGeneral hread

end Reader

theorem hasRegularHost_of_parse {text : String} {u : Url} (hread : parse text = .ok u) :
    u.HasRegularHost := by
  unfold parse Reader.read at hread
  dsimp only at hread
  split at hread
  · exact Reader.hasRegularHost_of_withScheme hread
  · cases hread

end Harvest.Url
