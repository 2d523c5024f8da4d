import Harvest.Proofs.Fetch.Spellings
/-!
Which answers are taken for pages. A type that is named must be one of HTML, in letters of either
case; but of a header field with a byte that is no visible character nothing is read, and the
answer is taken as if it had none.
-/

namespace Harvest.Fetch

theorem mentions_iff {word s : List Char} : Text.mentions word s = true ↔ word <:+: s := by
  induction s with
  | nil => simp [Text.mentions]
  | cons c s ih =>
    rw [Text.mentions, Bool.or_eq_true, List.isPrefixOf_iff_prefix, ih, List.infix_cons_iff]

section Fields

variable {bytes : List UInt8}

/-- The character that a byte stands for in a header field. -/
def letter (b : UInt8) : Char := Char.ofNat b.toNat

/-- Whether the word for HTML stands among the bytes of a header field, in letters of any case. -/
def NamesHtml (bytes : List UInt8) : Prop :=
  ∃ name, name <:+: bytes ∧ name.map (Char.toLower ∘ letter) = "html".toList

/-- Whether a header field has a byte that is no visible character of ASCII. -/
def HasHidden (bytes : List UInt8) : Prop := ∃ b ∈ bytes, b ≠ 9 ∧ (b < 32 ∨ 127 ≤ b)

theorem all_isVisible_iff : bytes.all Http.isVisible = true ↔ ¬ HasHidden bytes := by
  have hbyte (b : UInt8) : Http.isVisible b = true ↔ ¬ (b ≠ 9 ∧ (b < 32 ∨ 127 ≤ b)) := by
    rw [Http.isVisible, Bool.or_eq_true, Bool.and_eq_true, decide_eq_true_eq, decide_eq_true_eq,
      decide_eq_true_eq, not_and_or, not_or, not_not, UInt8.not_lt, UInt8.not_le]
  simp only [List.all_eq_true, hbyte, HasHidden, not_exists, not_and]

theorem fieldText?_of_hasHidden (h : HasHidden bytes) : Http.fieldText? bytes = none :=
  if_neg fun hall => all_isVisible_iff.1 hall h

theorem fieldText?_of_not_hasHidden (h : ¬ HasHidden bytes) :
    Http.fieldText? bytes = some (String.ofList (bytes.map letter)) :=
  if_pos (all_isVisible_iff.2 h)

theorem mentions_letters_iff :
    Text.mentions "html".toList (bytes.map (Char.toLower ∘ letter)) = true ↔ NamesHtml bytes := by
  rw [mentions_iff, List.infix_map_iff]
  simp only [NamesHtml, eq_comm]

theorem isHtml_lowered_iff :
    isHtml (Text.lowered (String.ofList (bytes.map letter))) = true ↔
      bytes = [] ∨ NamesHtml bytes := by
  have htext : Text.lowered (String.ofList (bytes.map letter)) =
      String.ofList (bytes.map (Char.toLower ∘ letter)) := by
    rw [Text.lowered, String.toList_ofList, List.map_map]
  have hlist : (String.ofList (bytes.map (Char.toLower ∘ letter))).toList =
      bytes.map (Char.toLower ∘ letter) := String.toList_ofList
  have hempty : String.ofList (bytes.map (Char.toLower ∘ letter)) = "" ↔ bytes = [] := by
    rw [← String.toList_inj, hlist]
    exact List.map_eq_nil_iff
  rw [isHtml, Bool.or_eq_true, decide_eq_true_eq, htext, hempty, hlist, mentions_letters_iff]

end Fields

/-- Whether no type other than HTML is named in a header field, which may be missing or empty. -/
def NamesNoOther (contentType : Option (List UInt8)) : Prop :=
  ∀ bytes, contentType = some bytes → bytes = [] ∨ NamesHtml bytes

/-- Whether a header field is passed over for one of its bytes. -/
def IsPassedOver (contentType : Option (List UInt8)) : Prop :=
  ∃ bytes, contentType = some bytes ∧ HasHidden bytes

theorem isHtml_mediaType_iff {r : Http.Response} :
    isHtml (mediaType r) = true ↔ NamesNoOther r.contentType ∨ IsPassedOver r.contentType := by
  cases htype : r.contentType with
  | none =>
    have hmissing : isHtml (mediaType r) = true := by simp [mediaType, htype, isHtml]
    exact iff_of_true hmissing (.inl fun bytes h => by cases h)
  | some bytes =>
    have hnames : NamesNoOther (some bytes) ↔ bytes = [] ∨ NamesHtml bytes := by
      simp [NamesNoOther]
    have hpassed : IsPassedOver (some bytes) ↔ HasHidden bytes := by simp [IsPassedOver]
    rw [hnames, hpassed, mediaType, htype, Option.bind_some]
    by_cases hhidden : HasHidden bytes
    · rw [fieldText?_of_hasHidden hhidden]
      exact iff_of_true rfl (.inr hhidden)
    · rw [fieldText?_of_not_hasHidden hhidden, or_iff_left hhidden]
      exact isHtml_lowered_iff

theorem text_eq_ok_iff {r : Http.Response} {body : String} :
    r.text = .ok body ↔ r.body = .ok body := by
  unfold Http.Response.text
  split <;> simp [*]

theorem document_eq_ok_iff {timeout : Nat} {url body : String} {r : Http.Response} :
    document timeout url (.ok r) = .ok body ↔
      200 ≤ r.status ∧ r.status < 300 ∧ r.body = .ok body ∧
        (NamesNoOther r.contentType ∨ IsPassedOver r.contentType) := by
  have hsuccess : r.isSuccess = true ↔ 200 ≤ r.status ∧ r.status < 300 := by
    simp [Http.Response.isSuccess]
  rw [← isHtml_mediaType_iff, ← text_eq_ok_iff, ← and_assoc, ← hsuccess, document]
  cases r.isSuccess <;> cases isHtml (mediaType r) <;> simp

section

open Rehearsal (Session Script Scripted)

/-- A document that is none of HTML, with a letter outside ASCII in its name. -/
def namedPdf : Http.Response := ⟨200, some "application/pdf; name=é".toUTF8.toList, .ok "%PDF"⟩

theorem namedPdf_names_other : ¬ NamesNoOther namedPdf.contentType := by
  intro h
  rcases h _ rfl with hempty | hhtml
  · exact absurd hempty (by decide +kernel)
  · exact absurd (mentions_letters_iff.2 hhtml) (by decide +kernel)

theorem namedPdf_passed_over : IsPassedOver namedPdf.contentType :=
  ⟨_, rfl, 0xC3, by decide +kernel, by decide, .inr (by decide)⟩

def publicPage : Url :=
  ⟨"http", "", none, some (.ipv4 (v4 8 8 8 8)), none, .segments [""], none, none⟩

theorem parse_publicPage : Url.parse "http://8.8.8.8/" = .ok publicPage :=
  ok_of_toOption (by decide +kernel)

theorem publicUrl_publicPage : publicUrl "http://8.8.8.8/" = .ok publicPage := by
  rw [publicUrl_of_denotes parse_publicPage (by decide) rfl (.v4 _)]
  rfl

def publicRequest : Http.Request :=
  ⟨.get, publicPage, [("accept", .text "text/html,application/xhtml+xml"),
    ("user-agent", .text Settings.standard.userAgent)], none⟩

theorem endpointOf_publicRequest : Rehearsal.endpointOf publicRequest = "GET http://8.8.8.8/" := by
  decide +kernel

end

end Harvest.Fetch
