import Harvest.Proofs.Fetch.Acceptance
/-!
Which refused requests pass for failures of the transport. The error for an answer that is no
success tells its status and the URL, and the words by which a failure that may pass is known are
searched in the whole of it. No number has such a word, so the URL decides and the status never does.
-/

namespace Harvest

section

variable {α : Type} {w s t : List α} {a : α}

theorem infix_append_cons_iff (h : a ∉ w) : w <:+: s ++ a :: t ↔ w <:+: s ∨ w <:+: t := by
  constructor
  · rw [List.infix_append_iff, List.infix_cons_iff]
    rintro (hs | (hw | ht) | ⟨front, back, rfl, hfront, hback⟩)
    · exact .inl hs
    · rcases List.prefix_cons_iff.1 hw with rfl | ⟨_, rfl, -⟩
      · exact .inl List.nil_infix
      · exact absurd List.mem_cons_self h
    · exact .inr ht
    · rcases List.prefix_cons_iff.1 hback with rfl | ⟨_, rfl, -⟩
      · exact .inl (by simpa using hfront.isInfix)
      · exact absurd (List.mem_append_right _ List.mem_cons_self) h
  · rintro (hs | ht)
    · exact List.infix_append_of_infix_left hs
    · exact List.infix_append_of_infix_right (List.infix_cons ht)

end

namespace Error

/-- Whether one of the words for a failure that may pass stands anywhere in a text. -/
def MentionsRetry (text : String) : Prop := ∃ w ∈ retryableWords, w.toList <:+: text.toList

theorem isRetryable_http_iff {text : String} :
    (http text).isRetryable = true ↔ MentionsRetry text := by
  simp only [isRetryable, List.any_eq_true, Fetch.mentions_iff, MentionsRetry]

theorem retryableWords_spelling : ∀ w ∈ retryableWords, ' ' ∉ w.toList ∧ 't' ∈ w.toList ∧
    ¬ w.toList <:+: "HTTP".toList ∧ ¬ w.toList <:+: "for".toList := by
  decide +kernel

/-- What is told of an answer besides its URL has none of the words. -/
theorem isRetryable_statusError_iff (status : Nat) (url : String) :
    (Http.statusError status url).isRetryable = true ↔ MentionsRetry url := by
  have htext : ("HTTP " ++ toString status ++ " for " ++ url).toList =
      "HTTP".toList ++ ' ' :: (Nat.toDigits 10 status ++ ' ' :: ("for".toList ++ ' ' ::
        url.toList)) := by
    simp [String.toList_append, ToString.toString]
  rw [Http.statusError, isRetryable_http_iff]
  refine exists_congr fun w => and_congr_right fun hw => ?_
  obtain ⟨hblank, ht, hstart, hfor⟩ := retryableWords_spelling w hw
  have hstatus : ¬ w.toList <:+: Nat.toDigits 10 status := fun h =>
    Url.Address.digits_have_no (by decide) status (h.subset ht)
  rw [htext, infix_append_cons_iff hblank, infix_append_cons_iff hblank,
    infix_append_cons_iff hblank]
  simp only [hstart, hstatus, hfor, false_or]

end Error

namespace Fetch

open Rehearsal (Session)

variable {response : Http.Response}

theorem isSuccess_eq_false (h : ¬ (200 ≤ response.status ∧ response.status < 300)) :
    response.isSuccess = false := by
  rwa [← Bool.not_eq_true, Http.Response.isSuccess, Bool.and_eq_true, decide_eq_true_eq,
    decide_eq_true_eq]

theorem fetch_of_answer {s : Session} {settings : Settings} {protection : Protection} {url : String}
    {r : Http.Request} (hrequest : request protection settings.userAgent url = .ok r)
    (hreply : (s.script.answer settings.requestTimeout r).1.reply = .ok response) :
    (s.fetch settings protection url).1 =
      document settings.requestTimeout url (.ok response) := by
  simp only [Session.fetch, Session.exchange, hrequest, hreply]

/-- A page with a word for a failure of the transport in its path. -/
def connectPage : Url := { publicPage with path := .segments ["connect"] }

theorem publicUrl_connectPage : publicUrl "http://8.8.8.8/connect" = .ok connectPage := by
  have hparse : Url.parse "http://8.8.8.8/connect" = .ok connectPage :=
    ok_of_toOption (by decide +kernel)
  rw [publicUrl_of_denotes hparse (by decide) rfl (.v4 _)]
  rfl

end Fetch
end Harvest
