import Harvest.Proofs.Sync.Tokens
/-!
The lengths of pauses. They grow with the errors up to a cap, and whether all of them can be had shows
at the cap. Settings are not refused for it: a pause that would be longer than every delay is found out
when it begins, after the server was stopped.
-/

namespace Harvest

namespace Settings

variable {s t : Settings} {m n bound delay : Nat}

theorem validate_eq_ok_iff :
    s.validate = .ok t ↔ t = s ∧ s.attempts ≠ 0 ∧ s.pauseThreshold ≠ 0 := by
  unfold validate
  split_ifs with hattempts hthreshold
  · simp [hattempts]
  · simp [hthreshold]
  · simp [hattempts, hthreshold, eq_comm]

/-- Nothing is asked of the unit and of the cap. -/
theorem validate_backoff (h : s.validate = .ok s) (unit cap : Nat) :
    validate { s with backoffUnit := unit, backoffCap := cap } =
      .ok { s with backoffUnit := unit, backoffCap := cap } :=
  validate_eq_ok_iff.2 ⟨rfl, (validate_eq_ok_iff.1 h).2⟩

theorem resumeDelay?_eq_some_iff : s.resumeDelay? n = some delay ↔
    delay = s.backoffUnit * min n s.backoffCap ∧ delay < delayLimit := by
  unfold resumeDelay?
  dsimp only
  split_ifs with h
  · exact ⟨fun he => ⟨(Option.some.inj he).symm, Option.some.inj he ▸ h⟩,
      fun he => congrArg some he.1.symm⟩
  · refine ⟨nofun, fun he => absurd ?_ h⟩
    exact he.1 ▸ he.2

theorem resumeDelay?_eq_none_iff : s.resumeDelay? n = none ↔
    delayLimit ≤ s.backoffUnit * min n s.backoffCap := by
  unfold resumeDelay?
  dsimp only
  split_ifs with h
  · exact ⟨nofun, fun hle => absurd h (Nat.not_lt.2 hle)⟩
  · exact ⟨fun _ => Nat.le_of_not_lt h, fun _ => rfl⟩

/-- With fewer errors the pause is not longer, and there is one if there is one with more. -/
theorem exists_resumeDelay?_of_le (hmn : m ≤ n) (hn : s.resumeDelay? n = some delay) :
    ∃ shorter ≤ delay, s.resumeDelay? m = some shorter := by
  obtain ⟨rfl, hlt⟩ := resumeDelay?_eq_some_iff.1 hn
  have hle : s.backoffUnit * min m s.backoffCap ≤ s.backoffUnit * min n s.backoffCap :=
    Nat.mul_le_mul_left _ (by omega)
  exact ⟨_, hle, resumeDelay?_eq_some_iff.2 ⟨rfl, Nat.lt_of_le_of_lt hle hlt⟩⟩

theorem resumeDelay?_of_cap_le (h : s.backoffCap ≤ n) :
    s.resumeDelay? n = s.resumeDelay? s.backoffCap := by
  unfold resumeDelay?
  rw [Nat.min_eq_right h, Nat.min_self]

/-- Whether there is a pause for every number of errors, of numbers that come up to the cap. -/
theorem isSome_resumeDelay?_iff (hbound : s.backoffCap ≤ bound) :
    (∀ n ≤ bound, (s.resumeDelay? n).isSome) ↔ s.backoffUnit * s.backoffCap < delayLimit := by
  constructor
  · intro h
    obtain ⟨delay, hdelay⟩ := Option.isSome_iff_exists.1 (h s.backoffCap hbound)
    obtain ⟨rfl, hlt⟩ := resumeDelay?_eq_some_iff.1 hdelay
    rwa [Nat.min_self] at hlt
  · intro hlt n _
    have hle : s.backoffUnit * min n s.backoffCap ≤ s.backoffUnit * s.backoffCap :=
      Nat.mul_le_mul_left _ (Nat.min_le_right ..)
    exact Option.isSome_iff_exists.2
      ⟨_, resumeDelay?_eq_some_iff.2 ⟨rfl, Nat.lt_of_le_of_lt hle hlt⟩⟩

end Settings

namespace Sync.Client

variable {c : Client} {id : EntryId} {e : Entry}

/-- What a pause comes to. -/
structure Pausing (c : Client) (id : EntryId) (e : Entry) (next : List Next) : Prop where
  /-- Whatever its length is, the server is stopped and waits for its resume. -/
  stops : Client.entry? (c.pause id next).1 id = some (e.retimed (some (.resume, c.issued.length)))
  /-- A pause that has a length is told of. A task waits for its end, and the one that pauses goes on. -/
  waits : ∀ delay, c.settings.resumeDelay? e.errors = some delay →
    (c.pause id next).1.signs = c.signs ++ [(c.now.clock, .notice (.pausing e.server delay))] ∧
      (c.pause id next).1.tasks =
        c.tasks ++ [⟨c.taskCount, .turn, [.beginPause id c.issued.length delay e.server.name]⟩] ∧
      (c.pause id next).2 = .goesOn next
  /-- Without a length nothing more is done, and the task that pauses has come to its end. -/
  ends : c.settings.resumeDelay? e.errors = none →
    (c.pause id next).1.signs = c.signs ∧ (c.pause id next).1.tasks = c.tasks ∧
      (c.pause id next).2 = .ends

theorem pausing (he : c.entry? id = some e) (next : List Next) : Pausing c id e next := by
  have hentry : Client.entry? (c.retime id (some .resume)) id =
      some (e.retimed (some (.resume, c.issued.length))) := by
    rw [entry?_retime, he]
    simp
  have hpause := pause_eq c id next
  simp only [hentry, Entry.errors_retimed] at hpause
  cases hdelay : c.settings.resumeDelay? e.errors with
  | none =>
    simp only [hdelay] at hpause
    refine ⟨?_, fun delay h => ?_, fun _ => ?_⟩
    · rw [hpause]
      exact hentry
    · cases hdelay.symm.trans h
    · rw [hpause]
      exact ⟨rfl, rfl, rfl⟩
  | some delay =>
    simp only [hdelay] at hpause
    refine ⟨?_, fun other h => ?_, fun h => ?_⟩
    · rw [hpause]
      exact hentry
    · obtain rfl : delay = other := Option.some.inj (hdelay.symm.trans h)
      rw [hpause]
      exact ⟨rfl, rfl, rfl⟩
    · cases hdelay.symm.trans h

/-- Settings with which a client can run may have any unit and any cap. There are pauses for all numbers
    of errors exactly if the unit times the cap is a delay. Where there is one its length is the unit
    times the errors up to the cap: fewer errors give none that is longer, and from the cap on it
    stays the same. When it has to begin, the server is stopped first. -/
theorem pause_lengths {s : Settings} (hs : s.validate = .ok s) :
    (∀ unit cap, Settings.validate { s with backoffUnit := unit, backoffCap := cap } =
      .ok { s with backoffUnit := unit, backoffCap := cap }) ∧
    (∀ bound, s.backoffCap ≤ bound → ((∀ n ≤ bound, (s.resumeDelay? n).isSome) ↔
      s.backoffUnit * s.backoffCap < Settings.delayLimit)) ∧
    (∀ n delay, s.resumeDelay? n = some delay ↔
      delay = s.backoffUnit * min n s.backoffCap ∧ delay < Settings.delayLimit) ∧
    (∀ m n delay, m ≤ n → s.resumeDelay? n = some delay →
      ∃ shorter ≤ delay, s.resumeDelay? m = some shorter) ∧
    (∀ n, s.backoffCap ≤ n → s.resumeDelay? n = s.resumeDelay? s.backoffCap) ∧
    ∀ (c : Client) (id : EntryId) (e : Entry) (next : List Next), c.settings = s →
      c.entry? id = some e → Pausing c id e next :=
  ⟨Settings.validate_backoff hs, fun _ => Settings.isSome_resumeDelay?_iff,
    fun _ _ => Settings.resumeDelay?_eq_some_iff, fun _ _ _ => Settings.exists_resumeDelay?_of_le,
    fun _ => Settings.resumeDelay?_of_cap_le, fun _ _ _ next _ he => pausing he next⟩

/-- With the greatest unit of 64 bits, the pause after 1000 errors is the last one. After one error more
    the server is stopped for good. -/
theorem pause_lengths_greatest :
    let s : Settings :=
      { Settings.standard with backoffUnit := 18446744073709551615, backoffCap := 4294967295 }
    let c : Client := { blank s with entries := [{ Entry.new nowhere with errors := 1001 }] }
    s.validate = .ok s ∧ s.resumeDelay? 1000 = some 18446744073709551615000 ∧
      ¬ (∀ n ≤ 4294967295, (s.resumeDelay? n).isSome) ∧
      (c.pause 0 []).1.tasks = [] ∧ (c.pause 0 []).2 = .ends := by
  intro s c
  have hs : s.validate = .ok s := rfl
  obtain ⟨-, hall, hsome, -, -, hpauses⟩ := pause_lengths hs
  have hnone : s.resumeDelay? 1001 = none := Settings.resumeDelay?_eq_none_iff.2 (by decide)
  obtain ⟨-, htasks, hends⟩ := (hpauses c 0 _ [] rfl rfl).ends hnone
  refine ⟨hs, (hsome 1000 _).2 (by decide), fun h => ?_, htasks, hends⟩
  exact absurd ((hall 4294967295 (by decide)).1 h) (by decide)

end Sync.Client
end Harvest
