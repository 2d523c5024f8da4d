import Harvest.Proofs.Regex.Spans
/-!
What the program of a pattern does. A part of a program performs a relation if it leads from its
entry to the place behind it just between spots that are related; the instructions of a pattern
perform what the pattern matches.
-/

namespace Harvest.Regex

def Spot.at (a : Spot) (place : Nat) : Thread := ⟨place, a.pos, a.slots⟩

theorem Inst.step_look (text : Array Char) (t : Thread) (l : Look) (next : Nat) :
    (Inst.look l next).step text t = if l.at text t.pos then [⟨next, t.pos, t.slots⟩] else [] :=
  rfl

/-- Whether an instruction of a program leads from one thread to the other. -/
def Code.Leads (text : Array Char) (code : Code) (t u : Thread) : Prop :=
  ∃ inst, code[t.place]? = some inst ∧ u ∈ inst.step text t

/-- Whether an instruction leads on at either of two places. -/
def Inst.Chooses (text : Array Char) (inst : Inst) (first second : Nat) : Prop :=
  ∀ (a : Spot) place t, t ∈ inst.step text (a.at place) ↔ t = a.at first ∨ t = a.at second

theorem Inst.Chooses.ne_accept {text : Array Char} {inst : Inst} {first second : Nat}
    (h : inst.Chooses text first second) : inst ≠ .accept := by
  rintro rfl
  have hstep := (h ⟨0, []⟩ 0 _).2 (.inl rfl)
  simp [step] at hstep

/-- Whether `n` instructions in a row do. -/
def Code.Path (text : Array Char) (code : Code) : Nat → Thread → Thread → Prop
  | 0, t, u => t = u
  | n + 1, t, v => ∃ u, code.Leads text t u ∧ Path text code n u v

/-- The instructions from `lo` to `hi` lead from `entry` to `next` just as a relation says. A way
    out of them leads through `next`; it is no longer from there than it is from `entry`. -/
structure Code.Performs (text : Array Char) (code : Code) (lo hi entry next : Nat)
    (r : Spot → Spot → Prop) : Prop where
  complete : ∀ a b, r a b → ∃ n, code.Path text n (a.at entry) (b.at next)
  sound : ∀ n a t, code.Path text n (a.at entry) t → t.place < lo ∨ hi ≤ t.place →
    ∃ m b, m ≤ n ∧ r a b ∧ code.Path text m (b.at next) t

/-- Whether two programs have the same instructions from `lo` to `hi`. -/
def Code.Agrees (code code' : Code) (lo hi : Nat) : Prop :=
  ∀ i, lo ≤ i → i < hi → code'[i]? = code[i]?

/-- What `fragment` puts behind a program leaves the program as it is and performs a relation,
    whatever is put behind it later and changed in front of it. -/
structure Code.Builds (text : Array Char) (fragment : Nat → Code → Nat × Code)
    (r : Spot → Spot → Prop) : Prop where
  grows : ∀ next code, code.size ≤ (fragment next code).2.size
  keeps : ∀ next code, Agrees code (fragment next code).2 0 code.size
  enters : ∀ next code, next < code.size → (fragment next code).1 < (fragment next code).2.size
  goesOn : ∀ next code i, code.size ≤ i → (fragment next code).2[i]? ≠ some .accept
  performs : ∀ next code code', next < code.size →
    Agrees (fragment next code).2 code' code.size (fragment next code).2.size →
    Performs text code' code.size (fragment next code).2.size (fragment next code).1 next r

namespace Code

variable {text : Array Char} {code code' : Code} {lo lo' mid hi hi' entry next : Nat}
  {r s : Spot → Spot → Prop}

theorem path_add {m n : Nat} {t u v : Thread} (h : code.Path text m t u)
    (h' : code.Path text n u v) : code.Path text (m + n) t v := by
  induction m generalizing t with
  | zero =>
    cases h
    simpa using h'
  | succ m ih =>
    obtain ⟨w, hw, hrest⟩ := h
    rw [Nat.add_right_comm]
    exact ⟨w, hw, ih hrest⟩

theorem path_of_leads {n : Nat} {t u v : Thread} (h : code.Leads text t u)
    (h' : code.Path text n u v) : code.Path text (n + 1) t v :=
  ⟨u, h, h'⟩

namespace Performs

theorem mono (h : Performs text code lo hi entry next r) (hlo : lo' ≤ lo) (hhi : hi ≤ hi') :
    Performs text code lo' hi' entry next r := by
  refine ⟨h.complete, fun n a t hpath hout => h.sound n a t hpath ?_⟩
  omega

theorem skip : Performs text code lo hi next next (fun a b => a = b) := by
  constructor
  · rintro a b rfl
    exact ⟨0, rfl⟩
  · intro n a t hpath _
    exact ⟨n, a, Nat.le_refl n, rfl, hpath⟩

theorem andThen {later : Nat} (hr : Performs text code lo hi entry later r)
    (hs : Performs text code lo hi later next s) :
    Performs text code lo hi entry next (fun a c => ∃ b, r a b ∧ s b c) := by
  constructor
  · rintro a c ⟨b, hab, hbc⟩
    obtain ⟨m, hm⟩ := hr.complete a b hab
    obtain ⟨n, hn⟩ := hs.complete b c hbc
    exact ⟨m + n, path_add hm hn⟩
  · intro n a t hpath hout
    obtain ⟨m, b, hm, hab, hrest⟩ := hr.sound n a t hpath hout
    obtain ⟨k, c, hk, hbc, hlast⟩ := hs.sound m b t hrest hout
    exact ⟨k, c, by omega, ⟨b, hab, hbc⟩, hlast⟩

/-- An instruction in front of a place, as a part of its own. -/
theorem single {inst : Inst} (hinst : code[lo]? = some inst)
    (hstep : ∀ (a : Spot) t, t ∈ inst.step text (a.at lo) ↔ ∃ b, r a b ∧ t = b.at next) :
    Performs text code lo (lo + 1) lo next r := by
  constructor
  · intro a b hab
    exact ⟨1, b.at next, ⟨inst, hinst, (hstep a _).2 ⟨b, hab, rfl⟩⟩, rfl⟩
  · intro n a t hpath hout
    cases n with
    | zero =>
      cases hpath
      simp only [Spot.at] at hout
      omega
    | succ n =>
      obtain ⟨u, ⟨inst', hinst', hu⟩, hrest⟩ := hpath
      obtain rfl : inst' = inst := Option.some.inj (hinst'.symm.trans hinst)
      obtain ⟨b, hab, rfl⟩ := (hstep a u).1 hu
      exact ⟨n, b, by omega, hab, hrest⟩

/-- A choice between two ways through the instructions before it. -/
theorem choice {first second : Nat} {inst : Inst} (hinst : code[mid]? = some inst)
    (hstep : inst.Chooses text first second)
    (hr : Performs text code lo mid first next r) (hs : Performs text code lo mid second next s)
    (hlo : lo ≤ mid) :
    Performs text code lo (mid + 1) mid next (fun a b => r a b ∨ s a b) := by
  constructor
  · rintro a b (hab | hab)
    · obtain ⟨n, hn⟩ := hr.complete a b hab
      exact ⟨n + 1, path_of_leads ⟨inst, hinst, (hstep a _ _).2 (.inl rfl)⟩ hn⟩
    · obtain ⟨n, hn⟩ := hs.complete a b hab
      exact ⟨n + 1, path_of_leads ⟨inst, hinst, (hstep a _ _).2 (.inr rfl)⟩ hn⟩
  · intro n a t hpath hout
    cases n with
    | zero =>
      cases hpath
      simp only [Spot.at] at hout
      omega
    | succ n =>
      obtain ⟨u, ⟨inst', hinst', hu⟩, hrest⟩ := hpath
      obtain rfl : inst' = inst := Option.some.inj (hinst'.symm.trans hinst)
      rcases (hstep a _ u).1 hu with rfl | rfl
      · obtain ⟨m, b, hm, hab, hlast⟩ := hr.sound n a t hrest (by omega)
        exact ⟨m, b, by omega, .inl hab, hlast⟩
      · obtain ⟨m, b, hm, hab, hlast⟩ := hs.sound n a t hrest (by omega)
        exact ⟨m, b, by omega, .inr hab, hlast⟩

/-- A choice between a part that comes back to it and the place behind: any number of rounds. The
    induction on the length of the way out works since the choice itself takes a step. -/
theorem loop {into : Nat} {inst : Inst} (hinst : code[lo]? = some inst)
    (hstep : inst.Chooses text into next)
    (hr : Performs text code (lo + 1) hi into lo r) (hhi : lo + 1 ≤ hi) :
    Performs text code lo hi lo next (fun a b => ∃ n, Rounds r n a b) := by
  constructor
  · rintro a b ⟨n, hab⟩
    induction n generalizing a with
    | zero =>
      obtain rfl : a = b := hab
      exact ⟨1, _, ⟨inst, hinst, (hstep a _ _).2 (.inr rfl)⟩, rfl⟩
    | succ n ih =>
      obtain ⟨c, hac, hcb⟩ := hab
      obtain ⟨m, hm⟩ := hr.complete a c hac
      obtain ⟨k, hk⟩ := ih c hcb
      exact ⟨m + k + 1, path_of_leads ⟨inst, hinst, (hstep a _ _).2 (.inl rfl)⟩ (path_add hm hk)⟩
  · intro n
    induction n using Nat.strongRecOn with
    | ind n ih =>
      intro a t hpath hout
      cases n with
      | zero =>
        cases hpath
        simp only [Spot.at] at hout
        omega
      | succ n =>
        obtain ⟨u, ⟨inst', hinst', hu⟩, hrest⟩ := hpath
        obtain rfl : inst' = inst := Option.some.inj (hinst'.symm.trans hinst)
        rcases (hstep a _ u).1 hu with rfl | rfl
        · obtain ⟨m, c, hm, hac, hback⟩ := hr.sound n a t hrest (by omega)
          obtain ⟨k, b, hk, ⟨rounds, hcb⟩, hlast⟩ := ih m (by omega) c t hback hout
          exact ⟨k, b, by omega, ⟨rounds + 1, c, hac, hcb⟩, hlast⟩
        · exact ⟨n, a, by omega, ⟨0, rfl⟩, hrest⟩

theorem congr (h : Performs text code lo hi entry next r) (hrs : ∀ a b, r a b ↔ s a b) :
    Performs text code lo hi entry next s := by
  have hrs' : r = s := by
    funext a b
    exact propext (hrs a b)
  rwa [hrs'] at h

end Performs

theorem agrees_refl : Agrees code code lo hi := fun _ _ _ => rfl

theorem Agrees.mono (h : Agrees code code' lo hi) (hlo : lo ≤ lo') (hhi : hi' ≤ hi) :
    Agrees code code' lo' hi' :=
  fun i hi hi' => h i (by omega) (by omega)

theorem Agrees.trans {code'' : Code} (h : Agrees code code' lo hi)
    (h' : Agrees code' code'' lo hi) : Agrees code code'' lo hi :=
  fun i hlo hhi => (h' i hlo hhi).trans (h i hlo hhi)

theorem agrees_push (i : Inst) : Agrees code (code.push i) 0 code.size := by
  intro j _ hj
  rw [Array.getElem?_push, if_neg (by omega)]

theorem chooses_choose (greedy : Bool) {into past : Nat} :
    (choose greedy into past).Chooses text into past := by
  intro a place t
  cases greedy
  · simp [choose, Inst.step, Spot.at, or_comm]
  · simp [choose, Inst.step, Spot.at]

namespace Builds

variable {fragment fragment' : Nat → Code → Nat × Code}

theorem congr (h : Builds text fragment r) (hrs : ∀ a b, r a b ↔ s a b) :
    Builds text fragment s :=
  ⟨h.grows, h.keeps, h.enters, h.goesOn, fun next code code' hnext hagrees =>
    (h.performs next code code' hnext hagrees).congr hrs⟩

theorem skip : Builds text (fun next code => (next, code)) (fun a b => a = b) :=
  ⟨fun _ _ => Nat.le_refl _, fun _ _ => agrees_refl, fun _ _ h => h,
    fun _ _ i hi => by simp [Array.getElem?_eq_none hi], fun _ _ _ _ _ => .skip⟩

/-- One instruction, put in front of the place where it goes on. -/
theorem single {inst : Nat → Inst} (hinst : ∀ next, inst next ≠ .accept)
    (hstep : ∀ next place (a : Spot) t,
      t ∈ (inst next).step text (a.at place) ↔ ∃ b, r a b ∧ t = b.at next) :
    Builds text (fun next code => code.emit (inst next)) r := by
  constructor
  · simp [emit]
  · exact fun next code => agrees_push _
  · simp [emit]
  · intro next code i hi
    simp only [emit, Array.getElem?_push]
    split
    · simpa using hinst next
    · simp [Array.getElem?_eq_none hi]
  · intro next code code' hnext hagrees
    have hinst : code'[code.size]? = some (inst next) := by
      rw [hagrees code.size (Nat.le_refl _) (by simp [emit])]
      simp [emit]
    simpa [emit] using Performs.single hinst (hstep next code.size)

theorem goesOn_of_goesOn (h : Builds text fragment r)
    (hcode : ∀ i, lo ≤ i → code[i]? ≠ some .accept) {next : Nat} :
    ∀ i, lo ≤ i → (fragment next code).2[i]? ≠ some .accept := by
  intro i hi
  by_cases hsize : code.size ≤ i
  · exact h.goesOn next code i hsize
  · rw [h.keeps next code i (Nat.zero_le i) (by omega)]
    exact hcode i hi

/-- One fragment after the other; what comes last is put down first. -/
theorem andThen (h : Builds text fragment r) (h' : Builds text fragment' s) :
    Builds text (fun next code => fragment (fragment' next code).1 (fragment' next code).2)
      (fun a c => ∃ b, r a b ∧ s b c) := by
  constructor
  · exact fun next code => Nat.le_trans (h'.grows next code) (h.grows _ _)
  · exact fun next code => (h'.keeps next code).trans
      ((h.keeps _ _).mono (Nat.le_refl _) (h'.grows next code))
  · exact fun next code hnext => h.enters _ _ (h'.enters next code hnext)
  · exact fun next code => h.goesOn_of_goesOn (h'.goesOn next code)
  · intro next code code' hnext hagrees
    have hgrows := h'.grows next code
    have hgrows' := h.grows (fragment' next code).1 (fragment' next code).2
    have hlast := h'.performs next code code' hnext
      (((h.keeps _ _).mono (Nat.zero_le _) (Nat.le_refl _)).trans
        (hagrees.mono (Nat.le_refl _) hgrows'))
    have hfirst := h.performs _ _ code' (h'.enters next code hnext)
      (hagrees.mono hgrows (Nat.le_refl _))
    exact (hfirst.mono hgrows (Nat.le_refl _)).andThen (hlast.mono (Nat.le_refl _) hgrows')

/-- Two fragments one of which is chosen. -/
theorem choice {inst : Nat → Nat → Inst} (h : Builds text fragment r)
    (h' : Builds text fragment' s)
    (hstep : ∀ first second, (inst first second).Chooses text first second) :
    Builds text
      (fun next code =>
        let (second, code) := fragment' next code
        let (first, code) := fragment next code
        code.emit (inst first second))
      (fun a b => r a b ∨ s a b) := by
  constructor
  · intro next code
    have hgrows := h'.grows next code
    have hgrows' := h.grows next (fragment' next code).2
    simp only [emit, Array.size_push]
    omega
  · intro next code
    have hgrows := h'.grows next code
    have hgrows' := h.grows next (fragment' next code).2
    have hkeeps := (h.keeps next (fragment' next code).2).mono (Nat.le_refl _) hgrows
    exact ((h'.keeps next code).trans hkeeps).trans
      ((agrees_push _).mono (Nat.le_refl _) (by omega))
  · intro next code hnext
    simp [emit]
  · intro next code i hi
    simp only [emit, Array.getElem?_push]
    split
    · intro haccept
      exact (hstep _ _).ne_accept (Option.some.inj haccept)
    · exact h.goesOn_of_goesOn (h'.goesOn next code) i hi
  · intro next code code' hnext hagrees
    have hgrows := h'.grows next code
    have hgrows' := h.grows next (fragment' next code).2
    simp only [emit, Array.size_push] at hagrees ⊢
    have hinst : code'[(fragment next (fragment' next code).2).2.size]? = some _ :=
      (hagrees _ (by omega) (by omega)).trans Array.getElem?_push_size
    have hfront : Agrees (fragment next (fragment' next code).2).2 code' code.size
        (fragment next (fragment' next code).2).2.size :=
      ((agrees_push _).mono (Nat.zero_le _) (Nat.le_refl _)).trans
        (hagrees.mono (Nat.le_refl _) (by omega))
    have hsecond := h'.performs next code code' hnext
      (((h.keeps _ _).mono (Nat.zero_le _) (Nat.le_refl _)).trans
        (hfront.mono (Nat.le_refl _) hgrows'))
    have hfirst := h.performs next _ code' (by omega) (hfront.mono hgrows (Nat.le_refl _))
    exact .choice hinst (hstep _ _) (hfirst.mono hgrows (Nat.le_refl _))
      (hsecond.mono (Nat.le_refl _) hgrows') (by omega)

/-- `n` copies of a fragment. -/
theorem copies (h : Builds text fragment r) (n : Nat) :
    Builds text (Code.copies fragment n) (Rounds r n) := by
  induction n with
  | zero => exact skip
  | succ n ih => exact h.andThen ih

/-- At most `n` copies of a fragment. -/
theorem atMost (h : Builds text fragment r) (greedy : Bool) (n : Nat) :
    Builds text (fun next code => Code.atMost fragment greedy next n code)
      (fun a b => ∃ k, k ≤ n ∧ Rounds r k a b) := by
  induction n with
  | zero =>
    refine skip.congr fun a b => ⟨fun h => ⟨0, Nat.le_refl 0, h⟩, ?_⟩
    rintro ⟨k, hk, hab⟩
    obtain rfl : k = 0 := by omega
    exact hab
  | succ n ih =>
    refine (choice (h.andThen ih) skip fun _ _ => chooses_choose greedy).congr fun a b => ?_
    constructor
    · rintro (⟨c, hac, k, hk, hcb⟩ | rfl)
      · exact ⟨k + 1, by omega, c, hac, hcb⟩
      · exact ⟨0, by omega, rfl⟩
    · rintro ⟨k, hk, hab⟩
      cases k with
      | zero => exact .inr hab
      | succ k =>
        obtain ⟨c, hac, hcb⟩ := hab
        exact .inl ⟨c, hac, k, by omega, hcb⟩

section loop

variable (greedy : Bool)

theorem size_loop (next : Nat) (code : Code) :
    (Code.loop fragment greedy next code).2.2.size =
      (fragment code.size (code.push (.split next next))).2.size := by
  simp [Code.loop, emit]

theorem loop_grows (h : Builds text fragment r) (next : Nat) (code : Code) :
    code.size + 1 ≤ (Code.loop fragment greedy next code).2.2.size := by
  rw [size_loop]
  simpa using h.grows code.size (code.push (.split next next))

theorem loop_keeps (h : Builds text fragment r) (next : Nat) (code : Code) :
    Agrees code (Code.loop fragment greedy next code).2.2 0 code.size := by
  intro i hlo hi
  have hkeeps := h.keeps code.size (code.push (.split next next)) i hlo
    (by simp only [Array.size_push]; omega)
  simp only [Code.loop, emit, Array.set!_eq_setIfInBounds]
  rw [Array.getElem?_setIfInBounds_ne (by omega), hkeeps]
  exact agrees_push _ i hlo hi

theorem loop_enters (h : Builds text fragment r) (next : Nat) (code : Code) :
    (Code.loop fragment greedy next code).1 < (Code.loop fragment greedy next code).2.2.size := by
  rw [size_loop]
  exact h.enters code.size (code.push (.split next next)) (by simp)

theorem loop_goesOn (h : Builds text fragment r) (next : Nat) (code : Code) :
    ∀ i, code.size ≤ i → (Code.loop fragment greedy next code).2.2[i]? ≠ some .accept := by
  intro i hi
  simp only [Code.loop, emit, Array.set!_eq_setIfInBounds, Array.getElem?_setIfInBounds]
  split
  · split
    · cases greedy <;> simp [choose]
    · simp
  · refine h.goesOn code.size (code.push (.split next next)) i ?_
    simp only [Array.size_push]
    omega

/-- The part that is repeated, as it is entered for another round. -/
theorem loop_part (h : Builds text fragment r) {next : Nat} {code code' : Code}
    (hagrees : Agrees (Code.loop fragment greedy next code).2.2 code' code.size
      (Code.loop fragment greedy next code).2.2.size) :
    Performs text code' (code.size + 1) (Code.loop fragment greedy next code).2.2.size
      (Code.loop fragment greedy next code).1 code.size r := by
  have hpart := h.performs code.size (code.push (.split next next)) code' (by simp)
  rw [size_loop] at hagrees ⊢
  simp only [Array.size_push] at hpart
  refine hpart fun i hlo hi => ?_
  rw [hagrees i (by omega) hi]
  simp only [Code.loop, emit, Array.set!_eq_setIfInBounds]
  rw [Array.getElem?_setIfInBounds_ne (by omega)]

theorem loop_around (h : Builds text fragment r) {next : Nat} {code code' : Code}
    (hagrees : Agrees (Code.loop fragment greedy next code).2.2 code' code.size
      (Code.loop fragment greedy next code).2.2.size) :
    Performs text code' code.size (Code.loop fragment greedy next code).2.2.size code.size next
      (fun a b => ∃ n, Rounds r n a b) := by
  have hgrows := loop_grows greedy h next code
  refine .loop ?_ (chooses_choose greedy) (loop_part greedy h hagrees) hgrows
  rw [hagrees _ (Nat.le_refl _) (by omega)]
  rw [size_loop] at hgrows
  simp only [Code.loop, emit, Array.set!_eq_setIfInBounds]
  rw [Array.getElem?_setIfInBounds_self_of_lt (by omega)]

/-- Any number of rounds of a fragment, entered at the choice of another one. -/
theorem loop (h : Builds text fragment r) :
    Builds text
      (fun next code =>
        ((Code.loop fragment greedy next code).2.1, (Code.loop fragment greedy next code).2.2))
      (fun a b => ∃ n, Rounds r n a b) := by
  constructor
  · intro next code
    have hgrows := loop_grows greedy h next code
    simp only
    omega
  · exact loop_keeps greedy h
  · intro next code hnext
    exact loop_grows greedy h next code
  · exact loop_goesOn greedy h
  · intro next code code' hnext hagrees
    exact loop_around greedy h hagrees

/-- At least one round, entered at the first. -/
theorem loopOnce (h : Builds text fragment r) :
    Builds text
      (fun next code =>
        ((Code.loop fragment greedy next code).1, (Code.loop fragment greedy next code).2.2))
      (fun a c => ∃ b, r a b ∧ ∃ n, Rounds r n b c) := by
  constructor
  · intro next code
    have hgrows := loop_grows greedy h next code
    simp only
    omega
  · exact loop_keeps greedy h
  · intro next code hnext
    exact loop_enters greedy h next code
  · exact loop_goesOn greedy h
  · intro next code code' hnext hagrees
    exact ((loop_part greedy h hagrees).mono (by omega) (Nat.le_refl _)).andThen
      (loop_around greedy h hagrees)

end loop

/-- What is repeated takes at least `least` rounds and at most `most`. -/
theorem repetition (h : Builds text fragment r) (consumes greedy : Bool) (least : Nat)
    (most : Option Nat) :
    Builds text (Code.repetition fragment consumes least most greedy)
      (fun a b => ∃ n, InBounds least most n ∧ Rounds r n a b) := by
  cases most with
  | some m =>
    refine ((h.copies least).andThen (h.atMost greedy (m - least))).congr fun a c => ?_
    constructor
    · rintro ⟨b, hab, n, hn, hbc⟩
      refine ⟨least + n, ⟨by omega, ?_⟩, rounds_add hab hbc⟩
      rintro _ ⟨⟩
      omega
    · rintro ⟨n, ⟨hleast, hmost⟩, hac⟩
      have hn := hmost m rfl
      obtain ⟨k, rfl⟩ := Nat.exists_eq_add_of_le hleast
      obtain ⟨b, hab, hbc⟩ := exists_of_rounds_add hac
      exact ⟨b, hab, k, by omega, hbc⟩
  | none =>
    have hunbound : ∀ n, InBounds least none n ↔ least ≤ n := by simp [InBounds]
    simp only [hunbound]
    cases least with
    | zero =>
      cases consumes with
      | true => exact (h.loop greedy).congr fun a b => by simp
      | false =>
        refine (choice (h.loopOnce greedy) skip fun _ _ => chooses_choose greedy).congr
          fun a c => ?_
        constructor
        · rintro (⟨b, hab, n, hbc⟩ | rfl)
          · exact ⟨n + 1, Nat.zero_le _, b, hab, hbc⟩
          · exact ⟨0, Nat.le_refl _, rfl⟩
        · rintro ⟨n, -, hac⟩
          cases n with
          | zero => exact .inr hac
          | succ n =>
            obtain ⟨b, hab, hbc⟩ := hac
            exact .inl ⟨b, hab, n, hbc⟩
    | succ least =>
      refine ((h.copies least).andThen (h.loopOnce greedy)).congr fun a c => ?_
      constructor
      · rintro ⟨b, hab, d, hbd, n, hdc⟩
        exact ⟨least + (n + 1), by omega, rounds_add hab ⟨d, hbd, hdc⟩⟩
      · rintro ⟨n, hn, hac⟩
        obtain ⟨k, rfl⟩ := Nat.exists_eq_add_of_le hn
        rw [Nat.add_assoc, Nat.add_comm 1 k] at hac
        obtain ⟨b, hab, d, hbd, hdc⟩ := exists_of_rounds_add hac
        exact ⟨b, hab, d, hbd, k, hdc⟩


end Builds
end Code

variable {text : Array Char}

theorem Code.builds_save (slot : Nat) :
    Builds text (fun next code => code.emit (.save slot next)) (fun a b => b = a.save slot) :=
  .single (by simp) fun next place a t => by simp [Inst.step, Spot.at, Spot.save]

/-- The instructions of a pattern perform what the pattern matches. -/
theorem Pattern.builds_assemble (text : Array Char) (p : Pattern) :
    Code.Builds text p.assemble (p.Matches text) := by
  induction p with
  | empty => exact .skip
  | char set =>
    refine .single (by simp) fun next place a t => ?_
    cases hc : text[a.pos]? with
    | none => simp [Inst.step, Spot.at, Matches, hc]
    | some c => by_cases hset : set.contains c <;> simp [Inst.step, Spot.at, Matches, hc, hset]
  | look l =>
    refine .single (by simp) fun next place a t => ?_
    cases hl : l.at text a.pos <;> simp [Inst.step_look, Spot.at, Matches, hl]
  | seq p q hp hq => exact hp.andThen hq
  | alt p q hp hq => exact .choice hp hq fun first second a place t => by simp [Inst.step, Spot.at]
  | rep p least most greedy hp => exact hp.repetition p.consumes greedy least most
  | group i p hp =>
    refine ((Code.builds_save (2 * i)).andThen (hp.andThen (Code.builds_save (2 * i + 1)))).congr
      fun a d => ?_
    simp [Matches]

section

variable (p : Pattern)

theorem Pattern.program_accepts_iff {i : Nat} :
    p.program.code[i]? = some .accept ↔ i = 0 := by
  have hbuilds := (Pattern.group 0 p).builds_assemble #[]
  constructor
  · intro h
    cases i with
    | zero => rfl
    | succ i => exact absurd h (hbuilds.goesOn 0 #[.accept] (i + 1) (by simp))
  · rintro rfl
    exact hbuilds.keeps 0 #[.accept] 0 (Nat.le_refl 0) (by simp)

/-- The program of a pattern comes to its end just where the pattern matches. -/
theorem Pattern.path_program_iff (a b : Spot) :
    (∃ n, p.program.code.Path text n (a.at p.program.entry) (b.at 0)) ↔
      (Pattern.group 0 p).Matches text a b := by
  have hperforms := ((Pattern.group 0 p).builds_assemble text).performs 0 #[.accept]
    p.program.code (by simp) Code.agrees_refl
  constructor
  · rintro ⟨n, hn⟩
    obtain ⟨m, c, -, hac, hrest⟩ := hperforms.sound n a (b.at 0) hn (.inl (by simp [Spot.at]))
    cases m with
    | zero =>
      obtain ⟨-, hpos, hslots⟩ := Thread.mk.inj hrest
      obtain rfl : c = b := by
        cases c
        cases b
        simp_all
      exact hac
    | succ m =>
      obtain ⟨u, ⟨inst, hinst, hu⟩, -⟩ := hrest
      obtain rfl : inst = .accept :=
        Option.some.inj (hinst.symm.trans (p.program_accepts_iff.2 rfl))
      simp [Inst.step] at hu
  · exact hperforms.complete a b

end
end Harvest.Regex
