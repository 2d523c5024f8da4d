import Harvest.Proofs.Regex.Assembly
import Harvest.Regex.Basic
/-!
What a search finds. A thread on the stack leads to what is found, and what was visited without a
find is closed under steps and accepts nowhere: so a search that finds nothing has not missed a
match, though it visits an instruction only once at each position.
-/

namespace Harvest.Regex

/-- Whether threads agree but for the positions that they saved. -/
def Thread.Alike (t u : Thread) : Prop := t.place = u.place ∧ t.pos = u.pos

/-- Whether the instruction of a thread was visited at its position. What is outside of the
    program counts as visited. -/
def Thread.IsSeen (t : Thread) (size : Nat) (seen : Visited) : Prop :=
  seen.getD (t.place * (size + 1) + t.pos) true = true

/-- Whether a thread leads to the end of a program, with the positions saved by then. -/
def Code.Accepts (text : Array Char) (code : Code) (t : Thread) (slots : Slots) : Prop :=
  ∃ n u, code.Path text n t u ∧ code[u.place]? = some .accept ∧ u.slots = slots

/-- What was visited accepts nowhere and goes on at what was visited or is on the stack. -/
structure Code.Searched (text : Array Char) (code : Code) (stack : List Thread) (seen : Visited) :
    Prop where
  closed : ∀ t u : Thread, t.pos ≤ text.size → t.IsSeen text.size seen → code.Leads text t u →
    u.IsSeen text.size seen ∨ ∃ w ∈ stack, w.Alike u
  rejects : ∀ t : Thread, t.pos ≤ text.size → t.IsSeen text.size seen →
    code[t.place]? ≠ some .accept
  within : ∀ w ∈ stack, w.pos ≤ text.size

section

variable {text : Array Char} {code : Code} {t u : Thread} {stack : List Thread} {seen : Visited}

theorem Thread.Alike.refl : t.Alike t := ⟨rfl, rfl⟩

theorem Thread.Alike.isSeen {size : Nat} (h : t.Alike u) (ht : t.IsSeen size seen) :
    u.IsSeen size seen := by
  obtain ⟨hplace, hpos⟩ := h
  simpa [IsSeen, hplace, hpos] using ht

/-- What an instruction saves is put before what was saved; nothing else depends on that. -/
theorem Inst.step_eq_map (inst : Inst) :
    inst.step text t = (inst.step text ⟨t.place, t.pos, []⟩).map
      fun u => ⟨u.place, u.pos, u.slots ++ t.slots⟩ := by
  cases inst with
  | accept => rfl
  | char set next =>
    simp only [step]
    cases text[t.pos]? with
    | none => rfl
    | some c => cases hset : set.contains c <;> simp [hset]
  | look l next => cases hl : l.at text t.pos <;> simp [step_look, hl]
  | split first second => simp [step]
  | save slot next => simp [step]

theorem Inst.step_alike {inst : Inst} {t' : Thread} (h : t.Alike t') (hu : u ∈ inst.step text t) :
    ∃ u' ∈ inst.step text t', u'.Alike u := by
  obtain ⟨hplace, hpos⟩ := h
  rw [step_eq_map, hplace, hpos] at hu
  obtain ⟨v, hv, rfl⟩ := List.mem_map.1 hu
  rw [step_eq_map]
  exact ⟨_, List.mem_map.2 ⟨v, hv, rfl⟩, rfl, rfl⟩

theorem Inst.step_pos {inst : Inst} (hu : u ∈ inst.step text t) (ht : t.pos ≤ text.size) :
    u.pos ≤ text.size := by
  cases inst with
  | accept => simp [step] at hu
  | char set next =>
    simp only [step] at hu
    cases hc : text[t.pos]? with
    | none => simp [hc] at hu
    | some c =>
      obtain ⟨hlt, -⟩ := Array.getElem?_eq_some_iff.1 hc
      cases hset : set.contains c with
      | false => simp [hc, hset] at hu
      | true =>
        obtain rfl : u = ⟨next, t.pos + 1, t.slots⟩ := by simpa [hc, hset] using hu
        exact hlt
  | look l next =>
    cases hl : l.at text t.pos with
    | false => simp [step_look, hl] at hu
    | true =>
      obtain rfl : u = ⟨next, t.pos, t.slots⟩ := by simpa [step_look, hl] using hu
      exact ht
  | split first second =>
    simp only [step, List.mem_cons, List.not_mem_nil, or_false] at hu
    rcases hu with rfl | rfl <;> exact ht
  | save slot next =>
    obtain rfl := List.mem_singleton.1 hu
    exact ht

theorem Inst.length_step_le (inst : Inst) : (inst.step text t).length ≤ 2 := by
  cases inst with
  | accept => simp [step]
  | char set next =>
    simp only [step]
    cases text[t.pos]? with
    | none => simp
    | some c => cases hset : set.contains c <;> simp [hset]
  | look l next => cases hl : l.at text t.pos <;> simp [step_look, hl]
  | split first second => simp [step]
  | save slot next => simp [step]

/-! What a run finds -/

theorem Code.Accepts.of_leads {slots : Slots} (h : code.Leads text t u)
    (hu : code.Accepts text u slots) : code.Accepts text t slots := by
  obtain ⟨n, v, hpath, haccept⟩ := hu
  exact ⟨n + 1, v, path_of_leads h hpath, haccept⟩

theorem run_finds {fuel : Nat} {slots : Slots}
    (h : (run code text fuel stack seen).1 = some slots) :
    ∃ t ∈ stack, code.Accepts text t slots := by
  induction fuel generalizing stack seen with
  | zero => simp [run] at h
  | succ fuel ih =>
    cases stack with
    | nil => simp [run] at h
    | cons t stack =>
      simp only [run] at h
      split at h
      · obtain ⟨u, hu, haccepts⟩ := ih h
        exact ⟨u, List.mem_cons_of_mem t hu, haccepts⟩
      · split at h
        · rename_i haccept
          exact ⟨t, List.mem_cons_self, 0, t, rfl, haccept, Option.some.inj h⟩
        · rename_i inst _ hinst
          obtain ⟨u, hu, haccepts⟩ := ih h
          rcases List.mem_append.1 hu with hstep | hu
          · exact ⟨t, List.mem_cons_self, haccepts.of_leads ⟨inst, hinst, hstep⟩⟩
          · exact ⟨u, List.mem_cons_of_mem t hu, haccepts⟩
        · obtain ⟨u, hu, haccepts⟩ := ih h
          exact ⟨u, List.mem_cons_of_mem t hu, haccepts⟩

/-! What a run that finds nothing has seen -/

theorem key_inj {size p q p' q' : Nat} (hq : q ≤ size) (hq' : q' ≤ size)
    (h : p * (size + 1) + q = p' * (size + 1) + q') : p = p' ∧ q = q' := by
  have hp : p = p' := by
    have hdiv := congrArg (· / (size + 1)) h
    simpa [Nat.mul_comm _ (size + 1), Nat.mul_add_div, Nat.div_eq_of_lt (Nat.lt_succ_of_le hq),
      Nat.div_eq_of_lt (Nat.lt_succ_of_le hq')] using hdiv
  subst hp
  omega

/-- The visited instructions after one more visit. -/
def Visited.visit (seen : Visited) (size : Nat) (t : Thread) : Visited :=
  seen.set! (t.place * (size + 1) + t.pos) true

theorem isSeen_visit (hpos : u.pos ≤ text.size) (ht : t.pos ≤ text.size) :
    u.IsSeen text.size (seen.visit text.size t) ↔ u.IsSeen text.size seen ∨ t.Alike u := by
  simp only [Thread.IsSeen, Visited.visit, Array.getD_eq_getD_getElem?,
    Array.set!_eq_setIfInBounds, Array.getElem?_setIfInBounds]
  split
  · rename_i hkey
    have hsame : t.Alike u := key_inj ht hpos hkey
    split <;> simp [hsame]
  · rename_i hkey
    have hother : ¬ t.Alike u := by
      rintro ⟨hplace, hpos⟩
      simp [hplace, hpos] at hkey
    simp [hother]

theorem count_visit (h : ¬ t.IsSeen text.size seen) :
    (seen.visit text.size t).count false + 1 = seen.count false := by
  simp only [Thread.IsSeen, Array.getD_eq_getD_getElem?] at h
  cases hkey : seen[t.place * (text.size + 1) + t.pos]? with
  | none => simp [hkey] at h
  | some b =>
    obtain ⟨hlt, hb⟩ := Array.getElem?_eq_some_iff.1 hkey
    obtain rfl : b = false := by simpa [hkey] using h
    have hpos : 0 < seen.count false := Array.count_pos_iff.2 (hb ▸ Array.getElem_mem hlt)
    rw [Visited.visit, Array.set!_eq_setIfInBounds, Array.setIfInBounds_def, dif_pos hlt,
      Array.count_set hlt]
    simp only [hb, BEq.rfl, if_true]
    simp
    omega

theorem Code.Searched.pop (h : code.Searched text (t :: stack) seen)
    (ht : t.IsSeen text.size seen) : code.Searched text stack seen := by
  refine ⟨fun v u hpos hv hleads => ?_, h.rejects,
    fun w hw => h.within w (List.mem_cons_of_mem t hw)⟩
  rcases h.closed v u hpos hv hleads with hu | ⟨w, hw, halike⟩
  · exact .inl hu
  · rcases List.mem_cons.1 hw with rfl | hw
    · exact .inl (halike.isSeen ht)
    · exact .inr ⟨w, hw, halike⟩

/-- A visit puts the ways on from an instruction on the stack. -/
theorem Code.Searched.visit (h : code.Searched text (t :: stack) seen) {next : List Thread}
    (haccept : code[t.place]? ≠ some .accept)
    (hnext : ∀ inst, code[t.place]? = some inst → next = inst.step text t)
    (hnone : code[t.place]? = none → next = []) :
    code.Searched text (next ++ stack) (seen.visit text.size t) := by
  have ht : t.pos ≤ text.size := h.within t List.mem_cons_self
  constructor
  · intro v u hpos hv hleads
    have hleads' := hleads
    obtain ⟨inst, hinst, hu⟩ := hleads'
    have hupos : u.pos ≤ text.size := inst.step_pos hu hpos
    rcases (isSeen_visit hpos ht).1 hv with hv | halike
    · rcases h.closed v u hpos hv hleads with hu | ⟨w, hw, halike⟩
      · exact .inl ((isSeen_visit hupos ht).2 (.inl hu))
      · rcases List.mem_cons.1 hw with rfl | hw
        · exact .inl ((isSeen_visit hupos ht).2 (.inr halike))
        · exact .inr ⟨w, List.mem_append_right _ hw, halike⟩
    · obtain ⟨u', hu', halike'⟩ := Inst.step_alike ⟨halike.1.symm, halike.2.symm⟩ hu
      rw [← halike.1] at hinst
      exact .inr ⟨u', List.mem_append_left _ (hnext inst hinst ▸ hu'), halike'⟩
  · intro v hpos hv
    rcases (isSeen_visit hpos ht).1 hv with hv | halike
    · exact h.rejects v hpos hv
    · rwa [← halike.1]
  · intro w hw
    rcases List.mem_append.1 hw with hw | hw
    · cases hcode : code[t.place]? with
      | none => simp [hnone hcode] at hw
      | some inst =>
        rw [hnext inst hcode] at hw
        exact inst.step_pos hw ht
    · exact h.within w (List.mem_cons_of_mem t hw)

theorem run_cons_seen {fuel : Nat} (h : t.IsSeen text.size seen) :
    run code text (fuel + 1) (t :: stack) seen = run code text fuel stack seen := by
  simp only [run]
  exact if_pos h

/-- A run that finds nothing goes on from what it visits. -/
theorem exists_run_cons {fuel : Nat} (h : ¬ t.IsSeen text.size seen)
    (hsearched : code.Searched text (t :: stack) seen)
    (hrun : (run code text (fuel + 1) (t :: stack) seen).1 = none) :
    ∃ next : List Thread, next.length ≤ 2 ∧
      code.Searched text (next ++ stack) (seen.visit text.size t) ∧
      run code text (fuel + 1) (t :: stack) seen =
        run code text fuel (next ++ stack) (seen.visit text.size t) := by
  have hkey : ¬ seen.getD (t.place * (text.size + 1) + t.pos) true = true := h
  simp only [run] at hrun ⊢
  rw [if_neg hkey] at hrun ⊢
  cases hcode : code[t.place]? with
  | none =>
    refine ⟨[], by simp, hsearched.visit (by simp [hcode]) (by simp [hcode]) (by simp), ?_⟩
    rfl
  | some inst =>
    have haccept : inst ≠ .accept := by
      rintro rfl
      simp [hcode] at hrun
    refine ⟨inst.step text t, inst.length_step_le,
      hsearched.visit (by simp [hcode, haccept]) (by simp [hcode]) (by simp [hcode]), ?_⟩
    cases inst with
    | accept => exact absurd rfl haccept
    | char set next => rfl
    | look l next => rfl
    | split first second => rfl
    | save slot next => rfl

/-- A run that finds nothing, and has enough fuel, has seen all that it was to look for. -/
theorem run_exhausts {fuel : Nat} (h : code.Searched text stack seen)
    (hfuel : stack.length + 2 * seen.count false < fuel)
    (hrun : (run code text fuel stack seen).1 = none) :
    let seen' := (run code text fuel stack seen).2
    code.Searched text [] seen' ∧ seen'.count false ≤ seen.count false ∧
    (∀ t ∈ stack, t.IsSeen text.size seen') ∧
    ∀ t : Thread, t.pos ≤ text.size → t.IsSeen text.size seen → t.IsSeen text.size seen' := by
  induction fuel generalizing stack seen with
  | zero => omega
  | succ fuel ih =>
    cases stack with
    | nil => exact ⟨h, Nat.le_refl _, by simp, fun _ _ ht => ht⟩
    | cons t stack =>
      have ht : t.pos ≤ text.size := h.within t List.mem_cons_self
      simp only [List.length_cons] at hfuel
      by_cases hseen : t.IsSeen text.size seen
      · rw [run_cons_seen hseen] at hrun ⊢
        obtain ⟨hdone, hcount, hstack, hmono⟩ := ih (h.pop hseen) (by omega) hrun
        exact ⟨hdone, hcount, List.forall_mem_cons.2 ⟨hmono t ht hseen, hstack⟩, hmono⟩
      · obtain ⟨next, hnext, hsearched, hstep⟩ := exists_run_cons hseen h hrun
        have hvisited := count_visit hseen
        rw [hstep] at hrun ⊢
        obtain ⟨hdone, hcount, hstack, hmono⟩ := ih hsearched
          (by simp only [List.length_append]; omega) hrun
        refine ⟨hdone, by omega, ?_, fun u hu hseen => ?_⟩
        · refine List.forall_mem_cons.2 ⟨hmono t ht ?_, fun u hu => ?_⟩
          · exact (isSeen_visit ht ht).2 (.inr .refl)
          · exact hstack u (List.mem_append_right _ hu)
        · exact hmono u hu ((isSeen_visit hu ht).2 (.inl hseen))

/-! What a search finds -/

theorem Code.Searched.rejects_path {n : Nat} (h : code.Searched text [] seen)
    (ht : t.pos ≤ text.size) (hseen : t.IsSeen text.size seen) (hpath : code.Path text n t u) :
    code[u.place]? ≠ some .accept := by
  induction n generalizing t with
  | zero =>
    obtain rfl : t = u := hpath
    exact h.rejects t ht hseen
  | succ n ih =>
    obtain ⟨v, hleads, hrest⟩ := hpath
    have hv : v.IsSeen text.size seen := by simpa using h.closed t v ht hseen hleads
    obtain ⟨inst, -, hstep⟩ := hleads
    exact ih (inst.step_pos hstep ht) hv hrest

theorem Code.Searched.not_accepts (h : code.Searched text [] seen) (ht : t.pos ≤ text.size)
    (hseen : t.IsSeen text.size seen) (slots : Slots) : ¬ code.Accepts text t slots := by
  rintro ⟨n, u, hpath, haccept, -⟩
  exact h.rejects_path ht hseen hpath haccept

/-- A search may begin anew with another thread. -/
theorem Code.Searched.restart (h : code.Searched text [] seen) (ht : t.pos ≤ text.size) :
    code.Searched text [t] seen := by
  refine ⟨fun v u hv hseen hleads => ?_, h.rejects, fun w hw => List.mem_singleton.1 hw ▸ ht⟩
  have hu := h.closed v u hv hseen hleads
  exact .inl (by simpa using hu)

variable {p : Program}

/-- The thread with which a search at a position begins. -/
def Program.thread (p : Program) (start : Nat) : Thread := ⟨p.entry, start, []⟩

/-- What a search finds begins at the first position from which the program can accept. -/
theorem findFrom_finds {left start : Nat} (hleft : left + start = text.size + 1)
    (hsearched : p.code.Searched text [] seen)
    (hcount : seen.count false ≤ p.code.size * (text.size + 1)) :
    (∀ slots, findFrom p text left start seen = some slots →
      ∃ i, start ≤ i ∧ i ≤ text.size ∧ p.code.Accepts text (p.thread i) slots ∧
        ∀ k, start ≤ k → k < i → ∀ slots', ¬ p.code.Accepts text (p.thread k) slots') ∧
    (findFrom p text left start seen = none →
      ∀ i, start ≤ i → i ≤ text.size → ∀ slots, ¬ p.code.Accepts text (p.thread i) slots) := by
  induction left generalizing start seen with
  | zero =>
    refine ⟨by simp [findFrom], fun _ i hi hi' => ?_⟩
    omega
  | succ left ih =>
    have hpos : (p.thread start).pos ≤ text.size := by
      simp only [Program.thread]
      omega
    have hthread := hsearched.restart hpos
    simp only [findFrom]
    cases hrun : run p.code text (2 * p.code.size * (text.size + 1) + 2) [p.thread start] seen with
    | mk found seen' =>
      have hfound := congrArg Prod.fst hrun
      have hseen' := congrArg Prod.snd hrun
      simp only at hfound hseen'
      rw [Program.thread] at hrun
      simp only [hrun]
      cases found with
      | some slots =>
        obtain ⟨t, ht, haccepts⟩ := run_finds hfound
        obtain rfl := List.mem_singleton.1 ht
        refine ⟨?_, by simp⟩
        rintro _ ⟨⟩
        refine ⟨start, Nat.le_refl start, by omega, haccepts, fun k hk hk' => ?_⟩
        omega
      | none =>
        obtain ⟨hdone, hless, hstack, -⟩ := run_exhausts hthread (by
          simp only [List.length_singleton, Nat.mul_assoc]
          omega) hfound
        rw [hseen'] at hdone hless hstack
        have hstart := hdone.not_accepts hpos (hstack _ List.mem_cons_self)
        have hnext : left + (start + 1) = text.size + 1 := by omega
        obtain ⟨hsome, hnone⟩ := ih hnext hdone (Nat.le_trans hless hcount)
        constructor
        · intro slots h
          obtain ⟨i, hi, hi', haccepts, hfirst⟩ := hsome slots h
          refine ⟨i, by omega, hi', haccepts, fun k hk hk' => ?_⟩
          by_cases hkstart : k = start
          · exact hkstart ▸ hstart
          · exact hfirst k (by omega) hk'
        · intro h i hi hi'
          by_cases histart : i = start
          · exact histart ▸ hstart
          · exact hnone h i (by omega) hi'

end

namespace Pattern

variable {text : Array Char} {p : Pattern}

theorem accepts_iff {i : Nat} {slots : Slots} :
    p.program.code.Accepts text (p.program.thread i) slots ↔
      ∃ j, (Pattern.group 0 p).Matches text ⟨i, []⟩ ⟨j, slots⟩ := by
  constructor
  · rintro ⟨n, ⟨place, j, slots'⟩, hpath, haccept, rfl⟩
    obtain rfl : place = 0 := p.program_accepts_iff.1 haccept
    exact ⟨j, (p.path_program_iff ⟨i, []⟩ ⟨j, slots'⟩).1 ⟨n, hpath⟩⟩
  · rintro ⟨j, hmatches⟩
    obtain ⟨n, hpath⟩ := (p.path_program_iff ⟨i, []⟩ ⟨j, slots⟩).2 hmatches
    exact ⟨n, _, hpath, p.program_accepts_iff.2 rfl, rfl⟩

/-- Before a search nothing was visited but what is outside of the program. -/
theorem searched_start (text : Array Char) (code : Code) :
    code.Searched text [] (Array.replicate (code.size * (text.size + 1)) false) := by
  have houtside : ∀ t : Thread, t.pos ≤ text.size →
      t.IsSeen text.size (Array.replicate (code.size * (text.size + 1)) false) →
      code[t.place]? = none := by
    intro t ht hseen
    by_cases hplace : t.place < code.size
    · have hkey : (t.place + 1) * (text.size + 1) ≤ code.size * (text.size + 1) :=
        Nat.mul_le_mul_right _ hplace
      rw [Nat.succ_mul] at hkey
      have hin : t.place * (text.size + 1) + t.pos < code.size * (text.size + 1) := by omega
      simp [Thread.IsSeen, hin] at hseen
    · simp only [Array.getElem?_eq_none_iff]
      omega
  constructor
  · rintro t u ht hseen ⟨inst, hinst, -⟩
    simp [houtside t ht hseen] at hinst
  · intro t ht hseen
    simp [houtside t ht hseen]
  · simp

/-- A search finds the positions saved by a match that begins first, and finds none just if there
    is no match. -/
theorem find_spec (text : Array Char) (p : Pattern) :
    (∀ slots, p.program.find text = some slots → ∃ i j, i ≤ text.size ∧
      (Pattern.group 0 p).Matches text ⟨i, []⟩ ⟨j, slots⟩ ∧ ∀ k < i, ∀ l, ¬ p.Spans text k l) ∧
    (p.program.find text = none → ∀ i ≤ text.size, ∀ j, ¬ p.Spans text i j) := by
  have hrejects : ∀ i j, (∀ slots, ¬ p.program.code.Accepts text (p.program.thread i) slots) →
      ¬ p.Spans text i j := by
    intro i j hi hspans
    obtain ⟨slots, hmatches⟩ := spans_group.2 hspans
    exact hi slots (accepts_iff.2 ⟨j, hmatches⟩)
  obtain ⟨hsome, hnone⟩ := findFrom_finds (Nat.add_zero _) (searched_start text p.program.code)
    (by simp)
  constructor
  · intro slots h
    obtain ⟨i, -, hi, haccepts, hfirst⟩ := hsome slots h
    obtain ⟨j, hmatches⟩ := accepts_iff.1 haccepts
    exact ⟨i, j, hi, hmatches, fun k hk l => hrejects k l (hfirst k (Nat.zero_le k) hk)⟩
  · intro h i hi j
    exact hrejects i j (hnone h i (Nat.zero_le i) hi)

end Pattern

theorem compile_of_parse {source : String} {p : Pattern} {names : List (Option String)}
    (h : Pattern.parse source.toList = .ok (p, names)) :
    ∃ r, compile source = .ok r ∧ r.pattern = p ∧ r.program = p.program := by
  simp [compile, h, bind, Except.bind]

theorem compile_of_parse_error {source : String} {fault : Fault}
    (h : Pattern.parse source.toList = .error fault) : compile source = .error fault := by
  simp [compile, h, bind, Except.bind]

theorem exists_of_compile {source : String} {r : Regex} (h : compile source = .ok r) :
    r.program = r.pattern.program ∧
      ∃ names, Pattern.parse source.toList = .ok (r.pattern, names) := by
  cases hparse : Pattern.parse source.toList with
  | error fault => simp [compile_of_parse_error hparse] at h
  | ok parsed =>
    obtain ⟨p, names⟩ := parsed
    obtain ⟨r', hr', rfl, hprogram⟩ := compile_of_parse hparse
    obtain rfl : r' = r := by simpa [hr'] using h
    exact ⟨hprogram, names, rfl⟩

/-- A compiled expression matches a text just if its pattern matches it somewhere. -/
theorem isMatch_iff {source s : String} {r : Regex} (h : compile source = .ok r) :
    r.isMatch s = true ↔ ∃ i j, i ≤ s.length ∧ r.pattern.Spans s.toList.toArray i j := by
  obtain ⟨hsome, hnone⟩ := r.pattern.find_spec s.toList.toArray
  simp only [List.size_toArray, String.length_toList] at hsome hnone
  unfold isMatch captures?
  rw [(exists_of_compile h).1, Option.isSome_map]
  cases hfind : r.pattern.program.find s.toList.toArray with
  | none =>
    simp only [Option.isSome_none, Bool.false_eq_true, false_iff]
    rintro ⟨i, j, hi, hspans⟩
    exact hnone hfind i hi j hspans
  | some slots =>
    obtain ⟨i, j, hi, hmatches, -⟩ := hsome slots hfind
    simp only [Option.isSome_some, true_iff]
    exact ⟨i, j, hi, Pattern.spans_group.1 ⟨slots, hmatches⟩⟩

end Harvest.Regex
