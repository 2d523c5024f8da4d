import Harvest.Proofs.Regex.Search
/-!
Which match a search finds. A search without memory takes the threads of its stack in order, and
goes on from each before it comes to the next; where it ends, the memory of what was visited does
not change what is found. A pattern has its ways on from a spot in an order, and a search finds the
first of the first start that has any.
-/

namespace Harvest.Regex

/-- A search without memory: how many threads it takes up, and what it finds. -/
inductive Code.Seeks (text : Array Char) (code : Code) : Nat → List Thread → Option Slots → Prop
  | nil : Seeks text code 0 [] none
  | accept {t stack} : code[t.place]? = some .accept → Seeks text code 1 (t :: stack) (some t.slots)
  | step {n t inst stack r} : code[t.place]? = some inst → inst ≠ .accept →
      Seeks text code n (inst.step text t ++ stack) r → Seeks text code (n + 1) (t :: stack) r
  | stuck {n t stack r} : code[t.place]? = none → Seeks text code n stack r →
      Seeks text code (n + 1) (t :: stack) r

namespace Code

variable {text : Array Char} {code : Code} {t u : Thread} {stack stack' : List Thread}
  {m n : Nat} {r r' : Option Slots} {seen : Visited}

namespace Seeks

theorem unique (h : code.Seeks text m stack r) (h' : code.Seeks text n stack r') :
    m = n ∧ r = r' := by
  induction h generalizing n with
  | nil =>
    cases h'
    exact ⟨rfl, rfl⟩
  | accept haccept =>
    cases h' with
    | accept => exact ⟨rfl, rfl⟩
    | step hinst hne => exact absurd (Option.some.inj (hinst.symm.trans haccept)) hne
    | stuck hnone => simp [hnone] at haccept
  | step hinst hne _ ih =>
    cases h' with
    | accept haccept => exact absurd (Option.some.inj (hinst.symm.trans haccept)) hne
    | step hinst' _ hrest =>
      obtain rfl := Option.some.inj (hinst.symm.trans hinst')
      obtain ⟨rfl, rfl⟩ := ih hrest
      exact ⟨rfl, rfl⟩
    | stuck hnone => simp [hnone] at hinst
  | stuck hnone _ ih =>
    cases h' with
    | accept haccept => simp [hnone] at haccept
    | step hinst => simp [hnone] at hinst
    | stuck _ hrest =>
      obtain ⟨rfl, rfl⟩ := ih hrest
      exact ⟨rfl, rfl⟩

/-- What is found on a stack is found whatever lies below. -/
theorem append_left {slots : Slots} (h : code.Seeks text n stack (some slots)) :
    code.Seeks text n (stack ++ stack') (some slots) := by
  generalize hr : some slots = r at h
  induction h with
  | nil => cases hr
  | accept haccept => exact .accept haccept
  | step hinst hne _ ih =>
    refine .step hinst hne ?_
    rw [List.append_eq, ← List.append_assoc]
    exact ih hr
  | stuck hnone _ ih => exact .stuck hnone (ih hr)

/-- Where nothing is found on the upper part of a stack, the search comes to the lower part. -/
theorem append_right (h : code.Seeks text m stack none) (h' : code.Seeks text n stack' r) :
    code.Seeks text (m + n) (stack ++ stack') r := by
  generalize hnone : none = r' at h
  induction h with
  | nil => simpa using h'
  | accept => cases hnone
  | step hinst hne _ ih =>
    rw [Nat.add_right_comm]
    refine .step hinst hne ?_
    rw [List.append_eq, ← List.append_assoc]
    exact ih hnone
  | stuck hstuck _ ih =>
    rw [Nat.add_right_comm]
    exact .stuck hstuck (ih hnone)

/-- Something is found on the upper part of a stack, or the search comes to the lower part. -/
theorem of_append (h : code.Seeks text n (stack ++ stack') r) :
    (∃ slots, r = some slots ∧ code.Seeks text n stack (some slots)) ∨
    ∃ k m, code.Seeks text k stack none ∧ code.Seeks text m stack' r ∧ n = k + m := by
  generalize hall : stack ++ stack' = all at h
  induction h generalizing stack with
  | nil =>
    obtain ⟨rfl, rfl⟩ := List.append_eq_nil_iff.1 hall
    exact .inr ⟨0, 0, .nil, .nil, rfl⟩
  | accept haccept =>
    rcases List.append_eq_cons_iff.1 hall with ⟨rfl, rfl⟩ | ⟨rest, rfl, -⟩
    · exact .inr ⟨0, 1, .nil, .accept haccept, rfl⟩
    · exact .inl ⟨_, rfl, .accept haccept⟩
  | step hinst hne hrest ih =>
    rcases List.append_eq_cons_iff.1 hall with ⟨rfl, rfl⟩ | ⟨rest, rfl, rfl⟩
    · exact .inr ⟨0, _, .nil, .step hinst hne hrest, (Nat.zero_add _).symm⟩
    · rcases ih (List.append_assoc _ _ _) with ⟨slots, rfl, hupper⟩ | ⟨k, m, hupper, hlower, rfl⟩
      · exact .inl ⟨slots, rfl, .step hinst hne hupper⟩
      · exact .inr ⟨k + 1, m, .step hinst hne hupper, hlower, Nat.add_right_comm k m 1⟩
  | stuck hnone hrest ih =>
    rcases List.append_eq_cons_iff.1 hall with ⟨rfl, rfl⟩ | ⟨rest, rfl, rfl⟩
    · exact .inr ⟨0, _, .nil, .stuck hnone hrest, (Nat.zero_add _).symm⟩
    · rcases ih rfl with ⟨slots, rfl, hupper⟩ | ⟨k, m, hupper, hlower, rfl⟩
      · exact .inl ⟨slots, rfl, .stuck hnone hupper⟩
      · exact .inr ⟨k + 1, m, .stuck hnone hupper, hlower, Nat.add_right_comm k m 1⟩

/-- What is found on a stack is what one of its threads comes to the end with. -/
theorem accepts {slots : Slots} (h : code.Seeks text n stack (some slots)) :
    ∃ t ∈ stack, code.Accepts text t slots := by
  generalize hr : some slots = r at h
  induction h with
  | nil => cases hr
  | @accept t _ haccept =>
    exact ⟨t, List.mem_cons_self, 0, t, rfl, haccept, (Option.some.inj hr).symm⟩
  | @step _ t inst _ _ hinst _ _ ih =>
    obtain ⟨u, hu, haccepts⟩ := ih hr
    rcases List.mem_append.1 hu with hstep | hu
    · exact ⟨t, List.mem_cons_self, haccepts.of_leads ⟨inst, hinst, hstep⟩⟩
    · exact ⟨u, List.mem_cons_of_mem t hu, haccepts⟩
  | stuck _ _ ih =>
    obtain ⟨u, hu, haccepts⟩ := ih hr
    exact ⟨u, List.mem_cons_of_mem _ hu, haccepts⟩

end Seeks

/-! Threads that agree but for what they saved -/

/-- The place and the position of a thread. -/
def key (t : Thread) : Nat × Nat := (t.place, t.pos)

theorem place_of_key (h : key t = key u) : t.place = u.place := congrArg Prod.fst h

theorem map_key_step (inst : Inst) (h : key t = key u) :
    (inst.step text t).map key = (inst.step text u).map key := by
  obtain ⟨hplace, hpos⟩ := Prod.mk.inj h
  rw [Inst.step_eq_map inst (t := t), Inst.step_eq_map inst (t := u), hplace, hpos, List.map_map,
    List.map_map]
  rfl

/-- How long a search goes on and whether it finds anything does not depend on what was saved. -/
theorem Seeks.of_map_key (h : code.Seeks text n stack r) (hkeys : stack.map key = stack'.map key) :
    ∃ r', code.Seeks text n stack' r' ∧ r'.isSome = r.isSome := by
  induction h generalizing stack' with
  | nil =>
    obtain rfl := List.map_eq_nil_iff.1 hkeys.symm
    exact ⟨none, .nil, rfl⟩
  | accept haccept =>
    obtain ⟨u, rest, rfl, hkey, -⟩ := List.map_eq_cons_iff.1 hkeys.symm
    rw [← place_of_key hkey] at haccept
    exact ⟨some u.slots, .accept haccept, rfl⟩
  | @step _ t inst stack _ hinst hne _ ih =>
    obtain ⟨u, rest, rfl, hkey, hrest⟩ := List.map_eq_cons_iff.1 hkeys.symm
    have hnext : (inst.step text t ++ stack).map key = (inst.step text u ++ rest).map key := by
      rw [List.map_append, List.map_append, map_key_step inst hkey.symm, hrest]
    rw [← place_of_key hkey] at hinst
    obtain ⟨r', hr', hsome⟩ := ih hnext
    exact ⟨r', .step hinst hne hr', hsome⟩
  | stuck hnone _ ih =>
    obtain ⟨u, rest, rfl, hkey, hrest⟩ := List.map_eq_cons_iff.1 hkeys.symm
    rw [← place_of_key hkey] at hnone
    obtain ⟨r', hr', hsome⟩ := ih hrest.symm
    exact ⟨r', .stuck hnone hr', hsome⟩

/-! The memory of a search -/

/-- Whether nothing that was visited leads to a find in at most `n` steps. -/
def Spent (text : Array Char) (code : Code) (n : Nat) (seen : Visited) : Prop :=
  ∀ u : Thread, u.pos ≤ text.size → u.IsSeen text.size seen →
    ∀ k slots, code.Seeks text k [u] (some slots) → n < k

theorem Spent.mono (h : code.Spent text n seen) (hm : m ≤ n) : code.Spent text m seen :=
  fun u hu hseen k slots hk => Nat.lt_of_le_of_lt hm (h u hu hseen k slots hk)

/-- A thread that is taken up is one that leads to a find in as many steps as its stack does. -/
theorem Spent.visit (h : code.Spent text (n + 1) seen) (ht : t.pos ≤ text.size)
    (hseeks : code.Seeks text (n + 1) (t :: stack) r) :
    code.Spent text n (seen.visit text.size t) := by
  intro u hu hseen k slots hk
  rcases (isSeen_visit hu ht).1 hseen with hseen | halike
  · exact Nat.lt_of_succ_lt (h u hu hseen k slots hk)
  · have hkey : key u = key t := by simp [key, halike.1, halike.2]
    have hkeys : [u].map key = [t].map key := by simp [hkey]
    obtain ⟨r', hr', hsome⟩ := hk.of_map_key hkeys
    obtain ⟨slots', rfl⟩ := Option.isSome_iff_exists.1 (hsome.trans Option.isSome_some)
    -- what `t` finds on its own it finds above the stack as well, and in as many steps
    have hfound : code.Seeks text k ([t] ++ stack) (some slots') := hr'.append_left
    obtain ⟨hkn, -⟩ := hseeks.unique hfound
    exact hkn ▸ Nat.lt_succ_self n

/-- What a run finds is found without memory: a thread that was taken up before the search came to
    what is left would have led to a find there, if it did here. -/
theorem run_seeks {fuel : Nat} {slots : Slots} (hseeks : code.Seeks text n stack r)
    (hpos : ∀ w ∈ stack, w.pos ≤ text.size) (hspent : code.Spent text n seen)
    (hrun : (run code text fuel stack seen).1 = some slots) : r = some slots := by
  induction fuel generalizing n stack seen with
  | zero => simp [run] at hrun
  | succ fuel ih =>
    cases stack with
    | nil => simp [run] at hrun
    | cons t stack =>
      have ht : t.pos ≤ text.size := hpos t List.mem_cons_self
      have hstack : ∀ w ∈ stack, w.pos ≤ text.size := fun w hw =>
        hpos w (List.mem_cons_of_mem t hw)
      by_cases hseen : t.IsSeen text.size seen
      · rw [run_cons_seen hseen] at hrun
        -- the run passes `t` by, so `t` must not find anything: that would take more than `n` steps
        have hall : code.Seeks text n ([t] ++ stack) r := hseeks
        rcases hall.of_append with ⟨s, -, hfound⟩ | ⟨k, m, -, hrest, rfl⟩
        · exact absurd (hspent t ht hseen n s hfound) (Nat.lt_irrefl n)
        · exact ih hrest hstack (hspent.mono (Nat.le_add_left m k)) hrun
      · have hkey : ¬ seen.getD (t.place * (text.size + 1) + t.pos) true = true := hseen
        simp only [run] at hrun
        rw [if_neg hkey] at hrun
        cases hseeks with
        | accept haccept =>
          rw [haccept] at hrun
          exact hrun
        | @step _ _ inst _ _ hinst hne hrest =>
          have hvisit := hspent.visit ht (.step hinst hne hrest)
          refine ih hrest (fun w hw => ?_) hvisit ?_
          · exact (List.mem_append.1 hw).elim (fun hw => inst.step_pos hw ht) (hstack w)
          · rw [hinst] at hrun
            cases inst with
            | accept => exact absurd rfl hne
            | char set next => exact hrun
            | look l next => exact hrun
            | split first second => exact hrun
            | save slot next => exact hrun
        | stuck hnone hrest =>
          have hvisit := hspent.visit ht (.stuck hnone hrest)
          rw [hnone] at hrun
          exact ih hrest hstack hvisit hrun

end Code

section

variable {text : Array Char} {seen : Visited} {p : Program}

/-- What a search finds is what is found without memory from the first start from which anything
    is. -/
theorem findFrom_eq {found : Nat → Option Slots} {left start : Nat}
    (hseeks : ∀ i, i ≤ text.size → ∃ n, p.code.Seeks text n [p.thread i] (found i))
    (hleft : left + start = text.size + 1) (hsearched : p.code.Searched text [] seen)
    (hcount : seen.count false ≤ p.code.size * (text.size + 1)) :
    findFrom p text left start seen = (List.range' start left).findSome? found := by
  induction left generalizing start seen with
  | zero => rfl
  | succ left ih =>
    have hpos : (p.thread start).pos ≤ text.size := by
      simp only [Program.thread]
      omega
    obtain ⟨n, hn⟩ := hseeks start hpos
    have hthread := hsearched.restart hpos
    simp only [findFrom]
    rw [List.range'_succ, List.findSome?_cons]
    cases hrun : run p.code text (2 * p.code.size * (text.size + 1) + 2) [p.thread start] seen with
    | mk result seen' =>
      have hresult := congrArg Prod.fst hrun
      have hseen' := congrArg Prod.snd hrun
      simp only at hresult hseen'
      rw [Program.thread] at hrun
      simp only [hrun]
      cases result with
      | some slots =>
        have hspent : p.code.Spent text n seen := fun u hu hseen k slots' hk => by
          obtain ⟨w, hw, haccepts⟩ := hk.accepts
          obtain rfl := List.mem_singleton.1 hw
          exact absurd haccepts (hsearched.not_accepts hu hseen slots')
        rw [Code.run_seeks hn hthread.within hspent hresult]
      | none =>
        obtain ⟨hdone, hless, hstack, -⟩ := run_exhausts hthread (by
          simp only [List.length_singleton, Nat.mul_assoc]
          omega) hresult
        rw [hseen'] at hdone hless hstack
        have hnone : found start = none := by
          cases hfound : found start with
          | none => rfl
          | some slots =>
            obtain ⟨w, hw, haccepts⟩ := (hfound ▸ hn).accepts
            exact absurd haccepts (hdone.not_accepts (hthread.within w hw) (hstack w hw) slots)
        rw [hnone]
        exact ih (by omega) hdone (Nat.le_trans hless hcount)

end

/-! The order of the ways -/

/-- First one list of ways, then from each of its spots another. -/
def Chain (w w' : Spot → List Spot → Prop) (a : Spot) (cs : List Spot) : Prop :=
  ∃ bs f, w a bs ∧ (∀ b ∈ bs, w' b (f b)) ∧ cs = bs.flatMap f

/-- Ways into something, and one past it. -/
def prefer (greedy : Bool) (into : List Spot) (past : Spot) : List Spot :=
  if greedy then into ++ [past] else past :: into

/-- `n` rounds. -/
def RoundWays (w : Spot → List Spot → Prop) : Nat → Spot → List Spot → Prop
  | 0, a, bs => bs = [a]
  | n + 1, a, bs => Chain w (RoundWays w n) a bs

/-- At most `n` rounds. -/
def SomeWays (w : Spot → List Spot → Prop) (greedy : Bool) : Nat → Spot → List Spot → Prop
  | 0, a, bs => bs = [a]
  | n + 1, a, bs => ∃ cs, Chain w (SomeWays w greedy n) a cs ∧ bs = prefer greedy cs a

/-- Any number of rounds, where they come to an end. -/
inductive LoopWays (w : Spot → List Spot → Prop) (greedy : Bool) : Spot → List Spot → Prop
  | round {a bs} (f : Spot → List Spot) : w a bs → (∀ b ∈ bs, LoopWays w greedy b (f b)) →
      LoopWays w greedy a (prefer greedy (bs.flatMap f) a)

/-- `n` rounds and then any number. -/
def LeastWays (w : Spot → List Spot → Prop) (greedy : Bool) : Nat → Spot → List Spot → Prop
  | 0, a, bs => LoopWays w greedy a bs
  | n + 1, a, bs => Chain w (LeastWays w greedy n) a bs

/-- The spots to which a pattern leads, in the order in which they are tried. Repetitions whose
    rounds do not come to an end have none. -/
def Pattern.Ways (text : Array Char) : Pattern → Spot → List Spot → Prop
  | .empty, a, bs => bs = [a]
  | .char set, a, bs =>
    bs = if text[a.pos]?.any set.contains then [⟨a.pos + 1, a.slots⟩] else []
  | .look l, a, bs => bs = if l.at text a.pos then [a] else []
  | .seq p q, a, bs => Chain (p.Ways text) (q.Ways text) a bs
  | .alt p q, a, bs => ∃ cs ds, p.Ways text a cs ∧ q.Ways text a ds ∧ bs = cs ++ ds
  | .rep p least (some most) greedy, a, bs =>
    Chain (RoundWays (p.Ways text) least) (SomeWays (p.Ways text) greedy (most - least)) a bs
  | .rep p least none greedy, a, bs => LeastWays (p.Ways text) greedy least a bs
  | .group i p, a, bs =>
    ∃ cs, p.Ways text (a.save (2 * i)) cs ∧ bs = cs.map fun c => c.save (2 * i + 1)

/-- Whether a search without memory comes to an end on a stack, and with what. -/
def Code.Ends (text : Array Char) (code : Code) (stack : List Thread) (r : Option Slots) : Prop :=
  ∃ n, code.Seeks text n stack r

/-- From a place, the search goes on at another one with the spots of a list, in their order. -/
def Code.Tries (text : Array Char) (code : Code) (entry next : Nat)
    (w : Spot → List Spot → Prop) : Prop :=
  ∀ a bs, w a bs → ∀ stack r, code.Ends text (bs.map (·.at next) ++ stack) r →
    code.Ends text (a.at entry :: stack) r

/-- What a fragment puts down tries ways in order, wherever it is put. -/
def Code.Orders (text : Array Char) (fragment : Nat → Code → Nat × Code)
    (w : Spot → List Spot → Prop) : Prop :=
  ∀ next code code', next < code.size →
    Agrees (fragment next code).2 code' code.size (fragment next code).2.size →
    Tries text code' (fragment next code).1 next w

namespace Code

variable {text : Array Char} {code code' : Code} {entry mid next place : Nat} {stack : List Thread}
  {w w' : Spot → List Spot → Prop} {r : Option Slots}

theorem Ends.step {t : Thread} {inst : Inst} (hinst : code[t.place]? = some inst)
    (hne : inst ≠ .accept) (h : code.Ends text (inst.step text t ++ stack) r) :
    code.Ends text (t :: stack) r := by
  obtain ⟨n, hn⟩ := h
  exact ⟨n + 1, .step hinst hne hn⟩

theorem Ends.below {upper lower lower' : List Thread}
    (hends : code.Ends text (upper ++ lower) r)
    (h : code.Ends text lower r → code.Ends text lower' r) :
    code.Ends text (upper ++ lower') r := by
  obtain ⟨n, hn⟩ := hends
  rcases hn.of_append with ⟨slots, rfl, hupper⟩ | ⟨k, m, hupper, hlower, -⟩
  · exact ⟨n, hupper.append_left⟩
  · obtain ⟨m', hm'⟩ := h ⟨m, hlower⟩
    exact ⟨k + m', hupper.append_right hm'⟩

/-- Spots that are tried one after the other. -/
theorem ends_map_at {bs : List Spot} {f : Spot → List Spot}
    (h : ∀ b ∈ bs, ∀ stack, code.Ends text ((f b).map (·.at next) ++ stack) r →
      code.Ends text (b.at mid :: stack) r)
    (hends : code.Ends text ((bs.flatMap f).map (·.at next) ++ stack) r) :
    code.Ends text (bs.map (·.at mid) ++ stack) r := by
  induction bs with
  | nil => exact hends
  | cons b bs ih =>
    obtain ⟨hb, hbs⟩ := List.forall_mem_cons.1 h
    rw [List.flatMap_cons, List.map_append, List.append_assoc] at hends
    exact hb _ (hends.below (ih hbs))

namespace Tries

theorem skip : Tries text code next next (fun a bs => bs = [a]) := by
  rintro a _ rfl stack r h
  exact h

theorem single {inst : Inst} (hinst : code[place]? = some inst) (hne : inst ≠ .accept)
    (hstep : ∀ a bs, w a bs → inst.step text (a.at place) = bs.map (·.at next)) :
    Tries text code place next w := by
  intro a bs hw stack r h
  refine Ends.step hinst hne ?_
  rw [hstep a bs hw]
  exact h

theorem andThen (h : Tries text code entry mid w) (h' : Tries text code mid next w') :
    Tries text code entry next (Chain w w') := by
  rintro a _ ⟨bs, f, hw, hf, rfl⟩ stack r hends
  refine h a bs hw stack r ?_
  exact ends_map_at (fun b hb stack => h' b (f b) (hf b hb) stack r) hends

theorem choice {first second : Nat} (hinst : code[place]? = some (.split first second))
    (h : Tries text code first next w) (h' : Tries text code second next w') :
    Tries text code place next (fun a bs => ∃ cs ds, w a cs ∧ w' a ds ∧ bs = cs ++ ds) := by
  rintro a _ ⟨cs, ds, hw, hw', rfl⟩ stack r hends
  rw [List.map_append, List.append_assoc] at hends
  refine Ends.step hinst (by simp) (h a cs hw _ r (hends.below fun hds => ?_))
  exact h' a ds hw' stack r hds

end Tries

/-- A choice between a way into something and one past it. -/
theorem ends_of_choose {greedy : Bool} {into : Nat} {a : Spot} {cs : List Spot}
    (hinst : code[place]? = some (choose greedy into next))
    (hinto : ∀ stack, code.Ends text (cs.map (·.at next) ++ stack) r →
      code.Ends text (a.at into :: stack) r)
    (hends : code.Ends text ((prefer greedy cs a).map (·.at next) ++ stack) r) :
    code.Ends text (a.at place :: stack) r := by
  cases greedy with
  | false =>
    have hpast : code.Ends text ([a.at next] ++ (cs.map (·.at next) ++ stack)) r := hends
    have hboth : code.Ends text ([a.at next] ++ a.at into :: stack) r := hpast.below (hinto stack)
    exact Ends.step hinst (by simp [Code.choose]) hboth
  | true =>
    rw [prefer, if_pos rfl, List.map_append, List.append_assoc] at hends
    exact Ends.step hinst (by simp [Code.choose]) (hinto _ hends)

namespace Tries

theorem choose {greedy : Bool} {into : Nat}
    (hinst : code[place]? = some (Code.choose greedy into next))
    (h : Tries text code into next w) :
    Tries text code place next (fun a bs => ∃ cs, w a cs ∧ bs = prefer greedy cs a) := by
  rintro a _ ⟨cs, hw, rfl⟩ stack r hends
  exact ends_of_choose hinst (fun stack => h a cs hw stack r) hends

/-- A choice between another round that comes back to it and the place behind. -/
theorem loop {greedy : Bool} {into : Nat}
    (hinst : code[place]? = some (Code.choose greedy into next))
    (h : Tries text code into place w) : Tries text code place next (LoopWays w greedy) := by
  intro a bs hloop
  induction hloop with
  | @round a bs f hw _ ih =>
    intro stack r hends
    refine ends_of_choose hinst (fun stack hcs => ?_) hends
    exact h a bs hw stack r (ends_map_at (fun b hb stack => ih b hb stack r) hcs)

end Tries

namespace Orders

variable {fragment fragment' : Nat → Code → Nat × Code} {rel rel' : Spot → Spot → Prop}

theorem mono (h : Orders text fragment w') (hw : ∀ a bs, w a bs → w' a bs) :
    Orders text fragment w :=
  fun next code code' hnext hagrees a bs ha => h next code code' hnext hagrees a bs (hw a bs ha)

theorem skip : Orders text (fun next code => (next, code)) (fun a bs => bs = [a]) :=
  fun _ _ _ _ _ => .skip

theorem single {inst : Nat → Inst} (hne : ∀ next, inst next ≠ .accept)
    (hstep : ∀ next place a bs, w a bs →
      (inst next).step text (a.at place) = bs.map (·.at next)) :
    Orders text (fun next code => code.emit (inst next)) w := by
  intro next code code' _ hagrees
  have hinst : code'[code.size]? = some (inst next) := by
    rw [hagrees code.size (Nat.le_refl _) (by simp [emit])]
    simp [emit]
  exact .single hinst (hne next) (hstep next code.size)

theorem andThen (hbuilds : Builds text fragment rel) (hbuilds' : Builds text fragment' rel')
    (h : Orders text fragment w) (h' : Orders text fragment' w') :
    Orders text (fun next code => fragment (fragment' next code).1 (fragment' next code).2)
      (Chain w w') := by
  intro next code code' hnext hagrees
  have hgrows := hbuilds'.grows next code
  have hgrows' := hbuilds.grows (fragment' next code).1 (fragment' next code).2
  have hlast := h' next code code' hnext
    (((hbuilds.keeps _ _).mono (Nat.zero_le _) (Nat.le_refl _)).trans
      (hagrees.mono (Nat.le_refl _) hgrows'))
  have hfirst := h _ _ code' (hbuilds'.enters next code hnext)
    (hagrees.mono hgrows (Nat.le_refl _))
  exact hfirst.andThen hlast

theorem choice (hbuilds : Builds text fragment rel) (hbuilds' : Builds text fragment' rel')
    (h : Orders text fragment w) (h' : Orders text fragment' w') :
    Orders text
      (fun next code =>
        let (second, code) := fragment' next code
        let (first, code) := fragment next code
        code.emit (.split first second))
      (fun a bs => ∃ cs ds, w a cs ∧ w' a ds ∧ bs = cs ++ ds) := by
  intro next code code' hnext hagrees
  have hgrows := hbuilds'.grows next code
  have hgrows' := hbuilds.grows next (fragment' next code).2
  simp only [emit, Array.size_push] at hagrees ⊢
  have hinst : code'[(fragment next (fragment' next code).2).2.size]? = some _ :=
    (hagrees _ (by omega) (by omega)).trans Array.getElem?_push_size
  have hfront : Agrees (fragment next (fragment' next code).2).2 code' code.size
      (fragment next (fragment' next code).2).2.size :=
    ((agrees_push _).mono (Nat.zero_le _) (Nat.le_refl _)).trans
      (hagrees.mono (Nat.le_refl _) (by omega))
  have hsecond := h' next code code' hnext
    (((hbuilds.keeps _ _).mono (Nat.zero_le _) (Nat.le_refl _)).trans
      (hfront.mono (Nat.le_refl _) hgrows'))
  have hfirst := h next _ code' (by omega) (hfront.mono hgrows (Nat.le_refl _))
  exact .choice hinst hfirst hsecond

/-- A fragment that may be passed by. -/
theorem option (hbuilds : Builds text fragment rel) (h : Orders text fragment w) (greedy : Bool) :
    Orders text
      (fun next code =>
        let (into, code) := fragment next code
        code.emit (choose greedy into next))
      (fun a bs => ∃ cs, w a cs ∧ bs = prefer greedy cs a) := by
  intro next code code' hnext hagrees
  have hgrows := hbuilds.grows next code
  simp only [emit, Array.size_push] at hagrees ⊢
  have hinst : code'[(fragment next code).2.size]? = some _ :=
    (hagrees _ hgrows (by omega)).trans Array.getElem?_push_size
  have hinto := h next code code' hnext
    (((agrees_push _).mono (Nat.zero_le _) (Nat.le_refl _)).trans
      (hagrees.mono (Nat.le_refl _) (by omega)))
  exact .choose hinst hinto

theorem copies (hbuilds : Builds text fragment rel) (h : Orders text fragment w) (n : Nat) :
    Orders text (Code.copies fragment n) (RoundWays w n) := by
  induction n with
  | zero => exact skip
  | succ n ih => exact andThen hbuilds (hbuilds.copies n) h ih

theorem atMost (hbuilds : Builds text fragment rel) (h : Orders text fragment w) (greedy : Bool)
    (n : Nat) :
    Orders text (fun next code => Code.atMost fragment greedy next n code)
      (SomeWays w greedy n) := by
  induction n with
  | zero => exact skip
  | succ n ih =>
    have hmost := hbuilds.atMost greedy n
    exact option (hbuilds.andThen hmost) (andThen hbuilds hmost h ih) greedy

/-- Another round, which comes back to the choice of yet another. -/
theorem tries_round (h : Orders text fragment w)
    {greedy : Bool} {next : Nat} {code code' : Code}
    (hagrees : Agrees (Code.loop fragment greedy next code).2.2 code' code.size
      (Code.loop fragment greedy next code).2.2.size) :
    Tries text code' (Code.loop fragment greedy next code).1 code.size w := by
  refine h code.size (code.push (.split next next)) code' (by simp) fun i hlo hi => ?_
  rw [Builds.size_loop] at hagrees
  simp only [Array.size_push] at hlo
  rw [hagrees i (by omega) hi]
  simp only [Code.loop, emit, Array.set!_eq_setIfInBounds]
  rw [Array.getElem?_setIfInBounds_ne (by omega)]

theorem tries_loop (hbuilds : Builds text fragment rel) (h : Orders text fragment w)
    {greedy : Bool} {next : Nat} {code code' : Code}
    (hagrees : Agrees (Code.loop fragment greedy next code).2.2 code' code.size
      (Code.loop fragment greedy next code).2.2.size) :
    Tries text code' code.size next (LoopWays w greedy) := by
  have hgrows := Builds.loop_grows greedy hbuilds next code
  refine .loop ?_ (tries_round h hagrees)
  rw [hagrees _ (Nat.le_refl _) (by omega)]
  rw [Builds.size_loop] at hgrows
  simp only [Code.loop, emit, Array.set!_eq_setIfInBounds]
  rw [Array.getElem?_setIfInBounds_self_of_lt (by omega)]

/-- At least one round and then any number, entered at the first. -/
theorem loopOnce (hbuilds : Builds text fragment rel) (h : Orders text fragment w)
    (greedy : Bool) :
    Orders text
      (fun next code =>
        ((Code.loop fragment greedy next code).1, (Code.loop fragment greedy next code).2.2))
      (LeastWays w greedy 1) :=
  fun _ _ _ _ hagrees => (tries_round h hagrees).andThen (tries_loop hbuilds h hagrees)

theorem least (hbuilds : Builds text fragment rel) (h : Orders text fragment w) (greedy : Bool)
    (n : Nat) :
    Orders text
      (fun next code => Code.copies fragment n (Code.loop fragment greedy next code).1
        (Code.loop fragment greedy next code).2.2)
      (LeastWays w greedy (n + 1)) := by
  induction n with
  | zero => exact loopOnce hbuilds h greedy
  | succ n ih =>
    exact andThen hbuilds ((hbuilds.copies n).andThen (hbuilds.loopOnce greedy)) h ih

/-- What is repeated. -/
theorem repetition (hbuilds : Builds text fragment rel) (h : Orders text fragment w)
    (consumes greedy : Bool) (least : Nat) :
    (∀ most, Orders text (Code.repetition fragment consumes least (some most) greedy)
      (Chain (RoundWays w least) (SomeWays w greedy (most - least)))) ∧
    Orders text (Code.repetition fragment consumes least none greedy)
      (LeastWays w greedy least) := by
  refine ⟨fun most => ?_, ?_⟩
  · exact andThen (hbuilds.copies least) (hbuilds.atMost greedy (most - least))
      (copies hbuilds h least) (atMost hbuilds h greedy (most - least))
  · cases least with
    | succ n => exact Orders.least hbuilds h greedy n
    | zero =>
      cases consumes with
      | true => exact fun _ _ _ _ hagrees => tries_loop hbuilds h hagrees
      | false =>
        refine (option (hbuilds.loopOnce greedy) (loopOnce hbuilds h greedy) greedy).mono ?_
        rintro a _ (@⟨_, bs, f, hw, hf⟩)
        exact ⟨bs.flatMap f, ⟨bs, f, hw, hf, rfl⟩, rfl⟩

end Orders
end Code

variable {text : Array Char}

theorem Code.orders_save (slot : Nat) :
    Orders text (fun next code => code.emit (.save slot next)) (fun a bs => bs = [a.save slot]) :=
  .single (by simp) fun next place a bs h => by simp [h, Inst.step, Spot.at, Spot.save]

/-- The instructions of a pattern try its ways in their order. -/
theorem Pattern.orders_assemble (text : Array Char) (p : Pattern) :
    Code.Orders text p.assemble (p.Ways text) := by
  induction p with
  | empty => exact .skip
  | char set =>
    refine .single (by simp) fun next place a bs h => ?_
    obtain rfl := h
    cases hc : text[a.pos]? with
    | none => simp [Inst.step, Spot.at, hc]
    | some c => cases hset : set.contains c <;> simp [Inst.step, Spot.at, hc, hset]
  | look l =>
    refine .single (by simp) fun next place a bs h => ?_
    obtain rfl := h
    cases hl : l.at text a.pos <;> simp [Inst.step_look, Spot.at, hl]
  | seq p q hp hq => exact .andThen (p.builds_assemble text) (q.builds_assemble text) hp hq
  | alt p q hp hq => exact .choice (p.builds_assemble text) (q.builds_assemble text) hp hq
  | rep p least most greedy hp =>
    obtain ⟨hsome, hnone⟩ :=
      Code.Orders.repetition (p.builds_assemble text) hp p.consumes greedy least
    cases most with
    | some m => exact hsome m
    | none => exact hnone
  | group i p hp =>
    have hp' := p.builds_assemble text
    refine (Code.Orders.andThen (Code.builds_save (2 * i)) (hp'.andThen (Code.builds_save _))
      (Code.orders_save (2 * i)) (.andThen hp' (Code.builds_save (2 * i + 1)) hp
        (Code.orders_save _))).mono ?_
    rintro a _ ⟨cs, hcs, rfl⟩
    refine ⟨_, fun b => cs.map fun c => c.save (2 * i + 1), rfl, ?_, by simp⟩
    rintro b hb
    obtain rfl := List.mem_singleton.1 hb
    exact ⟨cs, fun c => [c.save (2 * i + 1)], hcs, fun _ _ => rfl, List.map_eq_flatMap⟩

/-- A search finds the positions saved by the first way of the first start that has any, where the
    ways come to an end. -/
theorem Pattern.find_eq {p : Pattern} {ways : Nat → List Spot}
    (h : ∀ i, i ≤ text.size → (Pattern.group 0 p).Ways text ⟨i, []⟩ (ways i)) :
    p.program.find text =
      (List.range (text.size + 1)).findSome? fun i => (ways i).head?.map Spot.slots := by
  rw [List.range_eq_range']
  refine findFrom_eq (fun i hi => ?_) (Nat.add_zero _) (searched_start text p.program.code)
    (by simp)
  have htries := (Pattern.group 0 p).orders_assemble text 0 #[.accept] p.program.code (by simp)
    Code.agrees_refl
  refine htries _ _ (h i hi) [] _ ?_
  cases ways i with
  | nil => exact ⟨0, .nil⟩
  | cons b rest => exact ⟨1, .accept (p.program_accepts_iff.2 rfl)⟩

/-! The first way -/

namespace Pattern

/-- Whether a spot is the first to which a pattern leads from another one, or there is none. -/
def Prefers (text : Array Char) (p : Pattern) (a : Spot) (o : Option Spot) : Prop :=
  ∃ bs, p.Ways text a bs ∧ bs.head? = o

variable {p : Pattern} {ps : List Pattern} {a : Spot} {bs : List Spot}

theorem prefers_concat_cons {o : Spot → Option Spot} (h : p.Ways text a bs)
    (hps : ∀ b ∈ bs, (concat ps).Prefers text b (o b)) :
    (concat (p :: ps)).Prefers text a (bs.findSome? o) := by
  cases ps with
  | nil =>
    refine ⟨bs, h, ?_⟩
    cases bs with
    | nil => rfl
    | cons b bs =>
      obtain ⟨_, rfl, hb⟩ := hps b List.mem_cons_self
      rw [List.findSome?_cons, ← hb]
      rfl
  | cons q qs =>
    have hways : ∀ b, ∃ cs, b ∈ bs → (concat (q :: qs)).Ways text b cs ∧ cs.head? = o b := by
      intro b
      by_cases hb : b ∈ bs
      · obtain ⟨cs, hcs⟩ := hps b hb
        exact ⟨cs, fun _ => hcs⟩
      · exact ⟨[], fun hb' => absurd hb' hb⟩
    obtain ⟨f, hf⟩ := Classical.skolem.1 hways
    refine ⟨bs.flatMap f, ⟨bs, f, h, fun b hb => (hf b hb).1, rfl⟩, ?_⟩
    have hheads : bs.map (fun b => (f b).head?) = bs.map o :=
      List.map_congr_left fun b hb => (hf b hb).2
    have hsome : ∀ g : Spot → Option Spot, bs.findSome? g = (bs.map g).findSome? id := by
      simp [List.findSome?_map]
    rw [List.head?_flatMap, hsome, hheads, ← hsome]

/-- What is found in a text where a pattern leads nowhere but from its beginning. -/
theorem find_of_prefers {o : Option Spot} (h : p.Prefers text ⟨0, [(0, 0)]⟩ o)
    (hlater : ∀ i, 0 < i → i ≤ text.size → p.Ways text ⟨i, [(0, i)]⟩ []) :
    p.program.find text = o.map fun b => (b.save 1).slots := by
  obtain ⟨bs, hbs, rfl⟩ := h
  have hways : ∀ i, i ≤ text.size → (Pattern.group 0 p).Ways text ⟨i, []⟩
      (if i = 0 then bs.map fun b => b.save 1 else []) := by
    intro i hi
    split
    · rename_i h0
      subst h0
      exact ⟨bs, hbs, rfl⟩
    · exact ⟨[], hlater i (by omega) hi, rfl⟩
  rw [find_eq hways, List.range_succ_eq_map, List.findSome?_cons, List.findSome?_map]
  cases bs with
  | nil => simp
  | cons b rest => simp

end Pattern
end Harvest.Regex
