import ApiReference.Proofs.Runs
import ApiReference.Server.Readiness
import Mathlib

/-!
# Copies of a Readiness Probe

A copy of a probe shares the flag of its original and goes on with a list of checks of its own.  So
after any steps a copy is ready just when the flag was last set to true, through whichever copy, and
all the checks pass that its original had when the copy was made or that were added to it since.
-/

namespace ApiReference.Server

/-- A named check that is asked anew each time, as its answer hangs on the state of the world. -/
structure Inquiry (ω : Type) where
  name : String
  ask : ω → Bool

/-- A probe as it is held: the place of its flag, and the checks of its own list. -/
structure Holder (ω : Type) where
  place : Nat
  checks : List (Inquiry ω)

/-- Flags by their places, and the probes that refer to them.  At first there is one of each. -/
structure Holders (ω : Type) where
  flags : List Bool := [true]
  members : List (Holder ω) := [⟨0, []⟩]

variable {ω : Type}

/-- The result of a check in a state of the world. -/
def Inquiry.result (world : ω) (inquiry : Inquiry ω) : Check :=
  ⟨inquiry.name, inquiry.ask world⟩

namespace Holders

/-- A step that is made through one of the members. -/
inductive Step (ω : Type) where
  | addCheck (index : Nat) (check : Inquiry ω)
  | setReady (index : Nat) (ready : Bool)
  | clone (index : Nat)

/-- The member that a step is made through. -/
def Step.index : Step ω → Nat
  | .addCheck index _ | .setReady index _ | .clone index => index

/-- What a step through a member does.  A copy refers to the flag of its original, and a check is
added to a list in place of which the longer one is held. -/
def perform (holders : Holders ω) (member : Holder ω) : Step ω → Holders ω
  | .addCheck index check =>
    { holders with
      members := holders.members.set index { member with checks := member.checks ++ [check] } }
  | .setReady _ ready => { holders with flags := holders.flags.set member.place ready }
  | .clone _ => { holders with members := holders.members ++ [member] }

/-- The members after a step, if the one that it is made through is there. -/
def step (holders : Holders ω) (step : Step ω) : Option (Holders ω) :=
  holders.members[step.index]?.map fun member ↦ holders.perform member step

/-- The members after some steps, if they can be made one after another. -/
def after (holders : Holders ω) (steps : List (Step ω)) : Option (Holders ω) :=
  steps.foldlM step holders

/-- A member as a probe, with the results of its checks in a state of the world. -/
def probe (holders : Holders ω) (world : ω) (member : Holder ω) : Readiness :=
  ⟨holders.flags.getD member.place false, member.checks.map (Inquiry.result world)⟩

def toList (holders : Holders ω) (world : ω) : List Readiness :=
  holders.members.map (holders.probe world)

/-! ## Histories -/

/-- The checks that a step adds to a member. -/
def Step.added (index : Nat) : Step ω → List (Inquiry ω)
  | .addCheck target check => if target = index then [check] else []
  | _ => []

/-- What a step sets the flag to. -/
def Step.ready? : Step ω → Option Bool
  | .setReady _ ready => some ready
  | _ => none

def Step.isClone : Step ω → Bool
  | .clone _ => true
  | _ => false

/-- A step as one of a family whose checks have their results. -/
def Step.seen (world : ω) : Step ω → ReadinessFamily.Step
  | .addCheck index check => .addCheck index (check.result world)
  | .setReady _ ready => .setReady ready
  | .clone index => .clone index

/-- What the flag was last set to, through any member. -/
def lastReady (steps : List (Step ω)) : Bool :=
  (steps.filterMap Step.ready?).getLast?.getD true

/-- How many members there are after some steps. -/
def population (steps : List (Step ω)) : Nat :=
  steps.countP Step.isClone + 1

/-- The list of a member by its history.  The first one has the checks that were added to it; a copy
has those of its original when it was made, and then the checks that were added to it since. -/
inductive Owns : List (Step ω) → Nat → List (Inquiry ω) → Prop
  | first (steps : List (Step ω)) : Owns steps 0 (steps.flatMap (Step.added 0))
  | copy {before : List (Step ω)} {original : Nat} {checks : List (Inquiry ω)}
      (horiginal : Owns before original checks) (since : List (Step ω)) :
      Owns (before ++ .clone original :: since) (population before)
        (checks ++ since.flatMap (Step.added (population before)))

/-! ## One step -/

variable {holders next : Holders ω} {step : Step ω}

/-- A step is made through a member that there is. -/
theorem exists_member_of_step (h : holders.step step = some next) :
    ∃ member, holders.members[step.index]? = some member ∧ next = holders.perform member step := by
  obtain ⟨member, hmember, rfl⟩ := Option.map_eq_some_iff.mp h
  exact ⟨member, hmember, rfl⟩

/-- A step adds at the end of the list of one member, and leaves all others as they are. -/
theorem member_of_step (h : holders.step step = some next) {index : Nat} {member : Holder ω}
    (hmember : holders.members[index]? = some member) :
    next.members[index]? =
      some { member with checks := member.checks ++ step.added index } := by
  obtain ⟨through, hthrough, rfl⟩ := exists_member_of_step h
  cases step with
  | addCheck target check =>
    by_cases htarget : target = index
    · subst htarget
      have hsame : through = member := Option.some.inj (hthrough.symm.trans hmember)
      rw [perform, List.getElem?_set_self', hmember, Step.added, if_pos rfl, hsame]
      rfl
    · rw [perform, List.getElem?_set_ne htarget, hmember, Step.added, if_neg htarget,
        List.append_nil]
  | setReady target ready => simpa [perform, Step.added] using hmember
  | clone original =>
    have hlt : index < holders.members.length := (List.getElem?_eq_some_iff.mp hmember).1
    rw [perform, List.getElem?_append_left hlt, hmember]
    simp [Step.added]

/-- A copy is made with the list of its original, and with its flag. -/
theorem copy_of_step {original : Nat} (h : holders.step (.clone original) = some next)
    {member : Holder ω} (hmember : holders.members[original]? = some member) :
    next.members[holders.members.length]? = some member := by
  obtain ⟨through, hthrough, rfl⟩ := exists_member_of_step h
  have hsame : through = member := Option.some.inj (hthrough.symm.trans hmember)
  rw [perform, List.getElem?_concat_length, hsame]

theorem length_of_step (h : holders.step step = some next) :
    next.members.length = holders.members.length + if step.isClone then 1 else 0 := by
  obtain ⟨through, -, rfl⟩ := exists_member_of_step h
  cases step <;> simp [perform, Step.isClone]

/-- All members refer to the one flag, which has this value. -/
structure Shares (holders : Holders ω) (ready : Bool) : Prop where
  flags : holders.flags = [ready]
  places : ∀ member ∈ holders.members, member.place = 0

/-- All members go on to share one flag. -/
theorem shares_of_step {ready : Bool} (hshares : holders.Shares ready)
    (h : holders.step step = some next) : next.Shares (step.ready?.getD ready) := by
  obtain ⟨through, hthrough, rfl⟩ := exists_member_of_step h
  have hplace : through.place = 0 := hshares.places through (List.mem_of_getElem? hthrough)
  cases step with
  | addCheck target check =>
    constructor
    · exact hshares.flags
    · intro member hmember
      rcases List.mem_or_eq_of_mem_set hmember with hmember | rfl
      · exact hshares.places member hmember
      · exact hplace
  | setReady target value =>
    constructor
    · rw [perform, hshares.flags, hplace]
      rfl
    · exact hshares.places
  | clone original =>
    constructor
    · exact hshares.flags
    · intro member hmember
      rcases List.mem_append.mp hmember with hmember | hmember
      · exact hshares.places member hmember
      · rw [List.mem_singleton.mp hmember]
        exact hplace

/-- The members as a family whose checks have their results. -/
def family (holders : Holders ω) (ready : Bool) (world : ω) : ReadinessFamily :=
  ⟨ready, holders.members.map fun member ↦ member.checks.map (Inquiry.result world)⟩

/-- A family makes the step with the results of the checks. -/
theorem family_of_step (h : holders.step step = some next) (ready : Bool) (world : ω) :
    next.family (step.ready?.getD ready) world =
      (holders.family ready world).step (step.seen world) := by
  obtain ⟨through, hthrough, rfl⟩ := exists_member_of_step h
  cases step with
  | addCheck target check =>
    have htarget : holders.members[target]? = some through := hthrough
    rw [Step.seen, ReadinessFamily.step, family, family, perform, List.map_set,
      List.modify_eq_set_getElem?, List.getElem?_map, htarget]
    simp [Step.ready?]
  | setReady target value => rfl
  | clone original =>
    have horiginal : holders.members[original]? = some through := hthrough
    rw [Step.seen, ReadinessFamily.step, family, family, perform, List.map_append,
      List.getElem?_map, horiginal]
    rfl

/-- Members that share a flag are the copies of one probe. -/
theorem toList_eq_family {ready : Bool} (hshares : holders.Shares ready) (world : ω) :
    holders.toList world = (holders.family ready world).toList := by
  rw [toList, ReadinessFamily.toList, family, List.map_map]
  apply List.map_congr_left
  intro member hmember
  rw [probe, hshares.flags, hshares.places member hmember]
  rfl

/-! ## Whole runs -/

theorem after_cons (holders : Holders ω) (step : Step ω) (rest : List (Step ω)) :
    holders.after (step :: rest) = (holders.step step).bind fun next ↦ next.after rest :=
  List.foldlM_cons

theorem after_append (holders : Holders ω) (before rest : List (Step ω)) :
    holders.after (before ++ rest) = (holders.after before).bind fun next ↦ next.after rest :=
  List.foldlM_append

theorem lastReady_append_singleton (steps : List (Step ω)) (step : Step ω) :
    lastReady (steps ++ [step]) = step.ready?.getD (lastReady steps) := by
  rw [lastReady, List.filterMap_append]
  cases hready : step.ready? with
  | none => simp [hready, lastReady]
  | some ready => simp [hready]

/-- Every copy adds a member. -/
theorem population_append_singleton (steps : List (Step ω)) (step : Step ω) :
    population (steps ++ [step]) = population steps + if step.isClone then 1 else 0 := by
  rw [population, population, List.countP_append, List.countP_singleton, Nat.add_right_comm]

section

variable {steps : List (Step ω)} (h : ({} : Holders ω).after steps = some holders)

include h

/-- There are as many members as were cloned, and the first. -/
theorem length_of_after : holders.members.length = population steps := by
  refine run_induction (P := fun steps holders ↦ holders.members.length = population steps)
    rfl ?further h
  case further =>
    intro steps last step next _ hstep hlength
    rw [length_of_step hstep, hlength, population_append_singleton]

/-- After any steps all members share the flag that was set last. -/
theorem shares_of_after : holders.Shares (lastReady steps) := by
  refine run_induction (P := fun steps holders ↦ holders.Shares (lastReady steps))
    ?first ?further h
  case first =>
    constructor
    · rfl
    · intro member hmember
      rw [List.mem_singleton.mp hmember]
  case further =>
    intro steps last step next _ hstep hshares
    rw [lastReady_append_singleton]
    exact shares_of_step hshares hstep

/-- The steps lead to the family that the same steps of the probe lead to. -/
theorem family_of_after (world : ω) : holders.family (lastReady steps) world =
    (steps.map (Step.seen world)).foldl ReadinessFamily.step {} := by
  refine run_induction (P := fun steps holders ↦ holders.family (lastReady steps) world =
    (steps.map (Step.seen world)).foldl ReadinessFamily.step {}) rfl ?further h
  case further =>
    intro steps last step next _ hstep hfamily
    rw [lastReady_append_singleton, family_of_step hstep, hfamily, List.map_append,
      List.foldl_append]
    rfl

end

/-- A run adds at the end of the list of a member what its steps add to it. -/
theorem member_of_after {steps : List (Step ω)} (h : holders.after steps = some next) {index : Nat}
    {member : Holder ω} (hmember : holders.members[index]? = some member) :
    next.members[index]? =
      some { member with checks := member.checks ++ steps.flatMap (Step.added index) } := by
  induction steps generalizing holders member with
  | nil =>
    cases h
    rw [hmember, List.flatMap_nil, List.append_nil]
  | cons step rest ih =>
    rw [after_cons] at h
    obtain ⟨between, hstep, hrest⟩ := Option.bind_eq_some_iff.mp h
    rw [ih hrest (member_of_step hstep hmember), List.flatMap_cons, List.append_assoc]

/-- A member has the list that its history says. -/
theorem Owns.member {steps : List (Step ω)} {index : Nat} {checks : List (Inquiry ω)}
    (howns : Owns steps index checks) (h : ({} : Holders ω).after steps = some holders) :
    holders.members[index]? = some ⟨0, checks⟩ := by
  induction howns generalizing holders with
  | first steps =>
    have hfirst : ({} : Holders ω).members[0]? = some ⟨0, []⟩ := rfl
    exact member_of_after h hfirst
  | @copy before original checks horiginal since ih =>
    rw [after_append] at h
    obtain ⟨last, hlast, hrest⟩ := Option.bind_eq_some_iff.mp h
    rw [after_cons] at hrest
    obtain ⟨between, hclone, hsince⟩ := Option.bind_eq_some_iff.mp hrest
    have hcopy := copy_of_step hclone (ih hlast)
    rw [length_of_after hlast] at hcopy
    exact member_of_after hsince hcopy

/-- A history goes on with the step that follows it. -/
theorem Owns.append_singleton {steps : List (Step ω)} {index : Nat} {checks : List (Inquiry ω)}
    (howns : Owns steps index checks) (step : Step ω) :
    Owns (steps ++ [step]) index (checks ++ step.added index) := by
  cases howns with
  | first =>
    have hfirst := Owns.first (steps ++ [step])
    rwa [List.flatMap_append, List.flatMap_singleton] at hfirst
  | @copy before original checks horiginal since =>
    have hcopy := Owns.copy horiginal (since ++ [step])
    rwa [List.flatMap_append, List.flatMap_singleton, ← List.append_assoc, ← List.cons_append,
      ← List.append_assoc] at hcopy

/-- Every member has a history. -/
theorem exists_owns {steps : List (Step ω)} (h : ({} : Holders ω).after steps = some holders)
    {index : Nat} (hindex : index < population steps) : ∃ checks, Owns steps index checks := by
  refine run_induction (P := fun steps _ ↦ ∀ index < population steps,
    ∃ checks, Owns steps index checks) ?first ?further h index hindex
  case first =>
    intro index hindex
    have hfirst : index = 0 := Nat.lt_one_iff.mp hindex
    exact hfirst ▸ ⟨_, .first []⟩
  case further =>
    intro steps last step next hlast hstep ih index hindex
    by_cases hold : index < population steps
    · obtain ⟨checks, hchecks⟩ := ih index hold
      exact ⟨_, hchecks.append_singleton step⟩
    · -- the member is new, so that the step made it of an older one
      rw [population_append_singleton] at hindex
      cases step with
      | clone original =>
        obtain ⟨member, hmember, -⟩ := exists_member_of_step hstep
        have horiginal : original < population steps := by
          rw [← length_of_after hlast]
          exact (List.getElem?_eq_some_iff.mp hmember).1
        obtain ⟨checks, hchecks⟩ := ih original horiginal
        have hnew : index = population steps := by
          simp only [Step.isClone, if_true] at hindex
          omega
        exact hnew ▸ ⟨_, .copy hchecks []⟩
      | addCheck | setReady =>
        simp only [Step.isClone, Bool.false_eq_true, if_false] at hindex
        omega

/-- The list of a member is the one that its history says, and there is no other. -/
theorem owns_iff {steps : List (Step ω)} (h : ({} : Holders ω).after steps = some holders)
    {index : Nat} {checks : List (Inquiry ω)} :
    Owns steps index checks ↔ holders.members[index]? = some ⟨0, checks⟩ := by
  constructor
  · intro howns
    exact howns.member h
  · intro hmember
    have hindex : index < population steps := by
      rw [← length_of_after h]
      exact (List.getElem?_eq_some_iff.mp hmember).1
    obtain ⟨own, howns⟩ := exists_owns h hindex
    have hsame : (⟨0, own⟩ : Holder ω) = ⟨0, checks⟩ :=
      Option.some.inj ((howns.member h).symm.trans hmember)
    cases hsame
    exact howns

/-- What the history of some members says of them in a state of the world: each step is one of a
family with the results of the checks, and a member is ready if the flag was last set to true and
the checks of its own history pass. -/
structure Remembers (steps : List (Step ω)) (holders : Holders ω) (world : ω) : Prop where
  family : holders.toList world =
    ((steps.map (Step.seen world)).foldl ReadinessFamily.step {}).toList
  size : holders.members.length = population steps
  ready : ∀ index probe, (holders.toList world)[index]? = some probe → ∃ checks,
    (∀ own, Owns steps index own ↔ own = checks) ∧
    probe.checks = checks.map (Inquiry.result world) ∧
    (probe.isReady = true ↔ lastReady steps = true ∧ ∀ check ∈ checks, check.ask world = true)

/-- Whatever the steps were, the members are as their history says. -/
theorem remembers_of_after {steps : List (Step ω)}
    (h : ({} : Holders ω).after steps = some holders) (world : ω) :
    Remembers steps holders world := by
  have hfamily : holders.toList world =
      ((steps.map (Step.seen world)).foldl ReadinessFamily.step {}).toList := by
    rw [toList_eq_family (shares_of_after h), family_of_after h]
  constructor
  case family => exact hfamily
  case size => exact length_of_after h
  case ready =>
    intro index probe hprobe
    rw [toList, List.getElem?_map] at hprobe
    obtain ⟨member, hmember, rfl⟩ := Option.map_eq_some_iff.mp hprobe
    have hplace : member.place = 0 :=
      (shares_of_after h).places member (List.mem_of_getElem? hmember)
    have hflag : holders.flags.getD member.place false = lastReady steps := by
      rw [hplace, (shares_of_after h).flags]
      rfl
    refine ⟨member.checks, fun own ↦ ?_, rfl, ?_⟩
    · rw [owns_iff h, hmember, Option.some_inj, ← hplace]
      constructor
      · intro hsame
        rw [hsame]
      · intro hown
        rw [hown]
    · rw [Holders.probe, hflag, Readiness.isReady, Bool.and_eq_true, List.all_map, List.all_eq_true]
      rfl

/-- The original gets a check that fails after it was copied, and the copy is copied once more.  The
flag is cleared through one of them and set again through another. -/
def branchingSteps : List (Step Bool) :=
  [.addCheck 0 ⟨"catalog", id⟩, .clone 0, .addCheck 0 ⟨"assets", fun _ ↦ false⟩, .setReady 1 false,
    .clone 1, .addCheck 2 ⟨"catalog", not⟩, .setReady 0 true]

theorem remembers_branchingSteps : ∃ holders, ({} : Holders Bool).after branchingSteps =
    some holders ∧ Remembers branchingSteps holders true ∧
    (holders.toList true).map Readiness.isReady = [false, true, false] :=
  ⟨_, rfl, remembers_of_after rfl true, rfl⟩

end Holders

end ApiReference.Server
