import ApiReference.Proofs.Toml.Table
import ApiReference.Server.Routes

/-!
# Two Answers about Readiness

A probe says whether the service is ready, and it reports the result of each name.  The first answer
looks at every check, the second only at the last check of each name.  So the report is never the
stricter of the two, and it is the milder one just where a check that fails has the name of a later
check that passes.
-/

namespace ApiReference.Server

open Toml

/-- A check that no later check of its name follows. -/
def Check.IsLastOf (check : Check) (checks : List Check) : Prop :=
  ∃ before after, checks = before ++ check :: after ∧ ∀ other ∈ after, other.name ≠ check.name

namespace Check

theorem isLastOf_append_singleton {check last : Check} {checks : List Check} :
    check.IsLastOf (checks ++ [last]) ↔
      check = last ∨ check.name ≠ last.name ∧ check.IsLastOf checks := by
  constructor
  · rintro ⟨before, after, heq, hafter⟩
    induction after using List.reverseRec with
    | nil =>
      left
      exact (List.append_singleton_inj.mp heq).2.symm
    | append_singleton after other =>
      right
      rw [← List.cons_append, ← List.append_assoc] at heq
      have hinj := List.append_singleton_inj.mp heq
      constructor
      · rw [hinj.2]
        exact (hafter other (by simp)).symm
      · exact ⟨before, after, hinj.1, fun other hother ↦ hafter other (by simp [hother])⟩
  · rintro (rfl | ⟨hname, before, after, rfl, hafter⟩)
    · exact ⟨checks, [], rfl, by simp⟩
    · exact ⟨before, after ++ [last], by simp, by simpa [or_imp, forall_and] using
        ⟨hafter, hname.symm⟩⟩

/-- Each check has a last one of its name. -/
theorem exists_isLastOf {check : Check} {checks : List Check} (h : check ∈ checks) :
    ∃ passes, IsLastOf ⟨check.name, passes⟩ checks := by
  induction checks using List.reverseRec with
  | nil => cases h
  | append_singleton checks last ih =>
    by_cases hname : check.name = last.name
    · use last.passes
      apply isLastOf_append_singleton.mpr
      rw [hname]
      exact .inl rfl
    · have hmem : check ∈ checks := by
        apply (List.mem_append.mp h).resolve_right
        intro hlast
        exact hname (congrArg Check.name (List.mem_singleton.mp hlast))
      obtain ⟨passes, hpasses⟩ := ih hmem
      exact ⟨passes, isLastOf_append_singleton.mpr (.inr ⟨hname, hpasses⟩)⟩

/-- Where all names differ every check is the last of its name. -/
theorem isLastOf_of_nodup {check : Check} {checks : List Check}
    (hnames : (checks.map Check.name).Nodup) (h : check ∈ checks) : check.IsLastOf checks := by
  obtain ⟨before, after, rfl⟩ := List.append_of_mem h
  refine ⟨before, after, rfl, fun other hother heq ↦ ?_⟩
  rw [List.map_append, List.map_cons] at hnames
  have hafter := (List.nodup_cons.mp (List.nodup_append.mp hnames).2.1).1
  apply hafter
  rw [← heq]
  exact List.mem_map_of_mem hother

end Check

namespace Readiness

/-- The probe with a flag to which some checks were added one after another. -/
def ofChecks (flag : Bool) (checks : List Check) : Readiness :=
  checks.foldl addCheck { flag }

/-- What the two answers have in common if they agree: the service is ready in both or in neither,
and no name passes in the report while a check of that name fails. -/
structure Agrees (readiness : Readiness) : Prop where
  ready : readiness.report.ready = readiness.isReady
  passing : ∀ name, readiness.report.result? name = some true →
    ∀ check ∈ readiness.checks, check.name = name → check.passes = true

/-! ## One more check -/

theorem ofChecks_append_singleton (flag : Bool) (checks : List Check) (check : Check) :
    ofChecks flag (checks ++ [check]) = (ofChecks flag checks).addCheck check := by
  rw [ofChecks, List.foldl_append]
  rfl

/-- One failing check is enough for a service not to be ready. -/
theorem isReady_addCheck (readiness : Readiness) (check : Check) :
    (readiness.addCheck check).isReady = (readiness.isReady && check.passes) := by
  simp [isReady, addCheck, Bool.and_assoc]

/-- In the report a check takes the place of those of its name. -/
theorem result?_addCheck (readiness : Readiness) (check : Check) (name : String) :
    (readiness.addCheck check).report.result? name =
      if name = check.name then some check.passes else readiness.report.result? name := by
  have hresults : (readiness.addCheck check).results =
      Table.insert check.name check.passes readiness.results := by
    rw [results, addCheck, List.map_append]
    exact Table.ofEntries_append_singleton _ _
  calc
    (readiness.addCheck check).report.result? name =
        (Table.insert check.name check.passes readiness.results).get? name := by
      rw [← hresults]
      rfl
    _ = if name = check.name then some check.passes else readiness.report.result? name :=
      Table.get?_insert check.name check.passes readiness.results name

/-! ## Any checks -/

theorem ofChecks_eq (flag : Bool) (checks : List Check) :
    ofChecks flag checks = ⟨flag, checks⟩ := by
  induction checks using List.reverseRec with
  | nil => rfl
  | append_singleton checks check ih => rw [ofChecks_append_singleton, ih, addCheck]

/-- A service is ready if its flag is set and every check passes. -/
theorem isReady_ofChecks (flag : Bool) (checks : List Check) :
    (ofChecks flag checks).isReady = true ↔
      flag = true ∧ ∀ check ∈ checks, check.passes = true := by
  induction checks using List.reverseRec with
  | nil => simp [ofChecks, isReady]
  | append_singleton checks check ih =>
    rw [ofChecks_append_singleton, isReady_addCheck, Bool.and_eq_true, ih, and_assoc,
      List.forall_mem_append, List.forall_mem_singleton]

/-- A name is reported with the result of its last check. -/
theorem result?_ofChecks (flag : Bool) (checks : List Check) {name : String} {passes : Bool} :
    (ofChecks flag checks).report.result? name = some passes ↔
      Check.IsLastOf ⟨name, passes⟩ checks := by
  induction checks using List.reverseRec with
  | nil =>
    apply iff_of_false
    · exact nofun
    · rintro ⟨before, after, heq, -⟩
      cases before <;> cases heq
  | append_singleton checks check ih =>
    obtain ⟨last, lastPasses⟩ := check
    rw [ofChecks_append_singleton, result?_addCheck, Check.isLastOf_append_singleton, ← ih]
    by_cases hname : name = last
    · simp [hname, eq_comm]
    · simp [hname]

/-- The report passes if no name has a failing result. -/
theorem ready_report_iff (readiness : Readiness) : readiness.report.ready = true ↔
    readiness.flag = true ∧ ∀ name, readiness.report.result? name ≠ some false := by
  rw [report, Bool.and_eq_true, List.all_eq_true]
  apply and_congr_right
  intro _
  constructor
  · intro hall name hname
    exact Bool.false_ne_true (hall _ (Table.mem_of_get? hname))
  · rintro hnames ⟨name, passes⟩ hmem
    cases passes with
    | true => rfl
    | false =>
      have hfound := Table.get?_of_mem (Table.ascending_ofEntries _) hmem
      exact absurd hfound (hnames name)

variable {flag : Bool} {checks : List Check}

/-- The report is not the stricter answer. -/
theorem ready_report_of_isReady (h : (ofChecks flag checks).isReady = true) :
    (ofChecks flag checks).report.ready = true := by
  obtain ⟨hflag, hpasses⟩ := (isReady_ofChecks flag checks).mp h
  apply (ready_report_iff _).mpr
  constructor
  · rw [ofChecks_eq]
    exact hflag
  · intro name hname
    obtain ⟨before, after, rfl, -⟩ := (result?_ofChecks flag checks).mp hname
    exact Bool.false_ne_true (hpasses ⟨name, false⟩ (by simp))

/-- The two answers agree just if every failing check is the last of its name. -/
theorem agrees_iff : (ofChecks flag checks).Agrees ↔
    ∀ check ∈ checks, check.passes = false → Check.IsLastOf ⟨check.name, false⟩ checks := by
  constructor
  · intro hagrees check hcheck hfails
    obtain ⟨passes, hlast⟩ := Check.exists_isLastOf hcheck
    cases passes with
    | false => exact hlast
    | true =>
      -- the report says of this name that it passes
      have hpasses := hagrees.passing check.name ((result?_ofChecks flag checks).mpr hlast) check
        (by rwa [ofChecks_eq]) rfl
      rw [hfails] at hpasses
      cases hpasses
  · intro hlast
    have hfailing {check : Check} (hcheck : check ∈ checks) (hfails : check.passes = false) :
        (ofChecks flag checks).report.result? check.name = some false :=
      (result?_ofChecks flag checks).mpr (hlast check hcheck hfails)
    constructor
    · rw [Bool.eq_iff_iff]
      constructor
      · intro hready
        obtain ⟨hflag, hnames⟩ := (ready_report_iff _).mp hready
        apply (isReady_ofChecks flag checks).mpr
        constructor
        · rwa [ofChecks_eq] at hflag
        · intro check hcheck
          rw [← Bool.not_eq_false]
          exact fun hfails ↦ hnames check.name (hfailing hcheck hfails)
      · exact ready_report_of_isReady
    · rintro name hpasses check hcheck rfl
      rw [ofChecks_eq] at hcheck
      rw [← Bool.not_eq_false]
      intro hfails
      rw [hfailing hcheck hfails] at hpasses
      cases hpasses

/-- A probe whose checks have different names gives answers that agree. -/
theorem agrees_of_nodup (h : (checks.map Check.name).Nodup) : (ofChecks flag checks).Agrees := by
  apply agrees_iff.mpr
  intro check hcheck hfails
  rw [← hfails]
  exact Check.isLastOf_of_nodup h hcheck

/-- If a service is ready it is reported to be, and the two answers agree just when every name that
has a check that fails has one as its last. -/
theorem answers_agree_iff (flag : Bool) (checks : List Check) :
    ((ofChecks flag checks).isReady = true → (ofChecks flag checks).report.ready = true) ∧
    ((ofChecks flag checks).Agrees ↔
      ∀ check ∈ checks, check.passes = false → Check.IsLastOf ⟨check.name, false⟩ checks) :=
  ⟨ready_report_of_isReady, agrees_iff⟩

/-- A check that fails is passed over for a later one of its name. -/
theorem masked_failure_is_reported_ready :
    ¬(ofChecks true [⟨"db", false⟩, ⟨"db", true⟩]).Agrees := by
  intro hagrees
  have hready := hagrees.ready
  revert hready
  decide +kernel

end Readiness

/-- A site has one check of its own, so that its answers agree whatever its flag is. -/
theorem Site.agrees_of (selector : Selector) (frontend : Frontend) (ready : Bool) :
    ((Site.of selector frontend).setReady ready).readiness.Agrees := by
  have hprobe : ((Site.of selector frontend).setReady ready).readiness =
      Readiness.ofChecks ready [⟨"catalog", !selector.catalog.isEmpty⟩] := rfl
  rw [hprobe]
  apply Readiness.agrees_of_nodup
  exact List.nodup_singleton _

end ApiReference.Server
