import Mathlib.Data.Option.Basic
import WhereClause.Proofs.Converter
import WhereClause.Session

/-!
# Where the converters of a session come from

A session keeps converters.  A step that extends one takes its plan up where it was left, and what
was built before is never built again.  This file compares it with a session that keeps no
converters at all: a `Session.Lineage` has, under every name, the changes that lead there from the
default plan, and whoever asks for a converter makes them all at once and builds it once
(`Converter.Plan.assemble`).

**The two cannot be told apart** (`Session.tracks_run`).  One step keeps them together
(`Session.Tracks.after`), because extending a converter is assembling its own changes and some more
(`Converter.Plan.assemble_append`), and what every step keeps a session keeps.  Which time zones
there are makes no difference to this, so the `Calendar.ZoneTable` is arbitrary throughout.

In a lineage it is plain that a name that is given again takes nothing with it: the changes were
copied, and whatever was extended from the old converter has them still.
-/

set_option autoImplicit false

namespace WhereClause

/-! ## The plan of a scope, step by step -/

namespace Scope.Plan

theorem run_fst (p : Plan) (steps : List Step) : (p.run steps).1 = steps.foldl apply p := by
  induction steps generalizing p with
  | nil => rfl
  | cons step steps ih => exact ih (p.apply step)

theorem foldl_apply_function (p : Plan) (fs : List FunctionDecl) :
    (fs.map Step.function).foldl apply p = { p with functions := p.functions ++ fs } := by
  induction fs generalizing p with
  | nil => simp
  | cons f fs ih => rw [List.map_cons, List.foldl_cons, ih]; simp [apply]

theorem foldl_apply_variable (p : Plan) (vs : List (String × Ty)) :
    (vs.map fun v ↦ Step.variable v.1 v.2).foldl apply p =
      { p with bindings := p.bindings ++ vs } := by
  induction vs generalizing p with
  | nil => simp
  | cons v vs ih => rw [List.map_cons, List.foldl_cons, ih]; simp [apply]

end Scope.Plan

namespace Converter.Plan

/-- The changes that turn the default plan of a scope into the one a converter needs. -/
def scopeSteps (p : Plan) : List Scope.Plan.Step :=
  .subject p.settings.subject :: .allow p.settings.functions.names ::
    (p.functions.map .function ++ p.bindings.map fun v ↦ .variable v.1 v.2)

theorem run_scopeSteps (p : Plan) : (Scope.Plan.default.run p.scopeSteps).1 = p.scopePlan := by
  have hallowed : NameSet.ofList p.settings.functions.names = p.settings.functions :=
    NameSet.ext fun _ ↦ NameSet.mem_ofList
  rw [Scope.Plan.run_fst, scopeSteps, List.foldl_cons, List.foldl_cons, List.foldl_append,
    Scope.Plan.foldl_apply_function, Scope.Plan.foldl_apply_variable]
  simp [Scope.Plan.apply, Scope.Plan.default, scopePlan, hallowed]

/-! ## All changes at once -/

variable [Calendar.ZoneTable]

/-- The converter of a list of changes, all made to the default plan. -/
def assemble (changes : List Step) : Except ConverterError Converter :=
  default.applyAll changes >>= build

theorem applyAll_append (p : Plan) (first second : List Step) :
    p.applyAll (first ++ second) = p.applyAll first >>= fun q ↦ q.applyAll second :=
  List.foldlM_append

/-- An assembled converter has the plan its changes lead to. -/
theorem assemble_eq_ok_iff {changes : List Step} {c : Converter} :
    assemble changes = .ok c ↔ default.applyAll changes = .ok c.plan ∧ c.plan.build = .ok c := by
  rw [assemble, Except.bind_eq_ok_iff]
  constructor
  · rintro ⟨p, happly, hbuild⟩
    obtain ⟨-, -, rfl⟩ := build_eq_ok_iff.1 hbuild
    exact ⟨happly, hbuild⟩
  · rintro ⟨happly, hbuild⟩
    exact ⟨c.plan, happly, hbuild⟩

/-- **Extending a converter is assembling more changes.** -/
theorem assemble_append {first : List Step} {c : Converter} (h : assemble first = .ok c)
    (second : List Step) : assemble (first ++ second) = c.extend.applyAll second >>= build := by
  obtain ⟨happly, -⟩ := assemble_eq_ok_iff.1 h
  rw [assemble, applyAll_append, happly]
  rfl

end Converter.Plan

namespace Session

open Converter.Plan (assemble)

/-! ## Sessions without converters -/

/-- The session after several steps. -/
def run [Calendar.ZoneTable] (steps : List Step) : Session :=
  steps.foldl after empty

/-- The changes under every name, all of them since the default plan. -/
abbrev Lineage : Type := String → Option (List Converter.Plan.Step)

namespace Lineage

/-- All changes that lead to what a step makes, if the name it starts from is known. -/
def changes? (l : Lineage) : Step → Option (List Converter.Plan.Step)
  | .build _ changes => some changes
  | .extend source _ changes => (l source).map (· ++ changes)

/-- What a step makes, with all changes made at once. -/
def result [Calendar.ZoneTable] (l : Lineage) (step : Step) : Except SessionError Converter :=
  match l.changes? step with
  | some changes => (assemble changes).mapError .converter
  | none => .error .noConverter

/-- The lineage after a step; a step that fails changes nothing. -/
def after [Calendar.ZoneTable] (l : Lineage) (step : Step) : Lineage :=
  match l.result step with
  | .ok _ => fun name ↦ if name = step.name then l.changes? step else l name
  | .error _ => l

end Lineage

/-- The lineage after several steps. -/
def lineage [Calendar.ZoneTable] (steps : List Step) : Lineage :=
  steps.foldl Lineage.after fun _ ↦ none

/-- A session has a converter under the same names as a lineage has changes, and it is the one that
they come to. -/
def Tracks [Calendar.ZoneTable] (s : Session) (l : Lineage) : Prop :=
  ∀ name, Option.Rel (fun c changes ↦ assemble changes = .ok c) (s.get? name) (l name)

/-! ## One step -/

section AnyZones

variable [Calendar.ZoneTable] {s : Session} {l : Lineage}

theorem tracks_empty : Tracks empty fun _ ↦ none :=
  fun _ ↦ .none

/-- A converter in a session is what the changes under its name come to. -/
theorem Tracks.exists_assemble (h : Tracks s l) {name : String} {c : Converter}
    (hc : s.get? name = some c) : ∃ changes, l name = some changes ∧ assemble changes = .ok c := by
  have hname := h name
  rw [hc] at hname
  generalize l name = known at hname
  cases hname with
  | some hassemble => exact ⟨_, rfl, hassemble⟩

/-- And the changes under a name come to a converter in the session. -/
theorem Tracks.exists_get? (h : Tracks s l) {name : String} {changes : List Converter.Plan.Step}
    (hl : l name = some changes) : ∃ c, s.get? name = some c ∧ assemble changes = .ok c := by
  have hname := h name
  rw [hl] at hname
  generalize s.get? name = held at hname
  cases hname with
  | some hassemble => exact ⟨_, rfl, hassemble⟩

theorem Tracks.eq_none (h : Tracks s l) {name : String} (hc : s.get? name = none) :
    l name = none := by
  have hname := h name
  rw [hc] at hname
  generalize l name = known at hname
  cases hname with
  | none => rfl

/-- A step makes its changes to the plan it starts from. -/
theorem result_of_start {step : Step} {p : Converter.Plan} (h : s.start step = .ok p) :
    s.result step = (p.applyAll step.changes >>= Converter.Plan.build).mapError .converter := by
  rw [result, h]
  show ((p.applyAll step.changes).mapError SessionError.converter >>= fun q ↦
    q.build.mapError SessionError.converter) = _
  cases p.applyAll step.changes <;> rfl

/-- **A step makes the same either way**, and fails for the same reason. -/
theorem Tracks.result_eq (h : Tracks s l) (step : Step) : s.result step = l.result step := by
  cases step with
  | build name changes => exact result_of_start rfl
  | extend source name changes =>
    cases hget : s.get? source with
    | none =>
      have hknown := h.eq_none hget
      rw [result, start, hget, Lineage.result, Lineage.changes?, hknown]
      rfl
    | some c =>
      obtain ⟨before, hknown, hbefore⟩ := h.exists_assemble hget
      rw [result_of_start (by rw [start, hget]), Lineage.result, Lineage.changes?, hknown]
      simp [Converter.Plan.assemble_append hbefore, Step.changes]

/-- What a step makes is what its changes come to. -/
theorem Lineage.rel_of_result {step : Step} {c : Converter} (h : l.result step = .ok c) :
    Option.Rel (fun c changes ↦ assemble changes = .ok c) (some c) (l.changes? step) := by
  rw [Lineage.result] at h
  cases hchanges : l.changes? step with
  | none =>
    rw [hchanges] at h
    cases h
  | some changes =>
    rw [hchanges] at h
    exact .some (Except.mapError_eq_ok_iff.1 h)

/-- **A step keeps session and lineage together.** -/
theorem Tracks.after (h : Tracks s l) (step : Step) : Tracks (s.after step) (l.after step) := by
  rw [Session.after, Lineage.after, h.result_eq step]
  cases hresult : l.result step with
  | error error => exact h
  | ok c =>
    intro name
    simp only [get?_bind]
    by_cases hname : name = step.name
    · rw [if_pos hname, if_pos hname]
      exact Lineage.rel_of_result hresult
    · rw [if_neg hname, if_neg hname]
      exact h name

/-! ## Whole sessions -/

/-- **A session is the same as its lineage.** -/
theorem tracks_run (steps : List Step) : Tracks (run steps) (lineage steps) :=
  List.foldl_rel tracks_empty fun step _ _ _ h ↦ h.after step

theorem run_append (first second : List Step) :
    run (first ++ second) = second.foldl Session.after (run first) :=
  List.foldl_append

theorem after_of_error {step : Step} {error : SessionError} (h : s.result step = .error error) :
    s.after step = s := by
  rw [Session.after, h]

/-- A step that fails, or gives its name to another converter, leaves a name alone. -/
theorem get?_after {step : Step} {name : String}
    (h : step.name = name → ∃ error, s.result step = .error error) :
    (s.after step).get? name = s.get? name := by
  rw [Session.after]
  cases hresult : s.result step with
  | error error => rfl
  | ok c =>
    have hname : name ≠ step.name := by
      intro hname
      obtain ⟨error, herror⟩ := h hname.symm
      rw [hresult] at herror
      cases herror
    rw [get?_bind, if_neg hname]

/-- So does a session in which no step gives the name anew. -/
theorem get?_run_append (steps later : List Step) {name : String}
    (h : ∀ before step rest, later = before ++ step :: rest → step.name = name →
      ∃ error, (run (steps ++ before)).result step = .error error) :
    (run (steps ++ later)).get? name = (run steps).get? name := by
  induction later generalizing steps with
  | nil => rw [List.append_nil]
  | cons step later ih =>
    have hsplit : ∀ rest, steps ++ [step] ++ rest = steps ++ step :: rest := by simp
    have hone : run (steps ++ [step]) = (run steps).after step := run_append steps [step]
    have hfirst : step.name = name → ∃ error, (run steps).result step = .error error := by
      simpa using h [] step later rfl
    have hrest := ih (steps ++ [step]) fun before other rest hlater hname ↦ by
      rw [hsplit]
      exact h (step :: before) other rest (by rw [hlater, List.cons_append]) hname
    rw [← hsplit, hrest, hone, get?_after hfirst]

/-- **Extending is building in one go.**  At the end of any session a name has a converter exactly
if the steps along its lineage were made, and it is the converter that these changes come to when
they are made to the default plan at once; its scope is the one its own settings describe, also
where the default scope was taken as it stands.  A step that fails changes nothing, and a converter
stays what it is until its own name is given again, whatever happens to the names it was extended
from. -/
theorem run_iff_assemble (steps : List Step) :
    (∀ name, Option.Rel (fun c changes ↦ assemble changes = .ok c)
      ((run steps).get? name) (lineage steps name)) ∧
    (∀ name c, (run steps).get? name = some c →
      (Scope.Plan.default.run c.plan.scopeSteps).1.build = .ok c.scope ∧
        (c.sharesStandardScope = true → Scope.standard = .ok c.scope)) ∧
    (∀ step, (run steps).result step = (lineage steps).result step) ∧
    (∀ step error, (run steps).result step = .error error → run (steps ++ [step]) = run steps) ∧
    ∀ later name, (∀ before step rest, later = before ++ step :: rest → step.name = name →
        ∃ error, (run (steps ++ before)).result step = .error error) →
      (run (steps ++ later)).get? name = (run steps).get? name := by
  have htracks := tracks_run steps
  refine ⟨htracks, fun name c hc ↦ ?_, htracks.result_eq, fun step error herror ↦ ?_,
    fun later name ↦ get?_run_append steps later⟩
  · obtain ⟨changes, -, hassemble⟩ := htracks.exists_assemble hc
    obtain ⟨-, hbuild⟩ := Converter.Plan.assemble_eq_ok_iff.1 hassemble
    obtain ⟨-, hscope, -⟩ := Converter.Plan.build_eq_ok_iff.1 hbuild
    refine ⟨by rw [Converter.Plan.run_scopeSteps, hscope], fun hstandard ↦ ?_⟩
    have hdefault : c.plan.scopePlan = .default := of_decide_eq_true hstandard
    rw [Scope.standard, ← hdefault, hscope]
  · rw [run_append]
    exact after_of_error herror

end AnyZones

/-- A converter extended from `a`.  Then an attempt to change it fails, and `a` is given again. -/
theorem run_iff_assemble_rebound :
    ∃ c, (run [.build "a" [.enable "size"], .extend "a" "b" [.column "n" "m"],
        .extend "b" "b" [.disable "size", .zone "Nowhere"], .build "a" [.subject "row"]]).get? "b" =
          some c ∧
      assemble [.enable "size", .column "n" "m"] = .ok c ∧
      (Scope.Plan.default.run c.plan.scopeSteps).1.build = .ok c.scope := by
  have hlineage : lineage [.build "a" [.enable "size"], .extend "a" "b" [.column "n" "m"],
      .extend "b" "b" [.disable "size", .zone "Nowhere"], .build "a" [.subject "row"]] "b" =
        some [.enable "size", .column "n" "m"] := by
    decide +kernel
  obtain ⟨htracks, hscope, -⟩ := run_iff_assemble _
  obtain ⟨c, hc, hassemble⟩ := Tracks.exists_get? htracks hlineage
  exact ⟨c, hc, hassemble, (hscope "b" c hc).1⟩

end Session

end WhereClause
