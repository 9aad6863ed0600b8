import WhereClause.Calendar.Zone.Known
import WhereClause.Converter

/-!
# Sessions

Converters under names.  A step builds a new converter, or extends one that has a name already, and
gives the result a name; a name can be given again.  A step that fails changes nothing.
-/

set_option autoImplicit false

namespace WhereClause

/-- Converters under names, the latest first. -/
structure Session where
  converters : List (String × Converter)
deriving DecidableEq

/-- Why a step fails. -/
inductive SessionError where
  /-- No converter has the name. -/
  | noConverter
  | converter (e : ConverterError)
deriving DecidableEq

namespace Session

/-- No converters. -/
def empty : Session := ⟨[]⟩

/-- The converter of a name. -/
def get? (s : Session) (name : String) : Option Converter :=
  s.converters.lookup name

/-- Gives a converter a name. -/
def bind (s : Session) (name : String) (c : Converter) : Session :=
  ⟨(name, c) :: s.converters⟩

theorem get?_bind (s : Session) (name other : String) (c : Converter) :
    (s.bind name c).get? other = if other = name then some c else s.get? other := by
  by_cases h : other = name
  · simp [bind, get?, h]
  · simp [bind, get?, List.lookup_cons, beq_eq_false_iff_ne.2 h, h]

/-- A step of a session. -/
inductive Step where
  /-- Builds a converter from the default plan. -/
  | build (name : String) (changes : List Converter.Plan.Step)
  /-- Builds a converter from the plan of another one. -/
  | extend (source name : String) (changes : List Converter.Plan.Step)

namespace Step

/-- The name a step gives. -/
def name : Step → String
  | .build name _ => name
  | .extend _ name _ => name

/-- The changes a step makes. -/
def changes : Step → List Converter.Plan.Step
  | .build _ changes => changes
  | .extend _ _ changes => changes

end Step

/-- The plan a step starts from. -/
def start (s : Session) : Step → Except SessionError Converter.Plan
  | .build _ _ => .ok .default
  | .extend source _ _ => match s.get? source with
    | some c => .ok c.extend
    | none => .error .noConverter

/-- The converter a step makes. -/
def result [Calendar.ZoneTable] (s : Session) (step : Step) : Except SessionError Converter := do
  let plan ← s.start step
  ((plan.applyAll step.changes).mapError .converter) >>= fun plan ↦ plan.build.mapError .converter

/-- The session after a step. -/
def after [Calendar.ZoneTable] (s : Session) (step : Step) : Session :=
  match s.result step with
  | .ok c => s.bind step.name c
  | .error _ => s

end Session

end WhereClause
