import WhereClause.Filter.Lowering
import WhereClause.Scope.Check
import WhereClause.Sql.Rendering

/-!
# Converters

A `Converter` turns filters into SQL: settings for the rendering together with a scope to check
filters against.  It is built from a `Converter.Plan`, a list of changes to the default settings and
declarations, and can be extended by taking its plan up again.

Filters usually come as text; a `Frontend` is any other way to get a tree.
-/

set_option autoImplicit false

namespace WhereClause

/-! ## Plans -/

/-- Why there is no converter. -/
inductive ConverterError where
  | emptySubject
  | invalidTimeFormat (format : String)
  | invalidTimeZone (name : String)
  | scope (e : ScopeError)
deriving DecidableEq

/-- The reason in words. -/
def ConverterError.message : ConverterError → String
  | .emptySubject => "Subject prefix must not be empty"
  | .invalidTimeFormat format => "Invalid time format: " ++ format
  | .invalidTimeZone name => "Invalid time zone: " ++ name
  | .scope e => e.message

namespace Converter

/-- What a converter is built from. -/
structure Plan where
  settings : Settings
  /-- Functions declared in addition to the standard ones. -/
  functions : List FunctionDecl
  /-- Variables declared in addition to the subject. -/
  bindings : List (String × Ty)
deriving DecidableEq

namespace Plan

/-- Default settings and no declarations. -/
def default : Plan := ⟨.default, [], []⟩

/-- A change of a plan. -/
inductive Step where
  /-- Maps a field path to a column. -/
  | column (path column : String)
  /-- Takes the zone of a name. -/
  | zone (name : String)
  | inZone (zone : Calendar.Zone)
  | timeFormat (format : String)
  | subject (name : String)
  | enable (function : String)
  | disable (function : String)
  | function (f : FunctionDecl)
  | variable (name : String) (ty : Ty)
deriving DecidableEq

/-- The plan after a change.  Only an unknown time zone is refused at once. -/
def apply [Calendar.ZoneTable] (p : Plan) : Step → Except ConverterError Plan
  | .column path column =>
    .ok { p with settings.columns := (path, column) :: p.settings.columns }
  | .zone name => match Calendar.ZoneTable.find? name with
    | some zone => .ok { p with settings.zone := zone }
    | none => .error (.invalidTimeZone name)
  | .inZone zone => .ok { p with settings.zone := zone }
  | .timeFormat format => .ok { p with settings.timeFormat := format }
  | .subject name => .ok { p with settings.subject := name }
  | .enable function =>
    .ok { p with settings.functions := p.settings.functions.insert function }
  | .disable function =>
    .ok { p with settings.functions := p.settings.functions.erase function }
  | .function f => .ok { p with functions := p.functions ++ [f] }
  | .variable name ty => .ok { p with bindings := p.bindings ++ [(name, ty)] }

/-- The plan after several changes. -/
def applyAll [Calendar.ZoneTable] (p : Plan) (steps : List Step) : Except ConverterError Plan :=
  steps.foldlM apply p

/-- The plan of the scope: it shares the subject and the enabled functions with the settings. -/
def scopePlan (p : Plan) : Scope.Plan where
  subject := p.settings.subject
  allowed := p.settings.functions
  functions := p.functions
  bindings := p.bindings

end Plan

end Converter

/-- Refuses settings that nothing can be rendered with. -/
def Settings.validate (s : Settings) : Except ConverterError Unit :=
  if s.subject = "" then .error .emptySubject
  else match Calendar.Format.parse? s.timeFormat with
    | some _ => .ok ()
    | none => .error (.invalidTimeFormat s.timeFormat)

/-! ## Converters -/

/-- Settings and the scope that goes with them. -/
structure Converter where
  plan : Converter.Plan
  scope : Scope
deriving DecidableEq

namespace Converter

/-- The settings of a converter. -/
def settings (c : Converter) : Settings := c.plan.settings

/-- The converter of a plan.  The default scope is taken as it stands. -/
def Plan.build (p : Plan) : Except ConverterError Converter := do
  p.settings.validate
  let scope ← if p.scopePlan.isStandard then Scope.standard.mapError .scope
    else p.scopePlan.build.mapError .scope
  return ⟨p, scope⟩

/-- Whether a converter has the default scope. -/
def sharesStandardScope (c : Converter) : Bool :=
  c.plan.scopePlan.isStandard

/-- The converter with default settings. -/
def default : Except ConverterError Converter :=
  Plan.default.build

/-- The plan to start from for a converter that differs in some settings. -/
def extend (c : Converter) : Plan := c.plan

/-- The SQL text of a tree. -/
def generate (c : Converter) (e : Expr) : Except RenderError String :=
  c.settings.generate e

end Converter

/-! ## Conversion -/

/-- Why a filter has no tree that fits the scope. -/
inductive CompileCause where
  | parse (e : ParseError)
  | check (e : CheckError)
  /-- A front end's own reason. -/
  | other (message : String)
deriving DecidableEq

/-- The cause in words. -/
def CompileCause.message : CompileCause → String
  | .parse e => e.message
  | .check e => e.message
  | .other message => message

/-- The failure to compile a filter. -/
structure CompileError where
  /-- The filter. -/
  text : String
  cause : CompileCause
deriving DecidableEq

/-- The failure in words. -/
def CompileError.message (e : CompileError) : String :=
  "Failed to compile filter `" ++ e.text ++ "`: " ++ e.cause.message

/-- A way to get the tree of a filter for a scope. -/
abbrev Frontend : Type := Scope → String → Except CompileError Expr

/-- A tree that fits a scope, or the failure of the filter it was made from. -/
def Scope.checked (s : Scope) (text : String) (e : Expr) : Except CompileError Expr :=
  match s.check e with
  | .ok () => .ok e
  | .error error => .error ⟨text, .check error⟩

/-- The front end that parses filter text and checks the tree. -/
def Frontend.text : Frontend := fun s text ↦
  match parse text with
  | .ok e => s.checked text e
  | .error error => .error ⟨text, .parse error⟩

/-- Why a filter has no SQL. -/
inductive ConvertError where
  | compile (e : CompileError)
  | render (e : RenderError)
deriving DecidableEq

namespace Converter

/-- The SQL of a filter, with a front end to compile it. -/
def convertWith (c : Converter) (frontend : Frontend) (text : String) :
    Except ConvertError String := do
  let e ← (frontend c.scope text).mapError .compile
  (c.generate e).mapError .render

/-- The SQL of a filter text. -/
def convert (c : Converter) (text : String) : Except ConvertError String :=
  c.convertWith .text text

/-- What there is to say about a conversion. -/
def notices (text : String) : Except ConvertError String → List Notice
  | .ok sql => [.converted text sql]
  | .error _ => []

end Converter

end WhereClause
