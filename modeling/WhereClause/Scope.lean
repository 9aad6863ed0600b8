import WhereClause.Notice
import WhereClause.Signature.Standard

/-!
# Scopes

A `Scope` holds the names a filter may use: its variables and its functions.  It is built from a
`Scope.Plan`, which says how the subject of the filter is called, which standard functions are
allowed, and what is declared besides.

The standard functions come first.  Each further declaration then adds its overloads to the
function of its name, or to a new one.  An overload that is there already is passed over; one that
has the identifier of another is an error, and so is an allowed name that nothing declares and a
variable declared twice.  To tell whether an identifier is taken, a `Scope.Registry` keeps a map of
the identifiers beside the functions.
-/

set_option autoImplicit false

namespace WhereClause

/-- The names a filter may use. -/
structure Scope where
  /-- The variable that stands for the row a filter looks at. -/
  subject : String
  /-- The variables with their types, the subject among them. -/
  bindings : List (String × Ty)
  /-- The functions, each once. -/
  functions : List FunctionDecl
deriving DecidableEq

/-- Why there is no scope. -/
inductive ScopeError where
  | declaration (e : DeclarationError)
  | unknownFunction (name : String)
  | duplicateVariable (name : String)
deriving DecidableEq

/-- The reason in words. -/
def ScopeError.message : ScopeError → String
  | .declaration e => e.message
  | .unknownFunction name => "Unknown function: " ++ name
  | .duplicateVariable name => "Duplicate variable: " ++ name

namespace Scope

/-- The type of a variable. -/
def typeOf? (s : Scope) (name : String) : Option Ty :=
  s.bindings.lookup name

/-- The declaration of a function among others. -/
def declared? (fs : List FunctionDecl) (name : String) : Option FunctionDecl :=
  fs.find? fun f ↦ f.name == name

/-- The declaration of a function. -/
def function? (s : Scope) (name : String) : Option FunctionDecl :=
  declared? s.functions name

/-- Whether a function is known. -/
def hasFunction (s : Scope) (name : String) : Bool :=
  (s.function? name).isSome

/-- The variables in alphabetical order. -/
def variablesByName (s : Scope) : List (String × Ty) :=
  s.bindings.mergeSort fun x y ↦ decide (x.1 ≤ y.1)

/-- The functions in alphabetical order. -/
def functionsByName (s : Scope) : List FunctionDecl :=
  s.functions.mergeSort fun f g ↦ decide (f.name ≤ g.name)

/-- The shorthands a scope knows. -/
def shorthands (_ : Scope) : List Shorthand :=
  Shorthand.standard

/-! ## Adding declarations -/

/-- Whether a function of this name is among the declarations. -/
def declares (fs : List FunctionDecl) (name : String) : Bool :=
  fs.any fun f ↦ f.name == name

/-- The declarations with a function of this name among them. -/
def ensure (fs : List FunctionDecl) (name : String) : List FunctionDecl :=
  if declares fs name then fs else fs ++ [⟨name, []⟩]

/-- Whether a function has exactly this overload already. -/
def hasOverload (fs : List FunctionDecl) (name : String) (o : Overload) : Bool :=
  fs.any fun f ↦ f.name == name && f.overloads.contains o

/-- The declarations with one more overload of a function. -/
def appendOverload (fs : List FunctionDecl) (name : String) (o : Overload) : List FunctionDecl :=
  fs.map fun f ↦ if f.name == name then { f with overloads := f.overloads ++ [o] } else f

/-- The functions declared so far, with a map of the identifiers that are taken. -/
structure Registry where
  functions : List FunctionDecl
  /-- For the identifier of an overload, the name of its function. -/
  owners : List (String × String)

namespace Registry

/-- The functions of a table, with their identifiers. -/
def ofTable (fs : List FunctionDecl) : Registry where
  functions := fs
  owners := fs.flatMap fun f ↦ f.overloads.map fun o ↦ (o.id, f.name)

/-- Adds an overload of a function. -/
def addOverload (name : String) (r : Registry) (o : Overload) :
    Except DeclarationError Registry := do
  o.validate name
  match r.owners.lookup o.id with
  | some owner =>
    if owner == name && hasOverload r.functions name o then return r
    else throw (.duplicateOverload name o.id)
  | none => return ⟨appendOverload r.functions name o, (o.id, name) :: r.owners⟩

/-- Adds a declaration. -/
def declare (r : Registry) (f : FunctionDecl) : Except DeclarationError Registry :=
  f.overloads.foldlM (addOverload f.name) { r with functions := ensure r.functions f.name }

end Registry

/-- Adds a variable. -/
def declareVariable (vs : List (String × Ty)) (v : String × Ty) :
    Except ScopeError (List (String × Ty)) :=
  if (vs.lookup v.1).isSome then .error (.duplicateVariable v.1) else .ok (vs ++ [v])

/-! ## Plans -/

/-- What a scope is built from. -/
structure Plan where
  subject : String
  /-- The standard functions that are visible, and the names that must be declared. -/
  allowed : NameSet
  /-- Declarations in addition to the standard ones; they are visible without being allowed. -/
  functions : List FunctionDecl
  /-- Variables in addition to the subject. -/
  bindings : List (String × Ty)
deriving DecidableEq

namespace Plan

/-- The subject is `i`, all functions with a form in SQL are allowed, and nothing is added. -/
def default : Plan where
  subject := "i"
  allowed := Builtin.names
  functions := []
  bindings := []

/-- Whether a plan is the default one. -/
def isStandard (p : Plan) : Bool :=
  decide (p = default)

/-- A change of a plan. -/
inductive Step where
  | subject (name : String)
  | enable (name : String)
  | disable (name : String)
  /-- Replaces all allowed names. -/
  | allow (names : List String)
  | function (f : FunctionDecl)
  | variable (name : String) (ty : Ty)

/-- The plan after a change. -/
def apply (p : Plan) : Step → Plan
  | .subject name => { p with subject := name }
  | .enable name => { p with allowed := p.allowed.insert name }
  | .disable name => { p with allowed := p.allowed.erase name }
  | .allow names => { p with allowed := NameSet.ofList names }
  | .function f => { p with functions := p.functions ++ [f] }
  | .variable name ty => { p with bindings := p.bindings ++ [(name, ty)] }

/-- What there is to say about a change. -/
def notices (p : Plan) : Step → List Notice
  | .disable name => if p.allowed.contains name then [] else [.nothingToDisable name]
  | _ => []

/-- The plan after several changes, and what there is to say about them. -/
def run (p : Plan) : List Step → Plan × List Notice
  | [] => (p, [])
  | step :: steps =>
    let (q, ns) := (p.apply step).run steps
    (q, p.notices step ++ ns)

/-- The functions of a table that are allowed. -/
def visible (p : Plan) (table : List FunctionDecl := Standard.table) : List FunctionDecl :=
  table.filter fun f ↦ p.allowed.contains f.name

/-- The scope with these functions.  All that is allowed has to be among them. -/
def complete (p : Plan) (functions : List FunctionDecl) : Except ScopeError Scope :=
  match p.allowed.names.find? fun name ↦ !declares functions name with
  | some name => throw (.unknownFunction name)
  | none => return ⟨p.subject, ← p.bindings.foldlM declareVariable [(p.subject, .dyn)], functions⟩

/-- The scope of a plan. -/
def build (p : Plan) : Except ScopeError Scope := do
  let table ← Standard.load.mapError .declaration
  let start := Registry.ofTable (p.visible table)
  let registry ← (p.functions.foldlM Registry.declare start).mapError .declaration
  p.complete registry.functions

end Plan

/-- The notice that a scope was built. -/
def builtNotice (s : Scope) : Notice :=
  .scopeBuilt s.subject s.functions.length s.bindings.length

/-- The scope of the default plan. -/
def standard : Except ScopeError Scope :=
  Plan.default.build

end Scope

end WhereClause
