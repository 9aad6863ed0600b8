/-!
# Declarations

A function is declared by its overloads, each with an identifier, parameter types and a result
type.  An overload is called either as a function or as a method; a method's receiver is its first
parameter.  Types are recorded for the reader; only their number matters to the check.

`validate` accepts a table of declarations whose overloads are well formed and have identifiers of
their own.
-/

set_option autoImplicit false

namespace WhereClause

/-- The type of a parameter, a result or a variable. -/
inductive Ty where
  /-- Any value. -/
  | dyn
  | null | bool | int | uint | double | string | bytes | timestamp | duration
  | list (element : Ty)
  | map (key value : Ty)
  /-- A type to be filled in by the call. -/
  | param (name : String)
deriving DecidableEq

/-- A type in words. -/
def Ty.text : Ty → String
  | .dyn => "dyn"
  | .null => "null_type"
  | .bool => "bool"
  | .int => "int"
  | .uint => "uint"
  | .double => "double"
  | .string => "string"
  | .bytes => "bytes"
  | .timestamp => "google.protobuf.Timestamp"
  | .duration => "google.protobuf.Duration"
  | .list element => "list(" ++ element.text ++ ")"
  | .map key value => "map(" ++ key.text ++ ", " ++ value.text ++ ")"
  | .param name => name

/-- One signature of a function. -/
structure Overload where
  /-- The identifier, which no other overload shares. -/
  id : String
  /-- The parameter types; for a method the receiver comes first. -/
  params : List Ty
  result : Ty
  /-- Whether it is called as a method. -/
  member : Bool
deriving DecidableEq

namespace Overload

/-- Whether a call with this many arguments fits, with a receiver or without. -/
def accepts (o : Overload) (args : Nat) (member : Bool) : Bool :=
  o.member == member && o.params.length == args + (if member then 1 else 0)

theorem accepts_iff {o : Overload} {args : Nat} {member : Bool} :
    o.accepts args member = true ↔
      o.member = member ∧ o.params.length = args + (if member then 1 else 0) := by
  simp [accepts]

end Overload

/-- A function with all its signatures. -/
structure FunctionDecl where
  name : String
  overloads : List Overload
deriving DecidableEq

/-- Whether some overload fits a call. -/
def FunctionDecl.accepts (f : FunctionDecl) (args : Nat) (member : Bool) : Bool :=
  f.overloads.any fun o ↦ o.accepts args member

/-! ## Well-formed declarations -/

/-- What is wrong with a single overload. -/
inductive OverloadFault where
  | emptyId
  | missingReceiver
deriving DecidableEq

/-- The fault in words. -/
def OverloadFault.message : OverloadFault → String
  | .emptyId => "overload id must not be empty"
  | .missingReceiver => "member overload must declare its receiver"

/-- The first thing wrong with an overload. -/
def Overload.fault? (o : Overload) : Option OverloadFault :=
  if o.id = "" then some .emptyId
  else if o.member && o.params.isEmpty then some .missingReceiver
  else none

/-- Why a declaration is refused. -/
inductive DeclarationError where
  | duplicateOverload (function overload : String)
  | invalidOverload (function overload : String) (fault : OverloadFault)
deriving DecidableEq

/-- The reason in words. -/
def DeclarationError.message : DeclarationError → String
  | .duplicateOverload function overload =>
    "Duplicate overload '" ++ overload ++ "' for function '" ++ function ++ "'"
  | .invalidOverload function overload fault =>
    "Invalid overload '" ++ overload ++ "' for function '" ++ function ++ "': " ++ fault.message

/-- Refuses an overload with a fault. -/
def Overload.validate (function : String) (o : Overload) : Except DeclarationError Unit :=
  match o.fault? with
  | some fault => .error (.invalidOverload function o.id fault)
  | none => .ok ()

/-- Adds the identifiers of overloads to those seen before, and refuses one that was seen. -/
def validateOverloads (function : String) (seen : List String) :
    List Overload → Except DeclarationError (List String)
  | [] => .ok seen
  | o :: os => do
    o.validate function
    if o.id ∈ seen then .error (.duplicateOverload function o.id)
    else validateOverloads function (o.id :: seen) os

/-- Checks declarations one after the other, given the identifiers seen before. -/
def validateFrom (seen : List String) : List FunctionDecl → Except DeclarationError Unit
  | [] => .ok ()
  | f :: fs => do validateFrom (← validateOverloads f.name seen f.overloads) fs

/-- Whether a table of declarations is in order: every overload well formed, no identifier used
twice.  The error is about the first overload that is not. -/
def validate (table : List FunctionDecl) : Except DeclarationError Unit :=
  validateFrom [] table

/-! ## Shorthands -/

/-- A call that stands for a longer expression and is expanded before a filter is checked. -/
structure Shorthand where
  name : String
  /-- Whether it is written as a method. -/
  member : Bool
deriving DecidableEq

/-- The shorthands every environment knows. -/
def Shorthand.standard : List Shorthand :=
  [⟨"has", false⟩, ⟨"all", true⟩, ⟨"exists", true⟩, ⟨"exists_one", true⟩, ⟨"map", true⟩,
    ⟨"filter", true⟩]

end WhereClause
