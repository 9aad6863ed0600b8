/-!
# Notices

What the library has to say besides its results.  A notice never changes a result; it is handed
back next to it, for the caller to log.
-/

set_option autoImplicit false

namespace WhereClause

/-- How urgent a notice is. -/
inductive Level where
  | warn | debug
deriving DecidableEq

/-- The level as it stands in a log. -/
def Level.text : Level → String
  | .warn => "WARN"
  | .debug => "DEBUG"

/-- Something worth logging. -/
inductive Notice where
  /-- A function was to be disabled that was not enabled. -/
  | nothingToDisable (name : String)
  /-- A scope was built, with this many functions and variables. -/
  | scopeBuilt (subject : String) (functionCount variableCount : Nat)
  /-- A filter became SQL. -/
  | converted (filter sql : String)
deriving DecidableEq

namespace Notice

/-- The level of a notice. -/
def level : Notice → Level
  | .nothingToDisable _ => .warn
  | .scopeBuilt _ _ _ => .debug
  | .converted _ _ => .debug

/-- A notice in words. -/
def message : Notice → String
  | .nothingToDisable name => "Function '" ++ name ++ "' is not enabled, nothing to disable"
  | .scopeBuilt subject functionCount variableCount =>
    "Built filter environment: subject '" ++ subject ++ "', " ++ toString functionCount ++
      " function(s), " ++ toString variableCount ++ " variable(s)"
  | .converted filter sql => "Converted filter `" ++ filter ++ "` to `" ++ sql ++ "`"

/-- A notice as a line of a log. -/
def line (n : Notice) : String :=
  n.level.text ++ ": " ++ n.message

end Notice

end WhereClause
