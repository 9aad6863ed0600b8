import WhereClause.Builtin
import WhereClause.Calendar.Format
import WhereClause.Calendar.Zone

/-!
# Settings

What the SQL text of a tree depends on besides the tree: the name of the subject, the columns that
fields are stored in, how timestamps are written, and which functions are enabled.
-/

set_option autoImplicit false

namespace WhereClause

/-- The settings of a rendering. -/
structure Settings where
  /-- The identifier all fields are selected from. -/
  subject : String
  /-- Columns by the path of a field, the latest first. -/
  columns : List (String × String)
  /-- The zone timestamps are written in. -/
  zone : Calendar.Zone
  /-- The format timestamps are written in. -/
  timeFormat : String
  /-- The functions that may be rendered. -/
  functions : NameSet
deriving DecidableEq

namespace Settings

/-- The subject is `i`, fields are columns of the same name, timestamps are in UTC with as much of
the milliseconds as there is, and every function with a form in SQL is enabled. -/
def default : Settings where
  subject := "i"
  columns := []
  zone := .utc
  timeFormat := "%Y-%m-%d %H:%M:%S%.f"
  functions := Builtin.names

/-- Whether settings are the default ones. -/
def isDefault (s : Settings) : Bool :=
  decide (s = default)

/-- The column a field path is mapped to. -/
def mapped? (s : Settings) (path : String) : Option String :=
  s.columns.lookup path

/-- The column of a field path: the one it is mapped to, else the path itself. -/
def column (s : Settings) (path : String) : String :=
  (s.mapped? path).getD path

/-- Whether a function is enabled. -/
def isEnabled (s : Settings) (function : String) : Bool :=
  s.functions.contains function

end Settings

end WhereClause
