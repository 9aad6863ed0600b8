import WhereClause.Builtin
import WhereClause.Signature

/-!
# The standard functions

The functions a filter can be allowed to call, with their overloads.  Identifiers say which types
an overload is for.
-/

set_option autoImplicit false

namespace WhereClause.Standard

/-- An overload called as a function. -/
def function (id : String) (params : List Ty) (result : Ty) : Overload :=
  ⟨id, params, result, false⟩

/-- An overload called as a method. -/
def method (id : String) (params : List Ty) (result : Ty) : Overload :=
  ⟨id, params, result, true⟩

/-- The types with an order, and what they are called in identifiers. -/
def ordered : List (String × Ty) :=
  [("bool", .bool), ("int64", .int), ("uint64", .uint), ("double", .double), ("string", .string),
    ("bytes", .bytes), ("timestamp", .timestamp), ("duration", .duration)]

/-- The types of numbers, and what they are called in identifiers. -/
def numbers : List (String × Ty) :=
  [("int64", .int), ("uint64", .uint), ("double", .double)]

/-- A comparison of two values of one type. -/
def comparison (stem : String) : List Overload :=
  ordered.map fun (label, ty) ↦ function (stem ++ "_" ++ label) [ty, ty] .bool

/-- An operation on two values of one type, with a result of that type. -/
def operation (stem : String) (types : List (String × Ty)) : List Overload :=
  types.map fun (label, ty) ↦ function (stem ++ "_" ++ label) [ty, ty] ty

/-- The conversions into a type. -/
def conversion (label : String) (result : Ty) (sources : List (String × Ty)) : List Overload :=
  sources.map fun (source, ty) ↦ function (source ++ "_to_" ++ label) [ty] result

/-- The type parameter of lists. -/
def a : Ty := .param "A"

/-- The type parameter of map keys. -/
def k : Ty := .param "K"

/-- The type parameter of map values. -/
def v : Ty := .param "V"

/-- Logic, equality and order. -/
def logic : List FunctionDecl := [
  ⟨BinaryOp.and.name, [function "logical_and" [.bool, .bool] .bool]⟩,
  ⟨BinaryOp.or.name, [function "logical_or" [.bool, .bool] .bool]⟩,
  ⟨UnaryOp.not.name, [function "logical_not" [.bool] .bool]⟩,
  ⟨"_?_:_", [function "conditional" [.bool, a, a] a]⟩,
  ⟨BinaryOp.equal.name, [function "equals" [a, a] .bool]⟩,
  ⟨BinaryOp.notEqual.name, [function "not_equals" [a, a] .bool]⟩,
  ⟨BinaryOp.lessThan.name, comparison "less"⟩,
  ⟨BinaryOp.lessOrEqual.name, comparison "less_equals"⟩,
  ⟨BinaryOp.greaterThan.name, comparison "greater"⟩,
  ⟨BinaryOp.greaterOrEqual.name, comparison "greater_equals"⟩]

/-- Arithmetic. -/
def arithmetic : List FunctionDecl := [
  ⟨BinaryOp.add.name, operation "add" numbers ++ [
    function "add_string" [.string, .string] .string,
    function "add_bytes" [.bytes, .bytes] .bytes,
    function "add_list" [.list a, .list a] (.list a),
    function "add_timestamp_duration" [.timestamp, .duration] .timestamp,
    function "add_duration_timestamp" [.duration, .timestamp] .timestamp,
    function "add_duration_duration" [.duration, .duration] .duration]⟩,
  ⟨BinaryOp.subtract.name, operation "subtract" numbers ++ [
    function "subtract_timestamp_timestamp" [.timestamp, .timestamp] .duration,
    function "subtract_timestamp_duration" [.timestamp, .duration] .timestamp,
    function "subtract_duration_duration" [.duration, .duration] .duration]⟩,
  ⟨BinaryOp.multiply.name, operation "multiply" numbers⟩,
  ⟨BinaryOp.divide.name, operation "divide" numbers⟩,
  ⟨BinaryOp.modulo.name, operation "modulo" (numbers.take 2)⟩,
  ⟨UnaryOp.negate.name, [
    function "negate_int64" [.int] .int,
    function "negate_double" [.double] .double]⟩]

/-- Lists, maps and strings. -/
def collections : List FunctionDecl := [
  ⟨"_[_]", [
    function "index_list" [.list a, .int] a,
    function "index_map" [.map k v, k] v]⟩,
  ⟨"@in", [
    function "in_list" [a, .list a] .bool,
    function "in_map" [k, .map k v] .bool]⟩,
  ⟨"size", [
    function "size_string" [.string] .int,
    function "size_bytes" [.bytes] .int,
    function "size_list" [.list a] .int,
    function "size_map" [.map k v] .int,
    method "string_size" [.string] .int,
    method "bytes_size" [.bytes] .int,
    method "list_size" [.list a] .int,
    method "map_size" [.map k v] .int]⟩,
  ⟨"contains", [method "contains_string" [.string, .string] .bool]⟩,
  ⟨Builtin.startsWith.name, [method "starts_with_string" [.string, .string] .bool]⟩,
  ⟨Builtin.endsWith.name, [method "ends_with_string" [.string, .string] .bool]⟩,
  ⟨"matches", [
    function "matches" [.string, .string] .bool,
    method "matches_string" [.string, .string] .bool]⟩]

/-- Conversions between types. -/
def conversions : List FunctionDecl := [
  ⟨Builtin.timestamp.name, [
    function "string_to_timestamp" [.string] .timestamp,
    function "int64_to_timestamp" [.int] .timestamp,
    function "timestamp_to_timestamp" [.timestamp] .timestamp]⟩,
  ⟨"duration", [
    function "string_to_duration" [.string] .duration,
    function "duration_to_duration" [.duration] .duration]⟩,
  ⟨"int", conversion "int64" .int
    [("uint64", .uint), ("double", .double), ("string", .string), ("timestamp", .timestamp)]⟩,
  ⟨"uint", conversion "uint64" .uint [("int64", .int), ("double", .double), ("string", .string)]⟩,
  ⟨"double", conversion "double" .double
    [("int64", .int), ("uint64", .uint), ("string", .string)]⟩,
  ⟨"string", conversion "string" .string
    [("int64", .int), ("uint64", .uint), ("double", .double), ("bytes", .bytes),
      ("timestamp", .timestamp), ("duration", .duration)]⟩,
  ⟨"bool", conversion "bool" .bool [("string", .string)]⟩]

/-- All standard functions. -/
def table : List FunctionDecl :=
  logic ++ arithmetic ++ collections ++ conversions

/-- The table is in order. -/
theorem validate_table : validate table = .ok () := by
  rfl

/-- The standard functions, after a look at whether they are in order. -/
def load : Except DeclarationError (List FunctionDecl) := do
  validate table
  return table

theorem load_eq : load = .ok table := by
  rw [load, validate_table]
  rfl

end WhereClause.Standard
