import FieldSearch.Strategy.Collection
import FieldSearch.Strategy.Scalar

namespace FieldSearch

/-!
# Strategy tables

A table holds a strategy for each kind of value, and two for text: one where
letter case counts and one where it does not.
-/

/-- The strategies by kind of value. -/
structure StrategyTable where
  text : Strategy
  textAnyCase : Strategy
  integer : Strategy
  decimal : Strategy
  boolean : Strategy
  temporal : Strategy
  enumeration : Strategy

/-- A strategy chosen for a field, and the type that it reads values of. -/
structure Selection where
  strategy : Strategy
  type : ValueType

namespace StrategyTable

/-- The table of the strategies that come with this library. -/
def standard : StrategyTable where
  text := .text true
  textAnyCase := .text false
  integer := .integer
  decimal := .decimal
  boolean := .boolean
  temporal := .temporal
  enumeration := .enumeration

/-- Use a strategy for a kind of value; for text, in either case. -/
def register
    (table : StrategyTable)
    (kind : ValueKind)
    (strategy : Strategy) :
    StrategyTable :=
  match kind with
  | .text => { table with text := strategy, textAnyCase := strategy }
  | .integer => { table with integer := strategy }
  | .decimal => { table with decimal := strategy }
  | .boolean => { table with boolean := strategy }
  | .temporal => { table with temporal := strategy }
  | .enumeration => { table with enumeration := strategy }

/-- The strategy for single values of a kind. -/
def scalar (table : StrategyTable) (kind : ValueKind) (caseSensitive : Bool) : Strategy :=
  match kind with
  | .text => if caseSensitive then table.text else table.textAnyCase
  | .integer => table.integer
  | .decimal => table.decimal
  | .boolean => table.boolean
  | .temporal => table.temporal
  | .enumeration => table.enumeration

/-- The names of all strategies: text in any case first, then by kind. -/
def names (table : StrategyTable) : List String :=
  (table.scalar .text false).name :: ValueKind.all.map fun kind => (table.scalar kind true).name

/-- A strategy fitted to the shape of a field. -/
def fit (strategy : Strategy) : FieldShape → Strategy
  | .scalar => strategy
  | .collection => strategy.collection

/--
Choose the strategy for a field: a custom one before the table's own. Only
types of values have one.
-/
def select
    (table : StrategyTable)
    (declared : FieldType)
    (field : String)
    (caseSensitive : Bool)
    (custom : Option Strategy)
    (shape : FieldShape) :
    Except SearchError Selection :=
  match declared with
  | .value type =>
      let chosen := custom.getD (table.scalar type.kind caseSensitive)
      .ok { strategy := fit chosen shape, type := type }
  | _ => .error (.unsupportedType field declared.name)

end StrategyTable

end FieldSearch
