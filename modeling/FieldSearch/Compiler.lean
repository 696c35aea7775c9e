import FieldSearch.Config
import FieldSearch.Sql.Lowering
import FieldSearch.Strategy.Table

namespace FieldSearch

/-!
# Compiling criteria

A compiler turns criteria on the records of one type into clauses. The key is
resolved first, then a strategy is selected by the declared type of the field,
then the value is read, and only then the operator is checked. Each step may
fail, and the first failure is the answer.
-/

/-- The type of the records to be searched, and the strategies to do it by. -/
structure Compiler where
  root : FieldType
  table : StrategyTable := .standard

namespace Compiler

/-- A compiler for the records of a schema, with the standard strategies. -/
def ofSchema (schema : EntitySchema) : Compiler :=
  { root := .entity schema }

/-- Compile a criterion on an attribute that its key has been resolved to. -/
def compileAttribute
    (compiler : Compiler)
    (config : Config)
    (criterion : Criterion)
    (resolved : ResolvedKey)
    (found : Attribute) :
    Except SearchError Clause := do
  let target := resolved.fieldPath found.name
  let field := target.toText
  let caseSensitive := config.settings.caseSensitiveFor field found.caseSensitive
  let shape := resolved.context.fieldShape found.name
  let selection ←
    compiler.table.select found.declared field caseSensitive config.strategy shape
  let value ← selection.strategy.parse selection.type field criterion.value
  selection.strategy.build target criterion.operator value

/-- Compile a criterion. -/
def compile
    (compiler : Compiler)
    (config : Config)
    (criterion : Criterion) :
    Except SearchError Clause := do
  let resolved ← resolve compiler.root criterion.key
  let found ← resolved.context.require resolved.terminal
  compiler.compileAttribute config criterion resolved found

/-- Compile a criterion to a SQL condition. -/
def compileSql
    (compiler : Compiler)
    (config : Config)
    (criterion : Criterion) :
    Except SearchError Sql.Condition := do
  (← compiler.compile config criterion).toSql

/-- Compile criteria in order, up to the first one that fails. -/
def compileAll
    (compiler : Compiler)
    (config : Config)
    (criteria : List Criterion) :
    Except SearchError (List Clause) :=
  criteria.mapM (compiler.compile config)

end Compiler

end FieldSearch
