import FieldSearch.Compiler
import FieldSearch.Config.Json
import FieldSearch.Config.Yaml

namespace FieldSearch

/-!
# Sessions

A session keeps what searches depend on from one request to the next: the
schema, the configuration and the strategies. It also remembers the last clause
that was compiled, to compare it with the next one and to try it on values.
-/

/-- What a session keeps between requests. -/
structure Session where
  schema : EntitySchema
  config : Config := {}
  table : StrategyTable := .standard
  lastClause : Option Clause := none

namespace Session

/-- The compiler for the session's schema and strategies. -/
def compiler (session : Session) : Compiler :=
  { root := .entity session.schema, table := session.table }

/-- Change the configuration. -/
def configure (session : Session) (change : Config → Config) : Session :=
  { session with config := change session.config }

/-- Use a strategy for a kind of value. -/
def register (session : Session) (kind : ValueKind) (strategy : Strategy) : Session :=
  { session with table := session.table.register kind strategy }

/-- A clause equals the last one, if there is one. -/
def sameAsLast (session : Session) (clause : Clause) : Bool :=
  session.lastClause.any (·.same clause)

/-- Remember a clause as the last one. -/
def remember (session : Session) (clause : Clause) : Session :=
  { session with lastClause := some clause }

/-- Whether the last clause accepts a value; none if there is no last clause. -/
def tryLast (session : Session) (value : FieldValue) : Option Bool :=
  session.lastClause.map (·.accepts value)

end Session

end FieldSearch
