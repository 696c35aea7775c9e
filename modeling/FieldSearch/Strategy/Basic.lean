import FieldSearch.Clause
import FieldSearch.Criterion

namespace FieldSearch

/-!
# Strategies

A strategy says how the values of a criterion are read and which clauses they
make. Strategies are open: anyone may supply one, so a strategy is a record of
its functions. `Strategy.elementwise` completes a strategy that reads single
tokens only.
-/

/-- The way in which criteria on one kind of field become clauses. -/
structure Strategy where
  name : String
  /-- Read a single token as a value of a type. -/
  read : ValueType → String → Except ConversionError Operand
  /-- Read a list of tokens as a value of a type. -/
  readAll : ValueType → List String → Except ConversionError Operand
  /-- The clause that an operator and a value make on a field. -/
  build : FieldPath → Operator → Operand → Except SearchError Clause

namespace Strategy

/-- Read each token of a list; the first one that cannot be read decides the error. -/
def readEach
    (read : String → Except ConversionError Operand) :
    List String →
    Except ConversionError (List Operand)
  | [] => .ok []
  | token :: rest => do
      let item ← read token
      let items ← readEach read rest
      return item :: items

/-- A strategy that reads the tokens of a list one by one. -/
def elementwise
    (name : String)
    (read : ValueType → String → Except ConversionError Operand)
    (build : FieldPath → Operator → Operand → Except SearchError Clause) :
    Strategy where
  name := name
  read := read
  readAll := fun type tokens => (readEach (read type) tokens).map .list
  build := build

/-- Read a raw value, single or list. -/
def readRaw
    (strategy : Strategy)
    (type : ValueType) :
    RawValue →
    Except ConversionError Operand
  | .single token => strategy.read type token
  | .list tokens => strategy.readAll type tokens

/-- Read a raw value for a field, which an error then names. -/
def parse
    (strategy : Strategy)
    (type : ValueType)
    (field : String)
    (raw : RawValue) :
    Except SearchError Operand :=
  (strategy.readRaw type raw).mapError (.badInput field type.name)

end Strategy

end FieldSearch
