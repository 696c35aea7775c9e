import FieldSearch.Strategy.Basic

namespace FieldSearch.Strategy

/-!
# Strategies for collections

A collection is searched by its elements: equality tests become membership
tests, and no other operator is defined. The element strategy reads the values
and checks the operator.
-/

/-- The strategy of a collection whose elements have the given strategy. -/
def collection (element : Strategy) : Strategy where
  name := "collection"
  read := fun type token => (element.read type token).map Operand.intoList
  readAll := element.readAll
  build := fun target operator value =>
    match operator.asMembership? with
    | some membership =>
        (element.build target membership value.intoList).map
          fun clause => { clause with shape := .collection }
    | none => .error (.invalidOperator operator "Collection")

end FieldSearch.Strategy
