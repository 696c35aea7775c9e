import FieldSearch.Proofs.Compiler.Stages
import FieldSearch.Proofs.Key.Segments
import FieldSearch.Proofs.Schema.Extension
import FieldSearch.Record.Developer

namespace FieldSearch

/-!
# Compilation and extended schemas

What a schema already had is searched as before once more has been declared. The
first segment of a key is all that is looked up in the schema itself; the shape of
a field is looked up there as well if that segment is the only one, but by the
name of an attribute that the schema had.
-/

namespace Compiler

/--
Extending a schema leaves existing searches alone. Let more be declared in a schema,
step by step, and let none of the names that are added match an attribute that the
schema had. A criterion whose key starts with a segment that matches none of these
names either has the same outcome before and after: equal clauses, or the same error.
-/
theorem compile_extended
    (schema : EntitySchema)
    (steps : List SchemaStep)
    (fresh :
      ∀ step ∈ steps, ∀ member ∈ schema.attributes,
        namesMatch member.name step.name = false)
    (table : StrategyTable)
    (config : Config)
    (criterion : Criterion)
    (elsewhere :
      ∀ step ∈ steps, ∀ segment ∈ criterion.segments.head?,
        namesMatch step.name segment = false) :
    Compiler.compile { root := .entity (schema.extendAll steps), table := table } config
        criterion =
      Compiler.compile { root := .entity schema, table := table } config criterion := by
  have split := Key.enclosing_append_terminal criterion.key
  rw [Criterion.segments, ← split] at elsewhere
  unfold compile resolve
  dsimp only
  split
  · rfl
  · cases enclosing : Key.enclosing criterion.key with
    | nil =>
        have terminalElsewhere :
            ∀ step ∈ steps, namesMatch step.name (Key.terminal criterion.key) = false := by
          intro step member
          exact elsewhere step member _ (by simp [enclosing])
        have required := FieldType.require_extendAll schema terminalElsewhere
        simp only [FieldType.walk, pure, Except.pure, bind, Except.bind, required]
        cases isFound : (FieldType.entity schema).require (Key.terminal criterion.key) with
        | error failure =>
            rfl
        | ok found =>
            have member := FieldType.mem_attributes_of_require isFound
            have unnamed := EntityOf.name_ne_of_mem_attributes fresh member
            dsimp only
            have sameShape := FieldType.fieldShape_extendAll schema unnamed
            exact compileAttribute_congr config criterion rfl rfl sameShape rfl rfl
    | cons first rest =>
        have firstElsewhere : ∀ step ∈ steps, namesMatch step.name first = false := by
          intro step member
          exact elsewhere step member _ (by simp [enclosing])
        rw [FieldType.walk_extendAll schema firstElsewhere]
        rfl

/-- Telephone numbers, and a region whose stored field goes by another spelling. -/
def moreOfAddress : List SchemaStep := [
  .collection "phones" (Record.typeOf .text) .sequence,
  .named ⟨"region", .entity Record.Country.schema, none⟩,
  .stored ⟨"Region", .set⟩]

/-- The lines of an address are a collection as before, and its country has no code still. -/
theorem compile_extended_moreOfAddress :
    Compiler.compile { root := .entity (Record.Address.schema.extendAll moreOfAddress) } {}
        ⟨"LINES", .eq, .single "Main Street"⟩ =
      .ok {
        path := ⟨[], "lines"⟩
        operator := .isIn
        value := .list [.ofText "Main Street"]
        shape := .collection
      } ∧
      Compiler.compile { root := .entity (Record.Address.schema.extendAll moreOfAddress) } {}
          ⟨"Country.code", .eq, .single "fr"⟩ =
        .error (.fieldNotFound "code" "Country") := by
  have fresh :
      ∀ step ∈ moreOfAddress, ∀ member ∈ Record.Address.schema.attributes,
        namesMatch member.name step.name = false := by
    decide
  constructor
  · rw [compile_extended Record.Address.schema moreOfAddress fresh .standard {}
      ⟨"LINES", .eq, .single "Main Street"⟩ (by decide)]
    rfl
  · rw [compile_extended Record.Address.schema moreOfAddress fresh .standard {}
      ⟨"Country.code", .eq, .single "fr"⟩ (by decide)]
    rfl

end Compiler

end FieldSearch
