import FieldSearch.Proofs.Compiler.Stages
import FieldSearch.Proofs.Schema.Reordering
import FieldSearch.Record.Developer

namespace FieldSearch

open Outcomes

/-!
# Compilation and the order of declarations

A criterion is compiled by looking names up, and by the type, the setting and the
shape of the attribute that is found. None of these depends on the order in which
attributes and stored fields are declared, as long as their names are distinct.
The order is then irrelevant to the whole compilation, errors included.
-/

/-- A strategy is selected by a type, or refused for its name, whatever the order in it. -/
theorem StrategyTable.select_reordered
    (table : StrategyTable)
    {left right : FieldType}
    (reordered : left.Reordered right) :
    table.select left = table.select right := by
  have sameName := reordered.name_eq
  funext field caseSensitive custom shape
  cases reordered with
  | value | «foreign» =>
      rfl
  | entity =>
      simp only [select, sameName]

namespace Compiler

/-- At alike attributes of reordered types, a criterion is compiled alike. -/
theorem compileAttribute_reordered
    {compiler other : Compiler}
    (sameTable : compiler.table = other.table)
    (config : Config)
    (criterion : Criterion)
    {resolved otherResolved : ResolvedKey}
    (segments : resolved.segments = otherResolved.segments)
    (contexts : resolved.context.Reordered otherResolved.context)
    (unambiguous : resolved.context.Unambiguous)
    {found otherFound : Attribute}
    (alike : AttributeOf.Alike FieldType.Reordered found otherFound) :
    compiler.compileAttribute config criterion resolved found =
      other.compileAttribute config criterion otherResolved otherFound := by
  have shape :
      resolved.context.fieldShape found.name =
        otherResolved.context.fieldShape otherFound.name := by
    rw [contexts.fieldShape_eq unambiguous, alike.name_eq]
  have selected :
      compiler.table.select found.declared = other.table.select otherFound.declared := by
    rw [sameTable, other.table.select_reordered alike.declared_related]
  exact compileAttribute_congr config criterion segments alike.name_eq shape
    alike.caseSensitive_eq selected

/--
The order of declarations is irrelevant. Let two schemas differ only in the order
in which they list attributes and stored fields, at every depth of nesting, and let
no record type have attributes with matching names or stored fields of one name.
Every criterion then has the same outcome under both: equal clauses, or the same
error, for all strategies and configurations.
-/
theorem compile_reordered
    (left right : EntitySchema)
    (reordered : (FieldType.entity left).Reordered (.entity right))
    (unambiguous : (FieldType.entity left).Unambiguous)
    (table : StrategyTable)
    (config : Config)
    (criterion : Criterion) :
    Compiler.compile { root := .entity left, table := table } config criterion =
      Compiler.compile { root := .entity right, table := table } config criterion := by
  refine Agree.eq ?_
  unfold compile
  refine (reordered.agree_resolve unambiguous criterion.key).bind ?_
  rintro resolved otherResolved ⟨segments, terminal, contexts, contextUnambiguous⟩
  rw [← terminal]
  refine (contexts.agree_require contextUnambiguous resolved.terminal).bind ?_
  rintro found otherFound ⟨alike, -⟩
  exact .of_eq (compileAttribute_reordered rfl config criterion segments contexts
    contextUnambiguous alike)

/-- Countries, declared from the last field to the first. -/
def reversedCountry : EntitySchema where
  name := "Country"
  attributes := Record.Country.schema.attributes.reverse
  rawFields := Record.Country.schema.rawFields.reverse

/-- Addresses and their countries, declared from the last field to the first. -/
def reversedAddress : EntitySchema where
  name := "Address"
  attributes := [
    ⟨"lines", Record.typeOf .text, none⟩,
    ⟨"country", .entity reversedCountry, none⟩,
    ⟨"zip", Record.typeOf .integer, none⟩,
    ⟨"city", Record.typeOf .text, some false⟩]
  rawFields := Record.Address.schema.rawFields.reverse

theorem reordered_reversedAddress :
    (FieldType.entity Record.Address.schema).Reordered (.entity reversedAddress) := by
  have code : AttributeOf.Alike FieldType.Reordered
      ⟨"isoCode", Record.typeOf .text, none⟩ ⟨"isoCode", Record.typeOf .text, none⟩ :=
    .mk (.value _)
  have population : AttributeOf.Alike FieldType.Reordered
      ⟨"population", Record.typeOf .integer, none⟩
      ⟨"population", Record.typeOf .integer, none⟩ :=
    .mk (.value _)
  have country :
      (FieldType.entity Record.Country.schema).Reordered (.entity reversedCountry) :=
    .entity (.mk (.cons code (.cons population .nil)) (List.reverse_perm _).symm
      (List.reverse_perm _).symm)
  have itemwise :
      List.Forall₂ (AttributeOf.Alike FieldType.Reordered) Record.Address.schema.attributes
        reversedAddress.attributes.reverse :=
    .cons (.mk (.value _)) (.cons (.mk (.value _)) (.cons (.mk country)
      (.cons (.mk (.value _)) .nil)))
  exact .entity (.mk itemwise (List.reverse_perm _) (List.reverse_perm _).symm)

theorem unambiguous_address : (FieldType.entity Record.Address.schema).Unambiguous := by
  have country : (FieldType.entity Record.Country.schema).Unambiguous := by
    refine .entity (by decide) (by decide) ?_
    intro member isMember
    fin_cases isMember <;> exact .value _
  refine .entity (by decide) (by decide) ?_
  intro member isMember
  fin_cases isMember
  · exact .value _
  · exact .value _
  · exact country
  · exact .value _

/-- The population of a country is found in an address, wherever the two are declared. -/
theorem compile_reordered_reversedAddress :
    Compiler.compile { root := .entity reversedAddress } {}
        ⟨"COUNTRY.Population", .gte, .single "7"⟩ =
      .ok {
        path := ⟨["country"], "population"⟩
        operator := .gte
        value := .scalar (.integer 7)
      } := by
  rw [← compile_reordered Record.Address.schema reversedAddress reordered_reversedAddress
    unambiguous_address]
  rfl

end Compiler

end FieldSearch
