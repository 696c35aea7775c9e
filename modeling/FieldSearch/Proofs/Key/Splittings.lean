import FieldSearch.Criterion
import FieldSearch.Proofs.Key.Segments
import FieldSearch.Proofs.Path.Route
import FieldSearch.Record.Developer

namespace FieldSearch

open Outcomes

/-!
# Ways to split a key

A key is split at every dot for its segments, at its last dot for its terminal one,
and once more when it is resolved. All of these give the parts that the key consists
of, of which there is only one list (`Key.ConsistsOf`).
-/

namespace Key

/-- A key consists of parts if dots separate them and are in none of them. -/
structure ConsistsOf (key : String) (parts : List String) : Prop where
  nonempty : parts ≠ []
  joined : join parts = key
  noDots : ∀ part ∈ parts, '.' ∉ part.toList

theorem consistsOf_segments (key : String) : ConsistsOf key (segments key) where
  nonempty := segments_ne_nil key
  joined := join_segments key
  noDots := fun _ member => dot_not_mem_segment member

/-- The segments are the only parts that a key consists of. -/
theorem ConsistsOf.eq_segments
    {key : String}
    {parts : List String}
    (consists : ConsistsOf key parts) :
    parts = segments key := by
  rw [← consists.joined]
  exact (segments_join consists.nonempty consists.noDots).symm

/-- What holds of the segments holds of the parts that a key consists of. -/
theorem exists_consistsOf_iff
    {key : String}
    {property : List String → Prop} :
    (∃ parts, ConsistsOf key parts ∧ property parts) ↔ property (segments key) := by
  constructor
  · rintro ⟨parts, consists, holds⟩
    rw [← consists.eq_segments]
    exact holds
  · intro holds
    exact ⟨segments key, consistsOf_segments key, holds⟩

/-- A dotted text of several parts ends in a dot and the last part. -/
theorem join_append_singleton
    {parts : List String}
    (nonempty : parts ≠ [])
    (last : String) :
    join (parts ++ [last]) = join parts ++ "." ++ last := by
  induction parts with
  | nil =>
      exact absurd rfl nonempty
  | cons part rest inductionHypothesis =>
      by_cases alone : rest = []
      · subst alone
        rw [List.singleton_append, join_cons part (List.cons_ne_nil last []),
          join_singleton, join_singleton]
      · rw [List.cons_append, join_cons part (by simp), inductionHypothesis alone,
          join_cons part alone]
        simp only [String.append_assoc]

end Key

/-! Splitting from the end. -/

theorem forall_reverse_ne_of_not_mem
    {separator : Char}
    {characters : List Char}
    (absent : separator ∉ characters) :
    ∀ character ∈ characters.reverse, (character != separator) = true := by
  intro character member
  rw [bne_iff_ne]
  rintro rfl
  exact absent (List.mem_reverse.mp member)

theorem splitLast?_of_not_mem
    {separator : Char}
    {characters : List Char}
    (absent : separator ∉ characters) :
    splitLast? separator characters = none := by
  have passed := forall_reverse_ne_of_not_mem absent
  unfold splitLast?
  rw [List.span_eq_takeWhile_dropWhile, List.dropWhile_eq_nil_iff.mpr passed]

/-- What follows the last separator is what has none. -/
theorem splitLast?_append
    {separator : Char}
    {last : List Char}
    (absent : separator ∉ last)
    (front : List Char) :
    splitLast? separator (front ++ separator :: last) = some (front, last) := by
  have passed := forall_reverse_ne_of_not_mem absent
  have backwards :
      (front ++ separator :: last).reverse = last.reverse ++ separator :: front.reverse := by
    simp
  unfold splitLast?
  rw [List.span_eq_takeWhile_dropWhile, backwards, List.takeWhile_append_of_pos passed,
    List.dropWhile_append_of_pos passed]
  simp

namespace Criterion

variable
  {key : String}
  {operator : Operator}
  {value : RawValue}

theorem make_eq_ok_iff :
    make key operator value = .ok ⟨key, operator, value⟩ ↔ Key.wellFormed key = true := by
  unfold make
  split <;> simp_all

theorem make_eq_error_iff :
    make key operator value = .error (.invalidKey key) ↔ Key.wellFormed key = false := by
  unfold make
  split <;> simp_all

/-- An accepted criterion is made of what it was to be made of. -/
theorem eq_of_make
    {criterion : Criterion}
    (accepted : make key operator value = .ok criterion) :
    criterion = ⟨key, operator, value⟩ := by
  unfold make at accepted
  split at accepted
  · cases accepted
    rfl
  · cases accepted

/-- The last segment is found from the end as it is from the start. -/
theorem terminal_eq (criterion : Criterion) :
    criterion.terminal = Key.terminal criterion.key := by
  have isSegment : Key.terminal criterion.key ∈ Key.segments criterion.key := by
    rw [← Key.enclosing_append_terminal]
    simp
  have noDot := Key.dot_not_mem_segment isSegment
  unfold terminal
  by_cases noEnclosing : Key.enclosing criterion.key = []
  · have absent := Key.dot_not_mem_of_enclosing_eq_nil noEnclosing
    have alone := Key.enclosing_append_terminal criterion.key
    rw [noEnclosing, Key.segments_of_dot_not_mem absent] at alone
    rw [splitLast?_of_not_mem absent]
    exact (List.singleton_inj.mp alone).symm
  · have split : criterion.key.toList =
        (Key.join (Key.enclosing criterion.key)).toList ++
          '.' :: (Key.terminal criterion.key).toList := by
      conv => lhs; rw [← Key.join_segments criterion.key, ← Key.enclosing_append_terminal,
        Key.join_append_singleton noEnclosing]
      simp
    rw [split, splitLast?_append noDot]
    exact String.ofList_toList

end Criterion

/-! Splitting while resolving. -/

/-- A key is resolved by walking along the segments before the last one. -/
theorem exists_walk_of_resolve
    {root : FieldType}
    {key : String}
    {resolved : ResolvedKey}
    (resolves : resolve root key = .ok resolved) :
    root.walk (Key.enclosing key) = .ok (resolved.segments, resolved.context) ∧
      resolved.terminal = Key.terminal key := by
  unfold resolve at resolves
  by_cases isEmpty : (Key.terminal key).isEmpty = true
  · rw [if_pos isEmpty] at resolves
    cases resolves
  · rw [if_neg isEmpty] at resolves
    obtain ⟨⟨names, context⟩, walked, same⟩ := bind_eq_ok.mp resolves
    cases same
    exact ⟨walked, rfl⟩

/--
A criterion is accepted just if its key consists of parts that are not empty, and is
refused for its key otherwise. The segments of the key, or those before the last one
followed by what is after the last dot, are the parts that it consists of. A key that
is resolved has passed an attribute with a matching name for each segment but the last.
-/
theorem Criterion.splittings_agree
    (key : String)
    (operator : Operator)
    (value : RawValue) :
    ((∃ criterion, make key operator value = .ok criterion) ↔
      ∃ parts, Key.ConsistsOf key parts ∧ ∀ part ∈ parts, part.isEmpty = false) ∧
      (make key operator value = .error (.invalidKey key) ↔
        ∃ parts, Key.ConsistsOf key parts ∧ ∃ part ∈ parts, part.isEmpty = true) ∧
        ∀ criterion,
          make key operator value = .ok criterion →
            Key.ConsistsOf key criterion.segments ∧
              criterion.enclosing ++ [criterion.terminal] = criterion.segments ∧
                ∀ root resolved,
                  resolve root key = .ok resolved →
                    resolved.terminal = criterion.terminal ∧
                      List.Forall₂ (fun name segment => namesMatch name segment = true)
                        resolved.segments criterion.enclosing := by
  simp only [Key.exists_consistsOf_iff]
  refine ⟨?_, ?_, ?_⟩
  · have accepts : make key operator value = .ok ⟨key, operator, value⟩ ↔ _ := make_eq_ok_iff
    rw [← Key.wellFormed_iff, ← accepts]
    constructor
    · rintro ⟨criterion, accepted⟩
      rw [eq_of_make accepted] at accepted
      exact accepted
    · intro accepted
      exact ⟨_, accepted⟩
  · rw [make_eq_error_iff]
    simp [Key.wellFormed]
  · intro criterion accepted
    cases eq_of_make accepted
    refine ⟨Key.consistsOf_segments key, ?_, ?_⟩
    · rw [terminal_eq]
      exact Key.enclosing_append_terminal key
    · intro root resolved resolves
      obtain ⟨walked, isTerminal⟩ := exists_walk_of_resolve resolves
      obtain ⟨trail, route, names⟩ := FieldType.exists_route_of_walk walked
      refine ⟨?_, ?_⟩
      · rw [terminal_eq]
        exact isTerminal
      · simp only [namesMatch_eq_sameLetters]
        rw [← names]
        exact route.forall₂_names

/-- The key of the code of a home's country is split in every way; one with two dots is refused. -/
theorem Criterion.splittings_agree_isocode :
    make "HomeAddress.COUNTRY.isocode" .eq (.single "fr") =
        .ok ⟨"HomeAddress.COUNTRY.isocode", .eq, .single "fr"⟩ ∧
      (∃ resolved,
        resolve (.entity Record.Developer.schema) "HomeAddress.COUNTRY.isocode" = .ok resolved ∧
          resolved.terminal = terminal ⟨"HomeAddress.COUNTRY.isocode", .eq, .single "fr"⟩ ∧
            List.Forall₂ (fun name segment => namesMatch name segment = true)
              resolved.segments
              (enclosing ⟨"HomeAddress.COUNTRY.isocode", .eq, .single "fr"⟩)) ∧
        make "HomeAddress..isocode" .eq (.single "fr") =
          .error (.invalidKey "HomeAddress..isocode") := by
  have accepted :
      make "HomeAddress.COUNTRY.isocode" .eq (.single "fr") =
        .ok ⟨"HomeAddress.COUNTRY.isocode", .eq, .single "fr"⟩ := by
    rfl
  refine ⟨accepted, ?_, ?_⟩
  · have agree :=
      (splittings_agree "HomeAddress.COUNTRY.isocode" .eq (.single "fr")).2.2 _ accepted
    refine ⟨_, rfl, ?_⟩
    exact agree.2.2 (.entity Record.Developer.schema) _ rfl
  · apply (splittings_agree "HomeAddress..isocode" .eq (.single "fr")).2.1.mpr
    refine ⟨["HomeAddress", "", "isocode"], ⟨by simp, by decide, by decide⟩, "", by simp, rfl⟩

end FieldSearch
