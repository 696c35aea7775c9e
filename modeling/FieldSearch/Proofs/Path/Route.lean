import FieldSearch.Proofs.Outcomes
import FieldSearch.Proofs.Path.Names

namespace FieldSearch

open Outcomes

/-!
# Routes through nested types

The segments of a key take a route: each denotes an attribute of the type that
the one before it has led to. A walk succeeds exactly along a route, and where
there is none it blames the first segment that denotes nothing. Routes do not
depend on the letter case of the segments, and the declared names of the
attributes passed take the same route again.
-/

namespace FieldType

/-- The attribute that a name denotes: the first whose name has the same letters. -/
def denoted? (type : FieldType) (name : String) : Option Attribute :=
  type.attributes.find? fun candidate => sameLetters candidate.name name

theorem find?_eq_denoted? (type : FieldType) (name : String) :
    type.find? name = type.denoted? name := by
  simp only [find?, denoted?, namesMatch_eq_sameLetters]

/-- Names with the same letters denote the same attribute. -/
theorem denoted?_congr
    (type : FieldType)
    {left right : String}
    (same : sameLetters left right = true) :
    type.denoted? left = type.denoted? right := by
  simp only [denoted?, sameLetters_congr_right same]

theorem sameLetters_of_denoted?
    {type : FieldType}
    {name : String}
    {found : Attribute}
    (denotes : type.denoted? name = some found) :
    sameLetters found.name name = true := by
  simpa using List.find?_some denotes

/-- Names denote something only in types with structure. -/
theorem exists_schema_of_denoted?
    {type : FieldType}
    {name : String}
    {found : Attribute}
    (denotes : type.denoted? name = some found) :
    ∃ schema, type = .entity schema := by
  cases type with
  | entity schema =>
      exact ⟨schema, rfl⟩
  | value | «foreign» =>
      cases denotes

/-- What a name denotes is also what its declared name denotes. -/
theorem denoted?_declaredName
    {type : FieldType}
    {name : String}
    {found : Attribute}
    (denotes : type.denoted? name = some found) :
    type.denoted? found.name = some found := by
  rw [type.denoted?_congr (sameLetters_of_denoted? denotes)]
  exact denotes

theorem require_of_denoted?
    {type : FieldType}
    {name : String}
    {found : Attribute}
    (denotes : type.denoted? name = some found) :
    type.require name = .ok found := by
  simp only [require, find?_eq_denoted?, denotes]

/-- A name that denotes nothing is blamed together with the type it was looked up in. -/
theorem require_of_denoted?_eq_none
    {type : FieldType}
    {name : String}
    (denotesNothing : type.denoted? name = none) :
    type.require name = .error (.fieldNotFound name type.name) := by
  simp only [require, find?_eq_denoted?, denotesNothing]

/--
The route that segments take from a type: the attributes they denote in turn,
and the declared type of the last one.
-/
inductive Route : FieldType → List String → List Attribute → FieldType → Prop where
  | stay (context : FieldType) :
      Route context [] [] context
  | through
      {context target : FieldType}
      {segment : String}
      {segments : List String}
      {found : Attribute}
      {trail : List Attribute} :
      context.denoted? segment = some found →
      Route found.declared segments trail target →
      Route context (segment :: segments) (found :: trail) target

/--
The segment at an index is the first one without a meaning: those before it
take a route to a type in which it denotes nothing.
-/
def StuckAt
    (root : FieldType)
    (segments : List String)
    (index : Nat)
    (context : FieldType) :
    Prop :=
  ∃ trail segment,
    Route root (segments.take index) trail context ∧
      segments[index]? = some segment ∧
        context.denoted? segment = none

namespace Route

/-- A route along one more segment passes the attribute which that segment denotes. -/
theorem exists_of_append_singleton
    {root target : FieldType}
    {segments : List String}
    {last : String}
    {trail : List Attribute}
    (route : Route root (segments ++ [last]) trail target) :
    ∃ earlier context found,
      trail = earlier ++ [found] ∧
        Route root segments earlier context ∧
          context.denoted? last = some found ∧
            found.declared = target := by
  induction segments generalizing root trail with
  | nil =>
      cases route with
      | through denotes rest =>
          cases rest
          exact ⟨[], root, _, rfl, .stay root, denotes, rfl⟩
  | cons segment segments inductionHypothesis =>
      cases route with
      | through denotes rest =>
          obtain ⟨earlier, context, found, rfl, inner, lastDenotes, isTarget⟩ :=
            inductionHypothesis rest
          exact ⟨_ :: earlier, context, found, rfl, .through denotes inner,
            lastDenotes, isTarget⟩

/-- A route goes on where another one has ended. -/
theorem append
    {root middle target : FieldType}
    {segments later : List String}
    {trail rest : List Attribute}
    (route : Route root segments trail middle)
    (further : Route middle later rest target) :
    Route root (segments ++ later) (trail ++ rest) target := by
  induction route with
  | stay =>
      exact further
  | through denotes _ inductionHypothesis =>
      exact .through denotes (inductionHypothesis further)

/-- The attributes passed decide where a route ends. -/
theorem target_unique
    {root target other : FieldType}
    {segments others : List String}
    {trail : List Attribute}
    (route : Route root segments trail target)
    (otherRoute : Route root others trail other) :
    target = other := by
  induction route generalizing others with
  | stay =>
      cases otherRoute
      rfl
  | through _ _ inductionHypothesis =>
      cases otherRoute with
      | through _ rest =>
          exact inductionHypothesis rest

/-- What holds of segments in any letter case holds of the declared names passed. -/
theorem forall_names
    {property : String → Prop}
    (anyCase :
      ∀ {left right}, sameLetters left right = true → property right → property left)
    {root target : FieldType}
    {segments : List String}
    {trail : List Attribute}
    (route : Route root segments trail target)
    (holds : ∀ segment ∈ segments, property segment) :
    ∀ name ∈ trail.map (·.name), property name := by
  induction route with
  | stay =>
      simp
  | through denotes _ inductionHypothesis =>
      rw [List.forall_mem_cons] at holds
      rw [List.map_cons, List.forall_mem_cons]
      exact ⟨anyCase (sameLetters_of_denoted? denotes) holds.1,
        inductionHypothesis holds.2⟩

/-- Segments with the same letters take the same route. -/
theorem respell
    {root target : FieldType}
    {left right : List String}
    (same : List.Forall₂ (fun left right => sameLetters left right = true) left right)
    {trail : List Attribute}
    (route : Route root left trail target) :
    Route root right trail target := by
  induction route generalizing right with
  | stay =>
      cases same
      exact .stay _
  | through denotes _ inductionHypothesis =>
      cases same with
      | cons sameFirst sameRest =>
          refine .through ?_ (inductionHypothesis sameRest)
          rw [← denoted?_congr _ sameFirst]
          exact denotes

/-- The declared names of the attributes passed take the route again. -/
theorem declaredNames
    {root target : FieldType}
    {segments : List String}
    {trail : List Attribute}
    (route : Route root segments trail target) :
    Route root (trail.map (·.name)) trail target := by
  induction route with
  | stay =>
      exact .stay _
  | through denotes _ inductionHypothesis =>
      exact .through (denoted?_declaredName denotes) inductionHypothesis

/-- The names of the attributes passed match the segments one by one. -/
theorem forall₂_names
    {root target : FieldType}
    {segments : List String}
    {trail : List Attribute}
    (route : Route root segments trail target) :
    List.Forall₂ (fun name segment => sameLetters name segment = true)
      (trail.map (·.name)) segments := by
  induction route with
  | stay =>
      exact .nil
  | through denotes _ inductionHypothesis =>
      exact .cons (sameLetters_of_denoted? denotes) inductionHypothesis

/-- A walk along a route collects the declared names. -/
theorem walk_eq
    {root target : FieldType}
    {segments : List String}
    {trail : List Attribute}
    (route : Route root segments trail target) :
    root.walk segments = .ok (trail.map (·.name), target) := by
  induction route with
  | stay =>
      rfl
  | through denotes _ inductionHypothesis =>
      rw [walk, require_of_denoted? denotes]
      simp only [bind, Except.bind, inductionHypothesis]
      rfl

end Route

namespace StuckAt

theorem zero
    {root : FieldType}
    {segment : String}
    (denotesNothing : root.denoted? segment = none)
    (later : List String) :
    root.StuckAt (segment :: later) 0 root :=
  ⟨[], segment, .stay root, rfl, denotesNothing⟩

theorem succ
    {root context : FieldType}
    {segment : String}
    {later : List String}
    {found : Attribute}
    {index : Nat}
    (denotes : root.denoted? segment = some found)
    (stuck : found.declared.StuckAt later index context) :
    root.StuckAt (segment :: later) (index + 1) context := by
  obtain ⟨trail, blamed, route, atIndex, denotesNothing⟩ := stuck
  exact ⟨found :: trail, blamed, .through denotes route, by simpa using atIndex,
    denotesNothing⟩

theorem exists_segment
    {root context : FieldType}
    {segments : List String}
    {index : Nat}
    (stuck : root.StuckAt segments index context) :
    ∃ segment, segments[index]? = some segment := by
  obtain ⟨-, segment, -, atIndex, -⟩ := stuck
  exact ⟨segment, atIndex⟩

/-- A walk fails at the first segment without a meaning, as it is written. -/
theorem walk_eq
    {root context : FieldType}
    {segments : List String}
    {index : Nat}
    {segment : String}
    (stuck : root.StuckAt segments index context)
    (atIndex : segments[index]? = some segment) :
    root.walk segments = .error (.fieldNotFound segment context.name) := by
  obtain ⟨trail, blamed, route, blamedAtIndex, denotesNothing⟩ := stuck
  obtain rfl : blamed = segment := by
    simpa [blamedAtIndex] using atIndex
  induction segments generalizing root index trail with
  | nil =>
      simp at atIndex
  | cons first later inductionHypothesis =>
      cases index with
      | zero =>
          obtain rfl : first = blamed := by
            simpa using atIndex
          cases route
          rw [walk, require_of_denoted?_eq_none denotesNothing]
          rfl
      | succ index =>
          rw [List.take_succ_cons] at route
          cases route with
          | through denotes rest =>
              rw [List.getElem?_cons_succ] at atIndex
              have laterStuck := inductionHypothesis _ rest atIndex atIndex
              rw [walk, require_of_denoted? denotes]
              simp only [bind, Except.bind, laterStuck]

/-- Segments with the same letters are stuck at the same index. -/
theorem respell
    {root context : FieldType}
    {left right : List String}
    (same : List.Forall₂ (fun left right => sameLetters left right = true) left right)
    {index : Nat}
    (stuck : root.StuckAt left index context) :
    root.StuckAt right index context := by
  obtain ⟨trail, segment, route, atIndex, denotesNothing⟩ := stuck
  obtain ⟨inLeft, rfl⟩ := List.getElem?_eq_some_iff.mp atIndex
  have inRight : index < right.length := by
    rw [← same.length_eq]
    exact inLeft
  have sameSegment : sameLetters left[index] right[index] = true :=
    (List.forall₂_iff_get.mp same).2 index inLeft inRight
  refine ⟨trail, right[index], route.respell (List.forall₂_take index same),
    List.getElem?_eq_getElem inRight, ?_⟩
  rw [← context.denoted?_congr sameSegment]
  exact denotesNothing

end StuckAt

/-- Segments either take a route or are stuck somewhere. -/
theorem route_or_stuckAt
    (root : FieldType)
    (segments : List String) :
    (∃ trail target, Route root segments trail target) ∨
      ∃ index context, root.StuckAt segments index context := by
  induction segments generalizing root with
  | nil =>
      exact .inl ⟨[], root, .stay root⟩
  | cons segment later inductionHypothesis =>
      cases meaning : root.denoted? segment with
      | none =>
          exact .inr ⟨0, root, .zero meaning later⟩
      | some found =>
          rcases inductionHypothesis found.declared with
            ⟨trail, target, route⟩ | ⟨index, context, stuck⟩
          · exact .inl ⟨found :: trail, target, .through meaning route⟩
          · exact .inr ⟨index + 1, context, .succ meaning stuck⟩

/-- A walk that succeeds has taken a route. -/
theorem exists_route_of_walk
    {root target : FieldType}
    {segments names : List String}
    (walked : root.walk segments = .ok (names, target)) :
    ∃ trail, Route root segments trail target ∧ trail.map (·.name) = names := by
  rcases root.route_or_stuckAt segments with ⟨trail, context, route⟩ | ⟨index, context, stuck⟩
  · rw [route.walk_eq] at walked
    cases walked
    exact ⟨trail, route, rfl⟩
  · obtain ⟨segment, atIndex⟩ := stuck.exists_segment
    rw [stuck.walk_eq atIndex] at walked
    cases walked

end FieldType

end FieldSearch
