import FieldSearch.Key

namespace FieldSearch

/-!
# Segments of keys

Splitting is the library's `List.splitOn`, so joining undoes it and is undone by
it. No segment of a key holds a dot, and parts without dots are the segments of
the key that they make.
-/

/-- Splitting characters is splitting a list at an element. -/
theorem splitChars_eq_splitOn
    (separator : Char)
    (characters : List Char) :
    splitChars separator characters = characters.splitOn separator := by
  induction characters with
  | nil =>
      rfl
  | cons character rest inductionHypothesis =>
      rw [List.splitOn_cons_eq_if_modifyHead, splitChars, inductionHypothesis]
      by_cases here : character = separator
      · simp [here]
      · obtain ⟨first, later, pieces⟩ :=
          List.exists_cons_of_ne_nil (List.splitOn_ne_nil separator rest)
        simp [here, pieces]

theorem separator_not_mem_of_mem_splitChars
    {separator : Char}
    {characters piece : List Char}
    (member : piece ∈ splitChars separator characters) :
    separator ∉ piece := by
  rw [splitChars_eq_splitOn] at member
  induction characters generalizing piece with
  | nil =>
      simp only [List.splitOn_nil, List.mem_singleton] at member
      subst member
      simp
  | cons character rest inductionHypothesis =>
      rw [List.splitOn_cons_eq_if_modifyHead] at member
      obtain ⟨first, later, pieces⟩ :=
        List.exists_cons_of_ne_nil (List.splitOn_ne_nil separator rest)
      by_cases here : character = separator
      · simp only [here, BEq.rfl, ↓reduceIte, List.mem_cons] at member
        rcases member with isFirst | inRest
        · subst isFirst
          simp
        · exact inductionHypothesis inRest
      · simp only [pieces, beq_iff_eq, here, ↓reduceIte, List.modifyHead_cons,
          List.mem_cons] at member
        rcases member with isFirst | inLater
        · subst isFirst
          have absent : separator ∉ first :=
            inductionHypothesis (by simp [pieces])
          simpa [absent] using fun same => here same.symm
        · exact inductionHypothesis (by simp [pieces, inLater])

namespace Key

theorem segments_ne_nil (key : String) :
    segments key ≠ [] := by
  simp [segments, splitChars_eq_splitOn]

theorem enclosing_append_terminal (key : String) :
    enclosing key ++ [terminal key] = segments key := by
  have last : terminal key = (segments key).getLast (segments_ne_nil key) := by
    rw [terminal, List.getLastD_eq_getLast?,
      List.getLast?_eq_some_getLast (segments_ne_nil key), Option.getD_some]
  rw [last, enclosing]
  exact List.dropLast_concat_getLast (segments_ne_nil key)

theorem dot_not_mem_segment
    {key segment : String}
    (member : segment ∈ segments key) :
    '.' ∉ segment.toList := by
  obtain ⟨piece, pieceMember, rfl⟩ := List.mem_map.mp member
  rw [String.toList_ofList]
  exact separator_not_mem_of_mem_splitChars pieceMember

/-- Parts without dots are the segments of the key that they make. -/
theorem segments_join
    {parts : List String}
    (nonempty : parts ≠ [])
    (absent : ∀ part ∈ parts, '.' ∉ part.toList) :
    segments (join parts) = parts := by
  have pieces :
      (join parts).toList.splitOn '.' = parts.map String.toList := by
    rw [join, String.toList_intercalate]
    refine List.splitOn_intercalate '.' ?_ (by simpa using nonempty)
    intro piece member
    obtain ⟨part, partMember, rfl⟩ := List.mem_map.mp member
    exact absent part partMember
  rw [segments, splitChars_eq_splitOn, pieces, List.map_map]
  simp [Function.comp_def]

/-- A key is joined from its segments. -/
theorem join_segments (key : String) :
    join (segments key) = key := by
  apply String.toList_injective
  rw [join, String.toList_intercalate, segments, splitChars_eq_splitOn, List.map_map]
  simp [Function.comp_def]

theorem join_singleton (part : String) :
    join [part] = part := by
  simp [join]

/-- A key without dots is its own only segment. -/
theorem segments_of_dot_not_mem
    {key : String}
    (absent : '.' ∉ key.toList) :
    segments key = [key] := by
  have split := segments_join (List.cons_ne_nil key []) (by simpa using absent)
  rw [join_singleton] at split
  exact split

/-- Without enclosing segments there is no dot in a key. -/
theorem dot_not_mem_of_enclosing_eq_nil
    {key : String}
    (noEnclosing : enclosing key = []) :
    '.' ∉ key.toList := by
  have split := enclosing_append_terminal key
  rw [noEnclosing, List.nil_append] at split
  have isTerminal : terminal key = key := by
    rw [← join_singleton (terminal key), split, join_segments]
  have member : terminal key ∈ segments key := by
    rw [← split]
    exact List.mem_singleton_self _
  rw [← isTerminal]
  exact dot_not_mem_segment member

theorem splitChars_append_separator
    {separator : Char}
    {first : List Char}
    (absent : separator ∉ first)
    (later : List Char) :
    splitChars separator (first ++ separator :: later) =
      first :: splitChars separator later := by
  induction first with
  | nil =>
      simp [splitChars]
  | cons character rest inductionHypothesis =>
      rw [List.mem_cons, not_or] at absent
      have notHere : character ≠ separator := fun here => absent.1 here.symm
      rw [List.cons_append, splitChars, if_neg notHere, inductionHypothesis absent.2]

/-- The segments of a key behind another segment. -/
theorem segments_append_dot
    {segment : String}
    (absent : '.' ∉ segment.toList)
    (key : String) :
    segments (segment ++ "." ++ key) = segment :: segments key := by
  have characters :
      (segment ++ "." ++ key).toList = segment.toList ++ '.' :: key.toList := by
    simp
  rw [segments, characters, splitChars_append_separator absent, List.map_cons,
    String.ofList_toList, segments]

theorem enclosing_append_dot
    {segment : String}
    (absent : '.' ∉ segment.toList)
    (key : String) :
    enclosing (segment ++ "." ++ key) = segment :: enclosing key := by
  rw [enclosing, segments_append_dot absent,
    List.dropLast_cons_of_ne_nil (segments_ne_nil key), enclosing]

theorem terminal_append_dot
    {segment : String}
    (absent : '.' ∉ segment.toList)
    (key : String) :
    terminal (segment ++ "." ++ key) = terminal key := by
  obtain ⟨first, others, split⟩ := List.exists_cons_of_ne_nil (segments_ne_nil key)
  rw [terminal, terminal, segments_append_dot absent, split]
  rfl

/-- A dotted text goes on after its first part, if it has others. -/
theorem join_cons
    (part : String)
    {parts : List String}
    (nonempty : parts ≠ []) :
    join (part :: parts) = part ++ "." ++ join parts := by
  obtain ⟨next, others, rfl⟩ := List.exists_cons_of_ne_nil nonempty
  apply String.toList_injective
  simp [join, String.toList_intercalate]

/-- A key is well formed if none of its segments is empty. -/
theorem wellFormed_iff (key : String) :
    wellFormed key = true ↔ ∀ segment ∈ segments key, segment.isEmpty = false := by
  simp [wellFormed]

theorem terminal_isEmpty_of_wellFormed
    {key : String}
    (accepted : wellFormed key = true) :
    (terminal key).isEmpty = false := by
  apply (wellFormed_iff key).mp accepted
  rw [← enclosing_append_terminal]
  simp

end Key

end FieldSearch
