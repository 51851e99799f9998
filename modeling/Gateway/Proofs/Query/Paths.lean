/-
This file says what dots do to a path. Splitting turns a dot between two texts into the segments of
the one and then those of the other, whatever they are, and the rest follows from that: segments
that are joined with dots come back, and dots that stand at an end or side by side are never seen. A
selector takes nothing from its path but the segments, so paths with the same segments are read as
the same selector, however the selector is written.
-/

import Gateway.Query.Selector

namespace Gateway

/-! ### Pieces -/

theorem not_mem_dot_of_mem_pieces {characters piece : List Char}
    (inside : piece ∈ pieces characters) : '.' ∉ piece := by
  induction characters generalizing piece with
  | nil =>
    obtain rfl := List.mem_singleton.mp inside
    exact List.not_mem_nil
  | cons character rest inductionHypothesis =>
    rw [pieces] at inside
    split at inside
    · rcases List.mem_cons.mp inside with rfl | inRest
      · exact List.not_mem_nil
      · exact inductionHypothesis inRest
    · next noDot =>
      -- the first piece of the rest goes on with the character, and the others stay
      split at inside
      · next none => exact absurd none (pieces_ne_nil rest)
      · next first others found =>
        rw [found] at inductionHypothesis
        rcases List.mem_cons.mp inside with rfl | inOthers
        · have clean : '.' ∉ first := inductionHypothesis List.mem_cons_self
          exact List.not_mem_cons_of_ne_of_not_mem (Ne.symm noDot) clean
        · exact inductionHypothesis (List.mem_cons_of_mem _ inOthers)

theorem pieces_of_not_mem_dot {characters : List Char} (noDot : '.' ∉ characters) :
    pieces characters = [characters] := by
  induction characters with
  | nil => rfl
  | cons character rest inductionHypothesis =>
    obtain ⟨other, clean⟩ := List.ne_and_not_mem_of_not_mem_cons noDot
    rw [pieces, if_neg (Ne.symm other), inductionHypothesis clean]

/-! ### Segments -/

/-- What may stand between the dots of a path: something, and no dot. -/
def IsSegment (segment : String) : Prop :=
  segment ≠ "" ∧ '.' ∉ segment.toList

/-- The path that is written with one dot between each two segments. -/
def joinPath (segments : List String) : String :=
  ".".intercalate segments

theorem isSegment_of_mem_splitPath {dotted segment : String}
    (inside : segment ∈ splitPath dotted) : IsSegment segment := by
  obtain ⟨piece, isPiece, rfl⟩ := List.mem_map.mp inside
  obtain ⟨inPieces, filled⟩ := List.mem_filter.mp isPiece
  refine ⟨fun empty => ?_, ?_⟩
  · rw [String.ofList_eq_empty_iff.mp empty] at filled
    cases filled
  · rw [String.toList_ofList]
    exact not_mem_dot_of_mem_pieces inPieces

/-- The segments of two texts with a dot between them are those of the one, then of the other. -/
theorem splitPath_append (first second : String) :
    splitPath (first ++ "." ++ second) = splitPath first ++ splitPath second := by
  have between : (first ++ "." ++ second).toList = first.toList ++ '.' :: second.toList := by
    simp
  rw [splitPath, between, pieces_append_dot, List.filter_append, List.map_append]
  rfl

theorem splitPath_empty : splitPath "" = [] := rfl

theorem splitPath_of_isSegment {segment : String} (isSegment : IsSegment segment) :
    splitPath segment = [segment] := by
  obtain ⟨filled, noDot⟩ := isSegment
  have kept : [segment.toList].filter (fun piece => !piece.isEmpty) = [segment.toList] := by
    simpa using filled
  rw [splitPath, pieces_of_not_mem_dot noDot, kept, List.map_singleton, String.ofList_toList]

/-- Segments that are joined with dots come back. -/
theorem splitPath_joinPath {segments : List String}
    (each : ∀ segment ∈ segments, IsSegment segment) :
    splitPath (joinPath segments) = segments := by
  induction segments with
  | nil => rw [joinPath, String.intercalate_nil, splitPath_empty]
  | cons segment rest inductionHypothesis =>
    obtain ⟨here, further⟩ := List.forall_mem_cons.mp each
    cases rest with
    | nil => rw [joinPath, String.intercalate_singleton, splitPath_of_isSegment here]
    | cons next others =>
      rw [joinPath, String.intercalate_cons_cons, splitPath_append, splitPath_of_isSegment here,
        ← joinPath, inductionHypothesis further, List.singleton_append]

/-- Joining comes undone for segments and for nothing else. -/
theorem splitPath_joinPath_iff {segments : List String} :
    splitPath (joinPath segments) = segments ↔ ∀ segment ∈ segments, IsSegment segment := by
  refine ⟨fun same segment inside => ?_, splitPath_joinPath⟩
  rw [← same] at inside
  exact isSegment_of_mem_splitPath inside

theorem splitPath_joinPath_splitPath (dotted : String) :
    splitPath (joinPath (splitPath dotted)) = splitPath dotted :=
  splitPath_joinPath fun _ => isSegment_of_mem_splitPath

/-! ### Dots that separate nothing -/

theorem splitPath_leading (dotted : String) : splitPath ("." ++ dotted) = splitPath dotted :=
  splitPath_append "" dotted

theorem splitPath_trailing (dotted : String) : splitPath (dotted ++ ".") = splitPath dotted := by
  have behind := splitPath_append dotted ""
  rwa [String.append_empty, splitPath_empty, List.append_nil] at behind

theorem splitPath_doubled (first second : String) :
    splitPath (first ++ ".." ++ second) = splitPath (first ++ "." ++ second) := by
  have twoDots : ".." = "." ++ "." := rfl
  rw [twoDots, ← String.append_assoc, splitPath_append, splitPath_trailing, splitPath_append]

/-! ### Selectors -/

namespace Selector

/-- How a selector is written, but for its path: as the path alone, or as an object that holds the
path, a pattern, and whatever other members there are. -/
inductive Form
  | plain
  | matching (members : Members) (pattern : String)

namespace Form

/-- The selector of this form with the path. -/
def write : Form → String → Json
  | .plain, dotted => .text dotted
  | .matching members pattern, dotted =>
    .object ((members.insert "match" (.text pattern)).insert "path" (.text dotted))

/-- What is read of this form where the path has the segments. -/
def selector : Form → List String → Selector
  | .plain, segments => .path segments
  | .matching _ pattern, segments => .matching ⟨segments, .source pattern⟩

theorem decode_write (form : Form) (dotted : String) :
    decode (form.write dotted) = .ok (form.selector (splitPath dotted)) := by
  cases form with
  | plain => rfl
  | matching members pattern =>
    have other : "match" ≠ "path" := by decide
    rw [write, decode, Members.find?_insert_self, Members.find?_insert_other _ other,
      Members.find?_insert_self, selector]

/-- Whatever is read as a selector is written in one of the forms. -/
theorem exists_of_decode {value : Json} {selector : Selector}
    (read : decode value = .ok selector) :
    ∃ (form : Form) (dotted : String), value = form.write dotted := by
  unfold decode at read
  split at read
  · next dotted => exact ⟨.plain, dotted, rfl⟩
  · next members =>
    split at read
    · next dotted pattern hasPath hasMatch =>
      refine ⟨.matching members pattern, dotted, ?_⟩
      rw [write, Members.insert_of_find? hasMatch, Members.insert_of_find? hasPath]
    · cases read
  · cases read

end Form

theorem decode_eq_ok_iff {value : Json} {selector : Selector} :
    decode value = .ok selector ↔
      ∃ (form : Form) (dotted : String), value = form.write dotted ∧
        selector = form.selector (splitPath dotted) := by
  constructor
  · intro read
    obtain ⟨form, dotted, rfl⟩ := Form.exists_of_decode read
    rw [Form.decode_write] at read
    exact ⟨form, dotted, rfl, (Except.ok.inj read).symm⟩
  · rintro ⟨form, dotted, rfl, rfl⟩
    exact Form.decode_write form dotted

/-- Paths with the same segments are read as the same selector. -/
theorem decode_write_congr (form : Form) {first second : String}
    (same : splitPath first = splitPath second) :
    decode (form.write first) = decode (form.write second) := by
  rw [Form.decode_write, Form.decode_write, same]

/-- What dots do. Splitting keeps a dot between two texts apart, gives segments only, and undoes the
joining of segments; a selector is read from its form and the segments of its path; so, in each
form, the path joined from the segments, and the path with dots more at an end or side by side, are
read as the same selector. -/
theorem splitPath_meaning :
    (∀ first second, splitPath (first ++ "." ++ second) = splitPath first ++ splitPath second) ∧
    (∀ dotted, ∀ segment ∈ splitPath dotted, IsSegment segment) ∧
    (∀ segments, splitPath (joinPath segments) = segments ↔
      ∀ segment ∈ segments, IsSegment segment) ∧
    (∀ value selector, decode value = .ok selector ↔
      ∃ (form : Form) (dotted : String), value = form.write dotted ∧
        selector = form.selector (splitPath dotted)) ∧
    ∀ form : Form,
      (∀ dotted, decode (form.write (joinPath (splitPath dotted))) = decode (form.write dotted)) ∧
      (∀ dotted, decode (form.write ("." ++ dotted)) = decode (form.write dotted)) ∧
      (∀ dotted, decode (form.write (dotted ++ ".")) = decode (form.write dotted)) ∧
      ∀ first second,
        decode (form.write (first ++ ".." ++ second)) =
          decode (form.write (first ++ "." ++ second)) := by
  refine ⟨splitPath_append, fun _ _ => isSegment_of_mem_splitPath,
    fun _ => splitPath_joinPath_iff, fun _ _ => decode_eq_ok_iff, fun form => ⟨?_, ?_, ?_, ?_⟩⟩
  · exact fun dotted => decode_write_congr form (splitPath_joinPath_splitPath dotted)
  · exact fun dotted => decode_write_congr form (splitPath_leading dotted)
  · exact fun dotted => decode_write_congr form (splitPath_trailing dotted)
  · exact fun first second => decode_write_congr form (splitPath_doubled first second)

end Selector

end Gateway
