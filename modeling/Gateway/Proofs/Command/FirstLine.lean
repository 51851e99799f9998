/-
This file proves that a request is its first line. A line feed ends the line whatever octets follow
it, so a command leaves the same behind however the input goes on; and since JSON may end with a
blank, the line is the same request with its line feed and without. A line is no request on one of
three levels: its octets are no text, the text is blank, or no reader of JSON takes it. There are
more of the last kind than texts that are no JSON, since a reader has its limits.
-/

import Gateway.Command.Run
import Gateway.Proofs.Json.Recognition
import Gateway.Proofs.Text.Utf8

namespace Gateway

namespace RequestLine

/-! ### Lines -/

theorem firstLine_append {line : List UInt8} (unbroken : lineFeed ∉ line) (rest : List UInt8) :
    firstLine (line ++ lineFeed :: rest) = line ++ [lineFeed] := by
  induction line with
  | nil => rfl
  | cons octet others inductionHypothesis =>
    obtain ⟨unlike, further⟩ := List.ne_and_not_mem_of_not_mem_cons unbroken
    rw [List.cons_append, firstLine, if_neg (Ne.symm unlike), inductionHypothesis further,
      List.cons_append]

theorem firstLine_of_unbroken {line : List UInt8} (unbroken : lineFeed ∉ line) :
    firstLine line = line := by
  induction line with
  | nil => rfl
  | cons octet others inductionHypothesis =>
    obtain ⟨unlike, further⟩ := List.ne_and_not_mem_of_not_mem_cons unbroken
    rw [firstLine, if_neg (Ne.symm unlike), inductionHypothesis further]

/-- Nothing but the first line is read. -/
theorem read_congr [LibraryReports] {input other : List UInt8}
    (same : firstLine input = firstLine other) : read input = read other := by
  rw [read, read, same]

/-- What a command leaves behind is told by the request that it reads. -/
theorem run_congr [LibraryReports] {input other : List UInt8} (same : read input = read other)
    (command : Command) (source : ConfigSource) :
    command.run source input = command.run source other := by
  simp only [Command.run, Command.runWith, Command.answerInput, same]

/-! ### Requests -/

/-- All characters of the text are white space. -/
def IsBlank (text : String) : Prop :=
  ∀ character ∈ text.toList, Text.isWhiteSpace character = true

theorem not_isBlank_of_mem {text : String} {character : Char} (inside : character ∈ text.toList)
    (visible : Text.isWhiteSpace character = false) : ¬ IsBlank text := by
  intro blank
  cases visible.symm.trans (blank character inside)

/-- The octets are no request: they are not UTF-8, or they spell a blank text or one that is not of
the given kind. -/
def IsFaulty (isText : String → Prop) (line : List UInt8) : Prop :=
  (∀ text, line ≠ Text.utf8 text) ∨
    ∃ text, line = Text.utf8 text ∧ (IsBlank text ∨ ¬ isText text)

theorem not_isFaulty_iff {isText : String → Prop} {line : List UInt8} :
    ¬ IsFaulty isText line ↔ ∃ text, line = Text.utf8 text ∧ ¬ IsBlank text ∧ isText text := by
  constructor
  · intro sound
    rw [IsFaulty, not_or, not_forall_not] at sound
    obtain ⟨⟨text, isText⟩, noFault⟩ := sound
    refine ⟨text, isText, fun blank => noFault ⟨text, isText, .inl blank⟩, ?_⟩
    by_contra other
    exact noFault ⟨text, isText, .inr other⟩
  · rintro ⟨text, rfl, filled, ofKind⟩ (noText | ⟨other, same, faulty⟩)
    · exact noText text rfl
    · -- octets spell one text only
      obtain rfl : text = other := Option.some.inj <|
        (Text.ofUtf8?_utf8 text).symm.trans (Text.ofUtf8?_eq_some_iff.mpr same)
      exact faulty.elim filled fun other => other ofKind

/-- A request is read where the first line is a text that is not blank and has a value. -/
theorem read_eq_ok_iff [LibraryReports] {input : List UInt8} {request : Json} :
    read input = .ok request ↔
      ∃ text, firstLine input = Text.utf8 text ∧ ¬ IsBlank text ∧
        Json.ofText? text = some request := by
  have blank (text : String) : text.toList.all Text.isWhiteSpace = true ↔ IsBlank text :=
    List.all_eq_true
  rw [read]
  constructor
  · intro done
    split at done
    · cases done
    · next text isText =>
      split at done
      · cases done
      · next filled =>
        split at done
        · cases done
        · next value isValue =>
          obtain rfl := Except.ok.inj done
          exact ⟨text, Text.ofUtf8?_eq_some_iff.mp isText, mt (blank text).mpr filled, isValue⟩
  · rintro ⟨text, isText, filled, isValue⟩
    rw [isText, Text.ofUtf8?_utf8]
    simp only [if_neg (mt (blank text).mp filled), isValue]

/-- Where no request is read, the error is one of the input. -/
theorem exists_io_iff [LibraryReports] {input : List UInt8} :
    (∃ message, read input = .error ⟨.io, message⟩) ↔ ¬ ∃ request, read input = .ok request := by
  rw [read]
  split
  · exact ⟨nofun, fun _ => ⟨_, rfl⟩⟩
  · split
    · exact ⟨nofun, fun _ => ⟨_, rfl⟩⟩
    · split
      · exact ⟨nofun, fun _ => ⟨_, rfl⟩⟩
      · exact ⟨nofun, fun never => absurd ⟨_, rfl⟩ never⟩

theorem exists_io_iff_isFaulty [LibraryReports] {input : List UInt8} :
    (∃ message, read input = .error ⟨.io, message⟩) ↔
      IsFaulty Json.IsReadable (firstLine input) := by
  rw [exists_io_iff, not_iff_comm, not_isFaulty_iff]
  simp only [read_eq_ok_iff, ← Json.exists_ofText?_iff]
  constructor
  · rintro ⟨text, isText, filled, request, isRequest⟩
    exact ⟨request, text, isText, filled, isRequest⟩
  · rintro ⟨request, text, isText, filled, isRequest⟩
    exact ⟨text, isText, filled, request, isRequest⟩

/-- A text is blank with a line feed behind it exactly if it is blank without. -/
theorem isBlank_push_iff {text : String} : IsBlank (text.push '\n') ↔ IsBlank text := by
  rw [IsBlank, String.toList_push, List.forall_mem_append, IsBlank]
  exact and_iff_left (List.forall_mem_singleton.mpr (by decide))

/-- A line is the same request with its line feed and without. -/
theorem read_concat_eq_ok_iff [LibraryReports] {line : List UInt8} (unbroken : lineFeed ∉ line)
    {request : Json} : read (line ++ [lineFeed]) = .ok request ↔ read line = .ok request := by
  rw [read_eq_ok_iff, read_eq_ok_iff, firstLine_append unbroken, firstLine_of_unbroken unbroken]
  have isJsonBlank : Text.isJsonBlank '\n' = true := rfl
  constructor
  · rintro ⟨whole, isText, filled, isRequest⟩
    obtain ⟨text, rfl, rfl⟩ := Text.concat_lineFeed_eq_utf8_iff.mp isText
    rw [isBlank_push_iff] at filled
    rw [Json.ofText?_push isJsonBlank] at isRequest
    exact ⟨text, rfl, filled, isRequest⟩
  · rintro ⟨text, rfl, filled, isRequest⟩
    refine ⟨text.push '\n', Text.concat_lineFeed_eq_utf8_iff.mpr ⟨text, rfl, rfl⟩, ?_, ?_⟩
    · rwa [isBlank_push_iff]
    · rwa [Json.ofText?_push isJsonBlank]

/-- Only the first line of the input counts. A command leaves the same behind whatever stands behind
the line feed; the line is the same request with its line feed and without; and it is none, which is
an error of the input, exactly if it is not UTF-8, or blank, or no JSON that a reader takes. -/
theorem read_meaning [LibraryReports] {line : List UInt8} (unbroken : lineFeed ∉ line) :
    (∀ (command : Command) (source : ConfigSource) (rest other : List UInt8),
      command.run source (line ++ lineFeed :: rest) =
        command.run source (line ++ lineFeed :: other)) ∧
    (∀ request, read line = .ok request ↔ read (line ++ [lineFeed]) = .ok request) ∧
    ((∃ message, read line = .error ⟨.io, message⟩) ↔ IsFaulty Json.IsReadable line) := by
  refine ⟨fun command source rest other => ?_, fun request => ?_, ?_⟩
  · refine run_congr (read_congr ?_) command source
    rw [firstLine_append unbroken, firstLine_append unbroken]
  · exact (read_concat_eq_ok_iff unbroken).symm
  · rw [exists_io_iff_isFaulty, firstLine_of_unbroken unbroken]

/-- An empty object with octets behind it that are not UTF-8. -/
theorem read_meaning_of_emptyObject :
    lineFeed ∉ Text.utf8 "\x7b\x7d" ∧
      Command.filter.run .absent (Text.utf8 "\x7b\x7d" ++ lineFeed :: [0xC0]) =
        Command.filter.run .absent (Text.utf8 "\x7b\x7d" ++ lineFeed :: []) ∧
      read (Text.utf8 "\x7b\x7d" ++ [lineFeed]) = .ok (.object []) ∧
      ¬ IsFaulty Json.IsReadable (Text.utf8 "\x7b\x7d") := by
  have unbroken : lineFeed ∉ Text.utf8 "\x7b\x7d" := by decide
  have isBrace : '\x7b' ∈ "\x7b\x7d".toList := by decide
  have isObject : Json.ofText? "\x7b\x7d" = some (.object []) :=
    Json.ofText?_eq_some_iff.mpr
      ⟨.object [], .token .openObject (.token .closeObject .nil), by decide, rfl⟩
  have received : read (Text.utf8 "\x7b\x7d") = .ok (.object []) :=
    read_eq_ok_iff.mpr
      ⟨_, firstLine_of_unbroken unbroken, not_isBlank_of_mem isBrace rfl, isObject⟩
  obtain ⟨onlyFirst, sameRequest, faulty⟩ := read_meaning unbroken
  refine ⟨unbroken, onlyFirst .filter .absent [0xC0] [], (sameRequest _).mp received, ?_⟩
  rw [← faulty, received]
  exact nofun

/-! ### JSON that is no request -/

theorem lineFeed_not_mem_utf8 {text : String} (unbroken : '\n' ∉ text.toList) :
    lineFeed ∉ Text.utf8 text := by
  rw [← String.ofList_toList (s := text), Text.utf8_ofList, List.mem_flatMap]
  rintro ⟨character, inside, isLineFeed⟩
  exact unbroken (Text.eq_lineFeed_of_mem isLineFeed ▸ inside)

/-- A text that is JSON and more than a reader takes is an error of the input all the same. -/
theorem not_io_iff_isFaulty_isText [LibraryReports] {text : String} (unbroken : '\n' ∉ text.toList)
    (filled : ¬ IsBlank text) {phrase : Phrase} (writes : Writes text.toList phrase.tokens)
    (tooMuch : ¬ phrase.IsReadable) :
    ¬ ((∃ message, read (Text.utf8 text) = .error ⟨.io, message⟩) ↔
      IsFaulty Json.IsText (Text.utf8 text)) := by
  have refused : IsFaulty Json.IsReadable (Text.utf8 text) :=
    .inr ⟨text, rfl, .inr (mt (Json.isReadable_iff writes).mp tooMuch)⟩
  have sound : ¬ IsFaulty Json.IsText (Text.utf8 text) :=
    not_isFaulty_iff.mpr ⟨text, rfl, filled, phrase, writes⟩
  intro same
  rw [exists_io_iff_isFaulty, firstLine_of_unbroken (lineFeed_not_mem_utf8 unbroken)] at same
  exact sound (same.mp refused)

/-- Arrays inside one another. -/
def nested : Nat → Phrase
  | 0 => .array []
  | depth + 1 => .array [nested depth]

theorem depth_nested (depth : Nat) : (nested depth).depth = depth + 1 := by
  induction depth with
  | zero => rfl
  | succ depth inductionHypothesis =>
    rw [nested, Phrase.depth, Phrase.depth.itemsDepth, Phrase.depth.itemsDepth,
      inductionHypothesis, Nat.max_zero, Nat.add_comm]

/-- Brackets that open and close as many arrays. -/
def brackets (depth : Nat) : String :=
  String.ofList (List.replicate depth '[' ++ List.replicate depth ']')

theorem toList_brackets (depth : Nat) :
    (brackets depth).toList = List.replicate depth '[' ++ List.replicate depth ']' :=
  String.toList_ofList

theorem writes_nested (depth : Nat) :
    Writes (brackets (depth + 1)).toList (nested depth).tokens := by
  rw [toList_brackets]
  induction depth with
  | zero => exact .token .openArray (.token .closeArray .nil)
  | succ depth inductionHypothesis =>
    rw [List.replicate_succ, List.replicate_succ' (n := depth + 1), List.cons_append,
      ← List.append_assoc]
    exact .token .openArray (inductionHypothesis.append (.token .closeArray .nil))

/-- A number beyond the doubles, a surrogate without its partner, and an array inside of more arrays
than a reader takes are JSON and no requests. -/
theorem refused_texts :
    (¬ ((∃ message, read (Text.utf8 "1e400") = .error ⟨.io, message⟩) ↔
      IsFaulty Json.IsText (Text.utf8 "1e400"))) ∧
    (¬ ((∃ message, read (Text.utf8 "\"\\ud800\"") = .error ⟨.io, message⟩) ↔
      IsFaulty Json.IsText (Text.utf8 "\"\\ud800\""))) ∧
    ¬ ((∃ message, read (Text.utf8 (brackets 128)) = .error ⟨.io, message⟩) ↔
      IsFaulty Json.IsText (Text.utf8 (brackets 128))) := by
  refine ⟨?_, ?_, ?_⟩
  · let phrase : Phrase := .numeral ⟨false, ['1'], [], some (false, ['4', '0', '0'])⟩
    have isOne : '1' ∈ "1e400".toList := by decide
    exact not_io_iff_isFaulty_isText (by decide) (not_isBlank_of_mem isOne rfl)
      (phrase.writes_iff.mpr (by decide +kernel)) (by decide +kernel)
  · let phrase : Phrase := .text [.codeUnit 0xD800]
    have isQuote : '"' ∈ "\"\\ud800\"".toList := by decide
    exact not_io_iff_isFaulty_isText (by decide) (not_isBlank_of_mem isQuote rfl)
      (phrase.writes_iff.mpr (by decide +kernel)) (by decide +kernel)
  · have isBracket : '[' ∈ (brackets 128).toList := by
      rw [toList_brackets]
      exact List.mem_cons_self
    have tooDeep : ¬ (nested 127).IsReadable := by
      rw [Phrase.IsReadable, depth_nested]
      exact fun readable => absurd readable.1 (by decide)
    refine not_io_iff_isFaulty_isText ?_ (not_isBlank_of_mem isBracket rfl) (writes_nested 127)
      tooDeep
    rw [toList_brackets]
    decide +kernel

end RequestLine

end Gateway
