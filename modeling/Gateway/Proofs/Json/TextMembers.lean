/-
This file reads objects of texts for all that they say: every member in its order, those of one name
included, where the reader of values keeps one value of each name. What is read so is an object to
the reader of values too, with the same members merged.
-/

import Gateway.Proofs.Json.Printing

namespace Gateway

open Text (QuotingStyle)

namespace Json

/-- The members of an object whose brace, or whose comma behind a member, was read, up to the
closing brace that ends the text. -/
def textMembersFrom? : List Token → Option (List (String × String))
  | [.text key, .colon, .text value, .closeObject] => do
    return [(← TextUnit.text? key, ← TextUnit.text? value)]
  | .text key :: .colon :: .text value :: .comma :: rest => do
    return (← TextUnit.text? key, ← TextUnit.text? value) :: (← textMembersFrom? rest)
  | _ => none

/-- The members of a text that is an object of texts and no more. -/
def textMembers? (text : String) : Option (List (String × String)) :=
  match tokens text.toList with
  | [.openObject, .closeObject] => some []
  | .openObject :: rest => textMembersFrom? rest
  | _ => none

/-- The members of an object after more of them were read: the last value of a name counts. -/
def mergeTexts (merged : Members) (members : List (String × String)) : Members :=
  members.foldl (fun merged member => merged.insert member.1 (.text member.2)) merged

/-! ### The reader of values -/

/-- A member with a text is read from its key on, and set among the members before it. -/
theorem run_textMember {room : Nat} {stack : List Reading.Frame} (fits : stack.length + 1 ≤ room)
    {stage : Reading.Stage} {merged : Members}
    (awaits : ∀ units,
      Reading.step room stack stage (.text units) = Reading.beginMember merged stack (.text units))
    {keyUnits valueUnits : List TextUnit} {key value : String}
    (isKey : TextUnit.text? keyUnits = some key) (isValue : TextUnit.text? valueUnits = some value)
    (rest : List Token) :
    Reading.run room stage stack (.text keyUnits :: .colon :: .text valueUnits :: rest) =
      Reading.run room (.afterMember (merged.insert key (.text value))) stack rest :=
  Phrase.run_memberTokens (Phrase.reads (.text valueUnits))
    (Option.map_eq_some_iff.mpr ⟨value, isValue, rfl⟩) fits awaits isKey rest

theorem run_textMembersFrom? {input : List Token} {members : List (String × String)}
    (read : textMembersFrom? input = some members) {room : Nat} {stack : List Reading.Frame}
    (fits : stack.length + 1 ≤ room) {stage : Reading.Stage} {merged : Members}
    (awaits : ∀ units,
      Reading.step room stack stage (.text units) =
        Reading.beginMember merged stack (.text units)) :
    Reading.run room stage stack input =
      Reading.resume room (Reading.deliver (.object (mergeTexts merged members)) stack) [] := by
  induction input using textMembersFrom?.induct generalizing members stage merged with
  | case1 keyUnits valueUnits =>
    rw [textMembersFrom?] at read
    simp only [Option.bind_eq_bind, Option.pure_def, Option.bind_eq_some_iff] at read
    obtain ⟨key, isKey, value, isValue, same⟩ := read
    obtain rfl := Option.some.inj same
    rw [run_textMember fits awaits isKey isValue, Reading.run_cons]
    rfl
  | case2 keyUnits valueUnits rest inductionHypothesis =>
    rw [textMembersFrom?] at read
    simp only [Option.bind_eq_bind, Option.pure_def, Option.bind_eq_some_iff] at read
    obtain ⟨key, isKey, value, isValue, further, readRest, same⟩ := read
    obtain rfl := Option.some.inj same
    rw [run_textMember fits awaits isKey isValue, Reading.run_cons, Reading.step, Reading.resume,
      inductionHypothesis readRest fun _ => rfl]
    rfl
  | case3 input notLast notMore =>
    rw [textMembersFrom?] at read
    · cases read
    · exact notLast
    · exact notMore

/-- An object of texts reads as the object with its members merged. -/
theorem ofText?_of_textMembers? {text : String} {members : List (String × String)}
    (read : textMembers? text = some members) :
    ofText? text = some (.object (mergeTexts [] members)) := by
  have whole : ofTokens? nestingLimit (tokens text.toList) =
      some (.object (mergeTexts [] members), []) := by
    rw [textMembers?] at read
    split at read
    · next found =>
      obtain rfl := Option.some.inj read
      rw [found]
      rfl
    · next rest _ found =>
      rw [found, ofTokens?, Reading.run_cons]
      exact run_textMembersFrom? read (by decide) fun _ => rfl
    · cases read
  rw [ofText?, whole]

/-! ### Quoted members -/

theorem textMembers?_of_tokens {text : String} {rest : List Token}
    {members : List (String × String)} (found : tokens text.toList = .openObject :: rest)
    (read : textMembersFrom? rest = some members) : textMembers? text = some members := by
  rw [textMembers?, found]
  split
  · next same =>
    cases same
    cases read
  · next same =>
    cases same
    exact read
  · next none => exact absurd rfl (none rest)

theorem textMembersFrom?_last {style : QuotingStyle} (legible : style.Legible) (key value : String)
    {rest : List Char} (ends : tokens rest = [.closeObject]) :
    textMembersFrom? (tokens (style.quote key ++ ':' :: (style.quote value ++ rest))) =
      some [(key, value)] := by
  rw [tokens_quote legible, tokens, tokens_quote legible, ends, textMembersFrom?]
  simp [text?_units]

theorem textMembersFrom?_cons {style : QuotingStyle} (legible : style.Legible) (key value : String)
    (rest : List Char) :
    textMembersFrom? (tokens (style.quote key ++ ':' :: (style.quote value ++ ',' :: rest))) =
      (textMembersFrom? (tokens rest)).map ((key, value) :: ·) := by
  rw [tokens_quote legible, tokens, tokens_quote legible, tokens, textMembersFrom?]
  simp only [text?_units]
  cases textMembersFrom? (tokens rest) <;> rfl

end Json

end Gateway
