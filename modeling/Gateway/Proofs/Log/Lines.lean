/-
This file says what a log line tells. A line ends at its only line feed, and before it stands one
object of texts, which names the event, the severity and then the fields in the order of their keys.
Every text in it reads as what was logged, whatever it holds, so the line tells the entry up to the
order of fields with different keys, and nothing that is logged can end it, begin another one or
pass for a part of it.
-/

import Gateway.Proofs.Json.TextMembers
import Gateway.Proofs.Log.Fields

namespace Gateway

open Text (QuotingStyle)

theorem Severity.name_injective {first second : Severity} (same : first.name = second.name) :
    first = second := by
  cases first <;> cases second <;>
    first
    | rfl
    | simp [name] at same

namespace LogEntry

/-! ### The text of a line -/

/-- The members after the first, each behind a comma, and the brace behind them. -/
def closingChars : List (String × String) → List Char
  | [] => ['\x7d']
  | member :: rest => ',' :: (memberChars member ++ closingChars rest)

theorem restChars_eq (members : List (String × String)) :
    restChars members = closingChars members ++ ['\n'] := by
  induction members with
  | nil => rfl
  | cons member rest inductionHypothesis =>
    rw [restChars, inductionHypothesis, closingChars, List.cons_append, List.append_assoc]

/-- The line without its line feed. -/
def text (entry : LogEntry) : List Char :=
  '\x7b' :: (memberChars ("event", entry.event) ++
    closingChars (("severity", entry.severity.name) :: sortFields entry.fields))

theorem line_eq (entry : LogEntry) : entry.line = String.ofList (entry.text ++ ['\n']) := by
  rw [line, restChars_eq, text, List.cons_append, List.append_assoc]

theorem printed_of_mem_memberChars {member : String × String} {character : Char}
    (inside : character ∈ memberChars member) : 0x20 ≤ character.toNat := by
  rw [memberChars, List.mem_append, List.mem_cons] at inside
  rcases inside with inKey | rfl | inValue
  · exact QuotingStyle.printed_of_mem_quote QuotingStyle.legible_log inKey
  · decide
  · exact QuotingStyle.printed_of_mem_quote QuotingStyle.legible_log inValue

theorem printed_of_mem_closingChars {members : List (String × String)} {character : Char}
    (inside : character ∈ closingChars members) : 0x20 ≤ character.toNat := by
  induction members with
  | nil =>
    obtain rfl := List.mem_singleton.mp inside
    decide
  | cons member rest inductionHypothesis =>
    rw [closingChars, List.mem_cons, List.mem_append] at inside
    rcases inside with rfl | inMember | inRest
    · decide
    · exact printed_of_mem_memberChars inMember
    · exact inductionHypothesis inRest

/-- No control character stands in a line before its end. -/
theorem printed_of_mem_text {entry : LogEntry} {character : Char}
    (inside : character ∈ entry.text) : 0x20 ≤ character.toNat := by
  rw [text, List.mem_cons, List.mem_append] at inside
  rcases inside with rfl | inMember | inRest
  · decide
  · exact printed_of_mem_memberChars inMember
  · exact printed_of_mem_closingChars inRest

/-! ### What a line tells -/

theorem textMembersFrom?_memberChars (member : String × String)
    (members : List (String × String)) :
    Json.textMembersFrom? (tokens (memberChars member ++ closingChars members)) =
      some (member :: members) := by
  induction members generalizing member with
  | nil =>
    rw [memberChars, closingChars, List.append_assoc, List.cons_append]
    exact Json.textMembersFrom?_last QuotingStyle.legible_log _ _ (by rw [tokens, tokens])
  | cons next rest inductionHypothesis =>
    rw [memberChars, closingChars, List.append_assoc, List.cons_append,
      Json.textMembersFrom?_cons QuotingStyle.legible_log, inductionHypothesis]
    rfl

/-- A line reads as the members that were written. -/
theorem textMembers?_text (entry : LogEntry) :
    Json.textMembers? (String.ofList entry.text) = some entry.members := by
  refine Json.textMembers?_of_tokens ?_ (textMembersFrom?_memberChars _ _)
  rw [String.toList_ofList, text, tokens]

/-- Two entries are written alike exactly where they are the same up to the order of fields with
different keys. -/
theorem line_eq_line_iff {entry other : LogEntry} :
    entry.line = other.line ↔
      entry.severity = other.severity ∧ entry.event = other.event ∧
        sortFields entry.fields = sortFields other.fields := by
  constructor
  · intro same
    rw [line_eq, line_eq, String.ofList_inj] at same
    have told := textMembers?_text entry
    rw [List.append_cancel_right same, textMembers?_text other] at told
    obtain ⟨event, further⟩ := List.cons.inj (Option.some.inj told)
    obtain ⟨severity, fields⟩ := List.cons.inj further
    exact ⟨(Severity.name_injective (Prod.mk.inj severity).2).symm, (Prod.mk.inj event).2.symm,
      fields.symm⟩
  · rintro ⟨severity, event, fields⟩
    rw [line, line, severity, event, fields]

/-- What a line tells, whatever is logged. It ends at its only line feed; the rest reads as an
object of the event, the severity and the fields in the order of the octets of their keys, every
text as it was logged; so two lines are the same exactly where these are, and of fields with
different keys the order does not count. -/
theorem line_meaning (entry : LogEntry) :
    (∃ body, entry.line = String.ofList (body ++ ['\n']) ∧ '\n' ∉ body ∧
      (∃ members, Json.ofText? (String.ofList body) = some (.object members)) ∧
      ∃ sorted, StablySorted entry.fields sorted ∧
        Json.textMembers? (String.ofList body) =
          some (("event", entry.event) :: ("severity", entry.severity.name) :: sorted)) ∧
    (∀ (other : LogEntry) sorted otherSorted, StablySorted entry.fields sorted →
      StablySorted other.fields otherSorted →
      (entry.line = other.line ↔
        entry.severity = other.severity ∧ entry.event = other.event ∧ sorted = otherSorted)) ∧
    ∀ fields, fields.Perm entry.fields → (fields.map Prod.fst).Nodup →
      (LogEntry.mk entry.severity entry.event fields).line = entry.line := by
  refine ⟨⟨entry.text, line_eq entry, fun inside => ?_, ?_, ?_⟩, ?_, ?_⟩
  · exact absurd (printed_of_mem_text inside) (by decide)
  · exact ⟨_, Json.ofText?_of_textMembers? (textMembers?_text entry)⟩
  · exact ⟨sortFields entry.fields, stablySorted_sortFields entry.fields, textMembers?_text entry⟩
  · intro other sorted otherSorted isSorted isOtherSorted
    rw [stablySorted_iff.mp isSorted, stablySorted_iff.mp isOtherSorted]
    exact line_eq_line_iff
  · intro fields permuted distinct
    exact line_eq_line_iff.mpr ⟨rfl, rfl, sortFields_eq_of_perm permuted distinct⟩

/-- An entry whose texts hold a line feed, a quote and what looks like the next member. -/
def forged : LogEntry :=
  ⟨.error, "A\",\"severity\":\"INFO", [("reason", "\n\x7d"), ("code", "\x85")]⟩

theorem line_meaning_forged :
    (LogEntry.mk .error forged.event [("code", "\x85"), ("reason", "\n\x7d")]).line = forged.line ∧
      (LogEntry.mk .info "A" forged.fields).line ≠ forged.line := by
  obtain ⟨-, -, permuted⟩ := line_meaning forged
  obtain ⟨-, alike, -⟩ := line_meaning (LogEntry.mk .info "A" forged.fields)
  refine ⟨permuted _ (.swap _ _ _) (by decide), fun same => ?_⟩
  have sorted := stablySorted_sortFields forged.fields
  cases ((alike forged _ _ sorted sorted).mp same).1

end LogEntry

end Gateway
