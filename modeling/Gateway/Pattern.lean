/-
This file defines patterns. A pattern is a text that writes a regular expression, kept together
with the expression, so a pattern is determined by its text and making it again from its text
changes nothing.
-/

import Gateway.Pattern.Occurrence
import Gateway.Pattern.Reader

namespace Gateway

/-- A text that writes a regular expression, and the expression. -/
structure Pattern where
  source : String
  expression : Expr
  reads : PatternReader.read source = some expression

namespace Pattern

/-- The pattern of a text, when it writes one. -/
def compile? (source : String) : Option Pattern :=
  match reads : PatternReader.read source with
  | some expression => some ⟨source, expression, reads⟩
  | none => none

/-- Whether the pattern occurs in the text. -/
def isMatch (pattern : Pattern) (text : String) : Bool :=
  pattern.expression.occursIn text

theorem source_of_compile? {source : String} {pattern : Pattern}
    (compiled : compile? source = some pattern) : pattern.source = source := by
  unfold compile? at compiled
  split at compiled
  · rw [← Option.some.inj compiled]
  · cases compiled

/-- Making a pattern again from its text gives the same pattern. -/
theorem compile?_source (pattern : Pattern) : compile? pattern.source = some pattern := by
  obtain ⟨source, expression, reads⟩ := pattern
  unfold compile?
  split
  · rename_i other readsOther
    have same : other = expression := Option.some.inj (readsOther.symm.trans reads)
    subst same
    rfl
  · rename_i failed
    rw [reads] at failed
    cases failed

end Pattern

end Gateway
