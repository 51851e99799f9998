/-
This file writes text between double quotes. A style names the characters that have a one-letter
escape and those that are written as four hexadecimal digits; all others stand for themselves.
Escaping is given for one character and lifted to a text, so that the escape of a text is the
escapes of its characters in their order.
-/

import Gateway.Text.Hexadecimal

namespace Gateway.Text

/-- Which characters a quoted text escapes, and how. -/
structure QuotingStyle where
  /-- The letter after the backslash, for characters that have one. -/
  letter : Char → Option Char
  /-- The remaining characters that are written as a backslash, `u` and four digits. -/
  numbered : Char → Bool

namespace QuotingStyle

/-- A character as it stands between the quotes. -/
def escape (style : QuotingStyle) (character : Char) : List Char :=
  match style.letter character with
  | some letter => ['\\', letter]
  | none =>
    if style.numbered character then '\\' :: 'u' :: hexFour character.toNat else [character]

/-- A text as it stands between the quotes. -/
def escapeAll (style : QuotingStyle) (text : List Char) : List Char :=
  text.flatMap style.escape

/-- A text with its quotes. -/
def quote (style : QuotingStyle) (text : String) : List Char :=
  '"' :: (style.escapeAll text.toList ++ ['"'])

@[simp] theorem escapeAll_nil (style : QuotingStyle) : style.escapeAll [] = [] := rfl

theorem escapeAll_cons (style : QuotingStyle) (character : Char) (rest : List Char) :
    style.escapeAll (character :: rest) = style.escape character ++ style.escapeAll rest := rfl

/-- JSON text has letters for the quote, the backslash and five control characters, and numbers
the other control characters below the space. -/
def json : QuotingStyle where
  letter
    | '"' => some '"'
    | '\\' => some '\\'
    | '\x08' => some 'b'
    | '\x0c' => some 'f'
    | '\n' => some 'n'
    | '\r' => some 'r'
    | '\t' => some 't'
    | _ => none
  numbered character := character.toNat < 0x20

/-- A log line has letters for the quote, the backslash and three control characters, and numbers
every other control character, those after the tilde included. -/
def log : QuotingStyle where
  letter
    | '"' => some '"'
    | '\\' => some '\\'
    | '\n' => some 'n'
    | '\r' => some 'r'
    | '\t' => some 't'
    | _ => none
  numbered character :=
    character.toNat < 0x20 || (0x7F ≤ character.toNat && character.toNat ≤ 0x9F)

end QuotingStyle

end Gateway.Text
