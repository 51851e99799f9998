/-
This file reads a configuration from its text. The text is decoded while it is read, so a value of
the wrong shape is reported although the text behind it may be broken. Fields that are not known
are skipped, however deep they nest and whatever their texts and numerals say; a known field that
stands twice is an error. A text that is no JSON where it was read is broken, and says no more.
-/

import Gateway.Config
import Gateway.Json.Reader
import Gateway.Reports

namespace Gateway

/-- Why a text is no configuration. -/
inductive ConfigError
  /-- The text is not JSON. -/
  | broken
  /-- The text is of another shape. -/
  | shape (error : ShapeError)
  deriving DecidableEq

/-- A text that is no configuration, and why. -/
structure ConfigFailure where
  text : String
  cause : ConfigError

/-- The words for the failure. -/
def ConfigFailure.message [LibraryReports] (failure : ConfigFailure) : String :=
  match failure.cause with
  | .broken => withReason "Invalid config JSON" (LibraryReports.config failure.text)
  | .shape error =>
    withReason "Invalid config JSON" (some (error.message ++ LibraryReports.place failure.text))

namespace ConfigReader

/-- A token that a reader accepts wherever it accepts the given one, whatever that one says. -/
def harmless : Token → Token
  | .numeral _ => .null
  | .text _ => .text []
  | token => token

/-- The tokens behind a value that means nothing. -/
def skipValue (input : List Token) : Except ConfigError (List Token) :=
  match Json.ofTokens? input.length (input.map harmless) with
  | some (_, rest) => .ok (input.drop (input.length - rest.length))
  | none => .error .broken

/-- The error of a token that starts a value of another kind than the expected one. -/
def unexpected (token : Token) (expected : String) : ConfigError :=
  match token with
  | .null => .shape (.wrongKind .null expected)
  | .bool value => .shape (.wrongKind (.bool value) expected)
  | .numeral numeral =>
    match numeral.number? with
    | some number => .shape (.wrongKind (.number number) expected)
    | none => .broken
  | .text units =>
    match TextUnit.text? units with
    | some text => .shape (.wrongKind (.text text) expected)
    | none => .broken
  | .openArray => .shape (.wrongKind .sequence expected)
  | .openObject => .shape (.wrongKind .map expected)
  | _ => .broken

/-- A boolean. -/
def readBool : List Token → Except ConfigError (Bool × List Token)
  | .bool value :: rest => .ok (value, rest)
  | token :: _ => .error (unexpected token "a boolean")
  | [] => .error .broken

/-- A value that null leaves out, with room for so many containers. -/
def readOption (room : Nat) : List Token → Except ConfigError (Option Json × List Token)
  | .null :: rest => .ok (none, rest)
  | input =>
    match Json.ofTokens? room input with
    | some (value, rest) => .ok (some value, rest)
    | none => .error .broken

/-- How the value of a field is read into a record: with the tokens behind it. -/
abbrev FieldReader (α : Type) := α → String → List Token → Except ConfigError (α × List Token)

/-- The members of an object, from a key or the end of the object on. -/
def readMembers {α : Type} (shape : RecordShape) (readField : FieldReader α) :
    Nat → List String → α → List Token → Except ConfigError (α × List Token)
  | 0, _, _, _ => .error .broken
  | fuel + 1, seen, record, .text units :: afterKey =>
    match TextUnit.text? units with
    | none => .error .broken
    | some key =>
      if seen.contains key && shape.fields.contains key then
        .error (.shape (.duplicateField key))
      else
        match afterKey with
        | .colon :: rest => do
          let (record, rest) ←
            if shape.fields.contains key then readField record key rest
            else pure (record, ← skipValue rest)
          match rest with
          | .closeObject :: after => return (record, after)
          | .comma :: .text units :: after =>
            readMembers shape readField fuel (key :: seen) record (.text units :: after)
          | _ => throw .broken
        | _ => .error .broken
  | _ + 1, _, _, _ => .error .broken

/-- The items of an array as the fields of a record, from an item or the end of the array on. -/
def readItems {α : Type} (readField : FieldReader α) :
    List String → α → List Token → Except ConfigError (α × List Token)
  | [], record, .closeArray :: rest => .ok (record, rest)
  | [], _, _ => .error .broken
  | field :: fields, record, input => do
    let (record, rest) ← readField record field input
    match rest with
    | .closeArray :: after => return (record, after)
    | .comma :: .closeArray :: _ => throw .broken
    | .comma :: after =>
      match fields with
      | [] => throw .broken
      | _ => readItems readField fields record after
    | _ => throw .broken

/-- A record whose fields may all be missing. -/
def readRecord {α : Type} (shape : RecordShape) (readField : FieldReader α) (defaults : α) :
    List Token → Except ConfigError (α × List Token)
  | .openObject :: .closeObject :: rest => .ok (defaults, rest)
  | .openObject :: rest => readMembers shape readField (rest.length + 1) [] defaults rest
  | .openArray :: .closeArray :: rest => .ok (defaults, rest)
  | .openArray :: rest => readItems readField shape.fields defaults rest
  | token :: _ => .error (unexpected token shape.phrase)
  | [] => .error .broken

/-- The cache directives of a configuration, which stand inside two containers. -/
def readDirective (directives : Directives) (field : String) (input : List Token) :
    Except ConfigError (Directives × List Token) := do
  let (value, rest) ← readOption (Json.nestingLimit - 2) input
  return (if field = "maxAge" then { directives with maxAge := value }
    else { directives with sharedMaxAge := value }, rest)

/-- The fields of a configuration. -/
def readField (config : Config) (field : String) (input : List Token) :
    Except ConfigError (Config × List Token) := do
  if field = "debugEnabled" then
    let (value, rest) ← readBool input
    return ({ config with debugEnabled := value }, rest)
  else
    let (value, rest) ← readRecord (Directives.shape "CacheDefaults") readDirective {} input
    return ({ config with defaults := value }, rest)

end ConfigReader

namespace Config

/-- The shape of a configuration. -/
def shape : RecordShape := ⟨"GatewayConfig", ["debugEnabled", "cacheControl"], []⟩

/-- The configuration that tokens write. -/
def ofTokens (input : List Token) : Except ConfigError Config := do
  let (config, rest) ← ConfigReader.readRecord shape ConfigReader.readField {} input
  if rest.isEmpty then return config else throw .broken

/-- The configuration that a text writes. -/
def ofText (text : String) : Except ConfigFailure Config :=
  (ofTokens (tokens text.toList)).mapError fun cause => ⟨text, cause⟩

end Config

end Gateway
