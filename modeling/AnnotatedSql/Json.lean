/-
This file holds JSON values and their two renderings.
-/

import AnnotatedSql.Text

namespace AnnotatedSql

/-- The fields of an object keep their order. -/
inductive Json
  | null
  | boolean (value : Bool)
  | integer (value : Int)
  | string (text : Text)
  | array (items : List Json)
  | object (fields : List (String × Json))

namespace Json

instance : Inhabited Json := ⟨.null⟩

/-- Quotes, backslashes and controls are escaped; every other character stands for itself. -/
def escapeCharacter (character : Char) : Text :=
  if character == '"' || character == '\\' then ['\\', character]
  else if character == '\x08' then ['\\', 'b']
  else if character == '\t' then ['\\', 't']
  else if character == '\n' then ['\\', 'n']
  else if character == '\x0c' then ['\\', 'f']
  else if character == '\r' then ['\\', 'r']
  else if character.toNat < 32 then
    ['\\', 'u', '0', '0', Nat.digitChar (character.toNat / 16),
      Nat.digitChar (character.toNat % 16)]
  else [character]

def stringText (text : Text) : Text := '"' :: text.flatMap escapeCharacter ++ ['"']

def integerText (value : Int) : Text := (toString value).toList

def booleanText (value : Bool) : Text := (toString value).toList

/-- A key and its colon. -/
def keyText (key : String) : Text := stringText key.toList ++ [':']

mutual

/-- The rendering without any white space, in front of a text that follows it. -/
def compactBefore : Json → Text → Text
  | .null, after => "null".toList ++ after
  | .boolean value, after => booleanText value ++ after
  | .integer value, after => integerText value ++ after
  | .string text, after => stringText text ++ after
  | .array [], after => '[' :: ']' :: after
  | .array (first :: rest), after => '[' :: compactBefore first (compactItems rest after)
  | .object [], after => '\x7b' :: '\x7d' :: after
  | .object ((key, value) :: rest), after =>
      '\x7b' :: (keyText key ++ compactBefore value (compactFields rest after))

/-- The items after the first, and the closing bracket. -/
def compactItems : List Json → Text → Text
  | [], after => ']' :: after
  | item :: rest, after => ',' :: compactBefore item (compactItems rest after)

/-- The fields after the first, and the closing brace. -/
def compactFields : List (String × Json) → Text → Text
  | [], after => '\x7d' :: after
  | (key, value) :: rest, after =>
      ',' :: (keyText key ++ compactBefore value (compactFields rest after))

end

/-- The rendering without any white space. -/
def compact (value : Json) : Text := compactBefore value []

/-- The start of a line, two blanks deeper for each level. -/
def newLine (depth : Nat) : Text := '\n' :: List.replicate (2 * depth) ' '

mutual

/-- The rendering with a line for every item and field, in front of a text that follows it. -/
def prettyBefore : Nat → Json → Text → Text
  | _, .null, after => "null".toList ++ after
  | _, .boolean value, after => booleanText value ++ after
  | _, .integer value, after => integerText value ++ after
  | _, .string text, after => stringText text ++ after
  | _, .array [], after => '[' :: ']' :: after
  | depth, .array (first :: rest), after =>
      '[' :: (newLine (depth + 1) ++
        prettyBefore (depth + 1) first (prettyItems depth rest after))
  | _, .object [], after => '\x7b' :: '\x7d' :: after
  | depth, .object ((key, value) :: rest), after =>
      '\x7b' :: (newLine (depth + 1) ++ (keyText key ++
        ' ' :: prettyBefore (depth + 1) value (prettyFields depth rest after)))

/-- The items after the first, and the closing bracket. -/
def prettyItems : Nat → List Json → Text → Text
  | depth, [], after => newLine depth ++ ']' :: after
  | depth, item :: rest, after =>
      ',' :: (newLine (depth + 1) ++
        prettyBefore (depth + 1) item (prettyItems depth rest after))

/-- The fields after the first, and the closing brace. -/
def prettyFields : Nat → List (String × Json) → Text → Text
  | depth, [], after => newLine depth ++ '\x7d' :: after
  | depth, (key, value) :: rest, after =>
      ',' :: (newLine (depth + 1) ++ (keyText key ++
        ' ' :: prettyBefore (depth + 1) value (prettyFields depth rest after)))

end

/-- The rendering over several lines. -/
def pretty (value : Json) : Text := prettyBefore 0 value []

/-- A value, or null without one. -/
def ofOption {Value : Type} (encode : Value → Json) : Option Value → Json
  | none => .null
  | some value => encode value

def ofNat (value : Nat) : Json := .integer value

/-- Text that is fixed beforehand. -/
def ofWord (word : String) : Json := .string word.toList

/-- An object with a single field that names a case. -/
def tagged (tag : String) (value : Json) : Json := .object [(tag, value)]

end Json

end AnnotatedSql
