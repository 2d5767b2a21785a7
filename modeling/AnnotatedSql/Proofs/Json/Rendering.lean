/-
This file shows that both renderings of a JSON value are texts of this value, and that they differ
only in white space outside of string literals.
-/

import AnnotatedSql.Proofs.Json.Reading

namespace AnnotatedSql.Json

/-! ### The pieces of a value -/

mutual

/-- The pieces of a rendering, in front of the pieces that follow it. -/
def piecesBefore : Json → List Piece → List Piece
  | .null, after => .null :: after
  | .boolean value, after => .boolean value :: after
  | .integer value, after => .integer value :: after
  | .string text, after => .string text :: after
  | .array [], after => .openArray :: .closeArray :: after
  | .array (first :: rest), after => .openArray :: piecesBefore first (itemPieces rest after)
  | .object [], after => .openObject :: .closeObject :: after
  | .object ((key, value) :: rest), after =>
      .openObject :: .string key.toList :: .colon :: piecesBefore value (fieldPieces rest after)

/-- The items after the first, and the closing bracket. -/
def itemPieces : List Json → List Piece → List Piece
  | [], after => .closeArray :: after
  | item :: rest, after => .comma :: piecesBefore item (itemPieces rest after)

/-- The fields after the first, and the closing brace. -/
def fieldPieces : List (String × Json) → List Piece → List Piece
  | [], after => .closeObject :: after
  | (key, value) :: rest, after =>
      .comma :: .string key.toList :: .colon :: piecesBefore value (fieldPieces rest after)

end

mutual

/-- The pieces of a value are put together to it again. -/
theorem readValue_pieces : ∀ (value : Json) (frames : List Frame) (after : List Piece),
    readValue frames (piecesBefore value after) = readRest frames value after
  | .null, frames, after => by rw [piecesBefore, readValue]
  | .boolean value, frames, after => by rw [piecesBefore, readValue]
  | .integer value, frames, after => by rw [piecesBefore, readValue]
  | .string text, frames, after => by rw [piecesBefore, readValue]
  | .array [], frames, after => by rw [piecesBefore, readValue, readValue]
  | .array (first :: rest), frames, after => by
      rw [piecesBefore, readValue, readValue_pieces first, readRest_items rest [] first]
      rfl
  | .object [], frames, after => by rw [piecesBefore, readValue]
  | .object ((key, value) :: rest), frames, after => by
      rw [piecesBefore, readValue, String.ofList_toList, readValue_pieces value,
        readRest_fields rest [] key value]
      rfl

theorem readRest_items : ∀ (rest before : List Json) (item : Json) (frames : List Frame)
    (after : List Piece), readRest (.items before :: frames) item (itemPieces rest after) =
      readRest frames (.array (before ++ item :: rest)) after
  | [], before, item, frames, after => by rw [itemPieces, readRest]
  | next :: rest, before, item, frames, after => by
      rw [itemPieces, readRest, readValue_pieces next, readRest_items rest, List.append_assoc]
      rfl

theorem readRest_fields : ∀ (rest before : List (String × Json)) (key : String) (value : Json)
    (frames : List Frame) (after : List Piece),
    readRest (.fields before key :: frames) value (fieldPieces rest after) =
      readRest frames (.object (before ++ (key, value) :: rest)) after
  | [], before, key, value, frames, after => by rw [fieldPieces, readRest]
  | (next, further) :: rest, before, key, value, frames, after => by
      rw [fieldPieces, readRest, String.ofList_toList, readValue_pieces further,
        readRest_fields rest, List.append_assoc]
      rfl

end

/-! ### White space between pieces -/

mutual

/-- The text without the white space outside of string literals. -/
def squeeze : Text → Text
  | [] => []
  | character :: rest =>
      if isSpace character then squeeze rest
      else if character = '"' then character :: squeezeLiteral rest
      else character :: squeeze rest

/-- Inside a literal everything is kept up to a quote that is not escaped. -/
def squeezeLiteral : Text → Text
  | [] => []
  | '"' :: rest => '"' :: squeeze rest
  | '\\' :: character :: rest => '\\' :: character :: squeezeLiteral rest
  | character :: rest => character :: squeezeLiteral rest

end

variable {character : Char} {text after : Text} {row : List Piece}

theorem squeeze_plain (plain : text.all isPlain = true) :
    squeeze (text ++ after) = text ++ squeeze after := by
  induction text with
  | nil => rfl
  | cons first rest ih =>
      rw [List.all_cons, Bool.and_eq_true] at plain
      obtain ⟨solid, unquoted, _⟩ := isPlain_parts plain.1
      rw [List.cons_append, squeeze, solid, if_neg Bool.false_ne_true, if_neg unquoted, ih plain.2]
      rfl

theorem squeezeLiteral_other (unquoted : character ≠ '"') (unescaped : character ≠ '\\') :
    squeezeLiteral (character :: after) = character :: squeezeLiteral after :=
  squeezeLiteral.eq_4 character after unquoted fun _ _ starts _ => unescaped starts

theorem squeezeLiteral_escapeCharacter (character : Char) :
    squeezeLiteral (escapeCharacter character ++ after) =
      escapeCharacter character ++ squeezeLiteral after := by
  unfold escapeCharacter
  split
  · rfl
  · next unmarked =>
      simp only [Bool.or_eq_true, beq_iff_eq, not_or] at unmarked
      repeat
        split
        · rfl
      split
      · next control =>
          have digit : ∀ value < 16, Nat.digitChar value ≠ '"' ∧ Nat.digitChar value ≠ '\\' := by
            decide
          have high := digit (character.toNat / 16) (by omega)
          have low := digit (character.toNat % 16) (by omega)
          simp only [List.cons_append, List.nil_append]
          rw [squeezeLiteral, squeezeLiteral_other (by decide) (by decide),
            squeezeLiteral_other (by decide) (by decide), squeezeLiteral_other high.1 high.2,
            squeezeLiteral_other low.1 low.2]
      · exact squeezeLiteral_other unmarked.1 unmarked.2

theorem squeeze_stringText (text : Text) :
    squeeze (stringText text ++ after) = stringText text ++ squeeze after := by
  have contents : squeezeLiteral (text.flatMap escapeCharacter ++ '"' :: after) =
      text.flatMap escapeCharacter ++ '"' :: squeeze after := by
    induction text with
    | nil => rfl
    | cons first rest ih =>
        rw [List.flatMap_cons, List.append_assoc, squeezeLiteral_escapeCharacter, ih,
          List.append_assoc]
  rw [stringText, List.append_assoc, List.append_assoc]
  exact congrArg ('"' :: ·) contents

theorem squeeze_text (piece : Piece) :
    squeeze (piece.text ++ after) = piece.text ++ squeeze after := by
  by_cases isWord : piece.isWord = true
  · exact squeeze_plain (isPlain_of_isWord isWord)
  · cases piece with
    | string text => exact squeeze_stringText text
    | null | boolean value | integer value => exact absurd rfl isWord
    | _ => rfl

/-! ### Layouts -/

/-- A text lays out pieces one after the other, with white space between them as it likes; only a
word has to be kept apart from what follows. -/
inductive Layout : List Piece → Text → Prop
  | nil : Layout [] []
  | space {character : Char} {row : List Piece} {text : Text} :
      isSpace character = true → Layout row text → Layout row (character :: text)
  | piece {row : List Piece} {text : Text} (piece : Piece) :
      (piece.isWord = true → Ends text) → Layout row text →
      Layout (piece :: row) (piece.text ++ text)

namespace Layout

/-- Whatever the white space, the same pieces are read. -/
theorem reads (layout : Layout row text) : Reading.between.pieces? text = some row := by
  induction layout with
  | nil => rfl
  | space space _ ih =>
      rw [Reading.pieces_within .between
        (by rw [Reading.step?, Reading.start, if_pos space]), ih]
  | piece piece ends _ ih =>
      rw [Reading.pieces_text piece ends, ih]
      rfl

/-- Without their white space, all layouts of the same pieces are the same. -/
theorem squeezed (layout : Layout row text) : squeeze text = row.flatMap Piece.text := by
  induction layout with
  | nil => rfl
  | space space _ ih => rw [squeeze, if_pos space, ih]
  | piece piece _ _ ih => rw [squeeze_text, ih, List.flatMap_cons]

theorem key (key : String) (layout : Layout row text) :
    Layout (.string key.toList :: .colon :: row) (keyText key ++ text) := by
  rw [keyText, List.append_assoc]
  exact .piece (.string key.toList) nofun (.piece .colon nofun layout)

theorem newLine (depth : Nat) (layout : Layout row text) :
    Layout row (Json.newLine depth ++ text) := by
  refine .space rfl ?_
  change Layout row (List.replicate (2 * depth) ' ' ++ text)
  induction 2 * depth with
  | zero => exact layout
  | succ blanks ih => exact .space rfl ih

/-- White space may follow the last piece. -/
theorem concat (space : isSpace character = true) (layout : Layout row text) :
    Layout row (text ++ [character]) := by
  induction layout with
  | nil => exact .space space .nil
  | space first _ ih => exact .space first ih
  | @piece row text piece ends _ ih =>
      rw [List.append_assoc]
      refine .piece piece (fun word => ?_) ih
      cases text with
      | nil => exact .cons (by rw [isPlain, space]; rfl)
      | cons first rest => exact .cons (ends word first rfl)

end Layout

/-! ### The two renderings

What follows a value in a rendering starts with a comma, a closing bracket or a new line, so that a
word never runs on into it. -/

theorem compactItems_ends (rest : List Json) : Ends (compactItems rest after) := by
  cases rest <;> exact .cons rfl

theorem compactFields_ends (rest : List (String × Json)) : Ends (compactFields rest after) := by
  cases rest <;> exact .cons rfl

theorem prettyItems_ends {depth : Nat} (rest : List Json) :
    Ends (prettyItems depth rest after) := by
  cases rest <;> exact .cons rfl

theorem prettyFields_ends {depth : Nat} (rest : List (String × Json)) :
    Ends (prettyFields depth rest after) := by
  cases rest <;> exact .cons rfl

mutual

theorem compact_layout {row : List Piece} {after : Text} : ∀ value : Json, Ends after →
    Layout row after → Layout (piecesBefore value row) (compactBefore value after)
  | .null, ends, layout => .piece .null (fun _ => ends) layout
  | .boolean value, ends, layout => .piece (.boolean value) (fun _ => ends) layout
  | .integer value, ends, layout => .piece (.integer value) (fun _ => ends) layout
  | .string text, _, layout => .piece (.string text) nofun layout
  | .array [], _, layout => .piece .openArray nofun (.piece .closeArray nofun layout)
  | .array (first :: rest), _, layout =>
      .piece .openArray nofun
        (compact_layout first (compactItems_ends rest) (compactItems_layout rest layout))
  | .object [], _, layout => .piece .openObject nofun (.piece .closeObject nofun layout)
  | .object ((key, value) :: rest), _, layout =>
      .piece .openObject nofun (.key key
        (compact_layout value (compactFields_ends rest) (compactFields_layout rest layout)))

theorem compactItems_layout {row : List Piece} {after : Text} : ∀ rest : List Json,
    Layout row after → Layout (itemPieces rest row) (compactItems rest after)
  | [], layout => .piece .closeArray nofun layout
  | item :: rest, layout =>
      .piece .comma nofun
        (compact_layout item (compactItems_ends rest) (compactItems_layout rest layout))

theorem compactFields_layout {row : List Piece} {after : Text} :
    ∀ rest : List (String × Json), Layout row after →
      Layout (fieldPieces rest row) (compactFields rest after)
  | [], layout => .piece .closeObject nofun layout
  | (key, value) :: rest, layout =>
      .piece .comma nofun (.key key
        (compact_layout value (compactFields_ends rest) (compactFields_layout rest layout)))

end

mutual

theorem pretty_layout {row : List Piece} {after : Text} : ∀ (value : Json) (depth : Nat),
    Ends after → Layout row after → Layout (piecesBefore value row) (prettyBefore depth value after)
  | .null, _, ends, layout => .piece .null (fun _ => ends) layout
  | .boolean value, _, ends, layout => .piece (.boolean value) (fun _ => ends) layout
  | .integer value, _, ends, layout => .piece (.integer value) (fun _ => ends) layout
  | .string text, _, _, layout => .piece (.string text) nofun layout
  | .array [], _, _, layout => .piece .openArray nofun (.piece .closeArray nofun layout)
  | .array (first :: rest), depth, _, layout =>
      .piece .openArray nofun (.newLine (depth + 1)
        (pretty_layout first _ (prettyItems_ends rest) (prettyItems_layout rest depth layout)))
  | .object [], _, _, layout => .piece .openObject nofun (.piece .closeObject nofun layout)
  | .object ((key, value) :: rest), depth, _, layout =>
      .piece .openObject nofun (.newLine (depth + 1) (.key key (.space rfl
        (pretty_layout value _ (prettyFields_ends rest) (prettyFields_layout rest depth layout)))))

theorem prettyItems_layout {row : List Piece} {after : Text} :
    ∀ (rest : List Json) (depth : Nat), Layout row after →
      Layout (itemPieces rest row) (prettyItems depth rest after)
  | [], depth, layout => .newLine depth (.piece .closeArray nofun layout)
  | item :: rest, depth, layout =>
      .piece .comma nofun (.newLine (depth + 1)
        (pretty_layout item _ (prettyItems_ends rest) (prettyItems_layout rest depth layout)))

theorem prettyFields_layout {row : List Piece} {after : Text} :
    ∀ (rest : List (String × Json)) (depth : Nat), Layout row after →
      Layout (fieldPieces rest row) (prettyFields depth rest after)
  | [], depth, layout => .newLine depth (.piece .closeObject nofun layout)
  | (key, value) :: rest, depth, layout =>
      .piece .comma nofun (.newLine (depth + 1) (.key key (.space rfl
        (pretty_layout value _ (prettyFields_ends rest) (prettyFields_layout rest depth layout)))))

end

mutual

/-- The compact rendering is nothing but its pieces. -/
theorem compactBefore_text {row : List Piece} : ∀ value : Json,
    (piecesBefore value row).flatMap Piece.text = compactBefore value (row.flatMap Piece.text)
  | .null => rfl
  | .boolean _ => rfl
  | .integer _ => rfl
  | .string _ => rfl
  | .array [] => rfl
  | .array (first :: rest) => by
      rw [piecesBefore, List.flatMap_cons, compactBefore_text first, compactItems_text rest]
      rfl
  | .object [] => rfl
  | .object ((key, value) :: rest) => by
      rw [piecesBefore, List.flatMap_cons, List.flatMap_cons, List.flatMap_cons,
        compactBefore_text value, compactFields_text rest, compactBefore, keyText,
        List.append_assoc]
      rfl

theorem compactItems_text {row : List Piece} : ∀ rest : List Json,
    (itemPieces rest row).flatMap Piece.text = compactItems rest (row.flatMap Piece.text)
  | [] => rfl
  | item :: rest => by
      rw [itemPieces, List.flatMap_cons, compactBefore_text item, compactItems_text rest]
      rfl

theorem compactFields_text {row : List Piece} : ∀ rest : List (String × Json),
    (fieldPieces rest row).flatMap Piece.text = compactFields rest (row.flatMap Piece.text)
  | [] => rfl
  | (key, value) :: rest => by
      rw [fieldPieces, List.flatMap_cons, List.flatMap_cons, List.flatMap_cons,
        compactBefore_text value, compactFields_text rest, compactFields, keyText,
        List.append_assoc]
      rfl

end

variable {value : Json}

/-- A layout of a value's pieces is a text of the value, and its white space is all that it has
more than the compact rendering. -/
theorem Layout.of_value (layout : Layout (piecesBefore value []) text) :
    read? text = some value ∧ squeeze text = value.compact := by
  constructor
  · rw [read?, layout.reads, Option.bind_some, readValue_pieces, readRest]
  · rw [layout.squeezed, compactBefore_text]
    rfl

theorem layout_compact (value : Json) : Layout (piecesBefore value []) value.compact :=
  compact_layout value nofun .nil

theorem layout_pretty (value : Json) : Layout (piecesBefore value []) value.pretty :=
  pretty_layout value 0 nofun .nil

end AnnotatedSql.Json
