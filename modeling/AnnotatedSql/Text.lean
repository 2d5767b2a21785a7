/-
This file fixes what a text is and how its characters are counted in bytes.
-/

namespace AnnotatedSql

/-- A text is the list of its characters. -/
abbrev Text := List Char

namespace Text

/-- The number of bytes of the text in UTF-8. -/
def byteLength : Text → Nat
  | [] => 0
  | character :: rest => character.utf8Size + byteLength rest

/-- What remains after exactly the given number of bytes; a character is never split. -/
def dropBytes? : Nat → Text → Option Text
  | 0, text => some text
  | _ + 1, [] => none
  | count + 1, character :: rest =>
      if character.utf8Size ≤ count + 1 then
        dropBytes? (count + 1 - character.utf8Size) rest
      else
        none

/-- The start of the text that takes exactly the given number of bytes. -/
def takeBytes? : Nat → Text → Option Text
  | 0, _ => some []
  | _ + 1, [] => none
  | count + 1, character :: rest =>
      if character.utf8Size ≤ count + 1 then
        (takeBytes? (count + 1 - character.utf8Size) rest).map (character :: ·)
      else
        none

/-- ASCII letters become capitals; every other character stays. -/
def upper (text : Text) : Text := text.map Char.toUpper

@[simp] theorem byteLength_nil : byteLength [] = 0 := rfl

@[simp] theorem byteLength_cons (character : Char) (rest : Text) :
    byteLength (character :: rest) = character.utf8Size + byteLength rest := rfl

@[simp] theorem byteLength_append (first second : Text) :
    byteLength (first ++ second) = byteLength first + byteLength second := by
  induction first with
  | nil => simp
  | cons character rest ih => simp [ih, Nat.add_assoc]

/-- Dropping the bytes of a leading text leaves what follows it. -/
@[simp] theorem dropBytes_append (first second : Text) :
    dropBytes? (byteLength first) (first ++ second) = some second := by
  induction first with
  | nil => simp [dropBytes?]
  | cons character rest ih =>
      have positive := character.utf8Size_pos
      obtain ⟨count, countEq⟩ : ∃ count, byteLength (character :: rest) = count + 1 :=
        ⟨byteLength (character :: rest) - 1, by simp; omega⟩
      have fits : character.utf8Size ≤ count + 1 := by simp at countEq; omega
      have left : count + 1 - character.utf8Size = byteLength rest := by simp at countEq; omega
      rw [countEq, List.cons_append, dropBytes?, if_pos fits, left, ih]

/-- Taking the bytes of a leading text gives that text. -/
@[simp] theorem takeBytes_append (first second : Text) :
    takeBytes? (byteLength first) (first ++ second) = some first := by
  induction first with
  | nil => simp [takeBytes?]
  | cons character rest ih =>
      have positive := character.utf8Size_pos
      obtain ⟨count, countEq⟩ : ∃ count, byteLength (character :: rest) = count + 1 :=
        ⟨byteLength (character :: rest) - 1, by simp; omega⟩
      have fits : character.utf8Size ≤ count + 1 := by simp at countEq; omega
      have left : count + 1 - character.utf8Size = byteLength rest := by simp at countEq; omega
      rw [countEq, List.cons_append, takeBytes?, if_pos fits, left, ih]
      rfl

end Text

end AnnotatedSql
