/-
This file splits off the blanks and the comments in front of a token.
-/

import AnnotatedSql.Text.CharacterClass

namespace AnnotatedSql.Trivia

/-- The rest of a block comment, up to the first closing mark or to the end. -/
def splitBlockComment : Text → Text × Text
  | [] => ([], [])
  | '*' :: '/' :: rest => (['*', '/'], rest)
  | character :: rest =>
      let split := splitBlockComment rest
      (character :: split.1, split.2)

theorem splitBlockComment_append (text : Text) :
    (splitBlockComment text).1 ++ (splitBlockComment text).2 = text := by
  fun_induction splitBlockComment text with
  | case1 => rfl
  | case2 rest => rfl
  | case3 character rest _ split ih => simpa [split] using ih

theorem splitBlockComment_length (text : Text) :
    (splitBlockComment text).2.length ≤ text.length := by
  have parts := congrArg List.length (splitBlockComment_append text)
  simp at parts
  omega

/-- The longest start of the text that consists of blanks, comments to the end of a line, and
block comments; and what follows. -/
def split (text : Text) : Text × Text :=
  match text with
  | [] => ([], [])
  | '-' :: '-' :: rest =>
      let after := split (rest.dropWhile (· != '\n'))
      ('-' :: '-' :: rest.takeWhile (· != '\n') ++ after.1, after.2)
  | '/' :: '*' :: rest =>
      let after := split (splitBlockComment rest).2
      ('/' :: '*' :: (splitBlockComment rest).1 ++ after.1, after.2)
  | character :: rest =>
      if isBlank character then
        let after := split rest
        (character :: after.1, after.2)
      else
        ([], character :: rest)
termination_by text.length
decreasing_by
  · have shorter := (List.dropWhile_sublist (l := rest) (· != '\n')).length_le
    simp
    omega
  · have shorter := splitBlockComment_length rest
    simp
    omega
  · simp

theorem split_append (text : Text) : (split text).1 ++ (split text).2 = text := by
  fun_induction split text with
  | case1 => rfl
  | case2 rest after ih =>
      simp [after, ih]
  | case3 rest after ih =>
      simp [after, ih, splitBlockComment_append]
  | case4 character rest _ _ blank after ih => simpa [after] using ih
  | case5 => rfl

theorem split_length (text : Text) : (split text).2.length ≤ text.length := by
  have parts := congrArg List.length (split_append text)
  simp at parts
  omega

end AnnotatedSql.Trivia
