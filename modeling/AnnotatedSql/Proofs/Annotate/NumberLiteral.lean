/-
This file shows where the number literals of an annotation come from: each is a number token, or a
minus sign and the number token behind it, with the gap between them as it is written.
-/

import AnnotatedSql.Proofs.Annotate.InvalidOrdinal
import AnnotatedSql.Proofs.Annotate.Piece
import AnnotatedSql.Proofs.Token.Numeral

namespace AnnotatedSql

open Grammar (TreeNode cover)

variable {source : Text} {root inner : TreeNode} {span : Span} {value : Value}

/-! ### Literals of a tree -/

/-- A literal of the tree has this span, and it is annotated with this value. -/
def Grammar.TreeNode.Writes (source : Text) (root : TreeNode) (span : Span) (value : Value) :
    Prop :=
  ∃ node, root.Has (.simpleExpr (.literal node)) ∧ node.span = span ∧
    ∃ before after, Annotate.literal node source before = (.ok value, after)

theorem Grammar.TreeNode.Writes.above (writes : inner.Writes source span value)
    (member : inner ∈ root.children) : root.Writes source span value := by
  obtain ⟨node, has, placed, run⟩ := writes
  exact ⟨node, .head member has, placed, run⟩

namespace Piece

variable {piece : Piece}

/-- The span and the value of a piece that is a literal. -/
def literal? : Piece → Option (Span × Value)
  | .expression (.literal span value) => some (span, value)
  | .expression (.marker _ _) | .expression (.column _) | .expression (.verbatim _ _)
  | .expression (.call _) | .expression (.subquery _ _) | .comparand _ | .predicate _ | .segment _
  | .selectItem _ | .condition _ | .statement _ => none

theorem literal_iff :
    piece.literal? = some (span, value) ↔ piece = .expression (.literal span value) := by
  constructor
  · intro found
    unfold literal? at found
    split at found
    next place inner =>
      obtain ⟨rfl, rfl⟩ := Prod.mk.inj (Option.some.inj found)
      rfl
    all_goals cases found
  · rintro rfl
    rfl

/-- The piece at the end of a path, which says at each piece which of its children comes next. -/
def at? (piece : Piece) : List Nat → Option Piece
  | [] => some piece
  | place :: path => piece.children[place]?.bind fun child => child.at? path

theorem has_of_at {path : List Nat} {part : Piece} (found : piece.at? path = some part) :
    piece.Has part := by
  induction path generalizing piece with
  | nil =>
      obtain rfl := Option.some.inj found
      exact .refl
  | cons place path ih =>
      obtain ⟨child, member, later⟩ := Option.bind_eq_some_iff.mp found
      exact .head (List.mem_of_getElem? member) (ih later)

/-- If the piece is a literal, it is one of the tree. -/
def IsWritten (source : Text) (root : TreeNode) (piece : Piece) : Prop :=
  ∀ span value, piece.literal? = some (span, value) → root.Writes source span value

theorem isWritten_of_none (other : piece.literal? = none) : piece.IsWritten source root := by
  intro span value found
  rw [other] at found
  cases found

theorem isWritten_of_isPlain (plain : piece.IsPlain) : piece.IsWritten source root := by
  apply isWritten_of_none
  unfold literal?
  split
  · exact absurd plain False.elim
  all_goals rfl

end Piece

/-- Only a literal of the tree becomes a literal. -/
theorem upholds_isWritten (source : Text) : Upholds source (Piece.IsWritten source) where
  above member written span value found := (written span value found).above member
  plain := Piece.isWritten_of_isPlain
  literal run _ := by
    rintro span value ⟨⟩
    exact ⟨_, .refl, rfl, _, _, run⟩
  chain _ _ _ _ := Piece.isWritten_of_none rfl
  compared _ _ := Piece.isWritten_of_none rfl

/-! ### Numbers of a source -/

/-- How a number is written: as a number token, or as a minus sign and a number token right behind it,
with a gap between the two. -/
inductive NumberWritten (source : Text) : Span → Text → Text → Prop
  | plain {token : Token} (member : token ∈ tokenize source) (number : token.kind = .number) :
      NumberWritten source token.span [] token.text
  | signed {before after : List Token} {sign token : Token} {gap : Text}
      (neighbours : tokenize source = before ++ sign :: token :: after)
      (minus : sign.kind = .symbol .minus) (number : token.kind = .number)
      (isGap : Gap false gap) :
      NumberWritten source ⟨sign.span.start, token.span.stop⟩ gap ('-' :: gap ++ token.text)

/-- A number has blanks or comments in it exactly if they stand behind its sign. -/
theorem NumberWritten.unspaced_iff {gap text : Text}
    (written : NumberWritten source span gap text) : text.Unspaced ↔ gap = [] := by
  cases written with
  | plain member number => exact iff_of_true (tokenize_number member number).number_unspaced rfl
  | @signed before after sign token gap neighbours minus number isGap =>
      have member : token ∈ tokenize source := by simp [neighbours]
      exact unspaced_signed_iff (tokenize_number member number) isGap

/-- A minus sign and the number behind it have a text. -/
theorem numberWritten_cover {sign token : Token}
    (infixed : [sign, token] <:+: (Grammar.Cursor.ofTokens (tokenize source)).unread)
    (minus : sign.kind = .symbol .minus) (number : token.kind = .number) :
    ∃ gap text, (cover [sign, token]).text? source = some text ∧
      NumberWritten source (cover [sign, token]) gap text := by
  have laid := (laid_ofTokens source).fewer infixed.sublist
  have signText : sign.text = ['-'] := by
    have spells := (laid.stands sign List.mem_cons_self).spells
    rw [minus] at spells
    exact spells.symbol "-" (by decide)
  obtain ⟨before, after, whole⟩ := infixed.trans (List.dropLast_prefix (tokenize source)).isInfix
  have neighbours : tokenize source = before ++ sign :: token :: after := by
    rw [← whole, List.append_assoc, List.cons_append, List.cons_append, List.nil_append]
  have tiled := tokenize_tiled source
  rw [neighbours] at tiled
  obtain ⟨front, gap, behind, parts, isGap, signSpan, tokenSpan⟩ :=
    tiled.neighbours (by rw [number]; nofun)
  have covers : cover [sign, token] = ⟨sign.span.start, token.span.stop⟩ :=
    laid.cover_eq (List.cons_ne_nil _ _)
  refine ⟨gap, '-' :: gap ++ token.text, ?_, ?_⟩
  · have text : sign.text ++ gap ++ token.text = '-' :: gap ++ token.text := by rw [signText]; rfl
    have found := Span.text_of_parts front (sign.text ++ gap ++ token.text) behind
      (Text.byteLength_pos (by simp [text]))
    rw [← parts, text] at found
    rw [covers, signSpan, tokenSpan, ← found, ← text]
    simp only [Span.ofRange, Text.byteLength_append, Nat.zero_add, Nat.add_assoc]
  · rw [covers]
    exact .signed neighbours minus number isGap

/-- A number in the tree is written in the source. -/
theorem numberWritten_of_writes {tree : Grammar.Select} {text : Text}
    (parsed : Grammar.parse source = .ok tree)
    (writes : (TreeNode.select tree).Writes source span (.number text)) :
    span.text? source = some text ∧ ∃ gap, NumberWritten source span gap text := by
  obtain ⟨node, has, rfl, before, after, run⟩ := writes
  obtain ⟨stretch, infixed, derived⟩ : Grammar.SimpleExpr.Chosen _ _ :=
    Grammar.parse_chosen parsed has
  cases derived with
  | literal derived =>
      cases derived with
      | @number token number =>
          obtain rfl : token.span.text source = text := by cases run; rfl
          have member := infixed.subset List.mem_cons_self
          have stands := (laid_ofTokens source).stands token member
          rw [stands.span_text]
          exact ⟨stands.text?, [], .plain (mem_tokenize member) number⟩
      | @negativeNumber sign token minus number =>
          obtain rfl : (cover [sign, token]).text source = text := by cases run; rfl
          obtain ⟨gap, text, found, written⟩ := numberWritten_cover infixed minus number
          rw [Span.text, found, Option.getD_some]
          exact ⟨found, gap, written⟩
      | _ => cases run

/-- Each number literal of an annotated text is the text of a number token, or that of a minus sign
and of the number token behind it with what stands between them. It has no blanks and no comments
unless they stand there. -/
theorem number_literal_written (source : Text) (statement : Statement)
    (annotated : annotate source = .ok statement) (span : Span) (text : Text)
    (found : (Piece.statement statement).Has (.expression (.literal span (.number text)))) :
    span.text? source = some text ∧
      ∃ gap, NumberWritten source span gap text ∧ (text.Unspaced ↔ gap = []) := by
  rcases parsed : Grammar.parse source with error | tree
  · rw [annotate, annotateWithEvents, parsed] at annotated
    cases annotated
  rcases run : Annotate.statement tree source Progress.initial with ⟨error | result, after⟩
  · rw [annotate_error parsed run] at annotated
    cases annotated
  · rw [annotate_ok parsed run] at annotated
    obtain rfl := Except.ok.inj annotated
    have written := (upholds_isWritten source).all (.statement run) _ found
    have writes := written span (.number text) rfl
    obtain ⟨same, gap, written⟩ := numberWritten_of_writes parsed writes
    exact ⟨same, gap, written, written.unspaced_iff⟩

/-- A literal at the end of a path is one of the annotation. -/
theorem exists_literal {path : List Nat}
    (found : ((annotate source).toOption.bind fun statement =>
      ((Piece.statement statement).at? path).bind Piece.literal?) = some (span, value)) :
    ∃ statement, annotate source = .ok statement ∧
      (Piece.statement statement).Has (.expression (.literal span value)) := by
  rcases run : annotate source with failure | statement
  · rw [run] at found
    cases found
  · rw [run] at found
    change ((Piece.statement statement).at? path).bind Piece.literal? = _ at found
    obtain ⟨part, isPart, literal⟩ := Option.bind_eq_some_iff.mp found
    have has := Piece.has_of_at isPart
    rw [Piece.literal_iff.mp literal] at has
    exact ⟨statement, rfl, has⟩

/-- A comment behind the sign of a candidate. -/
theorem number_literal_written_candidate :
    ∃ statement gap, annotate "SELECT a FROM t WHERE b IN (1, -/* x */5)".toList = .ok statement ∧
      (Piece.statement statement).Has
        (.expression (.literal ⟨31, 39⟩ (.number "-/* x */5".toList))) ∧
      NumberWritten "SELECT a FROM t WHERE b IN (1, -/* x */5)".toList ⟨31, 39⟩ gap
        "-/* x */5".toList ∧
      (Text.Unspaced "-/* x */5".toList ↔ gap = []) := by
  have candidate : ((annotate "SELECT a FROM t WHERE b IN (1, -/* x */5)".toList).toOption.bind
      fun statement => ((Piece.statement statement).at? [1, 0, 0, 0, 1]).bind Piece.literal?) =
        some (⟨31, 39⟩, .number "-/* x */5".toList) := by decide +kernel
  obtain ⟨statement, run, has⟩ := exists_literal candidate
  obtain ⟨_, gap, written, unspaced⟩ := number_literal_written _ statement run _ _ has
  exact ⟨statement, gap, run, has, written, unspaced⟩

/-- A blank behind the sign stays in the text, which is then neither that of a number token nor one
with a minus sign in front. -/
theorem signed_number_keeps_blank :
    ∃ statement span text, annotate "SELECT - 5".toList = .ok statement ∧
      (Piece.statement statement).Has (.expression (.literal span (.number text))) ∧
      ' ' ∈ text ∧
      ∀ token ∈ tokenize "SELECT - 5".toList, text ≠ token.text ∧ text ≠ '-' :: token.text := by
  have projected : ((annotate "SELECT - 5".toList).toOption.bind
      fun statement => ((Piece.statement statement).at? [0, 0, 0]).bind Piece.literal?) =
        some (⟨7, 9⟩, .number "- 5".toList) := by decide +kernel
  obtain ⟨statement, run, has⟩ := exists_literal projected
  refine ⟨statement, _, _, run, has, by decide, ?_⟩
  decide +kernel

end AnnotatedSql
