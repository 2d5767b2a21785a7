/-
This file shows which tokens a text has when parentheses are put between two of its tokens: those
that it had, and the parentheses.
-/

import AnnotatedSql.Proofs.Token.Boundary
import AnnotatedSql.Proofs.Token.Excerpt

namespace AnnotatedSql

variable {other rest : Text}

/-! ### Texts that start with a parenthesis -/

/-- Nothing is skipped in front of a parenthesis. -/
theorem Trivia.split_parenthesis {character : Char} (isMark : isParenthesis character) (rest : Text) :
    split (character :: rest) = ([], character :: rest) := by
  rw [isParenthesis, Bool.or_eq_true, beq_iff_eq, beq_iff_eq] at isMark
  rcases isMark with rfl | rfl <;> exact split_of_more rest (by decide) (by decide) (by decide)

theorem isBoundary_parenthesis {character : Char} (isMark : isParenthesis character) :
    isBoundary character := by
  rw [isBoundary, isMark, Bool.or_true]

namespace Reader

variable {reader later : Reader} {inside : List Token} {kept : Text}

/-! ### Tokens in front of a boundary -/

/-- Where a token is to come, more than a gap is left. -/
theorem Yields.unread_ne_nil (yields : reader.Yields inside later) (nonempty : inside ≠ []) :
    (Trivia.split reader.unread).2 ≠ [] := by
  cases yields with
  | refl => exact absurd rfl nonempty
  | token more _ =>
      obtain ⟨lexeme, found⟩ := exists_lexeme more
      intro nothing
      rw [nothing] at found
      cases found

/-- The tokens lie between the places from and to which the reader goes. -/
theorem Yields.within (yields : reader.Yields inside later) : ∀ token ∈ inside,
    reader.offset ≤ token.span.start ∧ token.span.start ≤ token.span.stop ∧
      token.span.stop < later.offset := by
  induction yields with
  | refl => nofun
  | @token reader later rest more yields ih =>
      have span := reader.next_span
      have behind := span.2.2 more
      obtain ⟨_, _, onward⟩ := yields.reaches
      intro token member
      rcases List.mem_cons.mp member with rfl | member
      · omega
      · have found := ih token member
        omega

/-- With a boundary instead of what follows some tokens, the tokens are the same. -/
theorem Yields.boundary (yields : reader.Yields inside later)
    (unread : reader.unread = short ++ rest) (left : later.unread = kept ++ rest)
    (legible : ∀ token ∈ inside, ∀ cause, token.kind ≠ .error cause)
    (starts : StartsAtBoundary other) :
    Yields ⟨reader.offset, short ++ other⟩ inside ⟨later.offset, kept ++ other⟩ := by
  induction yields generalizing short with
  | @refl reader =>
      obtain rfl := List.append_cancel_right (unread.symm.trans left)
      exact .refl
  | @token reader later tokens more yields ih =>
      obtain ⟨lexeme, found⟩ := exists_lexeme more
      obtain ⟨read, behind, _⟩ := yields.reaches
      rw [left, ← List.append_assoc] at behind
      have ahead := ih behind left fun token member => legible token (List.mem_cons_of_mem _ member)
      have firstLegible := legible _ List.mem_cons_self
      rw [next_some found] at behind ahead firstLegible ⊢
      dsimp only at behind ahead firstLegible ⊢
      have trivia : (Trivia.split reader.unread).2 = (lexeme.text ++ (read ++ kept)) ++ rest := by
        rw [← (Lexeme.first_splits _ lexeme found).1, behind, List.append_assoc lexeme.text]
      have nonempty : lexeme.text ++ (read ++ kept) ≠ [] := by
        simp [(Lexeme.first_splits _ lexeme found).2]
      have isGap : Gap false (Trivia.split reader.unread).1 := by
        have isGap := Trivia.split_gap reader.unread
        rwa [trivia, List.isEmpty_eq_false_iff.mpr (by simp [(Lexeme.first_splits _ lexeme found).2])]
          at isGap
      -- nothing more than the gap is skipped, and the lexeme ends where it did
      have bare := Trivia.split_behind reader.unread
      rw [trivia] at bare found
      have skipped := Trivia.split_of_gap isGap (Trivia.split_none_boundary nonempty bare starts)
      have first := Lexeme.first_boundary (Lexeme.first_cut found behind)
        (fun _ _ => firstLegible _) starts
      have whole : short ++ other = (Trivia.split reader.unread).1 ++
          (lexeme.text ++ (read ++ kept) ++ other) := by
        have parts := Trivia.split_append reader.unread
        rw [trivia, unread, ← List.append_assoc, List.append_cancel_right_eq] at parts
        rw [← parts, unread, List.append_assoc]
      have step : next ⟨reader.offset, short ++ other⟩ = (Token.placed lexeme.kind lexeme.text
          (reader.offset + (Trivia.split reader.unread).1.byteLength),
          ⟨reader.offset + (Trivia.split reader.unread).1.byteLength + lexeme.text.byteLength,
            read ++ kept ++ other⟩) := by
        rw [← whole] at skipped
        have lexed : Lexeme.first? (Trivia.split (short ++ other)).2 =
            some (lexeme.followedBy (read ++ kept ++ other)) := by
          rw [skipped]
          exact first
        rw [next_some lexed, skipped]
        rfl
      exact .cons step (Lexeme.first_more found) ahead

/-- The tokens of as many parentheses one after the other. -/
def parentheses (character : Char) (sign : Symbol) (offset count : Nat) : List Token :=
  (List.range count).map fun place => Token.placed (.symbol sign) [character] (offset + place)

theorem parentheses_succ (character : Char) (sign : Symbol) (offset count : Nat) :
    parentheses character sign offset (count + 1) = parentheses character sign offset count ++
      [Token.placed (.symbol sign) [character] (offset + count)] := by
  rw [parentheses, List.range_succ, List.map_append, List.map_singleton, parentheses]

theorem byteLength_parenthesis {character : Char} (isMark : isParenthesis character) :
    Text.byteLength [character] = 1 := by
  rw [isParenthesis, Bool.or_eq_true, beq_iff_eq, beq_iff_eq] at isMark
  rcases isMark with rfl | rfl <;> rfl

/-- Each of the parentheses stands within as many bytes as there are. -/
theorem mem_parentheses {character : Char} {sign : Symbol} {offset count : Nat} {token : Token}
    (isMark : isParenthesis character) (member : token ∈ parentheses character sign offset count) :
    token.kind = .symbol sign ∧ token.span.stop < offset + count := by
  obtain ⟨place, few, rfl⟩ := List.mem_map.mp member
  have few := List.mem_range.mp few
  refine ⟨rfl, ?_⟩
  change offset + place + Text.byteLength [character] - 1 < _
  rw [byteLength_parenthesis isMark]
  omega

/-- Parentheses are read one by one. -/
theorem tokens_parentheses {character : Char} {sign : Symbol}
    (read : ∀ rest, Lexeme.first? (character :: rest) = some ⟨.symbol sign, [character], rest⟩)
    (isMark : isParenthesis character) (offset count : Nat) (text : Text) :
    tokens ⟨offset, List.replicate count character ++ text⟩ =
      parentheses character sign offset count ++ tokens ⟨offset + count, text⟩ := by
  induction count generalizing offset with
  | zero => rfl
  | succ count ih =>
      have bare : Trivia.split (character :: (List.replicate count character ++ text)) =
          ([], character :: (List.replicate count character ++ text)) :=
        Trivia.split_parenthesis isMark _
      rw [List.replicate_succ, List.cons_append, tokens_some (by rw [bare]; exact read _), bare]
      have others : parentheses character sign offset (count + 1) =
          Token.placed (.symbol sign) [character] offset ::
            parentheses character sign (offset + 1) count := by
        rw [parentheses, List.range_succ_eq_map, List.map_cons, List.map_map, parentheses]
        refine congrArg _ (List.map_congr_left fun place _ => ?_)
        rw [Function.comp_apply, Nat.succ_eq_add_one, Nat.add_assoc, Nat.add_comm place]
      rw [others, List.cons_append, Text.byteLength_nil, Nat.add_zero, byteLength_parenthesis isMark,
        ih (offset + 1),
        Nat.add_right_comm offset 1 count, Nat.add_assoc]

end Reader

namespace TextUnder

variable {source : Text} {before inside after : List Token}
  (under : TextUnder source before inside after)

/-! ### A text in parentheses -/

/-- The source with as many parentheses on either side of the text. -/
def enclosed (count : Nat) : Text :=
  under.front ++ List.replicate count '(' ++ under.text ++ List.replicate count ')' ++ under.behind

theorem enclosed_zero : under.enclosed 0 = source := by
  refine Eq.trans ?_ under.parts.symm
  simp [enclosed]

include under in
theorem tokens_eq : tokenize source = before ++ (inside ++ after) := by
  have behind :=
    Reader.tokens_behind ⟨under.read.byteLength, under.gap ++ (under.text ++ under.behind)⟩
  dsimp only at behind
  rw [under.skipped, ← Text.byteLength_append, under.yields.tokens_eq, under.others] at behind
  rw [behind]
  exact under.upTo.tokens_eq

/-- The tokens in front of the text end before it starts. -/
theorem stop_before : ∀ token ∈ before,
    token.span.start ≤ token.span.stop ∧ token.span.stop < under.front.byteLength := by
  intro token member
  obtain ⟨_, extent, stop⟩ := under.upTo.within token member
  have upTo : token.span.stop < under.read.byteLength := stop
  refine ⟨extent, ?_⟩
  rw [front, Text.byteLength_append]
  omega

/-- The tokens of the text stand in it. -/
theorem within : ∀ token ∈ inside, under.front.byteLength ≤ token.span.start ∧
    token.span.start ≤ token.span.stop ∧
      token.span.stop < under.front.byteLength + under.text.byteLength :=
  under.yields.within

/-- The gap in front of the text is not at the end of the source. -/
theorem isGap (nonempty : inside ≠ []) : Gap false under.gap := by
  have isGap := Trivia.split_gap (under.gap ++ (under.text ++ under.behind))
  have more := under.yields.unread_ne_nil nonempty
  have bare := Trivia.split_behind (under.gap ++ (under.text ++ under.behind))
  rw [under.skipped] at bare isGap
  dsimp only at more bare isGap
  rw [bare] at more
  rwa [List.isEmpty_eq_false_iff.mpr more] at isGap

/-- The tokens of the source, and the parentheses around those of the text. -/
theorem tokenize_enclosed (nonempty : inside ≠ [])
    (legible : ∀ token ∈ before ++ inside, ∀ cause, token.kind ≠ .error cause) (count : Nat) :
    tokenize (under.enclosed count) = before ++
      (Reader.parentheses '(' .leftParen under.front.byteLength count ++
        inside.map (Token.relocate (· + count)) ++
        Reader.parentheses ')' .rightParen
          (under.front.byteLength + under.text.byteLength + count) count ++
        after.map (Token.relocate (· + 2 * count))) := by
  rcases Nat.eq_zero_or_pos count with rfl | positive
  · have stays : Token.relocate (· + 0) = id := rfl
    rw [enclosed_zero, under.tokens_eq, Nat.mul_zero, stays, List.map_id, List.map_id]
    simp [Reader.parentheses]
  · obtain ⟨second, isSecond⟩ : ∃ second, second = List.replicate count ')' ++ under.behind :=
      ⟨_, rfl⟩
    obtain ⟨first, isFirst⟩ : ∃ first, first = List.replicate count '(' ++ (under.text ++ second) :=
      ⟨_, rfl⟩
    obtain ⟨more, successor⟩ := Nat.exists_eq_succ_of_ne_zero (Nat.ne_zero_of_lt positive)
    have startsFirst : StartsAtBoundary first := by
      rw [isFirst, successor]
      exact ⟨'(', rfl, isBoundary_parenthesis rfl⟩
    have startsSecond : StartsAtBoundary second := by
      rw [isSecond, successor]
      exact ⟨')', rfl, isBoundary_parenthesis rfl⟩
    have bareFirst : Trivia.split first = ([], first) := by
      rw [isFirst, successor]
      exact Trivia.split_parenthesis rfl _
    have whole : under.enclosed count = under.read ++ under.gap ++ first := by
      simp [enclosed, front, isFirst, isSecond]
    -- up to the text the tokens stay
    have upTo := under.upTo.boundary under.whole rfl
      (fun token member => legible token (List.mem_append_left _ member)) startsFirst
    have gap := Trivia.split_of_gap (under.isGap nonempty) bareFirst
    have behind := Reader.tokens_behind ⟨under.read.byteLength, under.gap ++ first⟩
    dsimp only at behind upTo
    rw [gap, ← Text.byteLength_append] at behind
    have opening := @Reader.tokens_parentheses '(' _ (fun _ => rfl) rfl
      under.front.byteLength count (under.text ++ second)
    -- in the parentheses they move by as many bytes
    have inner := under.yields.boundary rfl (List.nil_append _).symm
      (fun token member => legible token (List.mem_append_right _ member)) startsSecond
    have moved := Reader.tokens_relocate ⟨under.front.byteLength, under.text ++ second⟩ count
    have next := Reader.tokens_relocate
      ⟨under.front.byteLength + under.text.byteLength, second⟩ count
    have closing := @Reader.tokens_parentheses ')' _ (fun _ => rfl) rfl
      (under.front.byteLength + under.text.byteLength + count) count under.behind
    -- and behind them by twice as many
    have last := Reader.tokens_relocate
      ⟨under.front.byteLength + under.text.byteLength, under.behind⟩ (2 * count)
    have others := under.others
    dsimp only at inner moved next last
    change Reader.tokens ⟨under.front.byteLength, first⟩ = _ at behind
    change Reader.Yields ⟨under.front.byteLength, under.text ++ second⟩ inside _ at inner
    change Reader.tokens ⟨under.front.byteLength + under.text.byteLength, under.behind⟩ = _ at others
    rw [others] at last
    rw [whole, tokenize, Reader.ofSource, upTo.tokens_eq, ← behind, isFirst, opening, moved,
      inner.tokens_eq, List.map_append, List.nil_append]
    change _ ++ (_ ++ (_ ++
      (Reader.tokens ⟨under.front.byteLength + under.text.byteLength, second⟩).map _)) = _
    rw [← next, isSecond, closing, Nat.add_assoc _ count count, ← Nat.two_mul, last]
    simp only [List.append_assoc]

end TextUnder

end AnnotatedSql
