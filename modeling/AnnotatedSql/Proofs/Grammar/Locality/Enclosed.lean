/-
This file shows that parentheses around an expression are taken off it one by one: what the parser
finds inside them is what it finds without them.
-/

import AnnotatedSql.Proofs.Grammar.Locality.Fragment

namespace AnnotatedSql.Grammar

/-- The expression in parentheses with the given spans, the outermost one first. -/
def Expr.enclosed (inner : Expr) : List Span → Expr
  | [] => inner
  | span :: spans => .paren span (inner.enclosed spans)

namespace Parse

/-- Where the tokens stand in front of the others, the parser takes just them, for the expression. -/
def Takes (nested : Nested) (limit : Nat) (ending : Token) (tokens rest : List Token)
    (node : Expr) : Prop :=
  ∀ place : Cursor, place.unread = tokens ++ rest → place.ending = ending →
    (∀ stop, place.lastStop = some stop → stop ≤ limit) →
    ∃ later, nested.expr 0 place = (.ok node, later) ∧ place.Reads tokens later

variable {inner : Nested} {depth limit : Nat} {ending opening closing : Token}
  {tokens rest : List Token} {node : Expr} {place later : Cursor}

/-- An operand that no connective follows is the whole expression. -/
theorem expr_of_enclosed {span : Span} (opens : place.current.kind = .symbol .leftParen)
    (plain : (place.ahead 1).kind ≠ .keyword .SELECT)
    (run : enclosed? inner place = (.ok (some (.paren span node)), later))
    (unjoined : Precedence.logical? later.current.kind = none) (minimum : Nat) :
    expr .always inner minimum place = (.ok (.paren span node), later) := by
  have ahead : (place.ahead 0).kind = .symbol .leftParen := opens
  have found : operand .always inner place = (.ok (.paren span node), later) := by
    rw [operand, bind_look (kindAhead_run 0), ahead]
    change (kindAhead 1 >>= _) place = _
    rw [bind_look (kindAhead_run 1), if_neg plain, parenthesisedOrPrimary, bind_run,
      parenthesised_always, run]
    rfl
  rw [expr, bind_look offset_run, bind_run, found]
  change (remaining >>= _) later = _
  rw [bind_look remaining_run]
  cases later.position with
  | zero => rfl
  | succ rounds =>
      have nothing : Precedence.logical? (later.ahead 0).kind = none := unjoined
      rw [logicalChain, bind_look (kindAhead_run 0)]
      simp only [nothing]
      rfl

/-- One more parenthesis around what is taken is taken, too. -/
theorem Takes.enclose
    (takes : Takes (nested .always depth) limit ending tokens (closing :: rest) node)
    (ends : ending.kind = .endOfInput) (opens : opening.kind = .symbol .leftParen)
    (closes : closing.kind = .symbol .rightParen) (near : opening.span.stop ≤ limit)
    (plain : ∀ first ∈ (tokens ++ [closing]).head?, first.kind ≠ .keyword .SELECT)
    (follow : endsExpr (rest.headD ending).kind) :
    Takes (nested .always (depth + 1)) limit ending (opening :: tokens ++ [closing]) rest
      (.paren (cover (opening :: tokens ++ [closing])) node) := by
  intro place unread atEnd _
  have isEnd : place.Ends := by
    rw [Cursor.Ends, atEnd]
    exact ends
  have current : place.current = opening := by
    rw [Cursor.current_eq, unread]
    rfl
  have opensHere : place.current.kind = .symbol .leftParen := current ▸ opens
  have readsOpening := Cursor.reads_advance_of_kind isEnd opensHere (by simp)
  rw [current] at readsOpening
  have behind : place.advance.unread = tokens ++ closing :: rest := by
    have parts := readsOpening.unread
    rw [unread] at parts
    simpa using parts.symm
  obtain ⟨middle, run, reads⟩ := takes place.advance behind (readsOpening.ending.trans atEnd)
    fun stop found => by
      rw [readsOpening.lastStop] at found
      cases found
      exact near
  have left : middle.unread = closing :: rest :=
    List.append_cancel_left (reads.unread.symm.trans behind)
  have currentClosing : middle.current = closing := by
    rw [Cursor.current_eq, left]
    rfl
  have closesHere : middle.current.kind = .symbol .rightParen := currentClosing ▸ closes
  have readsClosing :=
    Cursor.reads_advance_of_kind (reads.ends (readsOpening.ends isEnd)) closesHere (by simp)
  rw [currentClosing] at readsClosing
  have whole : place.Reads (opening :: tokens ++ [closing]) middle.advance :=
    (readsOpening.trans reads).trans readsClosing
  have last : middle.advance.unread = rest := by
    have parts := readsClosing.unread
    rw [left] at parts
    simpa using parts.symm
  have ended : endsExpr middle.advance.current.kind := by
    rw [Cursor.current_eq, last, whole.ending, atEnd]
    exact follow
  have found := enclosed_run run closesHere (endsPrimary.continuesOperand (endsExpr.primary ended))
  rw [whole.spanFrom (List.cons_ne_nil _ _)] at found
  have unselected : (place.ahead 1).kind ≠ .keyword .SELECT := by
    refine plain (place.ahead 1) ?_
    rw [Cursor.ahead, unread, List.getD_eq_getElem?_getD]
    cases tokens <;> rfl
  have unjoined : Precedence.logical? middle.advance.current.kind = none := by
    have parts := (Bool.and_eq_true_iff.mp ended).2
    exact Option.isNone_iff_eq_none.mp parts
  exact ⟨middle.advance, expr_of_enclosed opensHere unselected found unjoined 0, whole⟩

/-- What is found in the tokens of an expression alone is taken wherever they stand before a token
that starts a clause or ends a SELECT. -/
theorem takes_of_alone {own : List Token} {move back : Nat → Nat} {size : Nat} {found alone : Expr}
    (moves : Moves move back own) (ends : ending.kind = .endOfInput)
    (derived : DerivesWidely (.expr found) own)
    (run : (nested .always own.length).expr 0 ⟨own, Token.ending size, none, []⟩ =
      (.ok alone, later))
    (nothing : later.unread = []) (closes : endsClause 1 (rest.headD ending).kind)
    (deep : own.length ≤ depth) (near : limit ≤ move 0) :
    Takes (nested .always depth) limit ending (own.map (Token.relocate move)) rest
      (alone.relocate move) := by
  rintro place unread rfl fresh
  have beside := Cut.beside_excerpt place none moves size (ne_endOfInput_of_derived derived) closes
    unread nofun fun _ stop found => Nat.le_trans (fresh stop found) near
  obtain ⟨after, wholeRun, besideAfter⟩ := expr_anywhere depth ends derived run beside deep
  obtain ⟨consumed, reads, _⟩ := (nested_sound .always depth).expr 0 ends _ after wholeRun
  have left := besideAfter.excerpt_unread
  rw [nothing, List.map_nil, List.nil_append] at left
  have parts := reads.unread
  rw [unread, left, List.append_cancel_right_eq] at parts
  exact ⟨after, wholeRun, parts ▸ reads⟩

/-- As many parentheses as there are on either side are taken around what is taken. -/
theorem Takes.enclosed {opens closes : List Token} (ends : ending.kind = .endOfInput)
    (opening : ∀ token ∈ opens, token.kind = .symbol .leftParen ∧ token.span.stop ≤ limit)
    (closing : ∀ token ∈ closes, token.kind = .symbol .rightParen)
    (even : closes.length = opens.length)
    (plain : ∀ first ∈ tokens.head?, first.kind ≠ .keyword .SELECT) (nonempty : tokens ≠ [])
    (follow : endsExpr (rest.headD ending).kind)
    (takes : Takes (nested .always depth) limit ending tokens (closes ++ rest) node) :
    ∃ spans, spans.length = opens.length ∧
      Takes (nested .always (depth + opens.length)) limit ending (opens ++ tokens ++ closes) rest
        (node.enclosed spans) := by
  induction opens generalizing closes rest with
  | nil =>
      obtain rfl := List.eq_nil_of_length_eq_zero even
      rw [List.nil_append] at takes
      refine ⟨[], rfl, ?_⟩
      rw [List.nil_append, List.append_nil]
      exact takes
  | cons first opens ih =>
      rcases List.eq_nil_or_concat closes with rfl | ⟨inner, last, rfl⟩
      · cases even
      · have isLast := closing last (by simp)
        rw [List.concat_eq_append, List.append_assoc] at takes
        obtain ⟨spans, count, within⟩ := ih
          (fun token member => opening token (List.mem_cons_of_mem first member))
          (fun token member => closing token (by simp [member])) (by simpa using even)
          (by rw [List.singleton_append, List.headD_cons, isLast]; rfl) takes
        obtain ⟨opens_, near⟩ := opening first List.mem_cons_self
        have innermost : ∀ token ∈ (opens ++ tokens ++ inner ++ [last]).head?,
            token.kind ≠ .keyword .SELECT := by
          cases opens with
          | nil =>
              obtain ⟨start, others, rfl⟩ := List.exists_cons_of_ne_nil nonempty
              exact plain
          | cons second others =>
              rintro token ⟨⟩
              rw [(opening second (by simp)).1]
              decide
        refine ⟨cover (first :: (opens ++ tokens ++ inner) ++ [last]) :: spans,
          by rw [List.length_cons, count, List.length_cons], ?_⟩
        have whole := within.enclose ends opens_ isLast near innermost follow
        simpa [Expr.enclosed, Nat.add_assoc] using whole

end Parse

end AnnotatedSql.Grammar
