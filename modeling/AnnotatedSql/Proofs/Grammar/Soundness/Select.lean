/-
This file shows that the parser of a whole statement consumes what the grammar derives, whatever
the text.
-/

import AnnotatedSql.Proofs.Grammar.Soundness.Expression

namespace AnnotatedSql.Grammar.Parse

open Cursor

variable {cursor : Cursor} {nested : Nested}

/-! ### Items -/

theorem qualifiedShorthand_ensures (ends : cursor.Ends)
    (dot : (cursor.ahead 1).kind = .symbol .dot) (star : (cursor.ahead 2).kind = .symbol .star) :
    Ensures cursor qualifiedShorthand fun node after =>
      ∃ tokens, cursor.Reads tokens after ∧ DerivesWidely (.selectItem node) tokens := by
  simp only [qualifiedShorthand, ensures_bind, ensures_offset, ensures_advance, ensures_spanFrom,
    ensures_pure]
  refine (label_finds ends).mono ?_
  intro _ middle taken
  obtain ⟨_, readsOwner, name, isName, rfl, rfl⟩ := taken
  have ends := readsOwner.ends ends
  have dot : middle.current.kind = .symbol .dot := by
    rw [Cursor.current, readsOwner.ahead]
    exact dot
  have star : middle.advance.current.kind = .symbol .star := by
    rw [Cursor.current, advance_ahead, readsOwner.ahead]
    exact star
  have readsDot := reads_advance_of_kind ends dot (by decide)
  have readsStar := reads_advance_of_kind (readsDot.ends ends) star (by decide)
  have reads := readsOwner.trans (readsDot.trans readsStar)
  rw [reads.spanFrom (by simp)]
  exact ⟨_, reads, .qualifiedShorthand isName dot star⟩

theorem exprItem_finds (inner : nested.Sound) :
    Finds (exprItem nested) fun node => DerivesWidely (.selectItem node) := by
  intro cursor ends
  simp only [exprItem, ensures_bind, ensures_offset, ensures_spanFrom, ensures_pure]
  refine (inner.expr 0 ends).mono ?_
  intro node middle taken
  obtain ⟨_, readsExpr, derived⟩ := taken
  refine (itemLabel_finds (readsExpr.ends ends)).mono ?_
  intro itemLabel after taken
  obtain ⟨_, readsLabel, labelled⟩ := taken
  have reads := readsExpr.trans readsLabel
  rw [reads.spanFrom (by simp [derived.nonempty rfl])]
  exact ⟨_, reads, .exprItem derived labelled⟩

theorem selectItem_finds (inner : nested.Sound) :
    Finds (selectItem nested) fun node => DerivesWidely (.selectItem node) := by
  intro cursor ends
  simp only [selectItem, ensures_bind, ensures_kindAhead]
  split
  · rename_i star
    simp only [ensures_bind, ensures_terminal, ensures_pure]
    exact ⟨_, reads_advance_of_kind ends star (by decide), .shorthand star⟩
  · split
    · rename_i qualified
      simp only [Bool.and_eq_true, decide_eq_true_eq] at qualified
      obtain ⟨⟨_, dot⟩, star⟩ := qualified
      exact qualifiedShorthand_ensures ends dot star
    · exact exprItem_finds inner ends

theorem selectList_finds (inner : nested.Sound) :
    Finds (selectList nested) fun node tokens =>
      ∃ items, node = ⟨cover tokens, items⟩ ∧ DerivesWidely (.selectItems items) tokens := by
  intro cursor ends
  simp only [selectList, ensures_bind, ensures_offset, ensures_spanFrom, ensures_pure]
  refine (commaList_finds (selectItem_finds inner) ends).mono ?_
  intro items after taken
  obtain ⟨tokens, reads, list⟩ := taken
  have derived := derives_selectItems_iff.mpr list
  rw [reads.spanFrom (derived.nonempty rfl)]
  exact ⟨_, reads, items, rfl, derived⟩

/-- A name that does not make up the item leaves the place as it was. -/
theorem orderColumn_ensures (ends : cursor.Ends) :
    Ensures cursor orderColumn? fun found after =>
      (found = none ∧ cursor.Reads [] after) ∨
        ∃ name, found = some name ∧ ∃ tokens, cursor.Reads tokens after ∧ name.Derives tokens := by
  simp only [orderColumn?, ensures_bind, ensures_get]
  split
  · simp only [ensures_bind, ensures_kindAhead]
    refine (qualifiedName_finds ends).mono ?_
    intro name after taken
    obtain ⟨tokens, reads, derived⟩ := taken
    split
    · exact ensures_pure.mpr (.inr ⟨name, rfl, tokens, reads, derived⟩)
    · rw [ensures_bind, ensures_modify, ensures_pure]
      exact .inl ⟨rfl, rfl, rfl, rfl⟩
  · exact ensures_pure.mpr (.inl ⟨rfl, .refl cursor⟩)

theorem orderTarget_finds (inner : nested.Sound) :
    Finds (orderTarget nested) fun target =>
      DerivesWidely (.orderTarget target.1 target.2.1 target.2.2) := by
  intro cursor ends
  simp only [orderTarget, ensures_bind, ensures_kindAhead]
  split
  · rename_i number
    simp only [Bool.and_eq_true, decide_eq_true_eq] at number
    simp only [ensures_bind, ensures_terminal, ensures_pure]
    exact ⟨_, reads_advance_of_kind ends number.1 (by decide), .orderNumber (.number number.1) rfl⟩
  · rw [ensures_bind]
    refine (orderColumn_ensures ends).mono ?_
    intro found middle taken
    rcases taken with ⟨rfl, readsNothing⟩ | ⟨name, rfl, tokens, reads, derived⟩
    · simp only [ensures_bind, ensures_pure]
      refine (inner.expr 0 (readsNothing.ends ends)).mono ?_
      intro node after taken
      obtain ⟨_, reads, derived⟩ := taken
      exact ⟨_, readsNothing.trans reads, .orderExpr derived⟩
    · exact ensures_pure.mpr ⟨_, reads, .orderColumn derived⟩

theorem direction_finds :
    Finds direction fun found => DirectionWord found.1 found.2 := by
  intro cursor ends
  simp only [direction, ensures_bind]
  refine (keyword_finds .ASC ends).mono ?_
  intro ascending middle taken
  obtain ⟨_, readsAscending, flag⟩ := taken
  cases flag with
  | absent =>
      simp only [ensures_bind, ensures_pure]
      refine (keyword_finds .DESC (readsAscending.ends ends)).mono ?_
      intro descending after taken
      obtain ⟨_, readsDescending, flag⟩ := taken
      have reads := readsAscending.trans readsDescending
      cases flag with
      | absent => exact ⟨_, reads, .absent⟩
      | present word => exact ⟨_, reads, .descending word⟩
  | present word => exact ensures_pure.mpr ⟨_, readsAscending, .ascending word⟩

theorem orderItem_finds (inner : nested.Sound) :
    Finds (orderItem nested) fun node => DerivesWidely (.orderItem node) := by
  intro cursor ends
  simp only [orderItem, ensures_bind, ensures_offset, ensures_spanFrom, ensures_pure]
  refine (orderTarget_finds inner ends).mono ?_
  intro target middle taken
  obtain ⟨_, readsTarget, derived⟩ := taken
  refine (direction_finds (readsTarget.ends ends)).mono ?_
  intro directions after taken
  obtain ⟨_, readsDirection, directed⟩ := taken
  have reads := readsTarget.trans readsDirection
  rw [reads.spanFrom (by simp [derived.nonempty rfl])]
  exact ⟨_, reads, .orderItem derived directed⟩

/-! ### Clauses -/

theorem orderClause_finds (inner : nested.Sound) (word : Keyword) :
    Finds (orderClause? nested word) fun node => DerivesWidely (.ordering word node) := by
  intro cursor ends
  simp only [orderClause?, ensures_bind, ensures_atKeyword]
  split
  · rename_i opening
    have opening := beq_iff_eq.mp opening
    have readsOpening := reads_advance_of_kind ends opening (by simp)
    have ends := readsOpening.ends ends
    simp only [ensures_bind, ensures_offset, ensures_advance, ensures_expectKeyword,
      ensures_spanFrom, ensures_pure]
    intro by_
    have readsBy := reads_advance_of_kind ends by_ (by decide)
    have ends := readsBy.ends ends
    refine (commaList_finds (orderItem_finds inner) ends).mono ?_
    intro items after taken
    obtain ⟨_, readsItems, list⟩ := taken
    have reads := readsOpening.trans (readsBy.trans readsItems)
    rw [reads.spanFrom (by simp)]
    exact ⟨_, reads, .ordering opening by_ (derives_orderItems_iff.mpr list)⟩
  · exact ensures_pure.mpr ⟨_, .refl cursor, .noOrdering⟩

theorem conditionClause_finds (inner : nested.Sound) (word : Keyword) :
    Finds (conditionClause? nested word) fun node => DerivesWidely (.condition word node) := by
  intro cursor ends
  simp only [conditionClause?, ensures_bind, ensures_atKeyword]
  split
  · rename_i opening
    have opening := beq_iff_eq.mp opening
    have readsOpening := reads_advance_of_kind ends opening (by simp)
    simp only [ensures_bind, ensures_offset, ensures_advance, ensures_spanFrom, ensures_pure]
    refine (inner.expr 0 (readsOpening.ends ends)).mono ?_
    intro node after taken
    obtain ⟨_, readsExpr, derived⟩ := taken
    have reads := readsOpening.trans readsExpr
    rw [reads.spanFrom (by simp)]
    exact ⟨_, reads, .condition opening derived⟩
  · exact ensures_pure.mpr ⟨_, .refl cursor, .noCondition⟩

theorem tables_finds : Finds tables? Tables := by
  intro cursor ends
  simp only [tables?, ensures_bind, ensures_atKeyword]
  split
  · rename_i word
    have word := beq_iff_eq.mp word
    have readsWord := reads_advance_of_kind ends word (by decide)
    simp only [ensures_bind, ensures_advance, ensures_pure]
    refine (nameList_finds (readsWord.ends ends)).mono ?_
    intro _ after taken
    obtain ⟨_, readsNames, names, rfl, list⟩ := taken
    exact ⟨_, readsWord.trans readsNames, .present word list⟩
  · exact ensures_pure.mpr ⟨_, .refl cursor, .absent⟩

theorem distinct_finds : Finds distinct? DistinctWord := by
  intro cursor ends
  simp only [distinct?, ensures_bind]
  refine (keyword_finds .DISTINCT ends).mono ?_
  intro distinct middle taken
  obtain ⟨_, readsDistinct, flag⟩ := taken
  cases flag with
  | absent =>
      simp only [ensures_bind, ensures_pure]
      refine (keyword_finds .ALL (readsDistinct.ends ends)).mono ?_
      intro all after taken
      obtain ⟨_, readsAll, flag⟩ := taken
      have reads := readsDistinct.trans readsAll
      cases flag with
      | absent => exact ⟨_, reads, .absent⟩
      | present word => exact ⟨_, reads, .all word⟩
  | present word => exact ensures_pure.mpr ⟨_, readsDistinct, .distinct word⟩

theorem select_finds (inner : nested.Sound) :
    Finds (select nested) fun node => DerivesWidely (.select node) := by
  intro cursor ends
  simp only [select, ensures_bind, ensures_offset, ensures_expectKeyword, ensures_spanFrom,
    ensures_pure]
  intro word
  have readsWord := reads_advance_of_kind ends word (by decide)
  have ends := readsWord.ends ends
  refine (distinct_finds ends).mono ?_
  intro distinct _ taken
  obtain ⟨_, readsDistinct, distinguished⟩ := taken
  have ends := readsDistinct.ends ends
  refine (selectList_finds inner ends).mono ?_
  intro _ _ taken
  obtain ⟨_, readsItems, items, rfl, derivedItems⟩ := taken
  have ends := readsItems.ends ends
  refine (tables_finds ends).mono ?_
  intro tables _ taken
  obtain ⟨_, readsTables, fromTables⟩ := taken
  have ends := readsTables.ends ends
  refine (conditionClause_finds inner .WHERE ends).mono ?_
  intro condition _ taken
  obtain ⟨_, readsCondition, derivedCondition⟩ := taken
  have ends := readsCondition.ends ends
  refine (orderClause_finds inner .GROUP ends).mono ?_
  intro grouping _ taken
  obtain ⟨_, readsGrouping, derivedGrouping⟩ := taken
  have ends := readsGrouping.ends ends
  refine (conditionClause_finds inner .HAVING ends).mono ?_
  intro having _ taken
  obtain ⟨_, readsHaving, derivedHaving⟩ := taken
  have ends := readsHaving.ends ends
  refine (orderClause_finds inner .ORDER ends).mono ?_
  intro ordering _ taken
  obtain ⟨_, readsOrdering, derivedOrdering⟩ := taken
  have reads := ((((((readsWord.trans readsDistinct).trans readsItems).trans readsTables).trans
    readsCondition).trans readsGrouping).trans readsHaving).trans readsOrdering
  rw [reads.spanFrom (by simp)]
  exact ⟨_, reads, .select word distinguished derivedItems fromTables derivedCondition
    derivedGrouping derivedHaving derivedOrdering⟩

/-! ### Statements -/

/-- However deep the parts may nest, every part is what the grammar derives. -/
theorem nested_sound (retry : Retry) (depth : Nat) : (Parse.nested retry depth).Sound := by
  induction depth with
  | zero =>
      exact ⟨fun _ _ _ => ensures_fail, fun _ => ensures_fail, fun _ _ _ => ensures_fail,
        fun _ => ensures_fail, fun _ => ensures_fail⟩
  | succ depth ih =>
      exact ⟨expr_finds retry ih, predicate_finds ih, bitExpr_finds ih, simpleExpr_finds ih,
        select_finds ih⟩

/-- The optional semicolon at the end of a statement. -/
inductive Closing : List Token → Prop
  | absent : Closing []
  | present {semicolon} : semicolon.kind = .symbol .semicolon → Closing [semicolon]

/-- A statement takes all tokens, and the grammar derives all but a final semicolon. -/
theorem statementWith_ensures (retry : Retry) (ends : cursor.Ends) :
    Ensures cursor (statementWith retry) fun node after =>
      ∃ tokens closing, cursor.Reads (tokens ++ closing) after ∧
        after.current.kind = .endOfInput ∧ Closing closing ∧
        DerivesWidely (.select node) tokens := by
  simp only [statementWith, ensures_bind, ensures_remaining, ensures_atSymbol]
  refine (select_finds (nested_sound retry _) ends).mono ?_
  intro node middle taken
  obtain ⟨tokens, reads, derived⟩ := taken
  have finish {closing : List Token} {later : Cursor} (readsClosing : middle.Reads closing later)
      (closes : Closing closing) :
      Ensures later (if (later.current.kind == .endOfInput) = true then pure node
        else fail .endOfInput) fun node after =>
          ∃ tokens closing, cursor.Reads (tokens ++ closing) after ∧
            after.current.kind = .endOfInput ∧ Closing closing ∧
              DerivesWidely (.select node) tokens := by
    split
    · rename_i atEnd
      exact ensures_pure.mpr
        ⟨tokens, closing, reads.trans readsClosing, beq_iff_eq.mp atEnd, closes, derived⟩
    · exact ensures_fail
  split
  · rename_i semicolon
    have semicolon := beq_iff_eq.mp semicolon
    simp only [ensures_bind, ensures_advance, ensures_atKind]
    have next := reads_advance_of_kind (reads.ends ends) semicolon (by decide)
    exact finish next (.present semicolon)
  · simp only [ensures_bind, ensures_atKind]
    exact finish (.refl middle) .absent

end AnnotatedSql.Grammar.Parse
