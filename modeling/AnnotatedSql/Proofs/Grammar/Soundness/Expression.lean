/-
This file shows that the parsers of expressions consume what the grammar derives.
-/

import AnnotatedSql.Proofs.Grammar.Soundness.Call

namespace AnnotatedSql.Grammar.Parse

open Cursor

variable {cursor : Cursor} {nested : Nested}

/-! ### Simple expressions -/

theorem literal_ensures (ends : cursor.Ends) {node : Literal}
    (more : cursor.current.kind ≠ .endOfInput)
    (made : literalOf cursor.current.kind cursor.current.span = node)
    (derived : node.Derives [cursor.current]) :
    Ensures cursor literal fun node after =>
      ∃ tokens, cursor.Reads tokens after ∧ DerivesWidely (.simpleExpr node) tokens := by
  simp only [literal, ensures_bind, ensures_kindAhead, ensures_terminal, ensures_pure]
  refine ⟨_, reads_advance ends more, ?_⟩
  change DerivesWidely (.simpleExpr (.literal (literalOf cursor.current.kind _))) _
  rw [made]
  exact .literal derived

theorem marker_ensures (ends : cursor.Ends) (found : cursor.current.kind = .symbol .question) :
    Ensures cursor marker fun node after =>
      ∃ tokens, cursor.Reads tokens after ∧ DerivesWidely (.simpleExpr node) tokens := by
  simp only [marker, ensures_bind, ensures_terminal, ensures_pure]
  exact ⟨_, reads_advance_of_kind ends found (by decide), .marker found⟩

theorem negativeNumber_ensures (ends : cursor.Ends)
    (sign : cursor.current.kind = .symbol .minus) (number : (cursor.ahead 1).kind = .number) :
    Ensures cursor negativeNumber fun node after =>
      ∃ tokens, cursor.Reads tokens after ∧ DerivesWidely (.simpleExpr node) tokens := by
  have number : cursor.advance.current.kind = .number := by
    rw [Cursor.current, advance_ahead]
    exact number
  have readsSign := reads_advance_of_kind ends sign (by decide)
  have readsNumber := reads_advance_of_kind (readsSign.ends ends) number (by decide)
  have reads := readsSign.trans readsNumber
  simp only [negativeNumber, ensures_bind, ensures_offset, ensures_advance, ensures_spanFrom,
    ensures_pure]
  rw [reads.spanFrom (by simp)]
  exact ⟨_, reads, .literal (.negativeNumber sign number)⟩

theorem existence_ensures (inner : nested.Sound) (ends : cursor.Ends)
    (word : cursor.current.kind = .keyword .EXISTS) :
    Ensures cursor (existence nested) fun node after =>
      ∃ tokens, cursor.Reads tokens after ∧ DerivesWidely (.simpleExpr node) tokens := by
  have readsWord := reads_advance_of_kind ends word (by decide)
  simp only [existence, ensures_bind, ensures_offset, ensures_terminal, ensures_spanFrom,
    ensures_pure]
  refine (subquery_finds inner (readsWord.ends ends)).mono ?_
  intro query after taken
  obtain ⟨_, readsQuery, derived⟩ := taken
  have reads := readsWord.trans readsQuery
  rw [reads.spanFrom (by simp)]
  exact ⟨_, reads, .existence word derived⟩

theorem bareSubquery_finds (inner : nested.Sound) :
    Finds (bareSubquery nested) fun node => DerivesWidely (.simpleExpr node) := by
  intro cursor ends
  exact (subquery_finds inner ends).kept .bareSubquery

theorem row_ensures (inner : nested.Sound) (ends : cursor.Ends)
    (opening : cursor.current.kind = .symbol .leftParen) :
    Ensures cursor (row nested) fun node after =>
      ∃ tokens, cursor.Reads tokens after ∧ DerivesWidely (.simpleExpr node) tokens := by
  have readsOpening := reads_advance_of_kind ends opening (by decide)
  have ends := readsOpening.ends ends
  simp only [row, ensures_bind, ensures_offset, ensures_advance, ensures_expectSymbol,
    ensures_spanFrom, ensures_pure]
  refine (exprList_finds inner ends).mono ?_
  intro items middle taken closing
  obtain ⟨_, readsItems, derived⟩ := taken
  have readsClosing := reads_advance_of_kind (readsItems.ends ends) closing (by decide)
  have reads := (readsOpening.trans readsItems).trans readsClosing
  rw [reads.spanFrom (by simp)]
  exact ⟨_, reads, .row opening derived closing⟩

theorem caseBranchesUpTo_finds (inner : nested.Sound) (rounds : Nat) :
    Finds (caseBranchesUpTo nested rounds) fun nodes => DerivesWidely (.branches nodes) := by
  induction rounds with
  | zero =>
      intro cursor ends
      simp only [caseBranchesUpTo, ensures_pure]
      exact ⟨_, .refl cursor, .noBranch⟩
  | succ rounds ih =>
      intro cursor ends
      simp only [caseBranchesUpTo, ensures_bind, ensures_atKeyword]
      split
      · rename_i opening
        have opening := beq_iff_eq.mp opening
        have readsOpening := reads_advance_of_kind ends opening (by decide)
        have ends := readsOpening.ends ends
        simp only [caseBranch, ensures_bind, ensures_offset, ensures_advance,
          ensures_expectKeyword, ensures_spanFrom, ensures_pure]
        refine (inner.expr 0 ends).mono ?_
        intro condition middle taken word
        obtain ⟨_, readsCondition, derivedCondition⟩ := taken
        have ends := readsCondition.ends ends
        have readsWord := reads_advance_of_kind ends word (by decide)
        have ends := readsWord.ends ends
        refine (inner.expr 0 ends).mono ?_
        intro result later taken
        obtain ⟨_, readsResult, derivedResult⟩ := taken
        have ends := readsResult.ends ends
        have readsBranch := (readsOpening.trans readsCondition).trans (readsWord.trans readsResult)
        rw [readsBranch.spanFrom (by simp)]
        refine (ih ends).mono ?_
        intro rest after taken
        obtain ⟨_, readsRest, derivedRest⟩ := taken
        exact ⟨_, readsBranch.trans readsRest,
          .branch opening derivedCondition word derivedResult derivedRest⟩
      · simp only [ensures_pure]
        exact ⟨_, .refl cursor, .noBranch⟩

theorem caseOperand_finds (inner : nested.Sound) :
    Finds (caseOperand? nested) fun node => DerivesWidely (.simpleExpr? node) := by
  intro cursor ends
  simp only [caseOperand?, ensures_bind, ensures_atKeyword]
  split
  · simp only [ensures_pure]
    exact ⟨_, .refl cursor, .noSimpleExpr⟩
  · exact (inner.simpleExpr ends).kept .someSimpleExpr

theorem otherwise_finds (inner : nested.Sound) :
    Finds (otherwise? nested) fun node => DerivesWidely (.ledExpr .ELSE node) :=
  led_finds (inner.expr 0) .unled .led

theorem caseExpr_ensures (inner : nested.Sound) (ends : cursor.Ends)
    (word : cursor.current.kind = .keyword .CASE) :
    Ensures cursor (caseExpr nested) fun node after =>
      ∃ tokens, cursor.Reads tokens after ∧ DerivesWidely (.simpleExpr node) tokens := by
  have readsWord := reads_advance_of_kind ends word (by decide)
  have ends := readsWord.ends ends
  simp only [caseExpr, ensures_bind, ensures_offset, ensures_advance, ensures_remaining]
  refine (caseOperand_finds inner ends).mono ?_
  intro operand compared taken
  obtain ⟨_, readsOperand, derivedOperand⟩ := taken
  have ends := readsOperand.ends ends
  refine (caseBranchesUpTo_finds inner _ ends).mono ?_
  intro branches middle taken
  obtain ⟨_, readsBranches, derivedBranches⟩ := taken
  have ends := readsBranches.ends ends
  split
  · exact ensures_fail
  · rename_i nonempty
    simp only [ensures_bind, ensures_expectKeyword, ensures_spanFrom, ensures_pure]
    refine (otherwise_finds inner ends).mono ?_
    intro otherwise later taken closing
    obtain ⟨_, readsOtherwise, derivedOtherwise⟩ := taken
    have readsClosing := reads_advance_of_kind (readsOtherwise.ends ends) closing (by decide)
    have reads := (((readsWord.trans readsOperand).trans readsBranches).trans
      readsOtherwise).trans readsClosing
    rw [reads.spanFrom (by simp)]
    exact ⟨_, reads, .caseOf word derivedOperand derivedBranches (by simpa using nonempty)
      derivedOtherwise closing⟩

theorem unary_ensures (inner : nested.Sound) (ends : cursor.Ends)
    (operator : isUnaryOperator cursor.current.kind) :
    Ensures cursor (unary nested) fun node after =>
      ∃ tokens, cursor.Reads tokens after ∧ DerivesWidely (.simpleExpr node) tokens := by
  have readsOperator := reads_advance_of_class ends operator rfl
  simp only [unary, ensures_bind, ensures_offset, ensures_terminal, ensures_spanFrom,
    ensures_pure]
  refine (inner.simpleExpr (readsOperator.ends ends)).mono ?_
  intro operand after taken
  obtain ⟨_, readsOperand, derived⟩ := taken
  have reads := readsOperator.trans readsOperand
  rw [reads.spanFrom (by simp)]
  exact ⟨_, reads, .unary operator derived⟩

theorem nameOrCall_finds (inner : nested.Sound) :
    Finds (nameOrCall nested) fun node => DerivesWidely (.simpleExpr node) := by
  intro cursor ends
  simp only [nameOrCall, ensures_bind, ensures_current, ensures_kindAhead]
  split
  · split
    · rename_i name
      exact (aggregationCall_ensures inner ends name).kept .aggregationCall
    · exact (regularCall_finds inner ends).kept .regularCall
  · exact (qualifiedName_finds ends).kept .column

theorem specialCall_ensures (inner : nested.Sound) (ends : cursor.Ends) {word : Keyword}
    (name : cursor.current.kind = .keyword word)
    (special : word = .CAST ∨ word = .SUBSTRING ∨ word = .EXTRACT ∨ word = .TRIM) :
    Ensures cursor (specialCall nested word) fun node after =>
      ∃ tokens, cursor.Reads tokens after ∧ DerivesWidely (.simpleExpr node) tokens := by
  have fromCall {call : SpecialCall} {after : Cursor}
      (found : ∃ tokens, cursor.Reads tokens after ∧ DerivesWidely (.special call) tokens) :
      ∃ tokens, cursor.Reads tokens after ∧
        DerivesWidely (.simpleExpr (Parse.special call)) tokens := by
    obtain ⟨tokens, reads, derived⟩ := found
    exact ⟨tokens, reads, .specialCall derived⟩
  simp only [specialCall, ensures_bind, ensures_kindAhead]
  split
  · rcases special with rfl | rfl | rfl | rfl
    · simp only [ensures_bind, ensures_pure]
      exact (castCall_ensures inner ends name).mono fun call after => fromCall
    · simp only [map_eq_pure_bind, ensures_bind, ensures_pure]
      exact (substringCall_ensures inner ends name).mono fun call after => fromCall
    · simp only [map_eq_pure_bind, ensures_bind, ensures_pure]
      exact (extractCall_ensures inner ends name).mono fun call after => fromCall
    · simp only [map_eq_pure_bind, ensures_bind, ensures_pure]
      exact (trimCall_ensures inner ends name).mono fun call after => fromCall
  · exact ensures_fail

theorem parenthesis_ensures (inner : nested.Sound) (ends : cursor.Ends)
    (opening : cursor.current.kind = .symbol .leftParen) :
    Ensures cursor (parenthesis nested) fun node after =>
      ∃ tokens, cursor.Reads tokens after ∧ DerivesWidely (.simpleExpr node) tokens := by
  simp only [parenthesis, ensures_bind, ensures_kindAhead]
  split
  · exact bareSubquery_finds inner ends
  · exact row_ensures inner ends opening

theorem minus_ensures (inner : nested.Sound) (ends : cursor.Ends)
    (sign : cursor.current.kind = .symbol .minus) :
    Ensures cursor (minus nested) fun node after =>
      ∃ tokens, cursor.Reads tokens after ∧ DerivesWidely (.simpleExpr node) tokens := by
  simp only [minus, ensures_bind, ensures_kindAhead]
  split
  · rename_i number
    exact negativeNumber_ensures ends sign number
  · exact unary_ensures inner ends (by rw [sign]; rfl)

theorem simpleExpr_finds (inner : nested.Sound) :
    Finds (simpleExpr nested) fun node => DerivesWidely (.simpleExpr node) := by
  intro cursor ends
  simp only [simpleExpr, ensures_bind, ensures_kindAhead]
  have current : (cursor.ahead 0).kind = cursor.current.kind := rfl
  rw [current]
  split
  case h_1 found => exact marker_ensures ends found
  case h_2 found => exact minus_ensures inner ends found
  case h_3 found => exact parenthesis_ensures inner ends found
  case h_4 found => exact unary_ensures inner ends (by rw [found]; rfl)
  case h_5 found => exact unary_ensures inner ends (by rw [found]; rfl)
  case h_6 found => exact unary_ensures inner ends (by rw [found]; rfl)
  case h_7 found => exact unary_ensures inner ends (by rw [found]; rfl)
  case h_8 found =>
    exact literal_ensures ends (by simp [found]) (by rw [found]; rfl) (.string found)
  case h_9 found =>
    exact literal_ensures ends (by simp [found]) (by rw [found]; rfl) (.number found)
  case h_10 found =>
    exact literal_ensures ends (by simp [found]) (by rw [found]; rfl) (.hexadecimal found)
  case h_11 found =>
    exact literal_ensures ends (by simp [found]) (by rw [found]; rfl) (.bitValue found)
  case h_12 found =>
    exact literal_ensures ends (by simp [found]) (by rw [found]; rfl) (.boolean (.inl found))
  case h_13 found =>
    exact literal_ensures ends (by simp [found]) (by rw [found]; rfl) (.boolean (.inr found))
  case h_14 found =>
    exact literal_ensures ends (by simp [found]) (by rw [found]; rfl) (.null found)
  case h_15 found => exact existence_ensures inner ends found
  case h_16 found => exact caseExpr_ensures inner ends found
  case h_17 found => exact specialCall_ensures inner ends found (by simp)
  case h_18 found => exact specialCall_ensures inner ends found (by simp)
  case h_19 found => exact specialCall_ensures inner ends found (by simp)
  case h_20 found => exact specialCall_ensures inner ends found (by simp)
  case h_21 =>
    split
    · exact nameOrCall_finds inner ends
    · exact ensures_fail
  case h_22 => exact nameOrCall_finds inner ends
  case h_23 => exact nameOrCall_finds inner ends
  case h_24 => exact ensures_fail

/-! ### Bit expressions and predicates -/

theorem bitChain_ensures (inner : nested.Sound) {start : Cursor} (ends : start.Ends)
    (minimum rounds : Nat) {left : BitExpr} {before : List Token}
    (reads : start.Reads before cursor)
    (derived : DerivesWidely (.bitExpr left) before) :
    Ensures cursor (bitChain nested start.current.span.start minimum rounds left) fun node after =>
      ∃ tokens, start.Reads tokens after ∧ DerivesWidely (.bitExpr node) tokens := by
  induction rounds generalizing cursor left before with
  | zero =>
      simp only [bitChain, ensures_pure]
      exact ⟨_, reads, derived⟩
  | succ rounds ih =>
      simp only [bitChain, ensures_bind, ensures_kindAhead]
      split
      · exact ensures_pure.mpr ⟨_, reads, derived⟩
      · rename_i level binds
        split
        · exact ensures_pure.mpr ⟨_, reads, derived⟩
        · have operator : isBitOperator cursor.current.kind := by
            rw [isBitOperator_eq, Cursor.current, binds]
            rfl
          have readsOperator := reads_advance_of_class (reads.ends ends) operator rfl
          simp only [ensures_bind, ensures_terminal, ensures_spanFrom]
          refine (inner.bitExpr _ (readsOperator.ends (reads.ends ends))).mono ?_
          intro right later taken
          obtain ⟨_, readsRight, derivedRight⟩ := taken
          have extended := reads.trans (readsOperator.trans readsRight)
          rw [extended.spanFrom (by simp)]
          exact ih extended (.binary derived operator derivedRight)

theorem bitExpr_finds (inner : nested.Sound) (minimum : Nat) :
    Finds (bitExpr nested minimum) fun node => DerivesWidely (.bitExpr node) := by
  intro cursor ends
  simp only [bitExpr, ensures_bind, ensures_offset, ensures_remaining]
  refine (simpleExpr_finds inner ends).mono ?_
  intro first middle taken
  obtain ⟨_, reads, derived⟩ := taken
  exact bitChain_ensures inner ends minimum _ reads (.simple derived)

/-- The words that a negation may stand before. -/
def isPredicateWord : TokenKind → Bool
  | .keyword .IN | .keyword .BETWEEN | .keyword .LIKE => true
  | _ => false

/-- A negation is read only before a word that it may negate. -/
theorem predicateNegation_ensures (ends : cursor.Ends) :
    Ensures cursor predicateNegation? fun negation after =>
      ∃ tokens, cursor.Reads tokens after ∧ Flag .NOT negation tokens ∧
        (isPredicateWord after.current.kind = false → negation = none ∧ tokens = []) := by
  have absent : ∃ tokens, cursor.Reads tokens cursor ∧ Flag .NOT none tokens ∧
      (isPredicateWord cursor.current.kind = false → (none : Option Span) = none ∧ tokens = []) :=
    ⟨_, .refl cursor, .absent, fun _ => ⟨rfl, rfl⟩⟩
  have negated (follows : isPredicateWord (cursor.ahead 1).kind = true) :
      Ensures cursor
        (if (cursor.current.kind == .keyword .NOT) = true then do
          let span ← terminal
          pure (some span)
        else pure none) fun negation after =>
          ∃ tokens, cursor.Reads tokens after ∧ Flag .NOT negation tokens ∧
            (isPredicateWord after.current.kind = false → negation = none ∧ tokens = []) := by
    split
    · rename_i word
      have word := beq_iff_eq.mp word
      simp only [ensures_bind, ensures_terminal, ensures_pure]
      refine ⟨_, reads_advance_of_kind ends word (by decide), .present word, ?_⟩
      intro other
      rw [Cursor.current, advance_ahead, follows] at other
      exact absurd other (by decide)
    · exact ensures_pure.mpr absent
  simp only [predicateNegation?, ensures_bind, ensures_atKeyword, ensures_kindAhead]
  split
  case h_1 follows => exact negated (by rw [follows]; rfl)
  case h_2 follows => exact negated (by rw [follows]; rfl)
  case h_3 follows => exact negated (by rw [follows]; rfl)
  case h_4 => exact ensures_pure.mpr absent

section
variable {start : Cursor} {operand : BitExpr} {negation : Option Span}
  {before negationTokens : List Token}

theorem membership_ensures (inner : nested.Sound) (ends : start.Ends)
    (readsHead : start.Reads (before ++ negationTokens) cursor)
    (derivedOperand : DerivesWidely (.bitExpr operand) before)
    (flag : Flag .NOT negation negationTokens) (word : cursor.current.kind = .keyword .IN) :
    Ensures cursor (membership nested start.current.span.start operand negation) fun node after =>
      ∃ tokens, start.Reads tokens after ∧ DerivesWidely (.predicate node) tokens := by
  have ends := readsHead.ends ends
  have readsWord := reads_advance_of_kind ends word (by decide)
  have ends := readsWord.ends ends
  simp only [membership, ensures_bind, ensures_advance, ensures_atSymbol, ensures_kindAhead]
  split
  · simp only [ensures_bind, ensures_spanFrom, ensures_pure]
    refine (subquery_finds inner ends).mono ?_
    intro query after taken
    obtain ⟨_, readsQuery, derived⟩ := taken
    have reads := readsHead.trans (readsWord.trans readsQuery)
    rw [reads.spanFrom (by simp)]
    exact ⟨_, reads, .inSubquery derivedOperand flag word derived⟩
  · simp only [ensures_bind, ensures_expectSymbol, ensures_spanFrom, ensures_pure]
    intro opening
    have readsOpening := reads_advance_of_kind ends opening (by decide)
    have ends := readsOpening.ends ends
    refine (exprList_finds inner ends).mono ?_
    intro items later taken closing
    obtain ⟨_, readsItems, derived⟩ := taken
    have readsClosing := reads_advance_of_kind (readsItems.ends ends) closing (by decide)
    have reads := (readsHead.trans (readsWord.trans (readsOpening.trans readsItems))).trans
      readsClosing
    rw [reads.spanFrom (by simp)]
    exact ⟨_, reads, .inList derivedOperand flag word opening derived closing⟩

theorem range_ensures (inner : nested.Sound) (ends : start.Ends)
    (readsHead : start.Reads (before ++ negationTokens) cursor)
    (derivedOperand : DerivesWidely (.bitExpr operand) before)
    (flag : Flag .NOT negation negationTokens) (word : cursor.current.kind = .keyword .BETWEEN) :
    Ensures cursor (range nested start.current.span.start operand negation) fun node after =>
      ∃ tokens, start.Reads tokens after ∧ DerivesWidely (.predicate node) tokens := by
  have ends := readsHead.ends ends
  have readsWord := reads_advance_of_kind ends word (by decide)
  have ends := readsWord.ends ends
  simp only [range, ensures_bind, ensures_advance, ensures_expectKeyword, ensures_spanFrom,
    ensures_pure]
  refine (inner.bitExpr 0 ends).mono ?_
  intro lower middle taken joined
  obtain ⟨_, readsLower, derivedLower⟩ := taken
  have ends := readsLower.ends ends
  have readsJoined := reads_advance_of_kind ends joined (by decide)
  have ends := readsJoined.ends ends
  refine (inner.predicate ends).mono ?_
  intro upper after taken
  obtain ⟨_, readsUpper, derivedUpper⟩ := taken
  have reads := (readsHead.trans (readsWord.trans readsLower)).trans (readsJoined.trans readsUpper)
  rw [reads.spanFrom (by simp)]
  exact ⟨_, reads, .between derivedOperand flag word derivedLower joined derivedUpper⟩

theorem escape_finds (inner : nested.Sound) :
    Finds (escape? nested) fun node => DerivesWidely (.escape node) :=
  led_finds inner.simpleExpr .noEscape .escape

theorem pattern_ensures (inner : nested.Sound) (ends : start.Ends)
    (readsHead : start.Reads (before ++ negationTokens) cursor)
    (derivedOperand : DerivesWidely (.bitExpr operand) before)
    (flag : Flag .NOT negation negationTokens) (word : cursor.current.kind = .keyword .LIKE) :
    Ensures cursor (pattern nested start.current.span.start operand negation) fun node after =>
      ∃ tokens, start.Reads tokens after ∧ DerivesWidely (.predicate node) tokens := by
  have ends := readsHead.ends ends
  have readsWord := reads_advance_of_kind ends word (by decide)
  have ends := readsWord.ends ends
  simp only [pattern, ensures_bind, ensures_advance, ensures_spanFrom, ensures_pure]
  refine (inner.simpleExpr ends).mono ?_
  intro shape middle taken
  obtain ⟨_, readsShape, derivedShape⟩ := taken
  refine (escape_finds inner (readsShape.ends ends)).mono ?_
  intro character after taken
  obtain ⟨_, readsEscape, derivedEscape⟩ := taken
  have reads := (readsHead.trans (readsWord.trans readsShape)).trans readsEscape
  rw [reads.spanFrom (by simp)]
  exact ⟨_, reads, .like derivedOperand flag word derivedShape derivedEscape⟩

end

theorem predicate_finds (inner : nested.Sound) :
    Finds (predicate nested) fun node => DerivesWidely (.predicate node) := by
  intro cursor ends
  simp only [predicate, ensures_bind, ensures_offset, ensures_kindAhead]
  refine (bitExpr_finds inner 0 ends).mono ?_
  intro operand middle taken
  obtain ⟨_, readsOperand, derivedOperand⟩ := taken
  refine (predicateNegation_ensures (readsOperand.ends ends)).mono ?_
  intro negation place taken
  obtain ⟨_, readsNegation, flag, alone⟩ := taken
  have readsHead := readsOperand.trans readsNegation
  have current : (place.ahead 0).kind = place.current.kind := rfl
  rw [current]
  split
  case h_1 word => exact membership_ensures inner ends readsHead derivedOperand flag word
  case h_2 word => exact range_ensures inner ends readsHead derivedOperand flag word
  case h_3 word => exact pattern_ensures inner ends readsHead derivedOperand flag word
  case h_4 =>
    have other : isPredicateWord place.current.kind = false := by
      unfold isPredicateWord
      split <;> simp_all
    obtain ⟨rfl, rfl⟩ := alone other
    rw [List.append_nil] at readsHead
    exact ensures_pure.mpr ⟨_, readsHead, .bitExpr derivedOperand⟩

/-! ### Comparisons and connectives -/

section
variable {start : Cursor} {left : BooleanPrimary} {before : List Token}

theorem truthTest_ensures (ends : start.Ends) (reads : start.Reads before cursor)
    (derived : DerivesWidely (.primary left) before) (word : cursor.current.kind = .keyword .IS) :
    Ensures cursor (truthTest start.current.span.start left) fun node after =>
      ∃ tokens, start.Reads tokens after ∧ DerivesWidely (.primary node) tokens := by
  have ends := reads.ends ends
  have readsWord := reads_advance_of_kind ends word (by decide)
  have ends := readsWord.ends ends
  simp only [truthTest, ensures_bind, ensures_advance, ensures_kindAhead]
  refine (keyword_finds .NOT ends).mono ?_
  intro negation later taken
  obtain ⟨_, readsNegation, flag⟩ := taken
  have ends := readsNegation.ends ends
  have tested (value : isTruthValue later.current.kind = true) :
      Ensures later (do
        let value ← terminal
        let span ← spanFrom start.current.span.start
        pure (BooleanPrimary.isTest span left negation value)) fun node after =>
          ∃ tokens, start.Reads tokens after ∧ DerivesWidely (.primary node) tokens := by
    simp only [ensures_bind, ensures_terminal, ensures_spanFrom, ensures_pure]
    have readsValue := reads_advance_of_class ends value rfl
    have extended := (reads.trans (readsWord.trans readsNegation)).trans readsValue
    rw [extended.spanFrom (by simp)]
    exact ⟨_, extended, .isTest derived word flag value⟩
  have current : (later.ahead 0).kind = later.current.kind := rfl
  rw [current]
  split
  case h_1 value => exact tested (by rw [value]; rfl)
  case h_2 value => exact tested (by rw [value]; rfl)
  case h_3 value => exact tested (by rw [value]; rfl)
  case h_4 value => exact tested (by rw [value]; rfl)
  case h_5 => exact ensures_fail

theorem comparison_ensures (inner : nested.Sound) (ends : start.Ends)
    (reads : start.Reads before cursor) (derived : DerivesWidely (.primary left) before)
    (operator : Precedence.isComparison cursor.current.kind) :
    Ensures cursor (comparison nested start.current.span.start left) fun node after =>
      ∃ tokens, start.Reads tokens after ∧ DerivesWidely (.primary node) tokens := by
  have ends := reads.ends ends
  have readsOperator := reads_advance_of_class ends operator rfl
  have ends := readsOperator.ends ends
  have quantified (quantifier : isQuantifier cursor.advance.current.kind = true) :
      Ensures cursor.advance (do
        let quantifier ← terminal
        let query ← subquery nested
        let span ← spanFrom start.current.span.start
        pure (BooleanPrimary.quantified span left cursor.current.span quantifier query))
          fun node after => ∃ tokens,
            start.Reads tokens after ∧ DerivesWidely (.primary node) tokens := by
    simp only [ensures_bind, ensures_terminal, ensures_spanFrom, ensures_pure]
    have readsQuantifier := reads_advance_of_class ends quantifier rfl
    have ends := readsQuantifier.ends ends
    refine (subquery_finds inner ends).mono ?_
    intro query after taken
    obtain ⟨_, readsQuery, derivedQuery⟩ := taken
    have extended := reads.trans (readsOperator.trans (readsQuantifier.trans readsQuery))
    rw [extended.spanFrom (by simp)]
    exact ⟨_, extended, .quantified derived operator quantifier derivedQuery⟩
  simp only [comparison, ensures_bind, ensures_terminal, ensures_kindAhead]
  have current : (cursor.advance.ahead 0).kind = cursor.advance.current.kind := rfl
  rw [current]
  split
  case h_1 word => exact quantified (by rw [word]; rfl)
  case h_2 word => exact quantified (by rw [word]; rfl)
  case h_3 word => exact quantified (by rw [word]; rfl)
  case h_4 =>
    simp only [ensures_bind, ensures_spanFrom, ensures_pure]
    refine (inner.predicate ends).mono ?_
    intro right after taken
    obtain ⟨_, readsRight, derivedRight⟩ := taken
    have extended := reads.trans (readsOperator.trans readsRight)
    rw [extended.spanFrom (by simp)]
    exact ⟨_, extended, .comparison derived operator derivedRight⟩

theorem primaryChain_ensures (inner : nested.Sound) (ends : start.Ends) (rounds : Nat)
    (reads : start.Reads before cursor) (derived : DerivesWidely (.primary left) before) :
    Ensures cursor (primaryChain nested start.current.span.start rounds left) fun node after =>
      ∃ tokens, start.Reads tokens after ∧ DerivesWidely (.primary node) tokens := by
  induction rounds generalizing cursor left before with
  | zero =>
      simp only [primaryChain, ensures_pure]
      exact ⟨_, reads, derived⟩
  | succ rounds ih =>
      simp only [primaryChain, ensures_bind, ensures_kindAhead]
      split
      · rename_i word
        rw [ensures_bind]
        refine (truthTest_ensures ends reads derived word).mono ?_
        intro test after taken
        obtain ⟨_, extended, derivedTest⟩ := taken
        exact ih extended derivedTest
      · split
        · rename_i operator
          rw [ensures_bind]
          refine (comparison_ensures inner ends reads derived operator).mono ?_
          intro compared after taken
          obtain ⟨_, extended, derivedComparison⟩ := taken
          exact ih extended derivedComparison
        · exact ensures_pure.mpr ⟨_, reads, derived⟩

end

theorem booleanPrimary_finds (inner : nested.Sound) :
    Finds (booleanPrimary nested) fun node => DerivesWidely (.primary node) := by
  intro cursor ends
  simp only [booleanPrimary, ensures_bind, ensures_offset, ensures_remaining]
  refine (predicate_finds inner ends).mono ?_
  intro first middle taken
  obtain ⟨_, reads, derived⟩ := taken
  exact primaryChain_ensures inner ends _ reads (.predicate derived)

theorem primaryExpr_finds (inner : nested.Sound) :
    Finds (primaryExpr nested) fun node => DerivesWidely (.expr node) := by
  intro cursor ends
  exact (booleanPrimary_finds inner ends).kept .primary

/-- An expression in parentheses is an operand if what follows does not make it longer. -/
theorem enclosed_run {node : Expr} {middle : Cursor}
    (run : nested.expr 0 cursor.advance = (.ok node, middle))
    (closes : middle.current.kind = .symbol .rightParen)
    (stops : Precedence.continuesOperand middle.advance.current.kind = false) :
    enclosed? nested cursor =
      (.ok (some (.paren (middle.advance.spanFrom cursor.current.span.start) node)),
        middle.advance) := by
  rw [enclosed?, bind_look offset_run]
  change (nested.expr 0 >>= _) cursor.advance = _
  rw [bind_run, run]
  change (if (middle.current.kind == .symbol .rightParen) = true then _ else _ : Parser _) middle =
    _
  rw [closes]
  change (if Precedence.continuesOperand middle.advance.current.kind = true then _ else _ :
    Parser _) middle.advance = _
  rw [stops]
  rfl

/-- A parenthesis that is taken encloses an expression, and no operator below the logical level
follows it. -/
theorem enclosed_takes (inner : nested.Sound) (ends : cursor.Ends)
    (opens : cursor.current.kind = .symbol .leftParen) :
    Ensures cursor (enclosed? nested) fun found after => ∀ node, found = some node →
      ∃ opening inside closing expr, cursor.Reads (opening :: inside ++ [closing]) after ∧
        opening.kind = .symbol .leftParen ∧ DerivesWidely (.expr expr) inside ∧
        closing.kind = .symbol .rightParen ∧
        node = .paren (cover (opening :: inside ++ [closing])) expr ∧
        Precedence.continuesOperand after.current.kind = false := by
  have readsOpening := reads_advance_of_kind ends opens (by decide)
  have ends := readsOpening.ends ends
  simp only [enclosed?, ensures_bind, ensures_offset, ensures_advance, ensures_atSymbol]
  refine (inner.expr 0 ends).mono ?_
  intro inside middle taken
  obtain ⟨tokens, readsInside, derived⟩ := taken
  split
  · rename_i closing
    have closing := beq_iff_eq.mp closing
    simp only [ensures_bind, ensures_advance, ensures_kindAhead]
    split
    · exact ensures_pure.mpr (by simp)
    · next following =>
      have readsClosing := reads_advance_of_kind (readsInside.ends ends) closing (by decide)
      have reads := (readsOpening.trans readsInside).trans readsClosing
      simp only [ensures_bind, ensures_spanFrom, ensures_pure]
      rintro node ⟨⟩
      rw [reads.spanFrom (by simp)]
      exact ⟨_, tokens, _, inside, reads, opens, derived, closing, rfl,
        Bool.eq_false_iff.mpr following⟩
  · exact ensures_pure.mpr (by simp)

theorem enclosed_ensures (inner : nested.Sound) (ends : cursor.Ends)
    (opens : cursor.current.kind = .symbol .leftParen) :
    Ensures cursor (enclosed? nested) fun found after => ∀ node, found = some node →
      ∃ tokens, cursor.Reads tokens after ∧ DerivesWidely (.expr node) tokens := by
  refine (enclosed_takes inner ends opens).mono ?_
  intro found after taken node some
  obtain ⟨opening, inside, closing, expr, reads, opened, derived, closed, rfl, _⟩ := taken node some
  exact ⟨_, reads, .paren opened derived closed⟩

/-- A parenthesis that is given up leaves the place as it was. -/
theorem parenthesised_ensures (retry : Retry) (inner : nested.Sound) (ends : cursor.Ends)
    (opening : cursor.current.kind = .symbol .leftParen) :
    Ensures cursor (parenthesised? retry nested) fun found after =>
      (found = none ∧ cursor.Reads [] after) ∨
        ∃ node, found = some node ∧
          ∃ tokens, cursor.Reads tokens after ∧ DerivesWidely (.expr node) tokens := by
  simp only [parenthesised?, ensures_bind, ensures_get]
  split
  · exact ensures_pure.mpr (.inl ⟨rfl, .refl cursor⟩)
  · rw [ensures_bind]
    have restored (later : Cursor) : cursor.Reads [] (cursor.giveUp later) := ⟨rfl, rfl, rfl⟩
    apply ensures_attempt
    · refine (enclosed_ensures inner ends opening).mono ?_
      intro found after enclosed
      cases found with
      | none =>
          rw [ensures_bind, ensures_modify, ensures_pure]
          exact .inl ⟨rfl, restored after⟩
      | some node => exact ensures_pure.mpr (.inr ⟨node, rfl, enclosed node rfl⟩)
    · intro after
      rw [ensures_bind, ensures_modify, ensures_pure]
      exact .inl ⟨rfl, restored after⟩

theorem parenthesisedOrPrimary_ensures (retry : Retry) (inner : nested.Sound) (ends : cursor.Ends)
    (opening : cursor.current.kind = .symbol .leftParen) :
    Ensures cursor (parenthesisedOrPrimary retry nested) fun node after =>
      ∃ tokens, cursor.Reads tokens after ∧ DerivesWidely (.expr node) tokens := by
  simp only [parenthesisedOrPrimary, ensures_bind]
  refine (parenthesised_ensures retry inner ends opening).mono ?_
  intro found middle taken
  rcases taken with ⟨rfl, readsNothing⟩ | ⟨node, rfl, enclosed⟩
  · refine (primaryExpr_finds inner (readsNothing.ends ends)).mono ?_
    intro node after taken
    obtain ⟨_, reads, derived⟩ := taken
    exact ⟨_, readsNothing.trans reads, derived⟩
  · exact ensures_pure.mpr enclosed

theorem negated_ensures (inner : nested.Sound) (ends : cursor.Ends)
    (operator : isNegation cursor.current.kind) :
    Ensures cursor (negated nested) fun node after =>
      ∃ tokens, cursor.Reads tokens after ∧ DerivesWidely (.expr node) tokens := by
  have readsOperator := reads_advance_of_class ends operator rfl
  simp only [negated, ensures_bind, ensures_offset, ensures_terminal, ensures_spanFrom,
    ensures_pure]
  refine (inner.expr _ (readsOperator.ends ends)).mono ?_
  intro operand after taken
  obtain ⟨_, readsOperand, derived⟩ := taken
  have reads := readsOperator.trans readsOperand
  rw [reads.spanFrom (by simp)]
  exact ⟨_, reads, .negation operator derived⟩

theorem operand_finds (retry : Retry) (inner : nested.Sound) :
    Finds (operand retry nested) fun node => DerivesWidely (.expr node) := by
  intro cursor ends
  simp only [operand, ensures_bind, ensures_kindAhead]
  have current : (cursor.ahead 0).kind = cursor.current.kind := rfl
  rw [current]
  split
  case h_1 found => exact negated_ensures inner ends (by rw [found]; rfl)
  case h_2 found => exact negated_ensures inner ends (by rw [found]; rfl)
  case h_3 opening =>
    simp only [ensures_bind, ensures_kindAhead]
    split
    · exact primaryExpr_finds inner ends
    · exact parenthesisedOrPrimary_ensures retry inner ends opening
  case h_4 => exact primaryExpr_finds inner ends

theorem logicalChain_ensures (inner : nested.Sound) {start : Cursor} (ends : start.Ends)
    (minimum rounds : Nat) {left : Expr} {before : List Token} (reads : start.Reads before cursor)
    (derived : DerivesWidely (.expr left) before) :
    Ensures cursor (logicalChain nested start.current.span.start minimum rounds left)
      fun node after => ∃ tokens, start.Reads tokens after ∧ DerivesWidely (.expr node) tokens := by
  induction rounds generalizing cursor left before with
  | zero =>
      simp only [logicalChain, ensures_pure]
      exact ⟨_, reads, derived⟩
  | succ rounds ih =>
      simp only [logicalChain, ensures_bind, ensures_kindAhead]
      split
      · exact ensures_pure.mpr ⟨_, reads, derived⟩
      · rename_i level binds
        split
        · exact ensures_pure.mpr ⟨_, reads, derived⟩
        · have operator : isConnective (cursor.ahead 0).kind = true ∨
              (cursor.ahead 0).kind = .keyword .XOR := by
            have known := logical_isSome (cursor.ahead 0).kind
            rw [binds] at known
            simpa using known.symm
          have more : cursor.current.kind ≠ .endOfInput := by
            intro atEnd
            rw [Cursor.current] at atEnd
            simp [atEnd, isConnective] at operator
          have readsOperator := reads_advance (reads.ends ends) more
          simp only [ensures_bind, ensures_terminal, ensures_spanFrom]
          refine (inner.expr _ (readsOperator.ends (reads.ends ends))).mono ?_
          intro right later taken
          obtain ⟨_, readsRight, derivedRight⟩ := taken
          have extended := reads.trans (readsOperator.trans readsRight)
          rw [extended.spanFrom (by simp)]
          split
          · rename_i exclusive
            exact ih extended (.xor derived exclusive derivedRight)
          · rename_i inclusive
            exact ih extended (.logical derived (operator.resolve_right inclusive) derivedRight)

theorem expr_finds (retry : Retry) (inner : nested.Sound) (minimum : Nat) :
    Finds (expr retry nested minimum) fun node => DerivesWidely (.expr node) := by
  intro cursor ends
  simp only [expr, ensures_bind, ensures_offset, ensures_remaining]
  refine (operand_finds retry inner ends).mono ?_
  intro first middle taken
  obtain ⟨_, reads, derived⟩ := taken
  exact logicalChain_ensures inner ends minimum _ reads derived

end AnnotatedSql.Grammar.Parse
