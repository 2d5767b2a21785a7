/-
This file shows that the parsers of names, lists and calls consume what the grammar derives.
-/

import AnnotatedSql.Grammar.Parse
import AnnotatedSql.Proofs.Grammar.Consumption

namespace AnnotatedSql.Grammar

open Cursor

/-- Each nested parser consumes a phrase of its kind. -/
structure Parse.Nested.Sound (nested : Parse.Nested) : Prop where
  expr (minimum : Nat) : Parse.Finds (nested.expr minimum) fun node => DerivesWidely (.expr node)
  predicate : Parse.Finds nested.predicate fun node => DerivesWidely (.predicate node)
  bitExpr (minimum : Nat) :
    Parse.Finds (nested.bitExpr minimum) fun node => DerivesWidely (.bitExpr node)
  simpleExpr : Parse.Finds nested.simpleExpr fun node => DerivesWidely (.simpleExpr node)
  select : Parse.Finds nested.select fun node => DerivesWidely (.select node)

namespace Parse

variable {cursor : Cursor} {nested : Nested}

/-! ### Names and lists -/

theorem identifier_finds :
    Finds identifier fun node tokens =>
      ∃ name : Token, name.kind.isName ∧ node = Identifier.ofToken name ∧ tokens = [name] := by
  intro cursor ends
  simp only [identifier, ensures_bind, ensures_current]
  split
  · rename_i found
    simp only [ensures_bind, ensures_advance, ensures_pure]
    refine ⟨_, reads_advance_of_kind ends found (by decide), _, ?_, ?_, rfl⟩
    · rw [found]
      rfl
    · rw [Identifier.ofToken, found]
      rfl
  · rename_i found
    simp only [ensures_bind, ensures_advance, ensures_pure]
    refine ⟨_, reads_advance_of_kind ends found (by decide), _, ?_, ?_, rfl⟩
    · rw [found]
      rfl
    · rw [Identifier.ofToken, found]
      rfl
  · rename_i word found
    split
    · rename_i unreserved
      simp only [ensures_bind, ensures_advance, ensures_pure]
      refine ⟨_, reads_advance_of_kind ends found (by simp), _, ?_, ?_, rfl⟩
      · rw [found]
        exact unreserved
      · rw [Identifier.ofToken, found]
        rfl
    · exact ensures_fail
  · exact ensures_fail

theorem qualifiedName_finds : Finds qualifiedName QualifiedName.Derives := by
  intro cursor ends
  simp only [qualifiedName, ensures_bind, ensures_offset, ensures_kindAhead, ensures_atSymbol]
  refine (identifier_finds ends).mono ?_
  intro _ middle taken
  obtain ⟨_, readsOwner, owner, ownerName, rfl, rfl⟩ := taken
  split
  · rename_i dotted
    simp only [Bool.and_eq_true, beq_iff_eq] at dotted
    simp only [ensures_bind, ensures_advance, ensures_spanFrom, ensures_pure]
    have readsDot := reads_advance_of_kind (readsOwner.ends ends) dotted.1 (by decide)
    refine (identifier_finds (readsDot.ends (readsOwner.ends ends))).mono ?_
    intro _ after taken
    obtain ⟨_, readsName, name, isName, rfl, rfl⟩ := taken
    have reads := readsOwner.trans (readsDot.trans readsName)
    refine ⟨_, reads, ?_⟩
    rw [reads.spanFrom (by simp)]
    exact .owned ownerName dotted.1 isName
  · simp only [ensures_pure]
    exact ⟨_, readsOwner, .plain ownerName⟩

theorem label_finds :
    Finds label fun node tokens =>
      ∃ name : Token, name.kind.isName ∧ node = Label.ofToken name ∧ tokens = [name] := by
  intro cursor ends
  simp only [label, ensures_bind, ensures_pure]
  refine (identifier_finds ends).mono ?_
  intro _ after taken
  obtain ⟨_, reads, name, isName, rfl, rfl⟩ := taken
  exact ⟨_, reads, name, isName, rfl, rfl⟩

/-- A phrase behind a word, if the word is there. -/
theorem led_finds {Inner : Type} {word : Keyword} {parser : Parser Inner}
    {phrase : Inner → List Token → Prop} {wanted : Option Inner → List Token → Prop}
    (finds : Finds parser phrase) (unled : wanted none [])
    (led : ∀ {token : Token} {node : Inner} {tokens : List Token},
      token.kind = .keyword word → phrase node tokens → wanted (some node) (token :: tokens)) :
    Finds
      (do if ← atKeyword word then
            advance
            let inner ← parser
            return some inner
          else
            return none)
      wanted := by
  intro cursor ends
  simp only [ensures_bind, ensures_atKeyword]
  split
  · rename_i found
    simp only [ensures_bind, ensures_advance, ensures_pure]
    have found := beq_iff_eq.mp found
    have readsWord := reads_advance_of_kind ends found (by simp)
    refine (finds (readsWord.ends ends)).mono ?_
    intro node after taken
    obtain ⟨_, reads, held⟩ := taken
    exact ⟨_, readsWord.trans reads, led found held⟩
  · simp only [ensures_pure]
    exact ⟨_, .refl cursor, unled⟩

theorem itemLabel_finds : Finds itemLabel? ItemLabel := by
  intro cursor ends
  simp only [itemLabel?, ensures_bind, ensures_atKeyword]
  split
  · rename_i word
    simp only [ensures_bind, ensures_advance, ensures_pure]
    have readsWord := reads_advance_of_kind ends (beq_iff_eq.mp word) (by decide)
    refine (label_finds (readsWord.ends ends)).mono ?_
    intro _ after taken
    obtain ⟨_, readsName, name, isName, rfl, rfl⟩ := taken
    exact ⟨_, readsWord.trans readsName, .led (beq_iff_eq.mp word) isName⟩
  · simp only [ensures_bind, ensures_kindAhead]
    split
    · simp only [ensures_bind, ensures_pure]
      refine (label_finds ends).mono ?_
      intro _ after taken
      obtain ⟨_, reads, name, isName, rfl, rfl⟩ := taken
      exact ⟨_, reads, .bare isName⟩
    · simp only [ensures_pure]
      exact ⟨_, .refl cursor, .absent⟩

theorem keyword_finds (word : Keyword) : Finds (keyword? word) (Flag word) := by
  intro cursor ends
  simp only [keyword?, ensures_bind, ensures_atKeyword]
  split
  · rename_i found
    simp only [ensures_bind, ensures_terminal, ensures_pure]
    exact ⟨_, reads_advance_of_kind ends (beq_iff_eq.mp found) (by simp),
      .present (beq_iff_eq.mp found)⟩
  · simp only [ensures_pure]
    exact ⟨_, .refl cursor, .absent⟩

section
variable {Item : Type} {item : Parser Item} {phrase : Item → List Token → Prop}

theorem commaListUpTo_finds (each : Finds item phrase) (rounds : Nat) :
    Finds (commaListUpTo item rounds) (CommaList phrase) := by
  induction rounds with
  | zero =>
      intro cursor ends
      rw [commaListUpTo]
      exact (each ends).kept .single
  | succ rounds ih =>
      intro cursor ends
      simp only [commaListUpTo, ensures_bind, ensures_atSymbol]
      refine (each ends).mono ?_
      intro first middle taken
      obtain ⟨tokens, reads, found⟩ := taken
      split
      · rename_i comma
        simp only [ensures_bind, ensures_advance, ensures_pure]
        have readsComma := reads_advance_of_kind (reads.ends ends) (beq_iff_eq.mp comma) (by decide)
        refine (ih (readsComma.ends (reads.ends ends))).mono ?_
        intro others after taken
        obtain ⟨_, readsOthers, list⟩ := taken
        exact ⟨_, reads.trans (readsComma.trans readsOthers),
          .cons found (beq_iff_eq.mp comma) list⟩
      · simp only [ensures_pure]
        exact ⟨_, reads, .single found⟩

theorem commaList_finds (each : Finds item phrase) :
    Finds (commaList item) (CommaList phrase) := by
  intro cursor ends
  simp only [commaList, ensures_bind, ensures_remaining]
  exact commaListUpTo_finds each _ ends

end

theorem nameList_finds :
    Finds nameList fun node tokens =>
      ∃ names, node = ⟨cover tokens, names⟩ ∧ CommaList QualifiedName.Derives names tokens := by
  intro cursor ends
  simp only [nameList, ensures_bind, ensures_offset, ensures_spanFrom, ensures_pure]
  refine (commaList_finds qualifiedName_finds ends).mono ?_
  intro names after taken
  obtain ⟨tokens, reads, list⟩ := taken
  rw [reads.spanFrom (list.nonempty fun _ _ derived => derived.nonempty)]
  exact ⟨_, reads, names, rfl, list⟩

theorem exprList_finds (inner : nested.Sound) :
    Finds (exprList nested) fun nodes => DerivesWidely (.exprs nodes) := by
  intro cursor ends
  refine (commaList_finds (inner.expr 0) ends).mono ?_
  intro nodes after taken
  obtain ⟨tokens, reads, list⟩ := taken
  exact ⟨_, reads, derives_exprs_iff.mpr list⟩

theorem subquery_finds (inner : nested.Sound) :
    Finds (subquery nested) fun node => DerivesWidely (.subquery node) := by
  intro cursor ends
  simp only [subquery, ensures_bind, ensures_offset, ensures_expectSymbol, ensures_spanFrom,
    ensures_pure]
  intro opening
  have readsOpening := reads_advance_of_kind ends opening (by decide)
  have inside := readsOpening.ends ends
  refine (inner.select inside).mono ?_
  intro node middle taken closing
  obtain ⟨tokens, readsSelect, derived⟩ := taken
  have readsClosing := reads_advance_of_kind (readsSelect.ends inside) closing (by decide)
  have reads := (readsOpening.trans readsSelect).trans readsClosing
  rw [reads.spanFrom (by simp)]
  exact ⟨_, reads, .subquery opening derived closing⟩

/-! ### Arguments -/

theorem argumentsUpTo_finds (inner : nested.Sound) (rounds : Nat) :
    Finds (argumentsUpTo nested rounds) fun nodes => DerivesWidely (.argumentChain nodes) := by
  induction rounds with
  | zero =>
      intro cursor ends
      rw [argumentsUpTo]
      exact (inner.expr 0 ends).kept .lastArgument
  | succ rounds ih =>
      intro cursor ends
      simp only [argumentsUpTo, ensures_bind, ensures_atSymbol]
      refine (inner.expr 0 ends).mono ?_
      intro first middle taken
      obtain ⟨tokens, reads, derived⟩ := taken
      split
      · rename_i comma
        simp only [ensures_bind, ensures_terminal, ensures_pure]
        have readsComma := reads_advance_of_kind (reads.ends ends) (beq_iff_eq.mp comma) (by decide)
        refine (ih (readsComma.ends (reads.ends ends))).mono ?_
        intro others after taken
        obtain ⟨_, readsOthers, chain⟩ := taken
        exact ⟨_, reads.trans (readsComma.trans readsOthers),
          .furtherArgument derived (beq_iff_eq.mp comma) chain⟩
      · simp only [ensures_pure]
        exact ⟨_, reads, .lastArgument derived⟩

theorem aggregationArguments_finds (inner : nested.Sound) :
    Finds (aggregationArguments nested) fun nodes => DerivesWidely (.arguments nodes) := by
  intro cursor ends
  simp only [aggregationArguments, ensures_bind, ensures_atSymbol]
  split
  · rename_i star
    simp only [ensures_bind, ensures_terminal, ensures_pure]
    exact ⟨_, reads_advance_of_kind ends (beq_iff_eq.mp star) (by decide),
      .allArguments (beq_iff_eq.mp star)⟩
  · simp only [ensures_bind, ensures_atSymbol]
    split
    · simp only [ensures_pure]
      exact ⟨_, .refl cursor, .noArguments⟩
    · simp only [ensures_bind, ensures_remaining]
      refine (argumentsUpTo_finds inner _ ends).mono ?_
      intro nodes after taken
      obtain ⟨tokens, reads, chain⟩ := taken
      exact ⟨_, reads, .someArguments chain⟩

theorem regularArguments_finds (inner : nested.Sound) :
    Finds (regularArguments nested) fun found =>
      DerivesWidely (.regularArguments found.1 found.2) := by
  intro cursor ends
  simp only [regularArguments, ensures_bind, ensures_atSymbol]
  split
  · rename_i star
    simp only [ensures_bind, ensures_terminal, ensures_pure]
    exact ⟨_, reads_advance_of_kind ends (beq_iff_eq.mp star) (by decide),
      .allRegularArguments (beq_iff_eq.mp star)⟩
  · simp only [ensures_bind, ensures_atSymbol]
    split
    · simp only [ensures_pure]
      exact ⟨_, .refl cursor, .noRegularArguments⟩
    · exact (exprList_finds inner ends).kept .someRegularArguments

theorem argumentAfter_finds (inner : nested.Sound) (word : Keyword) :
    Finds (argumentAfter? nested word) fun node => DerivesWidely (.separatedExpr word node) := by
  intro cursor ends
  simp only [argumentAfter?, ensures_bind, ensures_atKeyword, ensures_atSymbol]
  split
  · rename_i separator
    simp only [Bool.or_eq_true, beq_iff_eq] at separator
    simp only [ensures_bind, ensures_advance, ensures_pure]
    have more : cursor.current.kind ≠ .endOfInput := by
      rcases separator with found | found <;> simp [found]
    have readsSeparator := reads_advance ends more
    refine (inner.expr 0 (readsSeparator.ends ends)).mono ?_
    intro node after taken
    obtain ⟨tokens, reads, derived⟩ := taken
    exact ⟨_, readsSeparator.trans reads, .separated separator derived⟩
  · simp only [ensures_pure]
    exact ⟨_, .refl cursor, .unseparated⟩

/-! ### Data types -/

theorem skipIdentifiers_finds (rounds : Nat) :
    Finds (skipIdentifiers rounds) fun _ tokens => ∀ word ∈ tokens, word.kind = .identifier := by
  induction rounds with
  | zero =>
      intro cursor ends
      simp only [skipIdentifiers, ensures_pure]
      exact ⟨[], .refl cursor, by simp⟩
  | succ rounds ih =>
      intro cursor ends
      simp only [skipIdentifiers, ensures_bind, ensures_atKind]
      split
      · rename_i found
        simp only [ensures_bind, ensures_advance]
        have readsWord := reads_advance_of_kind ends (beq_iff_eq.mp found) (by decide)
        refine (ih (readsWord.ends ends)).mono ?_
        intro _ after taken
        obtain ⟨words, reads, identifiers⟩ := taken
        refine ⟨_, readsWord.trans reads, ?_⟩
        simp only [List.singleton_append, List.mem_cons, forall_eq_or_imp]
        exact ⟨beq_iff_eq.mp found, identifiers⟩
      · simp only [ensures_pure]
        exact ⟨[], .refl cursor, by simp⟩

/-- If identifiers are skipped at an identifier, at least that one is skipped. -/
theorem skipIdentifiers_nonempty {rounds : Nat} (found : cursor.current.kind = .identifier)
    (ends : cursor.Ends) :
    Ensures cursor (skipIdentifiers (rounds + 1)) fun _ after =>
      ∃ tokens, cursor.Reads tokens after ∧ tokens ≠ [] ∧
        ∀ word ∈ tokens, word.kind = .identifier := by
  simp only [skipIdentifiers, ensures_bind, ensures_atKind, found, beq_self_eq_true, if_true,
    ensures_advance]
  have readsWord := reads_advance_of_kind ends found (by decide)
  refine (skipIdentifiers_finds rounds (readsWord.ends ends)).mono ?_
  intro _ after taken
  obtain ⟨words, reads, identifiers⟩ := taken
  refine ⟨_, readsWord.trans reads, by simp, ?_⟩
  simp only [List.singleton_append, List.mem_cons, forall_eq_or_imp]
  exact ⟨found, identifiers⟩

theorem dataTypeLength_ensures (ends : cursor.Ends)
    (opening : cursor.current.kind = .symbol .leftParen) :
    Ensures cursor dataTypeLength fun _ after =>
      ∃ tokens, cursor.Reads tokens after ∧ TypeLength tokens := by
  have readsOpening := reads_advance_of_kind ends opening (by decide)
  simp only [dataTypeLength, ensures_bind, ensures_advance, ensures_expectKind, ensures_atSymbol]
  intro length
  have readsLength := reads_advance_of_kind (readsOpening.ends ends) length (by decide)
  have ends := readsLength.ends (readsOpening.ends ends)
  split
  · rename_i comma
    simp only [ensures_bind, ensures_advance, ensures_expectKind, ensures_expectSymbol,
      ensures_pure]
    intro scale closing
    have readsComma := reads_advance_of_kind ends (beq_iff_eq.mp comma) (by decide)
    have ends := readsComma.ends ends
    have readsScale := reads_advance_of_kind ends scale (by decide)
    have readsClosing := reads_advance_of_kind (readsScale.ends ends) closing (by decide)
    exact ⟨_, readsOpening.trans (readsLength.trans (readsComma.trans
      (readsScale.trans readsClosing))),
      .scaled opening length (beq_iff_eq.mp comma) scale closing⟩
  · simp only [ensures_bind, ensures_expectSymbol, ensures_pure]
    intro closing
    have readsClosing := reads_advance_of_kind ends closing (by decide)
    exact ⟨_, readsOpening.trans (readsLength.trans readsClosing),
      .length opening length closing⟩

theorem dataType_finds : Finds dataType DataType.Derives := by
  intro cursor ends
  simp only [dataType, ensures_bind, ensures_offset, ensures_atKind]
  split
  · rename_i found
    have found := beq_iff_eq.mp found
    have position : cursor.position = cursor.advance.position + 1 := by
      rw [(reads_advance_of_kind ends found (by decide)).position, Nat.add_comm]
      rfl
    simp only [ensures_bind, ensures_remaining, ensures_spanFrom, ensures_atSymbol, position]
    refine (skipIdentifiers_nonempty found ends).mono ?_
    intro _ middle taken
    obtain ⟨words, readsWords, nonempty, identifiers⟩ := taken
    rw [readsWords.spanFrom nonempty]
    split
    · rename_i opening
      simp only [ensures_bind, ensures_spanFrom, ensures_pure]
      refine (dataTypeLength_ensures (readsWords.ends ends) (beq_iff_eq.mp opening)).mono ?_
      intro _ after taken
      obtain ⟨length, readsLength, isLength⟩ := taken
      have reads := readsWords.trans readsLength
      rw [reads.spanFrom (by simp [nonempty])]
      exact ⟨_, reads, .sized nonempty identifiers isLength⟩
    · simp only [ensures_bind, ensures_spanFrom, ensures_pure]
      rw [readsWords.spanFrom nonempty]
      exact ⟨_, readsWords, .plain nonempty identifiers⟩
  · exact ensures_fail

/-! ### Calls -/

theorem namesAggregate_atEnd {token : Token} (atEnd : token.kind = .endOfInput) :
    namesAggregate token = false := by
  simp [namesAggregate, atEnd]

theorem aggregationCall_ensures (inner : nested.Sound) (ends : cursor.Ends)
    (name : namesAggregate cursor.current) :
    Ensures cursor (aggregationCall nested) fun node after =>
      ∃ tokens, cursor.Reads tokens after ∧ DerivesWidely (.aggregation node) tokens := by
  have readsName := reads_advance ends fun atEnd => by simp [namesAggregate_atEnd atEnd] at name
  have ends := readsName.ends ends
  simp only [aggregationCall, ensures_bind, ensures_offset, ensures_terminal,
    ensures_expectSymbol, ensures_spanFrom, ensures_pure]
  intro opening
  have readsOpening := reads_advance_of_kind ends opening (by decide)
  have ends := readsOpening.ends ends
  refine (keyword_finds .DISTINCT ends).mono ?_
  intro distinct middle taken
  obtain ⟨_, readsDistinct, flag⟩ := taken
  have ends := readsDistinct.ends ends
  refine (aggregationArguments_finds inner ends).mono ?_
  intro arguments later taken closing
  obtain ⟨_, readsArguments, derived⟩ := taken
  have readsClosing := reads_advance_of_kind (readsArguments.ends ends) closing (by decide)
  have reads := ((readsName.trans (readsOpening.trans readsDistinct)).trans readsArguments).trans
    readsClosing
  rw [reads.spanFrom (by simp)]
  exact ⟨_, reads, .aggregation name opening flag derived closing⟩

theorem castCall_ensures (inner : nested.Sound) (ends : cursor.Ends)
    (name : cursor.current.kind = .keyword .CAST) :
    Ensures cursor (castCall nested) fun node after =>
      ∃ tokens, cursor.Reads tokens after ∧ DerivesWidely (.special (.cast node)) tokens := by
  have readsName := reads_advance_of_kind ends name (by decide)
  have ends := readsName.ends ends
  simp only [castCall, ensures_bind, ensures_offset, ensures_advance, ensures_expectSymbol,
    ensures_expectKeyword, ensures_spanFrom, ensures_pure]
  intro opening
  have readsOpening := reads_advance_of_kind ends opening (by decide)
  have ends := readsOpening.ends ends
  refine (inner.expr 0 ends).mono ?_
  intro operand middle taken word
  obtain ⟨_, readsOperand, derived⟩ := taken
  have ends := readsOperand.ends ends
  have readsWord := reads_advance_of_kind ends word (by decide)
  have ends := readsWord.ends ends
  refine (dataType_finds ends).mono ?_
  intro target later taken closing
  obtain ⟨_, readsTarget, isTarget⟩ := taken
  have readsClosing := reads_advance_of_kind (readsTarget.ends ends) closing (by decide)
  have reads := ((readsName.trans (readsOpening.trans readsOperand)).trans
    (readsWord.trans readsTarget)).trans readsClosing
  rw [reads.spanFrom (by simp)]
  exact ⟨_, reads, .cast name opening derived word isTarget closing⟩

theorem substringCall_ensures (inner : nested.Sound) (ends : cursor.Ends)
    (name : cursor.current.kind = .keyword .SUBSTRING) :
    Ensures cursor (substringCall nested) fun node after =>
      ∃ tokens, cursor.Reads tokens after ∧ DerivesWidely (.special node) tokens := by
  have readsName := reads_advance_of_kind ends name (by decide)
  have ends := readsName.ends ends
  simp only [substringCall, ensures_bind, ensures_offset, ensures_advance, ensures_expectSymbol]
  intro opening
  have readsOpening := reads_advance_of_kind ends opening (by decide)
  have ends := readsOpening.ends ends
  refine (inner.expr 0 ends).mono ?_
  intro first middle taken
  obtain ⟨_, readsFirst, derivedFirst⟩ := taken
  have ends := readsFirst.ends ends
  refine (argumentAfter_finds inner .FROM ends).mono ?_
  intro second later taken
  obtain ⟨_, readsSecond, derivedSecond⟩ := taken
  have ends := readsSecond.ends ends
  have finish {third : Option Expr} {last : Cursor} {thirdTokens : List Token}
      (readsThird : later.Reads thirdTokens last)
      (derivedThird : DerivesWidely (.separatedExpr .FOR third) thirdTokens)
      (order : third.isSome → second.isSome) :
      Ensures last (do
        let _ ← expectSymbol .rightParen
        let span ← spanFrom cursor.current.span.start
        pure (.substring span (first :: second.toList ++ third.toList))) fun node after =>
          ∃ tokens, cursor.Reads tokens after ∧ DerivesWidely (.special node) tokens := by
    simp only [ensures_bind, ensures_expectSymbol, ensures_spanFrom, ensures_pure]
    intro closing
    have readsClosing := reads_advance_of_kind (readsThird.ends ends) closing (by decide)
    have reads := (((readsName.trans (readsOpening.trans readsFirst)).trans readsSecond).trans
      readsThird).trans readsClosing
    rw [reads.spanFrom (by simp)]
    exact ⟨_, reads, .substring name opening derivedFirst derivedSecond derivedThird order closing⟩
  split
  · rename_i present
    rw [ensures_bind]
    refine (argumentAfter_finds inner .FOR ends).mono ?_
    intro third last taken
    obtain ⟨_, readsThird, derivedThird⟩ := taken
    exact finish readsThird derivedThird fun _ => present
  · rw [ensures_bind, ensures_pure]
    exact finish (.refl later) .unseparated (by simp)

theorem extractCall_ensures (inner : nested.Sound) (ends : cursor.Ends)
    (name : cursor.current.kind = .keyword .EXTRACT) :
    Ensures cursor (extractCall nested) fun node after =>
      ∃ tokens, cursor.Reads tokens after ∧ DerivesWidely (.special node) tokens := by
  have readsName := reads_advance_of_kind ends name (by decide)
  have ends := readsName.ends ends
  simp only [extractCall, ensures_bind, ensures_offset, ensures_advance, ensures_expectSymbol,
    ensures_expectKeyword, ensures_spanFrom, ensures_pure]
  intro opening
  have readsOpening := reads_advance_of_kind ends opening (by decide)
  have ends := readsOpening.ends ends
  refine (identifier_finds ends).mono ?_
  intro _ middle taken word
  obtain ⟨_, readsField, field, isName, rfl, rfl⟩ := taken
  have ends := readsField.ends ends
  have readsWord := reads_advance_of_kind ends word (by decide)
  have ends := readsWord.ends ends
  refine (inner.expr 0 ends).mono ?_
  intro source later taken closing
  obtain ⟨_, readsSource, derived⟩ := taken
  have readsClosing := reads_advance_of_kind (readsSource.ends ends) closing (by decide)
  have reads := (readsName.trans (readsOpening.trans (readsField.trans
    (readsWord.trans readsSource)))).trans readsClosing
  rw [reads.spanFrom (by simp)]
  exact ⟨_, reads, .extract name opening isName word derived closing⟩

theorem skipTrimSide_finds : Finds skipTrimSide fun _ tokens => TrimSide tokens := by
  intro cursor ends
  simp only [skipTrimSide, ensures_bind, ensures_kindAhead]
  split
  · rename_i found
    exact ensures_advance.mpr ⟨_, reads_advance_of_kind ends found (by decide),
      .present (by rw [Cursor.current, found]; rfl)⟩
  · rename_i found
    exact ensures_advance.mpr ⟨_, reads_advance_of_kind ends found (by decide),
      .present (by rw [Cursor.current, found]; rfl)⟩
  · rename_i found
    exact ensures_advance.mpr ⟨_, reads_advance_of_kind ends found (by decide),
      .present (by rw [Cursor.current, found]; rfl)⟩
  · simp only [ensures_pure]
    exact ⟨_, .refl cursor, .absent⟩

theorem trimmed_finds (inner : nested.Sound) :
    Finds (trimmed? nested) fun node => DerivesWidely (.expr? node) := by
  intro cursor ends
  simp only [trimmed?, ensures_bind, ensures_kindAhead]
  split
  · exact ensures_pure.mpr ⟨_, .refl cursor, .noExpr⟩
  · exact ensures_pure.mpr ⟨_, .refl cursor, .noExpr⟩
  · exact (inner.expr 0 ends).kept .someExpr

theorem trimSource_finds (inner : nested.Sound) :
    Finds (trimSource? nested) fun node => DerivesWidely (.ledExpr .FROM node) :=
  led_finds (inner.expr 0) .unled .led

theorem trimCall_ensures (inner : nested.Sound) (ends : cursor.Ends)
    (name : cursor.current.kind = .keyword .TRIM) :
    Ensures cursor (trimCall nested) fun node after =>
      ∃ tokens, cursor.Reads tokens after ∧ DerivesWidely (.special node) tokens := by
  have readsName := reads_advance_of_kind ends name (by decide)
  have ends := readsName.ends ends
  simp only [trimCall, ensures_bind, ensures_offset, ensures_advance, ensures_expectSymbol,
    ensures_spanFrom, ensures_pure]
  intro opening
  have readsOpening := reads_advance_of_kind ends opening (by decide)
  have ends := readsOpening.ends ends
  refine (skipTrimSide_finds ends).mono ?_
  intro _ sided taken
  obtain ⟨_, readsSide, side⟩ := taken
  have ends := readsSide.ends ends
  refine (trimmed_finds inner ends).mono ?_
  intro first middle taken
  obtain ⟨_, readsFirst, derivedFirst⟩ := taken
  have ends := readsFirst.ends ends
  refine (trimSource_finds inner ends).mono ?_
  intro second later taken closing
  obtain ⟨_, readsSecond, derivedSecond⟩ := taken
  have readsClosing := reads_advance_of_kind (readsSecond.ends ends) closing (by decide)
  have reads := (((readsName.trans (readsOpening.trans readsSide)).trans readsFirst).trans
    readsSecond).trans readsClosing
  rw [reads.spanFrom (by simp)]
  exact ⟨_, reads, .trim name opening side derivedFirst derivedSecond closing⟩

theorem regularCall_finds (inner : nested.Sound) :
    Finds (regularCall nested) fun node => DerivesWidely (.regular node) := by
  intro cursor ends
  simp only [regularCall, ensures_bind, ensures_offset, ensures_expectSymbol, ensures_spanFrom,
    ensures_pure]
  refine (identifier_finds ends).mono ?_
  intro _ named taken opening
  obtain ⟨_, readsName, name, isName, rfl, rfl⟩ := taken
  have ends := readsName.ends ends
  have readsOpening := reads_advance_of_kind ends opening (by decide)
  have ends := readsOpening.ends ends
  refine (regularArguments_finds inner ends).mono ?_
  intro arguments later taken closing
  obtain ⟨_, readsArguments, derived⟩ := taken
  have readsClosing := reads_advance_of_kind (readsArguments.ends ends) closing (by decide)
  have reads := (readsName.trans (readsOpening.trans readsArguments)).trans readsClosing
  rw [reads.spanFrom (by simp)]
  exact ⟨_, reads, .regular isName opening derived closing⟩

end Parse

end AnnotatedSql.Grammar
