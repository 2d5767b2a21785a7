/-
This file tells parentheses around an operand of connectives from rows: an expression in
parentheses that makes up a whole operand is never kept as a row, and no operator that would make
the operand longer follows it.
-/

import AnnotatedSql.Proofs.Grammar.Binding

namespace AnnotatedSql.Grammar

/-! ### What makes an operand longer -/

def comparisons : List TokenKind :=
  [.symbol .equal, .symbol .notEqual, .symbol .less, .symbol .lessEqual, .symbol .greater,
    .symbol .greaterEqual, .symbol .safeEqual]

/-- The words with which tests and predicates go on. -/
def operandWords : List TokenKind :=
  [.keyword .IS, .keyword .IN, .keyword .BETWEEN, .keyword .LIKE, .keyword .NOT]

/-- The token is a comparison, an arithmetic or bit operator, or a word of a test. -/
def Lengthens (kind : TokenKind) : Prop :=
  kind ∈ comparisons ∨ kind ∈ bitOperators.flatten ∨ kind ∈ operandWords

instance (kind : TokenKind) : Decidable (Lengthens kind) :=
  inferInstanceAs (Decidable (_ ∨ _ ∨ _))

theorem continuesOperand_eq (kind : TokenKind) :
    Precedence.continuesOperand kind = decide (Lengthens kind) := by
  rcases kind with _ | _ | _ | _ | _ | _ | word | sign | _ | _ <;> try rfl
  · cases word <;> rfl
  · cases sign <;> rfl

/-- A row of one expression that makes up an expression by itself. -/
abbrev Expr.loneRow (span : Span) (item : Expr) : Expr :=
  .primary (.predicate (.bitExpr (.simple (.row span [item]))))

namespace Parse

variable {nested : Nested} {cursor later : Cursor} {start minimum rounds : Nat} {retry : Retry}

/-- Past the current token, which starts no subquery, an expression is found and then a closing
parenthesis, and the kind of token behind this is ahead of the later place too. -/
def Encloses (nested : Nested) (cursor later : Cursor) : Prop :=
  (cursor.ahead 1).kind ≠ .keyword .SELECT ∧
    ∃ inner middle, nested.expr 0 cursor.advance = (.ok inner, middle) ∧
      middle.current.kind = .symbol .rightParen ∧
      later.current.kind = middle.advance.current.kind

/-! ### How a row is found -/

theorem commaListUpTo_nonempty {Item : Type} {item : Parser Item} :
    Ensures cursor (commaListUpTo item rounds) fun nodes _ => nodes ≠ [] := by
  cases rounds with
  | zero =>
      simp only [commaListUpTo, ensures_bind, ensures_pure]
      exact fun _ _ _ => List.cons_ne_nil _ _
  | succ rounds =>
      simp only [commaListUpTo, ensures_bind, ensures_atSymbol]
      intro first middle _
      split
      · simp only [ensures_bind, ensures_pure]
        exact fun _ _ _ _ _ _ => List.cons_ne_nil _ _
      · exact ensures_pure.mpr (List.cons_ne_nil _ _)

/-- A list of one expression is this expression. -/
theorem exprList_single : Ensures cursor (exprList nested) fun nodes later =>
    ∀ item, nodes = [item] → nested.expr 0 cursor = (.ok item, later) := by
  simp only [exprList, commaList, ensures_bind, ensures_remaining]
  cases cursor.position with
  | zero =>
      simp only [commaListUpTo, ensures_bind, ensures_pure]
      rintro first later run item ⟨⟩
      exact run
  | succ rounds =>
      simp only [commaListUpTo, ensures_bind, ensures_atSymbol]
      intro first later run
      split
      · simp only [ensures_bind, ensures_advance, ensures_pure]
        intro others final more item same
        exact absurd (List.cons.inj same).2 (commaListUpTo_nonempty others final more)
      · refine ensures_pure.mpr ?_
        rintro item ⟨⟩
        exact run

theorem row_encloses (following : (cursor.ahead 1).kind ≠ .keyword .SELECT) :
    Ensures cursor (row nested) fun node later =>
      ∀ span item, node = .row span [item] → Encloses nested cursor later := by
  simp only [row, ensures_bind, ensures_offset, ensures_advance, ensures_expectSymbol,
    ensures_spanFrom, ensures_pure]
  intro items middle run closes span item same
  obtain ⟨_, rfl⟩ := SimpleExpr.row.inj same
  exact ⟨following, item, middle, exprList_single _ middle run item rfl, closes, rfl⟩

theorem simpleExpr_encloses (opens : cursor.current.kind = .symbol .leftParen) :
    Ensures cursor (simpleExpr nested) fun node later =>
      ∀ span item, node = .row span [item] → Encloses nested cursor later := by
  have ahead : (cursor.ahead 0).kind = .symbol .leftParen := opens
  simp only [simpleExpr, ensures_bind, ensures_kindAhead, ahead, parenthesis]
  split
  case isTrue =>
    simp only [bareSubquery, ensures_bind, ensures_pure]
    intro _ _ _ _ _ same
    cases same
  case isFalse following => exact row_encloses following

/-- A chain that is no chain in the end has not moved. -/
theorem bitChain_simple {left : BitExpr} :
    Ensures cursor (bitChain nested start minimum rounds left) fun node later =>
      (node = left ∧ later = cursor) ∨ ∀ operand, node ≠ .simple operand := by
  induction rounds generalizing cursor left with
  | zero => exact ensures_pure.mpr (.inl ⟨rfl, rfl⟩)
  | succ rounds ih =>
      simp only [bitChain, ensures_bind, ensures_kindAhead]
      split
      · exact ensures_pure.mpr (.inl ⟨rfl, rfl⟩)
      · split
        · exact ensures_pure.mpr (.inl ⟨rfl, rfl⟩)
        · simp only [ensures_bind, ensures_terminal, ensures_spanFrom]
          intro right middle _
          refine ih.mono ?_
          rintro node later (⟨rfl, -⟩ | joined)
          · exact .inr fun _ => BitExpr.noConfusion
          · exact .inr joined

theorem bitExpr_encloses (opens : cursor.current.kind = .symbol .leftParen) :
    Ensures cursor (bitExpr nested minimum) fun node later =>
      ∀ span item, node = .simple (.row span [item]) → Encloses nested cursor later := by
  simp only [bitExpr, ensures_bind, ensures_offset, ensures_remaining]
  intro first middle run
  refine bitChain_simple.mono ?_
  rintro node later (⟨rfl, rfl⟩ | joined) span item same
  · exact simpleExpr_encloses opens first later run span item (BitExpr.simple.inj same)
  · exact absurd same (joined _)

/-- A test of a bit expression is no bit expression. -/
theorem membership_tests {operand : BitExpr} {negation : Option Span} :
    Ensures cursor (membership nested start operand negation) fun node _ =>
      ∀ inner, node ≠ .bitExpr inner := by
  simp only [membership, ensures_bind, ensures_advance, ensures_atSymbol, ensures_kindAhead]
  split <;> simp only [ensures_bind, ensures_expectSymbol, ensures_spanFrom, ensures_pure]
  · exact fun _ _ _ _ => Predicate.noConfusion
  · exact fun _ _ _ _ _ _ => Predicate.noConfusion

theorem range_tests {operand : BitExpr} {negation : Option Span} :
    Ensures cursor (range nested start operand negation) fun node _ =>
      ∀ inner, node ≠ .bitExpr inner := by
  simp only [range, ensures_bind, ensures_advance, ensures_expectKeyword, ensures_spanFrom,
    ensures_pure]
  exact fun _ _ _ _ _ _ _ _ => Predicate.noConfusion

theorem pattern_tests {operand : BitExpr} {negation : Option Span} :
    Ensures cursor (pattern nested start operand negation) fun node _ =>
      ∀ inner, node ≠ .bitExpr inner := by
  simp only [pattern, ensures_bind, ensures_advance, ensures_spanFrom, ensures_pure]
  exact fun _ _ _ _ _ _ _ => Predicate.noConfusion

theorem predicate_encloses (inner : nested.Sound) (ends : cursor.Ends)
    (opens : cursor.current.kind = .symbol .leftParen) :
    Ensures cursor (predicate nested) fun node later =>
      ∀ span item, node = .bitExpr (.simple (.row span [item])) → Encloses nested cursor later := by
  simp only [predicate, ensures_bind, ensures_offset]
  intro operand middle run
  obtain ⟨_, reads, _⟩ := bitExpr_finds inner 0 ends operand middle run
  refine (predicateNegation_ensures (reads.ends ends)).mono ?_
  rintro negation later ⟨taken, more, _, absent⟩
  rw [ensures_kindAhead]
  split
  · exact membership_tests.mono fun _ _ tests _ _ same => absurd same (tests _)
  · exact range_tests.mono fun _ _ tests _ _ same => absurd same (tests _)
  · exact pattern_tests.mono fun _ _ tests _ _ same => absurd same (tests _)
  case h_4 noIn noBetween noLike =>
    have untested : isPredicateWord later.current.kind = false := by
      unfold isPredicateWord
      split <;> first | rfl | contradiction
    obtain ⟨_, rfl⟩ := absent untested
    refine ensures_pure.mpr fun span item same => ?_
    obtain ⟨following, node, place, found, closes, next⟩ :=
      bitExpr_encloses opens operand middle run span item (Predicate.bitExpr.inj same)
    refine ⟨following, node, place, found, closes, ?_⟩
    rw [Cursor.current, more.ahead 0]
    exact next

/-- Tests and comparisons make no predicate. -/
theorem primaryChain_predicate {left : BooleanPrimary} :
    Ensures cursor (primaryChain nested start rounds left) fun node later =>
      (node = left ∧ later = cursor) ∨ ∀ inner, node ≠ .predicate inner := by
  induction rounds generalizing cursor left with
  | zero => exact ensures_pure.mpr (.inl ⟨rfl, rfl⟩)
  | succ rounds ih =>
      simp only [primaryChain, ensures_bind, ensures_kindAhead]
      split
      · have tests : Ensures cursor (truthTest start left) fun test _ =>
            ∀ inner, test ≠ .predicate inner := by
          simp only [truthTest, ensures_bind, ensures_advance, ensures_kindAhead]
          intro negation middle _
          split <;> simp only [ensures_bind, ensures_terminal, ensures_spanFrom, ensures_pure,
            ensures_fail]
          all_goals exact fun _ => BooleanPrimary.noConfusion
        rw [ensures_bind]
        refine tests.mono fun test middle other => ih.mono ?_
        rintro node later (⟨rfl, -⟩ | joined)
        · exact .inr other
        · exact .inr joined
      · split
        · have compares : Ensures cursor (comparison nested start left) fun test _ =>
              ∀ inner, test ≠ .predicate inner := by
            simp only [comparison, ensures_bind, ensures_terminal, ensures_kindAhead]
            split <;> simp only [ensures_bind, ensures_terminal, ensures_spanFrom, ensures_pure] <;>
              exact fun _ _ _ _ => BooleanPrimary.noConfusion
          rw [ensures_bind]
          refine compares.mono fun test middle other => ih.mono ?_
          rintro node later (⟨rfl, -⟩ | joined)
          · exact .inr other
          · exact .inr joined
        · exact ensures_pure.mpr (.inl ⟨rfl, rfl⟩)

theorem primaryExpr_encloses (inner : nested.Sound) (ends : cursor.Ends)
    (opens : cursor.current.kind = .symbol .leftParen) :
    Ensures cursor (primaryExpr nested) fun node later =>
      ∀ span item, node = .loneRow span item → Encloses nested cursor later := by
  simp only [primaryExpr, booleanPrimary, ensures_bind, ensures_offset, ensures_remaining,
    ensures_pure]
  intro first middle run
  refine primaryChain_predicate.mono ?_
  rintro node later (⟨rfl, rfl⟩ | joined) span item same
  · exact predicate_encloses inner ends opens first later run span item
      (BooleanPrimary.predicate.inj (Expr.primary.inj same))
  · exact absurd (Expr.primary.inj same) (joined _)

/-- If what follows a parenthesised expression does not make it longer, it is an operand. -/
theorem Encloses.enclosed (encloses : Encloses nested cursor later)
    (stops : Precedence.continuesOperand later.current.kind = false) :
    ∃ node place, enclosed? nested cursor = (.ok (some node), place) := by
  obtain ⟨_, inner, middle, run, closes, next⟩ := encloses
  rw [next] at stops
  exact ⟨_, _, enclosed_run run closes stops⟩

/-! ### No row where a parenthesis may stand -/

section
variable {origin : Cursor} {depth : Nat} {span : Span} {item : Expr} (ends : origin.Ends)
  (follows : cursor.Follows origin)
include ends follows

/-- A row of one expression stands where a parenthesis was given up, so that what follows it makes
the operand longer. -/
theorem primaryExpr_loneRow {others : List Nat} (few : cursor.position ≤ depth + 1)
    (opens : cursor.current.kind = .symbol .leftParen)
    (untaken : ∀ node place, enclosed? (Parse.nested .always depth) cursor ≠ (.ok (some node), place))
    (run : primaryExpr (Parse.nested .always depth) { cursor with rejected := others } =
      (.ok (.loneRow span item), later)) :
    Precedence.continuesOperand later.current.kind = true := by
  have again : Cursor.Follows { cursor with rejected := others } origin := follows.giving others
  have encloses := primaryExpr_encloses (nested_sound .always depth) (again.ends ends) opens _
    later run span item rfl
  by_contra stops
  obtain ⟨node, place, found⟩ := encloses.enclosed (Bool.eq_false_iff.mpr stops)
  have agree : Nested.Agree origin .always depth _ _ :=
    nested_agree ends depth depth depth (Nat.le_refl _) (Nat.le_refl _)
  obtain ⟨outcome, _, _, first, second, _⟩ :=
    enclosed_agree agree _ cursor.rejected ⟨again, Retry.noConfusion⟩ few
  rw [found] at first
  obtain ⟨rfl, rfl⟩ := Prod.mk.inj first
  exact untaken node _ second

/-- Where a row makes up an operand, what follows it makes the operand longer. -/
theorem operand_loneRow (few : cursor.position ≤ depth + 1)
    (opens : cursor.current.kind = .symbol .leftParen)
    (run : operand .always (Parse.nested .always depth) cursor =
      (.ok (.loneRow span item), later)) :
    Precedence.continuesOperand later.current.kind = true := by
  have sound := nested_sound .always depth
  have cursorEnds := follows.ends ends
  have ahead : (cursor.ahead 0).kind = .symbol .leftParen := opens
  rw [operand, bind_look (kindAhead_run 0), ahead] at run
  change (kindAhead 1 >>= _) cursor = _ at run
  rw [bind_look (kindAhead_run 1)] at run
  split at run
  case isTrue query =>
    exact absurd query (primaryExpr_encloses sound cursorEnds opens _ later run span item rfl).1
  case isFalse =>
    rw [parenthesisedOrPrimary, bind_run, parenthesised_always] at run
    rcases tried : enclosed? (Parse.nested .always depth) cursor with ⟨error | found | found, place⟩
    · rw [tried] at run
      refine primaryExpr_loneRow ends follows few opens ?_ run
      rw [tried]
      intro _ _ same
      cases same
    · rw [tried] at run
      refine primaryExpr_loneRow ends follows few opens ?_ run
      rw [tried]
      intro _ _ same
      cases same
    · rw [tried] at run
      obtain ⟨_, _, _, _, _, _, _, _, rfl, _⟩ :=
        enclosed_takes sound cursorEnds opens _ place tried found rfl
      cases run

end

/-- What joins nothing in a chain of connectives is the operand that the chain starts with. -/
theorem logicalChain_primary {first left : Expr}
    (starts : ∀ inner, .primary inner ∈ left.spine → .primary inner = first) :
    Ensures cursor (logicalChain nested start minimum rounds left) fun root _ =>
      ∀ inner, .primary inner ∈ root.spine → .primary inner = first := by
  induction rounds generalizing cursor left with
  | zero => exact ensures_pure.mpr starts
  | succ rounds ih =>
      simp only [logicalChain, ensures_bind, ensures_kindAhead]
      split
      · exact ensures_pure.mpr starts
      · split
        · exact ensures_pure.mpr starts
        · simp only [ensures_bind, ensures_terminal, ensures_spanFrom]
          intro right later _
          split <;> refine ih fun inner member => ?_ <;> rw [Expr.spine] at member <;>
            rcases List.mem_cons.mp member with same | member
          all_goals first | exact starts inner member | cases same

end Parse

/-- A row starts with its parenthesis. -/
theorem Derives.loneRow_opens {span : Span} {item : Expr} {stretch : List Token}
    (derived : DerivesWidely (.expr (.loneRow span item)) stretch) :
    ∃ opening rest, stretch = opening :: rest ∧ opening.kind = .symbol .leftParen := by
  cases derived with
  | primary derived =>
    cases derived with
    | predicate derived =>
      cases derived with
      | bitExpr derived =>
        cases derived with
        | simple derived =>
          cases derived with
          | row opens => exact ⟨_, _, rfl, opens⟩

/-! ### Trees of texts -/

section
variable {source : Text} {tree : Select} {node : Expr} (parsed : parse source = .ok tree)
  (within : (TreeNode.select tree).Has (.expr node))
include parsed within

/-- No token that makes an operand longer follows an expression. -/
theorem expr_followed : ∃ interval : Interval, ∃ next : Token,
    interval.Bears (tokenize source) node.span ∧
      (tokenize source)[interval.last + 1]? = some next ∧
      Precedence.continuesOperand next.kind = false := by
  obtain ⟨front, inside, behind, whole, laid, more, stands⟩ := node_on parsed within
  obtain ⟨next, rest, rfl⟩ := List.exists_cons_of_ne_nil more
  cases stands with
  | intro spans stops _ =>
      have nonempty := List.length_pos_iff.mpr (spans.eq_cover laid).1
      have bears := spans.bears front (next :: rest) laid
      rw [← whole] at bears
      refine ⟨Interval.between front inside, next, bears, ?_,
        endsPrimary.continuesOperand (stops next rfl)⟩
      have place : front.length + inside.length - 1 + 1 = front.length + inside.length := by omega
      dsimp only [Interval.between]
      rw [whole, place, ← List.append_assoc, ← List.length_append,
        List.getElem?_append_right (Nat.le_refl _), Nat.sub_self]
      rfl

/-- The same where the parser has read the expression. -/
theorem expr_followed_run {place later : Cursor} {stretch : List Token}
    (follows : place.Follows (Cursor.ofTokens (tokenize source)))
    (reads : place.Reads stretch later) (derived : DerivesWidely (.expr node) stretch) :
    Precedence.continuesOperand later.current.kind = false := by
  obtain ⟨interval, next, bears, isNext, stops⟩ := expr_followed parsed within
  obtain ⟨earlier, before⟩ := follows
  have laid : Laid source stretch :=
    (laid_ofTokens source).fewer (Parse.infix_of_reads ⟨_, before⟩ reads).sublist
  have nonempty := derived.nonempty rfl
  have spans : Spans stretch node.span := by
    rw [derived.span_eq laid rfl]
    exact .several nonempty
  have whole : tokenize source = earlier ++ (stretch ++ (later.unread ++ [later.ending])) := by
    obtain ⟨content, ending, whole, _⟩ := tokenize_end source
    rw [whole, ofTokens_concat] at before
    have unread : content = earlier ++ place.unread := before.unread
    have last : later.ending = ending := reads.ending.trans before.ending
    rw [whole, unread, reads.unread, last]
    simp only [List.append_assoc]
  have also := spans.bears earlier (later.unread ++ [later.ending]) laid
  rw [← whole] at also
  obtain rfl := also.unique bears
  have positive := List.length_pos_iff.mpr nonempty
  have index : earlier.length + stretch.length - 1 + 1 = earlier.length + stretch.length := by omega
  dsimp only [Interval.between] at isNext
  rw [whole, index, ← List.append_assoc, ← List.length_append,
    List.getElem?_append_right (Nat.le_refl _), Nat.sub_self] at isNext
  have current : (later.unread ++ [later.ending])[0]? = some later.current := by
    rcases later with ⟨_ | _, _, _, _⟩ <;> rfl
  rw [Option.some.inj (current.symm.trans isNext)]
  exact stops

/-- No expression is a row of one expression by itself. -/
theorem expr_ne_loneRow (span : Span) (item : Expr) : node ≠ .loneRow span item := by
  rintro rfl
  have ends := Cursor.ofTokens_ends source
  have known (token : Token) (unread : token ∈ (Cursor.ofTokens (tokenize source)).unread) :
      kindAt (tokenize source) token.span = token.kind := kindAt_eq (mem_tokenize unread)
  obtain ⟨depth, minimum, place, root, after, follows, few, run, member⟩ :=
    parse_chosen parsed within
  have placeEnds := follows.ends ends
  rw [Parse.expr, Parse.bind_look Parse.offset_run, Parse.bind_ok_iff] at run
  obtain ⟨first, middle, isFirst, chain⟩ := run
  have alone := Parse.operand_alone .always (Parse.nested_joins ends known depth) follows first
    middle isFirst
  rw [Parse.bind_look Parse.remaining_run] at chain
  have same : .loneRow span item = first := by
    refine Parse.logicalChain_primary ?_ root after chain _ member
    intro inner starts
    rw [alone.2.1] at starts
    exact List.mem_singleton.mp starts
  subst same
  obtain ⟨stretch, reads, derived⟩ :=
    Parse.operand_finds .always (Parse.nested_sound .always depth) placeEnds _ middle isFirst
  have opens : place.current.kind = .symbol .leftParen := by
    obtain ⟨opening, rest, rfl, opens⟩ := derived.loneRow_opens
    rw [← Option.some.inj (reads.current (List.cons_ne_nil _ _))]
    exact opens
  have lengthens := Parse.operand_loneRow ends follows few opens isFirst
  rw [expr_followed_run parsed within follows reads derived] at lengthens
  exact Bool.false_ne_true lengthens

end

/-- In the tree of a text, no parenthesis around an expression is followed by a token that makes an
operand of connectives longer, and no expression is a row of one expression by itself: what looks
like one is a parenthesis. -/
theorem parentheses_told_apart (source : Text) (tree : Select) (parsed : parse source = .ok tree)
    (node : Expr) (within : (TreeNode.select tree).Has (.expr node)) :
    (∀ span inner, node = .paren span inner → ∃ interval : Interval, ∃ next : Token,
      interval.Bears (tokenize source) span ∧
        (tokenize source)[interval.last + 1]? = some next ∧ ¬ Lengthens next.kind) ∧
      ∀ span item, node ≠ .primary (.predicate (.bitExpr (.simple (.row span [item])))) := by
  refine ⟨?_, expr_ne_loneRow parsed within⟩
  rintro span inner rfl
  obtain ⟨interval, next, bears, isNext, stops⟩ := expr_followed parsed within
  rw [continuesOperand_eq, decide_eq_false_iff_not] at stops
  exact ⟨interval, next, bears, isNext, stops⟩

/-- A parenthesis is joined with another operand. -/
def Expr.startsWithParen : Expr → Bool
  | .logical _ (.paren _ _) _ _ => true
  | _ => false

theorem Expr.exists_paren (node : Expr) (starts : node.startsWithParen) :
    ∃ span inner, .expr (.paren span inner) ∈ (TreeNode.expr node).children := by
  unfold Expr.startsWithParen at starts
  split at starts
  · exact ⟨_, _, List.mem_cons_self⟩
  · cases starts

/-- A parenthesis that is kept, around a row that was tried as one and given up. -/
theorem parentheses_told_apart_nested :
    ∃ tree span inner, parse "SELECT a FROM t WHERE ((b) = c) OR d".toList = .ok tree ∧
      (TreeNode.select tree).Has (.expr (.paren span inner)) ∧ ∃ interval : Interval, ∃ next : Token,
        interval.Bears (tokenize "SELECT a FROM t WHERE ((b) = c) OR d".toList) span ∧
        (tokenize "SELECT a FROM t WHERE ((b) = c) OR d".toList)[interval.last + 1]? = some next ∧
        ¬ Lengthens next.kind := by
  let source : Text := "SELECT a FROM t WHERE ((b) = c) OR d".toList
  have kept : ((parse source).toOption.bind Select.condition).any (·.expr.startsWithParen) := by
    decide +kernel
  rcases parsed : parse source with error | ⟨own, distinct, list, tables, condition, grouping,
    having, ordering⟩
  · rw [parsed] at kept
    cases kept
  · rw [parsed] at kept
    rcases condition with _ | clause
    · cases kept
    · obtain ⟨span, inner, isPart⟩ := Expr.exists_paren clause.expr kept
      have filtered : (TreeNode.select ⟨own, distinct, list, tables, some clause, grouping, having,
          ordering⟩).Has (.condition clause) := .single (by simp [TreeNode.children])
      have within := filtered.tail (c := .expr clause.expr) (by simp [TreeNode.children])
      obtain ⟨interval, next, followed⟩ :=
        (parentheses_told_apart source _ parsed _ (within.tail isPart)).1 _ _ rfl
      exact ⟨_, _, _, rfl, within.tail isPart, interval, next, followed⟩

end AnnotatedSql.Grammar
