/-
This file shows that the parsers of names, lists and calls take what the grammar derives.
-/

import AnnotatedSql.Grammar.Parse
import AnnotatedSql.Proofs.Grammar.Completeness.Follow

namespace AnnotatedSql.Grammar.Parse

open Precedence

variable {Result : Type} {bound : Nat} {nested : Nested} {token : Token}
  {tokens others : List Token} {follow : TokenKind → Bool} {finish : Result → List Token → Prop}

/-- Each nested parser takes the phrases of its kind. -/
structure Nested.Complete (nested : Nested) (bound : Nat) : Prop where
  expr (minimum : Nat) {tokens : List Token} : Chain tokens →
    Parses bound (nested.expr minimum) tokens endsExpr fun _ left =>
      Rest Operand logical? minimum left
  predicate {tokens : List Token} : IsPredicate tokens →
    Accepts bound nested.predicate tokens endsPredicate
  bitExpr (minimum : Nat) {tokens : List Token} : Joined IsSimple bit? tokens →
    Parses bound (nested.bitExpr minimum) tokens endsBits fun _ left =>
      Rest IsSimple bit? minimum left
  simpleExpr {tokens : List Token} : IsSimple tokens →
    Accepts bound nested.simpleExpr tokens endsSimple
  select {node : Select} {tokens : List Token} : DerivesWidely (.select node) tokens →
    Accepts bound nested.select tokens (endsClause 5)

/-- An expression is taken as a whole where every connective is allowed. -/
theorem Nested.Complete.whole {node : Expr} (inner : nested.Complete bound)
    (derived : DerivesWidely (.expr node) tokens) : Accepts bound (nested.expr 0) tokens endsExpr :=
  (inner.expr 0 (expr_chain derived)).mono fun _ _ rest => rest.eq_nil

/-! ### Names and lists -/

theorem parses_keyword_present {rest : Option Span → Parser Result} {word : Keyword}
    (found : token.kind = .keyword word)
    (next : Parses bound (rest (some token.span)) tokens follow finish) :
    Parses (bound + 1) (keyword? word >>= rest) (token :: tokens) follow finish := by
  rw [keyword?, bind_assoc]
  apply parses_atKind_present found
  rw [if_pos rfl, bind_assoc]
  exact parses_terminal_bind next

theorem parses_keyword_absent {rest : Option Span → Parser Result} {word : Keyword}
    (missing : ∀ found, Ahead follow 0 tokens found → found ≠ .keyword word)
    (next : Parses bound (rest none) tokens follow finish) :
    Parses bound (keyword? word >>= rest) tokens follow finish := by
  rw [keyword?, bind_assoc]
  exact parses_atKind_absent missing next

theorem parses_identifier_bind {rest : Identifier → Parser Result} (name : token.kind.isName)
    (next : ∀ value, Parses bound (rest value) tokens follow finish) :
    Parses (bound + 1) (identifier >>= rest) (token :: tokens) follow finish := by
  rw [identifier, bind_assoc]
  apply parses_current_bind
  rcases isName_cases name with found | found | ⟨word, found, unreserved⟩
  · rw [found, bind_assoc]
    exact parses_advance_bind (next _)
  · rw [found, bind_assoc]
    exact parses_advance_bind (next _)
  · rw [found]
    dsimp only
    rw [if_pos unreserved, bind_assoc]
    exact parses_advance_bind (next _)

theorem qualifiedName_accepts {name : QualifiedName} (derived : name.Derives tokens) :
    Accepts bound qualifiedName tokens (· != .symbol .dot) := by
  apply Parses.here
  apply parses_offset_bind
  intro start
  cases derived with
  | plain found =>
      apply parses_identifier_bind found
      intro first
      apply parses_atKind_absent
      · exact fun kind => bne_iff_ne.mp
      · apply parses_kindAhead_bind 1
        intro following _
        exact parses_pure rfl
  | owned owner dot name =>
      apply parses_identifier_bind owner
      intro first
      apply parses_atKind_present dot
      apply parses_kindAhead_bind 1
      intro following ahead
      rw [Ahead, Ahead] at ahead
      rw [ahead, name, Bool.and_self, if_pos rfl]
      apply Parses.here
      apply parses_advance_bind
      apply Parses.here
      apply parses_identifier_bind name
      intro last
      exact parses_covered fun _ => rfl

theorem parses_label_bind {rest : Label → Parser Result} (name : token.kind.isName)
    (next : ∀ value, Parses bound (rest value) tokens follow finish) :
    Parses (bound + 1) (label >>= rest) (token :: tokens) follow finish := by
  rw [label, bind_assoc]
  exact parses_identifier_bind name fun _ => next _

theorem itemLabel_accepts {itemLabel : Option Label} (derived : ItemLabel itemLabel tokens)
    (unnamed : ∀ kind, follow kind → kind.isName = false ∧ kind ≠ .keyword .AS) :
    Accepts bound itemLabel? tokens follow := by
  apply Parses.here
  cases derived with
  | absent =>
      apply parses_atKind_absent
      · intro kind ends
        exact (unnamed kind ends).2
      · apply parses_kindAhead_bind 0
        intro kind ends
        rw [(unnamed kind ends).1]
        exact parses_pure rfl
  | bare name =>
      apply parses_atKind_absent
      · intro kind ahead led
        rw [Ahead] at ahead
        rw [← ahead, led] at name
        exact Bool.false_ne_true name
      · apply parses_kindAhead_bind 0
        intro kind ahead
        rw [Ahead] at ahead
        rw [ahead, name, if_pos rfl]
        apply parses_label_bind name
        intro value
        exact parses_pure rfl
  | led word name =>
      apply parses_atKind_present word
      apply parses_advance_bind
      apply Parses.here
      apply parses_label_bind name
      intro value
      exact parses_pure rfl

section
variable {Item Node : Type} {item : Parser Item} {phrase : Node → List Token → Prop}
  {nodes : List Node}

theorem commaListUpTo_accepts {rounds : Nat}
    (each : ∀ node tokens, phrase node tokens → Accepts bound item tokens follow)
    (comma : follow (.symbol .comma)) (list : CommaList phrase nodes tokens)
    (enough : tokens.length ≤ rounds) :
    Accepts bound (commaListUpTo item rounds) tokens (endsList follow) := by
  induction list generalizing rounds with
  | @single node tokens first =>
      have taken : Accepts bound item tokens (endsList follow) :=
        (each node tokens first).narrow fun _ => follow_of_endsList
      cases rounds with
      | zero => exact taken.bind fun _ _ none => parses_pure none
      | succ rounds =>
          apply taken.bind
          intro value left none
          subst none
          apply parses_atKind_absent
          · exact fun kind => ne_comma_of_endsList
          · exact parses_pure rfl
  | @cons node rest tokens separator others first found list ih =>
      rw [List.length_append, List.length_cons] at enough
      obtain ⟨rounds, rfl⟩ := Nat.exists_eq_add_one_of_ne_zero (by omega : rounds ≠ 0)
      apply (each node tokens first).append_bind (ahead_token found comma)
      intro value
      apply parses_atKind_present found
      apply Parses.here
      apply parses_advance_bind
      apply (ih (by omega)).bind
      intro values left none
      exact parses_pure none

/-- A list of items is taken where no comma follows it. -/
theorem commaList_accepts
    (each : ∀ node tokens, phrase node tokens → Accepts bound item tokens follow)
    (comma : follow (.symbol .comma)) (list : CommaList phrase nodes tokens) :
    Accepts bound (commaList item) tokens (endsList follow) :=
  parses_remaining_bind fun _ => commaListUpTo_accepts each comma list

end

theorem nameList_accepts {names : List QualifiedName}
    (list : CommaList QualifiedName.Derives names tokens) :
    Accepts bound nameList tokens (endsList (· != .symbol .dot)) := by
  apply parses_offset_bind
  intro start
  exact (commaList_accepts (fun _ _ derived => qualifiedName_accepts derived) rfl list).covered

/-! ### Data types -/

theorem skipIdentifiers_accepts {rounds : Nat} (words : ∀ word ∈ tokens, word.kind = .identifier)
    (ends : ∀ kind, follow kind → kind ≠ .identifier) (enough : tokens.length ≤ rounds) :
    Accepts bound (skipIdentifiers rounds) tokens follow := by
  induction rounds generalizing tokens with
  | zero => exact parses_pure (List.length_eq_zero_iff.mp (Nat.le_zero.mp enough))
  | succ rounds ih =>
      cases tokens with
      | nil => exact parses_atKind_absent ends (parses_pure rfl)
      | cons word others =>
          apply parses_atKind_present (words word List.mem_cons_self)
          apply Parses.here
          apply parses_advance_bind
          apply ih
          · exact fun further member => words further (List.mem_cons_of_mem word member)
          · exact Nat.le_of_succ_le_succ enough

theorem dataTypeLength_accepts (length : TypeLength tokens) :
    Accepts bound dataTypeLength tokens follow := by
  apply Parses.here
  cases length with
  | length opening length closing =>
      apply parses_advance_bind
      apply Parses.here
      apply parses_expectKind_bind length
      apply parses_atKind_absent (ahead_ne closing (by decide))
      apply Parses.here
      exact parses_expectKind_bind closing (parses_pure rfl)
  | scaled opening length comma scale closing =>
      apply parses_advance_bind
      apply Parses.here
      apply parses_expectKind_bind length
      apply parses_atKind_present comma
      apply Parses.here
      apply parses_advance_bind
      apply Parses.here
      apply parses_expectKind_bind scale
      apply Parses.here
      exact parses_expectKind_bind closing (parses_pure rfl)

theorem TypeLength.opened (length : TypeLength tokens) :
    ∃ opening rest, tokens = opening :: rest ∧ opening.kind = .symbol .leftParen := by
  cases length with
  | length opening => exact ⟨_, _, rfl, opening⟩
  | scaled opening => exact ⟨_, _, rfl, opening⟩

theorem sizedType_accepts {words length : List Token} (nonempty : words ≠ [])
    (identifiers : ∀ word ∈ words, word.kind = .identifier)
    (sized : length = [] ∨ TypeLength length)
    (ends : ∀ kind, follow kind → kind = .symbol .rightParen) :
    Accepts bound dataType (words ++ length) follow := by
  obtain ⟨first, further, rfl⟩ := List.exists_cons_of_ne_nil nonempty
  rw [List.cons_append]
  apply parses_offset_bind
  intro start
  apply parses_atKind_present (identifiers first List.mem_cons_self)
  apply parses_remaining_bind
  intro rounds enough
  rw [← List.cons_append, List.length_append] at enough
  have fewer := Nat.le_of_add_right_le enough
  have skipped : Accepts bound (skipIdentifiers rounds) (first :: further) (· != .identifier) :=
    skipIdentifiers_accepts identifiers (fun _ => bne_iff_ne.mp) fewer
  apply skipped.append_bind
  · intro kind ahead
    rcases sized with rfl | length
    · rw [ends kind ahead]
      rfl
    · obtain ⟨opening, rest, rfl, paren⟩ := TypeLength.opened length
      rw [Ahead, paren] at ahead
      rw [ahead]
      rfl
  · intro value
    apply parses_spanFrom_bind
    intro name
    rcases sized with rfl | length
    · apply parses_atKind_absent
      · intro kind closes opens
        exact absurd (opens.symm.trans (ends kind closes)) (by decide)
      · exact parses_covered fun _ => rfl
    · obtain ⟨opening, rest, rfl, paren⟩ := TypeLength.opened length
      apply parses_atKind_present paren
      exact (dataTypeLength_accepts length).covered

theorem dataType_accepts {target : DataType} (derived : target.Derives tokens)
    (ends : ∀ kind, follow kind → kind = .symbol .rightParen) :
    Accepts bound dataType tokens follow := by
  cases derived with
  | plain nonempty words =>
      rw [← List.append_nil tokens]
      exact sizedType_accepts nonempty words (.inl rfl) ends
  | sized nonempty words length => exact sizedType_accepts nonempty words (.inr length) ends

/-! ### Calls -/

/-- The last steps of a phrase in parentheses. -/
theorem closed_accepts {Value : Type} {closing : Token} {value : Span → Span → Value} {start : Nat}
    (closes : closing.kind = .symbol .rightParen) :
    Accepts bound
      (do let rightParen ← expectSymbol .rightParen
          let span ← spanFrom start
          return value rightParen span)
      [closing] follow := by
  apply Parses.here
  apply parses_expectKind_bind closes
  exact parses_covered fun _ => rfl

theorem subquery_accepts {query : Subquery} (inner : nested.Complete bound)
    (derived : DerivesWidely (.subquery query) tokens) :
    Accepts (bound + 1) (subquery nested) tokens follow := by
  cases derived with
  | subquery opening select closing =>
      apply parses_offset_bind
      intro start
      apply parses_expectKind_bind opening
      apply (inner.select select).append_bind (ahead_token closing rfl)
      intro value
      exact closed_accepts closing

theorem exprList_accepts {items : List Expr} (inner : nested.Complete bound)
    (derived : DerivesWidely (.exprs items) tokens) :
    Accepts bound (exprList nested) tokens (endsList endsExpr) :=
  commaList_accepts (fun _ _ derived => inner.whole derived) rfl (derives_exprs_iff.mp derived)

/-- The arguments of an aggregate are a list of expressions. -/
theorem argumentChain_list {nodes : List AggregationArgument} {tokens : List Token}
    (derived : DerivesWidely (.argumentChain nodes) tokens) :
    ∃ items, CommaList (fun node => DerivesWidely (.expr node)) items tokens := by
  match derived with
  | .lastArgument first => exact ⟨_, .single first⟩
  | .furtherArgument first comma others =>
      obtain ⟨items, list⟩ := argumentChain_list others
      exact ⟨_, .cons first comma list⟩

theorem argumentsUpTo_accepts {items : List Expr} {rounds : Nat} (inner : nested.Complete bound)
    (list : CommaList (fun node => DerivesWidely (.expr node)) items tokens)
    (enough : tokens.length ≤ rounds) :
    Accepts bound (argumentsUpTo nested rounds) tokens (endsList endsExpr) := by
  induction list generalizing rounds with
  | @single node tokens first =>
      have taken : Accepts bound (nested.expr 0) tokens (endsList endsExpr) :=
        (inner.whole first).narrow fun _ => follow_of_endsList
      cases rounds with
      | zero => exact taken.bind fun _ _ none => parses_pure none
      | succ rounds =>
          apply taken.bind
          intro value left none
          subst none
          apply parses_atKind_absent
          · exact fun kind => ne_comma_of_endsList
          · exact parses_pure rfl
  | @cons node rest tokens separator others first found list ih =>
      rw [List.length_append, List.length_cons] at enough
      obtain ⟨rounds, rfl⟩ := Nat.exists_eq_add_one_of_ne_zero (by omega : rounds ≠ 0)
      apply (inner.whole first).append_bind (ahead_token found rfl)
      intro value
      apply parses_atKind_present found
      apply Parses.here
      apply parses_terminal_bind
      apply (ih (by omega)).bind
      intro values left none
      exact parses_pure none

/-- What may stand between the parentheses of a call. -/
inductive Arguments : List Token → Prop
  | none : Arguments []
  | all {star : Token} : star.kind = .symbol .star → Arguments [star]
  | some {items : List Expr} {tokens : List Token} :
      CommaList (fun node => DerivesWidely (.expr node)) items tokens → Arguments tokens

theorem Arguments.of_aggregate {nodes : List AggregationArgument}
    (derived : DerivesWidely (.arguments nodes) tokens) : Arguments tokens := by
  cases derived with
  | noArguments => exact .none
  | allArguments star => exact .all star
  | someArguments chain =>
      obtain ⟨items, list⟩ := argumentChain_list chain
      exact .some list

theorem Arguments.of_regular {nodes : List Expr} {asterisk : Option Span}
    (derived : DerivesWidely (.regularArguments nodes asterisk) tokens) : Arguments tokens := by
  cases derived with
  | noRegularArguments => exact .none
  | allRegularArguments star => exact .all star
  | someRegularArguments list => exact .some (derives_exprs_iff.mp list)

/-- A list of expressions starts neither with a star nor with a closing parenthesis. -/
theorem exprs_ahead {items : List Expr} {kind : TokenKind}
    (list : CommaList (fun node => DerivesWidely (.expr node)) items tokens)
    (ahead : Ahead follow 0 tokens kind) : kind ≠ .symbol .star ∧ kind ≠ .symbol .rightParen := by
  rw [← List.append_nil tokens] at ahead
  have started : startsOperand kind := (derives_exprs_iff.mpr list).ahead rfl ahead
  constructor <;> intro same <;> rw [same] at started <;> exact Bool.false_ne_true started

theorem aggregationArguments_accepts (inner : nested.Complete bound)
    (arguments : Arguments tokens) :
    Accepts bound (aggregationArguments nested) tokens (· == .symbol .rightParen) := by
  cases arguments with
  | none =>
      apply parses_atKind_bind
      intro kind ahead
      obtain rfl := beq_iff_eq.mp ahead
      apply parses_atKind_bind
      intro kind ahead
      obtain rfl := beq_iff_eq.mp ahead
      exact parses_pure rfl
  | all star =>
      apply parses_atKind_present star
      apply Parses.here
      exact parses_terminal_bind (parses_pure rfl)
  | some list =>
      apply parses_atKind_absent fun _ ahead => (exprs_ahead list ahead).1
      apply parses_atKind_absent fun _ ahead => (exprs_ahead list ahead).2
      apply parses_remaining_bind
      intro rounds enough
      apply (argumentsUpTo_accepts inner list enough).narrow
      intro kind closes
      rw [beq_iff_eq.mp closes]
      rfl

theorem regularArguments_accepts (inner : nested.Complete bound) (arguments : Arguments tokens) :
    Accepts bound (regularArguments nested) tokens (· == .symbol .rightParen) := by
  cases arguments with
  | none =>
      apply parses_atKind_bind
      intro kind ahead
      obtain rfl := beq_iff_eq.mp ahead
      apply parses_atKind_bind
      intro kind ahead
      obtain rfl := beq_iff_eq.mp ahead
      exact parses_pure rfl
  | all star =>
      apply parses_atKind_present star
      apply Parses.here
      exact parses_terminal_bind (parses_pure rfl)
  | some list =>
      apply parses_atKind_absent fun _ ahead => (exprs_ahead list ahead).1
      apply parses_atKind_absent fun _ ahead => (exprs_ahead list ahead).2
      have taken : Accepts bound (exprList nested) tokens (· == .symbol .rightParen) := by
        apply (exprList_accepts inner (derives_exprs_iff.mpr list)).narrow
        intro kind closes
        rw [beq_iff_eq.mp closes]
        rfl
      exact taken.bind fun _ _ none => parses_pure none

theorem Arguments.undistinguished {closing : Token} {kind : TokenKind}
    (arguments : Arguments tokens) (closes : closing.kind = .symbol .rightParen)
    (ahead : Ahead follow 0 (tokens ++ [closing]) kind) : kind ≠ .keyword .DISTINCT := by
  cases arguments with
  | none => exact ahead_ne closes (by decide) kind ahead
  | all star => exact ahead_ne star (by decide) kind ahead
  | some list =>
      have started : startsOperand kind := (derives_exprs_iff.mpr list).ahead rfl ahead
      intro same
      rw [same] at started
      exact Bool.false_ne_true started

/-- A call of an aggregate, whether or not it is written as one of another function. -/
theorem aggregationCall_accepts {name opening closing : Token} {distinct : Option Span}
    {before after : List Token} (inner : nested.Complete bound)
    (opens : opening.kind = .symbol .leftParen) (flag : Flag .DISTINCT distinct before)
    (arguments : Arguments after) (closes : closing.kind = .symbol .rightParen) :
    Accepts (bound + 1) (aggregationCall nested)
      (name :: opening :: (before ++ (after ++ [closing]))) follow := by
  apply parses_offset_bind
  intro start
  apply parses_terminal_bind
  apply Parses.here
  apply parses_expectKind_bind opens
  have further (found : Option Span) : Parses bound
      (do let arguments ← aggregationArguments nested
          let rightParen ← expectSymbol .rightParen
          let span ← spanFrom start
          return (⟨span, name.span, opening.span, found, arguments, rightParen⟩ : AggregationCall))
      (after ++ [closing]) follow fun _ left => left = [] := by
    apply (aggregationArguments_accepts inner arguments).append_bind (ahead_token closes rfl)
    intro value
    exact closed_accepts closes
  cases flag with
  | absent =>
      apply parses_keyword_absent
      · exact fun _ ahead => arguments.undistinguished closes ahead
      · exact further none
  | present word =>
      apply Parses.here
      exact parses_keyword_present word (further (some _))

theorem regularCall_accepts {name opening closing : Token} (inner : nested.Complete bound)
    (named : name.kind.isName) (opens : opening.kind = .symbol .leftParen)
    (arguments : Arguments tokens) (closes : closing.kind = .symbol .rightParen) :
    Accepts (bound + 1) (regularCall nested) (name :: opening :: (tokens ++ [closing])) follow := by
  apply parses_offset_bind
  intro start
  apply parses_identifier_bind named
  intro value
  apply Parses.here
  apply parses_expectKind_bind opens
  apply (regularArguments_accepts inner arguments).append_bind (ahead_token closes rfl)
  intro value
  exact closed_accepts closes

/-- The word and the parenthesis that a call with a grammar of its own begins with. -/
theorem parses_opened_bind {opening : Token} {rest : Nat → Span → Parser Result}
    (opens : opening.kind = .symbol .leftParen)
    (next : ∀ start, Parses bound (rest start opening.span) tokens follow finish) :
    Parses (bound + 1)
      (do let start ← offset
          advance
          let leftParen ← expectSymbol .leftParen
          rest start leftParen)
      (token :: opening :: tokens) follow finish := by
  apply parses_offset_bind
  intro start
  apply parses_advance_bind
  apply Parses.here
  apply parses_expectKind_bind opens
  exact next start

theorem castCall_accepts {call : CastCall} (inner : nested.Complete bound)
    (derived : DerivesWidely (.special (.cast call)) tokens) :
    Accepts (bound + 1) (castCall nested) tokens follow := by
  cases derived with
  | cast name opening operand word target closing =>
      simp only [List.append_assoc, List.cons_append]
      refine parses_opened_bind opening fun start => ?_
      apply (inner.whole operand).append_bind (ahead_token word rfl)
      intro value
      apply Parses.here
      apply parses_expectKeyword_bind word
      apply (dataType_accepts target fun _ => beq_iff_eq.mp).append_bind (ahead_token closing rfl)
      intro value
      exact closed_accepts closing

theorem argumentAfter_present {separator : Token} {word : Keyword} {node : Expr}
    {rest : Option Expr → Parser Result} (inner : nested.Complete bound)
    (separates : separator.kind = .keyword word ∨ separator.kind = .symbol .comma)
    (derived : DerivesWidely (.expr node) tokens)
    (bridge : ∀ kind, Ahead follow 0 others kind → endsExpr kind)
    (next : ∀ value, Parses bound (rest (some value)) others follow finish) :
    Parses bound (argumentAfter? nested word >>= rest) (separator :: (tokens ++ others)) follow
      finish := by
  rw [argumentAfter?, bind_assoc]
  apply parses_atKind_bind
  intro kind same
  rw [Ahead] at same
  rw [bind_assoc]
  apply parses_atKind_bind
  intro other again
  rw [Ahead] at again
  have taken : (kind == .keyword word || other == .symbol .comma) = true := by
    rw [same, again]
    simpa using separates
  rw [taken, if_pos rfl, bind_assoc]
  apply Parses.here
  apply parses_advance_bind
  rw [bind_assoc]
  exact (inner.whole derived).append_bind bridge next

theorem argumentAfter_absent {closing : Token} {word : Keyword} {rest : Option Expr → Parser Result}
    (closes : closing.kind = .symbol .rightParen)
    (next : Parses bound (rest none) (closing :: tokens) follow finish) :
    Parses bound (argumentAfter? nested word >>= rest) (closing :: tokens) follow finish := by
  rw [argumentAfter?, bind_assoc]
  apply parses_atKind_absent (ahead_ne closes fun same => by cases same)
  rw [bind_assoc]
  apply parses_atKind_absent (ahead_ne closes (by decide))
  exact next

theorem separator_ends {separator : Token} {word : Keyword} (ends : endsExpr (.keyword word))
    (separates : separator.kind = .keyword word ∨ separator.kind = .symbol .comma) :
    ∀ kind, Ahead follow 0 (separator :: tokens) kind → endsExpr kind := by
  rcases separates with found | found
  · exact ahead_token found ends
  · exact ahead_token found rfl

theorem substringCall_accepts {span : Span} {nodes : List Expr} (inner : nested.Complete bound)
    (derived : DerivesWidely (.special (.substring span nodes)) tokens) :
    Accepts (bound + 1) (substringCall nested) tokens follow := by
  cases derived with
  | substring name opening first second third ordered closing =>
      simp only [List.append_assoc, List.cons_append]
      refine parses_opened_bind opening fun start => ?_
      cases second with
      | unseparated =>
          cases third with
          | separated => simp at ordered
          | unseparated =>
              apply (inner.whole first).append_bind (ahead_token closing rfl)
              intro value
              apply argumentAfter_absent closing
              exact closed_accepts closing
      | separated separates derived =>
          simp only [List.cons_append]
          apply (inner.whole first).append_bind (separator_ends rfl separates)
          intro value
          apply argumentAfter_present inner separates derived
          · cases third with
            | unseparated => exact ahead_token closing rfl
            | separated separates => exact separator_ends rfl separates
          · intro value
            rw [Option.isSome_some, if_pos rfl]
            cases third with
            | unseparated =>
                apply argumentAfter_absent closing
                exact closed_accepts closing
            | separated separates derived =>
                apply argumentAfter_present inner separates derived (ahead_token closing rfl)
                intro value
                exact closed_accepts closing

theorem extractCall_accepts {span : Span} {field : Identifier} {node : Expr}
    (inner : nested.Complete bound)
    (derived : DerivesWidely (.special (.extract span field node)) tokens) :
    Accepts (bound + 1) (extractCall nested) tokens follow := by
  cases derived with
  | extract name opening field word source closing =>
      simp only [List.cons_append]
      refine parses_opened_bind opening fun start => ?_
      apply Parses.here
      apply parses_identifier_bind field
      intro value
      apply Parses.here
      apply parses_expectKeyword_bind word
      apply (inner.whole source).append_bind (ahead_token closing rfl)
      intro value
      exact closed_accepts closing

/-! ### TRIM -/

theorem parses_skipTrimSide_bind {sideTokens : List Token} {rest : Unit → Parser Result}
    (side : TrimSide sideTokens)
    (missing : ∀ kind, Ahead follow 0 tokens kind → isTrimSide kind = false)
    (next : Parses bound (rest ()) tokens follow finish) :
    Parses bound (skipTrimSide >>= rest) (sideTokens ++ tokens) follow finish := by
  rw [skipTrimSide, bind_assoc]
  apply parses_kindAhead_bind
  intro kind ahead
  cases side with
  | absent =>
      have other := missing kind ahead
      split
      · exact absurd other (by decide)
      · exact absurd other (by decide)
      · exact absurd other (by decide)
      · exact next
  | present word =>
      rw [List.singleton_append, Ahead] at ahead
      rw [← ahead] at word
      split
      · exact (parses_advance_bind next).here
      · exact (parses_advance_bind next).here
      · exact (parses_advance_bind next).here
      · rename_i leading trailing both
        unfold isTrimSide at word
        split at word
        · exact absurd rfl leading
        · exact absurd rfl trailing
        · exact absurd rfl both
        · exact absurd word Bool.false_ne_true

theorem parses_trimmed_bind {node : Option Expr} {rest : Option Expr → Parser Result}
    (inner : nested.Complete bound) (derived : DerivesWidely (.expr? node) tokens)
    (ends : ∀ kind, Ahead follow 0 others kind → kind = .keyword .FROM ∨ kind = .symbol .rightParen)
    (next : ∀ value, Parses bound (rest value) others follow finish) :
    Parses bound (trimmed? nested >>= rest) (tokens ++ others) follow finish := by
  rw [trimmed?, bind_assoc]
  apply parses_kindAhead_bind
  intro kind ahead
  cases derived with
  | noExpr =>
      rcases ends kind ahead with found | found
      · rw [found]
        exact next none
      · rw [found]
        exact next none
  | someExpr derived =>
      have started : startsOperand kind := derived.ahead rfl ahead
      split
      · exact absurd started Bool.false_ne_true
      · exact absurd started Bool.false_ne_true
      · rw [bind_assoc]
        apply (inner.whole derived).append_bind
        · intro other ahead
          rcases ends other ahead with found | found <;> rw [found] <;> rfl
        · exact fun value => next (some value)

/-- An expression behind a word, if the word is there. -/
theorem ledExpr_accepts {word : Keyword} {node : Option Expr} (inner : nested.Complete bound)
    (derived : DerivesWidely (.ledExpr word node) tokens)
    (ends : ∀ kind, follow kind → kind ≠ .keyword word ∧ endsExpr kind) :
    Accepts bound
      (do if ← atKeyword word then
            advance
            let inner ← nested.expr 0
            return some inner
          else
            return none)
      tokens follow := by
  cases derived with
  | unled =>
      have missing : ∀ kind, follow kind → kind ≠ .keyword word := fun kind follows =>
        (ends kind follows).1
      exact parses_atKind_absent missing (parses_pure rfl)
  | led found derived =>
      apply parses_atKind_present found
      apply Parses.here
      apply parses_advance_bind
      have taken : Accepts bound (nested.expr 0) _ follow :=
        (inner.whole derived).narrow fun kind follows => (ends kind follows).2
      exact taken.bind fun _ _ none => parses_pure none

theorem trimSource_ahead {node : Option Expr} {closing : Token} {kind : TokenKind}
    (derived : DerivesWidely (.ledExpr .FROM node) tokens)
    (closes : closing.kind = .symbol .rightParen)
    (ahead : Ahead follow 0 (tokens ++ [closing]) kind) :
    kind = .keyword .FROM ∨ kind = .symbol .rightParen := by
  rcases derived.ahead_or ahead with started | ahead
  · exact .inl (beq_iff_eq.mp started)
  · exact .inr (ahead.trans closes)

theorem trimCall_accepts {span : Span} {nodes : List Expr} (inner : nested.Complete bound)
    (derived : DerivesWidely (.special (.trim span nodes)) tokens) :
    Accepts (bound + 1) (trimCall nested) tokens follow := by
  cases derived with
  | trim name opening side first second closing =>
      simp only [List.append_assoc, List.cons_append]
      refine parses_opened_bind opening fun start => ?_
      apply parses_skipTrimSide_bind side
      · intro kind ahead
        rcases first.ahead_or ahead with started | ahead
        · exact isTrimSide_of_startsOperand started
        · rcases trimSource_ahead second closing ahead with found | found <;> rw [found] <;> rfl
      · apply parses_trimmed_bind inner first
        · exact fun _ ahead => trimSource_ahead second closing ahead
        · intro value
          have taken : Accepts bound (trimSource? nested) _ (· == .symbol .rightParen) :=
            ledExpr_accepts inner second fun kind closes => by
              rw [beq_iff_eq.mp closes]
              exact ⟨by decide, rfl⟩
          apply taken.append_bind (ahead_token closing rfl)
          intro value
          exact closed_accepts closing

end AnnotatedSql.Grammar.Parse
