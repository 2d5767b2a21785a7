/-
This file states the grammar apart from the parsers, as a relation between grammar trees and
tokens.
A tree derives the tokens that it stands for, each of them once and in the order of the source.
-/

import AnnotatedSql.Grammar.Parse.Function
import AnnotatedSql.Grammar.Precedence

namespace AnnotatedSql.Grammar

/-- The offset at which some tokens start. -/
def startOf (tokens : List Token) : Nat := (tokens.head?.map fun token => token.span.start).getD 0

/-- The offset at which some tokens stop, if there are any. -/
def stopOf? (tokens : List Token) : Option Nat := tokens.getLast?.map fun token => token.span.stop

/-- The span from the first to the last of some tokens. -/
def cover (tokens : List Token) : Span :=
  ⟨startOf tokens, max ((stopOf? tokens).getD (startOf tokens)) (startOf tokens)⟩

/-! ### Kinds of tokens -/

/-- AND and OR, as words or as signs. -/
def isConnective : TokenKind → Bool
  | .keyword .AND | .symbol .doubleAmpersand | .keyword .OR | .symbol .doublePipe => true
  | _ => false

def isNegation : TokenKind → Bool
  | .keyword .NOT | .symbol .bang => true
  | _ => false

def isTruthValue : TokenKind → Bool
  | .keyword .TRUE | .keyword .FALSE | .keyword .UNKNOWN | .keyword .NULL => true
  | _ => false

def isQuantifier : TokenKind → Bool
  | .keyword .ALL | .keyword .ANY | .keyword .SOME => true
  | _ => false

/-- The comparison operators but for `<=>`, which the grammar does not count among them. -/
def isOrdering : TokenKind → Bool
  | .symbol .equal | .symbol .notEqual | .symbol .less | .symbol .lessEqual
  | .symbol .greater | .symbol .greaterEqual => true
  | _ => false

def isBitOperator : TokenKind → Bool
  | .symbol .pipe | .symbol .ampersand | .symbol .leftShift | .symbol .rightShift
  | .symbol .plus | .symbol .minus | .symbol .star | .symbol .slash | .symbol .percent
  | .keyword .DIV | .keyword .MOD | .symbol .caret => true
  | _ => false

def isUnaryOperator : TokenKind → Bool
  | .symbol .plus | .symbol .minus | .symbol .tilde | .symbol .bang | .keyword .NOT => true
  | _ => false

def isTrimSide : TokenKind → Bool
  | .keyword .LEADING | .keyword .TRAILING | .keyword .BOTH => true
  | _ => false

/-- The bit operators are those that have a precedence. -/
theorem isBitOperator_eq (kind : TokenKind) :
    isBitOperator kind = (Precedence.bit? kind).isSome := by
  rcases kind with _ | _ | _ | _ | _ | _ | word | sign | _ | _ <;> try rfl
  · cases word <;> rfl
  · cases sign <;> rfl

/-- XOR and the other connectives are those that have a precedence. -/
theorem logical_isSome (kind : TokenKind) :
    (Precedence.logical? kind).isSome = (isConnective kind || kind == .keyword .XOR) := by
  rcases kind with _ | _ | _ | _ | _ | _ | word | sign | _ | _ <;> try rfl
  · cases word <;> rfl
  · cases sign <;> rfl

/-! ### Phrases without expressions -/

def Identifier.ofToken (token : Token) : Identifier :=
  ⟨token.span, token.kind.keyword?.map fun _ => token.span⟩

def Label.ofToken (token : Token) : Label := ⟨token.span, Identifier.ofToken token⟩

/-- Items with commas between them, so that there is one item more than there are commas. -/
inductive CommaList {Item : Type} (item : Item → List Token → Prop) : List Item → List Token → Prop
  | single {first tokens} : item first tokens → CommaList item [first] tokens
  | cons {first rest tokens comma others} :
      item first tokens → comma.kind = .symbol .comma → CommaList item rest others →
      CommaList item (first :: rest) (tokens ++ comma :: others)

/-- The token, if it is there, is the given keyword. -/
inductive Flag (word : Keyword) : Option Span → List Token → Prop
  | absent : Flag word none []
  | present {token} : token.kind = .keyword word → Flag word (some token.span) [token]

/-- `(owner .)? name` -/
inductive QualifiedName.Derives : QualifiedName → List Token → Prop
  | plain {name} :
      name.kind.isName → Derives ⟨name.span, none, Identifier.ofToken name⟩ [name]
  | owned {owner dot name} :
      owner.kind.isName → dot.kind = .symbol .dot → name.kind.isName →
      Derives ⟨cover [owner, dot, name], some (Label.ofToken owner), Identifier.ofToken name⟩
        [owner, dot, name]

/-- A single token, or a number with a minus sign in front. -/
inductive Literal.Derives : Literal → List Token → Prop
  | string {token} : token.kind = .string →
      Derives { Literal.empty token.span with string := some token.span } [token]
  | number {token} : token.kind = .number →
      Derives { Literal.empty token.span with number := some token.span } [token]
  | negativeNumber {sign token} : sign.kind = .symbol .minus → token.kind = .number →
      Derives { Literal.empty (cover [sign, token]) with number := some (cover [sign, token]) }
        [sign, token]
  | hexadecimal {token} : token.kind = .hexadecimal →
      Derives { Literal.empty token.span with hexadecimal := some token.span } [token]
  | bitValue {token} : token.kind = .bitValue →
      Derives { Literal.empty token.span with bitValue := some token.span } [token]
  | boolean {token} : token.kind = .keyword .TRUE ∨ token.kind = .keyword .FALSE →
      Derives { Literal.empty token.span with boolean := some token.span } [token]
  | null {token} : token.kind = .keyword .NULL →
      Derives { Literal.empty token.span with null := some token.span } [token]

/-- `( length (, scale)? )` -/
inductive TypeLength : List Token → Prop
  | length {opening length closing} :
      opening.kind = .symbol .leftParen → length.kind = .number →
      closing.kind = .symbol .rightParen → TypeLength [opening, length, closing]
  | scaled {opening length comma scale closing} :
      opening.kind = .symbol .leftParen → length.kind = .number →
      comma.kind = .symbol .comma → scale.kind = .number →
      closing.kind = .symbol .rightParen → TypeLength [opening, length, comma, scale, closing]

/-- One or more words and an optional length. -/
inductive DataType.Derives : DataType → List Token → Prop
  | plain {words} :
      words ≠ [] → (∀ word ∈ words, word.kind = .identifier) →
      Derives ⟨cover words, cover words⟩ words
  | sized {words length} :
      words ≠ [] → (∀ word ∈ words, word.kind = .identifier) → TypeLength length →
      Derives ⟨cover (words ++ length), cover words⟩ (words ++ length)

/-- `(AS? identifier)?` -/
inductive ItemLabel : Option Label → List Token → Prop
  | absent : ItemLabel none []
  | bare {name} : name.kind.isName → ItemLabel (some (Label.ofToken name)) [name]
  | led {word name} : word.kind = .keyword .AS → name.kind.isName →
      ItemLabel (some (Label.ofToken name)) [word, name]

/-- `(FROM name (, name)*)?` -/
inductive Tables : Option NameList → List Token → Prop
  | absent : Tables none []
  | present {word names tokens} :
      word.kind = .keyword .FROM → CommaList QualifiedName.Derives names tokens →
      Tables (some ⟨cover tokens, names⟩) (word :: tokens)

/-- `(ASC | DESC)?` -/
inductive DirectionWord : Option Span → Option Span → List Token → Prop
  | absent : DirectionWord none none []
  | ascending {word} : word.kind = .keyword .ASC → DirectionWord (some word.span) none [word]
  | descending {word} : word.kind = .keyword .DESC → DirectionWord none (some word.span) [word]

/-- `(DISTINCT | ALL)?`, of which only DISTINCT is kept. -/
inductive DistinctWord : Option Span → List Token → Prop
  | absent : DistinctWord none []
  | distinct {word} : word.kind = .keyword .DISTINCT → DistinctWord (some word.span) [word]
  | all {word} : word.kind = .keyword .ALL → DistinctWord none [word]

/-- `(LEADING | TRAILING | BOTH)?` -/
inductive TrimSide : List Token → Prop
  | absent : TrimSide []
  | present {word} : isTrimSide word.kind → TrimSide [word]

/-! ### Phrases with expressions -/

/-- The phrases that may occur inside one another, and lists and optional parts of them. -/
inductive Node
  | expr (node : Expr)
  | primary (node : BooleanPrimary)
  | predicate (node : Predicate)
  | bitExpr (node : BitExpr)
  | simpleExpr (node : SimpleExpr)
  | exprs (nodes : List Expr)
  | expr? (node : Option Expr)
  | ledExpr (word : Keyword) (node : Option Expr)
  | separatedExpr (word : Keyword) (node : Option Expr)
  | simpleExpr? (node : Option SimpleExpr)
  | escape (node : Option SimpleExpr)
  | branches (nodes : List CaseBranch)
  | argumentChain (nodes : List AggregationArgument)
  | arguments (nodes : List AggregationArgument)
  | regularArguments (nodes : List Expr) (asterisk : Option Span)
  | aggregation (node : AggregationCall)
  | special (node : SpecialCall)
  | regular (node : RegularCall)
  | orderTarget (column : Option QualifiedName) (number : Option Span) (expr : Option Expr)
  | orderItem (node : OrderItem)
  | orderItems (nodes : List OrderItem)
  | ordering (word : Keyword) (node : Option OrderClause)
  | condition (word : Keyword) (node : Option ConditionClause)
  | selectItem (node : SelectItem)
  | selectItems (nodes : List SelectItem)
  | select (node : Select)
  | subquery (node : Subquery)

/-- The rules of the grammar, where `quantifiable` says which operators may stand before ALL, ANY
and SOME.
A node that has a span covers the tokens that it derives. -/
inductive Derives (quantifiable : TokenKind → Bool) : Node → List Token → Prop
  -- `expr`
  | logical {left right operator before after} :
      Derives quantifiable (.expr left) before → isConnective operator.kind →
      Derives quantifiable (.expr right) after →
      Derives quantifiable
        (.expr (.logical (cover (before ++ operator :: after)) left operator.span right))
        (before ++ operator :: after)
  | xor {left right operator before after} :
      Derives quantifiable (.expr left) before → operator.kind = .keyword .XOR →
      Derives quantifiable (.expr right) after →
      Derives quantifiable (.expr (.xor (cover (before ++ operator :: after)) left right))
        (before ++ operator :: after)
  | negation {operand operator tokens} :
      isNegation operator.kind → Derives quantifiable (.expr operand) tokens →
      Derives quantifiable (.expr (.not (cover (operator :: tokens)) operator.span operand))
        (operator :: tokens)
  | paren {inner opening closing tokens} :
      opening.kind = .symbol .leftParen → Derives quantifiable (.expr inner) tokens →
      closing.kind = .symbol .rightParen →
      Derives quantifiable (.expr (.paren (cover (opening :: tokens ++ [closing])) inner))
        (opening :: tokens ++ [closing])
  | primary {primary tokens} :
      Derives quantifiable (.primary primary) tokens →
      Derives quantifiable (.expr (.primary primary)) tokens
  -- `booleanPrimary`
  | isTest {operand word value negation before negationTokens} :
      Derives quantifiable (.primary operand) before → word.kind = .keyword .IS →
      Flag .NOT negation negationTokens → isTruthValue value.kind →
      Derives quantifiable
        (.primary (.isTest (cover (before ++ word :: negationTokens ++ [value])) operand negation
          value.span))
        (before ++ word :: negationTokens ++ [value])
  | comparison {left right operator before after} :
      Derives quantifiable (.primary left) before → Precedence.isComparison operator.kind →
      Derives quantifiable (.predicate right) after →
      Derives quantifiable
        (.primary (.comparison (cover (before ++ operator :: after)) left operator.span right))
        (before ++ operator :: after)
  | quantified {left query operator quantifier before after} :
      Derives quantifiable (.primary left) before → quantifiable operator.kind →
      isQuantifier quantifier.kind → Derives quantifiable (.subquery query) after →
      Derives quantifiable
        (.primary (.quantified (cover (before ++ operator :: quantifier :: after)) left
          operator.span quantifier.span query))
        (before ++ operator :: quantifier :: after)
  | predicate {predicate tokens} :
      Derives quantifiable (.predicate predicate) tokens →
      Derives quantifiable (.primary (.predicate predicate)) tokens
  -- `predicate`
  | inSubquery {operand query word negation before after negationTokens} :
      Derives quantifiable (.bitExpr operand) before → Flag .NOT negation negationTokens →
      word.kind = .keyword .IN → Derives quantifiable (.subquery query) after →
      Derives quantifiable
        (.predicate (.inSubquery (cover (before ++ negationTokens ++ word :: after)) operand
          negation query))
        (before ++ negationTokens ++ word :: after)
  | inList {operand items opening closing word negation before after negationTokens} :
      Derives quantifiable (.bitExpr operand) before → Flag .NOT negation negationTokens →
      word.kind = .keyword .IN → opening.kind = .symbol .leftParen →
      Derives quantifiable (.exprs items) after → closing.kind = .symbol .rightParen →
      Derives quantifiable
        (.predicate (.inList
          (cover (before ++ negationTokens ++ word :: opening :: after ++ [closing])) operand
          negation opening.span items closing.span))
        (before ++ negationTokens ++ word :: opening :: after ++ [closing])
  | between {operand lower upper operator word negation before middle after negationTokens} :
      Derives quantifiable (.bitExpr operand) before → Flag .NOT negation negationTokens →
      word.kind = .keyword .BETWEEN → Derives quantifiable (.bitExpr lower) middle →
      operator.kind = .keyword .AND → Derives quantifiable (.predicate upper) after →
      Derives quantifiable
        (.predicate (.between
          (cover (before ++ negationTokens ++ word :: middle ++ operator :: after)) operand
          negation lower upper))
        (before ++ negationTokens ++ word :: middle ++ operator :: after)
  | like {operand pattern escape word negation before middle after negationTokens} :
      Derives quantifiable (.bitExpr operand) before → Flag .NOT negation negationTokens →
      word.kind = .keyword .LIKE → Derives quantifiable (.simpleExpr pattern) middle →
      Derives quantifiable (.escape escape) after →
      Derives quantifiable
        (.predicate (.like (cover (before ++ negationTokens ++ word :: middle ++ after)) operand
          negation pattern escape))
        (before ++ negationTokens ++ word :: middle ++ after)
  | bitExpr {operand tokens} :
      Derives quantifiable (.bitExpr operand) tokens →
      Derives quantifiable (.predicate (.bitExpr operand)) tokens
  | noEscape : Derives quantifiable (.escape none) []
  | escape {character word tokens} :
      word.kind = .keyword .ESCAPE → Derives quantifiable (.simpleExpr character) tokens →
      Derives quantifiable (.escape (some character)) (word :: tokens)
  -- `bitExpr`
  | binary {left right operator before after} :
      Derives quantifiable (.bitExpr left) before → isBitOperator operator.kind →
      Derives quantifiable (.bitExpr right) after →
      Derives quantifiable
        (.bitExpr (.binary (cover (before ++ operator :: after)) left operator.span right))
        (before ++ operator :: after)
  | simple {operand tokens} :
      Derives quantifiable (.simpleExpr operand) tokens →
      Derives quantifiable (.bitExpr (.simple operand)) tokens
  -- `simpleExpr`
  | existence {query word tokens} :
      word.kind = .keyword .EXISTS → Derives quantifiable (.subquery query) tokens →
      Derives quantifiable
        (.simpleExpr (.subquery (cover (word :: tokens)) (some word.span) query)) (word :: tokens)
  | bareSubquery {query tokens} :
      Derives quantifiable (.subquery query) tokens →
      Derives quantifiable (.simpleExpr (.subquery query.span none query)) tokens
  | marker {operator} :
      operator.kind = .symbol .question →
      Derives quantifiable (.simpleExpr (.marker operator.span)) [operator]
  | literal {literal tokens} :
      literal.Derives tokens → Derives quantifiable (.simpleExpr (.literal literal)) tokens
  | aggregationCall {call tokens} :
      Derives quantifiable (.aggregation call) tokens →
      Derives quantifiable (.simpleExpr (.call ⟨call.span, some call, none, none⟩)) tokens
  | specialCall {call tokens} :
      Derives quantifiable (.special call) tokens →
      Derives quantifiable (.simpleExpr (.call ⟨call.span, none, some call, none⟩)) tokens
  | regularCall {call tokens} :
      Derives quantifiable (.regular call) tokens →
      Derives quantifiable (.simpleExpr (.call ⟨call.span, none, none, some call⟩)) tokens
  | column {name tokens} :
      name.Derives tokens → Derives quantifiable (.simpleExpr (.column name)) tokens
  | unary {operand operator tokens} :
      isUnaryOperator operator.kind → Derives quantifiable (.simpleExpr operand) tokens →
      Derives quantifiable
        (.simpleExpr (.unary (cover (operator :: tokens)) operator.span operand))
        (operator :: tokens)
  | row {items opening closing tokens} :
      opening.kind = .symbol .leftParen → Derives quantifiable (.exprs items) tokens →
      closing.kind = .symbol .rightParen →
      Derives quantifiable (.simpleExpr (.row (cover (opening :: tokens ++ [closing])) items))
        (opening :: tokens ++ [closing])
  | caseOf {operand branches otherwise closing word before middle after} :
      word.kind = .keyword .CASE → Derives quantifiable (.simpleExpr? operand) before →
      Derives quantifiable (.branches branches) middle → branches ≠ [] →
      Derives quantifiable (.ledExpr .ELSE otherwise) after → closing.kind = .keyword .END →
      Derives quantifiable
        (.simpleExpr (.caseOf (cover (word :: before ++ middle ++ after ++ [closing])) operand
          branches otherwise))
        (word :: before ++ middle ++ after ++ [closing])
  | noSimpleExpr : Derives quantifiable (.simpleExpr? none) []
  | someSimpleExpr {operand tokens} :
      Derives quantifiable (.simpleExpr operand) tokens →
      Derives quantifiable (.simpleExpr? (some operand)) tokens
  | noBranch : Derives quantifiable (.branches []) []
  | branch {rest condition result opening word before after others} :
      opening.kind = .keyword .WHEN → Derives quantifiable (.expr condition) before →
      word.kind = .keyword .THEN → Derives quantifiable (.expr result) after →
      Derives quantifiable (.branches rest) others →
      Derives quantifiable
        (.branches (⟨cover (opening :: before ++ word :: after), condition, result⟩ :: rest))
        (opening :: before ++ word :: after ++ others)
  -- lists and optional parts
  | singleExpr {inner tokens} :
      Derives quantifiable (.expr inner) tokens → Derives quantifiable (.exprs [inner]) tokens
  | furtherExpr {rest inner comma tokens others} :
      Derives quantifiable (.expr inner) tokens → comma.kind = .symbol .comma →
      Derives quantifiable (.exprs rest) others →
      Derives quantifiable (.exprs (inner :: rest)) (tokens ++ comma :: others)
  | noExpr : Derives quantifiable (.expr? none) []
  | someExpr {inner tokens} :
      Derives quantifiable (.expr inner) tokens → Derives quantifiable (.expr? (some inner)) tokens
  | unled {word} : Derives quantifiable (.ledExpr word none) []
  | led {opening word inner tokens} :
      opening.kind = .keyword word → Derives quantifiable (.expr inner) tokens →
      Derives quantifiable (.ledExpr word (some inner)) (opening :: tokens)
  | unseparated {word} : Derives quantifiable (.separatedExpr word none) []
  | separated {opening word inner tokens} :
      opening.kind = .keyword word ∨ opening.kind = .symbol .comma →
      Derives quantifiable (.expr inner) tokens →
      Derives quantifiable (.separatedExpr word (some inner)) (opening :: tokens)
  -- `functionCall`
  | lastArgument {inner tokens} :
      Derives quantifiable (.expr inner) tokens →
      Derives quantifiable (.argumentChain [.expr inner]) tokens
  | furtherArgument {rest inner comma tokens others} :
      Derives quantifiable (.expr inner) tokens → comma.kind = .symbol .comma →
      Derives quantifiable (.argumentChain rest) others →
      Derives quantifiable (.argumentChain (.expr inner :: .comma comma.span :: rest))
        (tokens ++ comma :: others)
  | noArguments : Derives quantifiable (.arguments []) []
  | allArguments {operator} :
      operator.kind = .symbol .star →
      Derives quantifiable (.arguments [.asterisk operator.span]) [operator]
  | someArguments {nodes tokens} :
      Derives quantifiable (.argumentChain nodes) tokens →
      Derives quantifiable (.arguments nodes) tokens
  | noRegularArguments : Derives quantifiable (.regularArguments [] none) []
  | allRegularArguments {operator} :
      operator.kind = .symbol .star →
      Derives quantifiable (.regularArguments [] (some operator.span)) [operator]
  | someRegularArguments {nodes tokens} :
      Derives quantifiable (.exprs nodes) tokens →
      Derives quantifiable (.regularArguments nodes none) tokens
  | aggregation {name distinct arguments opening closing before after} :
      Parse.namesAggregate name → opening.kind = .symbol .leftParen →
      Flag .DISTINCT distinct before → Derives quantifiable (.arguments arguments) after →
      closing.kind = .symbol .rightParen →
      Derives quantifiable
        (.aggregation ⟨cover (name :: opening :: before ++ after ++ [closing]), name.span,
          opening.span, distinct, arguments, closing.span⟩)
        (name :: opening :: before ++ after ++ [closing])
  | cast {name target inner opening closing word before after} :
      name.kind = .keyword .CAST → opening.kind = .symbol .leftParen →
      Derives quantifiable (.expr inner) before → word.kind = .keyword .AS →
      target.Derives after → closing.kind = .symbol .rightParen →
      Derives quantifiable
        (.special (.cast
          ⟨cover (name :: opening :: before ++ word :: after ++ [closing]), inner, target⟩))
        (name :: opening :: before ++ word :: after ++ [closing])
  | substring {name second third inner opening closing before middle after} :
      name.kind = .keyword .SUBSTRING → opening.kind = .symbol .leftParen →
      Derives quantifiable (.expr inner) before →
      Derives quantifiable (.separatedExpr .FROM second) middle →
      Derives quantifiable (.separatedExpr .FOR third) after → (third.isSome → second.isSome) →
      closing.kind = .symbol .rightParen →
      Derives quantifiable
        (.special (.substring (cover (name :: opening :: before ++ middle ++ after ++ [closing]))
          (inner :: second.toList ++ third.toList)))
        (name :: opening :: before ++ middle ++ after ++ [closing])
  | extract {name field inner opening closing word tokens} :
      name.kind = .keyword .EXTRACT → opening.kind = .symbol .leftParen → field.kind.isName →
      word.kind = .keyword .FROM → Derives quantifiable (.expr inner) tokens →
      closing.kind = .symbol .rightParen →
      Derives quantifiable
        (.special (.extract (cover (name :: opening :: field :: word :: tokens ++ [closing]))
          (Identifier.ofToken field) inner))
        (name :: opening :: field :: word :: tokens ++ [closing])
  | trim {name first second opening closing before after sideTokens} :
      name.kind = .keyword .TRIM → opening.kind = .symbol .leftParen → TrimSide sideTokens →
      Derives quantifiable (.expr? first) before →
      Derives quantifiable (.ledExpr .FROM second) after → closing.kind = .symbol .rightParen →
      Derives quantifiable
        (.special (.trim (cover (name :: opening :: sideTokens ++ before ++ after ++ [closing]))
          (first.toList ++ second.toList)))
        (name :: opening :: sideTokens ++ before ++ after ++ [closing])
  | regular {name arguments asterisk opening closing tokens} :
      name.kind.isName → opening.kind = .symbol .leftParen →
      Derives quantifiable (.regularArguments arguments asterisk) tokens →
      closing.kind = .symbol .rightParen →
      Derives quantifiable
        (.regular ⟨cover (name :: opening :: tokens ++ [closing]), Identifier.ofToken name,
          arguments, asterisk⟩)
        (name :: opening :: tokens ++ [closing])
  -- `orderByItem` and the clauses
  | orderColumn {name tokens} :
      name.Derives tokens → Derives quantifiable (.orderTarget (some name) none none) tokens
  | orderNumber {literal : Literal} {value tokens} :
      literal.Derives tokens → literal.number = some value →
      Derives quantifiable (.orderTarget none (some value) none) tokens
  | orderExpr {inner tokens} :
      Derives quantifiable (.expr inner) tokens →
      Derives quantifiable (.orderTarget none none (some inner)) tokens
  | orderItem {column number expr ascending descending before after} :
      Derives quantifiable (.orderTarget column number expr) before →
      DirectionWord ascending descending after →
      Derives quantifiable
        (.orderItem ⟨cover (before ++ after), column, number, expr, ascending, descending⟩)
        (before ++ after)
  | lastOrderItem {item tokens} :
      Derives quantifiable (.orderItem item) tokens →
      Derives quantifiable (.orderItems [item]) tokens
  | furtherOrderItem {item rest comma tokens others} :
      Derives quantifiable (.orderItem item) tokens → comma.kind = .symbol .comma →
      Derives quantifiable (.orderItems rest) others →
      Derives quantifiable (.orderItems (item :: rest)) (tokens ++ comma :: others)
  | noOrdering {word} : Derives quantifiable (.ordering word none) []
  | ordering {opening byWord word items tokens} :
      opening.kind = .keyword word → byWord.kind = .keyword .BY →
      Derives quantifiable (.orderItems items) tokens →
      Derives quantifiable (.ordering word (some ⟨cover (opening :: byWord :: tokens), items⟩))
        (opening :: byWord :: tokens)
  | noCondition {word} : Derives quantifiable (.condition word none) []
  | condition {opening word inner tokens} :
      opening.kind = .keyword word → Derives quantifiable (.expr inner) tokens →
      Derives quantifiable (.condition word (some ⟨cover (opening :: tokens), inner⟩))
        (opening :: tokens)
  -- `select`
  | shorthand {operator} :
      operator.kind = .symbol .star →
      Derives quantifiable (.selectItem (.shorthand operator.span)) [operator]
  | qualifiedShorthand {owner dot star} :
      owner.kind.isName → dot.kind = .symbol .dot → star.kind = .symbol .star →
      Derives quantifiable
        (.selectItem (.qualifiedShorthand (cover [owner, dot, star]) (Label.ofToken owner)))
        [owner, dot, star]
  | exprItem {itemLabel inner before after} :
      Derives quantifiable (.expr inner) before → ItemLabel itemLabel after →
      Derives quantifiable (.selectItem (.expr (cover (before ++ after)) inner itemLabel))
        (before ++ after)
  | lastSelectItem {item tokens} :
      Derives quantifiable (.selectItem item) tokens →
      Derives quantifiable (.selectItems [item]) tokens
  | furtherSelectItem {item rest comma tokens others} :
      Derives quantifiable (.selectItem item) tokens → comma.kind = .symbol .comma →
      Derives quantifiable (.selectItems rest) others →
      Derives quantifiable (.selectItems (item :: rest)) (tokens ++ comma :: others)
  | select {distinct items tables condition grouping having ordering distinctTokens itemTokens
      tableTokens conditionTokens groupingTokens havingTokens orderingTokens word} :
      word.kind = .keyword .SELECT → DistinctWord distinct distinctTokens →
      Derives quantifiable (.selectItems items) itemTokens → Tables tables tableTokens →
      Derives quantifiable (.condition .WHERE condition) conditionTokens →
      Derives quantifiable (.ordering .GROUP grouping) groupingTokens →
      Derives quantifiable (.condition .HAVING having) havingTokens →
      Derives quantifiable (.ordering .ORDER ordering) orderingTokens →
      Derives quantifiable
        (.select ⟨cover (word :: distinctTokens ++ itemTokens ++ tableTokens ++ conditionTokens ++
          groupingTokens ++ havingTokens ++ orderingTokens), distinct, ⟨cover itemTokens, items⟩,
          tables, condition, grouping, having, ordering⟩)
        (word :: distinctTokens ++ itemTokens ++ tableTokens ++ conditionTokens ++
          groupingTokens ++ havingTokens ++ orderingTokens)
  | subquery {node opening closing tokens} :
      opening.kind = .symbol .leftParen → Derives quantifiable (.select node) tokens →
      closing.kind = .symbol .rightParen →
      Derives quantifiable
        (.subquery ⟨cover (opening :: tokens ++ [closing]), opening.span, node, closing.span⟩)
        (opening :: tokens ++ [closing])

/-- Phrases that may be left out altogether. -/
def Node.isOptional : Node → Bool
  | .expr? _ | .ledExpr _ _ | .separatedExpr _ _ | .simpleExpr? _ | .escape _ | .branches _
  | .arguments _ | .regularArguments _ _ | .ordering _ _ | .condition _ _ => true
  | _ => false

theorem QualifiedName.Derives.nonempty {name : QualifiedName} {tokens : List Token}
    (derived : name.Derives tokens) : tokens ≠ [] := by
  cases derived <;> simp

theorem Literal.Derives.nonempty {literal : Literal} {tokens : List Token}
    (derived : literal.Derives tokens) : tokens ≠ [] := by
  cases derived <;> simp

theorem Derives.nonempty {quantifiable : TokenKind → Bool} {node : Node} {tokens : List Token}
    (derived : Derives quantifiable node tokens) (needed : node.isOptional = false) :
    tokens ≠ [] := by
  induction derived with
  | literal derived => exact derived.nonempty
  | column derived => exact derived.nonempty
  | orderColumn derived => exact derived.nonempty
  | orderNumber derived => exact derived.nonempty
  | _ => simp_all [Node.isOptional]

theorem CommaList.nonempty {Item : Type} {item : Item → List Token → Prop} {items : List Item}
    {tokens : List Token} (list : CommaList item items tokens)
    (each : ∀ one tokens, item one tokens → tokens ≠ []) : tokens ≠ [] := by
  cases list with
  | single first => exact each _ _ first
  | cons => simp

/-! ### Lists are items with commas between them -/

section
variable {quantifiable : TokenKind → Bool} {tokens : List Token}

theorem derives_exprs_iff {nodes : List Expr} :
    Derives quantifiable (.exprs nodes) tokens ↔
      CommaList (fun node => Derives quantifiable (.expr node)) nodes tokens := by
  constructor
  · intro derived
    induction nodes generalizing tokens with
    | nil => cases derived
    | cons first rest ih =>
        cases derived with
        | singleExpr first => exact .single first
        | furtherExpr first comma others => exact .cons first comma (ih others)
  · intro list
    induction list with
    | single first => exact .singleExpr first
    | cons first comma _ ih => exact .furtherExpr first comma ih

theorem derives_orderItems_iff {nodes : List OrderItem} :
    Derives quantifiable (.orderItems nodes) tokens ↔
      CommaList (fun node => Derives quantifiable (.orderItem node)) nodes tokens := by
  constructor
  · intro derived
    induction nodes generalizing tokens with
    | nil => cases derived
    | cons first rest ih =>
        cases derived with
        | lastOrderItem first => exact .single first
        | furtherOrderItem first comma others => exact .cons first comma (ih others)
  · intro list
    induction list with
    | single first => exact .lastOrderItem first
    | cons first comma _ ih => exact .furtherOrderItem first comma ih

theorem derives_selectItems_iff {nodes : List SelectItem} :
    Derives quantifiable (.selectItems nodes) tokens ↔
      CommaList (fun node => Derives quantifiable (.selectItem node)) nodes tokens := by
  constructor
  · intro derived
    induction nodes generalizing tokens with
    | nil => cases derived
    | cons first rest ih =>
        cases derived with
        | lastSelectItem first => exact .single first
        | furtherSelectItem first comma others => exact .cons first comma (ih others)
  · intro list
    induction list with
    | single first => exact .lastSelectItem first
    | cons first comma _ ih => exact .furtherSelectItem first comma ih

end

/-- The grammar as the parser takes it: `<=>` too may stand before ALL, ANY and SOME. -/
abbrev DerivesWidely : Node → List Token → Prop := Derives Precedence.isComparison

end AnnotatedSql.Grammar
