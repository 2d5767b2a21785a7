/-
This file shows how tightly the operators of a parsed text bind: no operand of an operator is joined
by one that binds weaker, and the right operand by none that binds alike.
-/

import AnnotatedSql.Proofs.Grammar.Choice
import AnnotatedSql.Proofs.Grammar.Interval

namespace AnnotatedSql.Grammar

/-! ### Ranks -/

/-- The connectives, those that bind weaker first; those in one row bind alike. -/
def connectives : List (List TokenKind) :=
  [[.keyword .OR, .symbol .doublePipe], [.keyword .XOR], [.keyword .AND, .symbol .doubleAmpersand]]

/-- The arithmetic and bit operators, those that bind weaker first. -/
def bitOperators : List (List TokenKind) :=
  [[.symbol .pipe], [.symbol .ampersand], [.symbol .leftShift, .symbol .rightShift],
    [.symbol .plus, .symbol .minus],
    [.symbol .star, .symbol .slash, .symbol .percent, .keyword .DIV, .keyword .MOD],
    [.symbol .caret]]

/-- The row of the table that lists the operator. -/
def rankIn (table : List (List TokenKind)) (operator : TokenKind) : Option Nat :=
  table.findIdx? fun row => row.contains operator

theorem logical_eq (kind : TokenKind) :
    Precedence.logical? kind = (rankIn connectives kind).map (· + 1) := by
  rcases kind with _ | _ | _ | _ | _ | _ | word | sign | _ | _ <;> try rfl
  · cases word <;> rfl
  · cases sign <;> rfl

theorem bit_eq (kind : TokenKind) :
    Precedence.bit? kind = (rankIn bitOperators kind).map (· + 1) := by
  rcases kind with _ | _ | _ | _ | _ | _ | word | sign | _ | _ <;> try rfl
  · cases word <;> rfl
  · cases sign <;> rfl

/-- An operator, if there is one, is of the given rank or of a higher one. -/
def AtLeast (table : List (List TokenKind)) (rank : Nat) (found : Option TokenKind) : Prop :=
  ∀ operator ∈ found, ∃ own, rankIn table operator = some own ∧ rank ≤ own

/-- What the operator joins binds no weaker than itself on the left, and tighter on the right. -/
def Binds (table : List (List TokenKind)) (left : Option TokenKind) (operator : TokenKind)
    (right : Option TokenKind) : Prop :=
  ∃ rank, rankIn table operator = some rank ∧ AtLeast table rank left ∧
    AtLeast table (rank + 1) right

/-! ### Operators of nodes -/

/-- The kind of the token that has the span. -/
def kindAt (tokens : List Token) (span : Span) : TokenKind :=
  ((tokens.find? fun token => token.span = span).map Token.kind).getD .endOfInput

variable {tokens : List Token}

/-- The operator of a connective node. -/
def Expr.operator? (tokens : List Token) : Expr → Option TokenKind
  | .logical _ _ operator _ => some (kindAt tokens operator)
  | .xor _ _ _ => some (.keyword .XOR)
  | _ => none

def BitExpr.operator? (tokens : List Token) : BitExpr → Option TokenKind
  | .binary _ _ operator _ => some (kindAt tokens operator)
  | .simple _ => none

/-- The operator of the node binds as the tables say. -/
def TreeNode.Bound (tokens : List Token) : TreeNode → Prop
  | .expr (.logical _ left operator right) =>
      Binds connectives (left.operator? tokens) (kindAt tokens operator) (right.operator? tokens)
  | .expr (.xor _ left right) =>
      Binds connectives (left.operator? tokens) (.keyword .XOR) (right.operator? tokens)
  | .expr (.not _ _ operand) => operand.operator? tokens = none
  | .bitExpr (.binary _ left operator right) =>
      Binds bitOperators (left.operator? tokens) (kindAt tokens operator) (right.operator? tokens)
  | _ => True

/-! ### What the parser joins -/

namespace Parse

variable {origin cursor : Cursor} {nested : Nested}

variable {table : List (List TokenKind)} {minimum rank rounds start : Nat} {kind : TokenKind}
  {left right : Option TokenKind}

/-- No operator of the given level or a higher one lies ahead. -/
def Leaves (table : List (List TokenKind)) (minimum : Nat) (cursor : Cursor) : Prop :=
  ∀ rank ∈ rankIn table cursor.current.kind, rank + 1 < minimum

/-- What is joined so far binds as tight as asked for, and no weaker than what lies ahead. -/
structure Ready (table : List (List TokenKind)) (minimum : Nat) (found : Option TokenKind)
    (cursor : Cursor) : Prop where
  least : AtLeast table (minimum - 1) found
  ahead : ∀ rank ∈ rankIn table cursor.current.kind, AtLeast table rank found

theorem atLeast_none : AtLeast table rank none := by
  intro kind found
  cases found

theorem ready_none : Ready table minimum none cursor := ⟨atLeast_none, fun _ _ => atLeast_none⟩

theorem leaves_of_none (absent : rankIn table cursor.current.kind = none) :
    Leaves table minimum cursor := by
  intro rank found
  rw [absent] at found
  cases found

/-- One more operator and what binds tighter than it are joined to what is ready. -/
theorem Ready.join {later : Cursor} (ready : Ready table minimum left cursor)
    (found : rankIn table cursor.current.kind = some rank) (enough : minimum ≤ rank + 1)
    (tighter : AtLeast table (rank + 1) right) (leaves : Leaves table (rank + 2) later) :
    Binds table left cursor.current.kind right ∧
      Ready table minimum (some cursor.current.kind) later := by
  have own (bound : Nat) (below : bound ≤ rank) :
      AtLeast table bound (some cursor.current.kind) := by
    intro operator isOperator
    obtain rfl := Option.some.inj isOperator
    exact ⟨rank, found, below⟩
  refine ⟨⟨rank, found, ready.ahead rank found, tighter⟩, own _ (by omega), ?_⟩
  intro other isAhead
  have below := leaves other isAhead
  exact own other (by omega)

/-- The nested parsers join what binds at least as tight as asked for, and leave the rest. -/
structure Nested.Joins (tokens : List Token) (origin : Cursor) (nested : Nested) : Prop where
  sound : nested.Sound
  expr (minimum : Nat) {cursor : Cursor} : cursor.Follows origin →
    Ensures cursor (nested.expr minimum) fun node later =>
      AtLeast connectives (minimum - 1) (node.operator? tokens) ∧
        Leaves connectives minimum later
  bitExpr (minimum : Nat) {cursor : Cursor} : cursor.Follows origin →
    Ensures cursor (nested.bitExpr minimum) fun node later =>
      AtLeast bitOperators (minimum - 1) (node.operator? tokens) ∧
        Leaves bitOperators minimum later

/-! ### Operands of connectives -/

/-- A negated expression is not joined by a connective: none has a rank as high as asked for. -/
theorem operator_none {found : Option TokenKind}
    (least : AtLeast connectives (Precedence.negation - 1) found) : found = none := by
  cases found with
  | none => rfl
  | some operator =>
      obtain ⟨own, ranked, above⟩ := least operator rfl
      have below : own < connectives.length := (List.findIdx?_eq_some_iff_getElem.mp ranked).1
      exact absurd (Nat.lt_of_lt_of_le below above) (Nat.lt_irrefl _)

/-- The expression is no connective over others, and what it negates is none either. -/
def Alone (tokens : List Token) (node : Expr) : Prop :=
  node.operator? tokens = none ∧ node.spine = [node] ∧ (TreeNode.expr node).Bound tokens

theorem primaryExpr_alone (tokens : List Token) :
    Ensures cursor (primaryExpr nested) fun node _ => Alone tokens node := by
  simp only [primaryExpr, ensures_bind, ensures_pure]
  exact fun primary _ _ => ⟨rfl, rfl, trivial⟩

/-- Nothing is no operand. -/
theorem alone_none (tokens : List Token) : ∀ node ∈ (none : Option Expr), Alone tokens node := by
  intro node found
  cases found

theorem enclosed_alone (tokens : List Token) :
    Ensures cursor (enclosed? nested) fun found _ => ∀ node ∈ found, Alone tokens node := by
  simp only [enclosed?, ensures_bind, ensures_offset, ensures_advance, ensures_atSymbol]
  intro inside middle _
  split
  · simp only [ensures_bind, ensures_advance, ensures_kindAhead]
    split
    · exact ensures_pure.mpr (alone_none tokens)
    · simp only [ensures_bind, ensures_spanFrom, ensures_pure]
      rintro node ⟨⟩
      exact ⟨rfl, rfl, trivial⟩
  · exact ensures_pure.mpr (alone_none tokens)

theorem parenthesised_alone (tokens : List Token) (retry : Retry) :
    Ensures cursor (parenthesised? retry nested) fun found _ =>
      ∀ node ∈ found, Alone tokens node := by
  simp only [parenthesised?, ensures_bind, ensures_get]
  split
  · exact ensures_pure.mpr (alone_none tokens)
  · rw [ensures_bind]
    apply ensures_attempt
    · refine (enclosed_alone tokens).mono ?_
      intro found _ alone
      cases found with
      | none =>
          rw [ensures_bind, ensures_modify, ensures_pure]
          exact alone_none tokens
      | some node => exact ensures_pure.mpr alone
    · intro _
      rw [ensures_bind, ensures_modify, ensures_pure]
      exact alone_none tokens

theorem parenthesisedOrPrimary_alone (tokens : List Token) (retry : Retry) :
    Ensures cursor (parenthesisedOrPrimary retry nested) fun node _ => Alone tokens node := by
  rw [parenthesisedOrPrimary, ensures_bind]
  refine (parenthesised_alone tokens retry).mono ?_
  intro found _ alone
  cases found with
  | none => exact primaryExpr_alone tokens
  | some node => exact ensures_pure.mpr (alone node rfl)

theorem negated_alone (inner : nested.Joins tokens origin) (follows : cursor.Follows origin) :
    Ensures cursor (negated nested) fun node _ => Alone tokens node := by
  simp only [negated, ensures_bind, ensures_offset, ensures_terminal, ensures_spanFrom,
    ensures_pure]
  refine (inner.expr _ follows.advance).mono ?_
  intro operand _ joined
  exact ⟨rfl, rfl, operator_none joined.1⟩

theorem operand_alone (retry : Retry) (inner : nested.Joins tokens origin)
    (follows : cursor.Follows origin) :
    Ensures cursor (operand retry nested) fun node _ => Alone tokens node := by
  simp only [operand, ensures_bind, ensures_kindAhead]
  split
  · exact negated_alone inner follows
  · exact negated_alone inner follows
  · simp only [ensures_bind, ensures_kindAhead]
    split
    · exact primaryExpr_alone tokens
    · exact parenthesisedOrPrimary_alone tokens retry
  · exact primaryExpr_alone tokens

/-! ### Chains of operators -/

section
variable (ends : origin.Ends)
  (known : ∀ token ∈ origin.unread, kindAt tokens token.span = token.kind)
include ends

/-- Where no token is left, no operator is ahead. -/
theorem leaves_atEnd (follows : cursor.Follows origin) (nothing : cursor.position ≤ 0)
    (absent : rankIn table .endOfInput = none) : Leaves table minimum cursor := by
  have unread := List.eq_nil_of_length_eq_zero (Nat.le_zero.mp nothing)
  have last : cursor.current.kind = .endOfInput := by
    rw [Cursor.current, Cursor.ahead, unread]
    exact follows.ends ends
  exact leaves_of_none (by rw [last]; exact absent)

include known

/-- An operator is consumed, and its token can be found again by the span. -/
theorem operator_read (follows : cursor.Follows origin)
    (found : rankIn table cursor.current.kind = some rank)
    (absent : rankIn table .endOfInput = none) :
    cursor.Reads [cursor.current] cursor.advance ∧
      kindAt tokens cursor.current.span = cursor.current.kind := by
  have more : cursor.current.kind ≠ .endOfInput := by
    intro last
    rw [last, absent] at found
    cases found
  have cursorEnds := follows.ends ends
  exact ⟨Cursor.reads_advance cursorEnds more, known _ (current_mem follows cursorEnds more)⟩

theorem bitChain_joins (inner : nested.Joins tokens origin) (follows : cursor.Follows origin)
    (enough : cursor.position ≤ rounds) {left : BitExpr}
    (ready : Ready bitOperators minimum (left.operator? tokens) cursor)
    (bound : ∀ part ∈ left.spine, (TreeNode.bitExpr part).Bound tokens) :
    Ensures cursor (bitChain nested start minimum rounds left) fun node later =>
      AtLeast bitOperators (minimum - 1) (node.operator? tokens) ∧
        Leaves bitOperators minimum later ∧
        ∀ part ∈ node.spine, (TreeNode.bitExpr part).Bound tokens := by
  induction rounds generalizing cursor left with
  | zero => exact ensures_pure.mpr ⟨ready.least, leaves_atEnd ends follows enough rfl, bound⟩
  | succ rounds ih =>
      simp only [bitChain, ensures_bind, ensures_kindAhead, bit_eq]
      rcases found : rankIn bitOperators (cursor.ahead 0).kind with _ | rank
      · exact ensures_pure.mpr ⟨ready.least, leaves_of_none found, bound⟩
      · simp only [Option.map_some]
        split
        case isTrue weaker =>
          refine ensures_pure.mpr ⟨ready.least, ?_, bound⟩
          intro other isAhead
          obtain rfl := Option.some.inj (found.symm.trans isAhead)
          exact weaker
        case isFalse tight =>
          obtain ⟨taken, kind⟩ := operator_read ends known follows found rfl
          have onward := follows.reads taken
          simp only [ensures_bind, ensures_terminal, ensures_spanFrom]
          intro right later run
          obtain ⟨_, more, _⟩ := inner.sound.bitExpr _ (onward.ends ends) right later run
          obtain ⟨tighter, leaves⟩ := inner.bitExpr _ onward right later run
          obtain ⟨binds, joined⟩ := ready.join found (Nat.not_lt.mp tight) tighter leaves
          rw [← kind] at binds joined
          refine ih (onward.reads more) ?_ joined ?_
          · have first := taken.position
            have second := more.position
            rw [List.length_singleton] at first
            omega
          · rw [BitExpr.spine]
            exact List.forall_mem_cons.mpr ⟨binds, bound⟩

theorem bitExpr_joins (inner : nested.Joins tokens origin) (minimum : Nat)
    (follows : cursor.Follows origin) :
    Ensures cursor (bitExpr nested minimum) fun node later =>
      AtLeast bitOperators (minimum - 1) (node.operator? tokens) ∧
        Leaves bitOperators minimum later ∧
        ∀ part ∈ node.spine, (TreeNode.bitExpr part).Bound tokens := by
  simp only [bitExpr, ensures_bind, ensures_offset, ensures_remaining]
  intro operand middle run
  obtain ⟨_, more, _⟩ := simpleExpr_finds inner.sound (follows.ends ends) operand middle run
  refine bitChain_joins ends known inner (follows.reads more) (Nat.le_refl _) ready_none ?_
  intro part member
  obtain rfl := List.mem_singleton.mp member
  trivial

theorem logicalChain_joins (inner : nested.Joins tokens origin) (follows : cursor.Follows origin)
    (enough : cursor.position ≤ rounds) {left : Expr}
    (ready : Ready connectives minimum (left.operator? tokens) cursor)
    (bound : ∀ part ∈ left.spine, (TreeNode.expr part).Bound tokens) :
    Ensures cursor (logicalChain nested start minimum rounds left) fun node later =>
      AtLeast connectives (minimum - 1) (node.operator? tokens) ∧
        Leaves connectives minimum later ∧
        ∀ part ∈ node.spine, (TreeNode.expr part).Bound tokens := by
  induction rounds generalizing cursor left with
  | zero => exact ensures_pure.mpr ⟨ready.least, leaves_atEnd ends follows enough rfl, bound⟩
  | succ rounds ih =>
      simp only [logicalChain, ensures_bind, ensures_kindAhead, logical_eq]
      rcases found : rankIn connectives (cursor.ahead 0).kind with _ | rank
      · exact ensures_pure.mpr ⟨ready.least, leaves_of_none found, bound⟩
      · simp only [Option.map_some]
        split
        case isTrue weaker =>
          refine ensures_pure.mpr ⟨ready.least, ?_, bound⟩
          intro other isAhead
          obtain rfl := Option.some.inj (found.symm.trans isAhead)
          exact weaker
        case isFalse tight =>
          obtain ⟨taken, kind⟩ := operator_read ends known follows found rfl
          have onward := follows.reads taken
          simp only [ensures_bind, ensures_terminal, ensures_spanFrom]
          intro right later run
          obtain ⟨_, more, _⟩ := inner.sound.expr _ (onward.ends ends) right later run
          obtain ⟨tighter, leaves⟩ := inner.expr _ onward right later run
          obtain ⟨binds, joined⟩ := ready.join found (Nat.not_lt.mp tight) tighter leaves
          have fewer : later.position ≤ rounds := by
            have first := taken.position
            have second := more.position
            rw [List.length_singleton] at first
            omega
          split
          case isTrue exclusive =>
            rw [Cursor.current, exclusive] at binds joined
            refine ih (onward.reads more) fewer joined ?_
            rw [Expr.spine]
            exact List.forall_mem_cons.mpr ⟨binds, bound⟩
          case isFalse =>
            rw [← kind] at binds joined
            refine ih (onward.reads more) fewer joined ?_
            rw [Expr.spine]
            exact List.forall_mem_cons.mpr ⟨binds, bound⟩

theorem expr_joins (retry : Retry) (inner : nested.Joins tokens origin) (minimum : Nat)
    (follows : cursor.Follows origin) :
    Ensures cursor (expr retry nested minimum) fun node later =>
      AtLeast connectives (minimum - 1) (node.operator? tokens) ∧
        Leaves connectives minimum later ∧
        ∀ part ∈ node.spine, (TreeNode.expr part).Bound tokens := by
  simp only [expr, ensures_bind, ensures_offset, ensures_remaining]
  intro first middle run
  obtain ⟨alone, itself, bound⟩ := operand_alone retry inner follows first middle run
  obtain ⟨_, more, _⟩ := operand_finds retry inner.sound (follows.ends ends) first middle run
  refine logicalChain_joins ends known inner (follows.reads more) (Nat.le_refl _) ?_ ?_
  · rw [alone]
    exact ready_none
  · intro part member
    rw [itself] at member
    obtain rfl := List.mem_singleton.mp member
    exact bound

theorem nested_joins (depth : Nat) : (Parse.nested .always depth).Joins tokens origin := by
  induction depth with
  | zero =>
      exact ⟨nested_sound .always 0, fun _ _ _ => ensures_fail, fun _ _ _ => ensures_fail⟩
  | succ depth ih =>
      refine ⟨nested_sound .always (depth + 1), ?_, ?_⟩
      · intro minimum cursor follows
        refine (expr_joins ends known .always ih minimum follows).mono ?_
        intro node later joined
        exact ⟨joined.1, joined.2.1⟩
      · intro minimum cursor follows
        refine (bitExpr_joins ends known ih minimum follows).mono ?_
        intro node later joined
        exact ⟨joined.1, joined.2.1⟩

end

end Parse

/-! ### Trees of texts -/

section
variable {source : Text} {token : Token}

/-- No two tokens of a text have the same span. -/
theorem kindAt_eq (member : token ∈ tokenize source) :
    kindAt (tokenize source) token.span = token.kind := by
  have exists_some : ((tokenize source).find? fun other => other.span = token.span).isSome := by
    rw [List.find?_isSome]
    exact ⟨token, member, by simp⟩
  obtain ⟨other, found⟩ := Option.isSome_iff_exists.mp exists_some
  have same : other.span = token.span := by simpa using List.find?_some found
  obtain ⟨place, atPlace⟩ := List.getElem?_of_mem member
  obtain ⟨otherPlace, atOther⟩ := List.getElem?_of_mem (List.mem_of_find?_eq_some found)
  obtain rfl := place_eq atPlace atOther (.inl (by rw [same]))
  obtain rfl := Option.some.inj (atPlace.symm.trans atOther)
  rw [kindAt, found]
  rfl

variable {tree : Select}

/-- The operators in the tree of a text bind as the tables say. -/
theorem parse_bound (parsed : parse source = .ok tree) {node : TreeNode}
    (within : (TreeNode.select tree).Has node) : node.Bound (tokenize source) := by
  have chosen := parse_chosen parsed within
  have ends := Cursor.ofTokens_ends source
  have known (token : Token) (unread : token ∈ (Cursor.ofTokens (tokenize source)).unread) :
      kindAt (tokenize source) token.span = token.kind := kindAt_eq (mem_tokenize unread)
  cases node with
  | expr node =>
      obtain ⟨depth, minimum, place, root, after, follows, _, run, member⟩ := chosen
      have inner := Parse.nested_joins ends known depth
      exact (Parse.expr_joins ends known .always inner minimum follows root after run).2.2 node
        member
  | bitExpr node =>
      obtain ⟨depth, minimum, place, root, after, follows, _, run, member⟩ := chosen
      have inner := Parse.nested_joins ends known depth
      exact (Parse.bitExpr_joins ends known inner minimum follows root after run).2.2 node member
  | _ => trivial

end

end AnnotatedSql.Grammar
