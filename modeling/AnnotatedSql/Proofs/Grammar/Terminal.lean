/-
This file says which tokens occur in a phrase, and with which of them a phrase starts.
-/

import AnnotatedSql.Proofs.Grammar.Derivation

namespace AnnotatedSql.Grammar

variable {quantifiable : TokenKind → Bool} {node : Node} {tokens : List Token} {kind : TokenKind}

/-- The kinds of tokens that only lead to other parts of a phrase: neither a parameter marker nor
`<=>`, and no sign that the text ended or could not be read. -/
def isPlain : TokenKind → Bool
  | .error _ | .endOfInput | .symbol .question | .symbol .safeEqual => false
  | _ => true

/-- The kinds of tokens that could be read. -/
def isLegible : TokenKind → Bool
  | .error _ | .endOfInput => false
  | _ => true

@[grind →] theorem isLegible_of_isPlain (plain : isPlain kind) : isLegible kind := by
  cases kind <;> simp_all [isPlain, isLegible]

@[simp, grind =] theorem isPlain_number : isPlain .number = true := rfl

@[simp, grind =] theorem isPlain_string : isPlain .string = true := rfl

@[simp, grind =] theorem isPlain_hexadecimal : isPlain .hexadecimal = true := rfl

@[simp, grind =] theorem isPlain_bitValue : isPlain .bitValue = true := rfl

@[simp, grind =] theorem isPlain_identifier : isPlain .identifier = true := rfl

@[simp, grind =] theorem isPlain_keyword (word : Keyword) : isPlain (.keyword word) = true := rfl

@[simp, grind =] theorem isPlain_symbol (sign : Symbol) :
    isPlain (.symbol sign) = (sign != .question && sign != .safeEqual) := by
  cases sign <;> rfl

/-! ### Classes of kinds -/

/-- A class that has none of the kinds that are not plain. -/
theorem isPlain_of_class {isClass : TokenKind → Bool} (found : isClass kind)
    (error : ∀ cause, isClass (.error cause) = false) (ending : isClass .endOfInput = false)
    (question : isClass (.symbol .question) = false)
    (safeEqual : isClass (.symbol .safeEqual) = false) : isPlain kind := by
  unfold isPlain
  split <;> simp_all

@[grind →] theorem isPlain_of_isName (found : kind.isName) : isPlain kind :=
  isPlain_of_class found (fun _ => rfl) rfl rfl rfl

@[grind →] theorem isPlain_of_isConnective (found : isConnective kind) : isPlain kind :=
  isPlain_of_class found (fun _ => rfl) rfl rfl rfl

@[grind →] theorem isPlain_of_isNegation (found : isNegation kind) : isPlain kind :=
  isPlain_of_class found (fun _ => rfl) rfl rfl rfl

@[grind →] theorem isPlain_of_isTruthValue (found : isTruthValue kind) : isPlain kind :=
  isPlain_of_class found (fun _ => rfl) rfl rfl rfl

@[grind →] theorem isPlain_of_isQuantifier (found : isQuantifier kind) : isPlain kind :=
  isPlain_of_class found (fun _ => rfl) rfl rfl rfl

@[grind →] theorem isPlain_of_isOrdering (found : isOrdering kind) : isPlain kind :=
  isPlain_of_class found (fun _ => rfl) rfl rfl rfl

@[grind →] theorem isPlain_of_isBitOperator (found : isBitOperator kind) : isPlain kind :=
  isPlain_of_class found (fun _ => rfl) rfl rfl rfl

@[grind →] theorem isPlain_of_isUnaryOperator (found : isUnaryOperator kind) : isPlain kind :=
  isPlain_of_class found (fun _ => rfl) rfl rfl rfl

@[grind →] theorem isPlain_of_isTrimSide (found : isTrimSide kind) : isPlain kind :=
  isPlain_of_class found (fun _ => rfl) rfl rfl rfl

/-- A name is an identifier or an unreserved word. -/
theorem isName_cases (name : kind.isName) :
    kind = .identifier ∨ kind = .quotedIdentifier ∨
      ∃ word : Keyword, kind = .keyword word ∧ word.isUnreserved := by
  unfold TokenKind.isName at name
  split at name
  · exact .inl rfl
  · exact .inr (.inl rfl)
  · exact .inr (.inr ⟨_, rfl, name⟩)
  · exact absurd name Bool.false_ne_true

/-- What names an aggregate may also be a name of another kind. -/
@[grind →] theorem isName_of_namesAggregate {token : Token} (found : Parse.namesAggregate token) :
    token.kind.isName := by
  unfold Parse.namesAggregate at found
  split at found <;> simp_all [TokenKind.isName]

/-- The comparison operators are the orderings and `<=>`. -/
@[grind =] theorem isComparison_eq (kind : TokenKind) :
    Precedence.isComparison kind = (isOrdering kind || kind == .symbol .safeEqual) := by
  rcases kind with _ | _ | _ | _ | _ | _ | word | sign | _ | _ <;> try rfl
  cases sign <;> rfl

/-! ### Phrases without expressions have plain tokens only -/

/-- All tokens are plain. -/
def Plain (tokens : List Token) : Prop := ∀ token ∈ tokens, isPlain token.kind

theorem plain_nil : Plain [] := fun _ member => absurd member List.not_mem_nil

theorem Plain.cons {token : Token} (plain : isPlain token.kind) (rest : Plain tokens) :
    Plain (token :: tokens) := by
  intro other member
  rcases List.mem_cons.mp member with rfl | member
  · exact plain
  · exact rest other member

theorem Plain.append {others : List Token} (first : Plain tokens) (second : Plain others) :
    Plain (tokens ++ others) := by
  intro token member
  rcases List.mem_append.mp member with member | member
  · exact first token member
  · exact second token member

theorem isPlain_of_keyword {word : Keyword} (found : kind = .keyword word) : isPlain kind := by
  rw [found]
  rfl

@[grind →] theorem QualifiedName.Derives.all_plain {name : QualifiedName}
    (derived : name.Derives tokens) : Plain tokens := by
  cases derived <;> simp_all [Plain, isPlain_of_isName]

@[grind →] theorem Literal.Derives.all_plain {literal : Literal}
    (derived : literal.Derives tokens) : Plain tokens := by
  cases derived with
  | boolean word => rcases word with word | word <;> simp [Plain, word]
  | _ => simp_all [Plain]

@[grind →] theorem Flag.all_plain {word : Keyword} {found : Option Span}
    (flag : Flag word found tokens) : Plain tokens := by
  cases flag <;> simp_all [Plain]

@[grind →] theorem TypeLength.all_plain (length : TypeLength tokens) : Plain tokens := by
  cases length <;> simp_all [Plain]

@[grind →] theorem DataType.Derives.all_plain {target : DataType}
    (derived : target.Derives tokens) : Plain tokens := by
  cases derived with
  | plain _ words => simp_all [Plain]
  | sized _ words length =>
      have sized := length.all_plain
      simp_all [Plain, or_imp]

@[grind →] theorem ItemLabel.all_plain {found : Option Label} (itemLabel : ItemLabel found tokens) :
    Plain tokens := by
  cases itemLabel <;> simp_all [Plain, isPlain_of_isName]

theorem CommaList.all_plain {Item : Type} {item : Item → List Token → Prop} {items : List Item}
    (list : CommaList item items tokens) (each : ∀ one tokens, item one tokens → Plain tokens) :
    Plain tokens := by
  induction list with
  | single first => exact each _ _ first
  | cons first comma _ ih =>
      have plain := each _ _ first
      simp_all [Plain, or_imp]

@[grind →] theorem Tables.all_plain {found : Option NameList} (tables : Tables found tokens) :
    Plain tokens := by
  cases tables with
  | absent => simp [Plain]
  | present word names =>
      have plain := names.all_plain fun _ _ derived => derived.all_plain
      simp_all [Plain]

@[grind →] theorem DirectionWord.all_plain {ascending descending : Option Span}
    (direction : DirectionWord ascending descending tokens) : Plain tokens := by
  cases direction <;> simp_all [Plain]

@[grind →] theorem DistinctWord.all_plain {distinct : Option Span}
    (word : DistinctWord distinct tokens) : Plain tokens := by
  cases word <;> simp_all [Plain]

@[grind →] theorem TrimSide.all_plain (side : TrimSide tokens) : Plain tokens := by
  cases side <;> simp_all [Plain, isPlain_of_isTrimSide]

/-! ### All tokens of a phrase could be read -/

/-- All tokens could be read. -/
def Legible (tokens : List Token) : Prop := ∀ token ∈ tokens, isLegible token.kind

@[grind →] theorem Plain.legible (plain : Plain tokens) : Legible tokens :=
  fun token member => isLegible_of_isPlain (plain token member)

@[simp, grind ←] theorem legible_nil : Legible [] := by simp [Legible]

@[simp, grind =] theorem legible_cons {token : Token} :
    Legible (token :: tokens) ↔ isLegible token.kind ∧ Legible tokens := by
  simp [Legible]

@[simp, grind =] theorem legible_append {others : List Token} :
    Legible (tokens ++ others) ↔ Legible tokens ∧ Legible others := by
  simp [Legible, or_imp, forall_and]

/-- The grammar derives no sign that the text ended or could not be read. -/
theorem Derives.legible (derived : DerivesWidely node tokens) : Legible tokens := by
  induction derived with
  | literal derived => exact derived.all_plain.legible
  | column derived => exact derived.all_plain.legible
  | orderColumn derived => exact derived.all_plain.legible
  | orderNumber derived => exact derived.all_plain.legible
  | _ =>
      simp_all only [legible_append, legible_cons, legible_nil]
      all_goals grind [isLegible]

/-! ### How phrases start -/

/-- The kinds of tokens with which an operand starts. -/
def startsOperand : TokenKind → Bool
  | .string | .number | .hexadecimal | .bitValue | .identifier | .quotedIdentifier => true
  | .symbol .question | .symbol .minus | .symbol .leftParen | .symbol .plus | .symbol .tilde
  | .symbol .bang => true
  | .keyword .NOT | .keyword .TRUE | .keyword .FALSE | .keyword .NULL | .keyword .EXISTS
  | .keyword .CASE | .keyword .CAST | .keyword .SUBSTRING | .keyword .EXTRACT
  | .keyword .TRIM => true
  | .keyword word => word.isUnreserved
  | _ => false

@[grind →] theorem startsOperand_of_isName (found : kind.isName) : startsOperand kind := by
  unfold TokenKind.isName at found
  unfold startsOperand
  split at found <;> grind

@[grind →] theorem startsOperand_of_isNegation (found : isNegation kind) : startsOperand kind := by
  unfold isNegation at found
  split at found <;> simp_all [startsOperand]

@[grind →] theorem startsOperand_of_isUnaryOperator (found : isUnaryOperator kind) :
    startsOperand kind := by
  unfold isUnaryOperator at found
  split at found <;> simp_all [startsOperand]

/-- No operand starts with a quantifier. -/
theorem isQuantifier_of_startsOperand (found : startsOperand kind) :
    isQuantifier kind = false := by
  unfold isQuantifier
  split <;> first | rfl | cases found

/-- The kinds of tokens with which a phrase starts, if it has any tokens. -/
def Node.starts : Node → TokenKind → Bool
  | .selectItem _, kind | .selectItems _, kind | .arguments _, kind
  | .regularArguments _ _, kind => startsOperand kind || kind == .symbol .star
  | .ledExpr word _, kind | .ordering word _, kind | .condition word _, kind =>
      kind == .keyword word
  | .separatedExpr word _, kind => kind == .keyword word || kind == .symbol .comma
  | .escape _, kind => kind == .keyword .ESCAPE
  | .branches _, kind => kind == .keyword .WHEN
  | .select _, kind => kind == .keyword .SELECT
  | .subquery _, kind => kind == .symbol .leftParen
  | _, kind => startsOperand kind

theorem Derives.head_append (derived : Derives quantifiable node tokens)
    (needed : node.isOptional = false) (others : List Token) :
    (tokens ++ others).head? = tokens.head? := by
  obtain ⟨first, rest, rfl⟩ := List.exists_cons_of_ne_nil (derived.nonempty needed)
  rfl

theorem QualifiedName.Derives.starts {name : QualifiedName} (derived : name.Derives tokens) :
    ∀ first ∈ tokens.head?, startsOperand first.kind := by
  cases derived <;> grind

theorem Literal.Derives.starts {literal : Literal} (derived : literal.Derives tokens) :
    ∀ first ∈ tokens.head?, startsOperand first.kind := by
  cases derived <;> grind [startsOperand]

/-- A phrase that has tokens starts as its kind says. -/
theorem Derives.starts (derived : Derives quantifiable node tokens) :
    ∀ first ∈ tokens.head?, node.starts first.kind := by
  induction derived with
  | literal derived => exact derived.starts
  | column derived => exact derived.starts
  | orderColumn derived => exact derived.starts
  | orderNumber derived => exact derived.starts
  | logical first _ _ ih | xor first _ _ ih | comparison first _ _ ih | binary first _ _ ih
  | furtherExpr first _ _ ih | furtherArgument first _ _ ih | furtherOrderItem first _ _ ih
  | furtherSelectItem first _ _ ih | orderItem first _ ih
  | quantified first _ _ _ ih =>
      rw [first.head_append rfl]
      exact ih
  | isTest first _ _ _ ih | inSubquery first _ _ _ ih | inList first _ _ _ _ _ ih
  | between first _ _ _ _ _ ih | like first _ _ _ _ ih =>
      simp only [List.append_assoc]
      rw [first.head_append rfl]
      exact ih
  | exprItem first _ ih =>
      intro token found
      rw [first.head_append rfl] at found
      rw [Node.starts, Bool.or_eq_true]
      exact .inl (ih token found)
  | _ =>
      simp_all [Node.starts]
      all_goals grind [startsOperand]

end AnnotatedSql.Grammar
