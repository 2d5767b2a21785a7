/-
This file shows that a text is accepted only if the grammar derives it token by token, and where
the parser takes more than the grammar does.
-/

import AnnotatedSql.Proofs.Grammar.Soundness.Select
import AnnotatedSql.Proofs.Grammar.Terminal
import AnnotatedSql.Proofs.Token.Sequence
import Mathlib.Data.List.Chain

namespace AnnotatedSql.Grammar

variable {quantifiable wide thin : TokenKind → Bool} {node : Node} {tokens others : List Token}

/-! ### Operators before ALL, ANY and SOME -/

/-- An operator before a quantifier that may stand there in the wide grammar may stand there in the
narrow one. -/
def Narrows (wide thin : TokenKind → Bool) (first second : Token) : Prop :=
  wide first.kind → isQuantifier second.kind → thin first.kind

/-- The wide grammar derives no more than the narrow one where the operators before quantifiers are
those of the narrow one. -/
theorem Derives.narrow (derived : Derives wide node tokens)
    (chain : tokens.IsChain (Narrows wide thin)) : Derives thin node tokens := by
  induction derived with
  | literal derived => exact .literal derived
  | column derived => exact .column derived
  | orderColumn derived => exact .orderColumn derived
  | orderNumber derived found => exact .orderNumber derived found
  | quantified left allowed quantifier right ihLeft ihRight =>
      rw [List.isChain_append, List.isChain_cons_cons, List.isChain_cons] at chain
      obtain ⟨chainLeft, ⟨narrows, _, chainRight⟩, _⟩ := chain
      exact .quantified (ihLeft chainLeft) (narrows allowed quantifier) quantifier
        (ihRight chainRight)
  | _ =>
      simp_all only [List.isChain_append, List.isChain_cons, List.isChain_nil]
      all_goals constructor <;> grind

/-! ### `<=>` in phrases of the grammar -/

/-- `<=>` is not followed by a quantifier. -/
def Unquantified (first second : Token) : Prop :=
  first.kind = .symbol .safeEqual → isQuantifier second.kind = false

instance : DecidableRel Unquantified := fun _ _ => inferInstanceAs (Decidable (_ → _))

/-- No `<=>` in the tokens stands before a quantifier, whatever follows the tokens. -/
def Sober (tokens : List Token) : Prop :=
  tokens.IsChain Unquantified ∧ ∀ last ∈ tokens.getLast?, last.kind ≠ .symbol .safeEqual

@[grind ←] theorem sober_nil : Sober [] := ⟨.nil, by simp⟩

theorem Sober.append (first : Sober tokens) (second : Sober others) : Sober (tokens ++ others) := by
  constructor
  · rw [List.isChain_append]
    refine ⟨first.1, second.1, ?_⟩
    intro last found next _ safeEqual
    exact absurd safeEqual (first.2 last found)
  · intro last found
    rw [List.getLast?_append, Option.mem_def, Option.or_eq_some_iff] at found
    rcases found with found | ⟨_, found⟩
    · exact second.2 last found
    · exact first.2 last found

theorem sober_singleton {token : Token} (other : token.kind ≠ .symbol .safeEqual) :
    Sober [token] := by
  refine ⟨List.isChain_singleton token, ?_⟩
  simpa using other

theorem Sober.cons {token : Token} (rest : Sober tokens) (other : token.kind ≠ .symbol .safeEqual) :
    Sober (token :: tokens) := (sober_singleton other).append rest

@[grind →] theorem Plain.sober (plain : Plain tokens) : Sober tokens := by
  induction tokens with
  | nil => exact sober_nil
  | cons token rest ih =>
      refine (ih fun token member => plain token (.tail _ member)).cons ?_
      intro safeEqual
      have isPlain := plain token (.head _)
      simp [safeEqual] at isPlain

/-- An operator of any kind is harmless before a phrase that starts with an operand. -/
theorem Sober.after_operator {operator : Token} (rest : Sober tokens) (nonempty : tokens ≠ [])
    (starts : ∀ first ∈ tokens.head?, startsOperand first.kind) : Sober (operator :: tokens) := by
  constructor
  · rw [List.isChain_cons]
    refine ⟨?_, rest.1⟩
    intro next found _
    exact isQuantifier_of_startsOperand (starts next found)
  · rw [List.getLast?_cons_of_ne_nil nonempty]
    exact rest.2

/-- The grammar derives no `<=>` before a quantifier. -/
theorem Derives.sober (derived : Derives isOrdering node tokens) : Sober tokens := by
  induction derived with
  | comparison left comparison right ihLeft ihRight =>
      exact ihLeft.append (ihRight.after_operator (right.nonempty rfl) right.starts)
  | _ =>
      all_goals repeat' first | assumption | apply Sober.append | apply Sober.cons
      all_goals grind

/-- What the wide grammar derives is derived by the grammar itself exactly if no `<=>` in it stands
before a quantifier. -/
theorem derives_iff_unquantified (derived : DerivesWidely node tokens) :
    Derives isOrdering node tokens ↔ tokens.IsChain Unquantified := by
  constructor
  · exact fun strictly => strictly.sober.1
  · intro chain
    refine derived.narrow (chain.imp ?_)
    intro first second unquantified comparison quantifier
    rw [isComparison_eq, Bool.or_eq_true, beq_iff_eq] at comparison
    rcases comparison with ordering | safeEqual
    · exact ordering
    · rw [unquantified safeEqual] at quantifier
      exact absurd quantifier Bool.false_ne_true

/-- The grammar derives no less than it would without quantifiers after `<=>`. -/
theorem Derives.widely (derived : Derives isOrdering node tokens) : DerivesWidely node tokens := by
  refine derived.narrow (List.Pairwise.isChain ?_)
  refine List.pairwise_of_forall ?_
  intro first second ordering _
  rw [isComparison_eq, ordering, Bool.true_or]

/-! ### Accepted texts -/

/-- A place at which the input ends leaves nothing unread, if only the last token ends it. -/
theorem Cursor.unread_of_atEnd {cursor : Cursor} (atEnd : cursor.current.kind = .endOfInput)
    (others : ∀ token ∈ cursor.unread, token.kind ≠ .endOfInput) : cursor.unread = [] := by
  obtain ⟨unread, ending, lastStop, rejected⟩ := cursor
  cases unread with
  | nil => rfl
  | cons token rest => exact absurd atEnd (others token (.head _))

/-- An accepted text consists of the tokens that its tree derives, an optional semicolon and the end
of the input. -/
theorem parse_derives {source : Text} {tree : Select} (accepted : parse source = .ok tree) :
    ∃ tokens closing ending,
      tokenize source = tokens ++ closing ++ [ending] ∧ Parse.Closing closing ∧
        ending.kind = .endOfInput ∧ DerivesWidely (.select tree) tokens := by
  obtain ⟨content, ending, whole, last, others⟩ := (Reader.ofSource source).tokens_end
  rw [parse, tokenize, whole] at accepted
  have ends := Cursor.ofTokens_ends source
  rw [tokenize, whole] at ends
  obtain ⟨after, run⟩ : ∃ after,
      Parse.statementWith .never (Cursor.ofTokens (content ++ [ending])) = (.ok tree, after) :=
    ⟨_, Prod.ext accepted rfl⟩
  obtain ⟨tokens, closing, reads, atEnd, closes, derived⟩ :=
    Parse.statementWith_ensures .never ends tree after run
  have consumed : content = tokens ++ closing ++ after.unread := by
    simpa [Cursor.ofTokens] using reads.unread
  have nothing := Cursor.unread_of_atEnd atEnd fun token member =>
    others token (by rw [consumed]; exact List.mem_append_right _ member)
  rw [nothing, List.append_nil] at consumed
  refine ⟨tokens, closing, ending, ?_, closes, last, derived⟩
  rw [tokenize, whole, consumed]

/-- All tokens of an accepted text could be read. The grammar itself derives the tree, unless a
`<=>` is followed by ALL, ANY or SOME, which the parser takes and the grammar does not. -/
theorem parse_sound (source : Text) (tree : Select) (accepted : parse source = .ok tree) :
    ∃ tokens closing ending,
      tokenize source = tokens ++ closing ++ [ending] ∧
        Parse.Closing closing ∧ ending.kind = .endOfInput ∧
        Legible (tokens ++ closing) ∧
        DerivesWidely (.select tree) tokens ∧
        (Derives isOrdering (.select tree) tokens ↔ (tokenize source).IsChain Unquantified) := by
  obtain ⟨tokens, closing, ending, consumed, closes, last, derived⟩ := parse_derives accepted
  refine ⟨tokens, closing, ending, consumed, closes, last, ?_, derived, ?_⟩
  · rw [legible_append]
    refine ⟨derived.legible, ?_⟩
    cases closes with
    | absent => exact legible_nil
    | present semicolon => simp [semicolon, isLegible]
  · rw [derives_iff_unquantified derived, consumed]
    -- neither a semicolon nor the end is a quantifier
    constructor
    · intro chain
      cases closes with
      | absent => simp_all [List.isChain_append, Unquantified, isQuantifier]
      | present semicolon => simp_all [List.isChain_append, Unquantified, isQuantifier]
    · intro chain
      rw [List.append_assoc, List.isChain_append] at chain
      exact chain.1

/-- A text that the parser takes although the grammar does not derive its tree. -/
theorem parse_sound_quantified :
    ∃ tree tokens, parse "SELECT a <=> ALL (SELECT 1)".toList = .ok tree ∧
      DerivesWidely (.select tree) tokens ∧ ¬ Derives isOrdering (.select tree) tokens := by
  have taken : (parse "SELECT a <=> ALL (SELECT 1)".toList).isOk = true := by decide +kernel
  cases accepted : parse "SELECT a <=> ALL (SELECT 1)".toList with
  | error error =>
      rw [accepted] at taken
      exact absurd taken Bool.false_ne_true
  | ok tree =>
      obtain ⟨tokens, _, _, _, _, _, _, derived, strictly⟩ := parse_sound _ tree accepted
      refine ⟨tree, tokens, rfl, derived, ?_⟩
      rw [strictly]
      decide +kernel

end AnnotatedSql.Grammar
