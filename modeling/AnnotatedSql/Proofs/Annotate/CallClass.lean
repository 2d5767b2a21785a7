/-
This file shows how the annotation of a function call can be told from the tokens of the call: its
name alone says whether it is one of the known aggregates.
-/

import AnnotatedSql.Proofs.Annotate.InvalidOrdinal
import AnnotatedSql.Proofs.Annotate.Outcome
import AnnotatedSql.Proofs.Annotate.Reference
import AnnotatedSql.Proofs.Grammar.Division
import AnnotatedSql.Proofs.Token.LexicalClass

namespace AnnotatedSql

open Grammar (Cursor DerivesWidely Flag TreeNode cover distinctText? argumentText)
open Grammar.Parse (namesAggregate plainAggregates)

variable {source : Text} {tree : Grammar.Select} {tokens : List Token} {name : Token}

/-! ### Names of aggregates -/

namespace Aggregate

/-- The aggregate that a token stands for as the name of a call, unless it is quoted. -/
def ofToken? (name : Token) : Option Aggregate :=
  if name.kind = .quotedIdentifier then none else ofName? name.text

/-- Every aggregate that is told apart is an unreserved word or one of the other names after which
an aggregate is parsed. -/
theorem spelled (aggregate : Aggregate) :
    (∃ word : Keyword, word.isUnreserved ∧ aggregate.spelling = word.spelling) ∨
      aggregate.spelling ∈ plainAggregates := by
  cases aggregate with
  | max => exact .inl ⟨.MAX, rfl, rfl⟩
  | min => exact .inl ⟨.MIN, rfl, rfl⟩
  | sum => exact .inl ⟨.SUM, rfl, rfl⟩
  | count => exact .inl ⟨.COUNT, rfl, rfl⟩
  | avg => exact .inl ⟨.AVG, rfl, rfl⟩
  | bitXor | stddev | variance => exact .inr (by decide)

theorem ofName_none {text : Text} (other : ∀ aggregate : Aggregate,
    text.upper ≠ aggregate.spelling.toList) : ofName? text = none := by
  rw [ofName?, List.find?_eq_none]
  intro aggregate _ same
  exact other aggregate (beq_iff_eq.mp same).symm

/-- Words with a meaning of their own are no aggregates. -/
theorem ofToken_reserved {word : Keyword} (stands : name.Stands source)
    (found : name.kind = .keyword word) (reserved : word.isUnreserved = false) :
    ofToken? name = none := by
  have spells := stands.spells
  rw [found] at spells
  have upper := Keyword.spelling_of_ofSpelling spells
  rw [ofToken?, if_neg (by simp [found])]
  apply ofName_none
  intro aggregate same
  rcases aggregate.spelled with ⟨other, unreserved, spelling⟩ | listed
  · rw [spelling] at same
    obtain rfl := Option.some.inj ((Keyword.ofSpelling_eq same).symm.trans spells)
    rw [reserved] at unreserved
    cases unreserved
  · have apart : plainAggregates.all (fun plain =>
        Keyword.all.all fun word => plain.toList != word.spelling.toList) = true := by decide
    have differs := List.all_eq_true.mp (List.all_eq_true.mp apart _ listed) word word.mem_all
    exact bne_iff_ne.mp differs (same.symm.trans upper)

/-- A name after which no aggregate is parsed is not that of an aggregate. -/
theorem ofToken_regular (member : name ∈ tokenize source) (isName : name.kind.isName)
    (other : namesAggregate name = false) : ofToken? name = none := by
  rcases Grammar.isName_cases isName with found | found | ⟨word, found, unreserved⟩
  · rw [ofToken?, if_neg (by simp [found])]
    apply ofName_none
    intro aggregate same
    rcases aggregate.spelled with ⟨word, _, spelling⟩ | listed
    · rw [spelling] at same
      exact tokenize_identifier member found word same
    · rw [namesAggregate, found, List.any_eq_false] at other
      exact other _ listed (beq_iff_eq.mpr same.symm)
  · exact if_pos found
  · rw [namesAggregate, found] at other
    cases unreserved.symm.trans other

end Aggregate

/-! ### Calls by their tokens -/

/-- What is found for a call that has the given tokens under the given span: a name and parentheses
behind it. -/
def Call.ofTokens (source : Text) (span : Span) : List Token → Call
  | name :: opening :: behind =>
      match Aggregate.ofToken? name with
      | some known =>
          .aggregate ⟨span, known, opening.span.start, distinctText? source behind.dropLast⟩
      | none => .verbatim span (span.text source)
  | _ => .verbatim span (span.text source)

section
variable {span : Span} {opening closing : Token} {inside : List Token}

theorem Call.ofTokens_known {aggregate : Aggregate}
    (known : Aggregate.ofToken? name = some aggregate) :
    Call.ofTokens source span (name :: opening :: inside ++ [closing]) =
      .aggregate ⟨span, aggregate, opening.span.start, distinctText? source inside⟩ := by
  rw [List.cons_append, List.cons_append, Call.ofTokens, known, List.dropLast_concat]

theorem Call.ofTokens_other (other : Aggregate.ofToken? name = none) :
    Call.ofTokens source span (name :: opening :: inside ++ [closing]) =
      .verbatim span (span.text source) := by
  rw [List.cons_append, List.cons_append, Call.ofTokens, other]

end

/-- The call consists of a name and parentheses behind it, and what it is annotated with can be told
from its tokens. -/
structure Grammar.FunctionCall.Told (source : Text) (call : FunctionCall) (tokens : List Token) :
    Prop where
  shape : ∃ name opening inside closing, tokens = name :: opening :: inside ++ [closing] ∧
    opening.kind = .symbol .leftParen ∧ closing.kind = .symbol .rightParen
  value : ∀ progress, (Annotate.functionCall call).Ensures source progress fun value _ =>
    value = Call.ofTokens source call.span tokens

namespace Annotate

theorem mapM_textAt_run (spans : List Span) (progress : Progress) :
    (spans.mapM textAt) source progress =
      (.ok (spans.map fun span => span.text source), progress) := by
  induction spans with
  | nil => rfl
  | cons first rest ih =>
      rw [List.mapM_cons, Annotator.bind_run]
      change (List.mapM textAt rest >>= _) source progress = _
      rw [Annotator.bind_run, ih]
      rfl

theorem ensures_aggregateUse (node : Grammar.AggregationCall) (progress : Progress) :
    (aggregateUse node).Ensures source progress fun call _ => call =
      match Aggregate.ofName? (node.name.text source) with
      | some aggregate =>
          .aggregate ⟨node.span, aggregate, node.leftParen.start,
            node.distinct.map fun _ => argumentText source node.arguments⟩
      | none => .verbatim node.span (node.span.text source) := by
  unfold aggregateUse
  rw [Annotator.ensures_bind, Annotator.ensures_textAt]
  split
  next unknown =>
    rw [unknown, Annotator.ensures_bind, Annotator.ensures_report, Annotator.ensures_verbatimCall]
  next aggregate known =>
    rw [known, Annotator.ensures_bind, Annotator.ensures_of_ok (mapM_textAt_run _ _),
      Annotator.ensures_bind, Annotator.ensures_report, Annotator.ensures_pure]
    rfl

theorem ensures_specialCall (call : Grammar.SpecialCall) (progress : Progress) :
    (specialCall call).Ensures source progress fun value _ =>
      value = .verbatim call.span (call.span.text source) := by
  cases call with
  | cast call =>
      obtain ⟨span, operand, target⟩ := call
      rw [specialCall, castCall]
      refine Annotator.ensures_drop fun _ _ => ?_
      refine Annotator.ensures_drop fun _ _ => ?_
      refine Annotator.ensures_drop fun _ _ => ?_
      exact Annotator.ensures_verbatimCall.mpr rfl
  | substring | trim | extract =>
      rw [specialCall]
      exact Annotator.ensures_drop fun _ _ => Annotator.ensures_verbatimCall.mpr rfl

theorem ensures_regularCall (call : Grammar.RegularCall) (progress : Progress) :
    (regularCall call).Ensures source progress fun value _ =>
      value = .verbatim call.span (call.span.text source) := by
  obtain ⟨span, name, arguments, asterisk⟩ := call
  rw [regularCall]
  exact Annotator.ensures_drop fun _ _ => Annotator.ensures_verbatimCall.mpr rfl

end Annotate

namespace Grammar.FunctionCall

variable {call : FunctionCall}

/-- A call that is parsed as an aggregate. -/
theorem told_aggregation {node : AggregationCall}
    (derived : DerivesWidely (.aggregation node) tokens) (laid : Laid source tokens) :
    Told source ⟨node.span, some node, none, none⟩ tokens := by
  cases derived with
  | @aggregation name distinct arguments opening closing before after named opens flag derived
      closes =>
      have whole : name :: opening :: before ++ after ++ [closing] =
          name :: opening :: (before ++ after) ++ [closing] := rfl
      refine ⟨⟨name, opening, before ++ after, closing, whole, opens, closes⟩, ?_⟩
      intro progress
      have unquoted : name.kind ≠ .quotedIdentifier := by
        intro quoted
        rw [namesAggregate, quoted] at named
        cases named
      have known : Aggregate.ofToken? name = Aggregate.ofName? name.text := if_neg unquoted
      have text := (laid.stands name (by simp)).span_text
      have inner := derived.distinctText_eq flag laid.left.right
      rw [Annotate.functionCall, Annotate.aggregationCall]
      refine Annotator.ensures_drop fun _ reached => ?_
      refine (Annotate.ensures_aggregateUse _ reached).mono fun value _ found => ?_
      rw [found, text, ← known, whole]
      split
      next known => rw [Call.ofTokens_known known, inner]
      next other => rw [Call.ofTokens_other other]

/-- A call of a function with a form of its own. -/
theorem told_special {node : SpecialCall} (derived : DerivesWidely (.special node) tokens)
    (laid : Laid source tokens) : Told source ⟨node.span, none, some node, none⟩ tokens := by
  have reserved {name opening closing : Token} {inside : List Token} {word : Keyword}
      (whole : tokens = name :: opening :: inside ++ [closing])
      (opens : opening.kind = .symbol .leftParen) (closes : closing.kind = .symbol .rightParen)
      (found : name.kind = .keyword word) (reserved : word.isUnreserved = false) :
      Told source ⟨node.span, none, some node, none⟩ tokens := by
    refine ⟨⟨name, opening, inside, closing, whole, opens, closes⟩, ?_⟩
    intro progress
    have stands := laid.stands name (by simp [whole])
    rw [whole, Call.ofTokens_other (Aggregate.ofToken_reserved stands found reserved),
      Annotate.functionCall]
    exact Annotate.ensures_specialCall node progress
  cases derived with
  | cast named opens _ _ _ closes => exact reserved rfl opens closes named rfl
  | substring named opens _ _ _ _ closes => exact reserved rfl opens closes named rfl
  | extract named opens _ _ _ closes => exact reserved rfl opens closes named rfl
  | trim named opens _ _ _ closes => exact reserved rfl opens closes named rfl

/-- Any other call, if an aggregate is not parsed after its name. -/
theorem told_regular {node : RegularCall} (derived : DerivesWidely (.regular node) tokens)
    (infixed : tokens <:+: (Cursor.ofTokens (tokenize source)).unread)
    (chosen : node.Chosen (Cursor.ofTokens (tokenize source)).unread) :
    Told source ⟨node.span, none, none, some node⟩ tokens := by
  cases derived with
  | @regular name arguments asterisk opening closing inside named opens derived closes =>
      refine ⟨⟨name, opening, inside, closing, rfl, opens, closes⟩, ?_⟩
      intro progress
      obtain ⟨token, member, same, other⟩ := chosen
      have isMember := infixed.subset (List.mem_append_left [closing] List.mem_cons_self)
      obtain rfl : token = name :=
        (laid_ofTokens source).eq_of_start member isMember (congrArg Span.start same)
      rw [Call.ofTokens_other (Aggregate.ofToken_regular (mem_tokenize member) named other),
        Annotate.functionCall]
      exact Annotate.ensures_regularCall _ progress

/-- Only simple expressions have calls right below them. -/
theorem parent_eq {node : TreeNode} (member : .call call ∈ node.children) :
    node = .simpleExpr (.call call) := by
  cases node with
  | simpleExpr node =>
      cases node with
      | call other =>
          rw [TreeNode.children, List.mem_singleton] at member
          cases member
          rfl
      | _ => simp [TreeNode.children, TreeNode.leaf?] at member
  | expr node | primary node | predicate node | bitExpr node | argument node | special node
  | selectItem node => cases node <;> simp [TreeNode.children, TreeNode.leaf?] at member
  | _ node => simp [TreeNode.children, TreeNode.leaf?] at member

section
variable (parsed : parse source = .ok tree) (within : (TreeNode.select tree).Has (.call call))
include parsed within

/-- A call in the tree of a source text derives some of its tokens. -/
theorem derived_in_tree : ∃ tokens,
    tokens <:+: (Cursor.ofTokens (tokenize source)).unread ∧
      DerivesWidely (.simpleExpr (.call call)) tokens := by
  rcases Relation.ReflTransGen.cases_tail within with same | ⟨parent, has, member⟩
  · cases same
  · rw [parent_eq member] at has
    exact parse_chosen parsed has

/-- The annotation of a call in the tree of a source text can be told from its tokens. -/
theorem told_in_tree (infixed : tokens <:+: (Cursor.ofTokens (tokenize source)).unread)
    (derived : DerivesWidely (.simpleExpr (.call call)) tokens) : call.Told source tokens := by
  have laid := (laid_ofTokens source).fewer infixed.sublist
  cases derived with
  | aggregationCall inner => exact told_aggregation inner laid
  | specialCall inner => exact told_special inner laid
  | regularCall inner =>
      have below := Relation.ReflTransGen.tail within (List.mem_singleton_self _)
      exact told_regular inner infixed (parse_chosen parsed below)

/-- In a text that is annotated, a call can always be annotated. -/
theorem succeeds_in_tree {statement : Statement} (annotated : annotate source = .ok statement)
    (derived : DerivesWidely (.simpleExpr (.call call)) tokens) (laid : Laid source tokens) :
    Succeeds source (Annotate.functionCall call) := by
  have fewer : rejected source call.parts ⊆ rejected source tree.parts :=
    rejected_subset within.parts_subset
  rw [rejected_of_annotated parsed annotated] at fewer
  have refused : Refuses source (rejected source call.parts)
      (Annotate.simpleExpr (.call call)) := derived.refused laid
  rw [List.subset_nil.mp fewer, Annotate.simpleExpr] at refused
  exact refused.first

end

end Grammar.FunctionCall

/-- The arguments of an aggregate stand from the parenthesis behind its name to the last one. -/
theorem arguments_eq {use : AggregateUse} {opening closing : Token} {inside : List Token}
    (laid : Laid source (name :: opening :: inside ++ [closing]))
    (found : Call.ofTokens source (cover (name :: opening :: inside ++ [closing]))
      (name :: opening :: inside ++ [closing]) = .aggregate use) :
    (cover (opening :: inside ++ [closing])).text? source = some (use.arguments source) := by
  have behind : Laid source (opening :: inside ++ [closing]) := laid.tail
  obtain ⟨text, same, _⟩ := behind.cover_text (List.cons_ne_nil _ _)
  have extent : Span.mk use.opening use.span.stop = cover (opening :: inside ++ [closing]) := by
    cases known : Aggregate.ofToken? name with
    | none =>
        rw [Call.ofTokens_other known] at found
        cases found
    | some aggregate =>
        rw [Call.ofTokens_known known] at found
        obtain rfl := Call.aggregate.inj found
        rw [laid.cover_eq (List.cons_ne_nil _ _), behind.cover_eq (List.cons_ne_nil _ _)]
        simp
  rw [AggregateUse.arguments, extent, Span.text, same]
  rfl

/-- The calls in the tree of a text that is annotated are annotated as the tokens of the call say,
however far one has come: as an aggregate exactly if the name is that of one and not quoted, with
the offset of the parenthesis behind the name and, if DISTINCT follows it, with the texts between
the commas of the call and these commas; and otherwise as the text of the call. The arguments of an
aggregate are the text from this parenthesis to the one at the end of the call. -/
theorem functionCall_by_tokens (source : Text) (tree : Grammar.Select) (statement : Statement)
    (parsed : Grammar.parse source = .ok tree) (annotated : annotate source = .ok statement)
    (call : Grammar.FunctionCall) (within : (TreeNode.select tree).Has (.call call)) :
    let found := Call.ofTokens source call.span (tokensUnder source call.span)
    (∀ progress, ∃ after,
        Annotate.functionCall call source progress = (.ok found, after)) ∧
      (∃ text, call.span.text? source = some text) ∧
      ∃ name opening inside closing,
        tokensUnder source call.span = name :: opening :: inside ++ [closing] ∧
          opening.kind = .symbol .leftParen ∧ closing.kind = .symbol .rightParen ∧
          ∀ use, found = .aggregate use →
            (cover (opening :: inside ++ [closing])).text? source =
              some (use.arguments source) := by
  intro found
  obtain ⟨tokens, infixed, derived⟩ := Grammar.FunctionCall.derived_in_tree parsed within
  have told := Grammar.FunctionCall.told_in_tree parsed within infixed derived
  have laid := (laid_ofTokens source).fewer infixed.sublist
  have nonempty := derived.nonempty rfl
  have span : call.span = cover tokens := derived.span_eq laid rfl
  have dropped := (List.dropLast_prefix (tokenize source)).isInfix
  have under : tokensUnder source call.span = tokens :=
    span ▸ tokensUnder_cover laid nonempty (infixed.trans dropped)
  have known : found = Call.ofTokens source call.span tokens :=
    congrArg (Call.ofTokens source call.span) under
  refine ⟨?_, ?_, ?_⟩
  · have succeeds := Grammar.FunctionCall.succeeds_in_tree parsed within annotated derived laid
    intro progress
    obtain ⟨value, after, run⟩ := succeeds progress
    have same : value = found := (told.value progress value after run).trans known.symm
    rw [same] at run
    exact ⟨after, run⟩
  · obtain ⟨text, same, _⟩ := laid.cover_text nonempty
    exact ⟨text, span ▸ same⟩
  · obtain ⟨name, opening, inside, closing, rfl, opens, closes⟩ := told.shape
    refine ⟨name, opening, inside, closing, under, opens, closes, ?_⟩
    intro use same
    apply arguments_eq laid
    rw [← span]
    exact known.symm.trans same

/-- A comma in the parentheses of an argument stays as it is. -/
theorem functionCall_by_tokens_distinct :
    ∃ tree call, Grammar.parse "SELECT count(DISTINCT a , f(b, c))".toList = .ok tree ∧
      (TreeNode.select tree).Has (.call call) ∧ ∀ progress, ∃ after,
        Annotate.functionCall call "SELECT count(DISTINCT a , f(b, c))".toList progress =
          (.ok (.aggregate ⟨⟨7, 33⟩, .count, 12, some "a,f(b, c)".toList⟩), after) := by
  have annotates : (annotate "SELECT count(DISTINCT a , f(b, c))".toList).isOk := by decide +kernel
  have listed : ((Grammar.parse "SELECT count(DISTINCT a , f(b, c))".toList).toOption.map
      fun tree => tree.selectList.items.map fun item =>
        match item with
        | .expr _ (.primary (.predicate (.bitExpr (.simple (.call call))))) _ => some call.span
        | _ => none) = some [some ⟨7, 33⟩] := by decide +kernel
  have spelled : Call.ofTokens "SELECT count(DISTINCT a , f(b, c))".toList ⟨7, 33⟩
      (tokensUnder "SELECT count(DISTINCT a , f(b, c))".toList ⟨7, 33⟩) =
        .aggregate ⟨⟨7, 33⟩, .count, 12, some "a,f(b, c)".toList⟩ := by decide +kernel
  rcases parsed : Grammar.parse "SELECT count(DISTINCT a , f(b, c))".toList with error | tree
  · rw [parsed] at listed
    cases listed
  rcases annotated : annotate "SELECT count(DISTINCT a , f(b, c))".toList with _ | statement
  · rw [annotated] at annotates
    cases annotates
  rw [parsed] at listed
  obtain ⟨item, items, same⟩ := List.map_eq_singleton_iff.mp (Option.some.inj listed)
  split at same
  next span call itemLabel =>
    have isList : .selectList tree.selectList ∈ (TreeNode.select tree).children := by
      simp [TreeNode.children]
    have isItem : .selectItem _ ∈ (TreeNode.selectList tree.selectList).children :=
      List.mem_map_of_mem (items ▸ List.mem_singleton_self _)
    have within : (TreeNode.select tree).Has (.call call) := by
      refine .head isList (.head isItem (.head List.mem_cons_self ?_))
      refine .head (List.mem_singleton_self (TreeNode.primary _)) ?_
      refine .head (List.mem_singleton_self (TreeNode.predicate _)) ?_
      refine .head (List.mem_singleton_self (TreeNode.bitExpr _)) ?_
      refine .head (List.mem_singleton_self (TreeNode.simpleExpr _)) ?_
      exact .single (List.mem_singleton_self _)
    obtain ⟨run, _⟩ := functionCall_by_tokens _ tree statement parsed annotated call within
    rw [Option.some.inj same, spelled] at run
    exact ⟨tree, call, rfl, within, run⟩
  next => cases same

end AnnotatedSql
