/-
This file shows that the annotation of a derived tree numbers the parameter markers of all tokens
that the tree derives, each once and in the order of the source.
-/

import AnnotatedSql.Proofs.Annotate.Node

namespace AnnotatedSql.Grammar

variable {source : Text} {node : Node} {tokens : List Token}

open Annotate in
/-- By induction on the derivation, with one case for each rule of the grammar. -/
theorem Derives.walked (derived : DerivesWidely node tokens) : node.Walked source tokens := by
  induction derived with
  -- `expr`
  | logical _ connective _ first second =>
      exact collects_logical first (ne_question_of_isPlain (isPlain_of_isConnective connective))
        second
  | xor _ operator _ first second =>
      exact collects_xor first (ne_question_of_keyword operator) second
  | negation operator _ collects =>
      exact collects_negation (ne_question_of_isPlain (isPlain_of_isNegation operator)) collects
  | paren opening _ closing collects => exact (collects_paren collects).parenthesised opening closing
  | primary _ collects => exact collects_primary collects
  -- `booleanPrimary`
  | isTest _ word negation value collects =>
      rw [List.append_assoc]
      apply collects_isTest collects
      apply Plain.append (negation.all_plain.cons (isPlain_of_keyword word))
      exact plain_nil.cons (isPlain_of_isTruthValue value)
  | comparison _ operator _ first second =>
      exact collects_comparison first (ne_question_of_isComparison operator) second
  | quantified _ operator quantifier _ first second =>
      exact collects_quantified first (ne_question_of_isComparison operator)
        (ne_question_of_isPlain (isPlain_of_isQuantifier quantifier)) second
  | predicate _ collects => exact collects_predicate collects
  -- `predicate`
  | inSubquery _ negation word _ first second =>
      exact collects_inSubquery first negation.all_plain (ne_question_of_keyword word) second
  | inList _ negation word opening _ closing first second =>
      exact collects_inList first negation.all_plain (ne_question_of_keyword word) opening second
        closing
  | between _ negation word _ operator _ first second third =>
      exact collects_between first negation.all_plain (ne_question_of_keyword word) second
        (ne_question_of_keyword operator) third
  | like _ negation word _ _ first second third =>
      exact collects_like first negation.all_plain (ne_question_of_keyword word) second.passes third
  | bitExpr _ collects => exact collects_bitExpr collects
  | noEscape => exact passes_noSimpleExpr
  | escape word _ collects =>
      exact (passes_someSimpleExpr collects.passes).cons (ne_question_of_keyword word)
  -- `bitExpr`
  | binary _ operator _ first second =>
      exact collects_binary first (ne_question_of_isPlain (isPlain_of_isBitOperator operator))
        second
  | simple _ collects => exact collects_simple collects
  -- `simpleExpr`
  | existence word _ collects =>
      apply collects_subqueryLeaf
      exact Collects.cons (ne_question_of_keyword word) collects
  | bareSubquery _ collects => exact collects_subqueryLeaf collects
  | marker question => exact collects_marker question
  | literal derived => exact collects_literal derived.all_plain
  | aggregationCall _ passes => exact collects_aggregationCall passes
  | specialCall _ passes => exact collects_specialCall passes
  | regularCall _ passes => exact collects_regularCall passes
  | column derived => exact collects_column derived.all_plain
  | unary operator _ collects =>
      apply collects_unary _ collects.passes
      exact ne_question_of_isPlain (isPlain_of_isUnaryOperator operator)
  | row opening _ closing collects =>
      exact (collects_row collects.passes).parenthesised opening closing
  | caseOf word _ _ _ _ closing first second third =>
      show Collects _ _ _ _
      apply Collects.behind (plain_nil.cons (isPlain_of_keyword closing))
      rw [List.cons_append, List.cons_append, List.append_assoc]
      exact (collects_caseOf first second third.alone).cons (ne_question_of_keyword word)
  | noSimpleExpr => exact passes_noSimpleExpr
  | someSimpleExpr _ collects => exact passes_someSimpleExpr collects.passes
  | noBranch => exact passes_noBranches
  | branch opening _ word _ _ first second others =>
      show Passes _ _ _
      simp only [List.append_assoc, List.cons_append]
      apply Collects.cons (ne_question_of_keyword opening)
      exact passes_branch first.passes (ne_question_of_keyword word) second.passes others
  -- lists and optional parts
  | singleExpr _ collects => exact collects_singleExpr collects
  | furtherExpr _ comma _ first others =>
      exact collects_exprs first (others.cons (ne_question_of_symbol comma nofun))
  | noExpr => exact passesOptional_none
  | someExpr _ collects => exact passesOptional_some collects
  | unled => exact passesOptional_none
  | led opening _ collects =>
      exact passesOptional_cons (ne_question_of_keyword opening) (passesOptional_some collects)
  | unseparated => exact passesOptional_none
  | separated opening _ collects =>
      apply passesOptional_cons _ (passesOptional_some collects)
      rcases opening with word | comma
      · exact ne_question_of_keyword word
      · exact ne_question_of_symbol comma nofun
  -- `functionCall`
  | lastArgument _ collects => exact passes_lastArgument collects.passes
  | furtherArgument _ comma _ first others =>
      apply passes_argument first.passes
      exact (passes_comma others).cons (ne_question_of_symbol comma nofun)
  | noArguments => exact passes_noArguments
  | allArguments operator =>
      exact (passes_asterisk passes_noArguments).cons (ne_question_of_symbol operator nofun)
  | someArguments _ passes => exact passes
  | noRegularArguments => exact collects_noExprs
  | allRegularArguments operator =>
      exact collects_noExprs.cons (ne_question_of_symbol operator nofun)
  | someRegularArguments _ collects => exact collects
  | aggregation name opening distinct _ closing passes =>
      have other := ne_question_of_isPlain (isPlain_of_isName (isName_of_namesAggregate name))
      apply Collects.called other opening closing
      exact (passes_aggregation passes).plain distinct.all_plain
  | cast name opening _ word target closing collects =>
      apply Collects.called (ne_question_of_keyword name) opening closing
      apply (passes_cast collects.passes).behind
      exact target.all_plain.cons (isPlain_of_keyword word)
  | substring name opening _ _ _ _ closing first second third =>
      have leading := passes_exprs (collects_singleExpr first).passes second.listed
      apply Collects.called (ne_question_of_keyword name) opening closing
      exact passes_substring (passes_exprs leading third.listed)
  | extract name opening field word _ closing collects =>
      apply Collects.called (ne_question_of_keyword name) opening closing
      apply Collects.cons (ne_question_of_isPlain (isPlain_of_isName field))
      exact (passes_extract collects.passes).cons (ne_question_of_keyword word)
  | trim name opening side _ _ closing first second =>
      rw [List.append_assoc (_ :: _ :: _)]
      apply Collects.called (ne_question_of_keyword name) opening closing
      exact (passes_trim (passes_exprs first.listed second.listed)).plain side.all_plain
  | regular name opening _ closing collects =>
      apply Collects.called (ne_question_of_isPlain (isPlain_of_isName name)) opening closing
      exact passes_regular collects.passes
  -- `orderByItem` and the clauses
  | orderColumn derived =>
      intro span ascending descending
      exact passes_orderColumn derived.all_plain
  | orderNumber derived =>
      intro span ascending descending
      exact passes_orderNumber derived.all_plain
  | orderExpr _ collects =>
      intro span ascending descending
      exact passes_orderExpr collects.passes
  | orderItem _ direction passes => exact (passes _ _ _).behind direction.all_plain
  | lastOrderItem _ passes => exact passes_lastOrderItem passes
  | furtherOrderItem _ comma _ first others =>
      exact passes_orderItems first (others.cons (ne_question_of_symbol comma nofun))
  | noOrdering => exact passes_noOrdering
  | ordering opening byWord _ passes =>
      show Passes _ _ _
      apply Collects.cons (ne_question_of_keyword opening)
      apply Collects.cons (ne_question_of_keyword byWord)
      exact passes_ordering passes
  | noCondition => exact collects_noCondition
  | condition opening _ collects =>
      exact (collects_condition collects).cons (ne_question_of_keyword opening)
  -- `select`
  | shorthand operator => exact collects_shorthand.cons (ne_question_of_symbol operator nofun)
  | qualifiedShorthand owner dot star =>
      show Collects _ _ _ _
      apply Collects.cons (ne_question_of_isPlain (isPlain_of_isName owner))
      apply Collects.cons (ne_question_of_symbol dot nofun)
      exact collects_qualifiedShorthand.cons (ne_question_of_symbol star nofun)
  | exprItem _ itemLabel collects => exact (collects_exprItem collects).behind itemLabel.all_plain
  | lastSelectItem _ collects => exact collects_lastSelectItem collects
  | furtherSelectItem _ comma _ first others =>
      exact collects_selectItems first (others.cons (ne_question_of_symbol comma nofun))
  | select word distinct _ tables _ _ _ _ items condition grouping filter ordering =>
      simp only [List.append_assoc]
      apply collects_select _ (List.cons_ne_nil _ _) items tables.all_plain condition grouping
        filter ordering rfl
      exact distinct.all_plain.cons (isPlain_of_keyword word)
  | subquery opening _ closing collects =>
      exact (collects_subquery collects).parenthesised opening closing

end AnnotatedSql.Grammar
