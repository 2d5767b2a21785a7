/-
This file proves that the annotation of an expression keeps what it says about its leaves.
-/

import AnnotatedSql.Proofs.Annotate.Outcome

namespace AnnotatedSql

/-! ### Formulas -/

/-- Chains of connectives over atoms. -/
inductive Formula (Atom : Type)
  | leaf (atom : Atom)
  | chain (connective : Connective) (parts : List (Formula Atom))

/-- AND asks for all of its parts, OR for one. -/
def Connective.combine : Connective → List Bool → Bool
  | .and, truths => truths.all id
  | .or, truths => truths.any id

theorem Connective.combine_append (connective : Connective) (truths others : List Bool) :
    connective.combine (truths ++ others) =
      connective.combine [connective.combine truths, connective.combine others] := by
  cases connective with
  | and => simp [Connective.combine]
  | or => simp [Connective.combine]

@[simp] theorem Connective.combine_singleton (connective : Connective) (truth : Bool) :
    connective.combine [truth] = truth := by
  cases connective with
  | and => simp [Connective.combine]
  | or => simp [Connective.combine]

namespace Formula

variable {Atom Other Third : Type}

mutual

/-- The truth of a formula when its atoms have the given values. -/
def truth (values : Atom → Bool) : Formula Atom → Bool
  | .leaf atom => values atom
  | .chain connective parts => connective.combine (truths values parts)

def truths (values : Atom → Bool) : List (Formula Atom) → List Bool
  | [] => []
  | part :: parts => part.truth values :: truths values parts

end

mutual

/-- The atoms of a formula from left to right. -/
def leaves : Formula Atom → List Atom
  | .leaf atom => [atom]
  | .chain _ parts => leavesAmong parts

def leavesAmong : List (Formula Atom) → List Atom
  | [] => []
  | part :: parts => part.leaves ++ leavesAmong parts

end

mutual

def map (change : Atom → Other) : Formula Atom → Formula Other
  | .leaf atom => .leaf (change atom)
  | .chain connective parts => .chain connective (mapAmong change parts)

def mapAmong (change : Atom → Other) : List (Formula Atom) → List (Formula Other)
  | [] => []
  | part :: parts => part.map change :: mapAmong change parts

end

theorem truths_append (values : Atom → Bool) (parts others : List (Formula Atom)) :
    truths values (parts ++ others) = truths values parts ++ truths values others := by
  induction parts with
  | nil => rfl
  | cons part parts ih => exact congrArg (part.truth values :: ·) ih

theorem leavesAmong_append (parts others : List (Formula Atom)) :
    leavesAmong (parts ++ others) = leavesAmong parts ++ leavesAmong others := by
  induction parts with
  | nil => rfl
  | cons part parts ih =>
      rw [List.cons_append, leavesAmong, leavesAmong, ih, List.append_assoc]

theorem mapAmong_append (change : Atom → Other) (parts others : List (Formula Atom)) :
    mapAmong change (parts ++ others) = mapAmong change parts ++ mapAmong change others := by
  induction parts with
  | nil => rfl
  | cons part parts ih => exact congrArg (part.map change :: ·) ih

mutual

/-- Only what happens to the atoms of the formula counts. -/
theorem map_congr {change other : Atom → Other} : ∀ formula : Formula Atom,
    (∀ atom ∈ formula.leaves, change atom = other atom) → formula.map change = formula.map other
  | .leaf _, same => congrArg Formula.leaf (same _ List.mem_cons_self)
  | .chain connective parts, same => congrArg (Formula.chain connective) (mapAmong_congr parts same)

theorem mapAmong_congr {change other : Atom → Other} : ∀ parts : List (Formula Atom),
    (∀ atom ∈ leavesAmong parts, change atom = other atom) →
      mapAmong change parts = mapAmong other parts
  | [], _ => rfl
  | part :: parts, same => by
      rw [mapAmong, mapAmong, map_congr part, mapAmong_congr parts]
      · exact fun atom member => same atom (List.mem_append_right _ member)
      · exact fun atom member => same atom (List.mem_append_left _ member)

end

mutual

theorem leaves_map (change : Atom → Other) : ∀ formula : Formula Atom,
    (formula.map change).leaves = formula.leaves.map change
  | .leaf _ => rfl
  | .chain _ parts => leavesAmong_mapAmong change parts

theorem leavesAmong_mapAmong (change : Atom → Other) : ∀ parts : List (Formula Atom),
    leavesAmong (mapAmong change parts) = (leavesAmong parts).map change
  | [] => rfl
  | part :: parts => by
      rw [mapAmong, leavesAmong, leavesAmong, leaves_map change part,
        leavesAmong_mapAmong change parts, List.map_append]

end

/-- The parts of a chain of the given connective; any other formula is its only part. -/
def chainParts (connective : Connective) : Formula Atom → List (Formula Atom)
  | .chain inner parts => if inner = connective then parts else [.chain inner parts]
  | formula => [formula]

/-- Joins two formulas; a chain of the same connective on the left is extended. -/
def join (left : Formula Atom) (connective : Connective) (right : Formula Atom) : Formula Atom :=
  .chain connective (left.chainParts connective ++ [right])

theorem truth_chainParts (values : Atom → Bool) (connective : Connective)
    (formula : Formula Atom) :
    connective.combine (truths values (formula.chainParts connective)) = formula.truth values := by
  cases formula with
  | leaf atom => exact connective.combine_singleton _
  | chain inner parts =>
      by_cases same : inner = connective
      · rw [chainParts, if_pos same, truth, same]
      · rw [chainParts, if_neg same]
        exact connective.combine_singleton _

theorem leaves_chainParts (connective : Connective) (formula : Formula Atom) :
    leavesAmong (formula.chainParts connective) = formula.leaves := by
  cases formula with
  | leaf atom => rfl
  | chain inner parts =>
      by_cases same : inner = connective
      · rw [chainParts, if_pos same, leaves]
      · rw [chainParts, if_neg same, leavesAmong, leavesAmong, List.append_nil]

theorem map_chainParts (change : Atom → Other) (connective : Connective)
    (formula : Formula Atom) :
    mapAmong change (formula.chainParts connective) = (formula.map change).chainParts connective := by
  cases formula with
  | leaf atom => rfl
  | chain inner parts =>
      by_cases same : inner = connective
      · rw [chainParts, if_pos same, map, chainParts, if_pos same]
      · rw [chainParts, if_neg same, map, chainParts, if_neg same]
        rfl

/-- The flattening on the left changes nothing about the truth. -/
theorem truth_join (values : Atom → Bool) (left right : Formula Atom) (connective : Connective) :
    (left.join connective right).truth values =
      connective.combine [left.truth values, right.truth values] := by
  rw [join, truth, truths_append, connective.combine_append, truth_chainParts, truths, truths,
    connective.combine_singleton]

theorem leaves_join (left right : Formula Atom) (connective : Connective) :
    (left.join connective right).leaves = left.leaves ++ right.leaves := by
  rw [join, leaves, leavesAmong_append, leaves_chainParts, leavesAmong, leavesAmong,
    List.append_nil]

theorem map_join (change : Atom → Other) (left right : Formula Atom) (connective : Connective) :
    (left.join connective right).map change =
      (left.map change).join connective (right.map change) := by
  rw [join, map, mapAmong_append, map_chainParts]
  rfl

end Formula

/-! ### The formula of a segment -/

namespace Segment

mutual

/-- A segment as a formula over its parts that are no chains themselves. -/
def formula : Segment → Formula Segment
  | .expression inner => .leaf (.expression inner)
  | .predicate inner => .leaf (.predicate inner)
  | .logical _ connective parts => .chain connective (formulas parts)

def formulas : List Segment → List (Formula Segment)
  | [] => []
  | part :: parts => part.formula :: formulas parts

end

theorem formulas_append (parts others : List Segment) :
    formulas (parts ++ others) = formulas parts ++ formulas others := by
  induction parts with
  | nil => rfl
  | cons part parts ih => exact congrArg (part.formula :: ·) ih

theorem formulas_chainParts (connective : Connective) (segment : Segment) :
    formulas (segment.chainParts connective) = segment.formula.chainParts connective := by
  cases segment with
  | expression inner => rfl
  | predicate inner => rfl
  | logical span inner parts =>
      by_cases same : inner = connective
      · rw [chainParts, if_pos same, formula, Formula.chainParts, if_pos same]
      · rw [chainParts, if_neg same, formula, Formula.chainParts, if_neg same]
        rfl

theorem formula_join (left right : Segment) (connective : Connective) (span : Span) :
    (left.join connective right span).formula = left.formula.join connective right.formula := by
  rw [join, formula, formulas_append, formulas_chainParts]
  rfl

end Segment

/-! ### The reading of an expression -/

namespace Grammar.Expr

/-- The boolean primaries of an expression in the order of the source. -/
def leaves : Expr → List BooleanPrimary
  | .primary inner => [inner]
  | .logical _ left _ right => left.leaves ++ right.leaves
  | .xor _ left right => left.leaves ++ right.leaves
  | .not _ _ inner => inner.leaves
  | .paren _ inner => inner.leaves

/-- The expression without NOT and with the left operand in the place of XOR. Its boolean primaries
are numbered in the order of the source, the left out ones included. -/
def reading (source : Text) : Expr → Nat → Option (Formula Nat)
  | .primary _, first => some (.leaf first)
  | .logical _ left operator right, first => do
      let connective ← Connective.ofText? (operator.text source)
      let leftReading ← left.reading source first
      let rightReading ← right.reading source (first + left.leaves.length)
      return .chain connective [leftReading, rightReading]
  | .xor _ left _, first => left.reading source first
  | .not _ _ inner, first => inner.reading source first
  | .paren _ inner, first => inner.reading source first

end Grammar.Expr

/-! ### The leaves of an annotation -/

/-- The boolean primaries are annotated one after the other, with reports between them. -/
inductive Leafwise (source : Text) :
    Progress → List Grammar.BooleanPrimary → List Segment → Progress → Prop
  | done (progress : Progress) : Leafwise source progress [] [] progress
  | reported {before after : Progress} {leaves : List Grammar.BooleanPrimary}
      {segments : List Segment} (event : Event)
      (rest : Leafwise source { before with events := before.events ++ [event] } leaves segments
        after) :
      Leafwise source before leaves segments after
  | annotated {before middle after : Progress} {leaf : Grammar.BooleanPrimary}
      {leaves : List Grammar.BooleanPrimary} {segment : Segment} {segments : List Segment}
      (run : Annotate.booleanPrimary leaf source before = (.ok segment, middle))
      (rest : Leafwise source middle leaves segments after) :
      Leafwise source before (leaf :: leaves) (segment :: segments) after

namespace Leafwise

variable {source : Text} {before middle after : Progress}
  {leaves others : List Grammar.BooleanPrimary} {segments further : List Segment}

theorem append (first : Leafwise source before leaves segments middle)
    (second : Leafwise source middle others further after) :
    Leafwise source before (leaves ++ others) (segments ++ further) after := by
  induction first with
  | done progress => exact second
  | reported event rest ih => exact .reported event (ih second)
  | annotated run rest ih => exact .annotated run (ih second)

/-- A report may follow. -/
theorem then_report (leafwise : Leafwise source before leaves segments after) (event : Event) :
    Leafwise source before leaves segments
      { after with events := after.events ++ [event] } := by
  have report := leafwise.append (.reported event (.done _))
  rw [List.append_nil, List.append_nil] at report
  exact report

theorem length_eq (leafwise : Leafwise source before leaves segments after) :
    segments.length = leaves.length := by
  induction leafwise with
  | done progress => rfl
  | reported event rest ih => exact ih
  | annotated run rest ih => exact congrArg (· + 1) ih

end Leafwise

/-! ### What is kept of a boolean primary is no chain -/

namespace Annotate

variable {source : Text} {before : Progress}

/-- The segment is no chain. -/
def Unchained (segment : Segment) : Prop := segment.formula = .leaf segment

theorem unchained_expression (inner : Expression) : Unchained (.expression inner) := rfl

theorem unchained_predicate (inner : Predicate) : Unchained (.predicate inner) := rfl

/-- The segment of a leaf is nothing but an expression; a value stands for nothing yet. -/
def Leaf.Elementary : Leaf → Prop
  | .segment found => ∃ inner, found = .expression inner
  | .value _ => True

theorem simpleExpr_elementary (node : Grammar.SimpleExpr) :
    (simpleExpr node).Ensures source before fun leaf _ => Leaf.Elementary leaf := by
  cases node with
  | marker | literal =>
      simp only [simpleExpr, Annotator.ensures_bind, Annotator.ensures_pure]
      exact fun _ _ _ => trivial
  | subquery | call | column | unary | row =>
      simp only [simpleExpr, Annotator.ensures_bind, Annotator.ensures_pure,
        Annotator.ensures_verbatimSegment]
      exact fun _ _ _ => ⟨_, rfl⟩
  | caseOf =>
      simp only [simpleExpr, Annotator.ensures_bind, Annotator.ensures_pure,
        Annotator.ensures_verbatimSegment]
      exact fun _ _ _ _ _ _ _ _ _ => ⟨_, rfl⟩

theorem leafSegment_expression {span : Span} {leaf : Leaf} (elementary : Leaf.Elementary leaf) :
    (leafSegment span leaf).Ensures source before
      fun segment _ => ∃ found, segment = .expression found := by
  unfold leafSegment
  split
  · rw [Annotator.ensures_pure]
    exact elementary
  · rw [Annotator.ensures_pure]
    exact ⟨_, rfl⟩
  · split
    · rw [Annotator.ensures_pure]
      exact ⟨_, rfl⟩
    · rw [Annotator.ensures_verbatimSegment]
      exact ⟨_, rfl⟩

/-- A bit expression gives an expression, never a predicate or a chain. -/
theorem bitExpr_expression (node : Grammar.BitExpr) :
    (bitExpr node).Ensures source before
      fun segment _ => ∃ found, segment = .expression found := by
  cases node with
  | binary =>
      simp only [bitExpr, Annotator.ensures_bind, Annotator.ensures_verbatimSegment]
      exact fun _ _ _ _ _ _ => ⟨_, rfl⟩
  | simple operand =>
      rw [bitExpr, Annotator.ensures_bind]
      exact (simpleExpr_elementary operand).mono fun leaf _ elementary =>
        leafSegment_expression elementary

theorem bitExpr_unchained (node : Grammar.BitExpr) :
    (bitExpr node).Ensures source before fun segment _ => Unchained segment := by
  refine (bitExpr_expression node).mono fun segment _ found => ?_
  obtain ⟨inner, rfl⟩ := found
  exact unchained_expression inner

theorem test_unchained {span : Span} {operand : Segment} {negation : Option Span}
    {comparand : Text → Comparand} :
    (test span operand negation comparand).Ensures source before
      fun segment _ => Unchained segment := by
  unfold test
  split
  · rw [Annotator.ensures_bind, Annotator.ensures_read, Annotator.ensures_pure]
    exact unchained_predicate _
  · rw [Annotator.ensures_keptPredicate]
    exact unchained_expression _

theorem predicate_unchained (node : Grammar.Predicate) :
    (predicate node).Ensures source before fun segment _ => Unchained segment := by
  cases node with
  | bitExpr operand => exact bitExpr_unchained operand
  | inSubquery | inList =>
      simp only [predicate, Annotator.ensures_bind]
      exact fun _ _ _ _ _ _ => test_unchained
  | between =>
      simp only [predicate, Annotator.ensures_bind]
      exact fun _ _ _ _ _ _ _ _ _ => test_unchained
  | like =>
      simp only [predicate, Annotator.ensures_bind, Annotator.ensures_keptPredicate]
      exact fun _ _ _ _ _ _ _ _ _ => unchained_expression _

theorem comparison_unchained {span operator : Span} {left right : Segment}
    (unchained : Unchained left) :
    (comparison span operator left right).Ensures source before
      fun segment _ => Unchained segment := by
  unfold comparison
  split
  · rw [Annotator.ensures_bind, Annotator.ensures_report, Annotator.ensures_pure]
    exact unchained
  · split
    · rw [Annotator.ensures_pure]
      exact unchained_predicate _
    · simp only [Annotator.ensures_bind, Annotator.ensures_textAt, Annotator.ensures_read,
        Annotator.ensures_pure]
      exact unchained_predicate _

/-- Only an expression gives a chain: a comparison that is left out leaves its left side, which is
a boolean primary again. -/
theorem booleanPrimary_unchained : ∀ (node : Grammar.BooleanPrimary) (before : Progress),
    (booleanPrimary node).Ensures source before fun segment _ => Unchained segment
  | .predicate inner, _ => predicate_unchained inner
  | .isTest _ _ _ _, _ => by
      simp only [booleanPrimary, Annotator.ensures_bind, Annotator.ensures_report,
        Annotator.ensures_verbatimSegment]
      exact fun _ _ _ => unchained_expression _
  | .comparison _ left _ _, before => by
      simp only [booleanPrimary, Annotator.ensures_bind]
      exact (booleanPrimary_unchained left before).mono fun _ _ unchained _ _ _ =>
        comparison_unchained unchained
  | .quantified _ _ _ _ _, _ => by
      simp only [booleanPrimary, Annotator.ensures_bind, Annotator.ensures_pure]
      exact fun _ _ _ _ _ _ => unchained_expression _

/-! ### An expression -/

/-- The leaves of the expression are annotated to `lowered`, and the segment says of them what the
expression says by its reading. -/
structure Means (source : Text) (node : Grammar.Expr) (first : Nat) (before : Progress)
    (segment : Segment) (after : Progress) (lowered : List Segment)
    (reading origin : Formula Nat) : Prop where
  leafwise : Leafwise source before node.leaves lowered after
  read : node.reading source first = some reading
  increasing : reading.leaves.Pairwise (· < ·)
  bounded : ∀ leaf ∈ reading.leaves, first ≤ leaf ∧ leaf < first + node.leaves.length
  leaves : origin.leaves = reading.leaves
  truth : ∀ values, origin.truth values = reading.truth values
  formula : segment.formula.map some = origin.map fun leaf => lowered[leaf - first]?

namespace Means

variable {node left right : Grammar.Expr} {first : Nat} {middle after : Progress}
  {segment leftSegment rightSegment : Segment} {lowered loweredLeft loweredRight : List Segment}
  {reading origin leftReading leftOrigin rightReading rightOrigin : Formula Nat}

theorem within (means : Means source node first before segment after lowered reading origin) :
    ∀ leaf ∈ origin.leaves, first ≤ leaf ∧ leaf - first < lowered.length := by
  intro leaf member
  rw [means.leaves] at member
  obtain ⟨least, most⟩ := means.bounded leaf member
  have count := means.leafwise.length_eq
  omega

/-- More leaves may follow. -/
theorem formula_extend (means : Means source node first before segment after lowered reading origin)
    (more : List Segment) :
    segment.formula.map some = origin.map fun leaf => (lowered ++ more)[leaf - first]? := by
  rw [means.formula]
  apply Formula.map_congr
  intro leaf member
  rw [List.getElem?_append_left (means.within leaf member).2]

/-- Other leaves may come before. -/
theorem formula_behind {others : List Segment}
    (means : Means source node (first + others.length) before segment after lowered reading origin) :
    segment.formula.map some = origin.map fun leaf => (others ++ lowered)[leaf - first]? := by
  rw [means.formula]
  apply Formula.map_congr
  intro leaf member
  have least := (means.within leaf member).1
  rw [List.getElem?_append_right (by omega), Nat.sub_add_eq]

theorem primary {inner : Grammar.BooleanPrimary}
    (run : booleanPrimary inner source before = (.ok segment, after)) :
    Means source (.primary inner) first before segment after [segment] (.leaf first)
      (.leaf first) where
  leafwise := .annotated run (.done after)
  read := rfl
  increasing := List.pairwise_singleton _ _
  bounded := by
    intro leaf member
    obtain rfl := List.mem_singleton.mp member
    exact ⟨Nat.le_refl _, Nat.lt_succ_self _⟩
  leaves := rfl
  truth := fun _ => rfl
  formula := by
    rw [booleanPrimary_unchained inner before segment after run, Formula.map, Formula.map,
      Nat.sub_self]
    rfl

theorem logical {span operator : Span} {connective : Connective}
    (known : Connective.ofText? (operator.text source) = some connective)
    (onLeft : Means source left first before leftSegment middle loweredLeft leftReading leftOrigin)
    (onRight : Means source right (first + left.leaves.length) middle rightSegment after
      loweredRight rightReading rightOrigin) :
    Means source (.logical span left operator right) first before
      (leftSegment.join connective rightSegment span) after (loweredLeft ++ loweredRight)
      (.chain connective [leftReading, rightReading]) (leftOrigin.join connective rightOrigin) where
  leafwise := onLeft.leafwise.append onRight.leafwise
  read := by
    rw [Grammar.Expr.reading, known, onLeft.read, onRight.read]
    rfl
  increasing := by
    rw [Formula.leaves, Formula.leavesAmong, Formula.leavesAmong, Formula.leavesAmong,
      List.append_nil, List.pairwise_append]
    refine ⟨onLeft.increasing, onRight.increasing, ?_⟩
    intro earlier isEarlier later isLater
    have := (onLeft.bounded earlier isEarlier).2
    have := (onRight.bounded later isLater).1
    omega
  bounded := by
    intro leaf member
    rw [Grammar.Expr.leaves, List.length_append]
    rw [Formula.leaves, Formula.leavesAmong, Formula.leavesAmong, Formula.leavesAmong,
      List.append_nil, List.mem_append] at member
    rcases member with member | member
    · have := onLeft.bounded leaf member
      omega
    · have := onRight.bounded leaf member
      omega
  leaves := by
    rw [Formula.leaves_join, onLeft.leaves, onRight.leaves, Formula.leaves, Formula.leavesAmong,
      Formula.leavesAmong, Formula.leavesAmong, List.append_nil]
  truth := by
    intro values
    rw [Formula.truth_join, onLeft.truth, onRight.truth, Formula.truth, Formula.truths,
      Formula.truths, Formula.truths]
  formula := by
    rw [← onLeft.leafwise.length_eq] at onRight
    rw [Segment.formula_join, Formula.map_join, Formula.map_join,
      onLeft.formula_extend loweredRight, onRight.formula_behind]

theorem xor {span : Span}
    (onLeft : Means source left first before leftSegment middle loweredLeft leftReading leftOrigin)
    (onRight : Means source right (first + left.leaves.length) middle rightSegment after
      loweredRight rightReading rightOrigin) :
    Means source (.xor span left right) first before leftSegment
      { after with events := after.events ++ [.xorReduced span] } (loweredLeft ++ loweredRight)
      leftReading leftOrigin where
  leafwise := (onLeft.leafwise.append onRight.leafwise).then_report _
  read := onLeft.read
  increasing := onLeft.increasing
  bounded := by
    intro leaf member
    have := onLeft.bounded leaf member
    rw [Grammar.Expr.leaves, List.length_append]
    omega
  leaves := onLeft.leaves
  truth := onLeft.truth
  formula := onLeft.formula_extend loweredRight

theorem not {span operator : Span}
    (means : Means source node first before segment after lowered reading origin) :
    Means source (.not span operator node) first before segment after lowered reading origin where
  leafwise := means.leafwise
  read := means.read
  increasing := means.increasing
  bounded := means.bounded
  leaves := means.leaves
  truth := means.truth
  formula := means.formula

theorem paren {span : Span}
    (means : Means source node first before segment after lowered reading origin) :
    Means source (.paren span node) first before segment after lowered reading origin where
  leafwise := means.leafwise
  read := means.read
  increasing := means.increasing
  bounded := means.bounded
  leaves := means.leaves
  truth := means.truth
  formula := means.formula

end Means

theorem expr_means (node : Grammar.Expr) (first : Nat) (before : Progress) :
    (expr node).Ensures source before fun segment after =>
      ∃ lowered reading origin,
        Means source node first before segment after lowered reading origin := by
  induction node using Grammar.Expr.leaves.induct generalizing first before with
  | case1 inner => exact fun segment after run => ⟨_, _, _, .primary run⟩
  | case2 span left operator right onLeft onRight =>
      simp only [expr, Annotator.ensures_bind, Annotator.ensures_textAt]
      refine (onLeft first before).mono ?_
      rintro leftSegment middle ⟨_, _, _, leftMeans⟩
      refine (onRight (first + left.leaves.length) middle).mono ?_
      rintro rightSegment after ⟨_, _, _, rightMeans⟩
      split
      next connective known =>
        rw [Annotator.ensures_pure]
        exact ⟨_, _, _, .logical known leftMeans rightMeans⟩
      next => exact Annotator.ensures_throw
  | case3 span left right onLeft onRight =>
      simp only [expr, Annotator.ensures_bind, Annotator.ensures_report, Annotator.ensures_pure]
      refine (onLeft first before).mono ?_
      rintro leftSegment middle ⟨_, _, _, leftMeans⟩
      refine (onRight (first + left.leaves.length) middle).mono ?_
      rintro rightSegment after ⟨_, _, _, rightMeans⟩
      exact ⟨_, _, _, .xor leftMeans rightMeans⟩
  | case4 span operator inner onInner =>
      rw [expr]
      refine (onInner first before).mono ?_
      rintro segment after ⟨_, _, _, means⟩
      exact ⟨_, _, _, .not means⟩
  | case5 span inner onInner =>
      rw [expr]
      refine (onInner first before).mono ?_
      rintro segment after ⟨_, _, _, means⟩
      exact ⟨_, _, _, .paren means⟩

/-- The annotation of an expression means the same as the expression without NOT and with the left
operand in the place of each XOR: its leaves are those of that reading, each once and in the order
of the source, and it is true of the same values. -/
theorem expr_keeps_meaning (source : Text) (node : Grammar.Expr) (before after : Progress)
    (segment : Segment) (run : expr node source before = (.ok segment, after)) :
    ∃ (lowered : List Segment) (reading origin : Formula Nat),
      Leafwise source before node.leaves lowered after ∧
        node.reading source 0 = some reading ∧
        segment.formula.map some = origin.map (fun leaf => lowered[leaf]?) ∧
        (∀ values, origin.truth values = reading.truth values) ∧
        reading.leaves.Pairwise (· < ·) ∧
        segment.formula.leaves.map some = reading.leaves.map fun leaf => lowered[leaf]? := by
  obtain ⟨lowered, reading, origin, means⟩ := expr_means node 0 before segment after run
  have formula : segment.formula.map some = origin.map fun leaf => lowered[leaf]? := means.formula
  refine ⟨lowered, reading, origin, means.leafwise, means.read, formula, means.truth,
    means.increasing, ?_⟩
  rw [← Formula.leaves_map, formula, Formula.leaves_map, means.leaves]

/-- A parameter marker as an expression. -/
def markerExpr (offset : Nat) : Grammar.Expr :=
  .primary (.predicate (.bitExpr (.simple (.marker ⟨offset, offset⟩))))

/-- The tree of `? AND NOT (? XOR ?) AND ?`. -/
def mixedExpr : Grammar.Expr :=
  .logical ⟨0, 24⟩
    (.logical ⟨0, 18⟩ (markerExpr 0) ⟨2, 4⟩
      (.not ⟨6, 18⟩ ⟨6, 8⟩ (.paren ⟨10, 18⟩ (.xor ⟨11, 17⟩ (markerExpr 11) (markerExpr 17)))))
    ⟨20, 22⟩ (markerExpr 24)

/-- Its third marker is left out. -/
theorem expr_keeps_meaning_mixed :
    ∃ (segment : Segment) (after : Progress) (lowered : List Segment) (origin : Formula Nat),
      expr mixedExpr "? AND NOT (? XOR ?) AND ?".toList Progress.initial = (.ok segment, after) ∧
        lowered.length = 4 ∧
        segment.formula.leaves.map some = [lowered[0]?, lowered[1]?, lowered[3]?] ∧
        ∀ values, origin.truth values = ((values 0 && values 1) && values 3) := by
  have succeeds : (expr mixedExpr "? AND NOT (? XOR ?) AND ?".toList Progress.initial).1.isOk := by
    decide +kernel
  rcases run : expr mixedExpr "? AND NOT (? XOR ?) AND ?".toList Progress.initial with
    ⟨error | segment, after⟩
  · rw [run] at succeeds
    exact absurd succeeds Bool.false_ne_true
  · obtain ⟨lowered, reading, origin, leafwise, read, _, truth, _, leaves⟩ :=
      expr_keeps_meaning _ _ _ _ _ run
    have known : reading = .chain .and [.chain .and [.leaf 0, .leaf 1], .leaf 3] := by
      apply Option.some.inj
      rw [← read]
      rfl
    rw [known] at truth leaves
    refine ⟨segment, after, lowered, origin, rfl, leafwise.length_eq, leaves, ?_⟩
    intro values
    rw [truth]
    simp [Formula.truth, Formula.truths, Connective.combine]

end Annotate

end AnnotatedSql
