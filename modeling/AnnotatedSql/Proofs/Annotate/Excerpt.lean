/-
This file shows that a nested statement means the same by itself: the text under it has this
statement when it is annotated alone, with offsets and markers counted from its start.
-/

import AnnotatedSql.Proofs.Annotate.Carried
import AnnotatedSql.Proofs.Annotate.InvalidOrdinal
import AnnotatedSql.Proofs.Grammar.Locality.Excerpt
import AnnotatedSql.Proofs.Token.Excerpt

namespace AnnotatedSql

open Grammar (Cursor DerivesWidely cover)

variable {source : Text} {tokens before inside after : List Token}

/-! ### Texts inside other texts -/

/-- A span has the same text where its source stands in another one. -/
theorem Span.text_excerpt {span : Span} {text : Text} (front behind : Text)
    (fits : span.Fits text) :
    (span.relocate (· + front.byteLength)).text (front ++ text ++ behind) = span.text text := by
  obtain ⟨before, middle, after, rfl, nonempty, rfl⟩ := fits.parts
  have moved : (Span.ofRange before.byteLength (before.byteLength + middle.byteLength)).relocate
      (· + front.byteLength) = Span.ofRange (front ++ before).byteLength
        ((front ++ before).byteLength + middle.byteLength) := by
    simp only [Span.relocate, Span.ofRange, Text.byteLength_append, Span.mk.injEq]
    omega
  have parts : front ++ (before ++ middle ++ after) ++ behind =
      front ++ before ++ middle ++ (after ++ behind) := by simp only [List.append_assoc]
  rw [moved, parts, Span.text, Span.text, Span.text_of_parts _ _ _ nonempty,
    Span.text_of_parts _ _ _ nonempty]

/-- A text comes to stand behind others, at the given offset and with that many markers in front. -/
def Change.behind (start markers : Nat) : Change := ⟨(· + start), markers, Recasing.none⟩

/-- The text itself stays. -/
theorem Change.text_behind (start markers : Nat) (text : Text) :
    (Change.behind start markers).recasing.text text = text := List.map_id text

/-! ### A nested SELECT and the text under it -/

/-- Where a SELECT stands in a source. -/
structure Grammar.Excerpt (source : Text) (child : Grammar.Select) where
  /-- The source up to the SELECT. -/
  front : Text
  text : Text
  behind : Text
  before : List Token
  inside : List Token
  after : List Token
  whole : source = front ++ text ++ behind
  tokens : tokenize source = before ++ (inside ++ after)
  derived : DerivesWidely (.select child) inside
  laid : Laid source inside
  span : cover inside = Span.ofRange front.byteLength (front.byteLength + text.byteLength)

namespace Grammar.Excerpt

variable {child : Grammar.Select} (excerpt : Grammar.Excerpt source child)

theorem nonempty : excerpt.inside ≠ [] := excerpt.derived.nonempty rfl

theorem child_span : child.span = cover excerpt.inside := excerpt.derived.span_eq excerpt.laid rfl

theorem cover_start : (cover excerpt.inside).start = excerpt.front.byteLength := by
  rw [excerpt.span, Span.ofRange]

/-- The text is that under the SELECT. -/
theorem span_text (nonempty : excerpt.text ≠ []) :
    child.span.text? source = some excerpt.text := by
  rw [excerpt.child_span, excerpt.span]
  exact (congrArg _ excerpt.whole).trans
    (Span.text_of_parts _ _ _ (Text.byteLength_pos nonempty))

end Grammar.Excerpt

/-- Tokens in front of an offset do not reach it. -/
theorem stop_lt_of_precedes {stop : Nat}
    (ordered : (before ++ inside).Pairwise Token.Precedes) (nonempty : inside ≠ [])
    (found : Grammar.stopOf? before = some stop) : stop < (cover inside).start := by
  obtain ⟨last, isLast, rfl⟩ := Option.map_eq_some_iff.mp found
  obtain ⟨first, rest, rfl⟩ := List.exists_cons_of_ne_nil nonempty
  exact (List.pairwise_append.mp ordered).2.2 last (List.mem_of_getLast? isLast) first
    List.mem_cons_self

theorem Grammar.ne_nil_of_parse {tree : Grammar.Select} (parsed : Grammar.parse source = .ok tree) :
    source ≠ [] := by
  rintro rfl
  have fails : (Grammar.parse []).isOk = false := by decide +kernel
  rw [parsed] at fails
  cases fails

/-- The text under a SELECT of a tree is a SELECT by itself, the same at other offsets. -/
theorem Grammar.Select.Chosen.excerpt {child : Grammar.Select}
    (chosen : child.Chosen (Cursor.ofTokens (tokenize source))) :
    ∃ excerpt : Grammar.Excerpt source child, ∃ alone, Grammar.parse excerpt.text = .ok alone ∧
      child = alone.relocate (· + excerpt.front.byteLength) := by
  obtain ⟨depth, place, later, ⟨before, reached⟩, few, run, closes⟩ := chosen
  have ends := reached.ends (Cursor.ofTokens_ends source)
  obtain ⟨inside, reads, derived⟩ :=
    Grammar.Parse.select_finds (Grammar.Parse.nested_sound .always depth) ends child later run
  obtain ⟨content, ending, whole, _, more⟩ := tokenize_end source
  have nonempty := derived.nonempty rfl
  have laid := laid_ofTokens source
  rw [reached.unread, reads.unread, ← List.append_assoc] at laid
  have unread : content = before ++ (inside ++ later.unread) := by
    rw [← reads.unread, ← reached.unread, whole, Grammar.ofTokens_concat]
  rw [unread, List.append_assoc, List.append_assoc] at whole
  obtain ⟨front, text, behind, own, parts, span, alone, rfl⟩ := tokenize_excerpt whole nonempty
    fun token member => more token (by
      rw [unread, ← List.append_assoc]
      exact List.mem_append_left _ member)
  have fresh (stop : Nat) (found : place.lastStop = some stop) : stop ≤ front.byteLength := by
    rw [reached.lastStop, Cursor.ofTokens, Option.or_none] at found
    have before := stop_lt_of_precedes laid.left.ordered nonempty found
    rw [span] at before
    exact Nat.le_of_lt before
  obtain ⟨tree, parsed, same⟩ :=
    Grammar.Parse.select_alone text.byteLength ends run closes few reads derived fresh
  refine ⟨⟨front, text, behind, before, _, _, parts, whole, derived, laid.left.right, span⟩,
    tree, ?_, same⟩
  rw [Grammar.parse, alone, parsed]

/-! ### Statements inside a statement -/

/-- A statement stands where its SELECT does. -/
theorem Annotate.select_span (node : Grammar.Select) (progress : Progress) :
    (Annotate.select node).Ensures source progress
      fun statement _ => statement.span = node.span := by
  obtain ⟨span, distinct, ⟨listSpan, items⟩, tableList, condition, grouping, having, ordering⟩ :=
    node
  rw [Annotate.select]
  iterate 6 refine Annotator.ensures_drop fun _ _ => ?_
  rw [Annotator.ensures_bind, Annotator.ensures_get, Annotator.ensures_pure]

section
variable {statement nested : Statement} {tree child : Grammar.Select} {progress later : Progress}

/-- Each statement inside the one of a text is what a SELECT of the tree is annotated with. -/
theorem kept_chosen (parsed : Grammar.parse source = .ok tree)
    (run : Annotate.statement tree source Progress.initial = (.ok statement, later))
    (member : .statement nested ∈ statement.kept) :
    ∃ child, child.Chosen (Cursor.ofTokens (tokenize source)) ∧
      ∃ progress later, Annotate.select child source progress = (.ok nested, later) := by
  have outcome := Annotate.statement_outcome tree source Progress.initial
  rcases selected : Annotate.select tree source
      ⟨0, Progress.initial.events ++ [.statementStarted tree.span]⟩ with ⟨found, place⟩
  rw [run, selected] at outcome
  obtain rfl : .ok statement = found := outcome
  obtain ⟨inner, kept, drawn⟩ := Annotate.select_drawn tree _ statement place selected
  rw [kept] at member
  rcases List.mem_cons.mp member with itself | within
  · obtain rfl := Kept.statement.inj itself
    exact ⟨tree, Grammar.parse_chosen parsed .refl, _, _, selected⟩
  · obtain ⟨child, isPart, run⟩ := drawn.statement nested within
    exact ⟨child, Grammar.parse_chosen parsed (Grammar.has_select parsed isPart), run⟩

/-- A statement counts the markers of its tokens on from those seen before. -/
theorem select_markers (derived : DerivesWidely (.select child) inside)
    (run : Annotate.select child source progress = (.ok nested, later)) :
    nested.markers = progress.markers + (questions inside).length := by
  obtain ⟨count, _⟩ := derived.walked progress.markers progress.events nested later run
  rw [Annotate.select_counted child source progress nested later run, count]

/-- The markers in front of a stretch of tokens are those that start before its span. -/
theorem countP_questions_before (extents : ∀ token ∈ tokens, token.span.start ≤ token.span.stop)
    (ordered : tokens.Pairwise Token.Precedes) (parts : tokens = before ++ (inside ++ after))
    (nonempty : inside ≠ []) :
    (questions tokens).countP (fun span => span.start < (cover inside).start) =
      (questions before).length := by
  subst parts
  obtain ⟨first, rest, rfl⟩ := List.exists_cons_of_ne_nil nonempty
  obtain ⟨_, behind, apart⟩ := List.pairwise_append.mp ordered
  refine countP_questions_append (fun token member => ?_) fun token member => ?_
  · have extent := extents token (List.mem_append_left _ member)
    have precedes := apart token member first List.mem_cons_self
    rw [Token.Precedes] at precedes
    exact decide_eq_true (Nat.lt_of_le_of_lt extent precedes)
  · rw [decide_eq_true_iff, Nat.not_lt]
    rcases List.mem_cons.mp member with rfl | later
    · exact Nat.le_refl _
    · have extent := extents first (by simp)
      have precedes := (List.pairwise_cons.mp behind).1 token later
      rw [Token.Precedes] at precedes
      exact Nat.le_trans extent (Nat.le_of_lt precedes)

/-- A nested statement has seen the markers in front of it when it starts. -/
theorem markers_in_front (excerpt : Grammar.Excerpt source child)
    (run : Annotate.select child source progress = (.ok nested, later))
    (right : Kept.Right 0 (tokenize source) (.statement nested)) :
    progress.markers = (questions (tokenize source)).countP
      fun span => span.start < nested.span.start := by
  obtain ⟨before, inner, after, whole, nonempty, span, markers⟩ := right
  obtain ⟨each, ordered⟩ := (Reader.ofSource source).tokens_ordered
  have extents (token : Token) (member : token ∈ tokenize source) :
      token.span.start ≤ token.span.stop := (each token member).2
  change (tokenize source).Pairwise Token.Precedes at ordered
  have upTo {first stretch rest : List Token} (parts : tokenize source = first ++ stretch ++ rest)
      (some : stretch ≠ []) : (questions (tokenize source)).countP
        (fun span => span.start ≤ (cover stretch).stop) = (questions (first ++ stretch)).length := by
    rw [parts] at extents ordered ⊢
    exact countP_questions extents ordered some
  have stands : nested.span = cover excerpt.inside :=
    (Annotate.select_span child progress nested later run).trans excerpt.child_span
  -- the tokens found by the parser stop where those of the statement do
  have counted := upTo whole nonempty
  have counting := upTo (excerpt.tokens.trans (List.append_assoc ..).symm) excerpt.nonempty
  rw [← stands, span, counted, questions_append excerpt.before, List.length_append] at counting
  have total := select_markers excerpt.derived run
  rw [stands, countP_questions_before extents ordered excerpt.tokens excerpt.nonempty]
  omega

/-- What is kept of a text is right for its tokens. -/
theorem kept_right {one : Kept} (parsed : Grammar.parse source = .ok tree)
    (run : Annotate.statement tree source Progress.initial = (.ok statement, later))
    (member : one ∈ statement.kept) : one.Right 0 (tokenize source) := by
  obtain ⟨tokens, closing, ending, whole, _, _, derived⟩ := Grammar.parse_derives parsed
  obtain ⟨_, _, keeps, _⟩ := Annotate.walks_statement derived.walked [] statement later run
  rw [whole, List.append_assoc]
  exact (keeps one member).left

/-- Every span of a tree has the same text in a source in which its own source stands. -/
theorem shown_excerpt {text : Text} (front behind : Text) (markers : Nat)
    (parsed : Grammar.parse text = .ok tree) :
    AllShown (.behind front.byteLength markers) (front ++ text ++ behind) text tree.parts := by
  obtain ⟨tokens, closing, ending, whole, _, _, derived⟩ := Grammar.parse_derives parsed
  rw [List.append_assoc] at whole
  have laid := derived.laid whole
  intro span member
  have fits := ((derived.traced span member).fits laid).1
  rw [Change.Shows, Change.text_behind]
  exact Span.text_excerpt front behind fits

/-- A SELECT of a text comes out as the text under it does by itself. -/
theorem Grammar.Excerpt.annotated {alone : Grammar.Select} (excerpt : Grammar.Excerpt source child)
    (parsed : Grammar.parse excerpt.text = .ok alone)
    (moved : child = alone.relocate (· + excerpt.front.byteLength))
    (run : Annotate.select child source progress = (.ok nested, later)) :
    ∃ result, annotate excerpt.text = .ok result ∧
      nested = result.carry (.behind excerpt.front.byteLength progress.markers) := by
  have follows := Annotate.follows_select
    (shown_excerpt excerpt.front excerpt.behind progress.markers parsed)
  obtain ⟨outcome, _⟩ := follows ⟨0, [.statementStarted alone.span]⟩ progress (Nat.zero_add _).symm
  change (Annotate.select (alone.relocate (· + excerpt.front.byteLength)) _ _).1 = _ at outcome
  rw [← excerpt.whole, ← moved, run] at outcome
  have own := Annotate.statement_outcome alone excerpt.text Progress.initial
  rw [Progress.initial, List.nil_append] at own
  rcases found : (Annotate.select alone excerpt.text ⟨0, [.statementStarted alone.span]⟩).1 with
    error | result
  · rw [found] at outcome
    cases outcome
  · rw [found] at outcome own
    exact ⟨result, annotate_ok parsed (Prod.ext own rfl), Except.ok.inj outcome⟩

end

/-- A nested statement means the same by itself: the text under a statement inside the one of a
source, annotated alone, has this statement, with all offsets counted from the start of that text
and all markers counted without those in front of it. -/
theorem nested_statement_alone (source : Text) (statement nested : Statement)
    (annotated : annotate source = .ok statement) (member : .statement nested ∈ statement.kept) :
    ∃ text alone, nested.span.text? source = some text ∧ annotate text = .ok alone ∧
      nested = alone.carry (.behind nested.span.start
        ((questions (tokenize source)).countP fun span => span.start < nested.span.start)) := by
  obtain ⟨tree, later, parsed, run, _⟩ := annotateWithEvents_ok (Prod.ext annotated rfl)
  obtain ⟨child, chosen, progress, reached, selected⟩ := kept_chosen parsed run member
  obtain ⟨excerpt, alone, parsedAlone, moved⟩ := chosen.excerpt
  have span : nested.span = child.span :=
    Annotate.select_span child progress nested reached selected
  have start : nested.span.start = excerpt.front.byteLength := by
    rw [span, excerpt.child_span, excerpt.cover_start]
  have markers := markers_in_front excerpt selected (kept_right parsed run member)
  obtain ⟨result, annotatedAlone, same⟩ := excerpt.annotated parsedAlone moved selected
  rw [← markers, start, span]
  exact ⟨excerpt.text, result, excerpt.span_text (Grammar.ne_nil_of_parse parsedAlone),
    annotatedAlone, same⟩

/-- A statement behind a marker and a comment, with a column, a marker and a position. -/
theorem nested_statement_alone_ordered :
    ∃ statement nested alone,
      annotate "SELECT ?/*é*/, (SELECT b, ? FROM u ORDER BY 2)".toList = .ok statement ∧
        .statement nested ∈ statement.kept ∧
        annotate "SELECT b, ? FROM u ORDER BY 2".toList = .ok alone ∧
        nested = alone.carry (.behind 17 1) := by
  let source := "SELECT ?/*é*/, (SELECT b, ? FROM u ORDER BY 2)".toList
  let isNested : Kept → Bool
    | .statement nested => nested.span == ⟨17, 45⟩
    | .marker _ _ => false
  have keeps : (match annotate source with
      | .ok statement => statement.kept.any isNested
      | .error _ => false) = true := by decide +kernel
  rcases run : annotate source with failure | statement
  · rw [run] at keeps
    exact absurd keeps Bool.false_ne_true
  · rw [run] at keeps
    obtain ⟨one, member, found⟩ := List.any_eq_true.mp keeps
    cases one with
    | marker span index => exact absurd found Bool.false_ne_true
    | statement nested =>
        have place : nested.span = ⟨17, 45⟩ := eq_of_beq found
        obtain ⟨text, alone, under, annotated, same⟩ :=
          nested_statement_alone source statement nested run member
        have here : Span.text? ⟨17, 45⟩ source =
            some "SELECT b, ? FROM u ORDER BY 2".toList := by decide +kernel
        have count : ((questions (tokenize source)).countP fun span => span.start < 17) = 1 := by
          decide +kernel
        rw [place] at under same
        obtain rfl := Option.some.inj (here.symm.trans under)
        dsimp only at same
        rw [count] at same
        exact ⟨statement, nested, alone, rfl, member, annotated, same⟩

end AnnotatedSql
