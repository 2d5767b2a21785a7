/-
This file says when an annotation numbers the parameter markers among given tokens in their order.
-/

import AnnotatedSql.Annotate
import AnnotatedSql.Proofs.Annotate.Kept
import AnnotatedSql.Proofs.Grammar.Terminal

namespace AnnotatedSql

variable {source : Text} {offset : Nat} {tokens others : List Token} {token : Token}

/-! ### Parameter markers among tokens -/

/-- The spans of the parameter markers among some tokens. -/
def questions (tokens : List Token) : List Span :=
  (tokens.filter fun token => token.kind == .symbol .question).map fun token => token.span

theorem questions_append (first second : List Token) :
    questions (first ++ second) = questions first ++ questions second := by
  rw [questions, List.filter_append, List.map_append]
  rfl

theorem questions_cons (other : token.kind ≠ .symbol .question) :
    questions (token :: tokens) = questions tokens := by
  rw [questions, List.filter_cons_of_neg]
  · rfl
  · rw [beq_iff_eq]
    exact other

theorem questions_question (question : token.kind = .symbol .question) :
    questions [token] = [token.span] := by
  rw [questions, List.filter_cons_of_pos]
  · rfl
  · rw [beq_iff_eq]
    exact question

theorem ne_question_of_isPlain {kind : TokenKind} (plain : Grammar.isPlain kind) :
    kind ≠ .symbol .question := by
  intro same
  rw [same] at plain
  exact Bool.false_ne_true plain

theorem ne_question_of_keyword {kind : TokenKind} {word : Keyword}
    (found : kind = .keyword word) : kind ≠ .symbol .question := by
  rw [found]
  nofun

theorem ne_question_of_symbol {kind : TokenKind} {sign : Symbol} (found : kind = .symbol sign)
    (other : sign ≠ .question) : kind ≠ .symbol .question := by
  intro question
  rw [found] at question
  exact other (TokenKind.symbol.inj question)

theorem ne_question_of_isComparison {kind : TokenKind}
    (found : Grammar.Precedence.isComparison kind) : kind ≠ .symbol .question := by
  intro question
  rw [question] at found
  exact Bool.false_ne_true found

theorem questions_plain (plain : Grammar.Plain tokens) : questions tokens = [] := by
  induction tokens with
  | nil => rfl
  | cons token rest ih =>
      rw [questions_cons (ne_question_of_isPlain (plain token List.mem_cons_self))]
      exact ih fun other member => plain other (List.mem_cons_of_mem token member)

theorem mem_questions {span : Span} (member : span ∈ questions tokens) :
    ∃ token ∈ tokens, token.span = span := by
  obtain ⟨token, found, same⟩ := List.mem_map.mp member
  exact ⟨token, (List.mem_filter.mp found).1, same⟩

/-- The markers that events number, in the order of the events. -/
def numberings (events : List Event) : List (Span × Nat) :=
  events.filterMap fun event =>
    match event with
    | .markerNumbered index span => some (span, index)
    | _ => none

theorem numberings_append (first second : List Event) :
    numberings (first ++ second) = numberings first ++ numberings second :=
  List.filterMap_append

/-! ### What is kept of some tokens -/

/-- The part is right for the given tokens, where the first marker among them has the given number:
a marker is one of theirs and has its number, and a statement covers some of them and counts the
markers up to its end. -/
def Kept.Right (offset : Nat) (tokens : List Token) : Kept → Prop
  | .marker span index => (span, index) ∈ (questions tokens).zipIdx offset
  | .statement nested =>
      ∃ before inner after, tokens = before ++ inner ++ after ∧ inner ≠ [] ∧
        nested.span = Grammar.cover inner ∧
        nested.markers = offset + (questions (before ++ inner)).length

theorem Kept.Right.left {one : Kept} (right : one.Right offset tokens) :
    one.Right offset (tokens ++ others) := by
  cases one with
  | marker span index =>
      rw [Kept.Right, questions_append, List.zipIdx_append, List.mem_append]
      exact .inl right
  | statement nested =>
      obtain ⟨before, inner, after, whole, nonempty, span, markers⟩ := right
      refine ⟨before, inner, after ++ others, ?_, nonempty, span, markers⟩
      rw [whole, List.append_assoc]

theorem Kept.Right.right {one : Kept}
    (right : one.Right (offset + (questions tokens).length) others) :
    one.Right offset (tokens ++ others) := by
  cases one with
  | marker span index =>
      rw [Kept.Right, questions_append, List.zipIdx_append, List.mem_append]
      exact .inr right
  | statement nested =>
      obtain ⟨before, inner, after, whole, nonempty, span, markers⟩ := right
      refine ⟨tokens ++ before, inner, after, ?_, nonempty, span, ?_⟩
      · rw [whole, List.append_assoc, List.append_assoc, List.append_assoc]
      · rw [markers, List.append_assoc, questions_append tokens, List.length_append, Nat.add_assoc]

/-- All parts are right for the given tokens. -/
def Keeps (offset : Nat) (tokens : List Token) (kept : List Kept) : Prop :=
  ∀ one ∈ kept, one.Right offset tokens

variable {kept further : List Kept}

theorem Keeps.nil : Keeps offset tokens [] := fun _ member => absurd member List.not_mem_nil

theorem Keeps.append (first : Keeps offset tokens kept) (second : Keeps offset tokens further) :
    Keeps offset tokens (kept ++ further) := by
  intro one member
  rcases List.mem_append.mp member with member | member
  · exact first one member
  · exact second one member

theorem Keeps.fewer (keeps : Keeps offset tokens kept) (fewer : ∀ one ∈ further, one ∈ kept) :
    Keeps offset tokens further := fun one member => keeps one (fewer one member)

theorem Keeps.left (keeps : Keeps offset tokens kept) : Keeps offset (tokens ++ others) kept :=
  fun one member => (keeps one member).left

theorem Keeps.right (keeps : Keeps (offset + (questions tokens).length) others kept) :
    Keeps offset (tokens ++ others) kept := fun one member => (keeps one member).right

/-- Tokens that are no markers may stand in front. -/
theorem Keeps.plain (plain : Grammar.Plain others) (keeps : Keeps offset tokens kept) :
    Keeps offset (others ++ tokens) kept := by
  apply Keeps.right
  rw [questions_plain plain]
  exact keeps

theorem Keeps.cons (other : token.kind ≠ .symbol .question) (keeps : Keeps offset tokens kept) :
    Keeps offset (token :: tokens) kept := by
  have behind : Keeps (offset + (questions [token]).length) tokens kept := by
    rw [questions_cons other]
    exact keeps
  exact behind.right

/-! ### Annotations -/

theorem Annotator.bind_run {Value Result : Type} (first : Annotator Value)
    (next : Value → Annotator Result) (progress : Progress) :
    (first >>= next) source progress = match first source progress with
      | (.ok value, after) => next value source after
      | (.error error, after) => (.error error, after) := by
  change ExceptT.bind (first source) (fun value => next value source) progress = _
  simp only [ExceptT.bind, ExceptT.mk, bind, StateT.bind]
  rcases first source progress with ⟨_ | _, _⟩ <;> rfl

/-- An annotation that succeeds has numbered the markers among the tokens, from the given number
on, and its value is as stated. -/
def Walks {Value : Type} (source : Text) (offset : Nat) (tokens : List Token)
    (annotator : Annotator Value) (holds : Value → Prop) : Prop :=
  ∀ events value after, annotator source ⟨offset, events⟩ = (.ok value, after) →
    after.markers = offset + (questions tokens).length ∧
      numberings after.events = numberings events ++ (questions tokens).zipIdx offset ∧ holds value

section
variable {Value Result : Type} {annotator : Annotator Value} {next : Value → Annotator Result}
  {holds : Value → Prop} {finish : Result → Prop}

theorem Walks.bind (first : Walks source offset tokens annotator holds)
    (rest : ∀ value, holds value →
      Walks source (offset + (questions tokens).length) others (next value) finish) :
    Walks source offset (tokens ++ others) (annotator >>= next) finish := by
  intro events result after run
  rw [Annotator.bind_run] at run
  rcases split : annotator source ⟨offset, events⟩ with ⟨error | value, middle⟩
  · rw [split] at run
    cases run
  · rw [split] at run
    obtain ⟨count, reported, held⟩ := first events value middle split
    obtain ⟨markers, middleEvents⟩ := middle
    obtain rfl : markers = _ := count
    obtain ⟨total, lastReported, finished⟩ := rest value held middleEvents result after run
    refine ⟨?_, ?_, finished⟩
    · rw [total, questions_append, List.length_append, Nat.add_assoc]
    · rw [lastReported, reported, questions_append, List.zipIdx_append, List.append_assoc]

/-- The first step sees no markers. -/
theorem Walks.after (first : Walks source offset [] annotator holds)
    (rest : ∀ value, holds value → Walks source offset tokens (next value) finish) :
    Walks source offset tokens (annotator >>= next) finish := by
  rw [← List.nil_append tokens]
  exact first.bind rest

/-- The later steps see no markers. -/
theorem Walks.before (first : Walks source offset tokens annotator holds)
    (rest : ∀ value, holds value →
      Walks source (offset + (questions tokens).length) [] (next value) finish) :
    Walks source offset tokens (annotator >>= next) finish := by
  rw [← List.append_nil tokens]
  exact first.bind rest

theorem walks_pure {value : Value} (held : holds value) :
    Walks source offset [] (pure value) holds := by
  intro events result after run
  obtain ⟨same, rfl⟩ := Prod.mk.inj run
  obtain rfl := Except.ok.inj same
  exact ⟨rfl, (List.append_nil _).symm, held⟩

theorem Walks.mono {weaker : Value → Prop} (walks : Walks source offset tokens annotator holds)
    (weaken : ∀ value, holds value → weaker value) :
    Walks source offset tokens annotator weaker := by
  intro events value after run
  obtain ⟨count, reported, held⟩ := walks events value after run
  exact ⟨count, reported, weaken value held⟩

/-- Tokens that are no markers may stand in front. -/
theorem Walks.cons (other : token.kind ≠ .symbol .question)
    (walks : Walks source offset tokens annotator holds) :
    Walks source offset (token :: tokens) annotator holds := by
  intro events value after run
  rw [questions_cons other]
  exact walks events value after run

theorem Walks.plain (plain : Grammar.Plain others)
    (walks : Walks source offset tokens annotator holds) :
    Walks source offset (others ++ tokens) annotator holds := by
  intro events value after run
  rw [questions_append, questions_plain plain]
  exact walks events value after run

theorem walks_throw {error : AnnotationError} :
    Walks source offset tokens (throw error : Annotator Value) holds := by
  intro events value after run
  cases (Prod.mk.inj run).1

theorem walks_report {event : Event} (other : numberings [event] = []) :
    Walks source offset [] (Annotate.report event) fun _ => True := by
  intro events value after run
  obtain ⟨_, rfl⟩ := Prod.mk.inj run
  refine ⟨rfl, ?_, trivial⟩
  rw [numberings_append, other]
  rfl

theorem walks_get : Walks source offset [] (get : Annotator Progress) fun progress =>
    progress.markers = offset := by
  intro events value after run
  obtain ⟨same, rfl⟩ := Prod.mk.inj run
  obtain rfl := Except.ok.inj same
  exact ⟨rfl, (List.append_nil _).symm, rfl⟩

/-- The marker is given the next number. -/
theorem walks_marker (question : token.kind = .symbol .question) :
    Walks source offset [token] (Annotate.marker token.span) fun index => index = offset := by
  intro events value after run
  obtain ⟨same, rfl⟩ := Prod.mk.inj run
  obtain rfl := Except.ok.inj same
  refine ⟨?_, ?_, rfl⟩
  · rw [questions_question question]
    rfl
  · rw [numberings_append, questions_question question]
    rfl

end

/-! ### Annotations that number nothing -/

/-- The annotation numbers no marker. -/
def Quiet {Value : Type} (source : Text) (annotator : Annotator Value) : Prop :=
  ∀ offset, Walks source offset [] annotator fun _ => True

section
variable {Value Result : Type} {annotator : Annotator Value} {next : Value → Annotator Result}

theorem Quiet.bind (first : Quiet source annotator) (rest : ∀ value, Quiet source (next value)) :
    Quiet source (annotator >>= next) :=
  fun offset => (first offset).after fun value _ => rest value offset

theorem quiet_pure {value : Value} : Quiet source (pure value) := fun _ => walks_pure trivial

theorem quiet_throw {error : AnnotationError} : Quiet source (throw error : Annotator Value) :=
  fun _ => walks_throw

theorem quiet_read : Quiet source (read : Annotator Text) := by
  intro offset events value after run
  obtain ⟨_, rfl⟩ := Prod.mk.inj run
  exact ⟨rfl, (List.append_nil _).symm, trivial⟩

theorem quiet_mapM {Item : Type} {step : Item → Annotator Value} (items : List Item)
    (each : ∀ item, Quiet source (step item)) : Quiet source (items.mapM step) := by
  induction items with
  | nil =>
      rw [List.mapM_nil]
      exact quiet_pure
  | cons first rest ih =>
      rw [List.mapM_cons]
      exact (each first).bind fun value => ih.bind fun values => quiet_pure

end

namespace Annotate

theorem quiet_textAt (span : Span) : Quiet source (textAt span) :=
  quiet_read.bind fun _ => quiet_pure

theorem quiet_verbatimCall (span : Span) : Quiet source (verbatimCall span) :=
  (quiet_textAt span).bind fun _ => quiet_pure

/-- No literal is a marker. -/
theorem walks_literal (node : Grammar.Literal) :
    Walks source offset [] (literal node) fun value => ∀ index, value ≠ .marker index := by
  unfold literal
  split
  · exact (quiet_textAt _ _).after fun _ _ => walks_pure nofun
  · exact (quiet_textAt _ _).after fun _ _ => walks_pure nofun
  · exact (quiet_textAt _ _).after fun _ _ => walks_pure nofun
  · exact (quiet_textAt _ _).after fun _ _ => walks_pure nofun
  · exact (quiet_textAt _ _).after fun _ _ => walks_pure nofun
  · exact (quiet_textAt _ _).after fun _ _ => walks_pure nofun
  · exact walks_throw

theorem quiet_name (node : Grammar.Identifier) : Quiet source (name node) :=
  (quiet_textAt _).bind fun _ => quiet_pure

theorem quiet_placedName (node : Grammar.Label) : Quiet source (placedName node) :=
  (quiet_name _).bind fun _ => quiet_pure

theorem quiet_placedName? (node : Option Grammar.Label) : Quiet source (placedName? node) := by
  cases node with
  | none => exact quiet_pure
  | some node => exact (quiet_placedName node).bind fun _ => quiet_pure

theorem quiet_column (node : Grammar.QualifiedName) : Quiet source (column node) :=
  (quiet_name _).bind fun _ => (quiet_placedName? _).bind fun _ => quiet_pure

theorem quiet_table (node : Grammar.QualifiedName) : Quiet source (table node) :=
  (quiet_name _).bind fun _ => (quiet_placedName? _).bind fun _ => quiet_pure

theorem quiet_tables? (node : Option Grammar.NameList) : Quiet source (tables? node) := by
  cases node with
  | none => exact quiet_pure
  | some node => exact quiet_mapM node.names quiet_table

theorem quiet_position (span : Span) : Quiet source (position span) := by
  apply (quiet_textAt span).bind
  intro text
  split
  · exact quiet_pure
  · exact quiet_throw

end Annotate

end AnnotatedSql
