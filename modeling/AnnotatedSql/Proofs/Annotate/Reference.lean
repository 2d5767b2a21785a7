/-
This file shows that the name of a reference stands under the span of its last token, and says when
it is all that stands under the span of the reference.
-/

import AnnotatedSql.Proofs.Annotate.Naming
import AnnotatedSql.Proofs.Annotate.Placement

namespace AnnotatedSql

open Grammar (cover)

variable {source : Text} {tokens : List Token} {token : Token}

/-! ### The text over a stretch of tokens -/

/-- What ends later in the same text begins with what ends earlier. -/
theorem Text.split_later {first second rest others : Text} (same : first ++ rest = second ++ others)
    (later : first.byteLength ≤ second.byteLength) :
    ∃ between, second = first ++ between ∧ rest = between ++ others := by
  rcases List.append_eq_append_iff.mp same with ⟨between, second, rest⟩ | ⟨excess, rfl, rest⟩
  · exact ⟨between, second, rest⟩
  · have nothing : excess = [] := by
      by_contra some
      have positive := Text.byteLength_pos some
      rw [Text.byteLength_append] at later
      omega
    subst nothing
    exact ⟨[], by simp, by simpa using rest.symm⟩

/-- From an offset before the first token on, the text up to the end of the last token has the texts
of all tokens in their order. -/
theorem Laid.reach (laid : Laid source tokens) (nonempty : tokens ≠ []) {start rest : Text}
    (whole : source = start ++ rest)
    (early : start.byteLength ≤ (tokens.head nonempty).span.start) :
    ∃ text behind, rest = text ++ behind ∧ (tokens.flatMap Token.text).Sublist text ∧
      (tokens.getLast nonempty).span.stop + 1 = start.byteLength + text.byteLength := by
  induction tokens generalizing start rest with
  | nil => exact absurd rfl nonempty
  | cons first others ih =>
      have stands := laid.stands first List.mem_cons_self
      obtain ⟨upTo, behind, split, span⟩ := stands.placed
      have positive := Text.byteLength_pos stands.nonempty
      rw [List.head_cons, span] at early
      rw [List.append_assoc] at split
      obtain ⟨gap, upToEq, restEq⟩ := Text.split_later (whole.symm.trans split) early
      have stop : first.span.stop + 1 = start.byteLength + (gap ++ first.text).byteLength := by
        rw [span, upToEq, Span.ofRange, Text.byteLength_append, Text.byteLength_append]
        dsimp only
        omega
      rcases others with _ | ⟨next, others⟩
      · refine ⟨gap ++ first.text, behind, ?_, ?_, stop⟩
        · rw [restEq, List.append_assoc]
        · simp
      · have apart := (List.pairwise_cons.mp laid.ordered).1 next List.mem_cons_self
        rw [Token.Precedes] at apart
        have prefixed : source = (start ++ (gap ++ first.text)) ++ behind := by
          rw [whole, restEq]
          simp only [List.append_assoc]
        obtain ⟨text, final, behindEq, within, reached⟩ :=
          ih laid.tail (List.cons_ne_nil _ _) prefixed
            (by rw [Text.byteLength_append, ← stop, List.head_cons]; omega)
        refine ⟨gap ++ first.text ++ text, final, ?_, ?_, ?_⟩
        · rw [restEq, behindEq]
          simp only [List.append_assoc]
        · rw [List.flatMap_cons]
          exact (List.sublist_append_right _ _).append within
        · rw [List.getLast_cons (List.cons_ne_nil _ _), reached]
          simp only [Text.byteLength_append]
          omega

/-- The text over tokens has the texts of all tokens in their order. -/
theorem Laid.cover_text (laid : Laid source tokens) (nonempty : tokens ≠ []) :
    ∃ text, (cover tokens).text? source = some text ∧
      (tokens.flatMap Token.text).Sublist text := by
  obtain ⟨start, rest, whole, starts⟩ := (laid.stands _ (List.head_mem nonempty)).starts
  obtain ⟨text, behind, rfl, within, stop⟩ :=
    laid.reach nonempty whole (Nat.le_of_eq starts.symm)
  refine ⟨text, ?_, within⟩
  have extent := (laid.cover_fits nonempty).1
  rw [laid.cover_eq nonempty, starts] at extent
  rw [laid.cover_eq nonempty, starts]
  dsimp only at extent
  have span : Span.mk start.byteLength (tokens.getLast nonempty).span.stop =
      Span.ofRange start.byteLength (start.byteLength + text.byteLength) := by
    rw [Span.ofRange, ← stop]
    rfl
  rw [span, whole, ← List.append_assoc]
  exact Span.text_of_parts start text behind (by omega)

/-! ### Names -/

/-- A token that stands in the source gives its name to its span. -/
theorem Token.Stands.names (stands : token.Stands source) :
    token.span.Names source (Name.ofText (token.span.text source)) := by
  rw [Span.Names, Span.text, stands.text?]
  rfl

theorem Annotate.ensures_name (token : Token) {progress : Progress} {holds : Name → Progress → Prop} :
    (Annotate.name (.ofToken token)).Ensures source progress holds ↔
      holds (Name.ofText (token.span.text source)) progress := by
  have same : (Grammar.Identifier.ofToken token).unreservedWord.getD
      (Grammar.Identifier.ofToken token).span = token.span := by
    unfold Grammar.Identifier.ofToken
    cases token.kind.keyword? <;> rfl
  rw [Annotate.name, same, Annotator.ensures_bind, Annotator.ensures_textAt, Annotator.ensures_pure]

theorem Annotate.ensures_owner (owner : Token) {progress : Progress}
    {holds : Option PlacedName → Progress → Prop} :
    (Annotate.placedName? (some (.ofToken owner))).Ensures source progress holds ↔
      holds (some ⟨owner.span, Name.ofText (owner.span.text source)⟩) progress := by
  simp only [Annotate.placedName?, Annotate.placedName, Grammar.Label.ofToken,
    Annotator.ensures_bind, Annotate.ensures_name, Annotator.ensures_pure]

/-- Over tokens that stand in the source, all namings that the annotation gives sit. -/
def Names {Value : Type} (source : Text) (tokens : List Token) (annotator : Annotator Value)
    (namings : Value → List Naming) : Prop :=
  Laid source tokens → ∀ progress,
    annotator.Ensures source progress fun value _ => Naming.AllSit source (namings value)

section
variable {Value Result : Type} {annotator : Annotator Value} {next : Value → Annotator Result}
  {namings : Value → List Naming} {progress : Progress} {holds : Result → Progress → Prop}

/-- The later steps may use that the namings sit. -/
theorem Names.bind (names : Names source tokens annotator namings) (laid : Laid source tokens)
    (rest : ∀ value after, Naming.AllSit source (namings value) →
      (next value).Ensures source after holds) :
    (annotator >>= next).Ensures source progress holds := by
  rw [Annotator.ensures_bind]
  exact (names laid progress).mono rest

/-- The namings may be looked at from a larger stretch. -/
theorem Names.mono {more : List Token} (names : Names source tokens annotator namings)
    (fewer : tokens.Sublist more) : Names source more annotator namings :=
  fun laid progress => names (laid.fewer fewer) progress

/-- Where the value is dropped, only the later steps give namings. -/
theorem Names.dropped {further : Result → List Naming}
    (names : ∀ value, Names source tokens (next value) further) :
    Names source tokens (annotator >>= next) further := by
  intro laid progress
  apply Annotator.ensures_drop
  intro value after
  exact names value laid after

end

namespace Annotate

theorem allSit_owner {owner : Token} (stands : owner.Stands source) :
    Naming.AllSit source
      (Naming.ofLabel? (some ⟨owner.span, Name.ofText (owner.span.text source)⟩)) := by
  intro naming member
  obtain rfl := List.mem_singleton.mp member
  exact stands.names

theorem column_names {name : Grammar.QualifiedName} (derived : name.Derives tokens) :
    Names source tokens (column name) Column.namings := by
  intro laid progress
  cases derived with
  | plain =>
      rw [column, Annotator.ensures_bind, ensures_name, placedName?, Annotator.ensures_bind,
        Annotator.ensures_pure, Annotator.ensures_pure]
      exact allSit_nil
  | @owned owner =>
      rw [column, Annotator.ensures_bind, ensures_name, Annotator.ensures_bind, ensures_owner,
        Annotator.ensures_pure]
      exact allSit_owner (laid.stands owner List.mem_cons_self)

/-- A table without an owner stands under its span. -/
theorem covers_plain {name : Token} (stands : name.Stands source) :
    Table.Covers source ⟨⟨name.span, Name.ofText (name.span.text source)⟩, none⟩ where
  whole := rfl
  alone := iff_of_true stands.names rfl
  part := ⟨name.span, ⟨Nat.le_refl _, Nat.le_refl _⟩, rfl, stands.names, nofun⟩

/-- With an owner there is a dot too many under the span for it to be the name of the table. -/
theorem covers_owned {owner dot name : Token} (laid : Laid source [owner, dot, name])
    (isDot : dot.kind = .symbol .dot) :
    Table.Covers source
      ⟨⟨cover [owner, dot, name], Name.ofText (name.span.text source)⟩,
        some ⟨owner.span, Name.ofText (owner.span.text source)⟩⟩ := by
  have nonempty : [owner, dot, name] ≠ [] := List.cons_ne_nil _ _
  have isName : name ∈ [owner, dot, name] := by simp
  have ownerStands := laid.stands owner List.mem_cons_self
  have stands := laid.stands name isName
  have dotText : dot.text = ['.'] := by
    have spells := (laid.stands dot (by simp)).spells
    rw [isDot] at spells
    exact spells.symbol "." (by decide)
  have starts : (cover [owner, dot, name]).start = owner.span.start := by
    rw [laid.cover_eq nonempty]
    rfl
  have stops : (cover [owner, dot, name]).stop = name.span.stop := by
    rw [laid.cover_eq nonempty]
    rfl
  have apart : owner.Precedes name :=
    (List.pairwise_cons.mp laid.ordered).1 name (by simp)
  refine ⟨?_, ?_, ?_⟩
  · exact Span.Within.join_eq (laid.within (inside_of_mem List.mem_cons_self))
  · refine iff_of_false ?_ (Option.some_ne_none _)
    intro names
    obtain ⟨text, found, parts⟩ := laid.cover_text nonempty
    rw [Span.Names, found, Option.map_some, Option.some.injEq, Span.text, stands.text?,
      Option.getD_some] at names
    have fewer := parts.count_le '.'
    have same := congrArg (fun name : Name => name.value.count '.') names
    dsimp only at same
    rw [Name.count_dot_ofText, Name.count_dot_ofText] at same
    simp only [List.flatMap_cons, List.flatMap_nil, List.count_append, dotText,
      List.count_singleton_self, List.append_nil] at fewer
    omega
  · refine ⟨name.span, laid.within (inside_of_mem isName), stops.symm, stands.names, ?_⟩
    intro placed member
    obtain rfl := Option.some.inj member
    exact ⟨starts.symm, apart⟩

theorem table_names {name : Grammar.QualifiedName} (derived : name.Derives tokens) :
    Names source tokens (table name) Table.namings := by
  intro laid progress
  cases derived with
  | @plain name =>
      rw [table, Annotator.ensures_bind, ensures_name, placedName?, Annotator.ensures_bind,
        Annotator.ensures_pure, Annotator.ensures_pure]
      intro naming member
      obtain rfl := List.mem_singleton.mp member
      exact covers_plain (laid.stands name List.mem_cons_self)
  | @owned owner dot name _ isDot =>
      rw [table, Annotator.ensures_bind, ensures_name, Annotator.ensures_bind, ensures_owner,
        Annotator.ensures_pure]
      intro naming member
      rcases List.mem_cons.mp member with rfl | member
      · exact covers_owned laid isDot
      · exact allSit_owner (laid.stands owner List.mem_cons_self) naming member

theorem mapM_table_names {names : List Grammar.QualifiedName}
    (list : Grammar.CommaList Grammar.QualifiedName.Derives names tokens) :
    Names source tokens (names.mapM table) (List.flatMap Table.namings) := by
  induction list with
  | single first =>
      intro laid progress
      rw [List.mapM_cons, List.mapM_nil]
      refine (table_names first).bind laid ?_
      intro table _ sits
      rw [pure_bind, Annotator.ensures_pure, List.flatMap_singleton]
      exact sits
  | cons first comma _ ih =>
      intro laid progress
      rw [List.mapM_cons]
      refine (table_names first).bind laid.left ?_
      intro table _ sits
      refine ih.bind laid.right.tail ?_
      intro tables _ allSit
      rw [Annotator.ensures_pure, List.flatMap_cons, allSit_append]
      exact ⟨sits, allSit⟩

theorem tables_names {node : Option Grammar.NameList} (derived : Grammar.Tables node tokens) :
    Names source tokens (tables? node) (List.flatMap Table.namings) := by
  cases derived with
  | absent =>
      intro _ progress
      rw [tables?, Annotator.ensures_pure]
      exact allSit_nil
  | present word list => exact (mapM_table_names list).mono (List.sublist_cons_self _ _)

theorem itemLabel_names {itemLabel : Option Grammar.Label}
    (derived : Grammar.ItemLabel itemLabel tokens) :
    Names source tokens (placedName? itemLabel) Naming.ofLabel? := by
  intro laid progress
  cases derived with
  | absent =>
      rw [placedName?, Annotator.ensures_pure]
      exact allSit_nil
  | @bare name =>
      rw [ensures_owner]
      exact allSit_owner (laid.stands name List.mem_cons_self)
  | @led word name =>
      rw [ensures_owner]
      exact allSit_owner (laid.stands name (List.mem_cons_of_mem _ List.mem_cons_self))

end Annotate

end AnnotatedSql
