/-
This file says when two JSON values are the same although the fields of their objects may stand in
another order, and what then follows for their parts.
-/

import AnnotatedSql.Json
import Mathlib.Data.List.Forall2
import Mathlib.Data.Option.Basic

namespace AnnotatedSql.Json

/-- The same values; of an object only counts what is found under each key. -/
inductive Same : Json → Json → Prop
  | null : Same .null .null
  | boolean (value : Bool) : Same (.boolean value) (.boolean value)
  | integer (value : Int) : Same (.integer value) (.integer value)
  | string (text : Text) : Same (.string text) (.string text)
  | array {items others : List Json} :
      List.Forall₂ Same items others → Same (.array items) (.array others)
  | object {fields others : List (String × Json)} :
      (∀ key, Option.Rel Same (fields.lookup key) (others.lookup key)) →
      Same (.object fields) (.object others)

variable {value other : Json} {fields further : List (String × Json)}

/-! ### Every value is the same as itself -/

mutual

theorem same_refl : ∀ value : Json, value.Same value
  | .null => .null
  | .boolean value => .boolean value
  | .integer value => .integer value
  | .string text => .string text
  | .array items => .array (allSame_refl items)
  | .object fields => .object (fieldsSame_refl fields)

theorem allSame_refl : ∀ items : List Json, List.Forall₂ Same items items
  | [] => .nil
  | first :: rest => .cons (same_refl first) (allSame_refl rest)

theorem fieldsSame_refl : ∀ (fields : List (String × Json)) (key : String),
    Option.Rel Same (fields.lookup key) (fields.lookup key)
  | [], _ => .none
  | (name, value) :: rest, key => by
      rw [List.lookup_cons]
      split
      · exact .some (same_refl value)
      · exact fieldsSame_refl rest key

end

mutual

/-- Values that are the same as a third one are the same. -/
theorem Same.common : ∀ {first second value : Json},
    first.Same value → second.Same value → first.Same second
  | _, _, _, .null, .null => .null
  | _, _, _, .boolean value, .boolean _ => .boolean value
  | _, _, _, .integer value, .integer _ => .integer value
  | _, _, _, .string text, .string _ => .string text
  | .array items, .array others, .array values, .array each, .array otherEach =>
      .array (allSame_common items others values each otherEach)
  | .object fields, .object _, .object _, .object each, .object otherEach =>
      .object fun key => fieldsSame_common fields key _ _ (each key) (otherEach key)

theorem allSame_common : ∀ items others values : List Json, List.Forall₂ Same items values →
    List.Forall₂ Same others values → List.Forall₂ Same items others
  | [], _, _, .nil, .nil => .nil
  | _ :: _, [], _, each, .nil => nomatch each
  | _ :: items, _ :: others, _ :: values, .cons first each, .cons second otherEach =>
      .cons (first.common second) (allSame_common items others values each otherEach)

theorem fieldsSame_common : ∀ (fields : List (String × Json)) (key : String)
    (other found : Option Json), Option.Rel Same (fields.lookup key) found →
    Option.Rel Same other found → Option.Rel Same (fields.lookup key) other
  | [], _, _, _, .none, .none => .none
  | (name, value) :: rest, key, other, found, same, otherSame => by
      rw [List.lookup_cons] at same ⊢
      split at same
      · cases same with
        | some same =>
            cases otherSame with
            | some otherSame => exact .some (same.common otherSame)
      · exact fieldsSame_common rest key other found same otherSame

end

/-! ### Parts of the same values -/

/-- Under the same key of the same objects stand the same values. -/
theorem Same.field (same : (Json.object fields).Same (.object further)) (key : String)
    (found : fields.lookup key = some value) (otherFound : further.lookup key = some other) :
    value.Same other := by
  cases same with
  | object each =>
      have under := each key
      rw [found, otherFound] at under
      cases under with
      | some same => exact same

/-- The same cases have the same name and the same contents. -/
theorem Same.tagged {tag otherTag : String}
    (same : (Json.tagged tag value).Same (.tagged otherTag other)) :
    tag = otherTag ∧ value.Same other := by
  have names : tag = otherTag := by
    cases same with
    | object each =>
        have under := each tag
        by_contra different
        rw [List.lookup_cons_self, List.lookup_cons, beq_eq_false_iff_ne.mpr different,
          List.lookup_nil] at under
        cases under
  subst names
  exact ⟨rfl, same.field tag List.lookup_cons_self List.lookup_cons_self⟩

theorem Same.text {text otherText : Text} (same : (Json.string text).Same (.string otherText)) :
    text = otherText := by
  cases same with
  | string => rfl

theorem Same.number {number otherNumber : Nat}
    (same : (Json.ofNat number).Same (.ofNat otherNumber)) : number = otherNumber := by
  rw [Json.ofNat, Json.ofNat] at same
  generalize left : (number : Int) = value at same
  generalize right : (otherNumber : Int) = other at same
  cases same with
  | integer =>
      rw [← right] at left
      exact Int.ofNat_inj.mp left

theorem Same.integer_eq {value other : Int} (same : (Json.integer value).Same (.integer other)) :
    value = other := by
  cases same with
  | integer => rfl

theorem Same.boolean_eq {value other : Bool} (same : (Json.boolean value).Same (.boolean other)) :
    value = other := by
  cases same with
  | boolean => rfl

theorem Same.items {given others : List Json} (same : (Json.array given).Same (.array others)) :
    List.Forall₂ Same given others := by
  cases same with
  | array each => exact each

section
variable {Value : Type} {encode : Value → Json}

/-- Words that differ are different values. -/
theorem Same.word {name : Value → String} (injective : Function.Injective name)
    {first second : Value}
    (same : (Json.ofWord (name first)).Same (.ofWord (name second))) : first = second := by
  have spelled := same.text
  exact injective (String.toList_inj.mp spelled)

/-- An encoding that never gives null tells a missing value from one that is there. -/
theorem Same.ofOption (injective : ∀ first second, (encode first).Same (encode second) →
    first = second) (never : ∀ value, encode value ≠ .null) :
    ∀ {first second : Option Value},
      (Json.ofOption encode first).Same (Json.ofOption encode second) → first = second
  | none, none, _ => rfl
  | some first, some second, same => congrArg some (injective first second same)
  | none, some second, same => by
      rw [Json.ofOption, Json.ofOption] at same
      generalize written : encode second = value at same
      cases same
      exact absurd written (never second)
  | some first, none, same => by
      rw [Json.ofOption, Json.ofOption] at same
      generalize written : encode first = value at same
      cases same
      exact absurd written (never first)

/-- Lists that are written as the same arrays are the same. -/
theorem Same.list (injective : ∀ first second, (encode first).Same (encode second) →
    first = second) :
    ∀ {first second : List Value}, List.Forall₂ Same (first.map encode) (second.map encode) →
      first = second
  | [], [], _ => rfl
  | [], _ :: _, each => nomatch each
  | _ :: _, [], each => nomatch each
  | first :: rest, second :: others, each => by
      rw [List.map_cons, List.map_cons, List.forall₂_cons] at each
      rw [injective first second each.1, Same.list injective each.2]

end

end AnnotatedSql.Json
