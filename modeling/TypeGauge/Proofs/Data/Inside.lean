import TypeGauge.Data.Value

/-!
# Values inside values

A document is a tree of values.  `Contains` says that one value stands somewhere in
another, and `Holds` that it stands strictly below one of its keys.  `nesting` counts
how many objects stand inside each other, so it goes down from an object to whatever
it holds.  `everywhere` checks a condition of a value and of all values inside it.
-/

namespace TypeGauge.Data.Value

/-- A value stands somewhere in another one. -/
inductive Contains (whole : Value) : Value → Prop
  | here : Contains whole whole
  | item {items : List Value} {part : Value}
      (inside : Contains whole (.list items)) (member : part ∈ items) : Contains whole part
  | entry {fields : List (String × Value)} {key : String} {part : Value}
      (inside : Contains whole (.object fields)) (member : (key, part) ∈ fields) :
      Contains whole part

/-- A value stands in what an object has under some key. -/
def Holds (node part : Value) : Prop :=
  ∃ fields key value, node = .object fields ∧ (key, value) ∈ fields ∧ value.Contains part

theorem Contains.trans {whole middle part : Value}
    (outer : whole.Contains middle) (inner : middle.Contains part) : whole.Contains part := by
  induction inner with
  | here => exact outer
  | item _ member hypothesis => exact .item hypothesis member
  | entry _ member hypothesis => exact .entry hypothesis member

theorem Holds.contains {node part : Value} (held : node.Holds part) : node.Contains part := by
  rcases held with ⟨fields, key, value, rfl, member, inside⟩
  exact Contains.trans (.entry .here member) inside

theorem Holds.trans {node middle part : Value}
    (held : node.Holds middle) (inside : middle.Contains part) : node.Holds part := by
  rcases held with ⟨fields, key, value, rfl, member, outer⟩
  exact ⟨fields, key, value, rfl, member, outer.trans inside⟩

/-- A value without parts contains nothing but itself. -/
theorem Contains.eq_of_plain {whole part : Value} (inside : whole.Contains part)
    (noList : whole.kind ≠ .list) (noObject : whole.kind ≠ .object) : part = whole := by
  induction inside with
  | here => rfl
  | item _ _ hypothesis =>
      subst hypothesis
      exact absurd rfl noList
  | entry _ _ hypothesis =>
      subst hypothesis
      exact absurd rfl noObject

/-! ## Fields -/

theorem mem_of_lookup?_eq_some
    {key : String} {fields : List (String × Value)} {value : Value}
    (found : lookup? key fields = some value) : (key, value) ∈ fields := by
  induction fields with
  | nil => simp [lookup?] at found
  | cons head rest hypothesis =>
      obtain ⟨name, first⟩ := head
      by_cases here : name = key
      · subst here
        simp only [lookup?, beq_self_eq_true, if_true, Option.some.injEq] at found
        simp [found]
      · simp only [lookup?, beq_iff_eq, here, if_false] at found
        exact List.mem_cons_of_mem _ (hypothesis found)

theorem holds_of_field? {node value : Value} {key : String}
    (found : node.field? key = some value) : node.Holds value := by
  cases node with
  | object fields => exact ⟨fields, key, value, rfl, mem_of_lookup?_eq_some found, .here⟩
  | _ => simp [field?] at found

/-- What an object stands in has been found, so it is held where it was looked for. -/
theorem holds_field {node part : Value} {key : String}
    (isObject : part.isObject = true) (inside : (node.field key).Contains part) :
    node.Holds part := by
  cases found : node.field? key with
  | none =>
      rw [field, found] at inside
      rw [inside.eq_of_plain (by decide) (by decide)] at isObject
      cases isObject
  | some value =>
      rw [field, found] at inside
      exact (holds_of_field? found).trans inside

/-! ## Nesting -/

mutual

/-- How many objects stand inside each other. -/
def nesting : Value → Nat
  | .list items => nestingAll items
  | .object fields => nestingUnder fields + 1
  | .null | .truth _ | .whole _ | .double _ | .text _ | .moment _ => 0

/-- The deepest nesting of several values. -/
def nestingAll : List Value → Nat
  | [] => 0
  | value :: rest => max value.nesting (nestingAll rest)

/-- The deepest nesting of the values of fields. -/
def nestingUnder : List (String × Value) → Nat
  | [] => 0
  | (_, value) :: rest => max value.nesting (nestingUnder rest)

end

theorem nesting_le_nestingAll {items : List Value} {value : Value} (member : value ∈ items) :
    value.nesting ≤ nestingAll items := by
  induction items with
  | nil => cases member
  | cons head rest hypothesis =>
      rw [nestingAll]
      rcases List.mem_cons.mp member with rfl | later
      · exact Nat.le_max_left _ _
      · exact Nat.le_trans (hypothesis later) (Nat.le_max_right _ _)

theorem nesting_le_nestingUnder
    {fields : List (String × Value)} {key : String} {value : Value}
    (member : (key, value) ∈ fields) : value.nesting ≤ nestingUnder fields := by
  induction fields with
  | nil => cases member
  | cons head rest hypothesis =>
      rw [nestingUnder]
      rcases List.mem_cons.mp member with rfl | later
      · exact Nat.le_max_left _ _
      · exact Nat.le_trans (hypothesis later) (Nat.le_max_right _ _)

theorem Contains.nesting_le {whole part : Value} (inside : whole.Contains part) :
    part.nesting ≤ whole.nesting := by
  induction inside with
  | here => exact Nat.le_refl _
  | item _ member hypothesis =>
      rw [nesting] at hypothesis
      exact Nat.le_trans (nesting_le_nestingAll member) hypothesis
  | entry _ member hypothesis =>
      rw [nesting] at hypothesis
      have below := nesting_le_nestingUnder member
      omega

/-- Whatever an object holds is nested less deep than the object. -/
theorem Holds.nesting_lt {node part : Value} (held : node.Holds part) :
    part.nesting < node.nesting := by
  rcases held with ⟨fields, key, value, rfl, member, inside⟩
  have below := nesting_le_nestingUnder member
  have inner := inside.nesting_le
  rw [nesting]
  omega

theorem nesting_pos {node : Value} (isObject : node.isObject = true) : 0 < node.nesting := by
  cases node with
  | object fields =>
      rw [nesting]
      omega
  | _ => cases isObject

/-- A field of an object, there or not, is nested less deep than the object. -/
theorem nesting_field_lt {node : Value} (isObject : node.isObject = true) (key : String) :
    (node.field key).nesting < node.nesting := by
  cases found : node.field? key with
  | none =>
      rw [field, found, Option.getD_none, nesting]
      exact nesting_pos isObject
  | some value =>
      rw [field, found, Option.getD_some]
      exact (holds_of_field? found).nesting_lt

/-! ## Conditions on all values inside -/

mutual

/-- Whether a condition holds of a value and of all values inside it. -/
def everywhere (condition : Value → Bool) : Value → Bool
  | .list items => condition (.list items) && everywhereAll condition items
  | .object fields => condition (.object fields) && everywhereUnder condition fields
  | .null => condition .null
  | .truth flag => condition (.truth flag)
  | .whole number => condition (.whole number)
  | .double number => condition (.double number)
  | .text content => condition (.text content)
  | .moment instant => condition (.moment instant)

/-- Whether a condition holds everywhere in several values. -/
def everywhereAll (condition : Value → Bool) : List Value → Bool
  | [] => true
  | value :: rest => value.everywhere condition && everywhereAll condition rest

/-- Whether a condition holds everywhere in the values of fields. -/
def everywhereUnder (condition : Value → Bool) : List (String × Value) → Bool
  | [] => true
  | (_, value) :: rest => value.everywhere condition && everywhereUnder condition rest

end

theorem everywhereAll_iff (condition : Value → Bool) (items : List Value) :
    everywhereAll condition items = true ↔ ∀ item ∈ items, item.everywhere condition = true := by
  induction items with
  | nil => simp [everywhereAll]
  | cons item rest hypothesis => simp [everywhereAll, hypothesis]

theorem everywhereUnder_iff (condition : Value → Bool) (fields : List (String × Value)) :
    everywhereUnder condition fields = true ↔
      ∀ entry ∈ fields, entry.2.everywhere condition = true := by
  induction fields with
  | nil => simp [everywhereUnder]
  | cons head rest hypothesis =>
      obtain ⟨name, first⟩ := head
      rw [everywhereUnder, Bool.and_eq_true, hypothesis, List.forall_mem_cons]

/-- What holds everywhere in a value holds everywhere in each value inside it. -/
theorem Contains.everywhere
    {condition : Value → Bool} {whole part : Value} (inside : whole.Contains part)
    (holds : whole.everywhere condition = true) : part.everywhere condition = true := by
  induction inside with
  | here => exact holds
  | item _ member hypothesis =>
      rw [Value.everywhere, Bool.and_eq_true, everywhereAll_iff] at hypothesis
      exact hypothesis.2 _ member
  | entry _ member hypothesis =>
      rw [Value.everywhere, Bool.and_eq_true, everywhereUnder_iff] at hypothesis
      exact hypothesis.2 _ member

theorem condition_of_everywhere
    {condition : Value → Bool} {value : Value} (holds : value.everywhere condition = true) :
    condition value = true := by
  cases value with
  | list items =>
      rw [everywhere, Bool.and_eq_true] at holds
      exact holds.1
  | object fields =>
      rw [everywhere, Bool.and_eq_true] at holds
      exact holds.1
  | _ => simpa [everywhere] using holds

end TypeGauge.Data.Value
