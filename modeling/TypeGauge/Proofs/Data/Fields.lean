import TypeGauge.Data.Merge
import Mathlib.Data.List.Nodup
import Mathlib.Data.List.Perm.Basic

/-!
# Fields of objects

An object whose keys are all different is a finite function from keys to values: a
lookup finds a value exactly when the value stands under the key, so the order of the
fields does not matter to it.  Putting a value under a key and laying fields over
others keep keys different, and a lookup in the result is a lookup in the parts.
`gather` makes fields of the items that have a value, each under its own name.
-/

namespace TypeGauge.Data.Value

theorem lookup?_eq_some_iff
    {fields : List (String × Value)} (distinct : (fields.map Prod.fst).Nodup)
    (key : String) (value : Value) :
    lookup? key fields = some value ↔ (key, value) ∈ fields := by
  induction fields with
  | nil => simp [lookup?]
  | cons head rest hypothesis =>
      obtain ⟨name, found⟩ := head
      rw [List.map_cons, List.nodup_cons] at distinct
      rw [lookup?, List.mem_cons, Prod.mk.injEq]
      by_cases here : name = key
      · subst here
        have absent : (name, value) ∉ rest := by
          intro member
          exact distinct.1 (List.mem_map.mpr ⟨_, member, rfl⟩)
        simp [absent, eq_comm]
      · have elsewhere : key ≠ name := Ne.symm here
        simp [here, elsewhere, hypothesis distinct.2]

/-- The order of fields with different keys does not matter to a lookup. -/
theorem lookup?_of_perm
    {fields others : List (String × Value)} (same : fields.Perm others)
    (distinct : (fields.map Prod.fst).Nodup) (key : String) :
    lookup? key fields = lookup? key others := by
  have otherDistinct : (others.map Prod.fst).Nodup := (same.map Prod.fst).nodup_iff.mp distinct
  ext value
  rw [lookup?_eq_some_iff distinct, lookup?_eq_some_iff otherDistinct, same.mem_iff]

theorem lookup?_eq_none_iff (key : String) (fields : List (String × Value)) :
    lookup? key fields = none ↔ key ∉ fields.map Prod.fst := by
  induction fields with
  | nil => simp [lookup?]
  | cons head rest hypothesis =>
      obtain ⟨name, found⟩ := head
      by_cases here : name = key
      · simp [lookup?, here]
      · simp [lookup?, here, Ne.symm here, hypothesis]

theorem lookup?_putField (key other : String) (value : Value) (fields : List (String × Value)) :
    lookup? other (putField key value fields) =
      if other = key then some value else lookup? other fields := by
  by_cases same : other = key
  · subst same
    simp
  · rw [if_neg same, lookup?_putField_other same]

theorem mem_keys_putField_iff
    {key other : String} {value : Value} {fields : List (String × Value)} :
    other ∈ (putField key value fields).map Prod.fst ↔
      other = key ∨ other ∈ fields.map Prod.fst := by
  rw [← not_iff_not, ← lookup?_eq_none_iff, lookup?_putField, not_or, ← lookup?_eq_none_iff]
  by_cases same : other = key
  · simp [same]
  · simp [same]

theorem nodup_putField
    {fields : List (String × Value)} (distinct : (fields.map Prod.fst).Nodup)
    (key : String) (value : Value) : ((putField key value fields).map Prod.fst).Nodup := by
  induction fields with
  | nil => simp [putField]
  | cons head rest hypothesis =>
      obtain ⟨name, found⟩ := head
      rw [List.map_cons, List.nodup_cons] at distinct
      by_cases here : name = key
      · simpa [putField, here] using distinct
      · have different : name ∉ (putField key value rest).map Prod.fst := by
          rw [mem_keys_putField_iff]
          rintro (same | later)
          · exact here same
          · exact distinct.1 later
        rw [putField, if_neg (by simpa using here), List.map_cons, List.nodup_cons]
        exact ⟨different, hypothesis distinct.2⟩

theorem lookup?_map (change : Value → Value) (key : String) (fields : List (String × Value)) :
    lookup? key (fields.map fun entry => (entry.1, change entry.2)) =
      (lookup? key fields).map change := by
  induction fields with
  | nil => rfl
  | cons head rest hypothesis =>
      rw [List.map_cons, lookup?, lookup?, hypothesis]
      split <;> rfl

/-- Leaving fields out leaves what stands under the keys that stay. -/
theorem lookup?_filter {keep : String → Bool} {key : String} (kept : keep key = true)
    (fields : List (String × Value)) :
    lookup? key (fields.filter fun entry => keep entry.1) = lookup? key fields := by
  induction fields with
  | nil => rfl
  | cons head rest hypothesis =>
      by_cases here : head.1 = key
      · rw [List.filter_cons_of_pos (by simp [here, kept]), lookup?, lookup?, hypothesis]
      · by_cases stays : keep head.1 = true
        · rw [List.filter_cons_of_pos (by simpa using stays), lookup?, lookup?, hypothesis]
        · rw [List.filter_cons_of_neg (by simpa using stays), hypothesis, lookup?,
            if_neg (by simpa using here)]

/-! ## Values under names -/

/-- Values under names: one for each item that has a value. -/
def gather {ι : Type} (name : ι → String) (value? : ι → Option Value) (items : List ι) :
    List (String × Value) :=
  items.filterMap fun item => (value? item).map (name item, ·)

theorem keys_gather_sublist
    {ι : Type} (name : ι → String) (value? : ι → Option Value) (items : List ι) :
    ((gather name value? items).map Prod.fst).Sublist (items.map name) := by
  induction items with
  | nil => exact List.Sublist.refl []
  | cons item rest hypothesis =>
      rw [gather, List.filterMap_cons]
      cases value? item with
      | none => exact hypothesis.cons _
      | some value => exact hypothesis.cons_cons _

theorem lookup?_gather
    {ι : Type} {name : ι → String} (value? : ι → Option Value) {items : List ι}
    (distinct : (items.map name).Nodup) {item : ι} (member : item ∈ items) :
    lookup? (name item) (gather name value? items) = value? item := by
  have given : ∀ value, lookup? (name item) (gather name value? items) = some value ↔
      value? item = some value := by
    intro value
    have keys : ((gather name value? items).map Prod.fst).Nodup :=
      (keys_gather_sublist name value? items).nodup distinct
    rw [lookup?_eq_some_iff keys, gather, List.mem_filterMap]
    simp only [Option.map_eq_some_iff, Prod.mk.injEq]
    constructor
    · rintro ⟨other, otherMember, _, found, sameName, rfl⟩
      rw [List.inj_on_of_nodup_map distinct member otherMember sameName.symm]
      exact found
    · intro found
      exact ⟨item, member, value, found, rfl, rfl⟩
  exact Option.ext given

end TypeGauge.Data.Value

namespace TypeGauge.Data

open TypeGauge.Data.Value

theorem isObject_mergeValue (lower : Option Value) {upper : Value}
    (isObject : upper.isObject = true) : (mergeValue lower upper).isObject = true := by
  cases upper with
  | object fields =>
      unfold mergeValue
      split <;> rfl
  | null | truth | whole | double | text | moment | list => cases isObject

/-- Under a key of merged fields stands the upper value over the lower one, or the lower one. -/
theorem lookup?_mergeFields
    (lower : List (String × Value)) {upper : List (String × Value)}
    (distinct : (upper.map Prod.fst).Nodup) (key : String) :
    lookup? key (mergeFields lower upper) =
      ((lookup? key upper).map (mergeValue (lookup? key lower))).or (lookup? key lower) := by
  induction upper generalizing lower with
  | nil => simp [lookup?]
  | cons head rest hypothesis =>
      obtain ⟨name, value⟩ := head
      rw [List.map_cons, List.nodup_cons] at distinct
      rw [mergeFields, hypothesis _ distinct.2, lookup?_putField]
      by_cases here : key = name
      · subst here
        have absent : lookup? key rest = none := (lookup?_eq_none_iff key rest).mpr distinct.1
        simp [lookup?, absent]
      · simp [lookup?, here, Ne.symm here]

theorem nodup_mergeFields
    {lower : List (String × Value)} (distinct : (lower.map Prod.fst).Nodup)
    (upper : List (String × Value)) : ((mergeFields lower upper).map Prod.fst).Nodup := by
  induction upper generalizing lower with
  | nil => simpa using distinct
  | cons head rest hypothesis =>
      obtain ⟨name, value⟩ := head
      rw [mergeFields]
      exact hypothesis (nodup_putField distinct name _)

end TypeGauge.Data
