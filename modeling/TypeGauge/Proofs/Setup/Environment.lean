import TypeGauge.Proofs.Data.Fields
import TypeGauge.Setup.Environment
import Mathlib.Data.List.Nodup

/-!
# Variables and their names

Of variables whose names differ only in letter case the last one counts, and it is still a
variable of the environment.  Only one variable leads straight to a key of the policy.  A
setting is listed as replaced only when the variable that is named after it is there.
-/

namespace TypeGauge.Setup

open TypeGauge.Data TypeGauge.Text

/-! ## Assignments -/

namespace Environment

theorem mem_names_assign_iff
    {name other value : String} {assignments : List (String × String)} :
    other ∈ (assign name value assignments).map Prod.fst ↔
      other = name ∨ other ∈ assignments.map Prod.fst := by
  induction assignments with
  | nil => simp [assign]
  | cons head rest hypothesis =>
      obtain ⟨first, old⟩ := head
      by_cases here : first = name
      · simp [assign, here]
      · rw [assign, if_neg (by simpa using here), List.map_cons, List.map_cons, List.mem_cons,
          List.mem_cons, hypothesis]
        tauto

theorem nodup_assign
    {assignments : List (String × String)} (distinct : (assignments.map Prod.fst).Nodup)
    (name value : String) : ((assign name value assignments).map Prod.fst).Nodup := by
  induction assignments with
  | nil => simp [assign]
  | cons head rest hypothesis =>
      obtain ⟨first, old⟩ := head
      rw [List.map_cons, List.nodup_cons] at distinct
      by_cases here : first = name
      · simpa [assign, here] using distinct
      · have different : first ∉ (assign name value rest).map Prod.fst := by
          rw [mem_names_assign_iff]
          rintro (same | later)
          · exact here same
          · exact distinct.1 later
        rw [assign, if_neg (by simpa using here), List.map_cons, List.nodup_cons]
        exact ⟨different, hypothesis distinct.2⟩

theorem nodup_lowered (environment : Environment) :
    (environment.lowered.assignments.map Prod.fst).Nodup := by
  have invariant : ∀ (entries : List (String × String)) (lower : Environment),
      (lower.assignments.map Prod.fst).Nodup →
        ((entries.foldl (fun lower entry => lower.put (LetterCase.lowered entry.1) entry.2)
          lower).assignments.map Prod.fst).Nodup := by
    intro entries
    induction entries with
    | nil =>
        intro lower distinct
        exact distinct
    | cons entry rest hypothesis =>
        intro lower distinct
        exact hypothesis _ (nodup_assign distinct _ _)
  exact invariant environment.assignments empty List.nodup_nil

theorem mem_assign_cases
    {name value : String} {entry : String × String} {assignments : List (String × String)}
    (member : entry ∈ assign name value assignments) :
    entry = (name, value) ∨ entry ∈ assignments := by
  induction assignments with
  | nil => exact .inl (List.mem_singleton.mp member)
  | cons head rest hypothesis =>
      rw [assign] at member
      split at member
      · rcases List.mem_cons.mp member with here | later
        · exact .inl here
        · exact .inr (List.mem_cons_of_mem _ later)
      · rcases List.mem_cons.mp member with here | later
        · exact .inr (here ▸ List.mem_cons_self)
        · exact (hypothesis later).imp_right (List.mem_cons_of_mem _)

/-- A lowered name comes from a variable of the environment. -/
theorem exists_assigned_of_mem_lowered
    {environment : Environment} {entry : String × String}
    (member : entry ∈ environment.lowered.assignments) :
    ∃ name, (name, entry.2) ∈ environment.assignments ∧ LetterCase.lowered name = entry.1 := by
  have known : ∀ entry ∈ environment.lowered.assignments,
      ∃ name, (name, entry.2) ∈ environment.assignments ∧ LetterCase.lowered name = entry.1 := by
    refine List.foldlRecOn environment.assignments _ (motive := fun (lower : Environment) =>
      ∀ entry ∈ lower.assignments, ∃ name, (name, entry.2) ∈ environment.assignments ∧
        LetterCase.lowered name = entry.1) (List.forall_mem_nil _) ?_
    intro lower known assigned listed entry member
    rcases mem_assign_cases member with rfl | earlier
    · exact ⟨assigned.1, listed, rfl⟩
    · exact known entry earlier
  exact known entry member

theorem exists_assigned_of_value?
    {environment : Environment} {name content : String}
    (given : environment.lowered.value? name = some content) :
    ∃ own, (own, content) ∈ environment.assignments ∧ LetterCase.lowered own = name := by
  rcases List.lookup_eq_some_iff.mp given with ⟨before, after, split, _⟩
  have listed : (name, content) ∈ environment.lowered.assignments := by
    rw [split]
    exact List.mem_append_right _ List.mem_cons_self
  exact exists_assigned_of_mem_lowered listed

end Environment

/-! ## Names of variables -/

theorem nameParts_ne_nil (characters : List Char) : nameParts characters ≠ [] := by
  fun_induction nameParts characters with
  | case1 => simp
  | case2 rest _ => simp
  | case3 character rest _ hypothesis => simpa using hypothesis

theorem eq_of_nameParts_eq_singleton {characters part : List Char}
    (single : nameParts characters = [part]) : characters = part := by
  fun_induction nameParts characters generalizing part with
  | case1 =>
      cases single
      rfl
  | case2 rest _ =>
      have none : nameParts rest = [] := (List.cons.inj single).2
      exact absurd none (nameParts_ne_nil rest)
  | case3 character rest _ hypothesis =>
      cases parted : nameParts rest with
      | nil => exact absurd parted (nameParts_ne_nil rest)
      | cons first others =>
          rw [parted, List.modifyHead_cons, List.cons.injEq] at single
          rcases single with ⟨rfl, rfl⟩
          rw [hypothesis parted]

/-- Only one variable leads straight to a key of the policy. -/
theorem Environment.eq_of_policyPath? {name key : String}
    (leads : policyPath? name = some [key]) : name = policyStart ++ key := by
  rw [policyPath?] at leads
  split at leads
  · rename_i starts
    rcases List.isPrefixOf_iff_prefix.mp starts with ⟨rest, split⟩
    rw [← split] at leads
    have dropped : (policyStart.toList ++ rest).drop policyStart.length = rest := by
      rw [← String.length_toList, List.drop_left]
    rw [dropped, Option.some.injEq, List.map_eq_singleton_iff] at leads
    rcases leads with ⟨part, single, rfl⟩
    rw [← String.toList_inj, String.toList_append, String.toList_ofList, ← split,
      eq_of_nameParts_eq_singleton single]
  · cases leads

/-- A setting is listed as replaced only when its own variable is there. -/
theorem Environment.exists_value_of_dotted_mem
    {environment : Environment} {key : SettingKey} (listed : key.dotted ∈ environment.overrides) :
    ∃ content, environment.value? key.variableName = some content := by
  have distinct : (SettingKey.all.map SettingKey.dotted).Nodup := by
    decide
  have every : ∀ key : SettingKey, key ∈ SettingKey.all := by
    intro key
    match key with
    | .policy field => cases field <;> decide
    | .plain field => cases field <;> decide
  rw [overrides, List.mem_mergeSort, List.mem_map] at listed
  rcases listed with ⟨other, replaced, sameName⟩
  have same : other = key := List.inj_on_of_nodup_map distinct (every other) (every key) sameName
  rw [List.mem_filter, same] at replaced
  exact Option.isSome_iff_exists.mp replaced.2

theorem lowered_variableName_policy (field : PolicyField) :
    LetterCase.lowered (SettingKey.policy field).variableName =
      Environment.policyStart ++ field.name := by
  cases field <;> decide +kernel

theorem lowered_variableName_plain (field : PlainField) :
    LetterCase.lowered (SettingKey.plain field).variableName =
      Environment.settingName field.name := by
  cases field <;> decide +kernel

end TypeGauge.Setup
