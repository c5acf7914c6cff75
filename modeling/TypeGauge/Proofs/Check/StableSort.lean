import TypeGauge.Check.Diagnostic
import Mathlib.Data.List.Forall2
import Mathlib.Data.Prod.Lex
import Mathlib.Order.Lex

/-!
# Diagnostics in the order of their places

Sorting diagnostics puts them in the order of their lines and columns and keeps the
order of those about the same place.  These two conditions leave nothing open: at
most one list meets them, and `Diagnostic.sort` gives it.
-/

namespace TypeGauge.Check.Diagnostic

variable {α : Type}

/-- The line and the column that a diagnostic is about, lines first. -/
def place (diagnostic : Diagnostic α) : Int ×ₗ Int :=
  toLex (diagnostic.line, diagnostic.column)

theorem notAfter_iff (first second : Diagnostic α) :
    notAfter first second = true ↔ first.place ≤ second.place := by
  simp [notAfter, place, Prod.Lex.toLex_le_toLex]

theorem notAfter_total (first second : Diagnostic α) :
    (notAfter first second || notAfter second first) = true := by
  rw [Bool.or_eq_true, notAfter_iff, notAfter_iff]
  exact le_total _ _

theorem notAfter_trans (first second third : Diagnostic α)
    (before : notAfter first second = true) (after : notAfter second third = true) :
    notAfter first third = true := by
  rw [notAfter_iff] at before after ⊢
  exact before.trans after

/-- The diagnostics about one place, in order. -/
def atPlace (place : Int ×ₗ Int) (diagnostics : List (Diagnostic α)) : List (Diagnostic α) :=
  diagnostics.filter fun diagnostic => diagnostic.place = place

theorem mem_atPlace_iff
    (place : Int ×ₗ Int) (diagnostics : List (Diagnostic α)) (diagnostic : Diagnostic α) :
    diagnostic ∈ atPlace place diagnostics ↔
      diagnostic ∈ diagnostics ∧ diagnostic.place = place := by
  simp [atPlace]

/--
The second list holds the diagnostics of the first in the order of their places, and
those about any one place in the order that they have in the first.
-/
structure StablySorted (diagnostics sorted : List (Diagnostic α)) : Prop where
  ordered : sorted.Pairwise fun first second => first.place ≤ second.place
  stable : ∀ place, atPlace place sorted = atPlace place diagnostics

theorem atPlace_sort (place : Int ×ₗ Int) (diagnostics : List (Diagnostic α)) :
    atPlace place (sort diagnostics) = atPlace place diagnostics := by
  have tied : (atPlace place diagnostics).Pairwise fun first second =>
      notAfter first second = true := by
    apply List.pairwise_of_forall_mem_list
    intro first firstMember second secondMember
    have firstPlace := ((mem_atPlace_iff _ _ _).mp firstMember).2
    have secondPlace := ((mem_atPlace_iff _ _ _).mp secondMember).2
    rw [notAfter_iff, firstPlace, secondPlace]
  have kept : List.Sublist (atPlace place diagnostics) (sort diagnostics) :=
    List.sublist_mergeSort notAfter_trans notAfter_total tied List.filter_sublist
  have inside : List.Sublist (atPlace place diagnostics) (atPlace place (sort diagnostics)) := by
    have filtered := kept.filter fun diagnostic => diagnostic.place = place
    simpa [atPlace] using filtered
  have same : (atPlace place diagnostics).length = (atPlace place (sort diagnostics)).length :=
    ((List.mergeSort_perm diagnostics notAfter).filter _).length_eq.symm
  exact (inside.eq_of_length same).symm

theorem sort_stablySorted (diagnostics : List (Diagnostic α)) :
    StablySorted diagnostics (sort diagnostics) := by
  constructor
  · have ordered := List.pairwise_mergeSort notAfter_trans notAfter_total diagnostics
    exact ordered.imp fun before => (notAfter_iff _ _).mp before
  · intro place
    exact atPlace_sort place diagnostics

theorem mem_of_atPlace_eq
    {first second : List (Diagnostic α)}
    (same : ∀ place, atPlace place first = atPlace place second)
    {diagnostic : Diagnostic α} (member : diagnostic ∈ first) :
    diagnostic ∈ second := by
  have found : diagnostic ∈ atPlace diagnostic.place second := by
    rw [← same, mem_atPlace_iff]
    exact ⟨member, rfl⟩
  exact ((mem_atPlace_iff _ _ _).mp found).1

/-- A list in the order of places is determined by what it holds about each place. -/
theorem eq_of_atPlace_eq
    {first second : List (Diagnostic α)}
    (firstOrdered : first.Pairwise fun earlier later => earlier.place ≤ later.place)
    (secondOrdered : second.Pairwise fun earlier later => earlier.place ≤ later.place)
    (same : ∀ place, atPlace place first = atPlace place second) :
    first = second := by
  induction first generalizing second with
  | nil =>
      rcases second with _ | ⟨head, rest⟩
      · rfl
      · have missing := same head.place
        simp [atPlace] at missing
  | cons head rest hypothesis =>
      rcases second with _ | ⟨otherHead, otherRest⟩
      · have missing := same head.place
        simp [atPlace] at missing
      · rw [List.pairwise_cons] at firstOrdered secondOrdered
        -- Each head stands in the other list too, so neither place is before the other.
        have headMember : head ∈ otherHead :: otherRest :=
          mem_of_atPlace_eq same List.mem_cons_self
        have otherMember : otherHead ∈ head :: rest :=
          mem_of_atPlace_eq (fun place => (same place).symm) List.mem_cons_self
        have notLater : otherHead.place ≤ head.place := by
          rcases List.mem_cons.mp headMember with rfl | member
          · exact le_refl _
          · exact secondOrdered.1 head member
        have notEarlier : head.place ≤ otherHead.place := by
          rcases List.mem_cons.mp otherMember with rfl | member
          · exact le_refl _
          · exact firstOrdered.1 otherHead member
        have tied : otherHead.place = head.place := le_antisymm notLater notEarlier
        have sameHead : head = otherHead := by
          have firsts := same head.place
          simp only [atPlace, List.filter_cons, tied, decide_true, if_true, List.cons.injEq]
            at firsts
          exact firsts.1
        subst sameHead
        congr 1
        apply hypothesis firstOrdered.2 secondOrdered.2
        intro place
        have rests := same place
        simp only [atPlace, List.filter_cons] at rests
        by_cases here : head.place = place
        · simpa [here, atPlace] using rests
        · simpa [here, atPlace] using rests

/-- There is one way to sort diagnostics stably. -/
theorem stablySorted_iff (diagnostics sorted : List (Diagnostic α)) :
    StablySorted diagnostics sorted ↔ sorted = sort diagnostics := by
  constructor
  · intro found
    have expected := sort_stablySorted diagnostics
    apply eq_of_atPlace_eq found.ordered expected.ordered
    intro place
    rw [found.stable, expected.stable]
  · rintro rfl
    exact sort_stablySorted diagnostics

/-- Leaving diagnostics out before sorting is leaving them out afterwards. -/
theorem sort_filter (keep : Diagnostic α → Bool) (diagnostics : List (Diagnostic α)) :
    sort (diagnostics.filter keep) = (sort diagnostics).filter keep := by
  have expected := sort_stablySorted diagnostics
  symm
  rw [← stablySorted_iff]
  constructor
  · exact expected.ordered.filter keep
  · intro place
    rw [atPlace, atPlace, List.filter_comm, List.filter_comm (l := diagnostics), ← atPlace,
      ← atPlace, expected.stable]

/-- Sorting keeps diagnostics side by side that are about the same places. -/
theorem forall₂_sort
    {related : Diagnostic α → Diagnostic α → Prop}
    (samePlace : ∀ first second, related first second → first.place = second.place)
    {firsts seconds : List (Diagnostic α)} (pairs : List.Forall₂ related firsts seconds) :
    List.Forall₂ related (sort firsts) (sort seconds) := by
  let zipped := firsts.zip seconds
  have length := pairs.length_eq
  have each : ∀ pair ∈ zipped, related pair.1 pair.2 := by
    intro pair member
    exact List.forall₂_zip pairs member
  have compare : ∀ pair ∈ zipped, ∀ other ∈ zipped,
      notAfter pair.1 other.1 = notAfter pair.2 other.2 := by
    intro pair member other otherMember
    rw [Bool.eq_iff_iff, notAfter_iff, notAfter_iff, samePlace _ _ (each pair member),
      samePlace _ _ (each other otherMember)]
  -- Both lists are sorted as the list of pairs is, by the place of the first of each pair.
  have firstSorted : sort firsts =
      (zipped.mergeSort fun pair other => notAfter pair.1 other.1).map Prod.fst := by
    rw [List.map_mergeSort (s := notAfter) fun _ _ _ _ => rfl, List.map_fst_zip length.le, sort]
  have secondSorted : sort seconds =
      (zipped.mergeSort fun pair other => notAfter pair.1 other.1).map Prod.snd := by
    rw [List.map_mergeSort (s := notAfter) compare, List.map_snd_zip length.ge, sort]
  rw [firstSorted, secondSorted, List.forall₂_map_left_iff, List.forall₂_map_right_iff,
    List.forall₂_same]
  intro pair member
  exact each pair (List.mem_mergeSort.mp member)

end TypeGauge.Check.Diagnostic
