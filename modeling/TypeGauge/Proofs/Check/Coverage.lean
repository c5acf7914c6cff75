import TypeGauge.Proofs.Check.Specification
import TypeGauge.Proofs.Check.Tours
import Mathlib.Data.List.Infix
import Mathlib.Data.List.Lex

/-!
# Walks meet every node once

A position in a document is the way to it from the root: the places of the fields that
are entered, and the places in their lists.  `Stands` says which value stands at a
position that a walk can reach, step by step.  `places` enumerates these positions, and
lexicographic order of positions is the order of the document, with every node before
the nodes inside it.

A tour visits the values of `places` as far as there is room.  A pass that reads the
declarations does something of its own with three sorts of nodes, and all the same it
receives the nodes of the tour, each of them once, unless reading one of them fails.
-/

namespace TypeGauge.Check

open TypeGauge.Data TypeGauge.Syntax

variable {α σ : Type}

/-! ## Positions -/

/-- A way from a node into one of its fields, and into one item where that is a list. -/
structure Step where
  field : Nat
  item : Option Nat
deriving DecidableEq, Repr

abbrev Position := List Step

/-- Fields come in the order of the document, and so do the items of a list. -/
def Step.Before (first second : Step) : Prop :=
  first.field < second.field ∨ first.field = second.field ∧ first.item < second.item

/-- The order of the document, in which a node comes before the nodes inside it. -/
def Position.Before : Position → Position → Prop :=
  List.Lex Step.Before

/-- A step leads from a node to a node directly inside it. -/
inductive Leads (node : Value) : Step → Value → Prop
  | field {fields : List (String × Value)} {index : Nat} {key : String} {child : Value}
      (isNode : node = .object fields) (entry : fields[index]? = some (key, child))
      (kept : key ∉ skippedKeys) (isObject : child.isObject = true)
      (typed : child.hasField "type" = true) : Leads node ⟨index, none⟩ child
  | item {fields : List (String × Value)} {index place : Nat} {key : String}
      {items : List Value} {child : Value}
      (isNode : node = .object fields) (entry : fields[index]? = some (key, .list items))
      (kept : key ∉ skippedKeys) (found : items[place]? = some child)
      (isObject : child.isObject = true) (typed : child.hasField "type" = true) :
      Leads node ⟨index, some place⟩ child

/-- The value stands at a position that is reached from the root by steps. -/
inductive Stands : Value → Position → Value → Prop
  | here {root : Value} : Stands root [] root
  | step {root child value : Value} {first : Step} {position : Position}
      (leads : Leads root first child) (inner : Stands child position value) :
      Stands root (first :: position) value

/-! ## The nodes directly inside a node, with the steps to them -/

def stepsInto (index : Nat) (value : Value) : List (Step × Value) :=
  match value with
  | .list items =>
      (items.zipIdx.filter fun item => isTyped item.1).map fun item =>
        (⟨index, some item.2⟩, item.1)
  | other => if isTyped other then [(⟨index, none⟩, other)] else []

def childSteps (node : Value) : List (Step × Value) :=
  match node with
  | .object fields =>
      fields.zipIdx.flatMap fun entry =>
        if skippedKeys.contains entry.1.1 then [] else stepsInto entry.2 entry.1.2
  | _ => []

theorem stepsInto_map_snd (index : Nat) (value : Value) :
    (stepsInto index value).map Prod.snd = nodesInside value := by
  cases value with
  | list items =>
      have typed : (fun item : Value × Nat => isTyped item.1) = isTyped ∘ Prod.fst := rfl
      simp only [stepsInto, nodesInside, List.map_map, typed]
      calc
        (items.zipIdx.filter (isTyped ∘ Prod.fst)).map Prod.fst
            = (items.zipIdx.map Prod.fst).filter isTyped := by rw [List.filter_map]
        _ = items.filter isTyped := by rw [List.zipIdx_map_fst]
  | _ =>
      simp only [stepsInto, nodesInside]
      split <;> rfl

theorem childSteps_map_snd (node : Value) : (childSteps node).map Prod.snd = childNodes node := by
  cases node with
  | object fields =>
      simp only [childSteps, childNodes, List.map_flatMap]
      conv_rhs => rw [← List.zipIdx_map_fst 0 fields, List.flatMap_map]
      congr 1
      funext entry
      split
      · rfl
      · exact stepsInto_map_snd _ _
  | _ => rfl

theorem mem_stepsInto_iff {index : Nat} {value child : Value} {step : Step} :
    (step, child) ∈ stepsInto index value ↔
      (step = ⟨index, none⟩ ∧ value = child ∧ isTyped child = true) ∨
        ∃ items place, step = ⟨index, some place⟩ ∧ value = .list items ∧
          items[place]? = some child ∧ isTyped child = true := by
  cases value with
  | list items =>
      simp only [stepsInto, List.mem_map, List.mem_filter, Prod.mk.injEq]
      constructor
      · rintro ⟨⟨item, place⟩, ⟨found, typed⟩, rfl, rfl⟩
        exact .inr ⟨items, place, rfl, rfl, List.mem_zipIdx_iff_getElem?.mp found, typed⟩
      · rintro (⟨_, rfl, typed⟩ | ⟨_, place, rfl, same, found, typed⟩)
        · cases typed
        · cases same
          exact ⟨(child, place), ⟨List.mem_zipIdx_iff_getElem?.mpr found, typed⟩, rfl, rfl⟩
  | _ =>
      simp only [stepsInto]
      split <;> grind

theorem mem_childSteps_iff {node child : Value} {step : Step} :
    (step, child) ∈ childSteps node ↔ Leads node step child := by
  constructor
  · intro member
    cases node with
    | object fields =>
        simp only [childSteps, List.mem_flatMap] at member
        rcases member with ⟨⟨⟨key, value⟩, index⟩, entry, member⟩
        rw [List.mem_zipIdx_iff_getElem?] at entry
        split at member
        · cases member
        · rename_i passed
          have kept : key ∉ skippedKeys := by simpa using passed
          rcases mem_stepsInto_iff.mp member with
            ⟨rfl, rfl, typed⟩ | ⟨items, place, rfl, rfl, found, typed⟩
          · rw [isTyped, Bool.and_eq_true] at typed
            exact .field rfl entry kept typed.1 typed.2
          · rw [isTyped, Bool.and_eq_true] at typed
            exact .item rfl entry kept found typed.1 typed.2
    | _ => cases member
  · intro leads
    cases leads with
    | @field fields index key _ isNode entry kept isObject typed =>
        subst isNode
        rw [childSteps, List.mem_flatMap]
        refine ⟨((key, child), index), List.mem_zipIdx_iff_getElem?.mpr entry, ?_⟩
        rw [if_neg (by simpa using kept), mem_stepsInto_iff]
        exact .inl ⟨rfl, rfl, by simp [isTyped, isObject, typed]⟩
    | @item fields index place key items _ isNode entry kept found isObject typed =>
        subst isNode
        rw [childSteps, List.mem_flatMap]
        refine ⟨((key, .list items), index), List.mem_zipIdx_iff_getElem?.mpr entry, ?_⟩
        rw [if_neg (by simpa using kept), mem_stepsInto_iff]
        exact .inr ⟨_, _, rfl, rfl, found, by simp [isTyped, isObject, typed]⟩

theorem stepsInto_pairwise (index : Nat) (value : Value) :
    ((stepsInto index value).map Prod.fst).Pairwise Step.Before := by
  cases value with
  | list items =>
      simp only [stepsInto, List.map_map, List.pairwise_map]
      apply List.Pairwise.filter
      -- The items are numbered in their order.
      have numbered : (items.zipIdx.map Prod.snd).Pairwise (· < ·) := by
        rw [List.zipIdx_map_snd]
        exact List.pairwise_lt_range'
      refine (List.pairwise_map.mp numbered).imp ?_
      intro first second earlier
      exact .inr ⟨rfl, earlier⟩
  | _ =>
      simp only [stepsInto]
      split <;> simp

/-- The steps to the nodes directly inside a node come in the order of the document. -/
theorem childSteps_pairwise (node : Value) :
    ((childSteps node).map Prod.fst).Pairwise Step.Before := by
  cases node with
  | object fields =>
      rw [childSteps, List.map_flatMap, List.pairwise_flatMap]
      constructor
      · intro entry _
        split
        · exact .nil
        · exact stepsInto_pairwise _ _
      · have numbered : (fields.zipIdx.map Prod.snd).Pairwise (· < ·) := by
          rw [List.zipIdx_map_snd]
          exact List.pairwise_lt_range'
        refine (List.pairwise_map.mp numbered).imp ?_
        intro first second earlier step member other otherMember
        have entered : ∀ {entry : (String × Value) × Nat} {step : Step},
            step ∈ (if skippedKeys.contains entry.1.1 then []
              else stepsInto entry.2 entry.1.2).map Prod.fst → step.field = entry.2 := by
          intro entry step member
          split at member
          · cases member
          · rcases List.mem_map.mp member with ⟨⟨found, child⟩, inside, rfl⟩
            rcases mem_stepsInto_iff.mp inside with ⟨rfl, _⟩ | ⟨_, _, rfl, _⟩
            · rfl
            · rfl
        left
        rw [entered member, entered otherMember]
        exact earlier
  | _ => exact .nil

/-! ## All positions -/

/-- The positions at most `room` levels deep with their values, in the order of the document. -/
def placesWithin : (room : Nat) → Value → List (Position × Value)
  | 0, _ => []
  | room + 1, node =>
      ([], node) :: (childSteps node).flatMap fun entry =>
        (placesWithin room entry.2).map fun place => (entry.1 :: place.1, place.2)

/-- All positions with their values; below the nesting of a value there are no more nodes. -/
def places (root : Value) : List (Position × Value) :=
  placesWithin (root.nesting + 1) root

theorem mem_placesWithin_iff {room : Nat} {root value : Value} {position : Position} :
    (position, value) ∈ placesWithin room root ↔
      Stands root position value ∧ position.length < room := by
  induction room generalizing root position with
  | zero => simp [placesWithin]
  | succ room hypothesis =>
      rw [placesWithin, List.mem_cons, List.mem_flatMap]
      constructor
      · rintro (same | ⟨⟨step, child⟩, member, below⟩)
        · cases same
          exact ⟨.here, Nat.succ_pos room⟩
        · rcases List.mem_map.mp below with ⟨⟨inner, found⟩, innerMember, same⟩
          cases same
          rcases hypothesis.mp innerMember with ⟨stands, short⟩
          exact ⟨.step (mem_childSteps_iff.mp member) stands, Nat.succ_lt_succ short⟩
      · rintro ⟨stands, short⟩
        cases stands with
        | here => exact .inl rfl
        | @step _ child _ first inner leads stands =>
            right
            refine ⟨(first, child), mem_childSteps_iff.mpr leads, ?_⟩
            exact List.mem_map_of_mem (hypothesis.mpr ⟨stands, Nat.lt_of_succ_lt_succ short⟩)

theorem placesWithin_pairwise (room : Nat) (root : Value) :
    ((placesWithin room root).map Prod.fst).Pairwise Position.Before := by
  induction room generalizing root with
  | zero => exact .nil
  | succ room hypothesis =>
      rw [placesWithin, List.map_cons, List.map_flatMap, List.pairwise_cons,
        List.pairwise_flatMap]
      refine ⟨?_, ?_, ?_⟩
      · intro position member
        rcases List.mem_flatMap.mp member with ⟨⟨step, child⟩, _, below⟩
        simp only [List.map_map, List.mem_map] at below
        rcases below with ⟨place, _, rfl⟩
        exact .nil
      · rintro ⟨step, child⟩ _
        rw [List.map_map, List.pairwise_map]
        refine (List.pairwise_map.mp (hypothesis child)).imp ?_
        intro first second earlier
        exact .cons earlier
      · refine (List.pairwise_map.mp (childSteps_pairwise root)).imp ?_
        intro first second earlier position member other otherMember
        simp only [List.map_map, List.mem_map] at member otherMember
        rcases member with ⟨place, _, rfl⟩
        rcases otherMember with ⟨otherPlace, _, rfl⟩
        exact .rel earlier

theorem Leads.holds {node child : Value} {step : Step} (leads : Leads node step child) :
    node.Holds child := by
  have member := List.mem_map_of_mem (f := Prod.snd) (mem_childSteps_iff.mpr leads)
  rw [childSteps_map_snd] at member
  exact (holds_of_mem_childNodes member).2

/-- A position is no longer than the nesting of its root. -/
theorem Stands.length_le {root value : Value} {position : Position}
    (stands : Stands root position value) : position.length ≤ root.nesting := by
  induction stands with
  | here => exact Nat.zero_le _
  | step leads _ hypothesis =>
      have shallower := leads.holds.nesting_lt
      rw [List.length_cons]
      omega

theorem mem_places_iff {root value : Value} {position : Position} :
    (position, value) ∈ places root ↔ Stands root position value := by
  rw [places, mem_placesWithin_iff]
  constructor
  · rintro ⟨stands, _⟩
    exact stands
  · intro stands
    exact ⟨stands, Nat.lt_succ_of_le stands.length_le⟩

/-! ## Tours -/

/-- A tour that comes to its end visits the values of all positions within its room. -/
theorem visited_eq_placesWithin {room : Nat} {root : Value}
    (complete : (tourWithin room root).isComplete = true) :
    (tourWithin room root).visited = (placesWithin room root).map Prod.snd := by
  induction room generalizing root with
  | zero => cases complete
  | succ room hypothesis =>
      have each := tourAll_isComplete_iff.mp complete
      have inside : (tourWithin (room + 1) root).visited =
          root :: (tourAll (tourWithin room) (childNodes root)).visited := rfl
      rw [inside, visited_tourAll complete, placesWithin, List.map_cons, List.map_flatMap,
        ← childSteps_map_snd, List.flatMap_map, List.cons_inj_right]
      apply List.flatMap_congr
      intro entry member
      have childComplete := each entry.2
        (childSteps_map_snd root ▸ List.mem_map_of_mem member)
      rw [hypothesis childComplete, List.map_map]
      rfl

/-- A tour comes to its end exactly when no position is out of its room. -/
theorem isComplete_iff {room : Nat} {root : Value} :
    (tourWithin room root).isComplete = true ↔
      ∀ position value, Stands root position value → position.length < room := by
  induction room generalizing root with
  | zero =>
      constructor
      · intro complete
        cases complete
      · intro short
        exact absurd (short [] root .here) (Nat.lt_irrefl 0)
  | succ room hypothesis =>
      have inside : (tourWithin (room + 1) root).isComplete =
          (tourAll (tourWithin room) (childNodes root)).isComplete := rfl
      rw [inside, tourAll_isComplete_iff, ← childSteps_map_snd, List.forall_mem_map]
      constructor
      · intro each position value stands
        cases stands with
        | here => exact Nat.succ_pos room
        | step leads inner =>
            have short := hypothesis.mp (each _ (mem_childSteps_iff.mpr leads)) _ _ inner
            exact Nat.succ_lt_succ short
      · rintro short ⟨step, child⟩ member
        rw [hypothesis]
        intro position value stands
        have below := short _ _ (.step (mem_childSteps_iff.mp member) stands)
        exact Nat.lt_of_succ_lt_succ below

theorem tourAll_isPrefix {first second : Value → Tour}
    (single : ∀ node, (first node).visited <+: (second node).visited)
    (same : ∀ node, (first node).isComplete = true → second node = first node)
    (nodes : List Value) :
    (tourAll first nodes).visited <+: (tourAll second nodes).visited := by
  induction nodes with
  | nil => exact List.prefix_rfl
  | cons node rest hypothesis =>
      rw [tourAll, tourAll, Tour.andThen, Tour.andThen]
      by_cases complete : (first node).isComplete = true
      · simp only [same node complete, complete, if_true]
        exact List.prefix_append_right_inj _ |>.mpr hypothesis
      · rw [if_neg complete]
        split
        · exact (single node).trans (List.prefix_append _ _)
        · exact single node

theorem tourAll_congr {first second : Value → Tour} {nodes : List Value}
    (same : ∀ node ∈ nodes, first node = second node) :
    tourAll first nodes = tourAll second nodes := by
  induction nodes with
  | nil => rfl
  | cons node rest hypothesis =>
      rw [List.forall_mem_cons] at same
      rw [tourAll, tourAll, same.1, hypothesis same.2]

/-- A tour with less room ends earlier, or is the same if it comes to its end. -/
theorem tourWithin_isPrefix {room larger : Nat} (roomier : room ≤ larger) (root : Value) :
    (tourWithin room root).visited <+: (tourWithin larger root).visited ∧
      ((tourWithin room root).isComplete = true →
        tourWithin larger root = tourWithin room root) := by
  induction room generalizing larger root with
  | zero =>
      constructor
      · exact List.nil_prefix
      · intro complete
        cases complete
  | succ room hypothesis =>
      obtain ⟨larger, rfl⟩ : ∃ below, larger = below + 1 := ⟨larger - 1, by omega⟩
      have inner := fun node => hypothesis (Nat.le_of_succ_le_succ roomier) node
      constructor
      · exact List.cons_prefix_cons.mpr
          ⟨rfl, tourAll_isPrefix (fun node => (inner node).1) (fun node => (inner node).2) _⟩
      · intro complete
        have each := tourAll_isComplete_iff.mp complete
        have same : tourAll (tourWithin larger) (childNodes root) =
            tourAll (tourWithin room) (childNodes root) := by
          apply tourAll_congr
          intro node member
          exact (inner node).2 (each node member)
        rw [tourWithin, tourWithin, same]

/-- With room for the nesting of its root a tour visits the values of all positions. -/
theorem tourWithin_nesting (root : Value) :
    tourWithin (root.nesting + 1) root = ⟨(places root).map Prod.snd, true⟩ := by
  have complete : (tourWithin (root.nesting + 1) root).isComplete = true := by
    rw [isComplete_iff]
    intro position value stands
    exact Nat.lt_succ_of_le stands.length_le
  rw [places, ← visited_eq_placesWithin complete, ← complete]

/-- Whatever its room, a tour visits the values of all positions in order until it ends. -/
theorem visited_isPrefix_places (room : Nat) (root : Value) :
    (tourWithin room root).visited <+: (places root).map Prod.snd := by
  have whole := tourWithin_nesting root
  rcases Nat.le_total room (root.nesting + 1) with less | more
  · have ends := (tourWithin_isPrefix less root).1
    rwa [whole] at ends
  · have same := (tourWithin_isPrefix more root).2 (by rw [whole])
    rw [same, whole]

theorem visited_eq_places {room : Nat} {root : Value}
    (complete : (tourWithin room root).isComplete = true) :
    (tourWithin room root).visited = (places root).map Prod.snd := by
  have whole := tourWithin_nesting root
  rcases Nat.le_total room (root.nesting + 1) with less | more
  · rw [← (tourWithin_isPrefix less root).2 complete, whole]
  · rw [(tourWithin_isPrefix more root).2 (by rw [whole]), whole]

/-! ## What a visitor receives -/

/-- A computation beside which the nodes are recorded that a visitor receives. -/
abbrev RecordedM (σ : Type) : Type → Type :=
  ExceptT Fault (StateM (σ × List Value))

namespace RecordedM

def note (node : Value) : RecordedM σ Unit :=
  modify fun state => (state.1, state.2 ++ [node])

/-- A computation that records nothing. -/
def silent {β : Type} (computation : ExceptT Fault (StateM σ) β) : RecordedM σ β := do
  let state ← get
  set ((outcome computation state.1).2, state.2)
  (outcome computation state.1).1

instance : MonadLift (ExceptT Fault (StateM σ)) (RecordedM σ) where
  monadLift := silent

theorem outcome_silent {β : Type} (computation : ExceptT Fault (StateM σ) β)
    (state : σ × List Value) :
    outcome (silent computation) state =
      ((outcome computation state.1).1, ((outcome computation state.1).2, state.2)) := by
  simp only [silent, outcome_bind, outcome_get, outcome_set, outcome_liftM]

instance : LawfulMonadLift (ExceptT Fault (StateM σ)) (RecordedM σ) where
  monadLift_pure value := by
    funext state
    exact outcome_silent (pure value) state
  monadLift_bind first next := by
    funext state
    change outcome (silent (first >>= next)) state =
      outcome (silent first >>= fun value => silent (next value)) state
    rw [outcome_silent, outcome_bind, outcome_bind, outcome_silent]
    rcases outcome first state.1 with ⟨result, after⟩
    cases result with
    | error fault => rfl
    | ok value => exact (outcome_silent (next value) (after, state.2)).symm

/--
Reading nodes in turn runs the same with a record of the received nodes.  The record is
an initial part of the nodes, and all of them if each can be read.
-/
theorem outcome_visitEach_note
    (read : Value → ExceptT Fault (StateM σ) Unit) (nodes : List Value)
    (state : σ) (seen : List Value) :
    ∃ received, received <+: nodes ∧
      outcome (Visitor.visitEach (fun node => do note node; silent (read node)) nodes)
          (state, seen) =
        ((outcome (Visitor.visitEach read nodes) state).1,
          ((outcome (Visitor.visitEach read nodes) state).2, seen ++ received)) ∧
      ((outcome (Visitor.visitEach read nodes) state).1 = .ok () → received = nodes) := by
  induction nodes generalizing state seen with
  | nil => exact ⟨[], List.prefix_rfl, by simp [Visitor.visitEach], fun _ => rfl⟩
  | cons node rest hypothesis =>
      simp only [Visitor.visitEach, outcome_bind, note, outcome_modify, outcome_silent]
      rcases outcome (read node) state with ⟨result, after⟩
      cases result with
      | error fault =>
          refine ⟨[node], List.cons_prefix_cons.mpr ⟨rfl, List.nil_prefix⟩, rfl, ?_⟩
          intro ended
          cases ended
      | ok _ =>
          rcases hypothesis after (seen ++ [node]) with ⟨received, isPrefix, ran, all⟩
          refine ⟨node :: received, List.cons_prefix_cons.mpr ⟨rfl, isPrefix⟩, ?_, ?_⟩
          · have joined : seen ++ node :: received = seen ++ [node] ++ received :=
              List.append_cons seen node received
            rw [joined]
            exact ran
          · intro ended
            rw [all ended]

/-- Reading the nodes of a tour, as far as the tour comes. -/
def readTour (read : Value → ExceptT Fault (StateM σ) Unit) (found : Tour) :
    ExceptT Fault (StateM σ) Unit := do
  Visitor.visitEach read found.visited
  if found.isComplete then return () else throw .tooDeep

/-- Following a tour runs the same with a record of the received nodes. -/
theorem outcome_follow
    (visitor : Visitor (RecordedM σ)) (receives : visitor.receive = note)
    (refuses : visitor.refuse = throw .tooDeep)
    (read : Value → ExceptT Fault (StateM σ) Unit) (found : Tour) (state : σ) :
    ∃ received, received <+: found.visited ∧
      outcome (visitor.follow (fun node => silent (read node)) found) (state, []) =
        ((outcome (readTour read found) state).1,
          ((outcome (readTour read found) state).2, received)) ∧
      ((outcome (Visitor.visitEach read found.visited) state).1 = .ok () →
        received = found.visited) := by
  rcases outcome_visitEach_note read found.visited state [] with ⟨received, isPrefix, ran, all⟩
  refine ⟨received, isPrefix, ?_, all⟩
  rw [Visitor.follow, receives, refuses, outcome_bind, ran, readTour, outcome_bind]
  rcases outcome (Visitor.visitEach read found.visited) state with ⟨answer, between⟩
  cases answer with
  | error fault => rfl
  | ok _ =>
      cases found.isComplete with
      | true => rfl
      | false => rfl

/-- A visitor that records the nodes that it receives and only goes on. -/
def plainVisitor : Visitor (RecordedM σ) where
  receive := note
  handle inside := inside
  refuse := throw .tooDeep

theorem visitEach_pure (nodes : List Value) :
    Visitor.visitEach (fun _ => (pure () : ExceptT Fault (StateM σ) Unit)) nodes = pure () := by
  induction nodes with
  | nil => rfl
  | cons node rest hypothesis => exact hypothesis

theorem outcome_plainVisitor (room : Nat) (root : Value) (state : σ) :
    outcome (plainVisitor.visitWithin room root) (state, []) =
      (if (tourWithin room root).isComplete then .ok () else .error .tooDeep,
        (state, (tourWithin room root).visited)) := by
  have goesOn : ∀ inside node, plainVisitor.handle inside node =
      (do silent (pure () : ExceptT Fault (StateM σ) Unit); inside node) :=
    fun _ _ => rfl
  rw [Visitor.visitWithin_eq plainVisitor _ goesOn fun _ => rfl]
  rcases outcome_follow plainVisitor rfl rfl (fun _ => pure ())
    (tourWithin room root) state with ⟨received, _, ran, all⟩
  rw [visitEach_pure] at all
  rw [ran, readTour, visitEach_pure, all rfl]
  cases (tourWithin room root).isComplete with
  | true => rfl
  | false => rfl

end RecordedM

/-- The walk of a pass with a record of the nodes that it receives. -/
def Pass.recordedWalk (pass : Pass α) (room : Nat) (program : Value) :
    RecordedM (PassState α) Unit :=
  (pass.visitor RecordedM.note).visitWithin room program

theorem Pass.outcome_recordedWalk
    (pass : Pass α) (room : Nat) (root : Value) (state : PassState α) :
    ∃ received, received <+: (tourWithin room root).visited ∧
      outcome (pass.recordedWalk room root) (state, []) =
        ((outcome (pass.walkWithin room root) state).1,
          ((outcome (pass.walkWithin room root) state).2, received)) ∧
      ((outcome (pass.visitAll (tourWithin room root).visited) state).1 = .ok () →
        received = (tourWithin room root).visited) := by
  rw [recordedWalk, Visitor.visitWithin_eq _ _ (fun _ _ => pass.handle_eq _ _) fun _ => rfl,
    walkWithin_eq]
  exact RecordedM.outcome_follow (pass.visitor RecordedM.note) rfl rfl pass.visit
    (tourWithin room root) state

/--
The positions that a walk can reach come in the order of the document, each once.  A
plain visitor receives their values in that order, and all of them unless some position
is out of its room.  The visitor of a pass receives what a plain visitor receives, as
long as the nodes can be read; the record changes nothing about the pass.
-/
theorem walk_meets_every_position_once (pass : Pass α) (root : Value) :
    ((places root).map Prod.fst).Pairwise Position.Before ∧
      (∀ position value, (position, value) ∈ places root ↔ Stands root position value) ∧
      ∀ (room : Nat) (state : PassState α),
        outcome (RecordedM.plainVisitor.visitWithin room root) (state, []) =
            (if ∀ place ∈ places root, place.1.length < room then .ok () else .error .tooDeep,
              (state, (tourWithin room root).visited)) ∧
          (tourWithin room root).visited <+: (places root).map Prod.snd ∧
          ((∀ place ∈ places root, place.1.length < room) →
            (tourWithin room root).visited = (places root).map Prod.snd) ∧
          ∃ received : List Value,
            outcome (pass.recordedWalk room root) (state, []) =
                ((outcome (pass.walkWithin room root) state).1,
                  ((outcome (pass.walkWithin room root) state).2, received)) ∧
              received <+: (tourWithin room root).visited ∧
              ((outcome (pass.visitAll (tourWithin room root).visited) state).1 = .ok () →
                received = (tourWithin room root).visited) := by
  refine ⟨placesWithin_pairwise _ root, fun _ _ => mem_places_iff, ?_⟩
  intro room state
  have complete : (tourWithin room root).isComplete = true ↔
      ∀ place ∈ places root, place.1.length < room := by
    rw [isComplete_iff]
    constructor
    · rintro short ⟨position, value⟩ member
      exact short position value (mem_places_iff.mp member)
    · intro short position value stands
      exact short (position, value) (mem_places_iff.mpr stands)
  rcases pass.outcome_recordedWalk room root state with ⟨received, isPrefix, recorded, all⟩
  refine ⟨?_, visited_isPrefix_places room root, ?_, received, recorded, isPrefix, all⟩
  · rw [RecordedM.outcome_plainVisitor]
    simp only [complete]
  · intro short
    exact visited_eq_places (complete.mpr short)

/-- A program with an interface in whose body an alias re-exposes a validator. -/
def nestedAlias : Value :=
  .object
    [("type", .text "Program"), ("loc", staticNode "hidden"),
      ("body", .list
        [.object
          [("type", .text "TSInterfaceDeclaration"),
            ("body", .object
              [("type", .text "TSInterfaceBody"),
                ("body", .list [.null, staticNode "user"])])]])]

/-- The alias inside the interface is met where it stands, and the one at a location is not. -/
theorem nestedAlias_is_met :
    Stands nestedAlias [⟨2, some 0⟩, ⟨1, none⟩, ⟨1, some 1⟩] (staticNode "user") ∧
      ¬ Stands nestedAlias [⟨1, none⟩] (staticNode "hidden") ∧
      ∃ after, outcome
          ((⟨wholeNumbers, .standard wholeNumbers, ⟨.relative, []⟩⟩ : Pass Nat).recordedWalk
            Nesting.nodeRoom nestedAlias) (.start 1, []) =
        (.ok (), (after, (places nestedAlias).map Prod.snd)) := by
  rcases walk_meets_every_position_once
    (⟨wholeNumbers, .standard wholeNumbers, ⟨.relative, []⟩⟩ : Pass Nat) nestedAlias with
    ⟨_, stands, walks⟩
  rcases walks Nesting.nodeRoom (.start 1) with ⟨_, _, whole, received, recorded, _, all⟩
  have met : Stands nestedAlias [⟨2, some 0⟩, ⟨1, none⟩, ⟨1, some 1⟩] (staticNode "user") := by
    rw [← stands]
    exact List.mem_of_getElem? (i := 3) rfl
  refine ⟨met, ?_, ?_⟩
  · intro hidden
    have member := (stands _ _).mpr hidden
    have positions := List.mem_map_of_mem (f := Prod.fst) member
    revert positions
    decide +kernel
  · have read : (outcome ((⟨wholeNumbers, .standard wholeNumbers, ⟨.relative, []⟩⟩ :
        Pass Nat).visitAll (tourWithin Nesting.nodeRoom nestedAlias).visited)
          (.start 1)).1.toBool = true := by
      decide +kernel
    have ended : (outcome ((⟨wholeNumbers, .standard wholeNumbers, ⟨.relative, []⟩⟩ :
        Pass Nat).walkWithin Nesting.nodeRoom nestedAlias) (.start 1)).1.toBool = true := by
      decide +kernel
    rcases exists_answer_of_toBool read with ⟨_, _, readAll⟩
    rcases exists_answer_of_toBool ended with ⟨_, after, walked⟩
    refine ⟨after, ?_⟩
    rw [recorded, walked, all (by rw [readAll]), whole (by decide +kernel)]

end TypeGauge.Check
