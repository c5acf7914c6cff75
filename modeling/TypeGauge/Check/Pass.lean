import TypeGauge.Check.Decision
import TypeGauge.Check.Diagnostic
import TypeGauge.Check.Exemption
import TypeGauge.Check.StaticOf
import TypeGauge.Check.Tour
import TypeGauge.Check.Validator
import TypeGauge.Setup.Settings
import TypeGauge.Score.Scorer
import TypeGauge.Types.Build

/-!
# Passes

A pass reads the declarations of one file in the order of a walk.  Type aliases and
interfaces are scored and reported on the way; aliases that re-expose a validator
are registered, and reports on validators are put off.  After the walk the register
is closed, the reports on validators that are not exempt are made, and all reports
are sorted by place.

A pass that stops at a fault keeps what it had found until then.
-/

namespace TypeGauge.Check

open TypeGauge.Data TypeGauge.Files TypeGauge.Setup TypeGauge.Score TypeGauge.Syntax
open TypeGauge.Types

/-- The sorts of declarations that are scored. -/
inductive DeclarationKind where
  | interface
  | typeAlias
  | validator
deriving DecidableEq, Repr, Inhabited

/-- The word for a sort of declarations. -/
def DeclarationKind.label : DeclarationKind → String
  | .interface => "interface"
  | .typeAlias => "type"
  | .validator => "validator"

/-- A declaration and its score. -/
structure ScoredDeclaration (α : Type) where
  kind : DeclarationKind
  name : Value
  score : α
  source : Option Position
deriving Inhabited

/-- What a pass has found. -/
structure PassState (α : Type) where
  /-- The next identity of a node of a type tree. -/
  supply : Nat
  cache : ScoreCache Nat α
  register : Register
  queue : DeferredQueue α
  diagnostics : List (Diagnostic α)
  /-- The scored declarations in the order of the walk. -/
  scored : List (ScoredDeclaration α)
deriving Inhabited

/-- The state of a pass that has found nothing and hands out identities from the given one on. -/
def PassState.start {α : Type} (supply : Nat) : PassState α where
  supply := supply
  cache := .empty
  register := .empty
  queue := .empty
  diagnostics := []
  scored := []

/-- A pass updates its state and may fail; the state is kept either way. -/
abbrev PassM (α β : Type) : Type :=
  ExceptT Fault (StateM (PassState α)) β

/-- What a pass is made with. -/
structure Pass (α : Type) where
  arithmetic : Arithmetic α
  settings : Settings α
  /-- The file that reports name. -/
  file : Path

namespace Pass

variable {α : Type}

/-- The policy of a pass. -/
def policy (pass : Pass α) : Policy α :=
  pass.settings.policy

/-- What a pass scores with. -/
def scorer (pass : Pass α) : Scorer α :=
  ⟨pass.arithmetic, pass.settings.policy⟩

/-- Build a type tree with identities from the pass's supply. -/
def buildTree (node : Value) : PassM α TypeTree := do
  let state ← get
  let (result, supply) := (build node).run state.supply
  set { state with supply := supply }
  result

/-- Score a type tree with the pass's cache. -/
def scoreTree (pass : Pass α) (tree : TypeTree) : PassM α α := do
  let state ← get
  let (result, cache) :=
    (pass.scorer.score tree.toGraph tree.identity pass.policy.entryDepth).run state.cache
  set { state with cache := cache }
  result

/-- Build and score the type expression of a node at the entry depth. -/
def scoreNode (pass : Pass α) (node : Value) : PassM α α := do
  let tree ← buildTree node
  pass.scoreTree tree

/-- Record a scored declaration. -/
def record (kind : DeclarationKind) (name : Value) (score : α) (node : Value) : PassM α Unit := do
  let source ← positionOf node
  modify fun state => { state with scored := state.scored ++ [⟨kind, name, score, source⟩] }

/-- The type that findings ask for. -/
def checkType (pass : Pass α) : String :=
  pass.settings.validatorNamespace ++ ".Check<T>"

/-- The diagnostic of a finding at a place. -/
def diagnostic (pass : Pass α) (type : DiagnosticType) (message : String) (score : α)
    (name : Value) (source : Option Position) : Diagnostic α :=
  let place := source.getD .start
  { type := type
    file := pass.file
    line := place.line
    column := place.column
    message := message
    severity := .ofScore pass.arithmetic pass.policy score
    score := some score
    name := name }

/-- The diagnostic that a decision calls for, if any. -/
def diagnosticOf (pass : Pass α) (decision : Decision α) (source : Option Position) :
    Except Fault (Option (Diagnostic α)) :=
  match decision with
  | .noReport => .ok none
  | .missingCheck score =>
      match pass.arithmetic.show? score with
      | none => .error .unshowableScore
      | some shown =>
          let message := "Complex type (score: " ++ shown ++ ") requires " ++ pass.checkType ++
            " annotation for type safety"
          .ok (some (pass.diagnostic .missingCheck message score .null source))
  | .complexInterface name score =>
      let message := "Interface '" ++ name.shown ++ "' requires " ++ pass.checkType ++
        " annotation (interfaces always need explicit checking)"
      .ok (some (pass.diagnostic .complexInterface message score name source))

/-- Report what a decision calls for. -/
def report (pass : Pass α) (decision : Decision α) (source : Option Position) : PassM α Unit := do
  match ← pass.diagnosticOf decision source with
  | none => return ()
  | some found =>
      modify fun state => { state with diagnostics := state.diagnostics ++ [found] }

/-- Read a type alias. -/
def visitAlias (pass : Pass α) (node : Value) : PassM α Unit := do
  let aliased := node.field "typeAnnotation"
  let target ← reexposed aliased (some pass.settings.staticMarker)
  if !target.isNull then
    let register ← (← get).register.add target
    modify fun state => { state with register := register }
  if aliased.isObject then
    let score ← pass.scoreNode aliased
    record .typeAlias (nameUnder node "id") score node
    let decision := Decision.ofAlias pass.arithmetic pass.policy score (!target.isNull)
    pass.report decision (← positionOf node)

/-- Read an interface. -/
def visitInterface (pass : Pass α) (node : Value) : PassM α Unit := do
  let name := nameUnder node "id"
  let score ← pass.scoreNode node
  record .interface name score node
  pass.report (.ofInterface pass.arithmetic pass.policy name score) (← positionOf node)

/-- Read a declared variable whose validator has no explicit check. -/
def visitUnchecked (pass : Pass α) (node initial : Value) : PassM α Unit := do
  let name ← declaredName node
  let score ← validatorScore pass.arithmetic initial
  record .validator name score node
  if (Decision.ofValidator pass.arithmetic pass.policy score).isReport then
    let source ← positionOf node
    modify fun state => { state with queue := state.queue.defer ⟨name, score, source⟩ }

/-- Read a declared variable. -/
def visitDeclarator (pass : Pass α) (node : Value) : PassM α Unit := do
  let initial := node.field "init"
  if isValidatorCall initial (some pass.settings.validatorNamespace) then
    let isChecked ← hasExplicitCheck node
    if !isChecked then pass.visitUnchecked node initial

section Walk

variable {m : Type → Type} [Monad m] [MonadLiftT (PassM α) m]

/-- Read a node of a walk and go on to the nodes inside it. -/
def handle (pass : Pass α) (inside : Value → m Unit) (node : Value) : m Unit := do
  let declared := typeOf node
  if declared.isText "TSTypeAliasDeclaration" then
    pass.visitAlias node
    inside node
  else if declared.isText "TSInterfaceDeclaration" then
    pass.visitInterface node
    inside node
  else if declared.isText "VariableDeclarator" then
    pass.visitDeclarator node
    inside node
  else inside node

/-- The visitor that reads the declarations of a program. -/
def visitor (pass : Pass α) (receive : Value → m Unit) : Visitor m where
  receive := receive
  handle := pass.handle
  refuse := liftM (throw .tooDeep : PassM α Unit)

end Walk

/-- Read the nodes of a program, at most `room` levels deep. -/
def walkWithin (pass : Pass α) (room : Nat) (program : Value) : PassM α Unit :=
  (pass.visitor fun _ => return ()).visitWithin room program

/-- Read all nodes of a program. -/
def walk (pass : Pass α) (program : Value) : PassM α Unit := do
  requireObject program
  pass.walkWithin Nesting.nodeRoom program

/-- Make reports that were put off. -/
def reportAll (pass : Pass α) : List (DeferredReport α) → PassM α Unit
  | [] => return ()
  | deferred :: rest => do
      pass.report (.missingCheck deferred.score) deferred.source
      pass.reportAll rest

/-- Close the register and make the reports that were put off. -/
def settle (pass : Pass α) : PassM α Unit := do
  modify fun state => { state with register := state.register.close }
  let state ← get
  let (result, queue) := state.queue.flush state.register
  set { state with queue := queue }
  pass.reportAll (← result)

/-- Make a whole pass over a program. -/
def run (pass : Pass α) (program : Value) : PassM α (List (Diagnostic α)) := do
  pass.walk program
  pass.settle
  modify fun state => { state with diagnostics := Diagnostic.sort state.diagnostics }
  return (← get).diagnostics

end Pass

/-- The outcome of a pass over a program that hands out identities from the given one on. -/
def analyze {α : Type} (arithmetic : Arithmetic α) (settings : Settings α) (file : Path)
    (program : Value) (supply : Nat) :
    Except Fault (List (Diagnostic α)) × PassState α :=
  ((⟨arithmetic, settings, file⟩ : Pass α).run program).run (.start supply)

/-- The diagnostics of a program. -/
def checkProgram {α : Type} (arithmetic : Arithmetic α) (settings : Settings α) (file : Path)
    (program : Value) : Except Fault (List (Diagnostic α)) :=
  (analyze arithmetic settings file program 1).1

end TypeGauge.Check
