import TypeGauge.Number.Binary
import TypeGauge.Syntax.Node
import TypeGauge.Syntax.Position

/-!
# Exemptions and deferred reports

A validator that some alias re-exposes needs no explicit check, and the alias may
stand before or after it.  So the names of re-exposed validators are registered
while the declarations are read, reports on validators are put off, and only when
the register is closed are the reports of exempt validators dropped.

Looking a name up before the register is closed and registering one afterwards are
refused.  Taking the reports out empties the queue even when it is refused.

Names are compared by value: a truth value and a double are the same name as the
whole number that they are equal to.
-/

namespace TypeGauge.Check

open TypeGauge.Data TypeGauge.Number TypeGauge.Syntax

/-- What makes two names the same. -/
inductive NameKey where
  | null
  | whole (number : Int)
  /-- A double that is no whole number, by its bit pattern. -/
  | fraction (bits : UInt64)
  | text (content : String)
  | moment (instant : Moment)
deriving DecidableEq, Repr, Inhabited

/-- What makes a value the same name as another. -/
def NameKey.ofValue (name : Value) : Except Fault NameKey :=
  match name with
  | .null => .ok .null
  | .truth flag => .ok (.whole (if flag then 1 else 0))
  | .whole number => .ok (.whole number)
  | .double number =>
      match Binary.exactInt? number with
      | some equal => .ok (.whole equal)
      | none => .ok (.fraction number.toBits)
  | .text content => .ok (.text content)
  | .moment instant => .ok (.moment instant)
  | .list _ => .error (.notAName .list)
  | .object _ => .error (.notAName .object)

/-- The register of re-exposed validators. -/
structure Register where
  /-- The registered names, the first registered first, without repetition. -/
  names : List (NameKey × Value)
  /-- Whether all declarations have been read. -/
  isClosed : Bool
deriving Inhabited

namespace Register

/-- The register before any declaration has been read. -/
def empty : Register :=
  ⟨[], false⟩

/-- Whether a name is registered. -/
def hasKey (register : Register) (key : NameKey) : Bool :=
  register.names.any fun entry => entry.1 == key

/-- Whether a name is registered, whatever the state of the register. -/
def contains (register : Register) (name : Value) : Except Fault Bool :=
  (NameKey.ofValue name).map register.hasKey

/-- Register a name. -/
def add (register : Register) (name : Value) : Except Fault Register := do
  if register.isClosed then .error (.lateRegistration name)
  else
    let key ← NameKey.ofValue name
    return if register.hasKey key then register
      else { register with names := register.names ++ [(key, name)] }

/-- Close the register. -/
def close (register : Register) : Register :=
  { register with isClosed := true }

/-- Whether a validator is exempt; one without a name never is. -/
def isExempt (register : Register) (name : Value) : Except Fault Bool :=
  if !register.isClosed then .error .earlyLookup
  else if name.isNull then .ok false
  else register.contains name

/-- The number of registered names. -/
def size (register : Register) : Nat :=
  register.names.length

end Register

/-- A report on a validator that is made unless the validator is exempt. -/
structure DeferredReport (α : Type) where
  name : Value
  score : α
  source : Option Position
deriving Inhabited

/-- The reports that are not on exempt validators, in order. -/
def unexempted {α : Type} (register : Register) :
    List (DeferredReport α) → Except Fault (List (DeferredReport α))
  | [] => .ok []
  | report :: rest => do
      let exempt ← register.isExempt report.name
      let others ← unexempted register rest
      return if exempt then others else report :: others

/-- Reports that are put off, the first put off first. -/
structure DeferredQueue (α : Type) where
  pending : List (DeferredReport α)
deriving Inhabited

namespace DeferredQueue

variable {α : Type}

/-- No reports. -/
def empty : DeferredQueue α :=
  ⟨[]⟩

/-- Put a report off. -/
def defer (queue : DeferredQueue α) (report : DeferredReport α) : DeferredQueue α :=
  ⟨queue.pending ++ [report]⟩

/-- Take all reports out and keep the ones that are not on exempt validators. -/
def flush (queue : DeferredQueue α) (register : Register) :
    Except Fault (List (DeferredReport α)) × DeferredQueue α :=
  (unexempted register queue.pending, empty)

/-- The number of reports. -/
def size (queue : DeferredQueue α) : Nat :=
  queue.pending.length

end DeferredQueue

end TypeGauge.Check
