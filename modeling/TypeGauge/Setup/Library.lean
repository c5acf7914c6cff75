import TypeGauge.Data.Value
import TypeGauge.Setup.Draft
import TypeGauge.Setup.Environment
import TypeGauge.Setup.Issue

/-!
# The settings library

A library that is not part of this program puts settings together.  It is told the names
and sorts of the settings and the order of the sources, and given the fields of a file.  Each
source yields a layer of fields, the layers are merged into one, and that is validated into
a draft.

The library is a parameter.  `build` is the one function that is called; the others are the
steps that its documentation describes.  Some keys among given fields, such as `_env_prefix`,
are no settings but options of the library, and with them it may take other steps.
-/

namespace TypeGauge.Setup

open TypeGauge.Data

/-- Where settings come from. -/
inductive Source where
  | environment
  | given
deriving DecidableEq, Repr, Inhabited

/-- The steps in which settings are put together. -/
structure LibrarySteps where
  /-- Read a number that a setting wants. -/
  readNumber : Value → Except Complaint Float
  /-- Read a truth value that a setting wants. -/
  readTruth : Value → Except Complaint Bool
  /-- Read a whole number that a setting wants. -/
  readWhole : Value → Except Complaint Int
  /-- Read a text that a setting wants. -/
  readText : Value → Except Complaint String
  /-- Whether a key among given fields is an option of the library. -/
  isOption : String → Bool
  /-- The layer of the variables. -/
  variableLayer : Environment → Except Interruption (List (String × Value))
  /-- The layer of given fields. -/
  givenLayer : List (String × Value) → List (String × Value)
  /-- Lay one layer over another. -/
  merge : (lower upper : List (String × Value)) → List (String × Value)
  /-- Validate merged layers. -/
  validate : List (String × Value) → Except (List Issue) SettingsDraft

namespace LibrarySteps

variable (steps : LibrarySteps)

/-- Whether none of the given fields is an option. -/
def arePlain (given : List (String × Value)) : Bool :=
  given.all fun entry => !steps.isOption entry.1

/-- A value laid over the one that stands under the same key, if any. -/
def overlaid (lower : Option Value) : Value → Value
  | .object upper =>
      match lower with
      | some (.object fields) => .object (steps.merge fields upper)
      | _ => .object upper
  | other => other

/-- The layer of a source. -/
def layer (environment : Environment) (given : List (String × Value)) :
    Source → Except Interruption (List (String × Value))
  | .environment => steps.variableLayer environment
  | .given => .ok (steps.givenLayer given)

/-- The layers of sources in one; earlier sources come out on top. -/
def layers (order : List Source) (environment : Environment) (given : List (String × Value)) :
    Except Interruption (List (String × Value)) :=
  order.foldlM
    (fun upper source => return steps.merge (← steps.layer environment given source) upper) []

/-- Validate the layers of sources. -/
def buildLayers (order : List Source) (environment : Environment)
    (given : List (String × Value)) : Except (Setback (List Issue)) SettingsDraft := do
  let fields ← (steps.layers order environment given).mapError .interrupted
  (steps.validate fields).mapError .refused

end LibrarySteps

/-- A library that puts settings together. -/
structure Library extends LibrarySteps where
  /-- Put settings together from sources, of which earlier ones count for more. -/
  build : List Source → Environment → List (String × Value) →
    Except (Setback (List Issue)) SettingsDraft

end TypeGauge.Setup
