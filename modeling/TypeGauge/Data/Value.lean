import TypeGauge.Data.Moment

/-!
# Document values

A document is made of values: null, truth values, whole numbers of any size,
doubles, texts, lists and objects, and in settings files dates and times.  An
object is its fields in the order in which the document gives them, because that
order decides the order in which a syntax tree is walked.

Syntax trees come from front-ends that are not trusted to be well formed, so
every reader of a field works on any value whatever.  `Kind` names the
sorts of values; complaints about a malformed node mention it.
-/

namespace TypeGauge.Data

/-- A value of a document. -/
inductive Value where
  | null
  | truth (flag : Bool)
  | whole (number : Int)
  | double (number : Float)
  | text (content : String)
  | moment (instant : Moment)
  | list (items : List Value)
  | object (fields : List (String × Value))
deriving Inhabited

/-- The sorts of values. -/
inductive Kind where
  | null
  | truth
  | whole
  | double
  | text
  | moment (sort : MomentSort)
  | list
  | object
deriving DecidableEq, Repr, Inhabited

/-- The word that complaints use for a sort of values. -/
def Kind.label : Kind → String
  | .null => "NoneType"
  | .truth => "bool"
  | .whole => "int"
  | .double => "float"
  | .text => "str"
  | .moment sort => sort.label
  | .list => "list"
  | .object => "dict"

namespace Value

/-- The sort of a value. -/
def kind : Value → Kind
  | .null => .null
  | .truth _ => .truth
  | .whole _ => .whole
  | .double _ => .double
  | .text _ => .text
  | .moment instant => .moment instant.sort
  | .list _ => .list
  | .object _ => .object

/-- Whether a value is an object. -/
def isObject : Value → Bool
  | .object _ => true
  | _ => false

/-- Whether a value is null. -/
def isNull : Value → Bool
  | .null => true
  | _ => false

/-- Nothing, zero and whatever is empty count as absent. -/
def isPresent : Value → Bool
  | .null => false
  | .truth flag => flag
  | .whole number => number != 0
  | .double number => !(number == 0)
  | .text content => content != ""
  | .moment _ => true
  | .list items => !items.isEmpty
  | .object fields => !fields.isEmpty

/-- The first value unless it counts as absent, and then the second one. -/
def orElse (first second : Value) : Value :=
  if first.isPresent then first else second

/-- The value under a key in a list of fields. -/
def lookup? (key : String) : List (String × Value) → Option Value
  | [] => none
  | (name, value) :: rest => if name == key then some value else lookup? key rest

/-- The value of an object's field, if the value is an object that has it. -/
def field? (value : Value) (key : String) : Option Value :=
  match value with
  | .object fields => lookup? key fields
  | _ => none

/-- The value of an object's field, or null. -/
def field (value : Value) (key : String) : Value :=
  (value.field? key).getD .null

/-- Whether an object has a field. -/
def hasField (value : Value) (key : String) : Bool :=
  (value.field? key).isSome

/-- Whether a value is exactly the given text. -/
def isText (value : Value) (content : String) : Bool :=
  match value with
  | .text actual => actual == content
  | _ => false

/-- Whether a value is the given name; where no name is given, null is. -/
def isName (value : Value) (name : Option String) : Bool :=
  match name with
  | some content => value.isText content
  | none => value.isNull

/-- Put a value under a key: a key that is there keeps its place, another comes last. -/
def putField (key : String) (value : Value) : List (String × Value) → List (String × Value)
  | [] => [(key, value)]
  | (name, old) :: rest =>
      if name == key then (name, value) :: rest else (name, old) :: putField key value rest

theorem isText_iff {value : Value} {content : String} :
    value.isText content = true ↔ value = .text content := by
  cases value <;> simp [isText]

@[simp]
theorem lookup?_putField_same
    (key : String) (value : Value) (fields : List (String × Value)) :
    lookup? key (putField key value fields) = some value := by
  induction fields with
  | nil => simp [putField, lookup?]
  | cons head rest hypothesis =>
      obtain ⟨name, old⟩ := head
      by_cases same : name = key <;> simp [putField, lookup?, same, hypothesis]

/-- Putting one key leaves what stands under the other keys. -/
theorem lookup?_putField_other
    {key other : String} (different : other ≠ key)
    (value : Value) (fields : List (String × Value)) :
    lookup? other (putField key value fields) = lookup? other fields := by
  induction fields with
  | nil => simp [putField, lookup?, Ne.symm different]
  | cons head rest hypothesis =>
      obtain ⟨name, old⟩ := head
      by_cases same : name = key
      · subst same
        simp [putField, lookup?, Ne.symm different]
      · by_cases hit : name = other
        · subst hit
          simp [putField, lookup?, same]
        · simp [putField, lookup?, same, hit, hypothesis]

end Value

end TypeGauge.Data
