import TypeGauge.Data.Value

/-!
# Merging documents

One list of fields is laid over another key by key.  Where both have an object under
a key, the objects are merged in the same way; otherwise the upper value replaces the
lower one.  Keys of the lower list keep their places and new ones come last.
-/

namespace TypeGauge.Data

mutual

/-- Lay a value over the value that stands under the same key, if any. -/
def mergeValue (lower : Option Value) : Value → Value
  | .object upper =>
      match lower with
      | some (.object fields) => .object (mergeFields fields upper)
      | _ => .object upper
  | other => other

/-- Lay fields over others. -/
def mergeFields (lower : List (String × Value)) : List (String × Value) → List (String × Value)
  | [] => lower
  | (key, value) :: rest =>
      mergeFields (Value.putField key (mergeValue (Value.lookup? key lower) value) lower) rest

end

/-- Laying nothing over fields leaves them. -/
@[simp]
theorem mergeFields_nil (lower : List (String × Value)) : mergeFields lower [] = lower := by
  simp [mergeFields]

/-- A text replaces whatever stood under its key. -/
@[simp]
theorem mergeValue_text (lower : Option Value) (content : String) :
    mergeValue lower (.text content) = .text content := by
  simp [mergeValue]

end TypeGauge.Data
