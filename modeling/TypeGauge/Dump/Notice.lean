import TypeGauge.Data.ValueText

/-!
# Notices

A notice is a message with details, such as the path and the place that it is about.
Its written form has the details in brackets after the message, and no brackets when
there are none.
-/

namespace TypeGauge.Dump

open TypeGauge.Data

/-- A message with details. -/
structure Notice where
  message : String
  details : List (String × Value)
deriving Inhabited

/-- The written form of a detail. -/
def detailText (detail : String × Value) : String :=
  detail.1 ++ "=" ++ detail.2.shown

/-- The written form of a notice. -/
def Notice.text (notice : Notice) : String :=
  if notice.details.isEmpty then notice.message
  else notice.message ++ " [" ++ String.intercalate ", " (notice.details.map detailText) ++ "]"

end TypeGauge.Dump
