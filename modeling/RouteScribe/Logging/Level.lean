import RouteScribe.Diagnostic

/-!
# Log thresholds

A logger has a threshold, which is named like a level or by another name of the
same rank.  Zero means that the threshold is not set.
-/

namespace RouteScribe.Logging

/-- The rank below which records are not shown. -/
abbrev Threshold := Nat

/-- The names of thresholds; of equal ones the first is the proper name. -/
def thresholdNames : Table Threshold :=
  [("CRITICAL", 50), ("FATAL", 50), ("ERROR", 40), ("WARNING", 30), ("WARN", 30), ("INFO", 20),
    ("DEBUG", 10), ("NOTSET", 0)]

def thresholdOf? (name : String) : Option Threshold :=
  thresholdNames.get? name

def thresholdName (threshold : Threshold) : String :=
  match thresholdNames.find? (·.2 = threshold) with
  | some (name, _) => name
  | none => "Level " ++ toString threshold

/-- The threshold that holds where none is set. -/
def usualThreshold : Threshold :=
  Level.warning.rank

def passes (threshold : Threshold) (record : LogRecord) : Bool :=
  (if threshold = 0 then usualThreshold else threshold) ≤ record.level.rank

end RouteScribe.Logging
