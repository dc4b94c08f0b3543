/-!
# Writing a time

Generated headers carry the time they were written, as `YYYY-MM-DD hh:mm:ss UTC`. A time is
given as seconds since 1970-01-01 00:00:00 UTC; the date follows the proleptic Gregorian
calendar, counted in eras of 400 years, each of which has the same 146097 days.
-/

namespace EntitySchema.Workspace

/-- The year, month and day of the day `days` after 1970-01-01. Days are counted from
0000-03-01 so that the leap day ends each year of the count. -/
def civilDate (days : Nat) : Nat × Nat × Nat :=
  let z := days + 719468
  let era := z / 146097
  let doe := z - era * 146097
  let yoe := (doe - doe / 1460 + doe / 36524 - doe / 146096) / 365
  let doy := doe - (365 * yoe + yoe / 4 - yoe / 100)
  let mp := (5 * doy + 2) / 153
  let day := doy - (153 * mp + 2) / 5 + 1
  let month := if mp < 10 then mp + 3 else mp - 9
  let year := yoe + era * 400 + (if month ≤ 2 then 1 else 0)
  (year, month, day)

def padded (width n : Nat) : String :=
  let digits := toString n
  String.ofList (List.replicate (width - digits.length) '0') ++ digits

/-- The time `seconds` after 1970-01-01 00:00:00 UTC, written `YYYY-MM-DD hh:mm:ss UTC`. -/
def utcText (seconds : Nat) : String :=
  let (year, month, day) := civilDate (seconds / 86400)
  let rest := seconds % 86400
  padded 4 year ++ "-" ++ padded 2 month ++ "-" ++ padded 2 day ++ " " ++
    padded 2 (rest / 3600) ++ ":" ++ padded 2 (rest % 3600 / 60) ++ ":" ++ padded 2 (rest % 60) ++
    " UTC"

example : utcText 0 = "1970-01-01 00:00:00 UTC" := by decide

end EntitySchema.Workspace
