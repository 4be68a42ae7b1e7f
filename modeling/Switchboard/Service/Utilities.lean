import Switchboard.Calendar
import Switchboard.Json.Basic
import Switchboard.Tool

/-!
# Utilities

Tools that need no backend: the time, and waiting.
-/

namespace Switchboard.Utilities

/-- The service that offers these tools. -/
def serviceName : String := "utilities"

def timeTool : String := "utilities_get_time"

def sleepTool : String := "utilities_sleep"

/-- Longest wait, in seconds. -/
def maxSleep : Float := 60

def definitions : List ToolDefinition := [
  ⟨timeTool, "Current UTC time as RFC 3339 and unix seconds",
    .object [("properties", .object []), ("type", .string "object")], serviceName⟩,
  ⟨sleepTool, "Wait for a number of seconds before returning",
    .object [
      ("properties", .object [("seconds", .object [
        ("maximum", .number (.float maxSleep)),
        ("minimum", Json.ofNat 0),
        ("type", .string "number")])]),
      ("required", Json.ofTexts ["seconds"]),
      ("type", .string "object")], serviceName⟩]

/-- Tells the time. -/
def tellTime : Handler := fun _ =>
  .clock fun seconds =>
    .object [("unix", Json.ofNat seconds), ("utc", .string (Calendar.text seconds))]

/-- Waits for a number of seconds. -/
def sleep : Handler := fun arguments =>
  match (arguments.get? "seconds").bind Json.asFloat? with
  | none => .done (.error (.of "missing required argument 'seconds'"))
  | some seconds =>
    if 0 ≤ seconds && seconds ≤ maxSleep then
      .pause seconds (.object [("slept_seconds", .number (.float seconds))])
    else .done (.error (.of "'seconds' must be between 0 and 60"))

def handlers : NameMap Handler :=
  NameMap.ofList [(timeTool, tellTime), (sleepTool, sleep)]

end Switchboard.Utilities
