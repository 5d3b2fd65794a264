import LateBinding.Cli.Program

/-!
# The command line program

Reads the environment, runs the program, and prints what it says.  A comparison of call strategies
is printed as data together with its times, which are taken here.
-/

namespace LateBinding

/-- A report as data, one field a line, with the time that its calls took. -/
def BenchReport.render (nanoseconds : Nat) (r : BenchReport) : String :=
  let measurement (m : Measurement) : String :=
    "      \x7b\n" ++
      s!"        \"strategy\": {quoted m.strategy},\n" ++
      s!"        \"total_ns\": {nanoseconds},\n" ++
      s!"        \"per_call_ns\": {nanoseconds / r.iterations},\n" ++
      s!"        \"result\": {quoted m.result},\n" ++
      s!"        \"matches_direct\": {m.matchesDirect}\n" ++ "      \x7d"
  "  \x7b\n" ++
    s!"    \"kind\": {quoted r.kind.name},\n" ++
    s!"    \"member\": {quoted r.member},\n" ++
    s!"    \"iterations\": {r.iterations},\n" ++
    "    \"measurements\": [\n" ++
    ",\n".intercalate (r.measurements.map measurement) ++ "\n    ]\n" ++ "  \x7d"

end LateBinding

open LateBinding in
/-- Run the program on the arguments of the command line. -/
def main (args : List String) : IO UInt32 := do
  let terminal ← IO.getEnv "TERM"
  let env : Environment := {
    noColor := (← IO.getEnv "NO_COLOR").isSome
    terminalColors := terminal.isSome && terminal != some "dumb"
    log := ← IO.getEnv "SHIMCALL_LOG" }
  let start ← IO.monoNanosNow
  let outcome := Program.run env args
  (← IO.getStderr).putStr outcome.errors
  let out ← IO.getStdout
  out.putStr outcome.output
  if let some reports := outcome.reports then
    let nanoseconds := (← IO.monoNanosNow) - start
    let rendered := reports.map (BenchReport.render nanoseconds)
    out.putStrLn ("[\n" ++ ",\n".intercalate rendered ++ "\n]")
  return outcome.exit.toUInt32
