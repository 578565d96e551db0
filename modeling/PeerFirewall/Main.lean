import PeerFirewall.Rehearsal.Scenario

/-!
# The command

The command reads a scenario as one line of JSON and shows what the controller does in it: the
requests of each phase, and how the program ends. The flags and the variable `HOSTNAME` are those of
the controller itself.
-/
namespace PeerFirewall

/-- What is wrong with a command line, in words. -/
def ArgumentError.message : ArgumentError → String
  | unknown => "unexpected argument"
  | missingValue => "a value is required"
  | unexpectedValue => "unexpected value"
  | repeated => "an argument cannot be used multiple times"
  | badValue message | impossible message => "invalid value: " ++ message

/-- The lines that show a phase. -/
def phaseLines (place : Nat) (requests : List Request) : List String :=
  ("phase " ++ toString (place + 1)) :: requests.map fun request => "  " ++ request.line

/-- The lines that show the phases from that place on. -/
def phasesLines : Nat → List (List Request) → List String
  | _, [] => []
  | place, phase :: rest => phaseLines place phase ++ phasesLines (place + 1) rest

/-- The output of the command, the errors it reports, and its exit code. -/
structure CommandResult where
  output : List String
  errors : List String
  code : UInt32

/-- What the command does with a command line and a scenario. -/
def command (arguments : List String) (hostname : Option String) (scenario : String) :
    CommandResult :=
  match Arguments.read ("connectivity" :: arguments) with
  | .error error => ⟨[], ["error: " ++ error.message], 2⟩
  | .ok arguments =>
    match (Decoder.keep 0).readText scenario >>= Scenario.decode with
    | .error error => ⟨[], ["error: " ++ error.message], 2⟩
    | .ok scenario =>
      let report := scenario.rehearse arguments hostname ⟨0, 0⟩
      let output := phasesLines 0 report.phases
      match report.result with
      | .ok () => ⟨output, [], 0⟩
      | .error error => ⟨output, ["Error: " ++ error.message], 1⟩

end PeerFirewall

/-- Runs the command. -/
def main (arguments : List String) : IO UInt32 := do
  let hostname ← IO.getEnv "HOSTNAME"
  let scenario ← (← IO.getStdin).getLine
  let result := PeerFirewall.command arguments hostname scenario
  let output ← IO.getStdout
  let errors ← IO.getStderr
  result.output.forM output.putStrLn
  result.errors.forM errors.putStrLn
  return result.code
