-- The program. It has no connection of its own, so every request fails like
-- one whose server cannot be reached.
import CueStream.CommandLine

namespace CueStream

/-- The text of a file, if it is there and spells one. -/
def readText? (path : String) : IO (Option Text) := do
  try
    let bytes ← IO.FS.readBinFile path
    return Utf8.decode? bytes.toList
  catch _ => return none

/-- The variables that a configuration names. -/
def namedVariables (config : ModelConfig) : IO Environment := do
  let names := config.backends.filterMap (·.keyVariable)
  let found ← names.mapM fun name => do
    let value ← IO.getEnv (String.ofList name)
    return value.map fun v => (name, v.toList)
  return found.filterMap id

/-- Runs the command and prints its report. -/
def runProgram (args : List String) : IO UInt32 := do
  let directory := (← IO.getEnv "CUE_STREAM_CONFIG_DIR").getD "."
  let modelFile ← readText? (directory ++ "/llm_config.json")
  let cueFile ← readText? (directory ++ "/intent_config.json")
  let environment ← namedVariables (ConfigFile.loadModel modelFile)
  let report := CommandLine.run
    { args := args.map String.toList, modelFile, cueFile, environment
      network := fun _ => .closed }
  IO.print (String.ofList report.shown)
  for t in report.triggers do
    IO.eprintln ("\n  >> " ++ String.ofList (CommandLine.triggerLine t))
  for line in report.logs ++ report.errors do
    IO.eprintln (String.ofList line)
  return UInt32.ofNat report.exitCode

end CueStream

def main (args : List String) : IO UInt32 :=
  CueStream.runProgram args
