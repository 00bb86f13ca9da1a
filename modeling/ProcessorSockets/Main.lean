import ProcessorSockets.Echo

namespace ProcessorSockets.Echo

def variableNames : List String := [
  Config.transportVariable, Config.familyVariable, Config.directoryVariable, Config.cpuVariable,
  Config.traceJsonVariable, levelVariable]

def printLine (json : Bool) (e : Event) : String :=
  if json then
    String.ofList (Json.printObject
      [Json.printMember "level" (Json.printString e.level.name),
        Json.printMember "message" (Json.printString e.message)])
  else e.line

end ProcessorSockets.Echo

open ProcessorSockets in
def main (arguments : List String) : IO UInt32 := do
  let values ← Echo.variableNames.mapM fun name => return (name, ← IO.getEnv name)
  let env : Environment :=
    { values := values.filterMap fun (name, value) => value.map fun v => (name, bytesOf v) }
  let run := Echo.run (fun c => c.transport UnixDomain.kernel) env arguments { kernel := {} }
  for e in run.printed do IO.println (Echo.printLine (Echo.logsJson env) e)
  for line in run.complaint do IO.eprintln line
  return run.status.toUInt32
