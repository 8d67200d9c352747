import RoadNet.Command.Report

/-!
# RoadNet.Main

The command-line program.
-/

namespace RoadNet

/-- The fault behind an error of the file system. -/
def FileFault.ofError : IO.Error → FileFault
  | .noFileOrDirectory .. => .notFound
  | .inappropriateType .. => .isFolder
  | _ => .denied

/-- The files of the computer. -/
def diskAccess : FileAccess IO where
  read path := do
    try
      let bytes ← IO.FS.readBinFile path
      return match String.fromUTF8? bytes with
        | some text => .ok text
        | none => .error .notText
    catch e => return .error (.ofError e)
  write path text := do
    try
      IO.FS.writeFile path text
      return .ok ()
    catch e => return .error (.ofError e)

end RoadNet

/-- Run the command that the arguments ask for. -/
def main (args : List String) : IO UInt32 := do
  match RoadNet.Command.ofArguments? args with
  | none =>
    IO.eprintln "usage: convert INPUT OUTPUT | check INPUT | formats"
    return RoadNet.Command.usageCode
  | some command =>
    let report ← command.run RoadNet.diskAccess
    report.lines.forM IO.println
    if let some failure := report.failure then
      IO.eprintln ("Error: " ++ failure.message)
    return report.exitCode
