import Gleaner.CommandLine.Run
/-!
# The program

The command line on the disk: files are read and written there, and a report is printed.
-/

namespace Gleaner
namespace CommandLine

def faultOfError : IO.Error → FileFault
  | .noFileOrDirectory .. => .missing
  | .inappropriateType _ number details => .refused details number.toNat
  | .permissionDenied _ number details => .refused details number.toNat
  | .otherError number details => .refused details number.toNat
  | e => .refused (toString e) 5

def disk : FileAccess IO where
  read path := do
    try
      return .ok (← IO.FS.readBinFile path)
    catch e =>
      return .error (faultOfError e)
  write path text := do
    try
      IO.FS.writeFile path text
      return .ok ()
    catch e =>
      return .error (faultOfError e)

end CommandLine
end Gleaner

def main (arguments : List String) : IO UInt32 := do
  let report ← Gleaner.CommandLine.run Gleaner.CommandLine.disk arguments
  IO.print report.out
  IO.eprint report.err
  return report.code.toUInt32
