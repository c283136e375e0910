import AspectHost.CommandLine

/-! The program: it takes the course of its command line, reads a file where that asks for one, and prints
how it ended. -/

open AspectHost.CommandLine

/-- The content of a file, or why it cannot be read. -/
def readProgram (path : String) : IO (Except String AspectHost.Bytes) := do
  try
    let content ← IO.FS.readBinFile path
    return .ok content.data.toList
  catch
    | .noFileOrDirectory _ code details => return .error s!"{details} (os error {code})"
    | e => return .error (toString e)

def conclude (exit : Exit) : IO UInt32 := do
  match exit with
  | .done output => IO.print output
  | .failed message => IO.eprintln ("Error: " ++ message)
  | .refused reason => IO.eprintln ("error: " ++ reason ++ "\n\n" ++ synopsis)
  return exit.code.toUInt32

def main (words : List String) : IO UInt32 := do
  match course words with
  | .ending exit => conclude exit
  | .load path finish => conclude (finish (← readProgram path))
