import MaximalMunch.CommandLine

/-!
The program. It reads the file that the arguments name, and standard input where they give no text.
-/

open MaximalMunch

def usageText : String :=
  "usage: grammar-tokenizer [-h] [--trim | --no-trim] [-v] grammar [text]"

/-- What a path leads to in the file system. -/
def probe (path : Path) : IO Found := do
  try
    let bytes ← IO.FS.readBinFile (String.ofList path.text)
    return .file bytes.toList
  catch
    | .noFileOrDirectory .. => return .missing
    | _ => return .directory

partial def readAll (input : IO.FS.Stream) (before : String) : IO String := do
  let line ← input.getLine
  if line.isEmpty then return before else readAll input (before ++ line)

def finish (stdout messages : Text) (exitCode : Nat) : IO UInt32 := do
  IO.print (String.ofList stdout)
  IO.eprint (String.ofList messages)
  return exitCode.toUInt32

def main (args : List String) : IO UInt32 := do
  match CommandLine.Arguments.read (args.map String.toList) with
  | .error usage =>
    finish [] (usageText.toList ++ ['\n']) usage.exitCode
  | .ok a =>
    let found ← probe (Path.ofText a.path)
    let input ← if a.text.isSome then pure "" else readAll (← IO.getStdin) ""
    match CommandLine.run found input.toList a with
    | .error e => finish [] (CommandLine.Report.errorLine (some e.message)) 1
    | .ok r => finish r.output (r.messages a.verbose) r.exitCode
