import WalletNotify.Cli.Session

/-!
# The program

Runs a session with the arguments, the variables and the files of the process. A session that serves
does so until its input ends.
-/

namespace WalletNotify.Cli

/-- The variables in the text of an environment: names and values, each pair closed by a zero. -/
def variablesOf (text : String) : List (String × String) :=
  ((text.toList.splitOn '\x00').filter (!·.isEmpty)).map fun cs =>
    (String.ofList (cs.takeWhile (· != '=')), String.ofList ((cs.dropWhile (· != '=')).drop 1))

/-- The text of a file, if it is there. -/
def textOf? (file : String) : IO (Option String) := do
  try return some (← IO.FS.readFile file)
  catch _ => return none

/-- Waits until the input ends. -/
partial def awaitEnd (input : IO.FS.Stream) : IO Unit := do
  let line ← input.getLine
  if line.isEmpty then return else awaitEnd input

end WalletNotify.Cli

open WalletNotify in
/-- Runs the program. -/
def main (arguments : List String) : IO UInt32 := do
  let environment := Cli.variablesOf ((← Cli.textOf? "/proc/self/environ").getD "")
  let content ← match Cli.fileOf? arguments environment with
    | some file => Cli.textOf? file
    | none => pure none
  match Cli.run (fun _ => content) (·.ip.isLocal) arguments environment with
  | .ended output =>
    IO.print output.out
    IO.eprint output.err
    return output.code
  | .serving file config service =>
    let notes := Cli.logged file config service
    for note in notes.take 1 do IO.println note.message
    Cli.awaitEnd (← IO.getStdin)
    for note in notes.drop 1 do IO.println note.message
    return 0
