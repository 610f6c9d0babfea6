import HtmlTemplate.Command.Run
import HtmlTemplate.Config.Standard

/-!
# The command line

The words of the command line are those of a command. The files that the command may see are named on the standard
input, one path a line, as seen from the working directory.
-/

namespace HtmlTemplate.CommandLine

/-- What is printed when no command is named, or help is asked for. -/
def usage : String :=
  "usage: stencil [-h] [--version] [--verbose] <command> ...\n\n" ++
    "  list    list the names of the templates\n" ++
    "  render  render a template, alone or framed by a layout\n\n" ++
    "The files to work on are named on the standard input, one path a line.\n"

/-- The lines of a stream. -/
partial def lines (input : IO.FS.Stream) : IO (List String) := do
  let line ← input.getLine
  if line.isEmpty then return []
  return line.trimAsciiEnd.toString :: (← lines input)

/-- A text as it is shown, with an escape for each surrogate. -/
def shown (s : Text) : String :=
  String.join (s.map fun c =>
    match c with
    | .char c => c.toString
    | c => "\\u" ++ String.ofList (Nat.toDigits 16 c.toNat))

/-- The files at some paths. -/
def readFiles (paths : List String) : IO FileSystem := do
  let tree ← paths.foldlM (fun tree (path : String) => do
    let content ← IO.FS.readBinFile path
    return FileTree.put content.toList (Path.withoutDots (Path.ofText path.text).parts) tree) FileTree.empty
  let home ← IO.getEnv "HOME"
  return ⟨⟨[], []⟩, tree, ⟨home.map fun path => Path.ofText path.text, []⟩⟩

/-- Writes the file that a command has written. -/
def writeFile (product : Product) : IO Unit := do
  match product.written with
  | none => return
  | some path =>
    match product.files.read path with
    | .error _ => return
    | .ok content => IO.FS.writeBinFile (shown path.text) (ByteArray.mk content.toArray)

/-- Tells how a command line has ended; the answer is the exit code. -/
def finish : Ending → IO UInt32
  | .stopped .badUsage => do
    (← IO.getStderr).putStr usage
    return 2
  | .stopped .help => do
    IO.print usage
    return 0
  | .stopped .version => do
    IO.print (shown Command.version)
    return 0
  | .noCommand => do
    IO.print usage
    return 0
  | .ended outcome => do
    writeFile outcome.toProduct
    IO.print (shown outcome.printed)
    (← IO.getStderr).putStr (shown outcome.complaints)
    return UInt32.ofNat outcome.code
  | .broken _ message made => do
    writeFile made
    IO.print (shown made.printed)
    (← IO.getStderr).putStrLn (shown message)
    return 1

end HtmlTemplate.CommandLine

open HtmlTemplate in
/-- Runs the command line. -/
def main (words : List String) : IO UInt32 := do
  let files ← CommandLine.readFiles (← CommandLine.lines (← IO.getStdin))
  CommandLine.finish (Command.runWords .standard files (words.map String.text))
