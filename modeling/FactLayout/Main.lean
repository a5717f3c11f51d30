import FactLayout.Program

/-
  The outer layer of the program.

  It looks at the files and the input a run needs, and puts
  the outcome of the run where it belongs.

  Key definitions include:
    * `Console.surroundings`
    * `main`
-/

------------------------------------------------------------
-- Looking Around
------------------------------------------------------------

namespace FactLayout

namespace Console

/- What a failure to read says about a path. -/
def stateOfError : IO.Error → PathState
| .noFileOrDirectory .. => .absent .notFound
| .inappropriateType _ 21 _ => .directory
| .inappropriateType .. => .absent .notDirectory
| .invalidArgument .. => .absent .nameTooLong
| .permissionDenied .. =>
    .file (.error
      (.other "Permission denied (os error 13)"))
| error => .file (.error (.other (toString error)))

/- Look at a path. -/
def look (path : String) : IO PathState := do
  if path.toList.contains '\x00' then
    return .absent .invalidName
  try
    return .file (.ok (← IO.FS.readBinFile path))
  catch error => return stateOfError error

/- Read a stream to its end, behind what has been read. -/
partial def drain
    (stream : IO.FS.Stream)
    (content : ByteArray) : IO ByteArray := do
  let block ← stream.read 65536
  if block.isEmpty then return content
  else drain stream (content ++ block)

/- Look at the input, if it is needed. -/
def lookAtInput
    (o : Options) : IO (Except FileFault ByteArray) := do
  if Program.usesInput o then
    try
      return .ok (← drain (← IO.getStdin) .empty)
    catch error => return .error (.other (toString error))
  else return .ok .empty

/- Look at all that options need. -/
def lookFor (o : Options) : IO Surroundings := do
  let seen ←
    (Program.usedPaths o).mapM fun path => do
      return (path, ← look path)
  let files : FileView := fun path =>
    (seen.lookup path).getD (.absent .notFound)
  return ⟨files, ← lookAtInput o⟩

/- Look at all that a command line needs. -/
def surroundings
    (words : List String) : IO Surroundings := do
  match CommandLine.parse words with
  | .ok o => lookFor o
  | .error _ =>
      return ⟨fun _ => .absent .notFound, .ok .empty⟩

------------------------------------------------------------
-- Showing Outcomes
------------------------------------------------------------

/- The line, or lines, that show a record. -/
def shown (r : Record) : String :=
  "[" ++ r.level.name ++ " fetchfmt] " ++
    "\n".intercalate r.lines ++ "\n"

/- Show an outcome, and give its exit code. -/
def display (o : Outcome) : IO UInt32 := do
  let stderr ← IO.getStderr
  for r in o.log do
    stderr.putStr (shown r)
  stderr.putStr o.complaint
  IO.print o.output
  (← IO.getStdout).flush
  return UInt32.ofNat o.code

end Console

end FactLayout

/- Run the program. -/
def main (words : List String) : IO UInt32 := do
  let w ← FactLayout.Console.surroundings words
  FactLayout.Console.display (FactLayout.Program.run w words)
