import CppAdvice.Command.Run

/-!
# The program

The machine as a host, and the program itself. Called by the name `dump_ast`, the program prints the
outline of a document; called by any other name, it runs the commands.
-/

namespace CppAdvice

/-- The path as the machine knows it, with no entry chosen in it. -/
def Path.entry (p : Path) : IO.FS.DirEntry :=
  ⟨p.text, ""⟩

/-- What the machine calls a kind of file. -/
def FileKind.ofType : IO.FS.FileType → FileKind
  | .dir => .directory
  | .file => .file
  | _ => .other

/-- The number of an error, which some calls give with its sign turned. -/
def errorNumber (code : UInt32) : UInt32 :=
  if code < 0x80000000 then code else 0 - code

/-- Trouble in the words of the machine. -/
def Trouble.ofError : IO.Error → Trouble
  | .noFileOrDirectory _ _ _ | .noSuchThing _ _ _ => .missing
  | .inappropriateType _ code _ => if errorNumber code = 21 then .isDirectory else .notDirectory
  | .permissionDenied _ code _ =>
    .other ("Permission denied (os error " ++ toString (errorNumber code) ++ ")")
  | error => .other (toString error)

/-- The value of an action, or the trouble with it. -/
def Trouble.catching {α : Type} (action : IO α) : IO (Except Trouble α) := do
  try return .ok (← action)
  catch error => return .error (.ofError error)

/-- The text that bytes encode. -/
def textOfBytes (bytes : ByteArray) : Except Trouble String :=
  match String.fromUTF8? bytes with
  | some text => .ok text
  | none => .error (.other "stream did not contain valid UTF-8")

/-- All bytes that are left on a stream. -/
partial def remainingBytes (stream : IO.FS.Stream) (read : ByteArray) : IO ByteArray := do
  let bytes ← stream.read 65536
  if bytes.isEmpty then return read else remainingBytes stream (read ++ bytes)

/-- The machine that the program runs on. -/
def Host.machine : Host IO where
  kind p := Trouble.catching do return .ofType (← p.entry.root.metadata).type
  read p := do return (← Trouble.catching (IO.FS.readBinFile p.text)).bind textOfBytes
  list p := Trouble.catching do
    (← p.entry.root.readDir).toList.mapM fun entry =>
      return (entry.fileName, .ofType (← entry.path.symlinkMetadata).type)
  workingDirectory := return ⟨(← IO.currentDir).toString⟩
  input := do return (← Trouble.catching (remainingBytes (← IO.getStdin) .empty)).bind textOfBytes

end CppAdvice

open CppAdvice in
/-- Runs the program on its command line. -/
def main (line : List String) : IO UInt32 := do
  let name := (← IO.appPath).fileName
  let outcome ←
    if name = some "dump_ast" then Command.runOutline Host.machine line
    else Command.run Host.machine line
  (← IO.getStdout).putStr outcome.stdout
  (← IO.getStderr).putStr outcome.stderr
  return outcome.exit.toUInt32
