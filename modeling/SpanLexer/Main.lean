import SpanLexer.CommandLine.Program

/-!
# Entry point

Connects the program to the arguments, files and streams of the system.
-/

namespace SpanLexer

/-- Whether a code stands for an error of the system; it may be the number of the error or the
negated number. -/
def isErrorNumber (number code : UInt32) : Bool :=
  code == number || code == 0 - number

/-- The reason for a failure to read, as the program words it. -/
def ReadError.ofSystem (reason : IO.Error) : ReadError :=
  match reason with
  | .noFileOrDirectory _ _ _ => .notFound
  | .inappropriateType _ code _ =>
      if isErrorNumber 21 code then .isDirectory
      else if isErrorNumber 20 code then .notDirectory
      else .system (toString reason).toList
  | other => .system (toString other).toList

/-- Reads the bytes of a file. -/
def readBytes (path : Text) : IO (Except ReadError ByteArray) := do
  try
    return .ok (← IO.FS.readBinFile (String.ofList path))
  catch reason =>
    return .error (ReadError.ofSystem reason)

/-- What a file holds that the invocation reads, if it reads one. -/
def contents : Invocation → IO (Except ReadError ByteArray)
  | .run options =>
      match options.file with
      | some path => readBytes path
      | none => return .error .notFound
  | _ => return .error .notFound

end SpanLexer

open SpanLexer in
/-- Runs the program on the arguments. -/
def main (arguments : List String) : IO UInt32 := do
  let invocation := Invocation.ofArguments (arguments.map String.toList)
  let bytes ← contents invocation
  let answer := Program.answer invocation (fun _ => bytes)
  IO.print (String.ofList answer.output)
  if let some complaint := answer.complaint then
    IO.eprintln (String.ofList complaint)
  return answer.exitCode.toUInt32
