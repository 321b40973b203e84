import SpanLexer.CommandLine.Arguments
import SpanLexer.CommandLine.Folder
import SpanLexer.Report
import SpanLexer.Scan

/-!
# The program

What the command line program prints and how it ends, given its arguments, a way to read command
lines and a way to read files.

* `Answer` — output, exit code and the complaint about a file; `Answer.complaintLine` its first
  line.
* `Program.listing` — the printed tokens.
* `Program.scanText` — scanning one text.
* `Program.runWith` — a whole command line, in whichever way command lines are read.
* `Program.run` — a whole command line, read by `Invocation.ofArguments`.
-/

namespace SpanLexer

/-- What a run of the program shows: its exit code, its output, and a complaint about a file that
could not be read. -/
structure Answer where
  exitCode : Nat
  output : Text
  complaint : Option Text
  deriving DecidableEq, Repr

/-- The first line of the complaint.  The path in it may hold the endings of lines. -/
def Answer.complaintLine (answer : Answer) : Option Text :=
  answer.complaint.map Text.firstLine

namespace Program

/-- The text that is scanned when none is given. -/
def sample : Text :=
  " <>h</> 11_ . r22 _dr 33  #434334567876543\n  #ffg\"fff //df    9\n 8".toList

/-- The answer to a request for the version. -/
def versionText : Text := "tokenizer 0.1.0\n".toList

/-- The answer to a request for help. -/
def helpText : Text :=
  ("Scan text into classified tokens\n\n" ++
   "Usage: tokenizer [OPTIONS] [INPUT]\n\n" ++
   "Arguments:\n" ++
   "  [INPUT]  Text to scan; a built-in sample is used when neither this nor --file is given\n\n" ++
   "Options:\n" ++
   "  -f, --file <PATH>        Read the text to scan from a file\n" ++
   "      --block-comments     Recognize `/* */` comments as well as `//` ones\n" ++
   "      --log-level <LEVEL>  Log filter used when RUST_LOG is not set [default: warn]\n" ++
   "  -h, --help               Print help\n" ++
   "  -V, --version            Print version\n").toList

/-- The printed form of tokens: an empty line before each and a drawn line after it. -/
def listing (tokens : List Token) : Text :=
  tokens.flatMap (fun token => '\n' :: (token.render ++ "\n________________\n".toList))

/-- The exit code of a run that is broken off. -/
def brokenOffCode : Nat := 101

/-- Scans a text and prints its tokens.  If text is left after that, the error that stopped the
scan is reported and the exit code says so.  A report that breaks off breaks off the run. -/
def scanText (rules : List Rule) (source name : Text) : Answer :=
  let drained := (Cursor.ofText source).drain rules
  let printed := listing drained.answer
  if drained.cursor.hasMore then
    match (drained.cursor.scan rules).answer with
    | .failed error =>
        ⟨if Report.breaksOff error source name then brokenOffCode else 1,
          printed ++ Report.render error source name, none⟩
    | _ => ⟨0, printed, none⟩
  else
    ⟨0, printed, none⟩

/-- The text to scan and the name it goes by. -/
def source (options : Options) (read : Text → Except ReadError ByteArray) :
    Except Text (Text × Text) :=
  match options.input, options.file with
  | some input, _ => .ok (input, "<input>".toList)
  | none, some path =>
      match read path >>= decodeText with
      | .ok contents => .ok (contents, path)
      | .error reason =>
          .error ("Error: failed to read ".toList ++ path ++ ": ".toList ++ reason.message)
  | none, none => .ok (sample, "<sample>".toList)

/-- The rules that the options choose. -/
def rules (options : Options) : List Rule :=
  if options.blockComments then Rule.withBlockComments else Rule.standard

/-- Answers a command line. -/
def answer (invocation : Invocation) (read : Text → Except ReadError ByteArray) : Answer :=
  match invocation with
  | .help => ⟨0, helpText, none⟩
  | .version => ⟨0, versionText, none⟩
  | .invalid => ⟨2, [], none⟩
  | .run options =>
      match source options read with
      | .ok (text, name) => scanText (rules options) text name
      | .error complaint => ⟨1, [], some complaint⟩

/-- Runs the program with a way to read command lines. -/
def runWith (parse : List Text → Invocation) (arguments : List Text)
    (read : Text → Except ReadError ByteArray) : Answer :=
  answer (parse arguments) read

/-- Runs the program. -/
def run (arguments : List Text) (read : Text → Except ReadError ByteArray) : Answer :=
  runWith Invocation.ofArguments arguments read

end Program
end SpanLexer
