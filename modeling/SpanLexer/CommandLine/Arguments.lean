import SpanLexer.Text

/-!
# Command line arguments

The command line scans a text given as an argument, the contents of a file, or a sample.

* `Argument`, `Argument.ofText` — how one argument reads while options are allowed.
* `Options` — what a command line asks for; options may be given once.
* `Invocation`, `Invocation.ofArguments` — what a whole command line comes to.

Arguments are read from left to right and the first that decides the outcome does so, so a fault
after a request for help or for the version goes unnoticed.
-/

namespace SpanLexer

/-- The options that take a value. -/
inductive ValueOption where
  | file
  | logLevel
  deriving DecidableEq, Repr

/-- One argument. -/
inductive Argument where
  /-- An argument that is no option. -/
  | plain (value : Text)
  /-- The mark after which no argument is an option. -/
  | endOfOptions
  | help
  | version
  | blockComments
  /-- An option that takes a value, with the value if it is attached. -/
  | valued (option : ValueOption) (value : Option Text)
  | unknown
  deriving DecidableEq, Repr

namespace Argument

/-- The value attached to a letter: what follows it, without an equals sign in front. -/
def attached : Text → Option Text
  | [] => none
  | '=' :: value => some value
  | value => some value

/-- An option written out after two dashes, with its value if an equals sign follows. -/
def ofLong (name : Text) (value : Option Text) : Argument :=
  if name = "file".toList then .valued .file value
  else if name = "log-level".toList then .valued .logLevel value
  else if value ≠ none then .unknown
  else if name = "block-comments".toList then .blockComments
  else if name = "help".toList then .help
  else if name = "version".toList then .version
  else .unknown

/-- An option written as a letter, with what follows the letter.  The options without a value end
the command line at once, so nothing after their letter counts. -/
def ofLetter (letter : Char) (later : Text) : Argument :=
  if letter = 'f' then .valued .file (attached later)
  else if letter = 'h' then .help
  else if letter = 'V' then .version
  else .unknown

/-- How an argument reads.  A dash alone is no option. -/
def ofText : Text → Argument
  | ['-', '-'] => .endOfOptions
  | '-' :: '-' :: later =>
      ofLong (later.takeWhile (· != '=')) (attached (later.dropWhile (· != '=')))
  | '-' :: letter :: later => ofLetter letter later
  | value => .plain value

end Argument

/-- What a command line asks for. -/
structure Options where
  input : Option Text
  file : Option Text
  blockComments : Bool
  logLevel : Option Text
  deriving DecidableEq, Repr

namespace Options

/-- The options of an empty command line. -/
def empty : Options := ⟨none, none, false, none⟩

/-- Sets the text to scan, unless there is one. -/
def setInput (options : Options) (value : Text) : Option Options :=
  if options.input = none then some { options with input := some value } else none

/-- Asks for block comments, unless that was asked for. -/
def setBlockComments (options : Options) : Option Options :=
  if options.blockComments then none else some { options with blockComments := true }

/-- Sets a value, unless there is one.  The name of a file is not empty. -/
def setValue (options : Options) (value : Text) : ValueOption → Option Options
  | .file =>
      if options.file = none ∧ value ≠ [] then some { options with file := some value }
      else none
  | .logLevel =>
      if options.logLevel = none then some { options with logLevel := some value }
      else none

end Options

/-- What a command line comes to. -/
inductive Invocation where
  | run (options : Options)
  | help
  | version
  | invalid
  deriving DecidableEq, Repr

namespace Invocation

/-- The end of the arguments.  A text and a file exclude each other. -/
def finish (options : Options) : Invocation :=
  if options.input ≠ none ∧ options.file ≠ none then .invalid else .run options

/-- Reads the arguments after the mark that ends the options. -/
def ofPlain (options : Options) : List Text → Invocation
  | [] => finish options
  | value :: later =>
      match options.setInput value with
      | some options => ofPlain options later
      | none => .invalid

/-- Reads arguments.  `pending` is an option whose value must come next. -/
def ofArgumentsFrom (options : Options) (pending : Option ValueOption) : List Text → Invocation
  | [] => if pending = none then finish options else .invalid
  | argument :: later =>
      match pending, Argument.ofText argument with
      | some option, .plain value =>
          match options.setValue value option with
          | some options => ofArgumentsFrom options none later
          | none => .invalid
      | some _, _ => .invalid
      | none, .plain value =>
          match options.setInput value with
          | some options => ofArgumentsFrom options none later
          | none => .invalid
      | none, .endOfOptions => ofPlain options later
      | none, .help => .help
      | none, .version => .version
      | none, .blockComments =>
          match options.setBlockComments with
          | some options => ofArgumentsFrom options none later
          | none => .invalid
      | none, .valued option (some value) =>
          match options.setValue value option with
          | some options => ofArgumentsFrom options none later
          | none => .invalid
      | none, .valued option none => ofArgumentsFrom options (some option) later
      | none, .unknown => .invalid

/-- Reads a command line. -/
def ofArguments (arguments : List Text) : Invocation :=
  ofArgumentsFrom Options.empty none arguments

end Invocation
end SpanLexer
