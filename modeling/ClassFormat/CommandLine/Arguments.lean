import ClassFormat.ClassFile.Basic

/-!
# Command line arguments

The command line names, in this order, switches, what to show, and the files to read and to write.
The switches belong to the program as a whole and stand before the word that says what to show.

## Main definitions

* `ClassFormat.View` — what to show.
* `ClassFormat.Invocation` — everything that a complete command line asks for.
* `ClassFormat.Request` — what a command line comes to: a complete one, a question about the
  program, or one that is refused.
* `ClassFormat.Request.ofArguments` — reads the arguments.
-/

namespace ClassFormat

/-- What to show of a class file. -/
inductive View where
  /-- Everything in it. -/
  | contents
  /-- Its declaration as source code. -/
  | outline
  deriving DecidableEq, Repr

/-- The word that asks for a view. -/
def View.word : View → String
  | contents => "dump"
  | outline => "decompile"

/-- The view that a word asks for. -/
def View.ofWord? (word : String) : Option View :=
  [contents, outline].find? fun view => view.word == word

/-- Everything that a complete command line asks for. -/
structure Invocation where
  /-- How often more detail in the log was asked for. -/
  verbosity : Nat
  /-- Whether colour was asked for. -/
  colour : Bool
  /-- What the decode refuses. -/
  options : Options
  /-- What to show. -/
  view : View
  /-- The path of the class file. -/
  input : String
  /-- The path of the file to write, if not to standard output. -/
  output : Option String
  deriving DecidableEq, Repr

/-- What a command line comes to. -/
inductive Request where
  | perform (invocation : Invocation)
  /-- The name and version of the program, or of the part of it that shows a view. -/
  | version (part : Option View)
  | help
  | refused
  deriving DecidableEq, Repr

/-! ## Numbers -/

/-- A number of 16 bits in decimal digits, perhaps with a plus sign in front. -/
def readUInt16? (text : String) : Option UInt16 :=
  let digits := match text.toList with
    | '+' :: rest => rest
    | chars => chars
  if digits.isEmpty || !digits.all Char.isDigit then none
  else
    let value := digits.foldl (fun number digit => number * 10 + (digit.toNat - '0'.toNat)) 0
    if value < 65536 then some (UInt16.ofNat value) else none

/-! ## Switches -/

/-- The switches given so far: how often each, and the texts given for the greatest version. -/
structure Switches where
  verbose : Nat := 0
  colour : Nat := 0
  strict : Nat := 0
  verifyPool : Nat := 0
  maxVersion : List String := []
  deriving DecidableEq, Repr

/-- How the reading of an argument goes on. -/
inductive Progress where
  /-- With the switches as they are now. -/
  | switches (switches : Switches)
  /-- With the text for the greatest version, which is the next argument. -/
  | awaitsVersion (switches : Switches)
  /-- Not at all: the answer is known. -/
  | decided (request : Request)

namespace Switches

/-- A switch with a long name, and the text behind an equals sign, which only the greatest version
makes use of. -/
def readLong (switches : Switches) (name : String) (value : Option String) : Progress :=
  match name, value with
  | "verbose", _ => .switches { switches with verbose := switches.verbose + 1 }
  | "color", _ => .switches { switches with colour := switches.colour + 1 }
  | "strict", _ => .switches { switches with strict := switches.strict + 1 }
  | "verify-pool", _ => .switches { switches with verifyPool := switches.verifyPool + 1 }
  | "max-version", some text =>
    .switches { switches with maxVersion := switches.maxVersion ++ [text] }
  | "max-version", none => .awaitsVersion switches
  | "version", _ => .decided (.version none)
  | "help", _ => .decided .help
  | _, _ => .decided .refused

/-- Switches of one letter each. -/
def readShort (switches : Switches) : List Char → Progress
  | [] => .switches switches
  | 'v' :: rest => readShort { switches with verbose := switches.verbose + 1 } rest
  | 'V' :: _ => .decided (.version none)
  | 'h' :: _ => .decided .help
  | _ => .decided .refused

/-- The options that the switches ask for. Only more detail can be asked for twice, and the greatest
version is a number. -/
def options? (switches : Switches) : Option Options :=
  let single := switches.colour ≤ 1 && switches.strict ≤ 1 && switches.verifyPool ≤ 1
  let options : Options :=
    { strictAccess := switches.strict != 0, verifyPool := switches.verifyPool != 0 }
  match single, switches.maxVersion with
  | true, [] => some options
  | true, [text] => (readUInt16? text).map fun limit => { options with maxMajor := some limit }
  | _, _ => none

end Switches

/-- The switches after an argument that does not give the number due before it: an empty text stands
for the number, which is no number. -/
def Switches.withoutDue (switches : Switches) (awaitsVersion : Bool) : Switches :=
  if awaitsVersion then { switches with maxVersion := switches.maxVersion ++ [""] } else switches

/-- Splits a long switch at its first equals sign; further ones right behind it are passed over. -/
def splitLong (argument : List Char) : String × Option String :=
  let name := argument.dropWhile (· = '-')
  match name.dropWhile (· ≠ '=') with
  | [] => (String.ofList name, none)
  | rest =>
    (String.ofList (name.takeWhile (· ≠ '=')), some (String.ofList (rest.dropWhile (· = '='))))

/-! ## Files -/

/-- The paths behind the word for a view: the input, and perhaps the output. Behind `--` every
argument is a path. -/
def readPaths (view : View) (literal : Bool) (paths : List String) :
    List String → Except Request (List String)
  | [] => .ok paths.reverse
  | argument :: rest =>
    if literal then readPaths view literal (argument :: paths) rest
    else
      match argument.toList with
      | ['-', '-'] => readPaths view true paths rest
      | '-' :: '-' :: _ =>
        match (splitLong argument.toList).1 with
        | "version" => .error (.version (some view))
        | "help" => .error .help
        | _ => .error .refused
      | '-' :: 'V' :: _ => .error (.version (some view))
      | '-' :: 'h' :: _ => .error .help
      | '-' :: _ :: _ => .error .refused
      | _ =>
        if paths.length < 2 then readPaths view literal (argument :: paths) rest
        else .error .refused

/-- What comes of the switches, the view and the arguments behind it. -/
def Request.conclude (switches : Switches) (view : View) (arguments : List String) : Request :=
  match readPaths view false [] arguments with
  | .error request => request
  | .ok paths =>
    let perform (options : Options) (input : String) (output : Option String) : Request :=
      .perform
        { verbosity := switches.verbose % 256, colour := switches.colour != 0, options, view, input,
          output }
    match switches.options?, paths with
    | some options, [input] => perform options input none
    | some options, [input, output] => perform options input (some output)
    | _, _ => .refused

/-! ## The whole command line -/

/-- The word that asks for help. -/
def helpWord : String :=
  "help"

/-- What comes of the arguments behind the word that asks for help: at most one of them, which names
what help is wanted on. -/
def Request.help? : List String → Request
  | [] => .help
  | [topic] => if (View.ofWord? topic).isSome || topic == helpWord then .help else .refused
  | _ => .refused

/-- Reads the arguments behind the switches given so far. -/
def Request.read (switches : Switches) (awaitsVersion : Bool) : List String → Request
  | [] => .refused
  | argument :: rest =>
    let goOn : Progress → Request
      | .switches switches => Request.read switches false rest
      | .awaitsVersion switches => Request.read switches true rest
      | .decided request => request
    match argument.toList with
    | ['-', '-'] => .refused
    | '-' :: '-' :: _ =>
      let (name, value) := splitLong argument.toList
      goOn ((switches.withoutDue awaitsVersion).readLong name value)
    | '-' :: first :: letters =>
      goOn ((switches.withoutDue awaitsVersion).readShort (first :: letters))
    | _ =>
      if awaitsVersion then
        Request.read { switches with maxVersion := switches.maxVersion ++ [argument] } false rest
      else
        match View.ofWord? argument with
        | some view => Request.conclude switches view rest
        | none => if argument == helpWord then Request.help? rest else .refused

/-- What the arguments of a command line come to. -/
def Request.ofArguments (arguments : List String) : Request :=
  Request.read {} false arguments

end ClassFormat
