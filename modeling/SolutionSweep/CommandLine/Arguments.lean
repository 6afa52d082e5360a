import SolutionSweep.CommandLine.Flag
import SolutionSweep.Text.Numeral
import SolutionSweep.Text.Quoted

/-!
# Arguments of the command line

Arguments are told apart first, each on its own: values, flags, and the separator after which all
arguments are values. Then they are taken in order. The first value that no flag takes is the
manifest; there has to be one, and nothing may be left over.

* `Token`: what an argument is, `Token.classify` how it is told;
* `FlagValue`: what a flag that takes a value is given;
* `Arguments`: what the arguments say;
* `Arguments.parse`: reads them, or tells what is wrong with them.
-/

namespace SolutionSweep

/-- What can be wrong with the value of a flag. -/
inductive ValueProblem
  | missing
  | unexpected (value : Text)
  | noInteger (value : Text)
  | noChoice (value : Text)
  deriving DecidableEq, Repr

/-- What can be wrong with the arguments. -/
inductive UsageError
  | ambiguous (argument : Text) (spellings : List Text)
  | value (flag : Flag) (problem : ValueProblem)
  | noManifest
  | unrecognized (arguments : List Text)
  deriving DecidableEq, Repr

/-- What is said about the value of a flag. -/
def ValueProblem.message : ValueProblem → Text
  | missing => "expected one argument".toList
  | unexpected value => "ignored explicit argument ".toList ++ value.quoted
  | noInteger value => "invalid int value: ".toList ++ value.quoted
  | noChoice value =>
      "invalid choice: ".toList ++ value.quoted ++ " (choose from 'true', 'false')".toList

/-- What is said about arguments that cannot be used. -/
def UsageError.message : UsageError → Text
  | ambiguous argument spellings =>
      "ambiguous option: ".toList ++ argument ++ " could match ".toList ++
        Text.join ", ".toList spellings
  | value flag problem =>
      "argument ".toList ++ flag.label ++ ": ".toList ++ problem.message
  | noManifest => "the following arguments are required: manifest".toList
  | unrecognized arguments =>
      "unrecognized arguments: ".toList ++ Text.join [' '] arguments

/-! ### Telling arguments apart -/

/-- What is written to a flag in the same argument: after an equals sign, or directly after a
flag of one letter. -/
inductive Attached
  | nothing
  | equals (value : Text)
  | letters (value : Text)
  deriving DecidableEq, Repr

/-- What an equals sign attaches to a flag of one letter: letters, if there are any. -/
def Attached.asLetters : Attached → Attached
  | .equals (c :: cs) => .letters (c :: cs)
  | attached => attached

/-- What an argument is. -/
inductive Token
  | value (text : Text)
  | separator
  | flag (f : Flag) (attached : Attached)
  | unknown (text : Text)
  deriving DecidableEq, Repr

/-- Whether the argument is a flag, be it known or not. -/
def Token.isFlag : Token → Bool
  | flag _ _ => true
  | unknown _ => true
  | _ => false

namespace Token

/-- The separator after which all arguments are values. -/
def separatorText : Text := ['-', '-']

/-- Whether an argument is a hyphen and a number, with an optional line feed at the end. -/
def isNegativeNumber (argument : Text) : Bool :=
  match argument with
  | '-' :: rest =>
      let number := if rest.getLast? = some '\n' then rest.dropLast else rest
      match number.dropWhile isDigit with
      | [] => !number.isEmpty
      | '.' :: fraction => !fraction.isEmpty && fraction.all isDigit
      | _ => false
  | _ => false

/-- What stands before and after the first equals sign, if there is one. -/
def splitEquals (argument : Text) : Text × Attached :=
  match Text.cut? ['='] argument with
  | some (before, after) => (before, .equals after)
  | none => (argument, .nothing)

/-- The flags that an argument may stand for when it is cut short or has letters attached. -/
def interpretations (argument : Text) : List (Text × Flag × Attached) :=
  if separatorText.isPrefixOf argument then
    let (start, attached) := splitEquals argument
    (Flag.spellings.filter fun s => start.isPrefixOf s.1).map fun s => (s.1, s.2, attached)
  else
    Flag.spellings.filterMap fun s =>
      if s.1 = argument.take 2 then some (s.1, s.2, .letters (argument.drop 2))
      else if argument.isPrefixOf s.1 then some (s.1, s.2, .nothing)
      else none

/-- Tells an argument in front of the separator that begins with a hyphen. -/
def classifyHyphened (argument : Text) : Except UsageError Token :=
  match Flag.spellings.lookup argument with
  | some f => .ok (.flag f .nothing)
  | none =>
      if argument.length = 1 then .ok (.value argument)
      else
        let (start, attached) := splitEquals argument
        match Flag.spellings.lookup start with
        | some f =>
            .ok (.flag f (if separatorText.isPrefixOf start then attached else attached.asLetters))
        | none =>
            match interpretations argument with
            | [(_, f, attached)] => .ok (.flag f attached)
            | [] =>
                if isNegativeNumber argument || argument.contains ' ' then .ok (.value argument)
                else .ok (.unknown argument)
            | several => .error (.ambiguous argument (several.map (·.1)))

/-- Tells the arguments apart. -/
def classify : List Text → Except UsageError (List Token)
  | [] => .ok []
  | argument :: rest =>
      if argument = separatorText then .ok (.separator :: rest.map .value)
      else if argument.head? = some '-' then
        match classifyHyphened argument with
        | .error e => .error e
        | .ok token => (classify rest).map (token :: ·)
      else (classify rest).map (.value argument :: ·)

/-- An argument as it is listed when it is left over. -/
def text : Token → Text
  | value t => t
  | unknown t => t
  | separator => separatorText
  | flag f _ => f.label

end Token

/-! ### Taking arguments -/

/-- What a flag that takes a value is given. Where the separator stands in the place of a value it
is dropped, and the flag is given nothing. -/
inductive FlagValue (α : Type)
  | given (value : α)
  | dropped
  deriving DecidableEq, Repr

/-- The value, if there is one. -/
def FlagValue.toOption {α : Type} : FlagValue α → Option α
  | given v => some v
  | dropped => none

/-- What a flag is given by a text attached to it. -/
def FlagValue.ofAttached (t : Text) : FlagValue Text :=
  if t = Token.separatorText then .dropped else .given t

/-- What the arguments say. -/
structure Arguments where
  manifest : Option Text
  yes : Bool
  dryRun : Bool
  json : Bool
  keep : List (FlagValue Text)
  dataDir : Option (FlagValue Text)
  pruneFolders : Option Bool
  extensions : Option (List Text)
  noAudit : Bool
  showConfig : Bool
  auditTail : Option (FlagValue Int)
  auditSince : Option (FlagValue Text)
  leftOver : List Text
  deriving DecidableEq, Repr

namespace Arguments

/-- No argument is given. -/
def none : Arguments where
  manifest := .none
  yes := false
  dryRun := false
  json := false
  keep := []
  dataDir := .none
  pruneFolders := .none
  extensions := .none
  noAudit := false
  showConfig := false
  auditTail := .none
  auditSince := .none
  leftOver := []

/-- What a flag without a value says. -/
def withFlag (a : Arguments) : Flag → Arguments
  | .yes => { a with yes := true }
  | .dryRun => { a with dryRun := true }
  | .json => { a with json := true }
  | .noAudit => { a with noAudit := true }
  | .showConfig => { a with showConfig := true }
  | _ => a

/-- How many records a text asks for. -/
def recordCount : FlagValue Text → Except UsageError (FlagValue Int)
  | .dropped => .ok .dropped
  | .given v =>
      match readInteger? v with
      | some n => .ok (.given n)
      | .none => .error (.value .auditTail (.noInteger v))

/-- Whether a text asks for empty folders to be pruned; a dropped value leaves it open. -/
def pruneChoice : FlagValue Text → Except UsageError (Option Bool)
  | .dropped => .ok .none
  | .given v =>
      if v = "true".toList then .ok (some true)
      else if v = "false".toList then .ok (some false)
      else .error (.value .pruneEmptyFolders (.noChoice v))

/-- What a flag with a value says. A dropped extension is a blank one. -/
def withValue (a : Arguments) (f : Flag) (v : FlagValue Text) : Except UsageError Arguments :=
  match f with
  | .keep => .ok { a with keep := a.keep ++ [v] }
  | .dataDir => .ok { a with dataDir := some v }
  | .projectExtension =>
      .ok { a with extensions := some (a.extensions.getD [] ++ [v.toOption.getD []]) }
  | .auditSince => .ok { a with auditSince := some v }
  | .auditTail => (recordCount v).map fun n => { a with auditTail := some n }
  | .pruneEmptyFolders => (pruneChoice v).map fun b => { a with pruneFolders := b }
  | _ => .ok (a.withFlag f)

/-- One more argument that nothing takes. -/
def leave (a : Arguments) (t : Token) : Arguments := { a with leftOver := a.leftOver ++ [t.text] }

/-- What is wrong with letters after a flag of one letter, none of which takes a value: nothing as
long as they are flags. From the first other letter on they are a value that nothing takes. -/
def lettersProblem : Text → Option ValueProblem
  | [] => .none
  | c :: rest => if c = 'h' then lettersProblem rest else some (.unexpected (c :: rest))

/-- What is wrong with something attached to a flag that takes no value. -/
def attachedProblem : Attached → Option ValueProblem
  | .nothing => .none
  | .equals v => some (.unexpected v)
  | .letters v => lettersProblem v

/-- The end of the arguments, or a request for help before it. -/
inductive Parsed
  | arguments (a : Arguments)
  | help
  deriving DecidableEq, Repr

/-- Takes the arguments after the last flag: the manifest, if it is still wanted, with or without
a separator on either side of it; the others are left over. -/
def takeValues (a : Arguments) (tokens : List Token) : Arguments :=
  let rest (tokens : List Token) : List Text := a.leftOver ++ tokens.map (·.text)
  match a.manifest, tokens with
  | .none, .separator :: .value v :: more => { a with manifest := some v, leftOver := rest more }
  | .none, .value v :: .separator :: more => { a with manifest := some v, leftOver := rest more }
  | .none, .value v :: more => { a with manifest := some v, leftOver := rest more }
  | _, tokens => { a with leftOver := rest tokens }

/-- Takes arguments in order. -/
def take (a : Arguments) : List Token → Except UsageError Parsed
  | [] => .ok (.arguments a)
  | .flag f attached :: rest =>
      if f.takesValue then
        match attached with
        | .equals v | .letters v =>
            match a.withValue f (.ofAttached v) with
            | .error e => .error e
            | .ok a => take a rest
        | .nothing =>
            match rest with
            | .value v :: rest =>
                match a.withValue f (.given v) with
                | .error e => .error e
                | .ok a => take a rest
            | _ => .error (.value f .missing)
      else
        match attachedProblem attached with
        | some p => .error (.value f p)
        | .none => if f = .help then .ok .help else take (a.withFlag f) rest
  | .unknown t :: rest => take (a.leave (.unknown t)) rest
  | t :: rest =>
      if rest.any (·.isFlag) then
        match a.manifest, t with
        | .none, .value v => take { a with manifest := some v } rest
        | _, t => take (a.leave t) rest
      else .ok (.arguments (takeValues a (t :: rest)))

/-- Reads the arguments of the command line. -/
def parse (arguments : List Text) : Except UsageError Parsed :=
  match Token.classify arguments with
  | .error e => .error e
  | .ok tokens =>
      match take none tokens with
      | .error e => .error e
      | .ok .help => .ok .help
      | .ok (.arguments a) =>
          if a.manifest.isNone then .error .noManifest
          else if !a.leftOver.isEmpty then .error (.unrecognized a.leftOver)
          else .ok (.arguments a)

end Arguments

end SolutionSweep
