/-
# Arguments

A command line is a row of words: options, which begin with a hyphen, and operands.  An option has
a long name behind two hyphens and may have a letter behind one; letters without a value can be put
together.  A value stands in the next word, behind an equals sign, or directly behind the letter.
Two hyphens alone end the options.

Words are taken one by one, and the first that cannot be taken, or that asks for the version or for
help, decides.  What is missing is looked for at the end.
-/
import SchemaMock.Text.Pieces

namespace SchemaMock.CommandLine

/-! ## 1. Options -/

/-- What may stand as the value of an option. -/
inductive ValueKind where
  | text
  /-- A path is not empty. -/
  | path
  | oneOf (words : List String)

/-- Whether a value is of a kind. -/
def ValueKind.allows : ValueKind → String → Bool
  | text, _ => true
  | path, value => !value.isEmpty
  | oneOf words, value => words.contains value

/-- What an option does. -/
inductive OptionEffect where
  /-- Takes a value, once or several times. -/
  | value (kind : ValueKind) (repeats : Bool)
  /-- Is there or not. -/
  | flag
  | version
  | help

/-- An option of a command. -/
structure OptionRule where
  long : String
  letter : Option Char
  effect : OptionEffect

/-- Why no command comes of a command line. -/
inductive Stop where
  /-- The words are no command. -/
  | usage
  | version
  | help
  deriving DecidableEq, Repr

/-- The words of a command line, as far as they have been taken. -/
structure Arguments where
  /-- The options, by their long names, and their values, in order. -/
  options : List (String × String)
  operands : List String

namespace Arguments

/-- No words. -/
def empty : Arguments := ⟨[], []⟩

/-- The values of an option. -/
def values (a : Arguments) (name : String) : List String :=
  (a.options.filter fun e => e.1 == name).map Prod.snd

/-- The value of an option that comes once at most. -/
def value? (a : Arguments) (name : String) : Option String := (a.values name).head?

/-! ## 2. Taking words -/

/-- Whether a word is an option. -/
def isOption (word : String) : Bool := "-".toList.isPrefixOf word.toList && word != "-"

/-- An option with a value. -/
def takeValue (a : Arguments) (rule : OptionRule) (kind : ValueKind) (repeats : Bool)
    (value : String) : Except Stop Arguments :=
  if kind.allows value && (repeats || (a.value? rule.long).isNone) then
    .ok { a with options := a.options ++ [(rule.long, value)] }
  else .error .usage

/-- An option without a value. -/
def takeFlag (a : Arguments) (rule : OptionRule) : Except Stop Arguments :=
  match rule.effect with
  | .version => .error .version
  | .help => .error .help
  | .value _ _ => .error .usage
  | .flag => takeValue a rule .text false ""

/-- An option, the text that belongs to it if there is one, and the words behind it. -/
def takeOption (a : Arguments) (rule : OptionRule) (attached : Option String)
    (rest : List String) : Except Stop (Arguments × List String) :=
  match rule.effect, attached, rest with
  | .value kind repeats, some value, rest => return (← takeValue a rule kind repeats value, rest)
  | .value kind repeats, none, value :: rest =>
    if isOption value then .error .usage else return (← takeValue a rule kind repeats value, rest)
  | .value _ _, none, [] => .error .usage
  | _, some _, _ => .error .usage
  | _, none, rest => return (← takeFlag a rule, rest)

/-- An option by its long name, which a value may follow behind an equals sign. -/
def takeLong (rules : List OptionRule) (a : Arguments) (body : List Char) (rest : List String) :
    Except Stop (Arguments × List String) :=
  let (name, attached) := Text.splitFirst '=' body
  match rules.find? fun rule => rule.long.toList == name with
  | some rule => takeOption a rule (attached.map String.ofList) rest
  | none => .error .usage

/-- Options by their letters.  The first that takes a value ends them. -/
def takeLetters (rules : List OptionRule) (a : Arguments) (rest : List String) :
    List Char → Except Stop (Arguments × List String)
  | [] => return (a, rest)
  | c :: letters =>
    match rules.find? fun rule => rule.letter == some c with
    | none => .error .usage
    | some rule =>
      match rule.effect with
      | .value _ _ =>
        let attached := match letters with
          | [] => none
          | '=' :: value => some (String.ofList value)
          | value => some (String.ofList value)
        takeOption a rule attached rest
      | _ => do takeLetters rules (← takeFlag a rule) rest letters

/-- One operand more, of `most` at most. -/
def takeOperand (most : Nat) (a : Arguments) (word : String) : Except Stop Arguments :=
  if a.operands.length < most ∧ ¬ word.isEmpty then
    .ok { a with operands := a.operands ++ [word] }
  else .error .usage

/-- All words of a command that has `most` operands at most; they are paths.  `fuel` is the number
of the words at least. -/
def takeAll (rules : List OptionRule) (most : Nat) :
    (fuel : Nat) → Arguments → List String → Except Stop Arguments
  | _, a, [] => .ok a
  | 0, _, _ :: _ => .error .usage
  | fuel + 1, a, word :: rest =>
    if word = "--" then rest.foldlM (takeOperand most) a
    else if isOption word then do
      let (a, rest) ←
        match word.toList with
        | '-' :: '-' :: body => takeLong rules a body rest
        | letters => takeLetters rules a rest (letters.drop 1)
      takeAll rules most fuel a rest
    else do takeAll rules most fuel (← takeOperand most a word) rest

/-- The options in front of the first operand, that operand and the words behind it. -/
def takeFront (rules : List OptionRule) :
    (fuel : Nat) → Arguments → List String → Except Stop (String × List String)
  | 0, _, _ => .error .usage
  | _, _, [] => .error .usage
  | fuel + 1, a, word :: rest =>
    if isOption word then do
      let (a, rest) ←
        match word.toList with
        | '-' :: '-' :: body => takeLong rules a body rest
        | letters => takeLetters rules a rest (letters.drop 1)
      takeFront rules fuel a rest
    else .ok (word, rest)

end Arguments

/-! ## 3. Commands -/

/-- How mocks are written. -/
inductive Rendering where
  /-- A document with indentation. -/
  | pretty
  /-- A document without blanks. -/
  | compact
  /-- The expressions alone. -/
  | expression
  deriving DecidableEq, Repr

/-- The format of a word. -/
def Rendering.ofWord (word : String) : Rendering :=
  if word = "compact" then .compact else if word = "expression" then .expression else .pretty

/-- What every command is told. -/
structure CommandTarget where
  /-- The path of the root document. -/
  input : String
  /-- The path of a file with options. -/
  config : Option String
  /-- The path of a file for the output. -/
  output : Option String
  format : Rendering
  deriving DecidableEq, Repr

/-- What the user wants. -/
inductive Command where
  /-- The mock of the schema at a pointer. -/
  | resolve (target : CommandTarget) (pointer name operationId : String) (tags : List String)
  /-- The mocks of all responses. -/
  | operations (target : CommandTarget)
  deriving DecidableEq, Repr

namespace Command

/-- What every command is told. -/
def target : Command → CommandTarget
  | resolve target _ _ _ _ => target
  | operations target => target

/-- The options that stand anywhere. -/
def everywhere : List OptionRule :=
  [⟨"verbose", some 'v', .flag⟩, ⟨"help", some 'h', .help⟩]

/-- The options in front of the name of a command. -/
def frontRules : List OptionRule := ⟨"version", some 'V', .version⟩ :: everywhere

/-- The options of every command. -/
def targetRules : List OptionRule :=
  [⟨"config", some 'c', .value .path false⟩, ⟨"output", some 'o', .value .path false⟩,
    ⟨"format", none, .value (.oneOf ["pretty", "compact", "expression"]) false⟩] ++ everywhere

/-- The options of the command for one pointer. -/
def resolveRules : List OptionRule :=
  [⟨"pointer", some 'p', .value .text false⟩, ⟨"name", none, .value .text false⟩,
    ⟨"operation-id", none, .value .text false⟩, ⟨"tag", none, .value .text true⟩] ++ targetRules

/-- What every command is told, from its words. -/
def targetOf (a : Arguments) : Except Stop CommandTarget :=
  match a.operands with
  | [input] =>
    .ok ⟨input, a.value? "config", a.value? "output", .ofWord ((a.value? "format").getD "pretty")⟩
  | _ => .error .usage

/-- The command of some words behind its name. -/
def ofWords (name : String) (words : List String) : Except Stop Command := do
  if name = "resolve" then
    let a ← Arguments.takeAll resolveRules 1 words.length .empty words
    match a.value? "pointer" with
    | none => .error .usage
    | some pointer =>
      let text := fun name => (a.value? name).getD ""
      .ok (.resolve (← targetOf a) pointer (text "name") (text "operation-id") (a.values "tag"))
  else if name = "operations" then
    let a ← Arguments.takeAll targetRules 1 words.length .empty words
    .ok (.operations (← targetOf a))
  else if name = "help" then
    .error (if words.length ≤ 1 && words.all ["resolve", "operations", "help"].contains then .help
      else .usage)
  else .error .usage

/-- The command of a command line. -/
def ofArguments (words : List String) : Except Stop Command := do
  let (name, rest) ← Arguments.takeFront frontRules words.length .empty words
  ofWords name rest

end Command

end SchemaMock.CommandLine
