import HtmlTemplate.Text.Word

/-!
# Arguments of the command line

The command line names a command, `list` or `render`, after options of its own and before those of the command. An
option has a long name, which may be cut short as long as it stays clear, or a letter; letters may be joined. A value
follows its option as the next word, or is attached to it. Two dashes end the options.
-/

namespace HtmlTemplate

/-- The options. -/
inductive Flag where
  | help
  | version
  | verbose
  | json
  | directory
  | config
  | data
  | layout
  | contentName
  | output
  deriving DecidableEq, Repr

namespace Flag

/-- Whether a value belongs to the option. -/
def takesValue : Flag → Bool
  | .help => false
  | .version => false
  | .verbose => false
  | .json => false
  | _ => true

end Flag

/-- The names of some options. -/
abbrev FlagTable := List (Text × Flag)

namespace FlagTable

/-- A table of names. -/
def ofNames (names : List (String × Flag)) : FlagTable := names.map fun (name, flag) => (name.text, flag)

/-- The options in front of the command. -/
def general : FlagTable :=
  ofNames [("-h", .help), ("--help", .help), ("--version", .version), ("--verbose", .verbose), ("-v", .verbose)]

/-- The options of the command `list`. -/
def list : FlagTable :=
  ofNames [("-h", .help), ("--help", .help), ("--dir", .directory), ("-d", .directory), ("--config", .config),
    ("-c", .config), ("--json", .json)]

/-- The options of the command `render`. -/
def render : FlagTable :=
  list ++ ofNames [("--data", .data), ("--layout", .layout), ("--content-var", .contentName), ("--output", .output),
    ("-o", .output)]

end FlagTable

/-- What the options of a command say. The empty text stands for an option that is not given. -/
structure Options where
  directories : List Text
  config : Text
  data : Text
  layout : Text
  contentName : Text
  output : Text
  json : Bool
  deriving DecidableEq, Repr

/-- What the command line asks for. -/
inductive Request where
  | list (options : Options)
  | render (name : Text) (options : Options)
  deriving DecidableEq, Repr

/-- Why the command line asks for nothing that can be run. -/
inductive Stop where
  | badUsage
  | help
  | version
  deriving DecidableEq, Repr

namespace Arguments

/-- What is attached to an option in its word: nothing, a value after an equals sign, or the characters after a
letter, which are a value or further letters. -/
inductive Attached where
  | nothing
  | value (s : Text)
  | letters (s : Text)
  deriving DecidableEq, Repr

/-- A word of the command line: a plain one, the two dashes that end the options, or an option as it is named. An
option that is not known has no flag. -/
inductive Word where
  | plain (s : Text)
  | dashes
  | flag (name : Text) (flag : Option Flag) (attached : Attached)
  deriving DecidableEq, Repr

/-- The two dashes. -/
def dashes : Text := ['-', '-']

/-- The text in front of the first equals sign, and the text after it if there is one. -/
def splitAtEquals (s : Text) : Text × Option Text :=
  match s.dropWhile (· ≠ ('=' : CodePoint)) with
  | [] => (s, none)
  | _ :: value => (s.takeWhile (· ≠ '='), some value)

/-- The options that a word may stand for. -/
def candidates (table : FlagTable) (s : Text) : List Word :=
  if dashes.isPrefixOf s then
    let (name, value) := splitAtEquals s
    let attached := (value.map Attached.value).getD .nothing
    (table.filter fun entry => name.isPrefixOf entry.1).map fun entry => .flag entry.1 (some entry.2) attached
  else
    (table.filter fun entry => entry.1 = s.take 2).map fun entry => .flag entry.1 (some entry.2) (.letters (s.drop 2))

/-- Whether a text is a negative number. -/
def isNegativeNumber : Text → Bool
  | '-' :: digits =>
    match digits.dropWhile isDigit with
    | [] => !digits.isEmpty
    | '.' :: decimals => !decimals.isEmpty && decimals.all isDigit
    | _ => false
  | _ => false

/-- Reads a word in front of the two dashes. A word that may stand for several options is bad usage. -/
def readWord (table : FlagTable) (s : Text) : Except Stop Word :=
  let (name, value) := splitAtEquals s
  match table.lookup s, table.lookup name, value with
  | some flag, _, _ => .ok (.flag s (some flag) .nothing)
  | none, some flag, some value => .ok (.flag name (some flag) (.value value))
  | none, _, _ =>
    if s.head? ≠ some ('-' : CodePoint) || s.length = 1 then .ok (.plain s)
    else
      match candidates table s with
      | [word] => .ok word
      | [] => .ok (if isNegativeNumber s || s.contains ' ' then .plain s else .flag s none .nothing)
      | _ => .error .badUsage

/-- Reads the words of a command line. -/
def readWords (table : FlagTable) : List Text → Except Stop (List Word)
  | [] => .ok []
  | s :: rest =>
    if s = dashes then .ok (.dashes :: rest.map .plain)
    else do
      let word ← readWord table s
      let words ← readWords table rest
      return word :: words

/-- What a word gives: options with their values, whether letters in it are left over, and the words after it. -/
structure Given where
  options : List (Flag × Text)
  leftOver : Bool
  rest : List Word

/-- An option with the value in the next word. -/
def givenWithNext (flag : Flag) : List Word → Except Stop Given
  | .plain value :: rest => .ok ⟨[(flag, value)], false, rest⟩
  | _ => .error .badUsage

/-- What the letters after the letter of the option `flag`, which has no value, give. Letters from the first one that
is no option on are left over. -/
def givenByLetters (table : FlagTable) (rest : List Word) (flag : Flag) : Text → Except Stop Given
  | [] => .error .badUsage
  | letter :: more => do
    let others : Given ←
      match table.lookup (['-', letter] : Text) with
      | none => if letter = '-' then throw .badUsage else pure ⟨[], true, rest⟩
      | some next =>
        if more.isEmpty then
          if next.takesValue then givenWithNext next rest else pure ⟨[(next, [])], false, rest⟩
        else if next.takesValue then
          pure ⟨[(next, if more.head? = some '=' then more.drop 1 else more)], false, rest⟩
        else if more.head? = some '=' then throw .badUsage
        else givenByLetters table rest next more
    return { others with options := (flag, []) :: others.options }

/-- What a word gives that names the option `flag`. Letters without a value may be joined with further ones. -/
def given (table : FlagTable) (flag : Flag) (attached : Attached) (rest : List Word) : Except Stop Given :=
  match attached with
  | .nothing => if flag.takesValue then givenWithNext flag rest else .ok ⟨[(flag, [])], false, rest⟩
  | .value s => if flag.takesValue then .ok ⟨[(flag, s)], false, rest⟩ else .error .badUsage
  | .letters s => if flag.takesValue then .ok ⟨[(flag, s)], false, rest⟩ else givenByLetters table rest flag s

/-- What has been read of a command: its options, its name if it has been given, and whether words are left over. -/
structure Reading where
  options : Options
  verbose : Bool
  name : Option Text
  leftOver : Bool

/-- Takes an option into account. -/
def apply (state : Reading) : Flag × Text → Except Stop Reading
  | (.help, _) => .error .help
  | (.version, _) => .error .version
  | (.verbose, _) => .ok { state with verbose := true }
  | (.json, _) => .ok { state with options := { state.options with json := true } }
  | (.directory, s) =>
    .ok { state with options := { state.options with directories := state.options.directories ++ [s] } }
  | (.config, s) => .ok { state with options := { state.options with config := s } }
  | (.data, s) => .ok { state with options := { state.options with data := s } }
  | (.layout, s) => .ok { state with options := { state.options with layout := s } }
  | (.contentName, s) => .ok { state with options := { state.options with contentName := s } }
  | (.output, s) => .ok { state with options := { state.options with output := s } }

/-- Reads the words of a command; `named` tells whether it wants the name of a template. -/
def readCommand (table : FlagTable) (named : Bool) : Nat → List Word → Reading → Except Stop Reading
  | 0, _, state => .ok state
  | _ + 1, [], state => .ok state
  | steps + 1, .flag _ (some flag) attached :: rest, state => do
    let g ← given table flag attached rest
    let state ← g.options.foldlM apply state
    readCommand table named steps g.rest { state with leftOver := state.leftOver || g.leftOver }
  | steps + 1, .flag _ none _ :: rest, state => readCommand table named steps rest { state with leftOver := true }
  | steps + 1, .plain s :: rest, state =>
    if named && state.name.isNone then
      let rest := if rest.head? = some .dashes then rest.drop 1 else rest
      readCommand table named steps rest { state with name := some s }
    else readCommand table named steps rest { state with leftOver := true }
  | steps + 1, .dashes :: rest, state =>
    match rest with
    | .plain s :: rest =>
      if named && state.name.isNone then readCommand table named steps rest { state with name := some s }
      else readCommand table named steps rest { state with leftOver := true }
    | rest => readCommand table named steps rest { state with leftOver := true }

/-- The reading before its first word. -/
def start : Reading := ⟨⟨[], [], [], [], [], [], false⟩, false, none, false⟩

/-- Reads the command `name` with the words after it. -/
def command (name : Text) (words : List Text) : Except Stop (Request × Bool) := do
  if name = "list".text then
    let words ← readWords FlagTable.list words
    let state ← readCommand FlagTable.list false words.length words start
    return (.list state.options, state.leftOver)
  else if name = "render".text then
    let words ← readWords FlagTable.render words
    let state ← readCommand FlagTable.render true words.length words start
    match state.name with
    | some template => return (.render template state.options, state.leftOver)
    | none => throw .badUsage
  else throw .badUsage

/-- Reads the options in front of the command, and the command. The words are given as they were read and as they were
written. No request stands for a command line without a command. -/
def readGeneral : Nat → List Word → List Text → Reading → Except Stop (Option Request × Bool)
  | 0, _, _, state => if state.leftOver then .error .badUsage else .ok (none, state.verbose)
  | _ + 1, [], _, state => if state.leftOver then .error .badUsage else .ok (none, state.verbose)
  | steps + 1, .flag _ (some flag) attached :: rest, _ :: written, state => do
    let g ← given FlagTable.general flag attached rest
    let state ← g.options.foldlM apply state
    readGeneral steps g.rest (written.drop (rest.length - g.rest.length))
      { state with leftOver := state.leftOver || g.leftOver }
  | steps + 1, .flag _ none _ :: rest, _ :: written, state =>
    readGeneral steps rest written { state with leftOver := true }
  | _ + 1, .plain s :: _, _ :: written, state => do
    let (request, leftOver) ← command s written
    if leftOver || state.leftOver then throw .badUsage else return (some request, state.verbose)
  | _ + 1, .dashes :: _, _, _ => .error .badUsage
  | _ + 1, _ :: _, [], _ => .error .badUsage

/-- What the command line asks for, and whether the log is wanted. -/
def read (words : List Text) : Except Stop (Option Request × Bool) := do
  let read ← readWords FlagTable.general words
  readGeneral (words.length + 1) read words start

end Arguments

end HtmlTemplate
