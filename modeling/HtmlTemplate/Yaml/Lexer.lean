import HtmlTemplate.Yaml.Block
import HtmlTemplate.Yaml.Plain
import HtmlTemplate.Yaml.Quoted
import HtmlTemplate.Yaml.Token

/-!
# The tokens of a text

`Token.scan` splits a text into tokens. A token that may turn out to be a key is held back, with all after it, until
its colon is seen or can no longer come: a key without a mark has to stand on one line, and its colon at most 1024
characters after its beginning. Only tokens that are not held back count when the text has a fault further on.
-/

namespace HtmlTemplate.Yaml

/-- A token that may be a key: its number among all tokens, whether it must be a key, and the place of its
beginning. -/
structure PossibleKey where
  number : Nat
  required : Bool
  place : Cursor

/-- A text that is being split into tokens. -/
structure Lexer where
  place : Cursor
  /-- The columns of the blocks around the place, the innermost first. -/
  columns : List Nat
  /-- How many brackets are open. -/
  brackets : Nat
  /-- Whether a key may begin at the place. -/
  allowsKey : Bool
  /-- The tokens that may be keys, by how many brackets are open around them. -/
  keys : List (Nat × PossibleKey)
  /-- How many tokens are no longer held back. -/
  released : Nat
  /-- The tokens that are held back, in order. -/
  pending : List Token
  ended : Bool

namespace Lexer

/-- A text in front of its first token. A byte order mark at its front does not count. -/
def start (s : Text) : Lexer :=
  let p := Cursor.start s
  ⟨if s.head? = some ('\ufeff' : CodePoint) then p.next else p, [], 0, true, [], 0, [], false⟩

/-- Whether the place is between brackets. -/
def inFlow (x : Lexer) : Bool := x.brackets ≠ 0

/-- One more than the column of the innermost block; nought if there is none. -/
def indent (x : Lexer) : Nat :=
  match x.columns with
  | [] => 0
  | column :: _ => column + 1

/-- Adds a token at the end. -/
def push (t : Token) (x : Lexer) : Lexer := { x with pending := x.pending ++ [t] }

/-- Adds a token, and goes on at a place. -/
def pushTo (t : Token) (p : Cursor) (x : Lexer) : Lexer := { x with pending := x.pending ++ [t], place := p }

/-- Ends the blocks around the place that stand deeper than `indent` tells. Between brackets depth does not count. -/
def endBlocks (indent : Nat) (x : Lexer) : Lexer :=
  if x.inFlow then x
  else
    let deeper := x.columns.takeWhile fun column => indent < column + 1
    { x with
      columns := x.columns.drop deeper.length
      pending := x.pending ++ List.replicate deeper.length .blockEnd }

/-- Puts a token behind the first `count` of those that are held back. -/
def insert (count : Nat) (t : Token) (x : Lexer) : Lexer :=
  { x with pending := x.pending.take count ++ t :: x.pending.drop count }

/-- Begins a block at a column with the token `t`, behind the first `count` of those that are held back, if the column
is deeper than the blocks around the place. -/
def beginBlock (t : Token) (column count : Nat) (x : Lexer) : Lexer :=
  if x.indent ≤ column then { x.insert count t with columns := column :: x.columns } else x

/-- Begins a block at the place, between brackets none. -/
def beginBlockHere (t : Token) (x : Lexer) : Lexer :=
  if x.inFlow then x else x.beginBlock t x.place.column x.pending.length

/-- Forgets the possible key between the brackets around the place. A key that must be one may not be forgotten. -/
def forgetKey (x : Lexer) : Except Fault Lexer :=
  match x.keys.lookup x.brackets with
  | some key => if key.required then .error .malformed else .ok { x with keys := x.keys.filter (·.1 ≠ x.brackets) }
  | none => .ok x

/-- Forgets the possible keys whose colon can no longer come. -/
def forgetStaleKeys (x : Lexer) : Except Fault Lexer :=
  let isStale (key : PossibleKey) : Bool :=
    key.place.line ≠ x.place.line || 1024 < key.place.left - x.place.left
  if x.keys.any fun key => isStale key.2 && key.2.required then .error .malformed
  else .ok { x with keys := x.keys.filter fun key => !isStale key.2 }

/-- Notes that the next token may be a key, if a key may begin here. It must be one at the column of the block around
it. -/
def noteKey (x : Lexer) : Except Fault Lexer :=
  if x.allowsKey then do
    let x ← x.forgetKey
    let key : PossibleKey := ⟨x.released + x.pending.length, !x.inFlow && x.indent = x.place.column + 1, x.place⟩
    return { x with keys := (x.brackets, key) :: x.keys }
  else .ok x

/-- The place of the next token, after spaces, comments and line ends, and whether there was a line end. -/
def nextToken : Nat → Bool → Cursor → Bool × Cursor
  | 0, sawBreak, p => (sawBreak, p)
  | steps + 1, sawBreak, p =>
    let p := p.skipSpaces.skipComment
    match p.lineBreak? with
    | some (_, p) => nextToken steps true p
    | none => (sawBreak, p)

/-- The end of the text. -/
def endText (x : Lexer) : Except Fault Lexer := do
  let x ← (x.endBlocks 0).forgetKey
  return { x.push .streamEnd with allowsKey := false, keys := [], ended := true }

/-- A directive. -/
def takeDirective (x : Lexer) : Except Fault Lexer := do
  let x ← (x.endBlocks 0).forgetKey
  let (d, p) ← directive x.place
  return { x.pushTo (.directive d) p with allowsKey := false }

/-- A line that separates documents. -/
def takeSeparator (t : Token) (x : Lexer) : Except Fault Lexer := do
  let x ← (x.endBlocks 0).forgetKey
  return { x.pushTo t (x.place.after 3) with allowsKey := false }

/-- An opening bracket. -/
def openBracket (t : Token) (x : Lexer) : Except Fault Lexer := do
  let x ← x.noteKey
  return { x.pushTo t x.place.next with brackets := x.brackets + 1, allowsKey := true }

/-- A closing bracket. -/
def closeBracket (t : Token) (x : Lexer) : Except Fault Lexer := do
  let x ← x.forgetKey
  return { x.pushTo t x.place.next with brackets := x.brackets - 1, allowsKey := false }

/-- A comma between brackets. -/
def takeComma (x : Lexer) : Except Fault Lexer := do
  let x ← x.forgetKey
  return { x.pushTo .flowEntry x.place.next with allowsKey := true }

/-- The dash of an item. -/
def takeDash (x : Lexer) : Except Fault Lexer := do
  if !x.inFlow && !x.allowsKey then throw .malformed
  let x ← (x.beginBlockHere .blockSequenceStart).forgetKey
  return { x.pushTo .blockEntry x.place.next with allowsKey := true }

/-- The mark of a key. -/
def takeKeyMark (x : Lexer) : Except Fault Lexer := do
  if !x.inFlow && !x.allowsKey then throw .malformed
  let x ← (x.beginBlockHere .blockMappingStart).forgetKey
  return { x.pushTo .key x.place.next with allowsKey := !x.inFlow }

/-- The colon of an entry. If a possible key is there, it is one. -/
def takeColon (x : Lexer) : Except Fault Lexer := do
  match x.keys.lookup x.brackets with
  | some key =>
    let count := key.number - x.released
    let x := { x.insert count .key with keys := x.keys.filter (·.1 ≠ x.brackets) }
    let x := if x.inFlow then x else x.beginBlock .blockMappingStart key.place.column count
    return { x.pushTo .value x.place.next with allowsKey := false }
  | none =>
    if !x.inFlow && !x.allowsKey then throw .malformed
    let x ← (x.beginBlockHere .blockMappingStart).forgetKey
    return { x.pushTo .value x.place.next with allowsKey := !x.inFlow }

/-- A name, with its mark. -/
def takeName (t : Text → Token) (x : Lexer) : Except Fault Lexer := do
  let x ← x.noteKey
  let (name, p) ← propertyName x.place.next
  return { x.pushTo (t name) p with allowsKey := false }

/-- A tag. -/
def takeTag (x : Lexer) : Except Fault Lexer := do
  let x ← x.noteKey
  let (t, p) ← writtenTag x.place
  return { x.pushTo (.tag t) p with allowsKey := false }

/-- A scalar in a block. -/
def takeBlock (isFolded : Bool) (x : Lexer) : Except Fault Lexer := do
  let x ← x.forgetKey
  let (s, p) ← block isFolded x.indent x.place
  return { x.pushTo (.scalar false s) p with allowsKey := true }

/-- A scalar in quotes. -/
def takeQuoted (x : Lexer) : Except Fault Lexer := do
  let x ← x.noteKey
  let (s, p) ← quoted x.place
  return { x.pushTo (.scalar false s) p with allowsKey := false }

/-- A plain scalar. A key may begin after it if it ends with its line. -/
def takePlain (x : Lexer) : Except Fault Lexer := do
  let x ← x.noteKey
  let found := plain x.inFlow x.indent x.place
  return { x.pushTo (.scalar true found.text) found.place with allowsKey := found.endsLine }

/-- Takes the next token. -/
def take (x : Lexer) : Except Fault Lexer := do
  let (sawBreak, p) := nextToken (x.place.left + 1) false x.place
  let x ← { x with place := p, allowsKey := x.allowsKey || (sawBreak && !x.inFlow) }.forgetStaleKeys
  let x := x.endBlocks (p.column + 1)
  match p.rest with
  | [] => x.endText
  | c :: rest =>
    if c = '%' && p.column = 0 then x.takeDirective
    else if p.column = 0 && atDocumentStart p.rest then x.takeSeparator .documentStart
    else if p.column = 0 && atDocumentEnd p.rest then x.takeSeparator .documentEnd
    else if c = '[' then x.openBracket .flowSequenceStart
    else if c = '\x7b' then x.openBracket .flowMappingStart
    else if c = ']' then x.closeBracket .flowSequenceEnd
    else if c = '\x7d' then x.closeBracket .flowMappingEnd
    else if c = ',' then x.takeComma
    else if c = '-' && atGap rest then x.takeDash
    else if c = '?' && (x.inFlow || atGap rest) then x.takeKeyMark
    else if c = ':' && (x.inFlow || atGap rest) then x.takeColon
    else if c = '*' then x.takeName .reference
    else if c = '&' then x.takeName .anchor
    else if c = '!' then x.takeTag
    else if c = '|' && !x.inFlow then x.takeBlock false
    else if c = '>' && !x.inFlow then x.takeBlock true
    else if c = '\x27' || c = '\x22' then x.takeQuoted
    else if startsPlain x.inFlow p.rest then x.takePlain
    else throw .malformed

/-- Whether the first of the tokens that are held back may be a key. -/
def holdsBack (x : Lexer) : Bool := x.keys.any fun key => key.2.number = x.released

end Lexer

/-- The tokens of a text up to its first fault, and the fault, if it has one. -/
structure Scan where
  tokens : List Token
  fault? : Option Fault

/-- Splits the rest of a text. The tokens that are no longer held back are `done`, in reverse order. -/
def Scan.ofLexer : Nat → List Token → Lexer → Scan
  | 0, done, _ => ⟨done.reverse, some .malformed⟩
  | steps + 1, done, x =>
    if x.ended then ⟨done.reverse ++ x.pending, none⟩
    else
      match x.pending with
      | [] =>
        match x.take with
        | .error e => ⟨done.reverse, some e⟩
        | .ok x => Scan.ofLexer steps done x
      | t :: rest =>
        match x.forgetStaleKeys with
        | .error e => ⟨done.reverse, some e⟩
        | .ok x =>
          if x.holdsBack then
            match x.take with
            | .error e => ⟨done.reverse, some e⟩
            | .ok x => Scan.ofLexer steps done x
          else Scan.ofLexer steps (t :: done) { x with released := x.released + 1, pending := rest }

/-- Splits a text into tokens. -/
def Scan.ofText (s : Text) : Scan := Scan.ofLexer (8 * s.length + 16) [] (Lexer.start s)

end HtmlTemplate.Yaml
