import HtmlTemplate.Text.Basic

/-!
# Paths

A path is a list of names below a root. The root is empty for a path that is relative to the working directory. Empty
names and single dots are left out; two dots stay and are followed only when the path is looked up. A tilde in front
may stand for a home directory.
-/

namespace HtmlTemplate

/-- A path: its root, and the names below it. -/
structure Path where
  root : Text
  parts : List Text
  deriving DecidableEq, Repr

namespace Path

/-- The names between the slashes of a text. -/
def split : Text → List Text
  | [] => [[]]
  | '/' :: rest => [] :: split rest
  | c :: rest =>
    match split rest with
    | [] => [[c]]
    | name :: others => (c :: name) :: others

/-- The names of a text that count. -/
def names (s : Text) : List Text := (split s).filter fun name => !(name = [] || name = (['.'] : Text))

/-- The path that a text writes. Two slashes in front are a root of their own; more are one. -/
def ofText : Text → Path
  | '/' :: '/' :: '/' :: rest => ⟨['/'], names rest⟩
  | '/' :: '/' :: rest => ⟨['/', '/'], names rest⟩
  | '/' :: rest => ⟨['/'], names rest⟩
  | s => ⟨[], names s⟩

/-- The text of a path. -/
def text (p : Path) : Text :=
  let below := Text.join ['/'] p.parts
  if p.root = [] then (if p.parts = [] then ['.'] else below)
  else if p.root.getLast? = some ('/' : CodePoint) || p.parts = [] then p.root ++ below
  else p.root ++ ('/' : CodePoint) :: below

/-- Whether a path begins at the working directory. -/
def isRelative (p : Path) : Bool := p.root = []

/-- The path `q` as seen from `p`. -/
def join (p q : Path) : Path := if q.isRelative then ⟨p.root, p.parts ++ q.parts⟩ else q

/-- The path of an entry of the directory `p`. -/
def entry (p : Path) (name : Text) : Path := ⟨p.root, p.parts ++ [name]⟩

/-- The path without its last name. -/
def parent (p : Path) : Path := ⟨p.root, p.parts.dropLast⟩

/-- The names with each two dots and the name in front of them taken away. -/
def withoutDots (parts : List Text) : List Text :=
  let follow (latest : List Text) (name : Text) : List Text :=
    if name = "..".text then latest.drop 1 else name :: latest
  (parts.foldl follow []).reverse

/-- The path from the directory `base`, without two dots. -/
def resolve (base p : Path) : Path :=
  let p := base.join p
  ⟨p.root, withoutDots p.parts⟩

end Path

/-- The home directories: the own one, and those of users by their names. -/
structure Homes where
  own : Option Path
  ofUsers : List (Text × Path)

namespace Homes

/-- The home directory of a user; without a name it is the own one. -/
def find? (homes : Homes) (user : Text) : Option Path := if user.isEmpty then homes.own else homes.ofUsers.lookup user

end Homes

namespace Path

/-- The path with the home directory for a tilde in front, after which the name of a user may stand. Nothing is the
answer if the home directory is not known. -/
def expanded? (homes : Homes) (p : Path) : Option Path :=
  match p with
  | ⟨[], ('~' :: user) :: rest⟩ => (homes.find? user).map fun home => home.join ⟨[], rest⟩
  | p => some p

end Path

end HtmlTemplate
