import HtmlTemplate.Files.Tree
import HtmlTemplate.Value.Basic

/-!
# Reports of errors

An error as the outside sees it. An error of the template language has a code, a message, and what it is about; the
command line tells it. A defect of what lies below the language has only a message, and breaks a command off.
-/

namespace HtmlTemplate

/-- What is wrong below the template language. -/
inductive Defect where
  /-- A value is one that cannot be used. -/
  | badValue
  /-- A value is of a kind that cannot be used. -/
  | badKind
  /-- A name stands for nothing. -/
  | unknownName
  /-- A number is beyond what the machine holds. -/
  | tooLarge
  /-- There is nothing at a position. -/
  | badIndex
  /-- There is nothing under a key. -/
  | badKey
  /-- A thing has no part of a name. -/
  | badPart
  /-- There is no home directory of a user. -/
  | noHome
  /-- Bytes stand for no character. -/
  | undecodable
  /-- A text holds what no bytes stand for. -/
  | unencodable
  /-- Bytes are no text. -/
  | noText
  /-- There is no file at a path. -/
  | file (e : FileError)
  deriving DecidableEq, Repr

/-- What the outside sees of an error. -/
inductive Report where
  | language (code message : Text) (context : Entries Value)
  | below (defect : Defect) (message : Text)

namespace Report

/-- An error of the template language. -/
def about (code : String) (message : Text) (context : List (String × Value)) : Report :=
  .language code.text message (context.map fun (key, v) => (key.text, v))

/-- The message of an error. -/
def message : Report → Text
  | .language _ message _ => message
  | .below _ message => message

end Report

namespace FileError

/-- The report of an error at a path. -/
def report (p : Path) (e : FileError) : Report := .below (.file e) (e.messageAt p)

end FileError

end HtmlTemplate
