/-! # Files

What is found under a path, and why a text cannot be had from it. A path that
leads nowhere has a reason for that, just as a file that cannot be read has.
-/

namespace ColumnFilter

inductive FileError
  | notText
  | missing
  | denied
  | notDirectory
  | isDirectory
  | nameTooLong
  | linkLoop
  | other (code : Nat) (text : String)
deriving DecidableEq, Repr

namespace FileError

/-- The wording of an error that the system reports under a number. -/
def numbered (text : String) (code : Nat) : String := s!"{text} (os error {code})"

def message : FileError → String
  | notText => "stream did not contain valid UTF-8"
  | missing => numbered "No such file or directory" 2
  | denied => numbered "Permission denied" 13
  | notDirectory => numbered "Not a directory" 20
  | isDirectory => numbered "Is a directory" 21
  | nameTooLong => numbered "File name too long" 36
  | linkLoop => numbered "Too many levels of symbolic links" 40
  | other code text => numbered text code

/-- The error that the system reports under a number, with the wording of an unknown one. -/
def ofCode (code : Nat) (text : String) : FileError :=
  match code with
  | 2 => missing
  | 13 => denied
  | 20 => notDirectory
  | 21 => isDirectory
  | 36 => nameTooLong
  | 40 => linkLoop
  | _ => other code text

end FileError

/-- What a path leads to: bytes, something that cannot be read, or nothing. -/
inductive File
  | bytes (content : List UInt8)
  | unreadable (e : FileError)
  | absent (e : FileError)
deriving DecidableEq, Repr

namespace File

def exist : File → Bool
  | bytes _ | unreadable _ => true
  | absent _ => false

def content : File → Except FileError (List UInt8)
  | bytes content => .ok content
  | unreadable e | absent e => .error e

/-- The text that bytes encode. -/
def decode (bytes : List UInt8) : Except FileError String :=
  match String.fromUTF8? ⟨bytes.toArray⟩ with
  | some text => .ok text
  | none => .error .notText

end File

end ColumnFilter
