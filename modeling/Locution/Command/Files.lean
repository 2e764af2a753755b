/-!
# Files

The program reads one file, or its standard input. A directory without further directories in it is
given by the names and the bytes of its files. A file can be read when its bytes are the UTF-8 form
of a text.
-/

namespace Locution.Command

/-- Why a file cannot be read. -/
inductive ReadFailure where
  | noSuchFile
  | notADirectory
  | isADirectory
  | nameTooLong
  | notText
  | other (words : String)
  deriving DecidableEq

/-- The words for a failure to read. -/
def ReadFailure.message : ReadFailure → String
  | .noSuchFile => "No such file or directory (os error 2)"
  | .notADirectory => "Not a directory (os error 20)"
  | .isADirectory => "Is a directory (os error 21)"
  | .nameTooLong => "File name too long (os error 36)"
  | .notText => "stream did not contain valid UTF-8"
  | .other words => words

/-- The text of bytes. -/
def textOfBytes (bytes : ByteArray) : Except ReadFailure String :=
  match String.fromUTF8? bytes with
  | some text => .ok text
  | none => .error .notText

/-- The parts of a path between slashes. -/
def pathParts (path : List Char) : List (List Char) :=
  path.splitBy (fun a b => a != '/' && b != '/') |>.filter (· != ['/'])

/-- Whether a path is a single hyphen, but for slashes and dots after it. -/
def isHyphen (path : String) : Bool :=
  path.toList.head? == some '-' &&
    (pathParts path.toList).filter (· != ['.']) == [['-']]

/-- The files of a directory. -/
abbrev Directory := List (String × ByteArray)

namespace Directory

/-- Reads a file by its path. -/
def read (directory : Directory) (path : String) : Except ReadFailure String :=
  let chars := path.toList
  let absolute := chars.head? == some '/'
  let inside := chars.getLast? == some '/' || (chars.reverse.take 2) == ['.', '/']
  match (pathParts chars).filter (· != ['.']) with
  | [] => .error .isADirectory
  | name :: rest =>
    if name == ['.', '.'] then .error (if rest.isEmpty then .isADirectory else .noSuchFile)
    else if 255 < (String.ofList name).utf8ByteSize then .error .nameTooLong
    else
      match if absolute then none else directory.lookup (String.ofList name) with
      | none => .error .noSuchFile
      | some bytes =>
        if inside || !rest.isEmpty then .error .notADirectory else textOfBytes bytes

end Directory

end Locution.Command
