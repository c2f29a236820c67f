import HttpRelay.Bytes
import HttpRelay.Fault
import HttpRelay.Text.Parts

/-!
# Directories

A directory of files as it is seen from inside: what came of reading the file of a given
path. A path is followed part by part; a part `.` stays where it is.
-/

namespace HttpRelay

/-- The files of a directory and of those inside it, by their paths. -/
structure Directory where
  files : List (List String × Bytes)
  deriving DecidableEq, Repr

namespace Directory

/-- The greatest length of one part of a path in bytes. -/
def longestPart : Nat := 255

def noSuchFile : Fault :=
  ⟨.notFound, "No such file or directory (os error 2)"⟩

def notDirectory : Fault :=
  ⟨.notDirectory, "Not a directory (os error 20)"⟩

def isDirectory : Fault :=
  ⟨.isDirectory, "Is a directory (os error 21)"⟩

def nameTooLong : Fault :=
  ⟨.nameTooLong, "File name too long (os error 36)"⟩

/-- The parts of a path, without those that stay. -/
def partsOf (path : String) : List String :=
  ((Text.split (· == '/') path.toList).map String.ofList).filter fun part =>
    part != "" && part != "."

/-- Whether a path says that it leads to a directory. -/
def leadsToDirectory (path : String) : Bool :=
  match (Text.split (· == '/') path.toList).getLast? with
  | some last => last == [] || last == ['.']
  | none => false

def ofFiles (files : List (String × Bytes)) : Directory :=
  ⟨files.map fun (path, content) => (partsOf path, content)⟩

/-- Whether a path leads to a directory. -/
def hasDirectory (directory : Directory) (parts : List String) : Bool :=
  parts.isEmpty || directory.files.any fun (file, _) =>
    parts.isPrefixOf file && parts.length < file.length

/-- Follows the parts of a path, from the directory that the parts before them lead to. -/
def follow (directory : Directory) (before : List String) (mustBeDirectory : Bool) :
    List String → Except Fault Bytes
  | [] => .error isDirectory
  | part :: rest =>
      let here := before ++ [part]
      if longestPart < part.utf8ByteSize then .error nameTooLong
      else if part = ".." then follow directory before.dropLast mustBeDirectory rest
      else if directory.hasDirectory here then follow directory here mustBeDirectory rest
      else
        match directory.files.lookup here with
        | none => .error noSuchFile
        | some content =>
            if rest.isEmpty && !mustBeDirectory then .ok content else .error notDirectory

def read (directory : Directory) (path : String) : Except Fault Bytes :=
  if path.isEmpty then .error noSuchFile
  else directory.follow [] (leadsToDirectory path) (partsOf path)

end Directory

end HttpRelay
