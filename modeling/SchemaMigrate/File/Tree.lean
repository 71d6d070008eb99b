import SchemaMigrate.File.Path

/-!
A tree of files as a program sees it: the contents of files at absolute places, and the place from which
relative paths start. A place is a directory if something lies below it or it was made one.
-/

namespace SchemaMigrate

structure Tree where
  files : List (List String × ByteArray) := []
  directories : List (List String) := []
  workingDirectory : List String := []

namespace Tree

/-- Stores a file, in place of one that was there. -/
def write (tree : Tree) (place : List String) (content : ByteArray) : Tree :=
  { tree with files := tree.files.filter (·.1 != place) ++ [(place, content)] }

def makeDirectory (tree : Tree) (place : List String) : Tree :=
  { tree with directories := tree.directories ++ [place] }

def content? (tree : Tree) (place : List String) : Option ByteArray :=
  (tree.files.find? (·.1 == place)).map (·.2)

def isFileAt (tree : Tree) (place : List String) : Bool := (tree.content? place).isSome

def isDirectoryAt (tree : Tree) (place : List String) : Bool :=
  place.isPrefixOf tree.workingDirectory
    || tree.directories.any (place.isPrefixOf ·)
    || tree.files.any fun file => place.isPrefixOf file.1 && file.1 != place

/-- The place that parts lead to from a directory. Every part but the last must lead to a directory. -/
def walk? (tree : Tree) (place : List String) : List String → Option (List String)
  | [] => some place
  | part :: parts =>
      if tree.isDirectoryAt place then
        tree.walk? (if part == ".." then place.dropLast else place ++ [part]) parts
      else none

/-- The place a path leads to, whether or not something is there. -/
def locate? (tree : Tree) (path : Path) : Option (List String) :=
  tree.walk? (if path.isAbsolute then [] else tree.workingDirectory) path.parts

def isFile (tree : Tree) (path : Path) : Bool := (tree.locate? path).any tree.isFileAt

def isDirectory (tree : Tree) (path : Path) : Bool := (tree.locate? path).any tree.isDirectoryAt

/-- The content of the file at the end of a path. -/
def read? (tree : Tree) (path : Path) : Option ByteArray := (tree.locate? path).bind tree.content?

/-- What follows a place in the places of the files below it. -/
def below (tree : Tree) (place : List String) : List (List String) :=
  tree.files.filterMap fun file => place.isPrefixOf? file.1

/-- The files in and below a directory, in order. -/
def filesUnder (tree : Tree) (path : Path) : List Path :=
  match tree.locate? path with
  | none => []
  | some place =>
      ((tree.below place).mergeSort Path.partsBefore).map fun parts =>
        { path with parts := path.parts ++ parts }

/-- The absolute form of a path below the working directory. -/
def fromWorkingDirectory (tree : Tree) (name : String) : Path where
  root := "/"
  parts := tree.workingDirectory ++ [name]

end Tree

end SchemaMigrate
