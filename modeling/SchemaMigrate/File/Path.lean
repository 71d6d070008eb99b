import SchemaMigrate.Text.Lines
import SchemaMigrate.Text.Search

/-!
Paths: an optional root and the parts behind it. Empty parts and single dots vanish, double dots stay. A
path without parts is written as a single dot.
-/

namespace SchemaMigrate

structure Path where
  root : String := ""
  parts : List String := []
deriving Repr, DecidableEq

namespace Path

/-- The root of a written path. Exactly two slashes are a root of their own; any other number is one. -/
def rootOf (text : List Char) : String :=
  match (text.takeWhile (· = '/')).length with
  | 0 => ""
  | 2 => "//"
  | _ => "/"

/-- Reads a path. -/
def ofString (text : String) : Path where
  root := rootOf text.toList
  parts := ((Text.splitOnChar '/' text.toList).map String.ofList).filter fun part =>
    !part.isEmpty && part != "."

def isAbsolute (path : Path) : Bool := !path.root.isEmpty

def toString (path : Path) : String :=
  if path.root.isEmpty && path.parts.isEmpty then "."
  else path.root ++ Text.joinWith "/" path.parts

/-- A path below another, or by itself if it is absolute. -/
def join (base path : Path) : Path :=
  if path.isAbsolute then path else { base with parts := base.parts ++ path.parts }

/-- The path without its last part. -/
def parent (path : Path) : Path := { path with parts := path.parts.dropLast }

/-- The extension of a name: from its last dot on, unless that dot starts or ends the name. -/
def extensionOf (name : List Char) : List Char :=
  let tail := (name.reverse.takeWhile (· ≠ '.')).reverse
  if tail.isEmpty || name.length ≤ tail.length + 1 then [] else '.' :: tail

/-- The extension of the last part. -/
def extension (path : Path) : String :=
  match path.parts.getLast? with
  | none => ""
  | some name => String.ofList (extensionOf name.toList)

/-- The order of paths with one root: by their parts, from the left. -/
def partsBefore : List String → List String → Bool
  | [], _ => true
  | _ :: _, [] => false
  | left :: lefts, right :: rights =>
      if left < right then true
      else if left = right then partsBefore lefts rights
      else false

end Path

end SchemaMigrate
