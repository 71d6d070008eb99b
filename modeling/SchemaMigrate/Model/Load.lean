import SchemaMigrate.File.Tree
import SchemaMigrate.Model.Compile

/-!
Model files. Files of mixins and of models are told apart by their extension and found in directories at
any depth; all that are found are compiled as one batch.
-/

namespace SchemaMigrate.Model

/-- The files that were found, mixins apart from models. -/
structure Files where
  mixins : List Path := []
  models : List Path := []
deriving Repr, DecidableEq

/-- Why model files could not be compiled. -/
inductive LoadError where
  | notFound (path : Path)
  | undecodable (path : Path)
  | compile (error : CompileError)
deriving Repr, DecidableEq

def LoadError.message : LoadError → String
  | .notFound path => "Model path not found: " ++ path.toString
  | .undecodable path => "Not in UTF-8: " ++ path.toString
  | .compile error => error.message

/-- Whether a path has this extension, in any case of its letters. -/
def hasExtension (path : Path) (extension : String) : Bool :=
  path.extension.toList.map Char.toLower == extension.toList

def mixinExtension : String := ".dmdx"

def modelExtension : String := ".dmd"

/-- The files that a path stands for: itself, or those below it. -/
def candidates (tree : Tree) (path : Path) : Except LoadError (List Path) :=
  if tree.isFile path then .ok [path]
  else if tree.isDirectory path then .ok (tree.filesUnder path)
  else .error (.notFound path)

/-- The files that several paths stand for. -/
def allCandidates (tree : Tree) : List String → Except LoadError (List Path)
  | [] => .ok []
  | path :: paths => do
      let first ← candidates tree (Path.ofString path)
      let others ← allCandidates tree paths
      .ok (first ++ others)

/-- The model files under the given paths, in order. -/
def findFiles (tree : Tree) (paths : List String) : Except LoadError Files := do
  let found ← allCandidates tree paths
  .ok { mixins := found.filter (hasExtension · mixinExtension)
        models := found.filter (hasExtension · modelExtension) }

/-- The text of a file, its newlines unified. -/
def readSource (tree : Tree) (path : Path) : Except LoadError Source :=
  match ((tree.read? path).getD ByteArray.empty) |> String.fromUTF8? with
  | none => .error (.undecodable path)
  | some text =>
      .ok { name := path.toString, text := String.ofList (Text.unifyNewlines text.toList) }

def readSources (tree : Tree) : List Path → Except LoadError (List Source)
  | [] => .ok []
  | path :: paths => do
      let first ← readSource tree path
      let others ← readSources tree paths
      .ok (first :: others)

/-- What is said before the files are read. -/
def loadNotice (files : Files) : Notice where
  level := .info
  speaker := .loader
  text := s!"Loading {files.mixins.length} mixin file(s) and {files.models.length} model file(s)"

/-- The outcome of loading: what was said, and the schema or the error. -/
structure Loading where
  notices : List Notice := []
  schema : Except LoadError Database

/-- Compiles every model file under the given paths. -/
def load (tree : Tree) (paths : List String) : Loading :=
  match findFiles tree paths with
  | .error error => { schema := .error error }
  | .ok files =>
      match readSources tree (files.mixins ++ files.models) with
      | .error error => { notices := [loadNotice files], schema := .error error }
      | .ok sources =>
          let compilation := compile {} sources
          { notices := loadNotice files :: compilation.notices
            schema := match compilation.error with
              | none => .ok compilation.schema
              | some error => .error (.compile error) }

end SchemaMigrate.Model
