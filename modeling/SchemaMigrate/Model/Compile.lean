import SchemaMigrate.Model.Block
import SchemaMigrate.Model.Column
import SchemaMigrate.Notice

/-!
Compilation of model texts into a schema.

The blocks of a batch are taken in three passes: mixins, models, extensions. Each block is compiled
against the schema as it stands into one definition, and only a definition changes the schema. So a
block with a fault contributes nothing, and the blocks before it stay.
-/

namespace SchemaMigrate.Model

/-- What a block contributes. -/
inductive Definition where
  | mixin (mixin : Mixin)
  | table (table : Table)
  | extended (table : Table)
deriving Repr, DecidableEq

/-- A fault placed by `place`, as an outcome. -/
def failed {α : Type} (failure : Failure) : Except CompileError α := .error (.located failure)

/-- Adds a field whose name is new among the fields of its owner. -/
def appendField (owner : String) (fields : List Field) (field : Field) (place : Fault → Failure) :
    Except CompileError (List Field) :=
  if hasName (fields.map (·.name)) field.name then
    failed (place (.duplicateField field.name owner))
  else .ok (fields ++ [field])

/-- Compiles a line into a table. -/
def addToTable (block : Block) (table : Table) (line : Line) : Except CompileError Table :=
  let place := block.failureAt line
  match Member.of? line.text with
  | none => failed (place .malformedLine)
  | some (.index tokens marks) =>
      match indexOf tokens marks with
      | .error fault => failed (place fault)
      | .ok index => .ok { table with indexes := table.indexes ++ [index] }
  | some (.attribute name) => .ok { table with attributes := table.attributes.set name true }
  | some (.relationship relationship) => do
      let fields ← appendField table.name table.fields relationship.field place
      .ok { table with fields, foreignKeys := table.foreignKeys ++ [relationship.foreignKey] }
  | some (.field line) => do
      let field ← line.field place
      let fields ← appendField table.name table.fields field place
      .ok { table with fields }

/-- Compiles a line into a mixin. -/
def addToMixin (block : Block) (mixin : Mixin) (line : Line) : Except CompileError Mixin :=
  let place := block.failureAt line
  match Member.of? line.text with
  | none => failed (place .malformedLine)
  | some (.index _ _) | some (.attribute _) => failed (place .notInMixin)
  | some (.relationship relationship) => do
      let fields ← appendField mixin.name mixin.fields relationship.field place
      .ok { mixin with fields, foreignKeys := mixin.foreignKeys ++ [relationship.foreignKey] }
  | some (.field line) => do
      let field ← line.field place
      let fields ← appendField mixin.name mixin.fields field place
      .ok { mixin with fields }

/-- Copies the fields and foreign keys of a mixin into a table, once. -/
def applyMixin (block : Block) (table : Table) (mixin : Mixin) : Except CompileError Table :=
  if hasName table.mixins mixin.name then .ok table
  else do
    let fields ← mixin.fields.foldlM
      (fun fields field => appendField table.name fields field block.failure) table.fields
    .ok { table with
          fields
          foreignKeys := table.foreignKeys ++ mixin.foreignKeys
          mixins := table.mixins ++ [mixin.name] }

/-- The table attribute that keeps the generated key from numbering itself. -/
def noIdentity : String := "NoIdentity"

/-- Gives up the identity of the key if the table asks for that, and resolves the indexes. -/
def finishTable (table : Table) : Table :=
  let fields :=
    if table.hasAttribute noIdentity then
      table.fields.map fun field => if field.primaryKey then { field with identity := false } else field
    else table.fields
  Table.resolveIndexes { table with fields }

def compileMixin (db : Database) (block : Block) : Except CompileError Mixin := do
  let some name := readName? block.header | failed (block.failure (.malformedHeader .mixin))
  if (db.mixin? name).isSome then failed (block.failure (.duplicateMixin name))
  else block.body.foldlM (addToMixin block) { name }

/-- The mixins of these names. -/
def findMixins (db : Database) (block : Block) : List String → Except CompileError (List Mixin)
  | [] => .ok []
  | name :: names => do
      let some mixin := db.mixin? name | failed (block.failure (.unknownMixin name))
      let mixins ← findMixins db block names
      .ok (mixin :: mixins)

def compileModel (db : Database) (block : Block) : Except CompileError Table := do
  let some header := ModelHeader.of? block.header | failed (block.failure (.malformedHeader .model))
  if db.hasTable header.name then failed (block.failure (.duplicateTable header.name))
  else
    let mixins ← findMixins db block header.mixins
    let key ← header.keyField block.failure
    let table ← block.body.foldlM (addToTable block) { name := header.name, fields := [key] }
    let table ← mixins.foldlM (applyMixin block) table
    .ok (finishTable table)

def compileExtension (db : Database) (block : Block) : Except CompileError Table := do
  let some name := readName? block.header | failed (block.failure (.malformedHeader .extension))
  let some base := db.table? name | failed (block.failure (.unknownTable name))
  let table ← block.body.foldlM (addToTable block) base
  .ok (finishTable table)

/-- Compiles a block against the schema as it stands. -/
def compileBlock (db : Database) (block : Block) : Except CompileError Definition :=
  match block.kind with
  | .mixin => .mixin <$> compileMixin db block
  | .model => .table <$> compileModel db block
  | .extension => .extended <$> compileExtension db block

/-- Enters a definition into the schema. -/
def commit (db : Database) : Definition → Database
  | .mixin mixin => db.putMixin mixin
  | .table table | .extended table => db.putTable table

def Definition.notice (definition : Definition) : Notice where
  level := .debug
  speaker := .compiler
  text := match definition with
    | .mixin unit => s!"Compiled mixin {unit.name} ({unit.fields.length} fields)"
    | .table unit => s!"Compiled model {unit.name} ({unit.fields.length} fields)"
    | .extended unit => s!"Extended model {unit.name}"

/-- The outcome of a compilation: the schema as far as it came, and the error that stopped it. -/
structure Compilation where
  schema : Database
  notices : List Notice := []
  error : Option CompileError := none
deriving DecidableEq

/-- Compiles blocks in the given order. -/
def compileBlocks (db : Database) : List Block → Compilation
  | [] => { schema := db }
  | block :: blocks =>
      match compileBlock db block with
      | .error error => { schema := db, error := some error }
      | .ok definition =>
          let rest := compileBlocks (commit db definition) blocks
          { rest with notices := definition.notice :: rest.notices }

/-- The blocks of a batch in the order in which they are compiled. -/
def passes (blocks : List Block) : List Block :=
  [BlockKind.mixin, .model, .extension].flatMap fun kind => blocks.filter (·.kind == kind)

/-- Compiles sources as one batch on top of a schema. -/
def compile (db : Database) (sources : List Source) : Compilation :=
  match blocksOf sources with
  | .error failure => { schema := db, error := some (.located failure) }
  | .ok blocks => compileBlocks db (passes blocks)

/-- The name of a text that is compiled alone. -/
def anonymous : String := "<string>"

end SchemaMigrate.Model
