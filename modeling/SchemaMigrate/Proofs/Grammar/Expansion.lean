import SchemaMigrate.Model.Compile
import SchemaMigrate.Proofs.Grammar.Syntax

/-!
What a batch of models means. Every block is expanded into the schema directly, without faults: a batch
that is not well formed has an expansion too, but nobody is owed it.
-/

namespace SchemaMigrate.Grammar

section Types

/-- The codes of the types that take a size but have no unbounded variant. -/
def boundedCodes : List String := ["achar", "uchar", "char", "decimal"]

/-- A type may be declared with its size. -/
def TypeTerm.Accepted (type : TypeTerm) : Prop :=
  type.size = .unbounded → nameKey type.code.text ∉ boundedCodes

instance (type : TypeTerm) : Decidable type.Accepted := inferInstanceAs (Decidable (_ → _))

def Size.precision? : Size → Option Int
  | .unsized => none
  | .precision digits => some digits
  | .scaled digits _ => some digits
  | .unbounded => some maxLength

def Size.scale? : Size → Option Int
  | .scaled _ places => some places
  | _ => none

/-- The type that is asked for, by its code. -/
def TypeTerm.asked (type : TypeTerm) : ColumnType where
  name := type.code.text
  precision := type.size.precision?
  scale := type.size.scale?

/-- The type in which a column is stored. -/
def TypeTerm.stored (type : TypeTerm) : ColumnType := (ColumnType.ofDeclared type.asked).toOption.getD type.asked

/-- The numbers of a size. -/
def Size.numbers : Size → List Nat
  | .unsized | .unbounded => []
  | .precision digits => [digits]
  | .scaled digits places => [digits, places]

end Types

section Members

def FieldTerm.field (term : FieldTerm) : Field where
  name := term.name.text
  type := term.type.stored
  nullable := term.nullable
  attributes := Attributes.ofList (term.marks.map fun mark => (mark.text, true))

/-- Whether the target or its role is marked nullable. -/
def RelationshipTerm.isNullable (term : RelationshipTerm) : Bool :=
  term.nullable || term.role.elim false (·.2)

/-- The column of a relationship: its role, its target and `ID`. -/
def RelationshipTerm.column (term : RelationshipTerm) : String :=
  term.role.elim "" (·.1.text) ++ term.target.text ++ "ID"

def RelationshipTerm.field (term : RelationshipTerm) : Field where
  name := term.column
  type := { name := "integer" }
  nullable := term.isNullable
  optional := term.optional

def RelationshipTerm.foreignKey (term : RelationshipTerm) : ForeignKey where
  column := term.column
  target := term.target.text
  targetColumn := term.target.text ++ "ID"
  relationship := if term.many then .oneToMany else .oneToOne
  nullable := term.isNullable

def IndexTerm.tokens (term : IndexTerm) : List String := (term.first :: term.others).map (·.text)

/-- Whether the index bears one of these marks. -/
def IndexTerm.hasMark (term : IndexTerm) (names : List String) : Bool :=
  term.marks.any fun mark => names.contains (nameKey mark.text)

def IndexTerm.index (term : IndexTerm) : Index where
  fields := term.tokens
  unique := term.hasMark ["unique", "alternatekey", "ak"]
  alternateKey := term.hasMark ["alternatekey", "ak"]
  kind := if term.hasMark ["clustered"] then .clustered else .nonclustered

def MemberTerm.field? : MemberTerm → Option Field
  | .field term => some term.field
  | .relationship term => some term.field
  | .index _ | .attribute _ => none

def MemberTerm.foreignKey? : MemberTerm → Option ForeignKey
  | .relationship term => some term.foreignKey
  | .field _ | .index _ | .attribute _ => none

def MemberTerm.index? : MemberTerm → Option Index
  | .index term => some term.index
  | .field _ | .relationship _ | .attribute _ => none

def MemberTerm.attribute? : MemberTerm → Option String
  | .attribute mark => some mark.text
  | .field _ | .relationship _ | .index _ => none

/-- A member may be declared: its type has that size, or its marks are known. -/
def MemberTerm.Accepted : MemberTerm → Prop
  | .field term => term.type.Accepted
  | .index term => ∀ mark ∈ term.marks, nameKey mark.text ∈ Model.indexAttributes
  | .relationship _ | .attribute _ => True

instance : (member : MemberTerm) → Decidable member.Accepted
  | .field term => inferInstanceAs (Decidable term.type.Accepted)
  | .index term => inferInstanceAs (Decidable (∀ mark ∈ term.marks, nameKey mark.text ∈ Model.indexAttributes))
  | .relationship _ | .attribute _ => inferInstanceAs (Decidable True)

/-- The types that a member declares. -/
def MemberTerm.types : MemberTerm → List TypeTerm
  | .field term => [term.type]
  | .relationship _ | .index _ | .attribute _ => []

end Members

section Blocks

def MixinTerm.mixin (term : MixinTerm) : Mixin where
  name := term.name.text
  fields := term.members.filterMap (·.field?)
  foreignKeys := term.members.filterMap (·.foreignKey?)

/-- A table with further members. -/
def withMembers (table : Table) (members : List MemberTerm) : Table :=
  { table with
    fields := table.fields ++ members.filterMap (·.field?)
    foreignKeys := table.foreignKeys ++ members.filterMap (·.foreignKey?)
    indexes := table.indexes ++ members.filterMap (·.index?)
    attributes := (members.filterMap (·.attribute?)).foldl (fun flags name => flags.set name true)
      table.attributes }

/-- Mixins, each at the first of its places. -/
def eachOnce (mixins : List Mixin) : List Mixin :=
  mixins.eraseDupsBy fun later first => sameName first.name later.name

/-- A table without mixins, with the fields and foreign keys of some. -/
def withMixins (table : Table) (mixins : List Mixin) : Table :=
  { table with
    fields := table.fields ++ (eachOnce mixins).flatMap (·.fields)
    foreignKeys := table.foreignKeys ++ (eachOnce mixins).flatMap (·.foreignKeys)
    mixins := (eachOnce mixins).map (·.name) }

/-- The column that a token of an index stands for: that of the last foreign key to a table of the name,
and else the token itself. -/
def columnFor (keys : List ForeignKey) (token : String) : String :=
  ((keys.filter fun key => sameName key.target token).getLast?.map (·.column)).getD token

/-- A table at the end of a block. Its indexes are over columns, and its key numbers itself only if the
table does not refuse that. -/
def settled (table : Table) : Table :=
  { table with
    fields := table.fields.map fun field =>
      { field with identity := field.identity && !(field.primaryKey && table.hasAttribute "NoIdentity") }
    indexes := table.indexes.map fun index =>
      { index with fields := index.fields.map (columnFor table.foreignKeys) } }

/-- The type of the key, which is an integer if nothing is declared. -/
def ModelTerm.keyType (term : ModelTerm) : TypeTerm :=
  term.key.elim { code := { text := "int", valid := rfl } } (·.type)

def ModelTerm.keyField (term : ModelTerm) : Field where
  name := term.name.text ++ "ID"
  type := term.keyType.stored
  primaryKey := true
  identity := typeFamily? term.keyType.stored.name == some .integer

/-- The table of a model: its key, its own members, and those of its mixins. -/
def ModelTerm.table (mixins : List Mixin) (term : ModelTerm) : Table :=
  let own := withMembers { name := term.name.text, fields := [term.keyField] } term.members
  settled (withMixins own (term.mixins.filterMap fun name => findNamed? mixins name.text))

/-- The tables after an extension, which goes into the table of its base. -/
def ExtensionTerm.extend (tables : List Table) (term : ExtensionTerm) : List Table :=
  tables.map fun table =>
    if sameName table.name term.base.text then settled (withMembers table term.members) else table

end Blocks

section Batches

variable (blocks : List BlockTerm)

/-- The mixins among some blocks. -/
def mixinTerms : List MixinTerm := blocks.filterMap fun
  | .mixin term => some term
  | .model _ | .extension _ => none

def modelTerms : List ModelTerm := blocks.filterMap fun
  | .model term => some term
  | .mixin _ | .extension _ => none

def extensionTerms : List ExtensionTerm := blocks.filterMap fun
  | .extension term => some term
  | .mixin _ | .model _ => none

/-- The mixins of the schema. -/
def mixinsOf : List Mixin := (mixinTerms blocks).map (·.mixin)

/-- The tables of the schema: those of the models, with the extensions one after the other. -/
def tablesOf : List Table :=
  (extensionTerms blocks).foldl ExtensionTerm.extend ((modelTerms blocks).map (·.table (mixinsOf blocks)))

/-- The types that a block declares. -/
def BlockTerm.types (block : BlockTerm) : List TypeTerm :=
  let keys := match block with
    | .model term => [term.keyType]
    | .mixin _ | .extension _ => []
  keys ++ block.members.flatMap (·.types)

/-- The numbers in the sizes that are declared. -/
def declaredNumbers : List Nat := (blocks.flatMap (·.types)).flatMap (·.size.numbers)

/-- A batch is well formed. Names are compared by their keys. -/
structure WellFormed : Prop where
  mixinNames : ((mixinTerms blocks).map fun term => nameKey term.name.text).Nodup
  tableNames : ((modelTerms blocks).map fun term => nameKey term.name.text).Nodup
  /-- Every mixin that is applied is defined. -/
  applied : ∀ model ∈ modelTerms blocks, ∀ name ∈ model.mixins,
    nameKey name.text ∈ (mixinTerms blocks).map fun term => nameKey term.name.text
  /-- Every table that is extended is defined. -/
  bases : ∀ extension ∈ extensionTerms blocks,
    nameKey extension.base.text ∈ (modelTerms blocks).map fun term => nameKey term.name.text
  mixinFields : ∀ mixin ∈ mixinsOf blocks, (mixin.fields.map fun field => nameKey field.name).Nodup
  /-- The fields of every table are distinct after the expansion. -/
  tableFields : ∀ table ∈ tablesOf blocks, (table.fields.map fun field => nameKey field.name).Nodup
  keyTypes : ∀ model ∈ modelTerms blocks, model.keyType.Accepted
  members : ∀ block ∈ blocks, ∀ member ∈ block.members, member.Accepted
  /-- A mixin has fields and relationships only. -/
  mixinMembers : ∀ mixin ∈ mixinTerms blocks, ∀ member ∈ mixin.members, member.field?.isSome

attribute [local irreducible] nameKey

instance : Decidable (WellFormed blocks) :=
  decidable_of_iff
    (((mixinTerms blocks).map fun term => nameKey term.name.text).Nodup ∧
      ((modelTerms blocks).map fun term => nameKey term.name.text).Nodup ∧
      (∀ model ∈ modelTerms blocks, ∀ name ∈ model.mixins,
        nameKey name.text ∈ (mixinTerms blocks).map fun term => nameKey term.name.text) ∧
      (∀ extension ∈ extensionTerms blocks,
        nameKey extension.base.text ∈ (modelTerms blocks).map fun term => nameKey term.name.text) ∧
      (∀ mixin ∈ mixinsOf blocks, (mixin.fields.map fun field => nameKey field.name).Nodup) ∧
      (∀ table ∈ tablesOf blocks, (table.fields.map fun field => nameKey field.name).Nodup) ∧
      (∀ model ∈ modelTerms blocks, model.keyType.Accepted) ∧
      (∀ block ∈ blocks, ∀ member ∈ block.members, member.Accepted) ∧
      ∀ mixin ∈ mixinTerms blocks, ∀ member ∈ mixin.members, member.field?.isSome)
    ⟨fun h => ⟨h.1, h.2.1, h.2.2.1, h.2.2.2.1, h.2.2.2.2.1, h.2.2.2.2.2.1, h.2.2.2.2.2.2.1, h.2.2.2.2.2.2.2.1,
        h.2.2.2.2.2.2.2.2⟩,
      fun h => ⟨h.mixinNames, h.tableNames, h.applied, h.bases, h.mixinFields, h.tableFields, h.keyTypes,
        h.members, h.mixinMembers⟩⟩

end Batches

end SchemaMigrate.Grammar
