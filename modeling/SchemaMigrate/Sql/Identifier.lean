import SchemaMigrate.Digest.Sha256
import SchemaMigrate.Text.Lines

/-!
Identifiers: quoted names, and the generated names of constraints and indexes. A generated name that is
too long for the database is cut, and part of the digest of the whole name is put behind it.
-/

namespace SchemaMigrate.Sql

/-- Why a statement cannot be written. -/
inductive SqlError where
  | limitTooSmall (limit : Int)
  | noForeignKey (table : String)
  | noIndex (table : String)
deriving Repr, DecidableEq

/-- The longest identifier that the database takes, unless it is told otherwise. -/
def defaultLimit : Int := 63

/-- Digits of the digest in a cut name. -/
def digestLength : Nat := 8

/-- An underscore and the digits behind it. -/
def suffixLength : Nat := digestLength + 1

def SqlError.message : SqlError → String
  | .limitTooSmall limit => "max_length must exceed " ++ toString suffixLength ++ ", got " ++ toString limit
  | .noForeignKey table => "AddForeignKey step for '" ++ table ++ "' has no foreign key"
  | .noIndex table => "AddIndex step for '" ++ table ++ "' has no index"

/-- A name with every quote in it written twice. -/
def doubleQuotes : List Char → List Char
  | [] => []
  | c :: rest => if c = '"' then '"' :: '"' :: doubleQuotes rest else c :: doubleQuotes rest

/-- A name between double quotes. -/
def quote (name : String) : String := String.ofList ('"' :: doubleQuotes name.toList ++ ['"'])

/-- The digits of the digest that stand for a name. -/
def shortDigest (name : String) : List Char :=
  (Sha256.hexDigest name.toUTF8.toList).take digestLength

/-- Fits a name into the limit. -/
def fit (name : String) (limit : Int) : Except SqlError String :=
  if (name.length : Int) ≤ limit then .ok name
  else if limit ≤ suffixLength then .error (.limitTooSmall limit)
  else
    .ok (String.ofList
      (name.toList.take (limit - suffixLength).toNat ++ '_' :: shortDigest name))

def primaryKeyName (table : String) (limit : Int) : Except SqlError String :=
  fit ("PK_" ++ table) limit

def foreignKeyName (table column : String) (limit : Int) : Except SqlError String :=
  fit ("FK_" ++ table ++ "_" ++ column) limit

def indexName (table : String) (fields : List String) (alternateKey : Bool) (limit : Int) :
    Except SqlError String :=
  fit ((if alternateKey then "AK" else "IX") ++ "_" ++ table ++ "_" ++ Text.joinWith "_" fields) limit

/-- The index of a foreign key is named apart from declared indexes over the same column. -/
def foreignKeyIndexName (table column : String) (limit : Int) : Except SqlError String :=
  fit ("IX_" ++ table ++ "_" ++ column ++ "_FK") limit

end SchemaMigrate.Sql
