/-!
# Kinds of scalar fields

The kinds that a scalar field may have. Some refine a more general kind, which decides for them when
nothing is said about themselves. A category is a coarse class of kinds, found in an ordered table.
-/

namespace Filterbook

/-- The kind of a scalar field. -/
inductive Kind where
  /-- Short text. -/
  | string
  /-- Long text. -/
  | text
  /-- An electronic mail address. -/
  | email
  /-- A short name made for addresses. -/
  | slug
  /-- A web address. -/
  | url
  /-- The path of a file. -/
  | filePath
  /-- The address of a network host. -/
  | ipAddress
  /-- An integer of 32 bits. -/
  | int
  /-- An integer of 16 bits. -/
  | smallInt
  /-- An integer of 64 bits. -/
  | bigInt
  /-- An integer of 32 bits that is not negative. -/
  | positiveInt
  /-- An integer of 16 bits that is not negative. -/
  | positiveSmallInt
  /-- A floating-point number. -/
  | float
  /-- An exact decimal number. -/
  | decimal
  /-- A truth value. -/
  | boolean
  /-- A day. -/
  | date
  /-- A time on a day. -/
  | dateTime
  /-- A time of day. -/
  | time
  /-- An identifier of 128 bits. -/
  | uuid
  /-- A Json value. -/
  | json
  /-- Bytes. -/
  | bytes
  deriving DecidableEq, Repr

namespace Kind

/-- Every kind, in the order of declaration. -/
def all : List Kind :=
  [string, text, email, slug, url, filePath, ipAddress, int, smallInt, bigInt, positiveInt,
    positiveSmallInt, float, decimal, boolean, date, dateTime, time, uuid, json, bytes]

/-- The name of a kind. -/
def name : Kind → String
  | string => "String"
  | text => "Text"
  | email => "Email"
  | slug => "Slug"
  | url => "Url"
  | filePath => "FilePath"
  | ipAddress => "IpAddress"
  | int => "Int"
  | smallInt => "SmallInt"
  | bigInt => "BigInt"
  | positiveInt => "PositiveInt"
  | positiveSmallInt => "PositiveSmallInt"
  | float => "Float"
  | decimal => "Decimal"
  | boolean => "Boolean"
  | date => "Date"
  | dateTime => "DateTime"
  | time => "Time"
  | uuid => "Uuid"
  | json => "Json"
  | bytes => "Bytes"

/-- The kind with exactly this name. -/
def ofName? (s : String) : Option Kind := all.find? (·.name == s)

/-- The kind of a name or of one of the other spellings in use. -/
def ofSpelling? (s : String) : Option Kind :=
  match s with
  | "Char" => some string
  | "URL" => some url
  | "Integer" => some int
  | "Bool" => some boolean
  | "UUID" => some uuid
  | s => ofName? s

/-- The more general kind that a kind refines. -/
def parent? : Kind → Option Kind
  | email => some string
  | slug => some string
  | url => some string
  | smallInt => some int
  | bigInt => some int
  | positiveInt => some int
  | positiveSmallInt => some positiveInt
  | dateTime => some date
  | _ => none

/-- The number of kinds that a kind refines, directly or through others. -/
def depth : Kind → Nat
  | positiveSmallInt => 2
  | kind => if kind.parent?.isSome then 1 else 0

/-- A kind refines one more kind than its parent does. -/
theorem depth_of_parent {kind parent : Kind} (h : kind.parent? = some parent) :
    parent.depth + 1 = kind.depth := by
  cases kind <;> simp_all [parent?] <;> subst h <;> rfl

/-- The kind and those that it refines, nearest first, in at most so many steps. -/
def lineageWithin : (steps : Nat) → Kind → List Kind
  | 0, kind => [kind]
  | steps + 1, kind =>
    kind :: match kind.parent? with
      | none => []
      | some parent => parent.lineageWithin steps

/-- The kind and those that it refines, nearest first. -/
def lineage (kind : Kind) : List Kind := kind.lineageWithin kind.depth

/-- A kind comes before the lineage of the kind that it refines. -/
theorem lineage_of_parent {kind parent : Kind} (h : kind.parent? = some parent) :
    kind.lineage = kind :: parent.lineage := by
  cases kind <;> simp_all [parent?] <;> subst h <;> rfl

end Kind

/-- A coarse class of kinds. -/
inductive Category where
  /-- Truth values. -/
  | boolean
  /-- Free text. -/
  | text
  /-- Numbers. -/
  | numeric
  /-- Days, with or without a time. -/
  | date
  /-- Opaque identifiers. -/
  | identifier
  /-- Whatever is not classified. -/
  | other
  deriving DecidableEq, Repr

namespace Category

/-- Every category. -/
def all : List Category := [boolean, text, numeric, date, identifier, other]

/-- The name of a category. -/
def name : Category → String
  | boolean => "boolean"
  | text => "text"
  | numeric => "numeric"
  | date => "date"
  | identifier => "identifier"
  | other => "other"

/-- The category with this name. -/
def ofName? (s : String) : Option Category := all.find? (·.name == s)

/-- The category of a kind: that of the nearest kind in its lineage which the table knows, whose first
entry counts. -/
def classify (table : List (Kind × Category)) (kind : Kind) : Category :=
  (kind.lineage.findSome? fun k => table.lookup k).getD other

/-- The categories of the kinds that have one from the start. -/
def standardTable : List (Kind × Category) :=
  [(.string, text), (.text, text), (.filePath, text), (.ipAddress, text), (.decimal, numeric),
    (.float, numeric), (.int, numeric), (.date, date), (.boolean, boolean), (.uuid, identifier)]

end Category

end Filterbook
