import CrateDocs.Text.Quoted

/-!
The kinds of documented items. Every kind has a token, which element ids and file names use, a
number and a letter, which search indexes use, and the names of its group on a page.
-/

namespace CrateDocs

inductive Kind where
  | externCrate
  | reexport
  | primitive
  | module
  | declMacro
  | struct
  | enum
  | constant
  | static
  | trait
  | function
  | typeAlias
  | union
  | field
  | variant
  | assocType
  | assocConst
  | method
  | impl
  | requiredMethod
  | foreignType
  | keyword
  | opaqueType
  | attrMacro
  | deriveMacro
  | traitAlias
  deriving DecidableEq

namespace Kind

def all : List Kind :=
  [externCrate, reexport, primitive, module, declMacro, struct, enum, constant, static, trait,
    function, typeAlias, union, field, variant, assocType, assocConst, method, impl,
    requiredMethod, foreignType, keyword, opaqueType, attrMacro, deriveMacro, traitAlias]

def rank (k : Kind) : Nat := all.idxOf k

structure Info where
  token : String
  displayName : String
  groupName : String
  groupId : String
  number : Nat

def info : Kind → Info
  | externCrate => ⟨"externcrate", "Extern Crate", "Extern Crates", "extern-crates", 1⟩
  | reexport => ⟨"import", "Import", "Imports", "imports", 2⟩
  | primitive => ⟨"primitive", "Primitive", "Primitives", "primitives", 15⟩
  | module => ⟨"mod", "Module", "Modules", "modules", 0⟩
  | declMacro => ⟨"macro", "Macro", "Macros", "macros", 14⟩
  | struct => ⟨"struct", "Struct", "Structs", "structs", 3⟩
  | enum => ⟨"enum", "Enum", "Enums", "enums", 4⟩
  | constant => ⟨"constant", "Constant", "Constants", "constants", 17⟩
  | static => ⟨"static", "Static", "Statics", "statics", 7⟩
  | trait => ⟨"trait", "Trait", "Traits", "traits", 8⟩
  | function => ⟨"fn", "Function", "Functions", "functions", 5⟩
  | typeAlias => ⟨"type", "Typedef", "Typedefs", "types", 6⟩
  | union => ⟨"union", "Union", "Unions", "unions", 19⟩
  | field => ⟨"structfield", "Field", "Fields", "fields", 12⟩
  | variant => ⟨"variant", "Variant", "Variants", "variants", 13⟩
  | assocType =>
    ⟨"associatedtype", "Associated Type", "Associated Types", "associated-types", 16⟩
  | assocConst =>
    ⟨"associatedconstant", "Associated Const", "Associated Consts", "associated-consts", 18⟩
  | method => ⟨"method", "Method", "Methods", "methods", 11⟩
  | impl => ⟨"impl", "Implementation", "Implementations", "impls", 9⟩
  | requiredMethod =>
    ⟨"tymethod", "Required Method", "Required Methods", "required-methods", 10⟩
  | foreignType => ⟨"foreigntype", "Foreign Type", "Foreign Types", "foreign-types", 20⟩
  | keyword => ⟨"keyword", "Keyword", "Keywords", "keywords", 21⟩
  | opaqueType => ⟨"opaque", "Opaque Type", "Opaque Types", "opaque-types", 22⟩
  | attrMacro => ⟨"attr", "Proc Attribute", "Proc Attributes", "proc-attributes", 23⟩
  | deriveMacro => ⟨"derive", "Proc Derive", "Proc Derives", "proc-derives", 24⟩
  | traitAlias => ⟨"traitalias", "Trait Alias", "Trait Aliases", "trait-aliases", 25⟩

def token (k : Kind) : String := k.info.token

def displayName (k : Kind) : String := k.info.displayName

def groupName (k : Kind) : String := k.info.groupName

def groupId (k : Kind) : String := k.info.groupId

def number (k : Kind) : Nat := k.info.number

def letter (k : Kind) : Char := Char.ofNat ('A'.toNat + k.number)

inductive Unknown where
  | token (text : String)
  | number (value : Int)
  | missing
  deriving DecidableEq

def Unknown.message : Unknown → String
  | .token s => "Unsupported item type: " ++ Text.Quoted.quote s
  | .number n => "Unsupported item type: " ++ toString n
  | .missing => "Unsupported item type: None"

def ofToken (s : String) : Except Unknown Kind :=
  match all.find? fun k => k.token == s with
  | some k => .ok k
  | none => .error (.token s)

def ofNumber (n : Int) : Except Unknown Kind :=
  match all.find? fun k => (k.number : Int) == n with
  | some k => .ok k
  | none => .error (.number n)

def ofLetter (c : Char) : Except Unknown Kind :=
  ofNumber (Text.Surrogate.codePoint c - 'A'.toNat : Int)

def ofCode (s : String) : Except Unknown Kind :=
  match s.toList with
  | [c] => ofLetter c
  | _ => .error (.token s)

theorem ofToken_token (k : Kind) : ofToken k.token = .ok k := by cases k <;> rfl

theorem ofNumber_number (k : Kind) : ofNumber k.number = .ok k := by cases k <;> rfl

theorem ofLetter_letter (k : Kind) : ofLetter k.letter = .ok k := by cases k <;> rfl

theorem rank_inj {a b : Kind} : a.rank = b.rank ↔ a = b := by
  cases a <;> cases b <;> decide

instance : LT Kind := ⟨fun a b => a.rank < b.rank⟩

instance (a b : Kind) : Decidable (a < b) := inferInstanceAs (Decidable (a.rank < b.rank))

def members : List Kind := [field, variant, assocType, assocConst, method, requiredMethod]

end Kind

end CrateDocs
