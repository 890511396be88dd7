import CrateDocs.Text.Split
import CrateDocs.Text.Quoted

/-!
Names of documented items: segments joined by double colons, such as `krate::module::Item`.
A name is any text; its segments are what the separators leave.
-/

namespace CrateDocs

structure Name where
  text : String
  deriving DecidableEq

namespace Name

def separator : List Char := [':', ':']

def chars (n : Name) : List Char := n.text.toList

def ofChars (s : List Char) : Name := ⟨String.ofList s⟩

def isSingleton (n : Name) : Bool := (Text.cutLast separator n.chars).isNone

def first (n : Name) : String :=
  match Text.cutFirst separator n.chars with
  | some (a, _) => String.ofList a
  | none => n.text

def last (n : Name) : String :=
  match Text.cutLast separator n.chars with
  | some (_, b) => String.ofList b
  | none => n.text

def rest? (n : Name) : Option String :=
  (Text.cutFirst separator n.chars).map fun p => String.ofList p.2

def restOrFirst (n : Name) : String := n.rest?.getD n.first

def segments (n : Name) : List String := (Text.splitOn separator n.chars).map String.ofList

def parent? (n : Name) : Option Name :=
  (Text.cutLast separator n.chars).map fun p => ofChars p.1

def child (n : Name) (segment : String) : Name := ⟨n.text ++ "::" ++ segment⟩

/-- Whether `suffix` is the name itself or what follows one of its separators. -/
def endsWith (n : Name) (suffix : String) : Bool :=
  n.text == suffix || (separator ++ suffix.toList).isSuffixOf n.chars

instance : LT Name := ⟨fun a b => a.text < b.text⟩

instance : LE Name := ⟨fun a b => a.text ≤ b.text⟩

instance (a b : Name) : Decidable (a < b) := inferInstanceAs (Decidable (a.text < b.text))

instance (a b : Name) : Decidable (a ≤ b) := inferInstanceAs (Decidable (a.text ≤ b.text))

def shown (n : Name) : String := "Name(" ++ Text.Quoted.quote n.text ++ ")"

end Name

end CrateDocs
