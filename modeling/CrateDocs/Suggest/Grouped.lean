import CrateDocs.Item.Name

/-!
Suggestions for a keyword of one segment. It is compared with the last segments of the names, and a
last segment stands for all names that end in it.
-/

namespace CrateDocs.Suggest

def lastSegments (names : List String) : List String :=
  (names.map fun n => (Name.mk n).last).eraseDups

def namesEndingIn (names : List String) (segment : String) : List String :=
  names.filter fun n => (Name.mk n).last == segment

def expand (names found : List String) (limit : Int) : List String :=
  (found.flatMap (namesEndingIn names)).take limit.toNat

def candidates (keyword : Name) (names : List String) : List String :=
  if keyword.isSingleton then lastSegments names else names

def suggestions (keyword : Name) (limit : Int) (names found : List String) : List String :=
  if keyword.isSingleton then expand names found limit else found

end CrateDocs.Suggest
