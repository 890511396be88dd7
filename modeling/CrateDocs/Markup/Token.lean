namespace CrateDocs.Markup

/-- What kind of text a text is: running text, one of the constructs that are no content, or the
text of an element that is not shown. -/
inductive TextKind where
  | plain
  | comment
  | cdata
  | instruction
  | declaration
  | doctype
  | script
  | stylesheet
  | template
  | ruby
  | rubyParen
  deriving DecidableEq

structure Attribute where
  name : String
  value : String
  deriving DecidableEq

/-- `selfClosed` tells a tag that ends in a slash, which opens and closes its element. -/
inductive Token where
  | text (s : List Char)
  | open (name : String) (attributes : List Attribute) (selfClosed : Bool)
  | close (name : String)
  | special (kind : TextKind) (s : List Char)

end CrateDocs.Markup
