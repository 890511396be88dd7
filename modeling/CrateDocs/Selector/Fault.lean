namespace CrateDocs.Selector

/-- The first five are found while a selector is read, the others while it is tried. A range needs
an input with a type; a week needs a year of four digits; a group of radio buttons needs a document.
-/
inductive Fault where
  | malformed
  | unsupported
  | noSuchChar
  | numeralTooLong
  | tooDeep
  | noType
  | countTooLarge
  | noSuchYear
  | noGroup
  deriving DecidableEq

end CrateDocs.Selector
