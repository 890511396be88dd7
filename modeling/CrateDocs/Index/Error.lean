import CrateDocs.Index.Schema
import CrateDocs.Json.Parser
import CrateDocs.Log
import CrateDocs.Path

namespace CrateDocs.Index

structure Rejection where
  format : Format
  faults : List Fault

def Rejection.message (r : Rejection) : String :=
  r.format.name ++ ": " ++ ((r.faults.head?.map Fault.message).getD "")

inductive Cause where
  | notText (fault : Text.Utf8.Fault)
  | unterminated
  | notJson (fault : Json.Fault) (position : Text.Position)
  | notObject
  | package (name : String) (rejections : List Rejection)

/-- A malformed source. The two limits of reading JSON are told apart. -/
inductive Error where
  | malformed (path : Option Path) (cause : Cause)
  | tooDeep
  | numeralTooLong

def Cause.message : Cause → String
  | notText f => "search index is not valid UTF-8: " ++ f.message
  | unterminated => "search index is not terminated"
  | notJson f p => "could not parse search index: " ++ f.describe p
  | notObject => "search index is not a JSON object"
  | package n rs => "package '" ++ n ++ "' matches no known search index format (" ++
      "; ".intercalate (rs.map Rejection.message) ++ ")"

def Error.message : Error → String
  | malformed path cause =>
    let place := match path with
      | some p => "'" ++ p.toString ++ "'"
      | none => "<string>"
    "Malformed documentation source " ++ place ++ ": " ++ cause.message
  | tooDeep => "The search index nests too deeply"
  | numeralTooLong => "A number in the search index is too long"

def Rejection.event (name : String) (r : Rejection) : Event :=
  .detailed .debug .schema "search index adapter rejected package"
    [("krate", Text.Quoted.quote name), ("adapter", Text.Quoted.quote r.format.name),
      ("errors", toString r.faults.length)]

end CrateDocs.Index
