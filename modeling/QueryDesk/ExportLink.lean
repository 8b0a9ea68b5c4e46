import QueryDesk.Url.Base

/-!
# Export links

A link to the export page of a server, with a query as its only parameter. Of the base
address only the scheme and the authority stay.
-/
namespace QueryDesk

open QueryDesk.Url (UrlError Base Place)

/-- The page that exports, up to the question mark. -/
structure ExportLink where
  endpoint : List Char
  deriving DecidableEq, Repr

inductive ExportError where
  | invalidBase (base : String) (error : UrlError)
  /-- A base that has no place for a path. -/
  | noPath (base : String)
  deriving DecidableEq, Repr

/-- The message without its cause. -/
def ExportError.summary : ExportError → String
  | .invalidBase base _ => "invalid export base url '" ++ base ++ "'"
  | .noPath base => "export base url '" ++ base ++ "' cannot carry a path"

def ExportError.cause? : ExportError → Option String
  | .invalidBase _ error => some error.message
  | .noPath _ => none

def ExportError.message (error : ExportError) : String :=
  match error.cause? with
  | some cause => error.summary ++ ": " ++ cause
  | none => error.summary

namespace ExportLink

def path : List Char := ['/', 'e', 'x', 'p']

def parameter : List Char := ['?', 'q', 'u', 'e', 'r', 'y', '=']

/-- The links below a base address. -/
def ofBase (text : String) : Except ExportError ExportLink :=
  match Base.read text.toList with
  | .error error => .error (.invalidBase text error)
  | .ok base =>
      match base.place with
      | .bare => .error (.noPath text)
      | .authority authority => .ok ⟨base.scheme ++ [':', '/', '/'] ++ authority ++ path⟩
      | .rooted dotted =>
          .ok ⟨base.scheme ++ ':' :: (if dotted then ['/', '.'] else []) ++ path⟩

/-- The link for a query. -/
def encode (link : ExportLink) (query : String) : String :=
  String.ofList (link.endpoint ++ parameter ++ Url.formEncode query.toList)

end ExportLink

end QueryDesk
