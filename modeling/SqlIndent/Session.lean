import SqlIndent.Document
import SqlIndent.Error
import SqlIndent.Keyword.Builtin

/-!
# Sessions

A session works with one keyword set. It may be given as the very first operation; otherwise the
first operation that needs a set fixes the built-in one. Once fixed, the set stays.
-/

namespace SqlIndent

/-- A session, as the keyword set it has fixed, if any. -/
structure Session where
  fixed : Option KeywordSet := none
deriving DecidableEq

namespace Session

/-- The operations of a session. -/
inductive Request where
  /-- Gives the keyword set. -/
  | install (keywords : KeywordSet)
  /-- Asks for the keyword set. -/
  | lists
  /-- Asks for a formatted text. -/
  | format (options : Options) (source : Text)
  /-- Asks whether a text is formatted. -/
  | check (options : Options) (source : Text)
  /-- Asks for the replacement of a document. -/
  | document (options : Options) (source : Text)

/-- The answers to them. -/
inductive Response where
  | installed
  /-- The keyword set was already fixed. -/
  | alreadyFixed
  | lists (lists : KeywordLists)
  | text (t : Text)
  | verdict (formatted : Bool)
  | replacement (r : Replacement)
deriving DecidableEq

/-- The error that an answer reports, if it reports one. -/
def Response.error? : Response → Option Error
  | alreadyFixed => some .keywordsFixed
  | _ => none

/-- The keyword set that the session uses from now on. -/
def keywords (s : Session) : KeywordSet :=
  s.fixed.getD .builtin

/-- The answer to a request other than `install`, for a keyword set. -/
def Request.answer (keywords : KeywordSet) : Request → Response
  | install _ => .alreadyFixed
  | lists => .lists keywords.toLists
  | format options source => .text (SqlIndent.format options keywords source)
  | check options source => .verdict (isFormatted options keywords source)
  | document options source => .replacement (reformatting options keywords source)

/-- Performs a request. -/
def perform (s : Session) (r : Request) : Session × Response :=
  match s.fixed, r with
  | none, .install keywords => (⟨some keywords⟩, .installed)
  | _, _ => (⟨some s.keywords⟩, r.answer s.keywords)

/-- The answers to a list of requests, one after another. -/
def performAll (s : Session) : List Request → List Response
  | [] => []
  | r :: rs =>
    let (next, answer) := s.perform r
    answer :: next.performAll rs

end Session
end SqlIndent
