/-
# Server timeouts

The service is asked to give up a second after the client would: the query of the URL gets one
`timeout` parameter, in place of those that it had.
-/
import QueueClient.Duration
import QueueClient.Url.Basic
import QueueClient.Url.Query

namespace QueueClient

/-- Whether a piece of a query stays beside the new timeout: it is not empty and no timeout. -/
def isForeignPiece (piece : List Char) : Bool :=
  !piece.isEmpty && piece != "timeout".toList && !("timeout=".toList.isPrefixOf piece)

/-- The parameter for a time budget. -/
def timeoutPiece (budget : Duration) : List Char :=
  ("timeout=" ++ toString (budget.secs + 1)).toList

/-- The pieces of a query with one timeout behind the foreign ones. -/
def timeoutPieces (text : List Char) (budget : Duration) : List (List Char) :=
  (Query.pieces text).filter isForeignPiece ++ [timeoutPiece budget]

/-- The URL with the timeout for a time budget. -/
def Url.setServerTimeout (u : Url) (budget : Duration) : Url :=
  u.setQuery (Query.join (timeoutPieces (u.query.getD "").toList budget))

end QueueClient
