import MailPrefs.Text.Split
import MailPrefs.Url.Percent

namespace MailPrefs.Url

def isSlash (c : Char) : Bool :=
  c = '/' || c = '\\'

inductive Move where
  | stay
  | up
  | down (segment : String)
deriving DecidableEq, Repr

/-- One dot stays and two dots go up; a dot may be percent-encoded. -/
def Move.ofSegment (s : List Char) : Move :=
  let lower := String.ofList (s.map Char.toLower)
  if [".", "%2e"].contains lower then .stay
  else if ["..", ".%2e", "%2e.", "%2e%2e"].contains lower then .up
  else .down (String.ofList (Percent.encode Percent.inPath s))

def follow (segments : List String) : Move → List String
  | .stay => segments
  | .up => segments.dropLast
  | .down segment => segments ++ [segment]

/-- The segments after all moves. An empty one stands after a last move that does not go down. -/
def resolve (moves : List Move) : List String :=
  let segments := moves.foldl follow []
  match moves.getLast? with
  | some (.down _) => segments
  | _ => segments ++ [""]

def pathSegments (path : List Char) : List String :=
  resolve ((Text.splitWhere isSlash path.tail).map Move.ofSegment)

end MailPrefs.Url
