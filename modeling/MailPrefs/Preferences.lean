import MailPrefs.Catalog
import MailPrefs.Json.Printer

namespace MailPrefs

structure Preferences where
  entries : List (String × Bool)
deriving DecidableEq, Repr

namespace Preferences

def ofSubscribed (c : Catalog) (subscribed : List String) : Preferences :=
  ⟨c.keys.map fun k => (k, subscribed.contains k)⟩

def get? (p : Preferences) (key : String) : Option Bool :=
  p.entries.lookup key

/-- The object with the entries as members, built one by one. -/
def toJson (p : Preferences) : Json :=
  .object (p.entries.foldl (fun ms (k, b) => Json.Members.insert k (.bool b) ms) [])

def printEntries : List (String × Bool) → List Char
  | [] => []
  | [(k, b)] => Json.printString k ++ ':' :: (Json.bool b).print
  | (k, b) :: es => Json.printString k ++ ':' :: (Json.bool b).print ++ ',' :: printEntries es

/-- The JSON text of the entries, written straight from the list. -/
def compact (p : Preferences) : String :=
  String.ofList ('\x7b' :: printEntries p.entries ++ ['\x7d'])

end Preferences

end MailPrefs
