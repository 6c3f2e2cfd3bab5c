import MailPrefs.Text.Split

namespace MailPrefs

structure Arguments where
  config : Option String := none
  serverUrl : Option String := none
  catalog : Option String := none
  supportEmail : Option String := none
  subscribe : List String := []
  unsubscribe : List String := []
  submit : Bool := false
deriving DecidableEq, Repr

inductive ArgumentsError where
  | helpRequested
  | misuse
deriving DecidableEq, Repr

namespace Arguments

def usage : String :=
  "Usage: notifications [--config PATH] [--server-url URL] [--catalog KEY,KEY,...] " ++
  "[--support-email ADDRESS]\n" ++
  "         [--subscribe KEY]... [--unsubscribe KEY]... [--submit]\n"

def configPath (a : Arguments) : String :=
  a.config.getD "notifications.toml"

/-- The keys to be toggled with their new states, in the order in which they are toggled. -/
def toggles (a : Arguments) : List (String × Bool) :=
  a.unsubscribe.map (·, false) ++ a.subscribe.map (·, true)

def submits (a : Arguments) : Bool :=
  a.submit || !a.subscribe.isEmpty || !a.unsubscribe.isEmpty

def once (old : Option String) (value : String) : Except ArgumentsError (Option String) :=
  if old.isSome then .error .misuse else .ok (some value)

def set (a : Arguments) (name value : String) : Except ArgumentsError Arguments := do
  match name with
  | "--config" =>
    if value.isEmpty then .error .misuse else .ok { a with config := ← once a.config value }
  | "--server-url" => .ok { a with serverUrl := ← once a.serverUrl value }
  | "--catalog" => .ok { a with catalog := ← once a.catalog value }
  | "--support-email" => .ok { a with supportEmail := ← once a.supportEmail value }
  | "--subscribe" => .ok { a with subscribe := a.subscribe ++ [value] }
  | "--unsubscribe" => .ok { a with unsubscribe := a.unsubscribe ++ [value] }
  | _ => .error .misuse

def attached? (s : String) : Option (String × String) :=
  (Text.splitFirst? (· = '=') s.toList).map fun (name, value) => (.ofList name, .ofList value)

/-- A single dash is a value, all else that starts with one is not. -/
def isValue (s : String) : Bool :=
  s = "-" || !s.startsWith "-"

def isHelp (s : String) : Bool :=
  s = "--help" || s.startsWith "-h"

/-- Takes up arguments from the left, the first one that does not fit decides. -/
def addAll (a : Arguments) : List String → Except ArgumentsError Arguments
  | [] | ["--"] => .ok a
  | "--submit" :: rest => if a.submit then .error .misuse else addAll { a with submit := true } rest
  | s :: rest =>
    if isHelp s then .error .helpRequested
    else
      match attached? s with
      | some (name, value) => do addAll (← a.set name value) rest
      | none =>
        match rest with
        | value :: rest =>
          if isValue value then do addAll (← a.set s value) rest else .error .misuse
        | [] => .error .misuse

def parse (arguments : List String) : Except ArgumentsError Arguments :=
  addAll {} arguments

end Arguments

end MailPrefs
