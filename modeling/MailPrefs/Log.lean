namespace MailPrefs.Log

inductive Level where
  | error
  | warn
  | info
  | debug
  | trace
deriving DecidableEq, Repr

namespace Level

def name : Level → String
  | .error => "ERROR"
  | .warn => "WARN"
  | .info => "INFO"
  | .debug => "DEBUG"
  | .trace => "TRACE"

def verbosity : Level → Nat
  | .error => 1
  | .warn => 2
  | .info => 3
  | .debug => 4
  | .trace => 5

end Level

structure Record where
  level : Level
  target : String
  message : String
  fields : List (String × String) := []
deriving DecidableEq, Repr

def Record.line (r : Record) : String :=
  r.level.name ++ " " ++ r.target ++ ": " ++
    " ".intercalate (r.message :: r.fields.map fun (name, value) => name ++ "=" ++ value)

/-- Lets through records up to a verbosity, 0 for none, whose target starts with the given text. -/
structure Directive where
  target : String
  verbosity : Nat
deriving DecidableEq, Repr

/-- Of the directives for a record's target the one with the
longest target decides, the last one of two equal ones. -/
structure Filter where
  directives : List Directive
deriving DecidableEq, Repr

namespace Filter

def atMost (verbosity : Nat) : Filter := ⟨[⟨"", verbosity⟩]⟩

def default : Filter := atMost Level.info.verbosity

def better (best : Option Directive) (d : Directive) : Option Directive :=
  match best with
  | none => some d
  | some b => if b.target.length ≤ d.target.length then some d else some b

def allows (f : Filter) (r : Record) : Bool :=
  match (f.directives.filter fun d => r.target.startsWith d.target).foldl better none with
  | none => false
  | some d => r.level.verbosity ≤ d.verbosity

def verbosity? (s : String) : Option Nat :=
  let s := s.toLower
  [("off", 0), ("error", 1), ("warn", 2), ("info", 3), ("debug", 4), ("trace", 5), ("", 1),
    ("0", 0), ("1", 1), ("2", 2), ("3", 3), ("4", 4), ("5", 5)].lookup s

def isTargetStart (c : Char) : Bool :=
  c = '-' || c = ':' || c = '_' || c.isAlphanum || 0x80 ≤ c.toNat

/-- A level for every target, a target for every level, or
`target=level`, where no level means every level. -/
def directive? (s : String) : Option Directive :=
  match s.toList with
  | [] => none
  | c :: _ =>
    if !isTargetStart c then none
    else
      match s.splitOn "=" with
      | [word] => some ((verbosity? word).elim ⟨word, 5⟩ (⟨"", ·⟩))
      | [target, level] =>
        if level.isEmpty then some ⟨target, 5⟩ else (verbosity? level).map (⟨target, ·⟩)
      | _ => none

def parse? (s : String) : Option Filter := do
  let directives ← ((s.splitOn ",").filter (!·.isEmpty)).mapM directive?
  if directives.isEmpty then some (atMost Level.error.verbosity) else some ⟨directives⟩

end Filter

end MailPrefs.Log
