import MailPrefs.Session.Basic

namespace MailPrefs.Terminal

def checkboxLine (entry : String × Bool) : String :=
  (if entry.2 then "[x] " else "[ ] ") ++ entry.1

/-- The lines of a frame; an empty status message has none. -/
def lines : Frame → List String
  | .checkboxes entries => entries.map checkboxLine
  | .status message =>
    if message.isEmpty then [] else [message.messageClass.name ++ ": " ++ message.text]

def print (f : Frame) : String :=
  String.join ((lines f).map (· ++ "\n"))

end MailPrefs.Terminal
