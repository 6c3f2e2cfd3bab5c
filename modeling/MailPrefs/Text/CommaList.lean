import MailPrefs.Text.Blank
import MailPrefs.Text.Split

namespace MailPrefs.Text

def commaItems (s : String) : List String :=
  ((splitWhere (· = ',') s.toList).map (trimBoth isBlank)).filter (!·.isEmpty) |>.map String.ofList

end MailPrefs.Text
