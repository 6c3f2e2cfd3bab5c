import MailPrefs.Text.Blank
import MailPrefs.Text.Digits
import MailPrefs.Text.Split

namespace MailPrefs.Text

def words (s : String) : List (List Char) :=
  (splitWhere isBlank s.toList).filter (!·.isEmpty)

def codePoint (digits : List Char) : Nat :=
  (number? 16 digits).getD 0

/-- The first and the last code point of a range, which is
one code point or two with a dash between. -/
def codePointRange (word : List Char) : Nat × Nat :=
  let (first, last) := (splitFirst? (· = '-') word).getD (word, word)
  (codePoint first, codePoint last)

structure CodePoints where
  ranges : List (Nat × Nat)
deriving DecidableEq, Repr

namespace CodePoints

def ofText (s : String) : CodePoints :=
  ⟨(words s).map codePointRange⟩

def contains (s : CodePoints) (c : Char) : Bool :=
  s.ranges.any fun (first, last) => first ≤ c.toNat && c.toNat ≤ last

end CodePoints

end MailPrefs.Text
