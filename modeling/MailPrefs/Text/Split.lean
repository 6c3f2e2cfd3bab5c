namespace MailPrefs.Text

variable {α : Type}

/-- The stretches between the elements that satisfy `p`; one more than there are of these. -/
def splitWhere (p : α → Bool) : List α → List (List α)
  | [] => [[]]
  | x :: xs =>
    if p x then [] :: splitWhere p xs
    else
      match splitWhere p xs with
      | [] => [[x]]
      | part :: parts => (x :: part) :: parts

def splitFirst? (p : α → Bool) : List α → Option (List α × List α)
  | [] => none
  | x :: xs =>
    if p x then some ([], xs) else (splitFirst? p xs).map fun (left, right) => (x :: left, right)

def splitLast? (p : α → Bool) (xs : List α) : Option (List α × List α) :=
  (splitFirst? p xs.reverse).map fun (right, left) => (left.reverse, right.reverse)

end MailPrefs.Text
