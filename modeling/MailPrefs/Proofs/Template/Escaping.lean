import MailPrefs.Proofs.Template.Pieces

namespace MailPrefs.Template

def doubled (c : Char) : List Char :=
  if c = '%' then ['%', '%'] else [c]

def escape (s : String) : String :=
  String.ofList (s.toList.flatMap doubled)

def literal (c : Char) : Piece :=
  if c = '%' then .percent else .char c

theorem flatMap_doubled {cs : List Char} (h : '%' ∉ cs) : cs.flatMap doubled = cs := by
  induction cs with
  | nil => rfl
  | cons c cs ih =>
    have hc : c ≠ '%' := fun he => h (he ▸ List.mem_cons_self)
    rw [List.flatMap_cons, doubled, if_neg hc, List.singleton_append,
      ih fun hm => h (List.mem_cons_of_mem _ hm)]

theorem pieces_doubled_append (c : Char) (ts : List Char) :
    pieces (doubled c ++ ts) = literal c :: pieces ts := by
  rw [doubled, literal]
  split
  · exact pieces_directive rfl
  · next hc => exact pieces.eq_3 _ _ hc

/-- No doubled percent sign goes together with what follows: the pieces of the text behind are those
that it has alone. -/
theorem pieces_escaped_append (cs ts : List Char) :
    pieces (cs.flatMap doubled ++ ts) = cs.map literal ++ pieces ts := by
  induction cs with
  | nil => rfl
  | cons c cs ih =>
    rw [List.flatMap_cons, List.append_assoc, pieces_doubled_append, ih, List.map_cons,
      List.cons_append]

theorem fill_literal (args : List String) (seen : Nat) (c : Char) (ps : List Piece) :
    fill args seen (literal c :: ps) = c :: fill args seen ps := by
  rw [literal]
  split
  · next hc =>
    subst hc
    rfl
  · rfl

theorem fill_literals (args : List String) (seen : Nat) (cs : List Char) (ps : List Piece) :
    fill args seen (cs.map literal ++ ps) = cs ++ fill args seen ps := by
  induction cs with
  | nil => rfl
  | cons c cs ih => rw [List.map_cons, List.cons_append, fill_literal, ih, List.cons_append]

/-- Escaped text comes out as it was, takes no argument, and leaves the template behind it alone. -/
theorem format_escape_append (s t : String) (args : List String) :
    format (escape s ++ t) args = s ++ format t args := by
  have hpieces : pieces (escape s ++ t).toList = s.toList.map literal ++ pieces t.toList := by
    rw [String.toList_append, escape, String.toList_ofList]
    exact pieces_escaped_append s.toList t.toList
  apply String.toList_inj.mp
  calc (format (escape s ++ t) args).toList
      = fill args 0 (s.toList.map literal ++ pieces t.toList) := by
        rw [format, String.toList_ofList, hpieces]
    _ = s.toList ++ fill args 0 (pieces t.toList) := fill_literals args 0 _ _
    _ = (s ++ format t args).toList := by
        rw [String.toList_append, format, String.toList_ofList]

example : format (escape "100%1" ++ "$s %s") ["a"] = "100%1$s a" := by decide +kernel

end MailPrefs.Template
