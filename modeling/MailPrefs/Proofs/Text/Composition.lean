import MailPrefs.Proofs.Text.Basic
import MailPrefs.Text.Composition

namespace MailPrefs.Text

theorem all_ofWord {s : List Char} {p : Composite → Bool}
    (h : (((splitWhere isBlank s).filter (!·.isEmpty)).map Composite.ofWord).all p = true) :
    ((words (String.ofList s)).map Composite.ofWord).all p = true := by
  rw [words, String.toList_ofList]
  exact h

theorem composites_second : (composites.all fun x => 0x20 < x.second) = true := by
  unfold composites
  apply all_ofWord
  decide +kernel

variable {c : Char} (hc : c.toNat ≤ 0x20)
include hc

theorem combiningClass_space : combiningClass c = 0 := by
  apply if_pos
  omega

theorem decompose_space : decompose c = [c] := by
  apply if_pos
  omega

theorem insertMark_space (s : List Char) : insertMark c s = c :: s := by
  cases s with
  | nil => rfl
  | cons d s => simp [insertMark, combiningClass_space hc]

theorem join?_space (d : Char) : join? d c = none := by
  have hs : joinSyllable? d.toNat c.toNat = none := by
    rw [joinSyllable?, if_neg, if_neg]
    · simp only [Bool.and_eq_true, decide_eq_true_eq, not_and]
      omega
    · simp only [Bool.and_eq_true, decide_eq_true_eq, not_and]
      omega
  have ht : composites.find? (fun x => x.first = d.toNat && x.second = c.toNat) = none := by
    rw [List.find?_eq_none]
    intro x hx h
    have hlt := of_decide_eq_true (List.all_eq_true.mp composites_second x hx)
    rw [Bool.and_eq_true, decide_eq_true_eq, decide_eq_true_eq] at h
    omega
  rw [join?, hs, ht]
  rfl

theorem text_add_space (s : Composing) : ∃ t, (s.add c).text = t ++ [c] := by
  have hj : (s.base.bind fun base => if s.reachesBase c then join? base c else none) = none := by
    cases s.base with
    | none => rfl
    | some base => simp [join?_space hc]
  rw [Composing.add, hj]
  simp only [combiningClass_space hc, if_true]
  exact ⟨(s.marks ++ s.base.toList ++ s.finished).reverse, by simp [Composing.text]⟩

theorem composed_concat_space (s : List Char) : ∃ t, composed (s ++ [c]) = t ++ [c] := by
  rw [composed, List.flatMap_append, List.flatMap_singleton, decompose_space hc,
    List.foldl_concat, insertMark_space hc, List.reverse_cons, List.foldl_concat]
  exact text_add_space hc _

end MailPrefs.Text
