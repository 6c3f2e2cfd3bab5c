import MailPrefs.Json.Typed
import MailPrefs.Proofs.Json.Tokens
import MailPrefs.Proofs.Preferences

namespace MailPrefs.Json

def printMember (m : String × Json) : List Char :=
  printString m.1 ++ ':' :: m.2.print

theorem printMembers_singleton (m : String × Json) : printMembers [m] = printMember m := by
  rw [printMembers, printMember]

theorem printMembers_cons (m m' : String × Json) (ms : Members) :
    printMembers (m :: m' :: ms) = printMember m ++ ',' :: printMembers (m' :: ms) := by
  rw [printMembers, printMember]
  nofun

theorem utf8_printMember (m : String × Json) : ∃ bs, utf8 (printMember m) = 0x22 :: bs := by
  rw [printMember, utf8_append, Bytes.utf8_printString]
  exact ⟨_, rfl⟩

theorem utf8_printMembers (m : String × Json) (ms : Members) :
    ∃ bs, utf8 (printMembers (m :: ms)) = 0x22 :: bs := by
  obtain ⟨bs, hm⟩ := utf8_printMember m
  cases ms with
  | nil => exact ⟨bs, by rw [printMembers_singleton, hm]⟩
  | cons m' ms => exact ⟨_, by rw [printMembers_cons, utf8_append, hm, List.cons_append]⟩

theorem length_le_utf8_printMembers (ms : Members) :
    ms.length ≤ (utf8 (printMembers ms)).length := by
  induction ms with
  | nil => exact Nat.zero_le _
  | cons m ms ih =>
    obtain ⟨bs, hm⟩ := utf8_printMember m
    cases ms with
    | nil =>
      rw [printMembers_singleton, hm]
      exact Nat.succ_le_succ (Nat.zero_le _)
    | cons m' ms =>
      rw [printMembers_cons, utf8_append, hm, utf8_cons]
      simp only [List.length_append, List.length_cons] at ih ⊢
      omega

namespace Bytes

section Members

variable {σ : Type} {item : σ → Bytes → Except Fault (σ × Bytes)} {step : σ → String × Json → σ}
variable {ms ms' : Members} {s s' s'' : σ}

/-- A reader of members takes up printed ones, each of them in front of any bytes. -/
inductive Takes (item : σ → Bytes → Except Fault (σ × Bytes)) : σ → Members → σ → Prop where
  | nil (s : σ) : Takes item s [] s
  | cons {s s' s'' : σ} {m : String × Json} {ms : Members} :
      (∀ rest, item s (utf8 (printMember m) ++ rest) = .ok (s', rest)) → Takes item s' ms s'' →
        Takes item s (m :: ms) s''

theorem Takes.append (h : Takes item s ms s') (h' : Takes item s' ms' s'') :
    Takes item s (ms ++ ms') s'' := by
  induction h with
  | nil => exact h'
  | cons hm _ ih => exact .cons hm (ih h')

theorem takes_foldl
    (h : ∀ m ∈ ms, ∀ s rest, item s (utf8 (printMember m) ++ rest) = .ok (step s m, rest))
    (s : σ) : Takes item s ms (ms.foldl step s) := by
  induction ms generalizing s with
  | nil => exact .nil s
  | cons m ms ih =>
    apply Takes.cons (h m List.mem_cons_self s)
    exact ih (fun m hm => h m (List.mem_cons_of_mem _ hm)) (step s m)

theorem Takes.foldItems (h : Takes item s ms s') (hn : ms ≠ []) {fuel : Nat}
    (hf : ms.length ≤ fuel) (rest : Bytes) :
    foldItems 0x7D item fuel s (utf8 (printMembers ms) ++ 0x7D :: rest) = .ok (s', rest) := by
  induction h generalizing fuel with
  | nil => exact absurd rfl hn
  | cons hm h ih =>
    cases fuel with
    | zero => cases hf
    | succ fuel =>
      cases h with
      | nil =>
        rw [printMembers_singleton, Bytes.foldItems, hm]
        rfl
      | @cons _ _ _ m' ms _ _ =>
        have hms := ih (List.cons_ne_nil _ _) (Nat.le_of_succ_le_succ hf)
        obtain ⟨bs, hb⟩ := utf8_printMembers m' ms
        rw [hb] at hms
        rw [printMembers_cons, utf8_append, utf8_cons, hb, List.append_assoc, Bytes.foldItems, hm]
        exact hms

theorem Takes.foldSequence (h : Takes item s ms s') (rest : Bytes) :
    foldSequence 0x7D item s (utf8 (printMembers ms) ++ 0x7D :: rest) = .ok (s', rest) := by
  cases ms with
  | nil =>
    cases h
    rw [printMembers]
    rfl
  | cons m ms =>
    have hl := length_le_utf8_printMembers (m :: ms)
    obtain ⟨bs, hb⟩ := utf8_printMembers m ms
    have hf : (m :: ms).length ≤ (bs ++ 0x7D :: rest).length + 1 := by
      rw [hb] at hl
      simp only [List.length_append, List.length_cons] at hl ⊢
      omega
    have hms := h.foldItems (List.cons_ne_nil _ _) hf rest
    rw [hb] at hms ⊢
    exact hms

end Members

theorem key_printString (k : String) (rest : Bytes) :
    key (utf8 (printString k) ++ rest) = .ok (k, rest) := by
  rw [utf8_printString, List.cons_append, List.append_assoc, List.singleton_append, key,
    skipBlanks_cons rfl]
  exact string_escapes k rest

theorem utf8_printMember_append (m : String × Json) (rest : Bytes) :
    utf8 (printMember m) ++ rest =
      utf8 (printString m.1) ++ 0x3A :: (utf8 m.2.print ++ rest) := by
  rw [printMember, utf8_append, utf8_cons, List.append_assoc]
  rfl

theorem member_printMember {α : Type} {value : Bytes → Except Fault (α × Bytes)} {y : α}
    {m : String × Json} (h : ∀ rest, value (utf8 m.2.print ++ rest) = .ok (y, rest))
    (rest : Bytes) :
    member value (utf8 (printMember m) ++ rest) = .ok ((m.1, y), rest) := by
  have hcolon : colon (0x3A :: (utf8 m.2.print ++ rest)) = .ok ((), utf8 m.2.print ++ rest) := rfl
  rw [utf8_printMember_append, member, key_printString]
  simp only [bind, Except.bind, hcolon, h]

theorem text_printString (s : String) (rest : Bytes) :
    text (utf8 (printString s) ++ rest) = .ok (s, rest) := by
  rw [utf8_printString, List.cons_append, List.append_assoc, List.singleton_append, text,
    skipBlanks_cons rfl]
  exact string_escapes s rest

theorem optional_printString (s : String) (rest : Bytes) :
    optional text (utf8 (printString s) ++ rest) = .ok (some s, rest) := by
  have hs := text_printString s rest
  rw [utf8_printString, List.cons_append] at hs ⊢
  rw [optional, skipBlanks_cons rfl]
  simp only [hs]
  rfl

end Bytes

/-- The value comes back from its text, in front of any bytes and up to this deep. -/
def ReadsBack (depth : Nat) (x : Json) : Prop :=
  ∀ rest, Bytes.value depth (utf8 x.print ++ rest) = .ok (x, rest)

variable {depth : Nat}

theorem readsBack_bool (b : Bool) : ReadsBack (depth + 1) (.bool b) := by
  intro rest
  cases b <;> rw [print] <;> rfl

theorem readsBack_string (s : String) : ReadsBack (depth + 1) (.string s) := by
  intro rest
  have hs : Bytes.string (utf8 (s.toList.flatMap escape) ++ 0x22 :: rest) = .ok (s, rest) :=
    Bytes.string_escapes s rest
  rw [print, Bytes.utf8_printString, List.cons_append, List.append_assoc, List.singleton_append,
    Bytes.value, Bytes.skipBlanks_cons rfl]
  simp [hs]

/-- An object comes back if its keys are distinct and its values come back. -/
theorem readsBack_object {ms : Members} (hd : ms.keys.Nodup)
    (h : ∀ m ∈ ms, ReadsBack (depth + 1) m.2) : ReadsBack (depth + 2) (.object ms) := by
  intro rest
  have hi : ∀ m ∈ ms, ∀ found rest,
      Bytes.value.insertMember (Bytes.value (depth + 1)) found (utf8 (printMember m) ++ rest) =
        .ok (Members.insert m.1 m.2 found, rest) := by
    intro m hm found rest
    rw [Bytes.value.insertMember, Bytes.member_printMember (h m hm)]
  have hf : Bytes.foldSequence 0x7D (Bytes.value.insertMember (Bytes.value (depth + 1))) []
      (utf8 (printMembers ms) ++ 0x7D :: rest) = .ok (ms, rest) := by
    rw [(Bytes.takes_foldl hi []).foldSequence, Members.foldl_insert [] hd, List.nil_append]
  have hc : utf8 (print (.object ms)) ++ rest =
      0x7B :: (utf8 (printMembers ms) ++ 0x7D :: rest) := by
    rw [print, utf8_append, utf8_cons, List.append_assoc]
    rfl
  rw [hc, Bytes.value, Bytes.skipBlanks_cons rfl]
  simp [hf]

theorem parseString_compact {x : Json} (h : ReadsBack Bytes.maxDepth x) :
    parseString x.compact = .ok x := by
  have hv := h []
  rw [List.append_nil] at hv
  rw [parseString, compact, toUTF8_ofList, parse, hv]
  rfl

end MailPrefs.Json
