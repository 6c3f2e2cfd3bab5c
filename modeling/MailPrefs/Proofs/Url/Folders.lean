import MailPrefs.Proofs.Text.Basic
import MailPrefs.Url.Basic
import MailPrefs.Url.Path

namespace MailPrefs.Url

/-- The segments that a path has come to, which the next slash closes. -/
def folders : List Char → List String
  | [] => []
  | _ :: path => ((Text.splitWhere isSlash path).map Move.ofSegment).foldl follow []

theorem foldl_follow_down (segments names : List String) :
    (names.map Move.down).foldl follow segments = segments ++ names := by
  induction names generalizing segments with
  | nil => exact (List.append_nil segments).symm
  | cons name names ih =>
    rw [List.map_cons, List.foldl_cons, ih, follow, List.append_assoc, List.singleton_append]

theorem resolve_append_down (moves : List Move) (name : String) (names : List String) :
    resolve (moves ++ (name :: names).map .down) = moves.foldl follow [] ++ name :: names := by
  have hl : ∃ last, (moves ++ (name :: names).map Move.down).getLast? = some (.down last) := by
    rw [List.getLast?_append, List.getLast?_map, List.getLast?_cons]
    exact ⟨_, rfl⟩
  obtain ⟨last, hl⟩ := hl
  rw [resolve, hl, List.foldl_append, foldl_follow_down]

theorem resolve_eq (moves : List Move) :
    ∃ k, resolve moves = moves.foldl follow [] ++ List.replicate k "" := by
  rw [resolve]
  split
  · exact ⟨0, (List.append_nil _).symm⟩
  · exact ⟨1, rfl⟩

/-- What goes down only stands behind the folders of what it follows. -/
theorem pathSegments_append {path : List Char} {name : String} {names : List String}
    (h : (Text.splitWhere isSlash path).map Move.ofSegment = (name :: names).map .down)
    (before : List Char) :
    pathSegments (before ++ '/' :: path) = folders before ++ name :: names := by
  rw [pathSegments]
  cases before with
  | nil => exact (congrArg resolve h).trans (resolve_append_down [] name names)
  | cons a before =>
    rw [List.cons_append, List.tail_cons, Text.splitWhere_append_cons rfl, List.map_append, h,
      resolve_append_down]
    rfl

theorem map_ofSegment_slashes (k : Nat) :
    (Text.splitWhere isSlash (List.replicate k '/')).map Move.ofSegment =
      ("" :: List.replicate k "").map .down := by
  induction k with
  | zero => decide +kernel
  | succ k ih =>
    rw [List.replicate_succ, Text.splitWhere_cons_of_pos rfl, List.map_cons, ih,
      List.replicate_succ, List.map_cons]
    congr 1

theorem pathSegments_append_slashes (path : List Char) (k : Nat) :
    ∃ n, pathSegments (path ++ List.replicate k '/') = folders path ++ List.replicate n "" := by
  cases k with
  | zero =>
    rw [List.replicate_zero, List.append_nil]
    cases path with
    | nil => exact ⟨1, congrArg resolve (map_ofSegment_slashes 0)⟩
    | cons a path => exact resolve_eq _
  | succ k =>
    exact ⟨k + 1, pathSegments_append (map_ofSegment_slashes k) path⟩

def pathText (segments : List String) : List Char :=
  segments.flatMap fun segment => '/' :: segment.toList

theorem toList_path (u : Url) : u.path.toList = pathText u.segments := by
  rw [path, String.toList_join, List.flatMap_map, pathText]
  congr 1
  funext segment
  rw [String.toList_append]
  rfl

theorem pathText_append (segments segments' : List String) :
    pathText (segments ++ segments') = pathText segments ++ pathText segments' :=
  List.flatMap_append

theorem pathText_singleton (segment : String) : pathText [segment] = '/' :: segment.toList :=
  List.append_nil _

theorem pathText_replicate (k : Nat) : pathText (List.replicate k "") = List.replicate k '/' := by
  induction k with
  | zero => rfl
  | succ k ih =>
    rw [List.replicate_succ, List.replicate_succ, pathText, List.flatMap_cons, ← pathText, ih]
    rfl

theorem trimEnd_pathText_slashes (path : List Char) (k : Nat) :
    Text.trimEnd (· = '/') (pathText (pathSegments (path ++ List.replicate k '/'))) =
      Text.trimEnd (· = '/') (pathText (folders path)) := by
  obtain ⟨n, hn⟩ := pathSegments_append_slashes path k
  rw [hn, pathText_append, pathText_replicate, Text.trimEnd_append_replicate rfl]

theorem upperDigit_ne_slash (n : Nat) (h : n < 16) : Percent.upperDigit n ≠ '/' := by
  decide +revert

theorem slash_notMem_encodeByte (b : UInt8) : '/' ∉ Percent.encodeByte b := by
  have hb : b.toNat < 256 := b.toNat_lt
  have hh : Percent.upperDigit (b.toNat / 16) ≠ '/' := upperDigit_ne_slash _ (by omega)
  have hl : Percent.upperDigit (b.toNat % 16) ≠ '/' := upperDigit_ne_slash _ (by omega)
  simp [Percent.encodeByte, hh.symm, hl.symm]

theorem slash_notMem_encode {special s : List Char} (h : '/' ∉ s) :
    '/' ∉ Percent.encode special s := by
  intro hm
  obtain ⟨c, hc, hm⟩ := List.mem_flatMap.mp hm
  rw [Percent.encodeChar] at hm
  split at hm
  · rw [List.mem_singleton.mp hm] at h
    exact h hc
  · obtain ⟨b, -, hm⟩ := List.mem_flatMap.mp hm
    exact slash_notMem_encodeByte b hm

theorem mem_foldl_follow {name : String} {moves : List Move} {segments : List String}
    (h : name ∈ moves.foldl follow segments) : name ∈ segments ∨ .down name ∈ moves := by
  induction moves generalizing segments with
  | nil => exact .inl h
  | cons m moves ih =>
    rcases ih h with h | h
    · cases m with
      | stay => exact .inl h
      | up => exact .inl (List.dropLast_subset _ h)
      | down segment =>
        rcases List.mem_append.mp h with h | h
        · exact .inl h
        · rw [List.mem_singleton.mp h]
          exact .inr List.mem_cons_self
    · exact .inr (List.mem_cons_of_mem m h)

theorem ofSegment_cases (s : List Char) :
    Move.ofSegment s = .stay ∨ Move.ofSegment s = .up ∨
      Move.ofSegment s = .down (String.ofList (Percent.encode Percent.inPath s)) := by
  rw [Move.ofSegment]
  split
  · exact .inl rfl
  · split
    · exact .inr (.inl rfl)
    · exact .inr (.inr rfl)

theorem slash_notMem_folders {path : List Char} {name : String} (h : name ∈ folders path) :
    '/' ∉ name.toList := by
  cases path with
  | nil => exact absurd h List.not_mem_nil
  | cons a path =>
    have hd := (mem_foldl_follow h).resolve_left List.not_mem_nil
    obtain ⟨part, hp, hm⟩ := List.mem_map.mp hd
    rcases ofSegment_cases part with ho | ho | ho
    · rw [ho] at hm
      cases hm
    · rw [ho] at hm
      cases hm
    · rw [ho] at hm
      cases hm
      rw [String.toList_ofList]
      apply slash_notMem_encode
      intro hs
      exact absurd (Text.not_sep_of_mem_splitWhere hp _ hs) (by decide)

/-- A path loses no slash at its end if it has come to a folder with a name. -/
theorem trimEnd_folders_iff (path : List Char) :
    Text.trimEnd (· = '/') (pathText (folders path)) = pathText (folders path) ↔
      (folders path).getLast? ≠ some "" := by
  have hs : ∀ name ∈ folders path, '/' ∉ name.toList := fun _ h => slash_notMem_folders h
  rcases List.eq_nil_or_concat (folders path) with hf | ⟨names, name, hf⟩
  · rw [hf]
    exact iff_of_true rfl (by decide)
  · rw [List.concat_eq_append] at hf
    rw [hf] at hs ⊢
    rw [pathText_append, pathText_singleton, List.getLast?_concat]
    refine List.rdropWhile_eq_self_iff.trans ?_
    by_cases hn : name = ""
    · rw [hn]
      exact iff_of_false (fun h => h (by simp) (by simp)) (fun h => h rfl)
    · have hc : name.toList ≠ [] := fun h => hn (String.toList_eq_nil_iff.mp h)
      refine iff_of_true (fun hl => ?_) (fun h => hn (Option.some.inj h))
      rw [List.getLast_append_of_ne_nil hl (List.cons_ne_nil _ _), List.getLast_cons hc]
      intro he
      have hm := List.getLast_mem hc
      rw [of_decide_eq_true he] at hm
      exact hs name (List.mem_append_right _ List.mem_cons_self) hm

theorem ofSegment_of_blank {s : List Char} {c : Char} (hc : c ∈ s) (hb : c.toNat ≤ 0x20) :
    Move.ofSegment s = .down (String.ofList (Percent.encode Percent.inPath s)) := by
  have hl : c.toLower = c := Text.of_le_space (P := fun c => c.toLower = c) (by decide) hb
  have hm : c ∈ s.map Char.toLower := List.mem_map.mpr ⟨c, hc, hl⟩
  have hn : ∀ dots : String, (dots.toList.all fun d => 0x20 < d.toNat) = true →
      String.ofList (s.map Char.toLower) ≠ dots := by
    rintro dots hd rfl
    rw [String.toList_ofList] at hd
    exact absurd (Text.forall_of_all hd c hm) (Nat.not_lt_of_le hb)
  rw [Move.ofSegment, if_neg, if_neg]
  · simp only [List.contains_eq_mem, decide_eq_true_eq, List.mem_cons, List.not_mem_nil, or_false,
      not_or]
    exact ⟨hn _ (by decide), hn _ (by decide), hn _ (by decide), hn _ (by decide)⟩
  · simp only [List.contains_eq_mem, decide_eq_true_eq, List.mem_cons, List.not_mem_nil, or_false,
      not_or]
    exact ⟨hn _ (by decide), hn _ (by decide)⟩

theorem encodeChar_ne_nil (special : List Char) (c : Char) :
    Percent.encodeChar special c ≠ [] := by
  rw [Percent.encodeChar]
  split
  · apply List.cons_ne_nil
  · intro h
    rw [List.flatMap_eq_nil_iff] at h
    obtain ⟨b, hb⟩ := List.exists_mem_of_ne_nil _ (Text.utf8EncodeChar_ne_nil c)
    exact List.cons_ne_nil _ _ (h b hb)

theorem length_encode_append_lt (special s : List Char) {s' : List Char} (h : s' ≠ []) :
    (Percent.encode special s).length < (Percent.encode special (s ++ s')).length := by
  obtain ⟨c, cs, rfl⟩ := List.exists_cons_of_ne_nil h
  have hc := List.length_pos_iff.mpr (encodeChar_ne_nil special c)
  rw [Percent.encode, Percent.encode, List.flatMap_append, List.flatMap_cons, List.length_append,
    List.length_append]
  omega

theorem resolve_concat_of_not_down (moves : List Move) {m : Move} (h : ∀ name, m ≠ .down name) :
    resolve (moves ++ [m]) = follow (moves.foldl follow []) m ++ [""] := by
  rw [resolve, List.getLast?_concat, List.foldl_concat]
  cases m with
  | stay => rfl
  | up => rfl
  | down name => exact absurd rfl (h name)

theorem length_pathText_dropLast_le (segments : List String) :
    (pathText segments.dropLast).length ≤ (pathText segments).length := by
  rcases List.eq_nil_or_concat segments with rfl | ⟨others, last, rfl⟩
  · exact Nat.le_refl _
  · rw [List.concat_eq_append, List.dropLast_concat, pathText_append, List.length_append]
    apply Nat.le_add_right

theorem length_pathText_concat (segments : List String) (name : String) :
    (pathText (segments ++ [name])).length =
      (pathText segments).length + name.toList.length + 1 := by
  rw [pathText_append, pathText_singleton, List.length_append, List.length_cons]
  omega

theorem length_resolve_le (moves : List Move) (s : List Char) :
    (pathText (resolve (moves ++ [.ofSegment s]))).length ≤
      (pathText (moves.foldl follow [])).length + (Percent.encode Percent.inPath s).length + 1 := by
  rcases ofSegment_cases s with h | h | h
  · rw [h, resolve_concat_of_not_down moves (by simp), length_pathText_concat]
    simp only [follow, String.toList_empty, List.length_nil]
    omega
  · have hd := length_pathText_dropLast_le (moves.foldl follow [])
    rw [h, resolve_concat_of_not_down moves (by simp), length_pathText_concat]
    simp only [follow, String.toList_empty, List.length_nil]
    omega
  · have hr := resolve_append_down moves (String.ofList (Percent.encode Percent.inPath s)) []
    rw [List.map_singleton] at hr
    rw [h, hr, length_pathText_concat, String.toList_ofList]

theorem length_pathSegments_lt {path blanks : List Char} (hp : path ≠ [])
    (hb : ∀ c ∈ blanks, c.toNat ≤ 0x20) (hn : blanks ≠ []) :
    (pathText (pathSegments path)).length < (pathText (folders (path ++ blanks))).length := by
  obtain ⟨a, path, rfl⟩ := List.exists_cons_of_ne_nil hp
  have hs : ∀ c ∈ blanks, isSlash c = false := fun c hc =>
    Text.of_le_space (P := fun c => isSlash c = false) (by decide) (hb c hc)
  obtain ⟨parts, last, hx, hxy⟩ := Text.splitWhere_append hs path
  obtain ⟨c, hc⟩ := List.exists_mem_of_ne_nil _ hn
  have hm : Move.ofSegment (last ++ blanks) =
      .down (String.ofList (Percent.encode Percent.inPath (last ++ blanks))) :=
    ofSegment_of_blank (List.mem_append_right _ hc) (hb c hc)
  have hle := length_resolve_le (parts.map Move.ofSegment) last
  have hlt := length_encode_append_lt Percent.inPath last hn
  rw [pathSegments, List.tail_cons, hx, List.map_append, List.map_singleton, List.cons_append,
    folders, hxy, List.map_append, List.map_singleton, hm, List.foldl_concat, follow,
    length_pathText_concat, String.toList_ofList]
  omega

end MailPrefs.Url
