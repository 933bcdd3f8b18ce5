import ShaderDiagnostics.Uri.File

/-!
# Segments of file URLs

Segments stand for dots also when the dots are percent-encoded, and then they are decoded to dots
(`percentDecode_of_isSingleDot`, `percentDecode_of_isDoubleDot`). Resolving takes them away: other segments
stay as they are (`resolve_of_plain`), and no segment is left that stands for a parent
(`forall_mem_resolve`). At least one segment is left, so URIs name absolute paths (`isAbsolute_of_path?`).
-/

namespace ShaderDiagnostics.Uri

/-! ### Dots -/

theorem eq_of_toLower {c d : Char} (h : c.toLower = d) (hd : d.isLower = false) : c = d := by
  unfold Char.toLower at h
  split at h
  next upper =>
    subst h
    change (decide ('a'.val ≤ (c.val + 32)) && decide (c.val + 32 ≤ 'z'.val)) = false at hd
    simp only [ge_iff_le, UInt32.le_iff_toNat_le] at hd upper
    simp at hd upper
    omega
  next => exact h

theorem toLower_eq_e {c : Char} (h : c.toLower = 'e') : c = 'e' ∨ c = 'E' := by
  unfold Char.toLower at h
  split at h
  next upper =>
    right
    have value : (c.val + 32).toNat = 101 := congrArg (fun d => d.val.toNat) h
    have bound : c.val.toNat < 2 ^ 32 := c.val.toNat_lt
    rw [UInt32.toNat_add] at value
    refine Char.ext (UInt32.toNat_inj.1 ?_)
    show c.val.toNat = 69
    have : (32 : UInt32).toNat = 32 := rfl
    omega
  next => exact Or.inl h

theorem decode_dot {t l : List Char}
    (h : t.map Char.toLower = '.' :: l ∨ t.map Char.toLower = '%' :: '2' :: 'e' :: l) :
    ∃ r, r.map Char.toLower = l ∧ percentDecode t = Path.dot :: percentDecode r := by
  rcases h with h | h
  · obtain ⟨c, r, rfl, hc, hr⟩ := List.map_eq_cons_iff.1 h
    obtain rfl := eq_of_toLower hc rfl
    exact ⟨r, hr, rfl⟩
  · obtain ⟨c, r₁, rfl, hc, h₁⟩ := List.map_eq_cons_iff.1 h
    obtain ⟨d, r₂, rfl, hd, h₂⟩ := List.map_eq_cons_iff.1 h₁
    obtain ⟨e, r, rfl, he, hr⟩ := List.map_eq_cons_iff.1 h₂
    obtain rfl := eq_of_toLower hc rfl
    obtain rfl := eq_of_toLower hd rfl
    refine ⟨r, hr, ?_⟩
    rcases toLower_eq_e he with rfl | rfl
    · rfl
    · rfl

theorem map_of_dotForm {segment : List Char} {form : String} (h : dotForm segment = form)
    (hne : form ≠ "") : segment.map Char.toLower = form.toList := by
  unfold dotForm at h
  split at h
  · rw [← h, String.toList_ofList]
  · exact absurd h.symm hne

theorem percentDecode_of_isSingleDot {segment : List Char} (h : isSingleDot segment = true) :
    percentDecode segment = [Path.dot] := by
  have one : segment.map Char.toLower = '.' :: [] ∨ segment.map Char.toLower = '%' :: '2' :: 'e' :: [] := by
    have form : dotForm segment = "." ∨ dotForm segment = "%2e" := by simpa [isSingleDot] using h
    exact form.imp (map_of_dotForm · (by decide)) (map_of_dotForm · (by decide))
  obtain ⟨r, hr, decoded⟩ := decode_dot one
  rw [decoded, List.map_eq_nil_iff.1 hr]
  rfl

theorem percentDecode_of_isDoubleDot {segment : List Char} (h : isDoubleDot segment = true) :
    percentDecode segment = [Path.dot, Path.dot] := by
  have two : ∃ l, (segment.map Char.toLower = '.' :: l ∨ segment.map Char.toLower = '%' :: '2' :: 'e' :: l) ∧
      (l = '.' :: [] ∨ l = '%' :: '2' :: 'e' :: []) := by
    have form : dotForm segment = ".." ∨ dotForm segment = ".%2e" ∨ dotForm segment = "%2e." ∨
        dotForm segment = "%2e%2e" := by simpa [isDoubleDot] using h
    rcases form with h | h | h | h
    · exact ⟨_, Or.inl (map_of_dotForm h (by decide)), Or.inl rfl⟩
    · exact ⟨_, Or.inl (map_of_dotForm h (by decide)), Or.inr rfl⟩
    · exact ⟨_, Or.inr (map_of_dotForm h (by decide)), Or.inl rfl⟩
    · exact ⟨_, Or.inr (map_of_dotForm h (by decide)), Or.inr rfl⟩
  obtain ⟨l, first, second⟩ := two
  obtain ⟨r, rfl, decoded⟩ := decode_dot first
  obtain ⟨r', hr', decoded'⟩ := decode_dot second
  rw [decoded, decoded', List.map_eq_nil_iff.1 hr']
  rfl

/-! ### Segments -/

/-- Segments that stand for no dots stay as they are. -/
theorem resolve_of_plain {parts : List (List Char)}
    (h : ∀ part ∈ parts, isDoubleDot part = false ∧ isSingleDot part = false)
    (done : List (List Char)) : resolve done parts = done.reverse ++ parts := by
  induction parts generalizing done with
  | nil => simp [resolve]
  | cons part rest ih =>
    obtain ⟨two, one⟩ := h part List.mem_cons_self
    rw [resolve, two, one, if_neg (by decide), if_neg (by decide),
      ih (fun p hp => h p (List.mem_cons_of_mem _ hp)), List.reverse_cons, List.append_assoc]
    rfl

theorem mem_of_mem_popSegment {done : List (List Char)} {part : List Char}
    (h : part ∈ popSegment done) : part ∈ done := by
  cases done with
  | nil => exact h
  | cons last rest =>
    simp only [popSegment] at h
    split at h
    · exact h
    · exact List.mem_cons_of_mem last h

/-- Resolved segments are given ones that do not stand for a parent, or empty. -/
theorem forall_mem_resolve {P : List Char → Prop} (empty : P []) {done parts : List (List Char)}
    (hd : ∀ part ∈ done, P part) (hp : ∀ part ∈ parts, isDoubleDot part = false → P part) :
    ∀ part ∈ resolve done parts, P part := by
  induction parts generalizing done with
  | nil =>
    intro part h
    exact hd part (by simpa [resolve] using h)
  | cons first rest ih =>
    have hr : ∀ part ∈ rest, isDoubleDot part = false → P part := fun p h => hp p (List.mem_cons_of_mem _ h)
    -- a dot segment at the end leaves an empty one
    have closed : ∀ done : List (List Char), (∀ part ∈ done, P part) →
        ∀ part ∈ ([] :: done).reverse, P part := by
      intro done hd part h
      rcases List.mem_cons.1 (List.mem_reverse.1 h) with rfl | h
      · exact empty
      · exact hd part h
    have popped : ∀ part ∈ popSegment done, P part := fun p h => hd p (mem_of_mem_popSegment h)
    unfold resolve
    split
    next two =>
      dsimp only
      split
      · exact closed _ popped
      · exact ih popped hr
    next two =>
      split
      · split
        · exact closed _ hd
        · exact ih hd hr
      · refine ih (fun part h => ?_) hr
        rcases List.mem_cons.1 h with rfl | h
        · exact hp part List.mem_cons_self (Bool.eq_false_iff.2 two)
        · exact hd part h

theorem segments_slash (rest : List Char) :
    segments ('/' :: rest) =
      match (resolve [] (splitAt '/' rest)).dropWhile (·.isEmpty) with
      | [] => [[]]
      | parts => parts := rfl

theorem segments_ne_nil (path : List Char) : segments path ≠ [] := by
  unfold segments
  dsimp only
  split
  · exact List.cons_ne_nil _ _
  next hne => exact hne

theorem isAbsolute_pathOfSegments {parts : List (List Char)} (h : parts ≠ []) :
    (pathOfSegments parts).isAbsolute = true := by
  cases parts with
  | nil => exact absurd rfl h
  | cons part rest =>
    unfold pathOfSegments closeDrive Path.isAbsolute
    rw [List.flatMap_cons]
    split
    · split <;> rfl
    · rfl

/-- URIs name absolute paths. -/
theorem isAbsolute_of_path? {u : Uri} {p : Path} (h : u.path? = some p) : p.isAbsolute = true := by
  have named : ∃ path, p = pathOfSegments (segments path) := by
    unfold path? at h
    dsimp only at h
    split at h
    · split at h
      · unfold pathAfterScheme at h
        dsimp only at h
        split at h
        · split at h
          · exact ⟨_, (Option.some.inj h).symm⟩
          · split at h
            · exact ⟨_, (Option.some.inj h).symm⟩
            · cases h
        · exact ⟨_, (Option.some.inj h).symm⟩
      · cases h
    · cases h
  obtain ⟨path, rfl⟩ := named
  exact isAbsolute_pathOfSegments (segments_ne_nil path)

end ShaderDiagnostics.Uri
