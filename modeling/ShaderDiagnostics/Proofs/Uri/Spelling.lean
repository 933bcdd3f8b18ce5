import ShaderDiagnostics.Proofs.Path.Components
import ShaderDiagnostics.Uri.File

/-!
# How paths are spelled as URIs

A URI tells all components of the path that it was made of: the bytes of a component are encoded without
loss (`percentDecode_encode`), none of them by a slash, and a slash stands before each component. So
documents with the same URI have the same path, in some spelling (`same_of_ofPath?`).
-/

namespace ShaderDiagnostics.Uri

/-! ### Bytes -/

theorem of_fin {P : UInt8 → Prop} (h : ∀ n : Fin 256, P (UInt8.ofNat n)) (b : UInt8) : P b := by
  have hb := h ⟨b.toNat, b.toNat_lt⟩
  rwa [UInt8.ofNat_toNat] at hb

/-- A byte that stands for itself is neither a percent sign nor a slash. -/
theorem bare_form : ∀ b : UInt8, isBare b = true →
    Char.ofNat b.toNat ≠ '%' ∧ Char.ofNat b.toNat ≠ '/' ∧
      Text.encodeChar (Char.ofNat b.toNat) = [b] := by
  refine of_fin ?_
  decide +kernel

/-- The two hexadecimal digits of a byte. -/
theorem digit_form : ∀ b : UInt8,
    upperHex (b.toNat / 16) ≠ '/' ∧ upperHex (b.toNat % 16) ≠ '/' ∧
      (isHexDigit (upperHex (b.toNat / 16)) && isHexDigit (upperHex (b.toNat % 16))) = true ∧
      (16 * hexValue (upperHex (b.toNat / 16)) + hexValue (upperHex (b.toNat % 16))).toUInt8 = b := by
  refine of_fin ?_
  decide +kernel

theorem slash_notMem_encodeByte (b : UInt8) : '/' ∉ encodeByte b := by
  unfold encodeByte
  split
  next h =>
    have := (bare_form b h).2.1
    simpa using this.symm
  next h =>
    obtain ⟨ha, hb, -⟩ := digit_form b
    simpa using ⟨ha.symm, hb.symm⟩

theorem percentDecode_encodeByte (b : UInt8) (rest : List Char) :
    percentDecode (encodeByte b ++ rest) = b :: percentDecode rest := by
  unfold encodeByte
  split
  next h =>
    obtain ⟨hp, -, he⟩ := bare_form b h
    rw [List.cons_append, List.nil_append, percentDecode, he]
    · rfl
    · intro a b rest hc
      exact absurd hc hp
  next h =>
    obtain ⟨-, -, hd, hv⟩ := digit_form b
    simp only [List.cons_append, List.nil_append, percentDecode]
    rw [if_pos hd, hv]

/-- What is encoded can be decoded again. -/
theorem percentDecode_encode (bytes : List UInt8) : percentDecode (bytes.flatMap encodeByte) = bytes := by
  induction bytes with
  | nil => rfl
  | cons b rest ih => rw [List.flatMap_cons, percentDecode_encodeByte, ih]

theorem encode_injective {a b : List UInt8} (h : a.flatMap encodeByte = b.flatMap encodeByte) :
    a = b := by
  rw [← percentDecode_encode a, h, percentDecode_encode]

/-! ### Parts between slashes -/

theorem splitAt_of_notMem {part : List Char} (h : '/' ∉ part) (rest : List Char) :
    splitAt '/' (part ++ '/' :: rest) = part :: splitAt '/' rest := by
  induction part with
  | nil => simp [splitAt]
  | cons c part ih =>
    obtain ⟨hc, hp⟩ := List.ne_and_not_mem_of_not_mem_cons h
    simp only [List.cons_append, splitAt, ih hp, beq_iff_eq, if_neg (Ne.symm hc)]

theorem splitAt_last {part : List Char} (h : '/' ∉ part) : splitAt '/' part = [part] := by
  induction part with
  | nil => rfl
  | cons c part ih =>
    obtain ⟨hc, hp⟩ := List.ne_and_not_mem_of_not_mem_cons h
    simp only [splitAt, ih hp, beq_iff_eq, if_neg (Ne.symm hc)]

/-- A text with a slash before each part is split into the parts. -/
theorem splitAt_parts {parts : List (List Char)} (h : ∀ part ∈ parts, '/' ∉ part) (first : List Char)
    (hf : '/' ∉ first) :
    splitAt '/' (first ++ parts.flatMap fun part => '/' :: part) = first :: parts := by
  induction parts generalizing first with
  | nil => simpa using splitAt_last hf
  | cons part rest ih =>
    rw [List.flatMap_cons, List.cons_append, splitAt_of_notMem hf,
      ih (fun p hp => h p (List.mem_cons_of_mem _ hp)) part (h part List.mem_cons_self)]

/-! ### Components -/

/-- What a component between slashes is: a parent, or a name that is neither empty nor one of the dots. -/
def Inner (c : Path.Component) : Prop :=
  ∃ part, Path.component? false part = some c

theorem componentBytes_of_component? {part : List UInt8} {c : Path.Component}
    (h : Path.component? false part = some c) : componentBytes c = part ∧ part ≠ [] := by
  unfold Path.component? at h
  split at h
  · cases h
  next hne =>
    split at h
    · cases h
    split at h
    next hp => cases h; exact ⟨hp.symm, hne⟩
    · cases h; exact ⟨rfl, hne⟩

theorem Inner.ne_nil {c : Path.Component} (h : Inner c) : componentBytes c ≠ [] := by
  obtain ⟨part, hp⟩ := h
  obtain ⟨hb, hne⟩ := componentBytes_of_component? hp
  rwa [hb]

/-- Components between slashes are told by their bytes. -/
theorem Inner.ext {c d : Path.Component} (hc : Inner c) (hd : Inner d)
    (h : componentBytes c = componentBytes d) : c = d := by
  obtain ⟨a, ha⟩ := hc
  obtain ⟨b, hb⟩ := hd
  rw [(componentBytes_of_component? ha).1, (componentBytes_of_component? hb).1] at h
  exact Option.some.inj (ha.symm.trans (h ▸ hb))

/-- An absolute path is its root and then components between slashes. -/
theorem components_of_isAbsolute {p : Path} (h : p.isAbsolute = true) :
    ∃ parts, p.components = .root :: parts ∧ ∀ c ∈ parts, Inner c := by
  obtain ⟨bytes⟩ := p
  obtain ⟨rest, rfl⟩ := Path.bytes_of_isAbsolute h
  refine ⟨_, Path.components_slash rest, fun c hc => ?_⟩
  obtain ⟨part, -, hp⟩ := List.mem_filterMap.1 hc
  exact ⟨part, hp⟩

/-- The text of a file URL behind its scheme. -/
def spelled (parts : List Path.Component) : List Char :=
  if parts.isEmpty then ['/']
  else parts.flatMap fun part => '/' :: (componentBytes part).flatMap encodeByte

theorem splitAt_spelled (parts : List Path.Component) :
    splitAt '/' (spelled parts) =
      [] :: if parts.isEmpty then [[]] else parts.map fun c => (componentBytes c).flatMap encodeByte := by
  unfold spelled
  split
  · rfl
  · have h : ∀ part ∈ parts.map fun c => (componentBytes c).flatMap encodeByte, '/' ∉ part := by
      intro part hp
      obtain ⟨c, -, rfl⟩ := List.mem_map.1 hp
      intro hs
      obtain ⟨b, -, hb⟩ := List.mem_flatMap.1 hs
      exact slash_notMem_encodeByte b hb
    simpa [List.flatMap_map] using splitAt_parts h [] (by simp)

/-- Components between slashes are told by their text. -/
theorem spelled_injective {as bs : List Path.Component} (ha : ∀ c ∈ as, Inner c)
    (hb : ∀ c ∈ bs, Inner c) (h : spelled as = spelled bs) : as = bs := by
  have hs := congrArg (splitAt '/') h
  rw [splitAt_spelled, splitAt_spelled] at hs
  have bare : ∀ {cs : List Path.Component}, (∀ c ∈ cs, Inner c) →
      cs.map (fun c => (componentBytes c).flatMap encodeByte) ≠ [[]] := by
    intro cs hcs hc
    obtain ⟨c, rfl, hn⟩ := List.map_eq_singleton_iff.1 hc
    exact (hcs c (List.mem_singleton_self c)).ne_nil (encode_injective (b := []) hn)
  have hm : as.map (fun c => (componentBytes c).flatMap encodeByte) =
      bs.map fun c => (componentBytes c).flatMap encodeByte := by
    cases as <;> cases bs
    · rfl
    · exact absurd (List.cons.inj hs).2.symm (bare hb)
    · exact absurd (List.cons.inj hs).2 (bare ha)
    · exact (List.cons.inj hs).2
  clear h hs
  induction as generalizing bs with
  | nil => simpa using hm.symm
  | cons a as ih =>
    cases bs with
    | nil => simp at hm
    | cons b bs =>
      obtain ⟨hab, hm⟩ := List.cons.inj hm
      rw [(ha a List.mem_cons_self).ext (hb b List.mem_cons_self) (encode_injective hab),
        ih (fun c hc => ha c (List.mem_cons_of_mem _ hc))
          (fun c hc => hb c (List.mem_cons_of_mem _ hc)) hm]

theorem text_of_ofString {s : String} {u : Uri} (h : Uri.ofString s = .ok u) : u.text = s := by
  unfold Uri.ofString at h
  split at h
  · cases h; rfl
  · cases h

theorem ofPath?_eq_some {p : Path} {u : Uri} (h : ofPath? p = some u) :
    p.isAbsolute = true ∧ u.text.toList = fileText p := by
  unfold ofPath? at h
  split at h
  next ha =>
    refine ⟨ha, ?_⟩
    cases ho : Uri.ofString (String.ofList (fileText p)) with
    | error e => simp [ho, Except.toOption] at h
    | ok v =>
      obtain rfl : v = u := by simpa [ho, Except.toOption] using h
      rw [text_of_ofString ho, String.toList_ofList]
  · cases h

/-- Documents with the same URI have the same path, in some spelling. -/
theorem same_of_ofPath? {p q : Path} {u : Uri} (hp : ofPath? p = some u) (hq : ofPath? q = some u) :
    p.same q = true := by
  obtain ⟨ap, tp⟩ := ofPath?_eq_some hp
  obtain ⟨aq, tq⟩ := ofPath?_eq_some hq
  obtain ⟨ps, hps, ips⟩ := components_of_isAbsolute ap
  obtain ⟨qs, hqs, iqs⟩ := components_of_isAbsolute aq
  have h : spelled ps = spelled qs := by
    have ht := tp.symm.trans tq
    unfold fileText at ht
    rw [hps, hqs] at ht
    exact List.append_cancel_left ht
  rw [Path.same_iff, hps, hqs, spelled_injective ips iqs h]

end ShaderDiagnostics.Uri
