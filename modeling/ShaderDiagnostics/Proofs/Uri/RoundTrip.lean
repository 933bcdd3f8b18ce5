import Mathlib.Data.List.Basic
import Mathlib.Data.List.TakeWhile
import ShaderDiagnostics.Proofs.Path.Components
import ShaderDiagnostics.Proofs.Uri.Segments
import ShaderDiagnostics.Proofs.Uri.Spelling

/-!
# From URIs to paths and back

Documents arrive under URIs, are kept under paths, and are answered under the URIs of these. Writing the
URL of a path leaves four bytes bare that no URI may hold (`isMisfit`), and then the path has no URI at all
(`ofPath?_isSome_iff`). Reading a URL resolves the parents in it, so a path with a parent among its
components comes back as another one; every other path comes back (`path?_of_ofPath?`).

Main statement: what a URI names can be answered under a URI for the same path exactly if neither is the
case (`round_trip_iff`). Both are possible, for a percent sign may encode any byte, slashes included.
-/

namespace ShaderDiagnostics.Uri

/-! ### Bytes between slashes -/

/-- The bytes of components with a slash before each. -/
def pathBytes (parts : List Path.Component) : List UInt8 :=
  if parts.isEmpty then [Path.slash]
  else (parts.map componentBytes).flatMap fun part => Path.slash :: part

/-- Components of an absolute path, behind the root. -/
structure Inside (parts : List Path.Component) : Prop where
  inner : ∀ c ∈ parts, Inner c
  noSlash : ∀ c ∈ parts, Path.slash ∉ componentBytes c

theorem Inner.component? {c : Path.Component} (h : Inner c) :
    Path.component? false (componentBytes c) = some c := by
  obtain ⟨part, hp⟩ := h
  rw [(componentBytes_of_component? hp).1, hp]

/-- The components of an absolute path, and which bytes they hold: all but slashes and dots. -/
theorem inside_of_isAbsolute {p : Path} (h : p.isAbsolute = true) :
    ∃ parts, p.components = .root :: parts ∧ Inside parts ∧
      ∀ b, b ≠ Path.slash → b ≠ Path.dot → (b ∈ pathBytes parts ↔ b ∈ p.bytes) := by
  obtain ⟨bytes⟩ := p
  obtain ⟨rest, rfl⟩ := Path.bytes_of_isAbsolute h
  refine ⟨_, Path.components_slash rest, ⟨?_, ?_⟩, ?_⟩
  · intro c hc
    obtain ⟨part, -, hp⟩ := List.mem_filterMap.1 hc
    exact ⟨part, hp⟩
  · intro c hc
    obtain ⟨part, hs, hp⟩ := List.mem_filterMap.1 hc
    rw [(componentBytes_of_component? hp).1]
    exact Path.slash_notMem_split hs
  · intro b slash dot
    show _ ↔ b ∈ Path.slash :: rest
    have spelled : (∃ part ∈ Path.split rest, b ∈ part) ↔ b ∈ rest := Path.mem_split_iff slash
    rw [List.mem_cons, or_iff_right slash, ← spelled]
    unfold pathBytes
    constructor
    · intro hb
      split at hb
      · exact absurd (List.mem_singleton.1 hb) slash
      · obtain ⟨part, hpart, hb⟩ := List.mem_flatMap.1 hb
        obtain ⟨c, hc, rfl⟩ := List.mem_map.1 hpart
        obtain ⟨part, hs, hp⟩ := List.mem_filterMap.1 hc
        rw [(componentBytes_of_component? hp).1] at hb
        exact ⟨part, hs, (List.mem_cons.1 hb).resolve_left slash⟩
    · rintro ⟨part, hs, hb⟩
      obtain ⟨c, hp⟩ := Path.exists_component? hb dot
      have hc := List.mem_filterMap.2 ⟨part, hs, hp⟩
      rw [if_neg (by simpa using List.ne_nil_of_mem hc)]
      refine List.mem_flatMap.2 ⟨componentBytes c, List.mem_map_of_mem hc, ?_⟩
      rw [(componentBytes_of_component? hp).1]
      exact List.mem_cons_of_mem _ hb

/-- The components of the bytes of components. -/
theorem components_pathBytes {parts : List Path.Component} (h : Inside parts) :
    Path.components ⟨pathBytes parts⟩ = .root :: parts := by
  unfold pathBytes
  split
  next he =>
    rw [List.isEmpty_iff.1 he]
    rfl
  next hne =>
    rw [Path.components_parts]
    · congr 1
      rw [List.filterMap_map]
      have all : ∀ c ∈ parts, (Path.component? false ∘ componentBytes) c = some c :=
        fun c hc => (h.inner c hc).component?
      rw [List.filterMap_congr all, List.filterMap_some]
    · intro part hp
      obtain ⟨c, hc, rfl⟩ := List.mem_map.1 hp
      exact h.noSlash c hc
    · simpa using hne

theorem closeDrive_cases (bytes : List UInt8) :
    closeDrive bytes = bytes ∨ closeDrive bytes = bytes ++ [Path.slash] := by
  unfold closeDrive
  split
  · split
    · exact Or.inr rfl
    · exact Or.inl rfl
  · exact Or.inl rfl

/-- The slash behind a drive does not count. -/
theorem components_closeDrive {bytes : List UInt8} (h : (⟨bytes⟩ : Path).isAbsolute = true) :
    Path.components ⟨closeDrive bytes⟩ = Path.components ⟨bytes⟩ := by
  rcases closeDrive_cases bytes with same | closed
  · rw [same]
  · rw [closed]
    exact Path.components_concat_slash h

/-! ### Paths that have a URI -/

/-- Bytes that a file URL holds as they are, though a URI does not. -/
def isMisfit (b : UInt8) : Bool := b == 0x7C || b == 0x5B || b == 0x5D || b == 0x5E

/-- One byte of a path in a file URL. -/
def encodePath (b : UInt8) : List Char := if b == Path.slash then ['/'] else encodeByte b

theorem misfit_form : ∀ b : UInt8, isMisfit b = true →
    encodePath b = [Char.ofNat b.toNat] ∧ Char.ofNat b.toNat ≠ '%' ∧
      isPathChar (Char.ofNat b.toNat) = false ∧ Char.ofNat b.toNat ≠ '?' ∧
      Char.ofNat b.toNat ≠ '#' := by
  refine of_fin ?_
  decide +kernel

/-- The other bytes are characters of paths or percent-encoded. -/
theorem fit_form : ∀ b : UInt8, isMisfit b = false →
    (encodePath b = [Char.ofNat b.toNat] ∧ Char.ofNat b.toNat ≠ '%' ∧
      isPathChar (Char.ofNat b.toNat) = true) ∨
    (encodePath b = ['%', upperHex (b.toNat / 16), upperHex (b.toNat % 16)] ∧
      (isHexDigit (upperHex (b.toNat / 16)) && isHexDigit (upperHex (b.toNat % 16))) = true) := by
  refine of_fin ?_
  decide +kernel

/-- No byte ends the path. -/
theorem encodePath_inside : ∀ b : UInt8,
    (encodePath b).all (fun c => !(c == '?' || c == '#')) = true := by
  refine of_fin ?_
  decide +kernel

theorem spelled_eq {parts : List Path.Component} (h : Inside parts) :
    spelled parts = (pathBytes parts).flatMap encodePath := by
  unfold spelled pathBytes
  split
  · rfl
  · rw [List.flatMap_assoc, List.flatMap_map]
    refine List.flatMap_congr fun c hc => ?_
    have same : (componentBytes c).flatMap encodePath = (componentBytes c).flatMap encodeByte := by
      refine List.flatMap_congr fun b hb => ?_
      have hne : b ≠ Path.slash := fun he => h.noSlash c hc (he ▸ hb)
      simp [encodePath, hne]
    rw [List.flatMap_cons, same]
    rfl

/-- Reading a path stops at the first misfit. -/
theorem scan_encodePath (bytes : List UInt8) (i : Nat) :
    ∃ j, scan isPathChar i (bytes.flatMap encodePath) =
      .ok ⟨j, (bytes.dropWhile fun b => !isMisfit b).flatMap encodePath⟩ := by
  induction bytes generalizing i with
  | nil => exact ⟨i, rfl⟩
  | cons b rest ih =>
    rw [List.flatMap_cons, List.dropWhile_cons]
    cases hb : isMisfit b with
    | true =>
      obtain ⟨form, percent, outside, -⟩ := misfit_form b hb
      refine ⟨i, ?_⟩
      rw [form, List.cons_append, List.nil_append, scan, if_neg (by simpa using percent), outside,
        if_neg (by decide)]
      · simp [form]
      · intro _ _ _ he
        exact absurd he percent
    | false =>
      rcases fit_form b hb with ⟨form, percent, inside⟩ | ⟨form, digits⟩
      · obtain ⟨j, hj⟩ := ih (i + 1)
        refine ⟨j, ?_⟩
        rw [form, List.cons_append, List.nil_append, scan, if_neg (by simpa using percent), inside,
          if_pos rfl, hj]
        · rfl
        · intro _ _ _ he
          exact absurd he percent
      · obtain ⟨j, hj⟩ := ih (i + 3)
        refine ⟨j, ?_⟩
        rw [form]
        simp only [List.cons_append, List.nil_append, scan]
        rw [if_pos digits, hj]
        rfl

/-- What reading the text of a file URL comes down to: its host is empty, so its path is all there is. -/
theorem check_file (rest : List Char) :
    check ("file://".toList ++ '/' :: rest) =
      (scan isPathChar 7 ('/' :: rest)).bind fun after => tail after := by
  have noHost : scan isUserChar 7 ('/' :: rest) = .ok ⟨7, '/' :: rest⟩ := by
    rw [scan]
    · rfl
    · intro _ _ _ he
      cases he
  show hierarchy ⟨5, '/' :: '/' :: '/' :: rest⟩ = _
  unfold hierarchy authority
  simp only [Rest.drop, Rest.scan, List.drop_succ_cons, List.drop_zero, noHost]
  show pathAfterAuthority ⟨7, '/' :: rest⟩ = _
  unfold pathAfterAuthority
  simp only [Rest.scan]
  cases scan isPathChar 7 ('/' :: rest) with
  | error e => rfl
  | ok after =>
    show (if (after.index != 7 && some '/' != some '/') = true then _ else tail after) = tail after
    rw [if_neg (by simp)]

theorem tail_of_other {c : Char} (query : c ≠ '?') (fragment : c ≠ '#') (i : Nat) (rest : List Char) :
    tail ⟨i, c :: rest⟩ = .error (.unexpectedChar i) := by
  simp [tail, query, fragment, bind, Except.bind]

/-- A path has a URI exactly if no misfit is among its bytes. -/
theorem check_spelled {parts : List Path.Component} (h : Inside parts) :
    check ("file://".toList ++ spelled parts) = .ok () ↔ ∀ b ∈ pathBytes parts, isMisfit b = false := by
  have slash : ∃ rest, pathBytes parts = Path.slash :: rest := by
    unfold pathBytes
    split
    · exact ⟨[], rfl⟩
    next hne =>
      cases parts with
      | nil => exact absurd rfl hne
      | cons c parts => exact ⟨_, rfl⟩
  obtain ⟨rest, hrest⟩ := slash
  obtain ⟨j, hj⟩ := scan_encodePath (pathBytes parts) 7
  have start : (pathBytes parts).flatMap encodePath = '/' :: rest.flatMap encodePath := by
    rw [hrest]
    rfl
  rw [spelled_eq h, start, check_file, ← start, hj]
  show tail _ = .ok () ↔ _
  cases hd : (pathBytes parts).dropWhile fun b => !isMisfit b with
  | nil =>
    have all : ∀ b ∈ pathBytes parts, isMisfit b = false := by simpa using List.dropWhile_eq_nil_iff.1 hd
    exact ⟨fun _ => all, fun _ => rfl⟩
  | cons b others =>
    have misfit : isMisfit b = true := by
      have stops := List.head_dropWhile_not (fun b => !isMisfit b) (l := pathBytes parts) (by simp [hd])
      simpa [hd] using stops
    have among : b ∈ pathBytes parts :=
      (List.dropWhile_sublist _).subset (hd ▸ List.mem_cons_self)
    obtain ⟨form, -, -, query, fragment⟩ := misfit_form b misfit
    constructor
    · intro ok
      rw [List.flatMap_cons, form, List.cons_append, List.nil_append] at ok
      rw [tail_of_other query fragment] at ok
      cases ok
    · intro none
      rw [none b among] at misfit
      cases misfit

theorem ofString_of_check {s : String} (h : check s.toList = .ok ()) :
    ∃ u, Uri.ofString s = .ok u ∧ u.text = s := by
  unfold Uri.ofString
  split
  next hok => exact ⟨⟨s, hok⟩, rfl, rfl⟩
  next he =>
    rw [he] at h
    cases h

theorem fileText_eq {p : Path} {parts : List Path.Component} (h : p.components = .root :: parts) :
    fileText p = "file://".toList ++ spelled parts := by
  unfold fileText
  rw [h]
  rfl

/-- **Which paths have a URI.** An absolute path has one exactly if no misfit is among its bytes. -/
theorem ofPath?_isSome_iff {p : Path} (h : p.isAbsolute = true) :
    (∃ u, ofPath? p = some u) ↔ ∀ b ∈ p.bytes, isMisfit b = false := by
  obtain ⟨parts, components, inside, bytes⟩ := inside_of_isAbsolute h
  have same : (∀ b ∈ pathBytes parts, isMisfit b = false) ↔ ∀ b ∈ p.bytes, isMisfit b = false := by
    have among : ∀ b, isMisfit b = true → (b ∈ pathBytes parts ↔ b ∈ p.bytes) := by
      intro b hb
      refine bytes b ?_ ?_
      · rintro rfl
        cases hb
      · rintro rfl
        cases hb
    constructor
    · intro none b hb
      refine Bool.eq_false_iff.2 fun misfit => ?_
      rw [none b ((among b misfit).2 hb)] at misfit
      cases misfit
    · intro none b hb
      refine Bool.eq_false_iff.2 fun misfit => ?_
      rw [none b ((among b misfit).1 hb)] at misfit
      cases misfit
  rw [← same, ← check_spelled inside, ← fileText_eq components]
  unfold ofPath?
  rw [if_pos h]
  constructor
  · rintro ⟨u, hu⟩
    cases ho : Uri.ofString (String.ofList (fileText p)) with
    | error e => simp [ho, Except.toOption] at hu
    | ok v =>
      have valid := v.valid
      rwa [text_of_ofString ho, String.toList_ofList] at valid
  · intro ok
    obtain ⟨u, hu, -⟩ := ofString_of_check (s := String.ofList (fileText p)) (by rwa [String.toList_ofList])
    exact ⟨u, by rw [hu]; rfl⟩

/-! ### The path of a file URL -/

theorem spelled_slash (parts : List Path.Component) :
    ∃ rest, spelled parts = '/' :: rest ∧
      splitAt '/' rest =
        if parts.isEmpty then [[]] else parts.map fun c => (componentBytes c).flatMap encodeByte := by
  have head : ∃ rest, spelled parts = '/' :: rest := by
    unfold spelled
    split
    · exact ⟨[], rfl⟩
    next hne =>
      cases parts with
      | nil => exact absurd rfl hne
      | cons c parts => exact ⟨_, rfl⟩
  obtain ⟨rest, hrest⟩ := head
  have split := splitAt_spelled parts
  rw [hrest] at split
  exact ⟨rest, hrest, (List.cons.inj split).2⟩

/-- Reading the URL of components: its path is all there is. -/
theorem path?_of_text {parts : List Path.Component} (h : Inside parts) {u : Uri}
    (hu : u.text.toList = "file://".toList ++ spelled parts) :
    u.path? = some (pathOfSegments (segments (spelled parts))) := by
  have inside : (spelled parts).takeWhile (fun c => !(c == '?' || c == '#')) = spelled parts := by
    refine List.takeWhile_eq_self_iff.2 fun c hc => ?_
    rw [spelled_eq h] at hc
    obtain ⟨b, -, hb⟩ := List.mem_flatMap.1 hc
    exact List.all_eq_true.1 (encodePath_inside b) c hb
  obtain ⟨rest, hrest, -⟩ := spelled_slash parts
  unfold path?
  rw [hu, hrest]
  rw [hrest] at inside
  show pathAfterScheme ('/' :: '/' :: '/' :: rest) = _
  show some (pathOfSegments (segments (('/' :: rest).takeWhile fun c => !(c == '?' || c == '#')))) = _
  rw [inside]

theorem eq_of_isDoubleDot {bytes : List UInt8} (h : isDoubleDot (bytes.flatMap encodeByte) = true) :
    bytes = [Path.dot, Path.dot] := by
  rw [← percentDecode_encode bytes, percentDecode_of_isDoubleDot h]

theorem eq_of_isSingleDot {bytes : List UInt8} (h : isSingleDot (bytes.flatMap encodeByte) = true) :
    bytes = [Path.dot] := by
  rw [← percentDecode_encode bytes, percentDecode_of_isSingleDot h]

/-- A name stands for no dots. -/
theorem Inner.plain {c : Path.Component} (h : Inner c) (hc : c ≠ .parent) :
    isDoubleDot ((componentBytes c).flatMap encodeByte) = false ∧
      isSingleDot ((componentBytes c).flatMap encodeByte) = false := by
  have named := h.component?
  constructor
  · refine Bool.eq_false_iff.2 fun two => ?_
    rw [eq_of_isDoubleDot two] at named
    exact hc (Option.some.inj named).symm
  · refine Bool.eq_false_iff.2 fun one => ?_
    rw [eq_of_isSingleDot one] at named
    cases named

/-- Without parents, the URL of components names the path of these components. -/
theorem pathOfSegments_spelled {parts : List Path.Component} (h : Inside parts)
    (hp : Path.Component.parent ∉ parts) :
    pathOfSegments (segments (spelled parts)) = ⟨closeDrive (pathBytes parts)⟩ := by
  obtain ⟨rest, hrest, hsplit⟩ := spelled_slash parts
  rw [hrest, segments_slash, hsplit]
  unfold pathOfSegments pathBytes
  cases parts with
  | nil => rfl
  | cons c others =>
    have plain : ∀ part ∈ (c :: others).map fun c => (componentBytes c).flatMap encodeByte,
        isDoubleDot part = false ∧ isSingleDot part = false := by
      intro part hpart
      obtain ⟨d, hd, rfl⟩ := List.mem_map.1 hpart
      exact (h.inner d hd).plain fun he => hp (he ▸ hd)
    have first : (componentBytes c).flatMap encodeByte ≠ [] := by
      intro he
      exact (h.inner c List.mem_cons_self).ne_nil (encode_injective (b := []) he)
    rw [List.isEmpty_cons, if_neg (by decide), if_neg (by decide), resolve_of_plain plain,
      List.reverse_nil, List.nil_append, List.map_cons, List.dropWhile_cons, if_neg (by simpa using first)]
    congr 2
    show ((c :: others).map fun c => (componentBytes c).flatMap encodeByte).flatMap _ = _
    rw [List.flatMap_map, List.flatMap_map]
    exact List.flatMap_congr fun d _ => by rw [percentDecode_encode]

/-- A segment that spells bytes which are neither a parent nor hold a slash. -/
def Resolved (segment : List Char) : Prop :=
  ∃ bytes, segment = bytes.flatMap encodeByte ∧ Path.slash ∉ bytes ∧ bytes ≠ [Path.dot, Path.dot]

theorem resolved_nil : Resolved [] := ⟨[], rfl, List.not_mem_nil, by decide⟩

theorem resolved_of_mem_segments {parts : List Path.Component} (h : Inside parts) {segment : List Char}
    (hs : segment ∈ segments (spelled parts)) : Resolved segment := by
  obtain ⟨rest, hrest, hsplit⟩ := spelled_slash parts
  have all : ∀ segment ∈ resolve [] (splitAt '/' rest), Resolved segment := by
    refine forall_mem_resolve resolved_nil (by simp) fun segment hs two => ?_
    rw [hsplit] at hs
    split at hs
    · rw [List.mem_singleton.1 hs]
      exact resolved_nil
    · obtain ⟨c, hc, rfl⟩ := List.mem_map.1 hs
      refine ⟨componentBytes c, rfl, h.noSlash c hc, fun he => ?_⟩
      rw [he] at two
      exact absurd two (by decide)
  rw [hrest, segments_slash] at hs
  split at hs
  · rw [List.mem_singleton.1 hs]
    exact resolved_nil
  · exact all segment ((List.dropWhile_sublist _).subset hs)

/-- The path of resolved segments has no parents. -/
theorem parent_notMem_of_resolved {segs : List (List Char)} (hne : segs ≠ [])
    (resolved : ∀ segment ∈ segs, Resolved segment) :
    Path.Component.parent ∉ (pathOfSegments segs).components := by
  have joined : (segs.flatMap fun part => Path.slash :: percentDecode part) =
      (segs.map percentDecode).flatMap fun part => Path.slash :: part := by rw [List.flatMap_map]
  have start : (⟨segs.flatMap fun part => Path.slash :: percentDecode part⟩ : Path).isAbsolute = true := by
    cases segs with
    | nil => exact absurd rfl hne
    | cons segment segs => rfl
  unfold pathOfSegments
  rw [components_closeDrive start, joined, Path.components_parts]
  · intro hparent
    obtain ⟨part, hpart, named⟩ := List.mem_filterMap.1 ((List.mem_cons.1 hparent).resolve_left nofun)
    obtain ⟨segment, hs, rfl⟩ := List.mem_map.1 hpart
    obtain ⟨bytes, rfl, -, two⟩ := resolved segment hs
    rw [percentDecode_encode] at named
    exact two (componentBytes_of_component? named).1.symm
  · intro part hpart
    obtain ⟨segment, hs, rfl⟩ := List.mem_map.1 hpart
    obtain ⟨bytes, rfl, noSlash, -⟩ := resolved segment hs
    rwa [percentDecode_encode]
  · simpa using hne

/-- **What comes back from the URI of a path.** It names some path, in the same components exactly if none
of them is a parent. -/
theorem path?_of_ofPath? {p : Path} {u : Uri} (h : ofPath? p = some u) :
    ∃ q, u.path? = some q ∧ (q.same p = true ↔ Path.Component.parent ∉ p.components) := by
  obtain ⟨absolute, text⟩ := ofPath?_eq_some h
  obtain ⟨parts, components, inside, -⟩ := inside_of_isAbsolute absolute
  rw [fileText_eq components] at text
  refine ⟨_, path?_of_text inside text, ?_⟩
  rw [Path.same_iff]
  constructor
  · intro same
    rw [← same]
    exact parent_notMem_of_resolved (segments_ne_nil _) fun _ => resolved_of_mem_segments inside
  · intro hp
    have parents : Path.Component.parent ∉ parts := by
      intro hm
      exact hp (components ▸ List.mem_cons_of_mem _ hm)
    have start : (⟨pathBytes parts⟩ : Path).isAbsolute = true := by
      unfold pathBytes
      cases parts with
      | nil => rfl
      | cons c others => rfl
    rw [pathOfSegments_spelled inside parents, components_closeDrive start, components_pathBytes inside,
      components]

/-- **Round trip.** A document that is named by a URI can be answered under a URI that names the same path
exactly if no parent is among the components of the path, which encoded slashes may bring in, and no misfit
among its bytes. -/
theorem round_trip_iff {u : Uri} {p : Path} (h : u.path? = some p) :
    (∃ u' p', ofPath? p = some u' ∧ u'.path? = some p' ∧ p'.same p = true) ↔
      Path.Component.parent ∉ p.components ∧ ∀ b ∈ p.bytes, isMisfit b = false := by
  have absolute := isAbsolute_of_path? h
  constructor
  · rintro ⟨u', p', hu', hp', same⟩
    obtain ⟨q, hq, back⟩ := path?_of_ofPath? hu'
    obtain rfl := Option.some.inj (hq.symm.trans hp')
    exact ⟨back.1 same, (ofPath?_isSome_iff absolute).1 ⟨u', hu'⟩⟩
  · rintro ⟨parents, fits⟩
    obtain ⟨u', hu'⟩ := (ofPath?_isSome_iff absolute).2 fits
    obtain ⟨q, hq, back⟩ := path?_of_ofPath? hu'
    exact ⟨u', q, hu', hq, back.2 parents⟩

/-- A URI with an encoded space. -/
def lightUri : Uri := ⟨"file:///shaders/my%20light.frag", by decide +kernel⟩

theorem light_round_trip :
    lightUri.path? = some (Path.ofString "/shaders/my light.frag") ∧
      ∃ u' p', ofPath? (Path.ofString "/shaders/my light.frag") = some u' ∧ u'.path? = some p' ∧
        p'.same (Path.ofString "/shaders/my light.frag") = true := by
  have named : lightUri.path? = some (Path.ofString "/shaders/my light.frag") := by decide +kernel
  exact ⟨named, (round_trip_iff named).2 ⟨by decide +kernel, by decide +kernel⟩⟩

/-- A URI with an encoded bar. -/
def barUri : Uri := ⟨"file:///a%7Cb.frag", by decide +kernel⟩

/-- The path of a URI need not have a URI itself. -/
theorem bar_unanswered :
    barUri.path? = some (Path.ofString "/a|b.frag") ∧ ofPath? (Path.ofString "/a|b.frag") = none := by
  decide +kernel

/-- A path that an encoded slash has brought a parent into is answered under the URI of another. -/
example :
    (⟨"file:///x/a%2F..%2Fb.frag", by decide +kernel⟩ : Uri).path? = some (Path.ofString "/x/a/../b.frag") ∧
      (ofPath? (Path.ofString "/x/a/../b.frag")).bind path? = some (Path.ofString "/x/b.frag") := by
  decide +kernel

end ShaderDiagnostics.Uri
