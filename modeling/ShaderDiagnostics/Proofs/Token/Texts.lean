import Mathlib.Data.List.TakeWhile
import ShaderDiagnostics.Proofs.Text.Numerals
import ShaderDiagnostics.Service.Jobs

/-!
# The texts of tokens

The text of a token is its result id, by which the editor names what it has. It is a numeral for each of the two
versions and a colon between, and every such text is read as the token of its two numbers, as far as they have 32 bits;
no other text is read (`Token.ofText_eq_ok_iff`). For no numeral has a colon in it, so that the first colon is the only
place to divide such a text at. Hence a token is read back from its text, and different tokens have different texts
(`Token.text_read_back`): a request that names the result of a token is told that nothing has changed only if that is
the token of the request (`Service.isShown_text`).
-/

namespace ShaderDiagnostics

namespace Token

open Text

/-- A numeral for each of two numbers, and a colon between. -/
def Spells (s : List Char) (content settings : Nat) : Prop :=
  ∃ left right, s = left ++ ':' :: right ∧ Numeral left content ∧ Numeral right settings

theorem readWord_eq_some_iff {s : List Char} {w : UInt32} : readWord s = some w ↔ Numeral s w.toNat := by
  simp only [readWord, Option.map_eq_some_iff, readNat_eq_some_iff]
  constructor
  · rintro ⟨n, ⟨numeral, fits⟩, rfl⟩
    rwa [UInt32.toNat_ofNat_of_lt' fits]
  · intro numeral
    exact ⟨w.toNat, ⟨numeral, w.toNat_lt_size⟩, UInt32.ofNat_toNat⟩

/-- No numeral has a colon in it. -/
theorem colon_notMem {s : List Char} {n : Nat} (h : Numeral s n) : ':' ∉ s := fun colon =>
  absurd (h.isDigit_or_plus ':' colon) (by decide)

/-! ### Reading -/

theorem forall_ne_colon {s : List Char} (absent : ':' ∉ s) : ∀ c ∈ s, (c != ':') = true := fun c hc => by
  rw [bne_iff_ne]
  rintro rfl
  exact absent hc

/-- What is before the first colon is read as one number, and all that is behind it as the other. -/
theorem read_eq_some_iff_of_notMem {left right : List Char} (first : ':' ∉ left) {t : Token} :
    read (left ++ ':' :: right) = some t ↔ Numeral left t.content.toNat ∧ Numeral right t.settings.toNat := by
  have before := forall_ne_colon first
  have rest : (left ++ ':' :: right).dropWhile (· != ':') = ':' :: right := by
    rw [List.dropWhile_append_of_pos before, List.dropWhile_cons_of_neg (by decide)]
  have start : (left ++ ':' :: right).takeWhile (· != ':') = left := by
    rw [List.takeWhile_append_of_pos before, List.takeWhile_cons_of_neg (by decide), List.append_nil]
  rw [read, rest, start, ← readWord_eq_some_iff, ← readWord_eq_some_iff]
  dsimp only
  split
  next content settings hc hs =>
    rw [hc, hs]
    cases t
    simp
  next unread =>
    exact ⟨nofun, fun both => absurd both.2 (unread _ _ both.1)⟩

theorem read_eq_none_of_notMem {s : List Char} (absent : ':' ∉ s) : read s = none := by
  have rest : s.dropWhile (· != ':') = [] := List.dropWhile_eq_nil_iff.2 (forall_ne_colon absent)
  rw [read, rest]

theorem read_eq_some_iff {s : List Char} {t : Token} :
    read s = some t ↔ Spells s t.content.toNat t.settings.toNat := by
  constructor
  · intro h
    by_cases colon : ':' ∈ s
    · obtain ⟨left, right, rfl, first⟩ := List.eq_append_cons_of_mem colon
      exact ⟨left, right, rfl, (read_eq_some_iff_of_notMem first).1 h⟩
    · rw [read_eq_none_of_notMem colon] at h
      cases h
  · rintro ⟨left, right, rfl, content, settings⟩
    exact (read_eq_some_iff_of_notMem (colon_notMem content)).2 ⟨content, settings⟩

/-- Just the texts that spell the versions of a token are read as that token. -/
theorem ofText_eq_ok_iff {s : String} {t : Token} :
    ofText s = .ok t ↔ Spells s.toList t.content.toNat t.settings.toNat := by
  rw [← read_eq_some_iff, ofText]
  split
  next u read => rw [read, Except.ok.injEq, Option.some_inj]
  next unread => simp [unread]

/-- A text that is not read is refused under its own name. -/
theorem ofText_eq_error_iff {s : String} {e : Malformed} : ofText s = .error e ↔ e = ⟨s⟩ ∧ ∀ t, ofText s ≠ .ok t := by
  rw [ofText]
  split
  · simp
  · simp [eq_comm]

/-! ### Reading back -/

theorem spells_text (t : Token) : Spells t.text.toList t.content.toNat t.settings.toNat :=
  ⟨natText t.content.toNat, natText t.settings.toNat, String.toList_ofList, numeral_natText _, numeral_natText _⟩

theorem ofText_text (t : Token) : ofText t.text = .ok t := ofText_eq_ok_iff.2 t.spells_text

theorem text_inj {t u : Token} : t.text = u.text ↔ t = u := by
  refine ⟨fun same => ?_, congrArg text⟩
  have back := ofText_text t
  rw [same, ofText_text u] at back
  exact (Except.ok.inj back).symm

/-- **Tokens are read back.** The text of a token is read as that token, and no other token has it. Of all texts,
just those are read that spell two numbers of 32 bits, whatever signs and zeros are in front of these, and they are read
as the token of the two; every other text is refused. -/
theorem text_read_back :
    (∀ t : Token, ofText t.text = .ok t) ∧ (∀ t u : Token, t.text = u.text ↔ t = u) ∧
      ∀ s : String,
        (∀ t : Token, ofText s = .ok t ↔ Spells s.toList t.content.toNat t.settings.toNat) ∧
          ((∃ t, ofText s = .ok t) ↔
            ∃ content settings, Spells s.toList content settings ∧
              content < UInt32.size ∧ settings < UInt32.size) ∧
          (ofText s = .error ⟨s⟩ ↔ ¬ ∃ t, ofText s = .ok t) := by
  refine ⟨ofText_text, fun t u => text_inj, fun s => ⟨fun t => ofText_eq_ok_iff, ?_, ?_⟩⟩
  · constructor
    · rintro ⟨t, read⟩
      exact ⟨_, _, ofText_eq_ok_iff.1 read, t.content.toNat_lt_size, t.settings.toNat_lt_size⟩
    · rintro ⟨m, n, spells, hm, hn⟩
      refine ⟨⟨.ofNat m, .ofNat n⟩, ofText_eq_ok_iff.2 ?_⟩
      rwa [UInt32.toNat_ofNat_of_lt' hm, UInt32.toNat_ofNat_of_lt' hn]
  · rw [ofText_eq_error_iff, not_exists]
    exact and_iff_right rfl

example : ofText "+007:42" = .ok ⟨7, 42⟩ ∧ ofText "1:2:3" = .error ⟨"1:2:3"⟩ := by decide

end Token

/-- A request that names the result of a token is told that a document has not changed exactly if that is the token of
the request, and the one whose diagnostics the editor shows. -/
theorem Service.isShown_text {s : Service} {record : Nat} {token named : Token} :
    s.isShown record token (some named.text) = true ↔
      named = token ∧ (s.registry.record? record).bind Record.display = some token := by
  unfold isShown
  cases s.registry.record? record <;> simp [Token.text_inj, and_comm]

end ShaderDiagnostics
