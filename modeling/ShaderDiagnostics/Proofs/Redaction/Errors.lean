import ShaderDiagnostics.Proofs.Redaction.Paths
import ShaderDiagnostics.Proofs.Text.Decoding
import ShaderDiagnostics.Telemetry

/-!
# What errors tell about paths

Telemetry is told about errors that name a path: of a document or of the validator. What it is told depends on the
path only by what redaction leaves of the path itself, whichever the error and whatever lies behind it
(`ServiceError.notice_eq_iff`). Nothing is left of plain paths, so all of them are told alike. They are the only ones
that leave nothing: by a blank in a path, for instance, telemetry learns of it (`ServiceError.blank_traced`).
-/

namespace ShaderDiagnostics

open Redaction

namespace ServiceError

/-- Errors that name a path. -/
inductive Names : (Path → ServiceError) → Prop where
  /-- A document is open, but was never sent. -/
  | missing : Names openDocumentMissing
  /-- A document could not be read. -/
  | read (cause : String) : Names fun path => readDocument path cause
  /-- The validator could not be started. -/
  | spawn (cause : String) : Names fun program => spawnValidator program cause
  /-- The validator could not be fed or heard. -/
  | io (cause : String) : Names fun program => validatorIo program cause

theorem bars_blank (y : List Char) : Bars ' ' y := ⟨by decide, by decide, nofun⟩

/-- Words around a path: a blank is in front of it, and one or a colon behind it. -/
structure Frame (before after : String) : Prop where
  blank : before.toList.getLast? = some ' '
  ends : ∃ b y, after.toList = b :: y ∧ Bars b y

theorem frame_blank (before after : String) (blank : before.toList.getLast? = some ' ')
    (next : after.toList.head? = some ' ') : Frame before after := by
  obtain ⟨y, hy⟩ := List.head?_eq_some_iff.1 next
  exact ⟨blank, ' ', y, hy, bars_blank y⟩

theorem frame_colon {before : String} (cause : String) (blank : before.toList.getLast? = some ' ') :
    Frame before (": " ++ cause) where
  blank := blank
  ends := ⟨':', ' ' :: cause.toList, by simp, by decide, by decide, fun _ => rfl⟩

/-- What an error tells is the same for all paths but for the path. -/
theorem Names.frame {e : Path → ServiceError} (h : Names e) :
    ∃ before after, Frame before after ∧ ∀ p, (e p).chain = before ++ (p.text ++ after) := by
  cases h with
  | missing =>
    refine ⟨"document ", " is open but missing from the open-document table", frame_blank _ _ (by simp) (by simp),
      fun p => ?_⟩
    show "document " ++ p.text ++ " is open but missing from the open-document table" = _
    exact String.append_assoc
  | read cause =>
    refine ⟨"failed to read ", ": " ++ (cause ++ (": " ++ cause)), frame_colon _ (by simp), fun p => ?_⟩
    show "failed to read " ++ p.text ++ ": " ++ cause ++ ": " ++ cause = _
    simp only [String.append_assoc]
  | spawn cause =>
    refine ⟨"failed to start validator ", ": " ++ (cause ++ (": " ++ cause)), frame_colon _ (by simp), fun p => ?_⟩
    show "failed to start validator " ++ p.text ++ ": " ++ cause ++ ": " ++ cause = _
    simp only [String.append_assoc]
  | io cause =>
    refine ⟨"validator ", " I/O failed: " ++ (cause ++ (": " ++ cause)), frame_blank _ _ (by simp) (by simp),
      fun p => ?_⟩
    show "validator " ++ p.text ++ " I/O failed: " ++ cause ++ ": " ++ cause = _
    simp only [String.append_assoc]

/-- Redaction leaves the same words around what it leaves of a path. -/
theorem Frame.redact {before after : String} (h : Frame before after) :
    ∃ front back : List Char, ∀ text : String,
      redactString (before ++ (text ++ after)) = String.ofList (front ++ Redaction.redact text.toList ++ back) := by
  obtain ⟨pre, hpre⟩ := List.getLast?_eq_some_iff.1 h.blank
  obtain ⟨b, y, hy, bars⟩ := h.ends
  refine ⟨Redaction.redact pre ++ [' '], b :: Redaction.redact y, fun text => ?_⟩
  have parts : (before ++ (text ++ after)).toList = pre ++ ' ' :: (text.toList ++ b :: y) := by
    rw [String.toList_append, String.toList_append, hpre, hy, List.append_assoc]
    rfl
  rw [redactString, parts, redact_append (bars_blank _), redact_append bars]
  simp only [List.append_assoc, List.cons_append, List.nil_append]

/-- Two errors of a kind are told alike exactly if redaction leaves the same of their paths. -/
theorem notice_eq_iff {e : Path → ServiceError} (h : Names e) (name : String) (p q : Path) :
    (e p).notice name = (e q).notice name ↔ redactString p.text = redactString q.text := by
  obtain ⟨before, after, frame, chain⟩ := h.frame
  obtain ⟨front, back, told⟩ := frame.redact
  simp only [notice, Notice.trouble.injEq, true_and, chain, told, String.ofList_inj]
  rw [List.append_left_inj, List.append_right_inj, redactString_eq_iff, redactString, String.toList_ofList]

/-- The text of an absolute path starts with a separator. -/
theorem rooted_of_absolute {p : Path} (absolute : p.isAbsolute = true) :
    p.text.toList.head?.any isSeparator = true := by
  obtain ⟨rest, spelled⟩ := List.head?_eq_some_iff.1 (eq_of_beq absolute)
  have first : Text.decodeParts (Path.slash :: rest) = some '/' :: Text.decodeParts rest :=
    Text.decodeParts_one rest (show 0x2F < 0x80 by decide)
  rw [Path.text, String.toList_ofList, Text.decodeLossy, spelled, first]
  rfl

/-- **Paths leave no trace.** Two errors of a kind that name absolute paths are told alike exactly if redaction leaves
the same of the paths. It leaves nothing but the placeholder exactly of plain paths: so errors that name plain paths
are told alike, and no other error of the kind is told as they are. -/
theorem plain_untraced {e : Path → ServiceError} (h : Names e) (name : String) {p q : Path}
    (hp : p.isAbsolute = true) (hq : q.isAbsolute = true) :
    ((e p).notice name = (e q).notice name ↔ redactString p.text = redactString q.text) ∧
      (redactString p.text = "<path>" ↔ Plain p.text.toList) ∧
      (Plain p.text.toList → ((e p).notice name = (e q).notice name ↔ Plain q.text.toList)) := by
  have whole : ∀ {p : Path}, p.isAbsolute = true → (redactString p.text = "<path>" ↔ Plain p.text.toList) :=
    fun absolute => redactString_eq_iff.trans (redact_eq_placeholder_iff (rooted_of_absolute absolute))
  refine ⟨notice_eq_iff h name p q, whole hp, fun plain => ?_⟩
  rw [notice_eq_iff h, (whole hp).2 plain, eq_comm, whole hq]

/-- A document that cannot be read is told of like any other, wherever the two lie, but for one in a folder with a
blank in its name. -/
theorem light_untraced :
    let light := Path.ofString "/shaders/light.frag"
    let post := Path.ofString "/home/ü/post\\fx.vert"
    let spaced := Path.ofString "/my shaders/a.frag"
    (light.isAbsolute = true ∧ post.isAbsolute = true ∧ spaced.isAbsolute = true) ∧
      redactString light.text = "<path>" ∧
      (readDocument light "denied").notice "pull" = (readDocument post "denied").notice "pull" ∧
      (readDocument light "denied").notice "pull" ≠ (readDocument spaced "denied").notice "pull" := by
  intro light post spaced
  have absolute : light.isAbsolute = true ∧ post.isAbsolute = true ∧ spaced.isAbsolute = true := by decide +kernel
  have plain : Plain light.text.toList := by decide +kernel
  obtain ⟨-, whole, alike⟩ := plain_untraced (.read "denied") "pull" absolute.1 absolute.2.1
  obtain ⟨-, -, alike'⟩ := plain_untraced (.read "denied") "pull" absolute.1 absolute.2.2
  exact ⟨absolute, whole.2 plain, (alike plain).2 (by decide +kernel),
    fun same => absurd ((alike' plain).1 same) (by decide +kernel)⟩

/-- Of a document that is open but was never sent, telemetry is told that there are two words in its path, and the
second one. -/
theorem blank_traced :
    let spaced := Path.ofString "/my shaders/a.frag"
    let light := Path.ofString "/shaders/light.frag"
    (spaced.isAbsolute = true ∧ light.isAbsolute = true) ∧
      (openDocumentMissing spaced).notice "pull" =
        .trouble "pull" "document <path> shaders<path> is open but missing from the open-document table" ∧
      (openDocumentMissing light).notice "pull" =
        .trouble "pull" "document <path> is open but missing from the open-document table" ∧
      (openDocumentMissing spaced).notice "pull" ≠ (openDocumentMissing light).notice "pull" := by
  intro spaced light
  have traced : redactString (openDocumentMissing spaced).chain =
      "document <path> shaders<path> is open but missing from the open-document table" := by decide +kernel
  have untraced : redactString (openDocumentMissing light).chain =
      "document <path> is open but missing from the open-document table" := by decide +kernel
  refine ⟨by decide +kernel, congrArg (Notice.trouble "pull") traced, congrArg (Notice.trouble "pull") untraced, ?_⟩
  intro same
  have told : redactString (openDocumentMissing spaced).chain = redactString (openDocumentMissing light).chain :=
    (Notice.trouble.inj same).2
  exact absurd (traced.symm.trans (told.trans untraced)) (by decide)

end ServiceError

end ShaderDiagnostics
