import ShaderDiagnostics.Proofs.Service.Registry
import ShaderDiagnostics.Proofs.Settings.Agreement
import ShaderDiagnostics.Service.Validate

/-!
# What the editor should see

For each URI the editor shows what has been published last for it (`Service.last?`). What it should show
for a document depends on three things: on whether the settings want diagnostics of the document at all
(`Settings.wants`), on the text that the document has (`Service.HasText`), and on the snapshot that the
settings and the validator give (`Service.Accurate`).
-/

namespace ShaderDiagnostics

/-- Whether diagnostics are wanted of a document, which the editor may have open. -/
def Settings.wants (settings : Settings) (opened : Bool) : Bool :=
  settings.diagnostics.enable && (settings.diagnostics.workspace || opened)

namespace Service

variable {s s' : Service}

theorem inScope_eq (s : Service) (r : Record) :
    s.inScope r = (!s.host.embedded && s.settings.wants r.opened) := by
  simp only [inScope, Settings.wants, Bool.and_assoc]

theorem means?_eq {id : Nat} {r : Record} (h : s.registry.record? id = some r) (sn : Snapshot) :
    s.means? id sn = sn.means? r.path := by
  unfold means? Snapshot.means?
  rw [h]
  cases sn.validator <;> rfl

/-! ### What has been published -/

/-- The diagnostics published so far, each with its URI, the latest first. -/
def published (s : Service) : List (Uri × List Diagnostic) :=
  s.outbox.sent.filterMap fun
    | .notice (.diagnostics uri found _) => some (uri, found)
    | _ => none

/-- The diagnostics published last for a URI. -/
def last? (s : Service) (uri : Uri) : Option (List Diagnostic) :=
  (s.published.find? fun p => p.1 = uri).map (·.2)

theorem last?_of_published (h : s'.published = s.published) (uri : Uri) : s'.last? uri = s.last? uri := by
  simp only [last?, h]

theorem last?_cons {uri : Uri} {found : List Diagnostic} (h : s'.published = (uri, found) :: s.published)
    (uri' : Uri) : s'.last? uri' = if uri' = uri then some found else s.last? uri' := by
  simp only [last?, h, List.find?_cons]
  by_cases hu : uri' = uri
  · simp [hu]
  · simp [hu, Ne.symm hu]

/-- What publishing does in a session in which diagnostics are published. -/
theorem publish_eq (push : s.delivery.isPush = true) {id : Nat} {r : Record}
    (h : s.registry.record? id = some r) (found : List Diagnostic) :
    (Uri.ofPath? r.path = none ∧ s.publish id found = s) ∨
      ∃ uri outbox, Uri.ofPath? r.path = some uri ∧
        s.publish id found = { s.modifyRecord id Record.advance with outbox } ∧
        (s.publish id found).published = (uri, found) :: s.published := by
  unfold publish
  simp only [h, push, if_true]
  cases hu : Uri.ofPath? r.path with
  | none => exact Or.inl ⟨rfl, rfl⟩
  | some uri =>
    refine Or.inr ⟨uri, _, rfl, rfl, ?_⟩
    cases hd : s.delivery with
    | push versions => simp [published, modifyRecord, Outbox.publish, Outbox.tell, Outbox.send, hd]
    | pull refresh => simp [hd, Delivery.isPush] at push
    | off => simp [hd, Delivery.isPush] at push

/-! ### What the host has been asked for -/

/-- Among some exchanges a document has been read for a version of its content. -/
def HasRead (log : List Exchange) (id : Nat) (p : Path) (version : UInt32)
    (answer : Except ServiceError (List Char)) : Prop :=
  ∃ n, .read id n p version answer ∈ log

/-- Among some exchanges the validator has been run for a record. -/
def HasRun (log : List Exchange) (id : Nat) (i : Invocation)
    (answer : Except ServiceError (List Char)) : Prop :=
  ∃ n, .run id n i answer ∈ log

section

variable {log log' : List Exchange} {id : Nat} {answer : Except ServiceError (List Char)}

theorem HasRead.mono {p : Path} {version : UInt32} (h : HasRead log id p version answer)
    (hl : ∀ x ∈ log, x ∈ log') : HasRead log' id p version answer :=
  h.imp fun _ hx => hl _ hx

theorem HasRun.mono {i : Invocation} (h : HasRun log id i answer) (hl : ∀ x ∈ log, x ∈ log') :
    HasRun log' id i answer :=
  h.imp fun _ hx => hl _ hx

end

/-! ### What is right for a document -/

/-- The text that a record's document has: that of the editor if the document is open, else what has been
read from disk for its version. -/
def HasText (s : Service) (id : Nat) (r : Record) (text : List Char) : Prop :=
  if r.opened then s.editor.text? r.path = some text
  else HasRead s.log id r.path r.version (.ok text)

/-- The diagnostics are right for a record's document under a snapshot: there are none if it belongs to no
stage or there is no validator; otherwise the validator has been run on its text, with the arguments for
its stage, and they are what its report says of the text. -/
def Accurate (s : Service) (sn : Snapshot) (id : Nat) (r : Record) (found : List Diagnostic) : Prop :=
  match sn.means? r.path with
  | none => found = []
  | some (stage, program) => ∃ text output, s.HasText id r text ∧
      HasRun s.log id ⟨program, sn.settings.arguments stage, text⟩ (.ok output) ∧
      found = Report.read sn.settings.marking text output

/-- The host has failed to do something that it was asked for. -/
def Failing (s : Service) : Prop := ∃ x ∈ s.log, x.failed = true

/-- Under snapshots that agree the same diagnostics are right. -/
theorem Accurate.agree {sn sn' : Snapshot} {id : Nat} {r : Record} {found : List Diagnostic}
    (h : s.Accurate sn id r found) (ha : sn.Agree sn') : s.Accurate sn' id r found := by
  unfold Accurate at h ⊢
  rw [← ha.means?]
  split at h
  · exact h
  next stage program hm =>
    obtain ⟨text, output, ht, hr, hf⟩ := h
    refine ⟨text, output, ht, ?_, ?_⟩
    · rwa [← ha.settings.arguments]
    · rwa [← ha.settings.marking]

end Service

end ShaderDiagnostics
