import ShaderDiagnostics.Proofs.Service.Provenance
import ShaderDiagnostics.Proofs.Service.Published
import ShaderDiagnostics.Proofs.Service.Replies

/-!
# Diagnostics that are asked for

A full report on a document is not older than the request that it answers (`Service.report_fresh`), however
the document and the settings have changed in the meantime, and whichever run of the validator it comes
from: one that was there, one that another job had started, or one of its own. Its text was taken when the
document's version was no older than at the request, and it follows from a snapshot of the settings whose
version is no older either.
-/

namespace ShaderDiagnostics.Service

variable {host : Host} {delivery : Delivery} {settings : Settings} {waits : Bool}
  {before between : List Event} {e : Event} {id : Nat} {r : Record} {token : Option Token}
  {found : List Diagnostic}

/-- **Freshness.** A request for diagnostics comes in for a document with a token, and later a poll of its
job answers it with a full report on the document. Then the report is named by that token; and there are
no diagnostics because the path belongs to no stage or there is no validator, or they are what the
validator reports on a text that the document had at a moment when its version was no older than that of
the token, all under the snapshot of a moment when the version of the settings was no older either. The
version of the document must not get around. -/
theorem report_fresh (h : Served (start host delivery settings waits) before e between id r (.full token found))
    (few : contentRises host delivery settings waits id
      (untilAnswer (start host delivery settings waits) before e between) + 1 < UInt32.size) :
    let t := session host delivery settings waits (before ++ [e])
    let all := untilAnswer (start host delivery settings waits) before e between
    token = some (t.tokenOf r) ∧
      ∃ m, Been (start host delivery settings waits) all m ∧
        (t.tokenOf r).settings ≤ m.settingsVersion ∧
        Derived (start host delivery settings waits) all (session host delivery settings waits all).log id
          r.path (t.tokenOf r).content m.snapshot found := by
  intro t all
  obtain ⟨name, r', n, v, hr', hv, covers, ended⟩ := h.fits
  refine ⟨name, ?_⟩
  have past : before ++ [e] <+: all :=
    ⟨between ++ [.polled ((start host delivery settings waits).after before).nextJob], by
      simp [all, untilAnswer]⟩
  obtain ⟨r₁, hr₁, path, -⟩ := (session_lasts past).records id r h.known.1
  obtain rfl := Option.some.inj (hr₁.symm.trans hr')
  obtain ⟨⟨m, been, version, snapshot⟩, -, -, derived⟩ := (session_traced few hr').validations n v hv
  obtain ⟨content, settingsVersion⟩ := Bool.and_eq_true_iff.1 covers
  have content : (t.tokenOf r).content ≤ v.version.content := of_decide_eq_true content
  have settingsVersion : (t.tokenOf r).settings ≤ v.version.settings := of_decide_eq_true settingsVersion
  refine ⟨m, been, by rwa [version] at settingsVersion, ?_⟩
  rw [← snapshot, ← path]
  exact (derived found ended).older content

/-! ### Answers that have been sent -/

/-- The report in the answer to a request for the diagnostics of a document. -/
def documentReport? (request : RequestId) : Outgoing → Option DocumentReport
  | .reply id (.document report) => if id = request then some report else none
  | _ => none

/-- A request has been answered with a report if that is what is found among the messages sent. -/
theorem replies_of_findSome? {s s' : Service} {request : RequestId} {report : DocumentReport}
    (sent : (s'.outbox.since s.outbox.sent.length).findSome? (documentReport? request) = some report) :
    Replies s s' request (.document report) := by
  obtain ⟨m, hm, h⟩ := List.exists_of_findSome?_eq_some sent
  unfold documentReport? at h
  split at h
  · split at h
    next same =>
      obtain rfl := Option.some.inj h
      exact same ▸ hm
    · cases h
  · cases h

/-- It can be seen that a record is known and that its path is the one that a request is for. -/
theorem known_of_any {s : Service} {p : Message.DocumentPull}
    (h : (p.uri.path?.any fun path => (s.registry.record? id).any fun r =>
      decide (s.registry.find? r.path = some id) && r.path.same path) = true) :
    ∃ path r, p.uri.path? = some path ∧ s.registry.Known id r ∧ r.path.same path = true := by
  obtain ⟨path, hp, h⟩ := (Option.any_eq_true _ _).1 h
  obtain ⟨r, hr, h⟩ := (Option.any_eq_true _ _).1 h
  simp only [Bool.and_eq_true, decide_eq_true_eq] at h
  exact ⟨path, r, hp, ⟨hr, h.1⟩, h.2⟩

/-- A request for a document has been answered with a report if that is found among the messages that are
sent when its job is polled. -/
theorem served_of_sent {s₀ : Service} {request : RequestId} {p : Message.DocumentPull}
    {report : DocumentReport}
    (known : (p.uri.path?.any fun path =>
      ((s₀.after (before ++ [.pulled request p])).registry.record? id).any fun r =>
        decide ((s₀.after (before ++ [.pulled request p])).registry.find? r.path = some id) &&
          r.path.same path) = true)
    (job : (s₀.after before).nextJob < (s₀.after (before ++ [.pulled request p])).nextJob)
    (sent : (((s₀.after (before ++ .pulled request p :: between)).poll
      (s₀.after before).nextJob).outbox.since
        (s₀.after (before ++ .pulled request p :: between)).outbox.sent.length).findSome?
          (documentReport? request) = some report) :
    ∃ r, Served s₀ before (.pulled request p) between id r report := by
  obtain ⟨path, r, hp, known, same⟩ := known_of_any known
  exact ⟨r, known, job, request, _, .document hp same, replies_of_findSome? sent⟩

/-- The editor asks for the diagnostics of the shader. -/
def asking : Event := .pulled (.number 1) ⟨shaderUri, none⟩

/-- The editor changes the shader. -/
def revising : List Event := [.edited shaderUri [⟨none, "y x".toList⟩] 2]

/-- What is wrong with a shader that has an unknown name in this column. -/
def fault (column : Nat) : List Diagnostic :=
  [⟨⟨⟨0, column⟩, ⟨0, column + 1⟩⟩, some .error, some "glslang", "'x' : undeclared identifier"⟩]

/-- A shader is edited after it has been asked for: the answer has the token of the request, and its text
is the new one. -/
theorem revised_fresh :
    let s₀ := start strictHost (.pull false) promptSettings false
    let all := untilAnswer s₀ [.opened shaderUri "x".toList 1] asking revising
    contentRises strictHost (.pull false) promptSettings false 0 all + 1 < UInt32.size ∧
      ∃ r, Served s₀ [.opened shaderUri "x".toList 1] asking revising 0 r (.full (some ⟨2, 0⟩) (fault 2)) ∧
        ∃ m, Been s₀ all m ∧ 0 ≤ m.settingsVersion ∧
          Derived s₀ all (s₀.after all).log 0 r.path 2 m.snapshot (fault 2) := by
  intro s₀ all
  have few : contentRises strictHost (.pull false) promptSettings false 0 all + 1 < UInt32.size := by
    decide +kernel
  obtain ⟨r, served⟩ : ∃ r, Served s₀ [.opened shaderUri "x".toList 1] asking revising 0 r
      (.full (some ⟨2, 0⟩) (fault 2)) :=
    served_of_sent (by decide +kernel) (by decide +kernel) (by decide +kernel)
  obtain ⟨name, m, been, settings, derived⟩ := report_fresh served few
  rw [← Option.some.inj name] at settings derived
  exact ⟨few, r, served, m, been, settings, derived⟩

end ShaderDiagnostics.Service
