import ShaderDiagnostics.Proofs.Cache.Slots
import ShaderDiagnostics.Proofs.Service.Standing
import ShaderDiagnostics.Service.Jobs

/-!
# Quiet changes

Most of what the service does on its own account changes nothing that tokens depend on: the settings, the
documents in the editor, and what is known under which path all stay, and so do the versions of records.
Only caches grow, the host is called, and the editor is told things (`Quiet`). Validations are of this
kind from their beginning to their end (`pollValidation_quiet`).
-/

namespace ShaderDiagnostics

/-- A record that is the same document in the same state, with caches that have grown. -/
structure Record.Grows (r r' : Record) : Prop where
  path : r'.path = r.path
  version : r'.version = r.version
  opened : r'.opened = r.opened
  texts : r.texts.Grows r'.texts
  results : r.results.Grows r'.results

theorem Record.Grows.refl (r : Record) : r.Grows r := ⟨rfl, rfl, rfl, .refl _, .refl _⟩

theorem Record.Grows.trans {r₁ r₂ r₃ : Record} (h₁ : r₁.Grows r₂) (h₂ : r₂.Grows r₃) : r₁.Grows r₃ :=
  ⟨h₂.path.trans h₁.path, h₂.version.trans h₁.version, h₂.opened.trans h₁.opened,
    h₁.texts.trans h₂.texts, h₁.results.trans h₂.results⟩

theorem Record.grows_results (r : Record) {c : Results} (h : r.results.Grows c) :
    r.Grows { r with results := c } :=
  ⟨rfl, rfl, rfl, .refl _, h⟩

theorem Record.grows_texts (r : Record) {c : Texts} (h : r.texts.Grows c) :
    r.Grows { r with texts := c } :=
  ⟨rfl, rfl, rfl, h, .refl _⟩

theorem Record.grows_advance (r : Record) : r.Grows r.advance := ⟨rfl, rfl, rfl, .refl _, .refl _⟩

theorem Record.grows_pollText (r : Record) (run : Nat) (closed : List Nat) :
    r.Grows (r.pollText run closed).1 := by
  unfold Record.pollText
  split
  · exact .refl r
  · split
    · exact .refl r
    · split
      · exact r.grows_texts (Cache.grows_finish _ _ _ _)
      · exact .refl r

theorem Record.grows_requestText (r : Record) (editor : Editor) (call : Pending (List Char)) :
    r.Grows (r.requestText editor call).1 := by
  have hg := Cache.grows_request Record.coversText r.texts r.version call
  unfold Record.requestText
  split
  · split <;> exact .refl r
  · split
    all_goals
      next h =>
        rw [h] at hg
        exact r.grows_texts hg

namespace Service

variable {s s' : Service}

@[simp] theorem record?_modifyRecord (s : Service) (id n : Nat) (f : Record → Record) :
    (s.modifyRecord id f).registry.record? n =
      if n = id then (s.registry.record? n).map f else s.registry.record? n :=
  Registry.record?_modify _ _ _ _

/-- The service has not changed but for caches that have grown, calls to the host and messages. -/
structure Quiet (s s' : Service) : Prop where
  host : s'.host = s.host
  delivery : s'.delivery = s.delivery
  settings : s'.settings = s.settings
  settingsVersion : s'.settingsVersion = s.settingsVersion
  validator : s'.validator = s.validator
  ready : s'.ready = s.ready
  editor : s'.editor = s.editor
  known : s'.registry.known = s.registry.known
  size : s'.registry.records.length = s.registry.records.length
  jobs : s'.jobs = s.jobs
  nextJob : s'.nextJob = s.nextJob
  log : ∀ x ∈ s.log, x ∈ s'.log
  records : ∀ id r, s.registry.record? id = some r →
    ∃ r', s'.registry.record? id = some r' ∧ r.Grows r'

/-- Time, gates, messages, notes and measurements do not matter to records. -/
theorem beside_quiet (s : Service) (clock : Nat) (closed : List Nat) (nextGate : Nat) (outbox : Outbox)
    (measurements : Measurements) {log : List Exchange} (h : ∀ x ∈ s.log, x ∈ log) :
    Quiet s { s with clock, closed, nextGate, outbox, measurements, log } where
  host := rfl
  delivery := rfl
  settings := rfl
  settingsVersion := rfl
  validator := rfl
  ready := rfl
  editor := rfl
  known := rfl
  size := rfl
  jobs := rfl
  nextJob := rfl
  log := h
  records _ r hr := ⟨r, hr, .refl r⟩

theorem outbox_quiet (s : Service) (outbox : Outbox) : Quiet s { s with outbox } :=
  beside_quiet s _ _ _ outbox _ fun _ hx => hx

theorem measure_quiet (s : Service) (measurements : Measurements) : Quiet s { s with measurements } :=
  beside_quiet s _ _ _ _ measurements fun _ hx => hx

theorem elapse_quiet (s : Service) (milliseconds : Nat) : Quiet s (s.elapse milliseconds) :=
  beside_quiet s _ _ _ _ _ fun _ hx => hx

theorem release_quiet (s : Service) (gate : Nat) : Quiet s (s.release gate) :=
  beside_quiet s _ _ _ _ _ fun _ hx => hx

namespace Quiet

theorem refl (s : Service) : Quiet s s :=
  beside_quiet s _ _ _ _ _ fun _ hx => hx

theorem trans {s₁ s₂ s₃ : Service} (h₁ : Quiet s₁ s₂) (h₂ : Quiet s₂ s₃) : Quiet s₁ s₃ where
  host := h₂.host.trans h₁.host
  delivery := h₂.delivery.trans h₁.delivery
  settings := h₂.settings.trans h₁.settings
  settingsVersion := h₂.settingsVersion.trans h₁.settingsVersion
  validator := h₂.validator.trans h₁.validator
  ready := h₂.ready.trans h₁.ready
  editor := h₂.editor.trans h₁.editor
  known := h₂.known.trans h₁.known
  size := h₂.size.trans h₁.size
  jobs := h₂.jobs.trans h₁.jobs
  nextJob := h₂.nextJob.trans h₁.nextJob
  log x hx := h₂.log x (h₁.log x hx)
  records id r hr := by
    obtain ⟨r₂, hr₂, g₁⟩ := h₁.records id r hr
    obtain ⟨r₃, hr₃, g₂⟩ := h₂.records id r₂ hr₂
    exact ⟨r₃, hr₃, g₁.trans g₂⟩

theorem find? (h : Quiet s s') (p : Path) : s'.registry.find? p = s.registry.find? p := by
  simp only [Registry.find?, h.known]

/-- Every record was there before. -/
theorem of_record? (h : Quiet s s') {id : Nat} {r' : Record} (hr : s'.registry.record? id = some r') :
    ∃ r, s.registry.record? id = some r ∧ r.Grows r' := by
  have hid : id < s.registry.records.length := h.size ▸ (List.getElem?_eq_some_iff.1 hr).1
  obtain ⟨r, hr'⟩ : ∃ r, s.registry.record? id = some r := ⟨_, List.getElem?_eq_getElem hid⟩
  obtain ⟨r'', hr'', g⟩ := h.records id r hr'
  rw [hr] at hr''
  cases hr''
  exact ⟨r, hr', g⟩

/-- Every record that is known was so before. -/
theorem of_known (h : Quiet s s') {id : Nat} {r' : Record} (hk : s'.registry.Known id r') :
    ∃ r, s.registry.Known id r ∧ r.Grows r' := by
  obtain ⟨r, hr, g⟩ := h.of_record? hk.1
  exact ⟨r, ⟨hr, by rw [← h.find?, ← g.path]; exact hk.2⟩, g⟩

theorem stays (h : Quiet s s') {id : Nat} {r : Record} (hk : s.registry.Known id r) :
    ∃ r', s'.registry.Known id r' ∧ r.Grows r' := by
  obtain ⟨r', hr', g⟩ := h.records id r hk.1
  exact ⟨r', ⟨hr', by rw [h.find?, g.path]; exact hk.2⟩, g⟩

theorem sound (h : Quiet s s') (hs : s.registry.Sound) : s'.registry.Sound := by
  refine ⟨by rw [h.known]; exact hs.apart, fun p id hp => ?_⟩
  rw [h.known] at hp
  obtain ⟨r, hr, hsame⟩ := hs.known p id hp
  obtain ⟨r', hr', g⟩ := h.records id r hr
  exact ⟨r', hr', g.path ▸ hsame⟩

theorem version (h : Quiet s s') (id : Nat) : s'.registry.version id = s.registry.version id := by
  cases hr : s.registry.record? id with
  | some r =>
    obtain ⟨r', hr', g⟩ := h.records id r hr
    rw [Registry.version_of_record? hr, Registry.version_of_record? hr', g.version]
  | none =>
    cases hr' : s'.registry.record? id with
    | none => exact Registry.version_congr (hr'.trans hr.symm)
    | some r' =>
      obtain ⟨r, hr₀, -⟩ := h.of_record? hr'
      rw [hr] at hr₀
      cases hr₀

theorem tokenOf (h : Quiet s s') {r r' : Record} (g : r.Grows r') : s'.tokenOf r' = s.tokenOf r := by
  simp only [Service.tokenOf, Record.token, g.version, h.settingsVersion]

theorem snapshot (h : Quiet s s') : s'.snapshot = s.snapshot := by
  simp only [Service.snapshot, h.settings, h.validator]

end Quiet

theorem modifyRecord_quiet (s : Service) {id : Nat} {f : Record → Record}
    (h : ∀ r, s.registry.record? id = some r → r.Grows (f r)) : Quiet s (s.modifyRecord id f) := by
  refine ⟨rfl, rfl, rfl, rfl, rfl, rfl, rfl, rfl, ?_, rfl, rfl, fun _ h => h, fun n r hr => ?_⟩
  · simp [modifyRecord, Registry.modify]
  · rw [record?_modifyRecord, hr]
    split
    next hn => exact ⟨f r, rfl, h r (hn ▸ hr)⟩
    · exact ⟨r, rfl, .refl r⟩

/-- Putting in place of a record one with caches that have grown. -/
theorem replace_quiet {id : Nat} {r r' : Record} (h : s.registry.record? id = some r) (g : r.Grows r') :
    Quiet s (s.modifyRecord id fun _ => r') := by
  refine modifyRecord_quiet s fun r₁ h₁ => ?_
  obtain rfl := Option.some.inj (h.symm.trans h₁)
  exact g

theorem publish_quiet (s : Service) (id : Nat) (found : List Diagnostic) :
    Quiet s (s.publish id found) := by
  unfold publish
  split
  · exact .refl s
  · split
    · split
      · exact .refl s
      · exact (modifyRecord_quiet s fun r _ => r.grows_advance).trans (outbox_quiet _ _)
    · exact .refl s

theorem noteCall_quiet (s : Service) (x : Exchange) (held : Bool) : Quiet s (s.noteCall x held) := by
  unfold noteCall
  split
  all_goals exact beside_quiet s _ _ _ _ _ fun _ hx => List.mem_cons_of_mem _ hx

theorem mem_log_noteCall (s : Service) (x : Exchange) (held : Bool) : x ∈ (s.noteCall x held).log := by
  unfold noteCall
  split <;> exact List.mem_cons_self

theorem setProgress_quiet (s : Service) (id run : Nat) (p : Progress) :
    Quiet s (s.setProgress id run p) :=
  modifyRecord_quiet s fun r _ => r.grows_results (Cache.grows_modifyWork _ _ _)

/-! ### Validations -/

/-- The end of a validation in the cache of its record. -/
theorem finish_quiet (s : Service) (id run : Nat) (outcome : Except ServiceError (List Diagnostic)) :
    Quiet s (s.modifyRecord id fun r =>
      { r with results := r.results.finish Token.covers run outcome }) :=
  modifyRecord_quiet s fun r _ => r.grows_results (Cache.grows_finish _ _ _ _)

theorem conclude_quiet (s : Service) (id run : Nat) (token : Token)
    (outcome : Except ServiceError (List Diagnostic)) : Quiet s (s.conclude id run token outcome) := by
  cases outcome with
  | error e => exact finish_quiet s id run (.error e)
  | ok found =>
    have said : Quiet s (if s.isCurrent id token then s.publish id found else s) := by
      split
      · exact publish_quiet s id found
      · exact .refl s
    exact said.trans (finish_quiet _ id run (.ok found))

theorem pollRun_quiet (s : Service) (id run : Nat) (token : Token) (sn : Snapshot) (text : List Char)
    (since : Nat) (call : Pending (List Char)) :
    Quiet s (s.pollRun id run token sn text since call) := by
  unfold pollRun
  split
  · split
    · exact conclude_quiet _ _ _ _ _
    · exact (measure_quiet s _).trans (conclude_quiet _ _ _ _ _)
  · exact .refl s

theorem invoke_quiet (s : Service) (id run : Nat) (token : Token) (sn : Snapshot) (stage : Stage)
    (program : Path) (text : List Char) :
    Quiet s (s.invoke id run token sn stage program text) :=
  ((noteCall_quiet _ _ _).trans (setProgress_quiet _ _ _ _)).trans (pollRun_quiet _ _ _ _ _ _ _ _)

theorem pollRead_quiet (s : Service) (id run : Nat) (token : Token) (sn : Snapshot) (stage : Stage)
    (program : Path) (read : Nat) :
    Quiet s (s.pollRead id run token sn stage program read) := by
  unfold pollRead
  split
  · exact .refl s
  next r hr =>
    have hg := r.grows_pollText read s.closed
    split
    all_goals
      next h =>
        rw [h] at hg
        first
        | exact (replace_quiet hr hg).trans (setProgress_quiet _ _ _ _)
        | exact (replace_quiet hr hg).trans (invoke_quiet _ _ _ _ _ _ _ _)
        | exact (replace_quiet hr hg).trans (conclude_quiet _ _ _ _ _)

theorem takeText_quiet (s : Service) (id run : Nat) (token : Token) (sn : Snapshot) (stage : Stage)
    (program : Path) : Quiet s (s.takeText id run token sn stage program) := by
  unfold takeText
  split
  · exact .refl s
  next r hr =>
    have hg := r.grows_requestText s.editor (s.call (s.host.read r.path) s.host.holdsReads)
    dsimp only
    split
    · exact invoke_quiet _ _ _ _ _ _ _ _
    · exact conclude_quiet _ _ _ _ _
    next r' read started h =>
      rw [h] at hg
      have noted : ∀ (v : Service) (x : Exchange) (held : Bool),
          Quiet v (if started then v.noteCall x held else v) := by
        intro v x held
        split
        · exact noteCall_quiet v x held
        · exact .refl v
      exact ((replace_quiet hr hg).trans (noted _ _ _)).trans (pollRead_quiet _ _ _ _ _ _ _ _)

/-- A validation that goes on is a quiet change. -/
theorem pollValidation_quiet (s : Service) (id run : Nat) : Quiet s (s.pollValidation id run) := by
  unfold pollValidation
  split
  · exact .refl s
  · split
    · exact .refl s
    · split
      · exact conclude_quiet _ _ _ _ _
      · split
        · exact takeText_quiet _ _ _ _ _ _ _
        · exact pollRead_quiet _ _ _ _ _ _ _ _
        · exact pollRun_quiet _ _ _ _ _ _ _ _

theorem join_quiet (s : Service) (id run job : Nat) : Quiet s (s.join id run job) :=
  modifyRecord_quiet s fun r _ => r.grows_results (Cache.grows_modifyWork _ _ _)

/-- What a poll comes to of a job that has not asked yet. -/
theorem pollInquiry_new {r : Record} {i : Inquiry} (unasked : i.run = none)
    (hr : s.registry.record? i.record = some r) (job : Nat) : s.pollInquiry job i =
      match r.results.request Token.covers i.token ⟨i.snapshot, .fresh, []⟩ with
      | (_, .completed found) => (s, i, some (.ok found))
      | (results, .joined run) =>
        ((s.modifyRecord i.record fun r => { r with results }).join i.record run job).await i run
      | (results, .started run) =>
        ((s.modifyRecord i.record fun r => { r with results }).join i.record run job).await i run := by
  unfold pollInquiry
  split
  next run asked => exact absurd (unasked.symm.trans asked) (by simp)
  next =>
    split
    next none => exact absurd (hr.symm.trans none) (by simp)
    next r' hr' =>
      obtain rfl := Option.some.inj (hr.symm.trans hr')
      exact rfl

/-- A job that asks for diagnostics goes on quietly. -/
theorem pollInquiry_quiet (s : Service) (job : Nat) (i : Inquiry) :
    Quiet s (s.pollInquiry job i).1 := by
  unfold pollInquiry
  split
  · exact pollValidation_quiet _ _ _
  · split
    · exact .refl s
    next r hr =>
      have hg := Cache.grows_request Token.covers r.results i.token ⟨i.snapshot, .fresh, []⟩
      have replace : ∀ {c : Results}, r.results.Grows c →
          Quiet s (s.modifyRecord i.record fun r => { r with results := c }) := by
        intro c hc
        refine modifyRecord_quiet s fun r₁ h₁ => ?_
        obtain rfl := Option.some.inj (hr.symm.trans h₁)
        exact r.grows_results hc
      split
      · exact .refl s
      all_goals
        next h =>
          rw [h] at hg
          exact ((replace hg).trans (join_quiet _ _ _ _)).trans (pollValidation_quiet _ _ _)

end Service

end ShaderDiagnostics
