import ShaderDiagnostics.Proofs.Cache.Latest
import ShaderDiagnostics.Proofs.Service.Quiet

/-!
# The upkeep of diagnostics

The invariant of a service that publishes diagnostics (`Service.Kept`). Whatever is under way or has ended
well for the *current* token of a record goes by the snapshot of the moment and by the text that the
document has at the moment, and diagnostics count for the document at all (`Service.RunCurrent`); a result
for the current token is what has been published last. About work for earlier tokens next to nothing is
said: whenever something changes that matters to a record, its token changes as well, and nothing has been
done yet for the new one.

There is one exception. When settings come in, documents leave the scope, and their diagnostics are taken
back one after another. The invariant names the records for which that is still to be done, by a predicate
`leaving` on their numbers.
-/

namespace ShaderDiagnostics

theorem Token.covers_antisymm (a b : Token) (hab : a.covers b = true) (hba : b.covers a = true) :
    a = b := by
  obtain ⟨ac, as⟩ := a
  obtain ⟨bc, bs⟩ := b
  simp only [covers, Bool.and_eq_true, decide_eq_true_eq] at hab hba
  rw [UInt32.le_antisymm hba.1 hab.1, UInt32.le_antisymm hba.2 hab.2]

/-- A read of a text from disk. -/
abbrev ReadRun := Run UInt32 (Pending (List Char)) (List Char) ServiceError

/-- A validation of a document. -/
abbrev ValidationRun := Run Token Validation (List Diagnostic) ServiceError

namespace Service

variable {leaving leaving' : Nat → Prop} {s s' : Service}

/-- Diagnostics of the record count: it is the one known under its path, the host can run something, and
the settings are known and want them, or they have yet to be taken back. -/
structure Live (leaving : Nat → Prop) (s : Service) (id : Nat) (r : Record) : Prop where
  found : s.registry.find? r.path = some id
  capable : s.host.embedded = false
  ready : s.ready = true
  wanted : s.settings.wants r.opened = true ∨ leaving id

/-- What is known of a read for a record: what it answers has been noted when it started. -/
structure ReadKept (s : Service) (id : Nat) (p : Path) (version : UInt32) (t : ReadRun) : Prop where
  version : t.version ≤ version
  logged : HasRead s.log id p t.version t.work.outcome
  outcome : ∀ o, t.outcome = some o → o = t.work.outcome

/-- What is known of a validation of a record: if it runs the validator, then that has been noted, and if
it has failed, then the host has failed. -/
structure RunKept (s : Service) (id : Nat) (p : Path) (v : ValidationRun) : Prop where
  asked : ∀ text since call, v.work.progress = .running text since call →
    ∃ stage program, v.work.snapshot.means? p = some (stage, program) ∧
      HasRun s.log id ⟨program, v.work.snapshot.settings.arguments stage, text⟩ call.outcome
  failed : ∀ e, v.outcome = some (.error e) → s.Failing

/-- What is known of a validation for the current token of a record. -/
structure RunCurrent (leaving : Nat → Prop) (s : Service) (id : Nat) (r : Record) (v : ValidationRun) :
    Prop where
  live : s.Live leaving id r
  agrees : v.work.snapshot.Agree s.snapshot
  /-- It waits for a read of the text for the version that the document has now. -/
  reading : v.outcome = none → ∀ m, v.work.progress = .reading m →
    r.opened = false ∧ ∃ t, r.texts.run? m = some t ∧ t.version = r.version
  /-- It runs the validator on the text that the document has now. -/
  running : v.outcome = none → ∀ text since call, v.work.progress = .running text since call →
    s.HasText id r text
  accurate : ∀ found, v.outcome = some (.ok found) → s.Accurate v.work.snapshot id r found
  published : ∀ found, v.outcome = some (.ok found) →
    ∀ uri, Uri.ofPath? r.path = some uri → s.last? uri = some found

/-- What holds of a record. -/
structure RecordKept (leaving : Nat → Prop) (s : Service) (id : Nat) (r : Record) : Prop where
  texts : r.texts.Sound Record.coversText
  results : r.results.Sound Token.covers
  latest : r.results.Latest Token.covers (s.tokenOf r)
  reads : ∀ m t, r.texts.run? m = some t → s.ReadKept id r.path r.version t
  runs : ∀ n v, r.results.run? n = some v → s.RunKept id r.path v
  current : ∀ n v, r.results.run? n = some v → v.version = s.tokenOf r → s.RunCurrent leaving id r v
  /-- A document that is open is known and in the editor. -/
  opened : r.opened = true →
    s.registry.find? r.path = some id ∧ ∃ text, s.editor.text? r.path = some text

/-- What holds of a job's request for the diagnostics of a record. -/
structure InquiryKept (leaving : Nat → Prop) (s : Service) (i : Inquiry) (r : Record) : Prop where
  old : (s.tokenOf r).covers i.token = true
  run : ∀ n, i.run = some n → ∃ v, r.results.run? n = some v ∧ v.version.covers i.token = true
  current : i.token = s.tokenOf r → s.Live leaving i.record r ∧ i.snapshot.Agree s.snapshot

/-- What is shown for a URI is that of a record for which diagnostics count. -/
def Owned (leaving : Nat → Prop) (s : Service) : Prop :=
  ∀ uri found, s.last? uri = some found → found ≠ [] →
    ∃ id r, s.registry.record? id = some r ∧ s.Live leaving id r ∧ Uri.ofPath? r.path = some uri

/-- What holds of a job: it analyzes a record. -/
def JobKept (leaving : Nat → Prop) (s : Service) (job : Job) : Prop :=
  ∃ delay i r, job = .analysis delay i ∧ s.registry.record? i.record = some r ∧ s.InquiryKept leaving i r

/-- The invariant of a service that publishes diagnostics, but for records that are leaving the scope. -/
structure Kept (leaving : Nat → Prop) (s : Service) : Prop where
  push : s.delivery.isPush = true
  registry : s.registry.Sound
  records : ∀ id r, s.registry.record? id = some r → s.RecordKept leaving id r
  jobs : ∀ j ∈ s.jobs, s.JobKept leaving j.2
  distinct : (s.jobs.map (·.1)).Nodup
  fresh : ∀ j ∈ s.jobs, j.1 < s.nextJob
  owned : s.Owned leaving

/-! ### What changes around a record -/

/-- Nothing changes around a record that matters to what is done for its current token. -/
structure Around (leaving leaving' : Nat → Prop) (s s' : Service) (id : Nat) (r : Record) : Prop where
  version : s'.settingsVersion = s.settingsVersion
  log : ∀ x ∈ s.log, x ∈ s'.log
  live : s.Live leaving id r → s'.Live leaving' id r
  agrees : s.Live leaving id r → s.snapshot.Agree s'.snapshot
  known : s.registry.find? r.path = some id →
    s'.registry.find? r.path = some id ∧ s'.editor.text? r.path = s.editor.text? r.path

theorem Around.tokenOf {id : Nat} {r : Record} (a : Around leaving leaving' s s' id r) (r' : Record) :
    s'.tokenOf r' = s.tokenOf r' := by
  simp only [Service.tokenOf, Record.token, a.version]

theorem Around.opened {id : Nat} {r : Record} (a : Around leaving leaving' s s' id r)
    (h : s.registry.find? r.path = some id ∧ ∃ text, s.editor.text? r.path = some text) :
    s'.registry.find? r.path = some id ∧ ∃ text, s'.editor.text? r.path = some text := by
  obtain ⟨hf, text, ht⟩ := h
  obtain ⟨hf', ht'⟩ := a.known hf
  exact ⟨hf', text, ht'.trans ht⟩

/-- Nothing has changed around a record but the answers of the host, the editor and what is leaving. -/
theorem Around.of_same {id : Nat} {r : Record} (version : s'.settingsVersion = s.settingsVersion)
    (log : s'.log = s.log) (embedded : s'.host.embedded = s.host.embedded) (ready : s'.ready = s.ready)
    (settings : s'.settings = s.settings) (validator : s'.validator = s.validator)
    (known : s.registry.find? r.path = some id →
      s'.registry.find? r.path = some id ∧ s'.editor.text? r.path = s.editor.text? r.path)
    (mono : s.registry.find? r.path = some id → leaving id → leaving' id) :
    Around leaving leaving' s s' id r where
  version := version
  log _ hx := log.symm ▸ hx
  live l := ⟨(known l.found).1, embedded.trans l.capable, ready.trans l.ready,
    settings.symm ▸ l.wanted.imp_right (mono l.found)⟩
  agrees _ := by
    rw [Service.snapshot, Service.snapshot, settings, validator]
    exact .refl _
  known := known

theorem Around.refl (leaving : Nat → Prop) (s : Service) (id : Nat) (r : Record) :
    Around leaving leaving s s id r :=
  .of_same rfl rfl rfl rfl rfl rfl (fun hf => ⟨hf, rfl⟩) fun _ hl => hl

theorem Quiet.around (q : Quiet s s') (leaving : Nat → Prop) (id : Nat) (r : Record) :
    Around leaving leaving s s' id r where
  version := q.settingsVersion
  log := q.log
  live l := ⟨(q.find? _).trans l.found, q.host ▸ l.capable, q.ready.trans l.ready,
    by rw [q.settings]; exact l.wanted⟩
  agrees _ := q.snapshot ▸ .refl _
  known h := ⟨(q.find? _).trans h, by rw [q.editor]⟩

theorem Live.grows {id : Nat} {r r' : Record} (h : s.Live leaving id r) (g : r.Grows r') :
    s.Live leaving id r' :=
  ⟨g.path ▸ h.found, h.capable, h.ready, g.opened ▸ h.wanted⟩

theorem Failing.mono (h : s.Failing) (hl : ∀ x ∈ s.log, x ∈ s'.log) : s'.Failing := by
  obtain ⟨x, hx, hf⟩ := h
  exact ⟨x, hl x hx, hf⟩

theorem ReadKept.mono {id : Nat} {p : Path} {version version' : UInt32} {t : ReadRun}
    (h : s.ReadKept id p version t) (hl : ∀ x ∈ s.log, x ∈ s'.log) (hv : version ≤ version') :
    s'.ReadKept id p version' t :=
  ⟨UInt32.le_trans h.version hv, h.logged.mono hl, h.outcome⟩

theorem RunKept.mono {id : Nat} {p : Path} {v : ValidationRun} (h : s.RunKept id p v)
    (hl : ∀ x ∈ s.log, x ∈ s'.log) : s'.RunKept id p v where
  asked text since call hp := by
    obtain ⟨stage, program, hm, hx⟩ := h.asked text since call hp
    exact ⟨stage, program, hm, hx.mono hl⟩
  failed e he := (h.failed e he).mono hl

theorem HasText.around {id : Nat} {r r' : Record} {text : List Char} (h : s.HasText id r text)
    (a : Around leaving leaving' s s' id r) (g : r.Grows r') (hf : s.registry.find? r.path = some id) :
    s'.HasText id r' text := by
  unfold HasText at h ⊢
  rw [g.opened, g.path, g.version, (a.known hf).2]
  split
  next ho => rwa [if_pos ho] at h
  next ho =>
    rw [if_neg ho] at h
    exact h.mono a.log

theorem Accurate.around {id : Nat} {sn : Snapshot} {r r' : Record} {found : List Diagnostic}
    (h : s.Accurate sn id r found) (a : Around leaving leaving' s s' id r) (g : r.Grows r')
    (hf : s.registry.find? r.path = some id) : s'.Accurate sn id r' found := by
  unfold Accurate at h ⊢
  rw [g.path]
  split at h
  · exact h
  · obtain ⟨text, output, ht, hx, he⟩ := h
    exact ⟨text, output, ht.around a g hf, hx.mono a.log, he⟩

/-- A validation for the current token is as good as before, if what has been published last is. -/
theorem RunCurrent.around {id : Nat} {r r' : Record} {v : ValidationRun}
    (h : s.RunCurrent leaving id r v) (a : Around leaving leaving' s s' id r) (g : r.Grows r')
    (said : ∀ found, v.outcome = some (.ok found) →
      ∀ uri, Uri.ofPath? r.path = some uri → s'.last? uri = s.last? uri) :
    s'.RunCurrent leaving' id r' v where
  live := (a.live h.live).grows g
  agrees := h.agrees.trans (a.agrees h.live)
  reading ho m hm := by
    obtain ⟨hc, t, ht, hv⟩ := h.reading ho m hm
    obtain ⟨t', ht', hv', -⟩ := g.texts m t ht
    exact ⟨g.opened.trans hc, t', ht', (hv'.trans hv).trans g.version.symm⟩
  running ho text since call hp := (h.running ho text since call hp).around a g h.live.found
  accurate found ho := (h.accurate found ho).around a g h.live.found
  published found ho uri hu := by
    rw [g.path] at hu
    exact (said found ho uri hu).trans (h.published found ho uri hu)

/-- A record that stays but for the number and the display of its diagnostics. -/
theorem RecordKept.around {id : Nat} {r : Record} (h : s.RecordKept leaving id r)
    (a : Around leaving leaving' s s' id r)
    (said : s.Live leaving id r → ∀ uri, Uri.ofPath? r.path = some uri → s'.last? uri = s.last? uri)
    (sequence : Int32) (display : Option Token) :
    s'.RecordKept leaving' id { r with sequence, display } where
  texts := h.texts
  results := h.results
  latest := (a.tokenOf r).symm ▸ h.latest
  reads m t ht := (h.reads m t ht).mono a.log (UInt32.le_refl _)
  runs n v hv := (h.runs n v hv).mono a.log
  current n v hv ht := by
    have hc := h.current n v hv (ht.trans (a.tokenOf r))
    exact hc.around a ⟨rfl, rfl, rfl, .refl _, .refl _⟩ fun _ _ => said hc.live
  opened ho := a.opened (h.opened ho)

/-- A record with other results. -/
theorem RecordKept.withResults {id : Nat} {r : Record} (h : s.RecordKept leaving id r)
    (a : Around leaving leaving s s' id r) {c : Results} (sound : c.Sound Token.covers)
    (latest : c.Latest Token.covers (s.tokenOf r)) (grows : r.results.Grows c)
    (runs : ∀ n v, c.run? n = some v → s'.RunKept id r.path v)
    (current : ∀ n v, c.run? n = some v → v.version = s.tokenOf r → s'.RunCurrent leaving id r v)
    (sequence : Int32) : s'.RecordKept leaving id { r with results := c, sequence } where
  texts := h.texts
  results := sound
  latest := (a.tokenOf r).symm ▸ latest
  reads m t ht := (h.reads m t ht).mono a.log (UInt32.le_refl _)
  runs := runs
  current n v hv ht := by
    have ht' := ht.trans (a.tokenOf r)
    exact (current n v hv ht').around (.refl leaving s' id r) ⟨rfl, rfl, rfl, .refl _, grows⟩
      fun _ _ _ _ => rfl
  opened ho := a.opened (h.opened ho)

/-- A record with other texts. -/
theorem RecordKept.withTexts {id : Nat} {r : Record} (h : s.RecordKept leaving id r)
    (a : Around leaving leaving s s' id r) (same : s'.published = s.published) {c : Texts}
    (sound : c.Sound Record.coversText) (grows : r.texts.Grows c)
    (reads : ∀ m t, c.run? m = some t → s'.ReadKept id r.path r.version t) :
    s'.RecordKept leaving id { r with texts := c } where
  texts := sound
  results := h.results
  latest := (a.tokenOf r).symm ▸ h.latest
  reads := reads
  runs n v hv := (h.runs n v hv).mono a.log
  current n v hv ht :=
    (h.current n v hv (ht.trans (a.tokenOf r))).around a ⟨rfl, rfl, rfl, grows, .refl _⟩
      fun _ _ uri _ => last?_of_published same uri
  opened ho := a.opened (h.opened ho)

/-! ### Quiet changes -/

theorem InquiryKept.around {i : Inquiry} {r r' : Record} (h : s.InquiryKept leaving i r)
    (a : Around leaving leaving' s s' i.record r) (g : r.Grows r') : s'.InquiryKept leaving' i r' where
  old := by
    rw [a.tokenOf]
    simpa only [tokenOf, Record.token, g.version] using h.old
  run n hn := by
    obtain ⟨v, hv, hc⟩ := h.run n hn
    obtain ⟨v', hv', he, -⟩ := g.results n v hv
    exact ⟨v', hv', he ▸ hc⟩
  current ht := by
    rw [a.tokenOf] at ht
    obtain ⟨hl, ha⟩ := h.current (by simpa only [tokenOf, Record.token, g.version] using ht)
    exact ⟨(a.live hl).grows g, ha.trans (a.agrees hl)⟩

theorem JobKept.quiet {job : Job} (h : s.JobKept leaving job) (q : Quiet s s') :
    s'.JobKept leaving job := by
  obtain ⟨delay, i, r, rfl, hr, hi⟩ := h
  obtain ⟨r', hr', g⟩ := q.records i.record r hr
  exact ⟨delay, i, r', rfl, hr', hi.around (q.around leaving i.record r) g⟩

theorem Owned.quiet (h : s.Owned leaving) (q : Quiet s s') (same : s'.published = s.published) :
    s'.Owned leaving := by
  intro uri found hu hne
  obtain ⟨id, r, hr, hl, hp⟩ := h uri found ((last?_of_published same uri).symm.trans hu) hne
  obtain ⟨r', hr', g⟩ := q.records id r hr
  exact ⟨id, r', hr', ((q.around leaving id r).live hl).grows g, g.path ▸ hp⟩

/-- After a quiet change the records have to be looked at, and what is shown. -/
theorem Kept.quiet (k : s.Kept leaving) (q : Quiet s s')
    (records : ∀ id r, s'.registry.record? id = some r → s'.RecordKept leaving id r)
    (owned : s'.Owned leaving) : s'.Kept leaving where
  push := q.delivery ▸ k.push
  registry := q.sound k.registry
  records := records
  jobs j hj := (k.jobs j (q.jobs ▸ hj)).quiet q
  distinct := q.jobs ▸ k.distinct
  fresh j hj := q.nextJob ▸ k.fresh j (q.jobs ▸ hj)
  owned := owned

/-- A quiet change that leaves the records and what is shown alone. -/
theorem Kept.aside (k : s.Kept leaving) (q : Quiet s s') (hr : s'.registry = s.registry)
    (same : s'.published = s.published) : s'.Kept leaving :=
  k.quiet q
    (fun id r h => (k.records id r (hr ▸ h)).around (q.around leaving id r)
      (fun _ uri _ => last?_of_published same uri) r.sequence r.display)
    (k.owned.quiet q same)

/-- A change of the caches of one record, which leaves what is shown alone. -/
theorem Kept.replace (k : s.Kept leaving) {id : Nat} {r r' : Record}
    (hr : s.registry.record? id = some r) (g : r.Grows r')
    (kept : (s.modifyRecord id fun _ => r').RecordKept leaving id r') :
    (s.modifyRecord id fun _ => r').Kept leaving := by
  have q := replace_quiet hr g
  refine k.quiet q (fun n r₁ h₁ => ?_) (k.owned.quiet q rfl)
  rw [record?_modifyRecord] at h₁
  split at h₁
  next hn =>
    subst hn
    rw [hr] at h₁
    cases h₁
    exact kept
  · exact (k.records n r₁ h₁).around (q.around leaving n r₁) (fun _ uri _ => rfl) r₁.sequence r₁.display

theorem modifyRecord_eq {id : Nat} {r : Record} (hr : s.registry.record? id = some r)
    (f : Record → Record) : s.modifyRecord id f = s.modifyRecord id fun _ => f r := by
  have hr' : s.registry.records[id]? = some r := hr
  simp only [modifyRecord, Registry.modify, List.modify_eq_set_getElem?, hr']
  rfl

end Service

end ShaderDiagnostics
