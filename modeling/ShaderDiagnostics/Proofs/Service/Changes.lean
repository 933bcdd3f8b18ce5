import ShaderDiagnostics.Proofs.Service.Polling
import ShaderDiagnostics.Service.Events

/-!
# Changes of documents and settings keep house

The changes that events are made of: a path gets a record (`Kept.ensure`), a document gets another text
and with it a new token (`Kept.touch`), its diagnostics are taken back (`Kept.retract`), its record is
forgotten (`Kept.forget`), the settings are replaced (`Kept.replaceSettings`), and an analysis is asked
for (`Kept.analyze`). Nothing goes by a token that is new (`Service.Unused`), and it is only then that
diagnostics are taken back and records are forgotten.
-/

namespace ShaderDiagnostics

/-! ### New tokens -/

theorem Token.covers_content {m n : UInt32} (h : m ≤ n) (k : UInt32) :
    Token.covers ⟨n, k⟩ ⟨m, k⟩ = true := by
  simp [Token.covers, h]

theorem Token.not_covers_content {m n : UInt32} (h : m < n) (k : UInt32) :
    Token.covers ⟨m, k⟩ ⟨n, k⟩ = false := by
  simp [Token.covers, h]

theorem Token.covers_settings {m n : UInt32} (h : m ≤ n) (k : UInt32) :
    Token.covers ⟨k, n⟩ ⟨k, m⟩ = true := by
  simp [Token.covers, h]

theorem Token.not_covers_settings {m n : UInt32} (h : m < n) (k : UInt32) :
    Token.covers ⟨k, m⟩ ⟨k, n⟩ = false := by
  simp [Token.covers, h]

/-- Once a later token is the latest one, no run has been started for it. -/
theorem Token.raise {c : Results} {t t' : Token} (h : c.Latest Token.covers t)
    (up : t'.covers t = true) (new : t.covers t' = false) :
    c.Latest Token.covers t' ∧ ∀ n v, c.run? n = some v → v.version ≠ t' := by
  refine ⟨h.raise (fun v hv => Token.covers_trans up hv) new, ?_⟩
  rintro n v hv rfl
  rw [h.bound n v hv] at new
  cases new

/-- The record of a document with another text, which the editor may have open. -/
def Record.moved (r : Record) (opened : Bool) : Record :=
  { r with opened, version := r.version + 1 }

namespace Service

/-- No record is leaving the scope. -/
abbrev nobody : Nat → Prop := fun _ => False

variable {leaving leaving' : Nat → Prop} {s s' : Service} {id : Nat} {r : Record}

/-- A record whose token is new. -/
theorem RecordKept.unused (h : s.RecordKept leaving id r) (r' : Record) (log : ∀ x ∈ s.log, x ∈ s'.log)
    (path : r'.path = r.path) (version : r.version ≤ r'.version) (texts : r'.texts = r.texts)
    (results : r'.results = r.results) (latest : r.results.Latest Token.covers (s'.tokenOf r'))
    (unused : ∀ n v, r.results.run? n = some v → v.version ≠ s'.tokenOf r')
    (opened : r'.opened = true →
      s'.registry.find? r.path = some id ∧ ∃ text, s'.editor.text? r.path = some text) :
    s'.RecordKept leaving' id r' where
  texts := texts ▸ h.texts
  results := results ▸ h.results
  latest := results ▸ latest
  reads m t ht := path ▸ (h.reads m t (texts ▸ ht)).mono log version
  runs n v hv := path ▸ (h.runs n v (results ▸ hv)).mono log
  current n v hv ht := absurd ht (unused n v (results ▸ hv))
  opened ho := path ▸ opened ho

/-- Nothing goes by the token of a record yet. -/
structure Unused (s : Service) (id : Nat) (r : Record) : Prop where
  runs : ∀ n v, r.results.run? n = some v → v.version ≠ s.tokenOf r
  jobs : ∀ j delay i, (j, .analysis delay i) ∈ s.jobs → i.record = id → i.token ≠ s.tokenOf r

theorem Unused.same {r' : Record} (u : s.Unused id r) (results : r'.results = r.results)
    (jobs : s'.jobs = s.jobs) (token : s'.tokenOf r' = s.tokenOf r) : s'.Unused id r' where
  runs := results ▸ token.symm ▸ u.runs
  jobs j delay i hj := token.symm ▸ u.jobs j delay i (jobs ▸ hj)

/-- A request that goes by an earlier token than the one that has become new. -/
theorem InquiryKept.unused {i : Inquiry} {r' : Record} (h : s.InquiryKept leaving i r)
    (results : r'.results = r.results) (up : (s'.tokenOf r').covers (s.tokenOf r) = true)
    (new : (s.tokenOf r).covers (s'.tokenOf r') = false) : s'.InquiryKept leaving' i r' where
  old := Token.covers_trans up h.old
  run n hn := results ▸ h.run n hn
  current ht := by
    rw [← ht, h.old] at new
    cases new

theorem Kept.unused (k : s.Kept leaving) (hr : s.registry.record? id = some r) (r' : Record)
    (results : r'.results = r.results) (jobs : s'.jobs = s.jobs)
    (up : (s'.tokenOf r').covers (s.tokenOf r) = true)
    (new : (s.tokenOf r).covers (s'.tokenOf r') = false) : s'.Unused id r' := by
  refine ⟨results ▸ (Token.raise (k.records id r hr).latest up new).2, fun j delay i hj hi ht => ?_⟩
  obtain ⟨delay', i', r₁, he, h₁, hk⟩ := k.jobs _ (jobs ▸ hj)
  cases he
  obtain rfl := Option.some.inj ((hi ▸ h₁).symm.trans hr)
  rw [← ht, hk.old] at new
  cases new

theorem Live.wants (h : s.Live nobody id r) : s.settings.wants r.opened = true :=
  h.wanted.elim (fun hw => hw) False.elim

theorem Live.inScope (h : s.Live nobody id r) : s.inScope r = true := by
  rw [inScope_eq, h.capable, h.wants]
  rfl

/-! ### One record -/

/-- A change that concerns one record: it has to be looked at, and nothing new is shown for it. -/
theorem Kept.renew (k : s.Kept leaving) (hr : s.registry.record? id = some r) (r' : Record)
    (delivery : s'.delivery = s.delivery) (registry : s'.registry.Sound) (jobs : s'.jobs = s.jobs)
    (nextJob : s'.nextJob = s.nextJob)
    (record : ∀ n, s'.registry.record? n = if n = id then some r' else s.registry.record? n)
    (around : ∀ n r₁, s.registry.record? n = some r₁ → n ≠ id → Around leaving leaving' s s' n r₁)
    (said : ∀ n r₁, s.registry.record? n = some r₁ → n ≠ id → s.Live leaving n r₁ →
      ∀ uri, Uri.ofPath? r₁.path = some uri → s'.last? uri = s.last? uri)
    (kept : s'.RecordKept leaving' id r')
    (inquiry : ∀ j delay i, (j, .analysis delay i) ∈ s.jobs → i.record = id → s.InquiryKept leaving i r →
      s'.InquiryKept leaving' i r')
    (shown : ∀ uri, s'.last? uri = s.last? uri ∨ s'.last? uri = some [])
    (own : ∀ uri found, Uri.ofPath? r.path = some uri → s'.last? uri = some found → found ≠ [] →
      s.Live leaving id r → s'.Live leaving' id r' ∧ r'.path = r.path) : s'.Kept leaving' := by
  refine ⟨delivery ▸ k.push, registry, fun n r₁ h₁ => ?_, fun j hj => ?_, jobs ▸ k.distinct,
    fun j hj => nextJob ▸ k.fresh j (jobs ▸ hj), fun uri found hu hne => ?_⟩
  · rw [record] at h₁
    split at h₁
    next hn =>
      cases h₁
      exact hn ▸ kept
    next hn =>
      exact (k.records n r₁ h₁).around (around n r₁ h₁ hn) (said n r₁ h₁ hn) r₁.sequence r₁.display
  · obtain ⟨delay, i, r₁, he, h₁, hi⟩ := k.jobs j (jobs ▸ hj)
    by_cases hn : i.record = id
    · obtain rfl := Option.some.inj ((hn ▸ h₁).symm.trans hr)
      exact ⟨delay, i, r', he, by rw [record, if_pos hn], inquiry j.1 delay i (he ▸ jobs ▸ hj) hn hi⟩
    · exact ⟨delay, i, r₁, he, by rwa [record, if_neg hn], hi.around (around _ r₁ h₁ hn) (.refl r₁)⟩
  · rcases shown uri with same | empty
    · obtain ⟨n, r₁, h₁, hl, hp⟩ := k.owned uri found (same.symm.trans hu) hne
      by_cases hn : n = id
      · subst hn
        obtain rfl := Option.some.inj (h₁.symm.trans hr)
        obtain ⟨hl', hp'⟩ := own uri found hp hu hne hl
        exact ⟨n, r', by rw [record, if_pos rfl], hl', hp' ▸ hp⟩
      · exact ⟨n, r₁, by rwa [record, if_neg hn], (around n r₁ h₁ hn).live hl, hp⟩
    · exact absurd (Option.some.inj (hu.symm.trans empty)) hne

/-! ### A record for a path -/

theorem around_ensure (k : s.Kept leaving) (hr : s.registry.record? id = some r) (p : Path) :
    Around leaving leaving s (s.ensure p).1 id r := by
  have found : s.registry.find? r.path = some id → (s.ensure p).1.registry.find? r.path = some id :=
    fun hf => (Registry.Known.ensure ⟨hr, hf⟩ k.registry p).2
  exact .of_same rfl rfl rfl rfl rfl rfl (fun hf => ⟨found hf, rfl⟩) fun _ hl => hl

theorem recordKept_new (s : Service) (id : Nat) (p : Path) : s.RecordKept leaving id (Record.new p) where
  texts := Cache.sound_empty
  results := Cache.sound_empty
  latest := .empty _
  reads _ _ ht := by cases ht
  runs _ _ hv := by cases hv
  current _ _ hv := by cases hv
  opened ho := by cases ho

theorem Kept.ensure (k : s.Kept leaving) (p : Path) : (s.ensure p).1.Kept leaving where
  push := k.push
  registry := k.registry.ensure p
  records id r hr := by
    rcases Registry.record?_ensure hr with hr | ⟨-, -, -, rfl⟩
    · exact (k.records id r hr).around (around_ensure k hr p) (fun _ _ _ => rfl) r.sequence r.display
    · exact recordKept_new _ id p
  jobs j hj := by
    obtain ⟨delay, i, r, he, hr, hi⟩ := k.jobs j hj
    exact ⟨delay, i, r, he, Registry.record?_ensure_of_record? hr p,
      hi.around (around_ensure k hr p) (.refl r)⟩
  distinct := k.distinct
  fresh := k.fresh
  owned uri found hu hne := by
    obtain ⟨id, r, hr, hl, hp⟩ := k.owned uri found hu hne
    exact ⟨id, r, Registry.record?_ensure_of_record? hr p, (around_ensure k hr p).live hl, hp⟩

/-! ### Another text -/

/-- The service after a document has got another text, in the editor or on disk. -/
def touch (s : Service) (id : Nat) (editor : Editor) (opened : Bool) : Service :=
  { s with editor }.modifyRecord id fun r => r.moved opened

theorem record?_touch (hr : s.registry.record? id = some r) (editor : Editor) (opened : Bool) (n : Nat) :
    (s.touch id editor opened).registry.record? n =
      if n = id then some (r.moved opened) else s.registry.record? n := by
  rw [touch, record?_modifyRecord]
  split
  next hn =>
    rw [hn, show ({ s with editor } : Service).registry.record? id = some r from hr]
    rfl
  · rfl

/-- The token of the document is new. -/
theorem touch_new (s : Service) (id : Nat) (room : r.version < r.version + 1) (editor : Editor)
    (opened : Bool) :
    ((s.touch id editor opened).tokenOf (r.moved opened)).covers (s.tokenOf r) = true ∧
      (s.tokenOf r).covers ((s.touch id editor opened).tokenOf (r.moved opened)) = false :=
  ⟨Token.covers_content (UInt32.le_of_lt room) _, Token.not_covers_content room _⟩

/-- A document has another text, and its record a new version. -/
theorem Kept.touch (k : s.Kept leaving) (known : s.registry.Known id r) (editor : Editor) (opened : Bool)
    (room : r.version < r.version + 1)
    (far : ∀ q, r.path.same q = false → editor.text? q = s.editor.text? q)
    (text : opened = true → ∃ text, editor.text? r.path = some text)
    (out : s.settings.wants r.opened = true → s.settings.wants opened = true ∨ leaving' id)
    (mono : ∀ n, leaving n → leaving' n) : (s.touch id editor opened).Kept leaving' := by
  have hr := known.1
  obtain ⟨up, new⟩ := touch_new s id room editor opened
  obtain ⟨latest, unused⟩ := Token.raise (k.records id r hr).latest up new
  refine k.renew hr (r.moved opened) rfl (k.registry.modify id fun _ => rfl) rfl rfl
    (record?_touch hr editor opened) (fun n r₁ h₁ hn => ?_) (fun _ _ _ _ _ _ _ => rfl) ?_
    (fun _ _ _ _ _ hi => hi.unused rfl up new) (fun _ => Or.inl rfl) fun _ _ _ _ _ hl => ?_
  · refine .of_same rfl rfl rfl rfl rfl rfl (fun hf => ⟨hf, far _ ?_⟩) fun _ => mono n
    rw [Bool.eq_false_iff]
    exact fun hs => hn (Registry.Sound.unique ⟨h₁, hf⟩ known (by rwa [Path.same_comm]))
  · exact (k.records id r hr).unused (r.moved opened) (fun _ hx => hx) rfl (UInt32.le_of_lt room) rfl rfl
      latest unused fun ho => ⟨known.2, text ho⟩
  · exact ⟨⟨hl.found, hl.capable, hl.ready,
      hl.wanted.elim out fun h => Or.inr (mono id h)⟩, rfl⟩

theorem Kept.unused_touch (k : s.Kept leaving) (hr : s.registry.record? id = some r)
    (room : r.version < r.version + 1) (editor : Editor) (opened : Bool) :
    (s.touch id editor opened).Unused id (r.moved opened) := by
  obtain ⟨up, new⟩ := touch_new s id room editor opened
  exact k.unused hr (r.moved opened) rfl rfl up new

/-! ### Taking back -/

theorem show_quiet (s : Service) (id : Nat) (token : Option Token) : Quiet s (s.show_ id token) :=
  modifyRecord_quiet s fun _ _ => ⟨rfl, rfl, rfl, .refl _, .refl _⟩

theorem retract_quiet (s : Service) (id : Nat) : Quiet s (s.retract id) :=
  (show_quiet s id none).trans (publish_quiet _ id [])

theorem record?_retract (hr : s.registry.record? id = some r) :
    ∃ sequence display, ∀ n, (s.retract id).registry.record? n =
      if n = id then some { r with sequence, display } else s.registry.record? n := by
  have shown : ∀ n, (s.show_ id none).registry.record? n =
      if n = id then some { r with display := none } else s.registry.record? n := by
    intro n
    rw [show_, record?_modifyRecord]
    split
    next hn => rw [hn, hr]; rfl
    · rfl
  have quietly : ∃ sequence display, ∀ n, (s.show_ id none).registry.record? n =
      if n = id then some { r with sequence, display } else s.registry.record? n :=
    ⟨r.sequence, none, shown⟩
  have own := shown id
  rw [if_pos rfl] at own
  unfold Service.retract publish
  rw [own]
  dsimp only
  split
  · split
    · exact quietly
    · refine ⟨r.sequence + 1, none, fun n => ?_⟩
      show ((s.show_ id none).modifyRecord id Record.advance).registry.record? n = _
      rw [record?_modifyRecord]
      split
      next hn => rw [hn, own]; rfl
      next hn => rw [shown, if_neg hn]
  · exact quietly

theorem published_retract (push : s.delivery.isPush = true) (hr : s.registry.record? id = some r) :
    (Uri.ofPath? r.path = none ∧ (s.retract id).published = s.published) ∨
      ∃ uri, Uri.ofPath? r.path = some uri ∧ (s.retract id).published = (uri, []) :: s.published := by
  have own : (s.show_ id none).registry.record? id = some { r with display := none } := by
    rw [show_, record?_modifyRecord, if_pos rfl, hr]
    rfl
  rcases publish_eq (s := s.show_ id none) push own [] with ⟨hu, hp⟩ | ⟨uri, outbox, hu, -, hl⟩
  · refine Or.inl ⟨hu, ?_⟩
    unfold Service.retract
    rw [hp]
    rfl
  · exact Or.inr ⟨uri, hu, hl⟩

/-- What is shown for the record now is empty, and everything else stays. -/
theorem last?_retract (push : s.delivery.isPush = true) (hr : s.registry.record? id = some r)
    (uri : Uri) :
    (s.retract id).last? uri = if Uri.ofPath? r.path = some uri then some [] else s.last? uri := by
  rcases published_retract push hr with ⟨hu, hp⟩ | ⟨uri', hu, hp⟩
  · rw [last?_of_published hp, hu, if_neg (fun h => nomatch h)]
  · rw [last?_cons hp, hu]
    by_cases h : uri = uri'
    · simp [h]
    · simp [h, Ne.symm h]

/-- The diagnostics of a record are taken back. It is not leaving any more then. -/
theorem Kept.retract (k : s.Kept leaving) (known : s.registry.Known id r) (unused : s.Unused id r)
    (mono : ∀ n, n ≠ id → leaving n → leaving' n) : (s.retract id).Kept leaving' := by
  have q := retract_quiet s id
  obtain ⟨sequence, display, hrecord⟩ := record?_retract known.1
  have hlast := last?_retract k.push known.1
  generalize s.retract id = s' at q hrecord hlast
  have grows : r.Grows { r with sequence, display } := ⟨rfl, rfl, rfl, .refl _, .refl _⟩
  have same := q.tokenOf grows
  have h := k.records id r known.1
  refine k.renew known.1 { r with sequence, display } q.delivery (q.sound k.registry) q.jobs q.nextJob
    hrecord (fun n r₁ _ hn => ?_) (fun n r₁ h₁ hn hl uri hu => ?_) ?_ (fun j delay i hj hn hi => ?_)
    (fun uri => ?_) fun uri found hu hl hne => ?_
  · have a := q.around leaving n r₁
    refine ⟨a.version, a.log, fun l => ?_, a.agrees, a.known⟩
    have l' := a.live l
    exact ⟨l'.found, l'.capable, l'.ready, l'.wanted.imp_right (mono n hn)⟩
  · rw [hlast, if_neg]
    exact fun hu' => hn (Registry.Sound.unique ⟨h₁, hl.found⟩ known (Uri.same_of_ofPath? hu hu'))
  · exact h.unused { r with sequence, display } q.log rfl (UInt32.le_refl _) rfl rfl
      (same.symm ▸ h.latest) (fun m v hv => same.symm ▸ unused.runs m v hv)
      fun ho => (q.around leaving id r).opened (h.opened ho)
  · exact ⟨same.symm ▸ hi.old, hi.run, fun ht => absurd (ht.trans same) (unused.jobs j delay i hj hn)⟩
  · rw [hlast]
    split
    · exact Or.inr rfl
    · exact Or.inl rfl
  · rw [hlast, if_pos hu] at hl
    exact absurd (Option.some.inj hl).symm hne

/-! ### Forgetting -/

theorem forget_congr {p q : Path} (h : p.same q = true) (g : Registry) : g.forget p = g.forget q := by
  have hpq : (fun e : Path × Nat => !e.1.same p) = fun e => !e.1.same q := by
    funext e
    rw [Path.same_comm, PathMap.same_congr h, Path.same_comm]
  simp only [Registry.forget, PathMap.erase, hpq]

/-- A record is forgotten whose document is not open. Nothing may be shown for it if that counts. -/
theorem Kept.forget (k : s.Kept leaving) (known : s.registry.Known id r) (unused : s.Unused id r)
    (closed : r.opened = false)
    (gone : ∀ uri found, Uri.ofPath? r.path = some uri → s.last? uri = some found → found ≠ [] →
      ¬ s.Live leaving id r) : (s.forget r.path).Kept leaving := by
  have hr := known.1
  have h := k.records id r hr
  refine k.renew hr r rfl (k.registry.forget _) rfl rfl (fun n => ?_) (fun n r₁ h₁ hn => ?_)
    (fun _ _ _ _ _ _ _ => rfl) ?_ (fun j delay i hj hn hi => ?_) (fun _ => Or.inl rfl)
    fun uri found hu hl hne live => absurd live (gone uri found hu hl hne)
  · show s.registry.record? n = _
    split
    next hn => rw [hn, hr]
    · rfl
  · have found : s.registry.find? r₁.path = some n → (s.forget r.path).registry.find? r₁.path = some n :=
      fun hf => ((Registry.known_forget known).2 ⟨⟨h₁, hf⟩, hn⟩).2
    exact .of_same rfl rfl rfl rfl rfl rfl (fun hf => ⟨found hf, rfl⟩) fun _ hl => hl
  · have latest : r.results.Latest Token.covers ((s.forget r.path).tokenOf r) := h.latest
    refine h.unused r (fun _ hx => hx) rfl (UInt32.le_refl _) rfl rfl latest unused.runs fun ho => ?_
    rw [closed] at ho
    cases ho
  · exact ⟨hi.old, hi.run, fun ht => absurd ht (unused.jobs j delay i hj hn)⟩

/-! ### Analyses -/

/-- An analysis is asked for with the current token, and only if the diagnostics of the record count. -/
theorem Kept.analyze (k : s.Kept leaving)
    (found : ∀ r, s.registry.record? id = some r → s.registry.find? r.path = some id) :
    (s.analyze id).Kept leaving := by
  unfold Service.analyze
  split
  · exact k
  next r hr =>
    split
    next h =>
      simp only [Bool.and_eq_true, inScope_eq] at h
      exact k.spawn ⟨_, _, r, rfl, hr, Token.covers_refl _, fun _ hn => (nomatch hn),
        fun _ => ⟨⟨found r hr, by simpa using h.2.1, h.1.1, Or.inl h.2.2⟩, .refl _⟩⟩
    · exact k

@[simp] theorem registry_analyze (s : Service) (id : Nat) : (s.analyze id).registry = s.registry := by
  unfold analyze
  split
  · rfl
  · split <;> rfl

/-! ### Settings -/

/-- The service with other settings, before documents that belong to no stage are forgotten. -/
def replaceSettings (s : Service) (settings : Settings) : Service :=
  { s with
    settings
    validator :=
      if !s.ready || s.settings.validator != settings.validator then s.host.resolve settings.validator
      else s.validator
    ready := true
    settingsVersion :=
      if (SettingsChange.between s.settings settings).bumps then s.settingsVersion + 1
      else s.settingsVersion }

theorem takeSettings_eq (s : Service) (settings : Settings) :
    s.takeSettings settings =
      if (SettingsChange.between s.settings settings).extensions then
        (s.replaceSettings settings).dropAllUnmapped
      else s.replaceSettings settings := rfl

/-- A record whose diagnostics count, but not any more once the settings are others. -/
def LeavesScope (s : Service) (settings : Settings) (id : Nat) : Prop :=
  s.ready = true ∧
    ∃ r, s.registry.Known id r ∧ s.settings.wants r.opened = true ∧ settings.wants r.opened = false

variable {settings : Settings}

/-- A change of the settings that outdates results makes all tokens new. -/
theorem replaceSettings_new (bumps : (SettingsChange.between s.settings settings).bumps = true)
    (room : s.settingsVersion < s.settingsVersion + 1) (r : Record) :
    ((s.replaceSettings settings).tokenOf r).covers (s.tokenOf r) = true ∧
      (s.tokenOf r).covers ((s.replaceSettings settings).tokenOf r) = false := by
  simp only [tokenOf, Record.token, replaceSettings, bumps, if_true]
  exact ⟨Token.covers_settings (UInt32.le_of_lt room) _, Token.not_covers_settings room _⟩

/-- After any other change, everything goes on as before for documents that stay in the scope. -/
theorem around_replaceSettings (bumps : (SettingsChange.between s.settings settings).bumps = false)
    (hr : s.registry.record? id = some r) :
    Around nobody (s.LeavesScope settings) s (s.replaceSettings settings) id r where
  version := by simp only [replaceSettings, bumps, Bool.false_eq_true, if_false]
  log _ hx := hx
  live l := by
    refine ⟨l.found, l.capable, rfl, ?_⟩
    cases hw : settings.wants r.opened with
    | true => exact Or.inl hw
    | false => exact Or.inr ⟨l.ready, r, ⟨hr, l.found⟩, l.wants, hw⟩
  agrees l := by
    have agree := SettingsChange.bumps_between.1 bumps
    refine ⟨agree, ?_⟩
    simp only [Service.snapshot, replaceSettings, l.ready, agree.validator, Bool.not_true, Bool.false_or,
      bne_self_eq_false, Bool.false_eq_true, if_false]
  known hf := ⟨hf, rfl⟩

/-- Other settings: what leaves the scope has yet to be taken back. -/
theorem Kept.replaceSettings (k : s.Kept nobody)
    (room : (SettingsChange.between s.settings settings).bumps = true →
      s.settingsVersion < s.settingsVersion + 1) :
    (s.replaceSettings settings).Kept (s.LeavesScope settings) := by
  have owned : (s.replaceSettings settings).Owned (s.LeavesScope settings) := by
    intro uri found hu hne
    obtain ⟨id, r, hr, hl, hp⟩ := k.owned uri found hu hne
    refine ⟨id, r, hr, ⟨hl.found, hl.capable, rfl, ?_⟩, hp⟩
    cases hw : settings.wants r.opened with
    | true => exact Or.inl hw
    | false => exact Or.inr ⟨hl.ready, r, ⟨hr, hl.found⟩, hl.wants, hw⟩
  cases bumps : (SettingsChange.between s.settings settings).bumps with
  | true =>
    refine ⟨k.push, k.registry, fun id r hr => ?_, fun j hj => ?_, k.distinct, k.fresh, owned⟩
    · obtain ⟨up, new⟩ := replaceSettings_new bumps (room bumps) r
      obtain ⟨latest, unused⟩ := Token.raise (k.records id r hr).latest up new
      exact (k.records id r hr).unused r (fun _ hx => hx) rfl (UInt32.le_refl _) rfl rfl latest unused
        (k.records id r hr).opened
    · obtain ⟨delay, i, r, he, hr, hi⟩ := k.jobs j hj
      obtain ⟨up, new⟩ := replaceSettings_new bumps (room bumps) r
      exact ⟨delay, i, r, he, hr, hi.unused rfl up new⟩
  | false =>
    refine ⟨k.push, k.registry, fun id r hr => ?_, fun j hj => ?_, k.distinct, k.fresh, owned⟩
    · exact (k.records id r hr).around (around_replaceSettings bumps hr) (fun _ _ _ => rfl) r.sequence
        r.display
    · obtain ⟨delay, i, r, he, hr, hi⟩ := k.jobs j hj
      exact ⟨delay, i, r, he, hr, hi.around (around_replaceSettings bumps hr) (.refl r)⟩

end Service

end ShaderDiagnostics
