import ShaderDiagnostics.Proofs.Service.Intake

/-!
# Versions

An event raises each version by one at most (`Intact.raised`): no record gets two new versions at once,
however many settings have changed.
-/

namespace ShaderDiagnostics.Service

variable {s s' t : Service} {e : Event} {es : List Event}

/-- All versions are what they were. -/
structure Level (s s' : Service) : Prop where
  settings : s'.settingsVersion = s.settingsVersion
  records : ∀ id, s'.registry.version id = s.registry.version id

/-- All versions are what they were, or one more. -/
structure Raised (s s' : Service) : Prop where
  settings : s'.settingsVersion = s.settingsVersion ∨ s'.settingsVersion = s.settingsVersion + 1
  records : ∀ id, s'.registry.version id = s.registry.version id ∨
    s'.registry.version id = s.registry.version id + 1

theorem Level.refl (s : Service) : Level s s := ⟨rfl, fun _ => rfl⟩

theorem Level.raised (h : Level s s') : Raised s s' :=
  ⟨Or.inl h.settings, fun id => Or.inl (h.records id)⟩

theorem Level.andRaised (h : Level s s') (h' : Raised s' t) : Raised s t :=
  ⟨h.settings ▸ h'.settings, fun id => h.records id ▸ h'.records id⟩

theorem Raised.andLevel (h : Raised s s') (h' : Level s' t) : Raised s t :=
  ⟨h'.settings.symm ▸ h.settings, fun id => (h'.records id).symm ▸ h.records id⟩

theorem Quiet.level (q : Quiet s s') : Level s s' := ⟨q.settingsVersion, q.version⟩

/-! ### Small changes -/

theorem ensure_level (s : Service) (p : Path) : Level s (s.ensure p).1 :=
  ⟨rfl, Registry.version_ensure s.registry p⟩

theorem ensure_editor_level (s : Service) (editor : Editor) (p : Path) :
    Level s ({ s with editor }.ensure p).1 :=
  ⟨rfl, Registry.version_ensure s.registry p⟩

theorem analyze_level (s : Service) (id : Nat) : Level s (s.analyze id) :=
  ⟨(analyze_onward s id).settingsVersion, fun n => by rw [registry_analyze]⟩

theorem forget_level (s : Service) (p : Path) : Level s (s.forget p) := ⟨rfl, fun _ => rfl⟩

theorem bump_raised (s : Service) (id : Nat) : Raised s (s.bump id) := by
  refine ⟨Or.inl rfl, fun n => ?_⟩
  have h : (s.bump id).registry.record? n =
      if n = id then (s.registry.record? n).map Record.bump else s.registry.record? n :=
    record?_modifyRecord s id n Record.bump
  cases hr : s.registry.record? n with
  | none => exact Or.inl (Registry.version_congr (by rw [h, hr]; split <;> rfl))
  | some r =>
    rw [hr] at h
    split at h
    · exact Or.inr (by rw [Registry.version_of_record? h, Registry.version_of_record? hr]; rfl)
    · exact Or.inl (by rw [Registry.version_of_record? h, Registry.version_of_record? hr])

theorem setOpened_raised (s : Service) (id : Nat) (opened : Bool) : Raised s (s.setOpened id opened) := by
  have h : Level s (s.modifyRecord id fun r => { r with opened }) := by
    refine ⟨rfl, fun n => ?_⟩
    have h := record?_modifyRecord s id n fun r => { r with opened }
    cases hr : s.registry.record? n with
    | none => exact Registry.version_congr (by rw [h, hr]; split <;> rfl)
    | some r =>
      rw [hr] at h
      split at h <;> rw [Registry.version_of_record? h, Registry.version_of_record? hr]
  exact h.andRaised (bump_raised _ id)

/-! ### Documents -/

theorem diskDelete_raised (s : Service) (p : Path) : Raised s (s.diskDelete p) := by
  refine diskDelete_ind (Level.refl s).raised fun id _ _ _ _ => Raised.andLevel ?_ (forget_level _ p)
  split
  · exact (bump_raised s id).andLevel (retract_quiet _ id).level
  · exact bump_raised s id

theorem fileEvent_raised (s : Service) (e : Message.FileEvent) : Raised s (s.fileEvent e) :=
  fileEvent_ind (Level.refl s).raised (fun p _ => (ensure_level s p).raised)
    (fun p _ => (ensure_level s p).andRaised (analyze_level _ _).raised)
    (fun p _ => ((ensure_level s p).andRaised (bump_raised _ _)).andLevel (analyze_level _ _))
    fun p _ _ => diskDelete_raised s p

/-! ### Settings -/

theorem reconsider_raised (h : s.registry.Sound) (change : SettingsChange) :
    Raised s (s.reconsider change) := by
  have withdrawn : Raised s (s.withdrawClosed change) := by
    unfold withdrawClosed
    split
    · exact ⟨Or.inl (Onward.foldl withdraw_onward _ s).settingsVersion, (withdrawing_all h).versions⟩
    · exact (Level.refl s).raised
  have analyzed : Level (s.withdrawClosed change) (s.withdrawClosed change).analyzeAll :=
    ⟨(Onward.foldl analyze_onward _ _).settingsVersion, fun n => by rw [registry_analyzeAll]⟩
  rw [reconsider_eq]
  split
  · exact ((retractAll_quiet s).trans (refresh_quiet _)).level.raised
  · split
    · exact (withdrawn.andLevel analyzed).andLevel (refresh_quiet _).level
    · exact withdrawn

/-- A record that is forgotten gets no second version. -/
theorem configure_raised (h : s.registry.Sound) (settings : Settings) :
    Raised s (s.configure settings) := by
  have sound : (s.takeSettings settings).registry.Sound := sound_takeSettings h
  have dropped : ∀ n, (s.takeSettings settings).registry.version n = s.registry.version n ∨
      (s.takeSettings settings).registry.version n = s.registry.version n + 1 ∧
        ∀ r, ¬ (s.takeSettings settings).registry.Known n r := by
    rw [takeSettings_eq]
    split
    · have d : Dropping (s.replaceSettings settings) _ [] := dropping_all h
      exact d.versions
    · exact fun n => Or.inl rfl
  have rest : Raised (s.takeSettings settings) (s.configure settings) := by
    unfold configure
    dsimp only
    split
    · exact reconsider_raised sound _
    · exact Level.raised ⟨(Onward.foldl analyze_onward _ _).settingsVersion,
        fun n => by rw [registry_analyzeAll]⟩
  refine ⟨?_, fun n => ?_⟩
  · rw [(configure_onward s settings).settingsVersion]
    unfold replaceSettings
    dsimp only
    split
    · exact Or.inr rfl
    · exact Or.inl rfl
  · rcases dropped n with same | ⟨raised, unknown⟩
    · exact same ▸ rest.records n
    · refine Or.inr ((version_configure sound fun hn => ?_).trans raised)
      obtain ⟨r, hr⟩ := sound.mem_all.1 hn
      exact unknown r hr

/-! ### Events -/

/-- An event raises each version by one at most. -/
theorem Intact.raised (h : s.Intact) (e : Event) : Raised s (s.step e) := by
  cases e with
  | opened uri text version =>
    refine orUnchanged_ind (Level.refl s).raised fun t ht => ?_
    obtain ⟨p, -, rfl⟩ := didOpen_eq ht
    exact ((ensure_editor_level s _ p).andRaised (setOpened_raised _ _ true)).andLevel
      (analyze_level _ _)
  | edited uri edits version =>
    refine orUnchanged_ind (Level.refl s).raised fun t ht => ?_
    obtain ⟨p, editor, -, -, rfl⟩ := didChange_eq ht
    exact ((ensure_editor_level s editor p).andRaised (bump_raised _ _)).andLevel (analyze_level _ _)
  | closed uri =>
    refine orUnchanged_ind (Level.refl s).raised fun t ht => ?_
    obtain ⟨p, -, rfl⟩ := didClose_eq ht
    refine ((ensure_editor_level s (s.editor.closed p) p).andRaised
      (setOpened_raised _ (s.ensure p).2 false)).andLevel ?_
    dsimp only
    split
    · exact analyze_level _ _
    · exact (retract_quiet _ _).level
  | file e => exact fileEvent_raised s e
  | configured settings => exact configure_raised h.registry settings
  | pulled request p =>
    refine orUnchanged_ind (Level.refl s).raised fun t ht => ?_
    obtain ⟨path, -, rfl | ⟨reply, rfl⟩ | ⟨r, -, -, rfl⟩⟩ := pullDocument_eq ht
    all_goals exact Level.raised ⟨rfl, Registry.version_ensure s.registry path⟩
  | pulledAll request known => exact Level.raised ⟨rfl, fun _ => rfl⟩
  | polled job =>
    show Raised s (s.poll job)
    rcases h.poll_cases job with same | ⟨b, t, -, course, leaves⟩
    · rw [same]
      exact (Level.refl s).raised
    · obtain ⟨jobs, outbox, he⟩ := leaves.beside
      rw [he]
      exact Level.raised ⟨course.quiet.level.settings, course.quiet.level.records⟩
  | elapsed milliseconds => exact Level.raised ⟨rfl, fun _ => rfl⟩
  | released gate => exact Level.raised ⟨rfl, fun _ => rfl⟩
  | host host => exact Level.raised ⟨rfl, fun _ => rfl⟩

end ShaderDiagnostics.Service
