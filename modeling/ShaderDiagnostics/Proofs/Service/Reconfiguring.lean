import ShaderDiagnostics.Proofs.Service.Handling

/-!
# New settings keep house

When settings come in, documents may belong to no stage any more and are forgotten (`Service.Dropping`),
and others leave the scope and have their diagnostics taken back, for good if only documents that are open
count from now on (`Service.Withdrawing`). All this goes record by record, and each record gets one new
version at most. Afterwards nothing is left that should not be there, and what remains is analyzed
(`Orderly.configure`).
-/

namespace ShaderDiagnostics.Service

variable {leaving leaving' : Nat → Prop} {s s' t : Service} {id : Nat} {r : Record} {l : List Nat}

/-- What holds of the records that are left is kept record by record. -/
theorem foldl_rest {f : Service → Nat → Service} {I : List Nat → Service → Prop}
    (h : ∀ n l t, I (n :: l) t → I l (f t n)) (l : List Nat) {s : Service} (start : I l s) :
    I [] (l.foldl f s) := by
  induction l generalizing s with
  | nil => exact start
  | cons n l ih => exact ih (h n l s start)

/-! ### Analyzing all -/

@[simp] theorem registry_analyzeAll (s : Service) : s.analyzeAll.registry = s.registry :=
  foldl_rest (f := Service.analyze) (I := fun _ t => t.registry = s.registry)
    (fun n _ t h => (registry_analyze t n).trans h) s.registry.all rfl

theorem Kept.analyzeAll (k : s.Kept leaving) : s.analyzeAll.Kept leaving := by
  refine (foldl_rest (f := Service.analyze)
    (I := fun l t => t.Kept leaving ∧ t.registry = s.registry ∧ ∀ n ∈ l, n ∈ s.registry.all)
    (fun n l t h => ?_) s.registry.all ⟨k, rfl, fun _ hn => hn⟩).1
  obtain ⟨kt, hreg, hall⟩ := h
  refine ⟨kt.analyze fun r hr => ?_, (registry_analyze t n).trans hreg,
    fun m hm => hall m (List.mem_cons_of_mem _ hm)⟩
  obtain ⟨r', known⟩ := k.registry.mem_all.1 (hall n List.mem_cons_self)
  rw [hreg] at hr ⊢
  obtain rfl := Option.some.inj (known.1.symm.trans hr)
  exact known.2

/-- Once all documents are analyzed, none is forgotten. -/
theorem Kept.tended_analyzeAll (k : s.Kept leaving) : s.analyzeAll.Tended nobody := by
  have all : s.Tended (· ∈ s.registry.all) := fun _ _ n r hk _ => Or.inl (k.registry.mem_all.2 ⟨r, hk⟩)
  have h := foldl_rest (f := Service.analyze)
    (I := fun l t => t.Tended (· ∈ l) ∧ t.delivery.isPush = true) (fun n l t h => ?_) s.registry.all
    ⟨all, k.push⟩
  · exact h.1.narrow fun n _ _ _ hn => (nomatch hn)
  · refine ⟨(h.1.analyze h.2 n).narrow fun m _ _ _ hm => ?_, (analyze_onward t n).delivery ▸ h.2⟩
    exact (List.mem_cons.1 hm.1).resolve_left hm.2

theorem Orderly.analyzeAll (k : s.Kept nobody) : Orderly s.analyzeAll :=
  ⟨k.analyzeAll, k.tended_analyzeAll⟩

/-- An editor that diagnostics are published to is not asked to ask for them. -/
theorem refresh_of_push (push : s.delivery.isPush = true) : s.refresh = s := by
  have same : s.outbox.refresh s.delivery = s.outbox := by
    cases hd : s.delivery with
    | pull _ => rw [hd] at push; cases push
    | _ => rfl
  rw [refresh, same]

/-! ### Taking all back -/

/-- Taking diagnostics back leaves tokens that are new as they are. -/
theorem unused_retract (known : s.registry.Known id r)
    (unused : ∀ n r, s.registry.Known n r → s.Unused n r) {n : Nat} {r' : Record}
    (h : (s.retract id).registry.Known n r') : (s.retract id).Unused n r' := by
  have q := retract_quiet s id
  obtain ⟨sequence, display, hrecord⟩ := record?_retract known.1
  have hr := h.1
  rw [hrecord] at hr
  split at hr
  next hn =>
    cases hr
    subst hn
    exact (unused n r known).same rfl q.jobs (q.tokenOf ⟨rfl, rfl, rfl, .refl _, .refl _⟩)
  · exact (unused n r' ⟨hr, (q.find? _).symm.trans h.2⟩).same rfl q.jobs (q.tokenOf (.refl r'))

theorem Kept.retractAll (k : s.Kept leaving) (unused : ∀ n r, s.registry.Known n r → s.Unused n r) :
    s.retractAll.Kept nobody := by
  have all : s.Kept (· ∈ s.registry.all) := k.narrow fun n r hk _ => k.registry.mem_all.2 ⟨r, hk⟩
  have h := foldl_rest (f := Service.retract)
    (I := fun l t => t.Kept (· ∈ l) ∧ (∀ n r, t.registry.Known n r → t.Unused n r) ∧
      ∀ n ∈ l, ∃ r, t.registry.Known n r) (fun n l t h => ?_) s.registry.all
    ⟨all, unused, fun n hn => k.registry.mem_all.1 hn⟩
  · exact h.1.narrow fun n _ _ hn => (nomatch hn)
  · obtain ⟨kt, ut, left⟩ := h
    obtain ⟨r, known⟩ := left n List.mem_cons_self
    refine ⟨kt.retract known (ut n r known) fun m hm hl => (List.mem_cons.1 hl).resolve_left hm,
      fun m r' h' => unused_retract known ut h', fun m hm => ?_⟩
    obtain ⟨r₁, known₁⟩ := left m (List.mem_cons_of_mem _ hm)
    obtain ⟨r₂, known₂, -⟩ := (retract_quiet t n).stays known₁
    exact ⟨r₂, known₂⟩

/-! ### Forgetting what belongs to no stage -/

theorem known_takeBack (known : s.registry.Known id r) {n : Nat} {r' : Record} (hn : n ≠ id) :
    ((s.bump id).retract id).registry.Known n r' ↔ s.registry.Known n r' := by
  obtain ⟨sequence, display, hrecord⟩ := record?_takeBack known.1
  unfold Registry.Known
  rw [hrecord, if_neg hn, find?_takeBack]

theorem sound_takeBack (h : s.registry.Sound) (id : Nat) : ((s.bump id).retract id).registry.Sound :=
  (retract_quiet _ id).sound (h.modify id fun _ => rfl)

theorem known_forgetTakenBack (known : s.registry.Known id r) {n : Nat} {r' : Record} :
    (((s.bump id).retract id).forget r.path).registry.Known n r' ↔ s.registry.Known n r' ∧ n ≠ id := by
  obtain ⟨sequence, display, hrecord⟩ := record?_takeBack known.1
  obtain ⟨r₁, taken, path⟩ : ∃ r₁, ((s.bump id).retract id).registry.Known id r₁ ∧ r₁.path = r.path :=
    ⟨_, ⟨(hrecord id).trans (if_pos rfl), (find?_takeBack s id _).trans known.2⟩, rfl⟩
  have h : (((s.bump id).retract id).forget r.path).registry.Known n r' ↔
      ((s.bump id).retract id).registry.Known n r' ∧ n ≠ id := by
    rw [← path]
    exact Registry.known_forget taken
  constructor
  · intro hk
    obtain ⟨hk, hn⟩ := h.1 hk
    exact ⟨(known_takeBack known hn).1 hk, hn⟩
  · rintro ⟨hk, hn⟩
    exact h.2 ⟨(known_takeBack known hn).2 hk, hn⟩

theorem dropUnmapped_eq (hr : s.registry.record? id = some r) :
    s.dropUnmapped id = if r.opened = true ∨ s.isMapped r.path = true then s
      else ((s.bump id).retract id).forget r.path := by
  simp only [dropUnmapped, hr, Bool.or_eq_true]

/-- What has become of the records while those that belong to no stage are forgotten, one after another:
some records are left to be looked at. -/
structure Dropping (s t : Service) (l : List Nat) : Prop where
  sound : t.registry.Sound
  nodup : l.Nodup
  left : ∀ n ∈ l, ∃ r, t.registry.Known n r
  jobs : t.jobs = s.jobs
  settings : t.settings = s.settings
  settingsVersion : t.settingsVersion = s.settingsVersion
  /-- Records that are still known have not changed. -/
  old : ∀ n r, t.registry.Known n r → s.registry.Known n r
  /-- Records that need not be forgotten, or have not been looked at, are still known. -/
  kept : ∀ n r, s.registry.Known n r → (n ∈ l ∨ r.opened = true ∨ s.isMapped r.path = true) →
    t.registry.Known n r
  /-- Records that are forgotten have got a new version. -/
  gone : ∀ n r, s.registry.Known n r → n ∉ l → r.opened = false → s.isMapped r.path = false →
    t.registry.version n = r.version + 1 ∧ ∀ r', ¬ t.registry.Known n r'
  /-- No other record has. -/
  versions : ∀ n, t.registry.version n = s.registry.version n ∨
    t.registry.version n = s.registry.version n + 1 ∧ ∀ r, ¬ t.registry.Known n r

theorem Dropping.next (d : Dropping s t (id :: l)) : Dropping s (t.dropUnmapped id) l := by
  obtain ⟨r, known⟩ := d.left id List.mem_cons_self
  obtain ⟨hid, nodup⟩ := List.nodup_cons.1 d.nodup
  have mapped : t.isMapped r.path = s.isMapped r.path := by simp only [isMapped, d.settings]
  rw [dropUnmapped_eq known.1]
  split
  next keep =>
    refine ⟨d.sound, nodup, fun n hn => d.left n (List.mem_cons_of_mem _ hn), d.jobs, d.settings,
      d.settingsVersion, d.old, fun n r₁ h₁ stays => d.kept n r₁ h₁ (stays.imp_left (List.mem_cons_of_mem _)),
      fun n r₁ h₁ hn closed unmapped => ?_, d.versions⟩
    refine d.gone n r₁ h₁ (List.not_mem_cons_of_ne_of_not_mem ?_ hn) closed unmapped
    rintro rfl
    obtain rfl := Option.some.inj ((d.old n r known).1.symm.trans h₁.1)
    rw [closed, mapped, unmapped] at keep
    exact keep.elim (fun h => nomatch h) fun h => nomatch h
  next gone =>
    have q := retract_quiet (t.bump id) id
    have known' : ∀ {n r'}, (((t.bump id).retract id).forget r.path).registry.Known n r' ↔
        t.registry.Known n r' ∧ n ≠ id := known_forgetTakenBack known
    refine ⟨(sound_takeBack d.sound id).forget _, nodup, fun n hn => ?_, q.jobs.trans d.jobs,
      q.settings.trans d.settings, q.settingsVersion.trans d.settingsVersion,
      fun n r₁ h₁ => d.old n r₁ (known'.1 h₁).1, fun n r₁ h₁ stays => ?_,
      fun n r₁ h₁ hn closed unmapped => ?_, fun n => ?_⟩
    · obtain ⟨r₁, h₁⟩ := d.left n (List.mem_cons_of_mem _ hn)
      exact ⟨r₁, known'.2 ⟨h₁, fun he => hid (he ▸ hn)⟩⟩
    · refine known'.2 ⟨d.kept n r₁ h₁ (stays.imp_left (List.mem_cons_of_mem _)), ?_⟩
      rintro rfl
      obtain rfl := Option.some.inj ((d.old n r known).1.symm.trans h₁.1)
      exact stays.elim hid fun keep => gone (keep.imp_right mapped.trans)
    · by_cases he : n = id
      · subst he
        obtain rfl := Option.some.inj ((d.old n r known).1.symm.trans h₁.1)
        exact ⟨(version_takeBack known.1 n).trans (if_pos rfl), fun r' h' => (known'.1 h').2 rfl⟩
      · have left := List.not_mem_cons_of_ne_of_not_mem he hn
        obtain ⟨hv, gone⟩ := d.gone n r₁ h₁ left closed unmapped
        exact ⟨((version_takeBack known.1 n).trans (if_neg he)).trans hv,
          fun r₂ h₂ => gone r₂ (known'.1 h₂).1⟩
    · show ((t.bump id).retract id).registry.version n = _ ∨
        ((t.bump id).retract id).registry.version n = _ ∧ _
      rw [version_takeBack known.1]
      split
      next he =>
        rw [he, Registry.version_of_record? (d.old id r known).1]
        exact Or.inr ⟨rfl, fun r₂ h₂ => (known'.1 h₂).2 rfl⟩
      next he =>
        exact (d.versions n).imp_right fun h => ⟨h.1, fun r₂ h₂ => h.2 r₂ (known'.1 h₂).1⟩

theorem Dropping.start (h : s.registry.Sound) : Dropping s s s.registry.all :=
  ⟨h, h.nodup_all, fun _ hn => h.mem_all.1 hn, rfl, rfl, rfl, fun _ _ hk => hk, fun _ _ hk _ => hk,
    fun _ r hk hn => absurd (h.mem_all.2 ⟨r, hk⟩) hn, fun _ => Or.inl rfl⟩

theorem dropping_all (h : s.registry.Sound) : Dropping s s.dropAllUnmapped [] :=
  foldl_rest (f := Service.dropUnmapped) (I := fun l t => Dropping s t l) (fun _ _ _ d => d.next) _
    (.start h)

theorem Kept.dropUnmapped (k : s.Kept leaving) (known : s.registry.Known id r)
    (room : r.opened = false → s.isMapped r.path = false → r.version < r.version + 1) :
    (s.dropUnmapped id).Kept leaving := by
  rw [dropUnmapped_eq known.1]
  split
  · exact k
  next h =>
    obtain ⟨closed, unmapped⟩ := not_or.1 h
    rw [Bool.not_eq_true] at closed unmapped
    obtain ⟨k', r', b⟩ := k.takeBack known (room closed unmapped) fun _ _ hn => hn
    exact k'.forgetTakenBack b closed

theorem Kept.dropAllUnmapped (k : s.Kept leaving)
    (room : ∀ n r, s.registry.Known n r → r.opened = false → s.isMapped r.path = false →
      r.version < r.version + 1) : s.dropAllUnmapped.Kept leaving := by
  refine (foldl_rest (f := Service.dropUnmapped) (I := fun l t => Dropping s t l ∧ t.Kept leaving)
    (fun n l t h => ⟨h.1.next, ?_⟩) _ ⟨.start k.registry, k⟩).2
  obtain ⟨d, kt⟩ := h
  obtain ⟨r, known⟩ := d.left n List.mem_cons_self
  refine kt.dropUnmapped known fun closed unmapped => room n r (d.old n r known) closed ?_
  simpa only [isMapped, d.settings] using unmapped

/-! ### Taking back what is not open -/

theorem withdraw_eq (hr : s.registry.record? id = some r) :
    s.withdraw id = if r.opened then s else (s.bump id).retract id := unlessOpened_eq hr _

/-- What has become of the records while the diagnostics of documents that are not open are taken back,
one after another: some records are left to be looked at. -/
structure Withdrawing (s t : Service) (l : List Nat) : Prop where
  nodup : l.Nodup
  found : ∀ p, t.registry.find? p = s.registry.find? p
  left : ∀ n ∈ l, ∃ r, s.registry.Known n r ∧ t.registry.record? n = some r
  aside : ∀ n, n ∉ s.registry.all → t.registry.version n = s.registry.version n
  raised : ∀ n r, s.registry.Known n r → n ∉ l → r.opened = false →
    t.registry.version n = r.version + 1
  versions : ∀ n, t.registry.version n = s.registry.version n ∨
    t.registry.version n = s.registry.version n + 1

theorem Withdrawing.next (h : s.registry.Sound) (w : Withdrawing s t (id :: l)) :
    Withdrawing s (t.withdraw id) l := by
  obtain ⟨r, known, hr⟩ := w.left id List.mem_cons_self
  obtain ⟨hid, nodup⟩ := List.nodup_cons.1 w.nodup
  rw [withdraw_eq hr]
  split
  next ho =>
    refine ⟨nodup, w.found, fun n hn => w.left n (List.mem_cons_of_mem _ hn), w.aside,
      fun n r₁ h₁ hn closed => w.raised n r₁ h₁ (List.not_mem_cons_of_ne_of_not_mem ?_ hn) closed,
      w.versions⟩
    rintro rfl
    obtain rfl := Option.some.inj (known.1.symm.trans h₁.1)
    rw [closed] at ho
    cases ho
  · obtain ⟨sequence, display, hrecord⟩ := record?_takeBack hr
    refine ⟨nodup, fun p => (find?_takeBack t id p).trans (w.found p), fun n hn => ?_, fun n hn => ?_,
      fun n r₁ h₁ hn closed => ?_, fun n => ?_⟩
    · obtain ⟨r₁, known₁, h₁⟩ := w.left n (List.mem_cons_of_mem _ hn)
      have he : n ≠ id := fun he => hid (he ▸ hn)
      exact ⟨r₁, known₁, by rw [hrecord, if_neg he, h₁]⟩
    · have he : n ≠ id := fun he => hn (he ▸ h.mem_all.2 ⟨r, known⟩)
      rw [version_takeBack hr, if_neg he, w.aside n hn]
    · by_cases he : n = id
      · subst he
        obtain rfl := Option.some.inj (known.1.symm.trans h₁.1)
        exact (version_takeBack hr n).trans (if_pos rfl)
      · rw [version_takeBack hr, if_neg he]
        exact w.raised n r₁ h₁ (List.not_mem_cons_of_ne_of_not_mem he hn) closed
    · rw [version_takeBack hr]
      split
      next he => exact Or.inr (by rw [he, Registry.version_of_record? known.1])
      · exact w.versions n

theorem Withdrawing.start (h : s.registry.Sound) : Withdrawing s s s.registry.all where
  nodup := h.nodup_all
  found _ := rfl
  left n hn := by
    obtain ⟨r, known⟩ := h.mem_all.1 hn
    exact ⟨r, known, known.1⟩
  aside _ _ := rfl
  raised _ r hk hn := absurd (h.mem_all.2 ⟨r, hk⟩) hn
  versions _ := Or.inl rfl

theorem withdrawing_all (h : s.registry.Sound) :
    Withdrawing s (s.registry.all.foldl Service.withdraw s) [] :=
  foldl_rest (f := Service.withdraw) (I := fun l t => Withdrawing s t l) (fun _ _ _ w => w.next h) _
    (.start h)

/-- Nothing is leaving any more once the diagnostics of all documents that are not open are taken back. -/
theorem Kept.foldl_withdraw (k : s.Kept leaving)
    (only : ∀ n r, s.registry.Known n r → leaving n → r.opened = false)
    (room : ∀ n r, s.registry.Known n r → r.opened = false → r.version < r.version + 1) :
    (s.registry.all.foldl Service.withdraw s).Kept nobody := by
  have all : s.Kept fun n => n ∈ s.registry.all ∧ leaving n :=
    k.narrow fun n r hk hn => ⟨k.registry.mem_all.2 ⟨r, hk⟩, hn⟩
  have h := foldl_rest (f := Service.withdraw)
    (I := fun l t => Withdrawing s t l ∧ t.Kept fun n => n ∈ l ∧ leaving n)
    (fun n l t h => ⟨h.1.next k.registry, ?_⟩) _ ⟨.start k.registry, all⟩
  · exact h.2.narrow fun n _ _ hn => (nomatch hn.1)
  · obtain ⟨w, kt⟩ := h
    obtain ⟨r, known, hr⟩ := w.left n List.mem_cons_self
    rw [withdraw_eq hr]
    split
    next ho =>
      refine kt.narrow fun m _ _ hm => ⟨(List.mem_cons.1 hm.1).resolve_left ?_, hm.2⟩
      rintro rfl
      rw [only m r known hm.2] at ho
      cases ho
    next ho =>
      have known' : t.registry.Known n r := ⟨hr, (w.found _).trans known.2⟩
      exact (kt.takeBack known' (room n r known (by simpa using ho)) fun m hm hl =>
        ⟨(List.mem_cons.1 hl.1).resolve_left hm, hl.2⟩).1

/-! ### Settings -/

variable {settings : Settings}

/-- Documents that are known once settings have been taken over have been known before. -/
theorem known_takeSettings (h : s.registry.Sound) {n : Nat}
    (hk : (s.takeSettings settings).registry.Known n r) : s.registry.Known n r := by
  rw [takeSettings_eq] at hk
  split at hk
  · have d : Dropping (s.replaceSettings settings) _ [] := dropping_all h
    exact d.old n r hk
  · exact hk

theorem Kept.takeSettings (k : s.Kept nobody)
    (bump : (SettingsChange.between s.settings settings).bumps = true →
      s.settingsVersion < s.settingsVersion + 1)
    (drop : (SettingsChange.between s.settings settings).extensions = true → ∀ n r,
      s.registry.Known n r → r.opened = false →
      (s.replaceSettings settings).isMapped r.path = false → r.version < r.version + 1) :
    (s.takeSettings settings).Kept (s.LeavesScope settings) := by
  have k' := k.replaceSettings bump
  rw [takeSettings_eq]
  split
  next he => exact k'.dropAllUnmapped (drop he)
  · exact k'

/-- When settings have been taken over that outdate results, all tokens are new. -/
theorem Kept.unused_takeSettings (k : s.Kept nobody)
    (bumps : (SettingsChange.between s.settings settings).bumps = true)
    (room : s.settingsVersion < s.settingsVersion + 1) {n : Nat}
    (hk : (s.takeSettings settings).registry.Known n r) : (s.takeSettings settings).Unused n r := by
  obtain ⟨up, new⟩ := replaceSettings_new bumps room r
  have u : (s.replaceSettings settings).Unused n r :=
    k.unused (known_takeSettings k.registry hk).1 r rfl rfl up new
  rw [takeSettings_eq]
  split
  · have d : Dropping (s.replaceSettings settings) _ [] := dropping_all k.registry
    exact u.same rfl d.jobs (by simp only [tokenOf, d.settingsVersion])
  · exact u

theorem retractAll_quiet (s : Service) : Quiet s s.retractAll :=
  foldl_rest (f := Service.retract) (I := fun _ t => Quiet s t)
    (fun n _ t h => h.trans (retract_quiet t n)) s.registry.all (.refl s)

/-- The service once the diagnostics of documents that are not open are taken back, if these documents
have just ceased to count. -/
def withdrawClosed (s : Service) (change : SettingsChange) : Service :=
  if change.workspace && !s.settings.diagnostics.workspace then s.registry.all.foldl withdraw s else s

theorem reconsider_eq (s : Service) (change : SettingsChange) :
    s.reconsider change =
      if change.enable && !s.settings.diagnostics.enable then s.retractAll.refresh
      else if change.bumps || change.workspace then (s.withdrawClosed change).analyzeAll.refresh
      else s.withdrawClosed change := rfl

/-- Bringing the known documents in line leaves the versions of others alone. -/
theorem version_reconsider (h : s.registry.Sound) (change : SettingsChange)
    (hid : id ∉ s.registry.all) :
    (s.reconsider change).registry.version id = s.registry.version id := by
  have withdrawn : (s.withdrawClosed change).registry.version id = s.registry.version id := by
    unfold withdrawClosed
    split
    · exact (withdrawing_all h).aside id hid
    · rfl
  rw [reconsider_eq]
  split
  · exact ((retractAll_quiet s).trans (refresh_quiet _)).version id
  · split
    · show (s.withdrawClosed change).analyzeAll.registry.version id = _
      rw [registry_analyzeAll]
      exact withdrawn
    · exact withdrawn

/-- Of a record that is not known any more once settings have been taken over, they leave the version
alone from then on. -/
theorem version_configure (h : (s.takeSettings settings).registry.Sound)
    (hid : id ∉ (s.takeSettings settings).registry.all) :
    (s.configure settings).registry.version id = (s.takeSettings settings).registry.version id := by
  unfold configure
  dsimp only
  split
  · exact version_reconsider h _ hid
  · rw [registry_analyzeAll]

theorem sound_takeSettings (h : s.registry.Sound) : (s.takeSettings settings).registry.Sound := by
  rw [takeSettings_eq]
  split
  · have d : Dropping (s.replaceSettings settings) _ [] := dropping_all h
    exact d.sound
  · exact h

theorem Steady.room_settings (st : Steady s (s.configure settings))
    (bumps : (SettingsChange.between s.settings settings).bumps = true) :
    s.settingsVersion < s.settingsVersion + 1 := by
  have h := st.settings
  rw [(configure_onward s settings).settingsVersion] at h
  simp only [replaceSettings, bumps, if_true] at h
  exact lt_add_one_of_le h

/-- The version of a record that is forgotten has not wrapped around. -/
theorem Steady.room_drop (h : s.registry.Sound) (st : Steady s (s.configure settings))
    (change : (SettingsChange.between s.settings settings).extensions = true)
    (known : s.registry.Known id r) (closed : r.opened = false)
    (unmapped : (s.replaceSettings settings).isMapped r.path = false) : r.version < r.version + 1 := by
  have sound : (s.takeSettings settings).registry.Sound := sound_takeSettings h
  have d : Dropping (s.replaceSettings settings) (s.takeSettings settings) [] := by
    rw [takeSettings_eq, if_pos change]
    exact dropping_all h
  obtain ⟨hv, gone⟩ := d.gone id r known List.not_mem_nil closed unmapped
  have hid : id ∉ (s.takeSettings settings).registry.all := by
    intro hmem
    obtain ⟨r₁, h₁⟩ := sound.mem_all.1 hmem
    exact gone r₁ h₁
  exact st.room (Registry.version_of_record? known.1) ((version_configure sound hid).trans hv)

/-- Unless validation is switched off, only documents that are not open leave the scope, and only when
they cease to count. -/
theorem LeavesScope.closed (hl : s.LeavesScope settings id)
    (on : ¬ ((SettingsChange.between s.settings settings).enable && !settings.diagnostics.enable) = true) :
    ((SettingsChange.between s.settings settings).workspace && !settings.diagnostics.workspace) = true ∧
      ∀ r, s.registry.Known id r → r.opened = false := by
  obtain ⟨-, r, known, before, after⟩ := hl
  have h : settings.diagnostics.workspace = false ∧ s.settings.diagnostics.workspace = true ∧
      r.opened = false := by
    revert before after on
    simp only [Settings.wants, SettingsChange.between]
    cases s.settings.diagnostics.enable <;> cases settings.diagnostics.enable <;>
      cases s.settings.diagnostics.workspace <;> cases settings.diagnostics.workspace <;>
      cases r.opened <;> decide
  obtain ⟨new, old, closed⟩ := h
  refine ⟨by simp [SettingsChange.between, new, old], fun r' known' => ?_⟩
  obtain rfl := Option.some.inj (known.1.symm.trans known'.1)
  exact closed

theorem Orderly.retractAll (k : s.Kept leaving) (unused : ∀ n r, s.registry.Known n r → s.Unused n r)
    (off : s.settings.diagnostics.enable = false) : Orderly s.retractAll := by
  refine ⟨k.retractAll unused, fun _ _ n r _ hw => ?_⟩
  rw [(retractAll_quiet s).settings] at hw
  simp [Settings.wants, off] at hw

/-- Settings that change nothing leave every document looked after. -/
theorem Tended.replaceSettings (t : s.Tended nobody) (ready : s.ready = true)
    (bumps : (SettingsChange.between s.settings settings).bumps = false)
    (workspace : (SettingsChange.between s.settings settings).workspace = false) :
    (s.replaceSettings settings).Tended nobody := by
  have version : (s.replaceSettings settings).settingsVersion = s.settingsVersion := by
    simp only [Service.replaceSettings, bumps, Bool.false_eq_true, if_false]
  refine t.change rfl (fun _ => ready) (fun _ hx => hx) version (fun _ hj => hj) fun n r hk hw => ?_
  refine Or.inr ⟨hk, ?_, fun hd => hd⟩
  have same : s.settings.diagnostics.workspace = settings.diagnostics.workspace := by
    simpa [SettingsChange.between] using workspace
  have hw' : settings.wants r.opened = true := hw
  simpa only [Settings.wants, same, (SettingsChange.bumps_between.1 bumps).enable] using hw'

/-- After settings that switch validation off. -/
theorem Orderly.switchOff (h : Orderly s) (st : Steady s (s.configure settings))
    (k : (s.takeSettings settings).Kept (s.LeavesScope settings))
    (off : ((SettingsChange.between s.settings settings).enable && !settings.diagnostics.enable) = true) :
    Orderly (s.takeSettings settings).retractAll := by
  obtain ⟨change, disabled⟩ := (Bool.and_eq_true _ _).mp off
  have bumps : (SettingsChange.between s.settings settings).bumps = true := by
    cases hb : (SettingsChange.between s.settings settings).bumps with
    | true => rfl
    | false =>
      have same := (SettingsChange.bumps_between.1 hb).enable
      simp [SettingsChange.between, same] at change
  refine .retractAll k (fun n r hk => h.kept.unused_takeSettings bumps (st.room_settings bumps) hk) ?_
  rw [(takeSettings_onward s settings).settings]
  exact (Bool.not_eq_true' _).mp disabled

/-- Once documents that have left the scope have had their diagnostics taken back, nothing is leaving. -/
theorem Kept.withdrawClosed (k : s.Kept leaving) (change : SettingsChange)
    (only : ∀ n r, s.registry.Known n r → leaving n →
      (change.workspace && !s.settings.diagnostics.workspace) = true ∧ r.opened = false)
    (room : (change.workspace && !s.settings.diagnostics.workspace) = true →
      ∀ n r, s.registry.Known n r → r.opened = false → r.version < r.version + 1) :
    (s.withdrawClosed change).Kept nobody := by
  unfold Service.withdrawClosed
  split
  next off => exact k.foldl_withdraw (fun n r hk hl => (only n r hk hl).2) (room off)
  next on => exact k.narrow fun n r hk hl => on (only n r hk hl).1

/-- The version of a record that leaves the scope has not wrapped around. -/
theorem Steady.room_withdraw (h : s.registry.Sound) (st : Steady s (s.configure settings))
    {change : SettingsChange} (hc : s.configure settings = ((s.takeSettings settings).withdrawClosed
      change).analyzeAll.refresh)
    (off : (change.workspace && !(s.takeSettings settings).settings.diagnostics.workspace) = true)
    (known : (s.takeSettings settings).registry.Known id r) (closed : r.opened = false) :
    r.version < r.version + 1 := by
  have w : Withdrawing (s.takeSettings settings) _ [] := withdrawing_all (sound_takeSettings h)
  refine st.room (Registry.version_of_record? (known_takeSettings h known).1) ?_
  rw [hc]
  show ((s.takeSettings settings).withdrawClosed change).analyzeAll.registry.version id = r.version + 1
  rw [registry_analyzeAll, Service.withdrawClosed, if_pos off]
  exact w.raised id r known List.not_mem_nil closed

/-- Settings that come in are carried out for every document. -/
theorem Orderly.configure (h : Orderly s) (st : Steady s (s.configure settings)) :
    Orderly (s.configure settings) := by
  have sound := h.kept.registry
  have k : (s.takeSettings settings).Kept (s.LeavesScope settings) :=
    h.kept.takeSettings st.room_settings fun change _ _ known closed unmapped =>
      st.room_drop sound change known closed unmapped
  have same : (s.takeSettings settings).settings = settings := (takeSettings_onward s settings).settings
  cases hready : s.ready with
  | false =>
    have hc : s.configure settings = (s.takeSettings settings).analyzeAll := by
      simp [Service.configure, hready]
    rw [hc]
    exact .analyzeAll (k.narrow fun n r _ hl => by rw [hl.1] at hready; cases hready)
  | true =>
    have hc : s.configure settings =
        (s.takeSettings settings).reconsider (.between s.settings settings) := by
      simp [Service.configure, hready]
    rw [reconsider_eq, same] at hc
    split at hc
    next off =>
      have o := h.switchOff st k off
      rw [hc, refresh_of_push o.kept.push]
      exact o
    next on =>
      have only : ∀ n r, (s.takeSettings settings).registry.Known n r → s.LeavesScope settings n →
          ((SettingsChange.between s.settings settings).workspace &&
            !(s.takeSettings settings).settings.diagnostics.workspace) = true ∧ r.opened = false := by
        intro n r hk hl
        rw [same]
        exact (hl.closed on).imp_right fun closed => closed r (known_takeSettings sound hk)
      split at hc
      next loud =>
        have o := Orderly.analyzeAll
          (k.withdrawClosed _ only fun off n r hk closed => st.room_withdraw sound hc off hk closed)
        rw [hc, refresh_of_push o.kept.push]
        exact o
      next quiet =>
        simp only [Bool.or_eq_true, not_or, Bool.not_eq_true] at quiet
        obtain ⟨bumps, workspace⟩ := quiet
        have extensions : (SettingsChange.between s.settings settings).extensions = false := by
          have := (SettingsChange.bumps_between.1 bumps).extensions
          simp [SettingsChange.between, this]
        have taken : s.configure settings = s.replaceSettings settings := by
          rw [hc, Service.withdrawClosed, workspace, takeSettings_eq, extensions]
          rfl
        refine ⟨hc ▸ k.withdrawClosed _ only fun off => ?_, ?_⟩
        · rw [workspace] at off
          cases off
        · rw [taken]
          exact h.tended.replaceSettings hready bumps workspace

end ShaderDiagnostics.Service
