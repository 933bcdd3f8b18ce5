import ShaderDiagnostics.Proofs.Service.Onward

/-!
# Changes of documents keep house

What happens to a document in the editor or on disk keeps the invariant and forgets no document, as long
as its version does not wrap around (`Service.Orderly`). A document that has another text is analyzed again
or has its diagnostics taken back, by whether it counts then; one that is deleted is forgotten.
-/

namespace ShaderDiagnostics

theorem Registry.known_of_ensure {g : Registry} {p : Path} {n : Nat} {r : Record}
    (h : (g.ensure p).1.Known n r) (hn : n ≠ (g.ensure p).2) : g.Known n r := by
  obtain ⟨hr, hf⟩ := h
  refine ⟨(record?_ensure hr).resolve_right fun new => hn new.2.2.1, ?_⟩
  rw [find?_ensure] at hf
  split at hf
  · exact absurd (Option.some.inj hf).symm hn
  · exact hf

namespace Editor

variable {p q : Path} {editor : Editor}

theorem text?_insert (d : OpenDocument) :
    text? (editor.insert p d) q = if p.same q then some d.text else editor.text? q := by
  unfold text?
  rw [PathMap.get?_insert]
  split <;> rfl

theorem text?_closed : (editor.closed p).text? q = if p.same q then none else editor.text? q := by
  unfold text? closed
  rw [PathMap.get?_erase]
  split <;> rfl

end Editor

namespace Service

variable {leaving leaving' due due' : Nat → Prop} {s s' : Service} {id : Nat} {r : Record}

/-- The service publishes what it should and forgets nothing. -/
structure Orderly (s : Service) : Prop where
  kept : s.Kept nobody
  tended : s.Tended nobody

/-! ### Tending -/

theorem Attended.mono (h : s.Attended id r) (log : ∀ x ∈ s.log, x ∈ s'.log)
    (version : s'.settingsVersion = s.settingsVersion) (jobs : ∀ j ∈ s.jobs, j ∈ s'.jobs) :
    s'.Attended id r := by
  have same : s'.tokenOf r = s.tokenOf r := by simp only [tokenOf, version]
  cases h with
  | failing h => exact .failing (h.mono log)
  | job mem record token => exact .job (jobs _ mem) record (token.trans same.symm)
  | done run token ended => exact .done run (token.trans same.symm) ended

/-- After a change, what concerns records that have not changed is tended still. -/
theorem Tended.change (t : s.Tended due) (host : s'.host = s.host)
    (ready : s'.ready = true → s.ready = true) (log : ∀ x ∈ s.log, x ∈ s'.log)
    (version : s'.settingsVersion = s.settingsVersion) (jobs : ∀ j ∈ s.jobs, j ∈ s'.jobs)
    (known : ∀ n r', s'.registry.Known n r' → s'.settings.wants r'.opened = true →
      due' n ∨ s.registry.Known n r' ∧ s.settings.wants r'.opened = true ∧ (due n → due' n)) :
    s'.Tended due' := by
  intro he hready n r' hk hw
  rcases known n r' hk hw with hd | ⟨hk', hw', hd⟩
  · exact Or.inl hd
  · exact (t (host ▸ he) (ready hready) n r' hk' hw').imp hd fun h => h.mono log version jobs

theorem Tended.narrow (t : s.Tended due)
    (h : ∀ n r, s.registry.Known n r → s.settings.wants r.opened = true → due n → due' n) :
    s.Tended due' :=
  fun he hready n r hk hw => (t he hready n r hk hw).imp_left (h n r hk hw)

/-- A record that is analyzed is not due any more. -/
theorem Tended.analyze (t : s.Tended due) (push : s.delivery.isPush = true) (id : Nat) :
    (s.analyze id).Tended fun n => due n ∧ n ≠ id := by
  intro he hready n r hk hw
  have o := analyze_onward s id
  rw [Registry.Known, registry_analyze] at hk
  rw [o.host] at he
  rw [o.ready] at hready
  rw [o.settings] at hw
  unfold Service.analyze
  by_cases hn : n = id
  · subst hn
    have on : (s.delivery != .off) = true := by
      cases hd : s.delivery with
      | off => rw [hd] at push; cases push
      | push => rfl
      | pull => rfl
    refine Or.inr ?_
    simp only [hk.1, hready, on, inScope_eq, he, hw, Bool.not_false, Bool.and_true, if_true]
    exact .job (List.mem_append_right _ (List.mem_singleton_self _)) rfl rfl
  · refine (t he hready n r hk hw).imp (fun hd => ⟨hd, hn⟩) fun h => h.mono ?_ ?_ ?_
    · exact o.log
    · exact o.settingsVersion
    · intro j hj
      split
      · exact hj
      · split
        · exact List.mem_append_left _ hj
        · exact hj

/-! ### One document -/

theorem lt_add_one_of_le {n : UInt32} (h : n ≤ n + 1) : n < n + 1 := by
  grind

/-- The version of a record that has been raised has not wrapped around. -/
theorem Steady.room (st : Steady s s') (hr : s.registry.version id = r.version)
    (raised : s'.registry.version id = r.version + 1) : r.version < r.version + 1 := by
  have h := st.records id
  rw [hr, raised] at h
  exact lt_add_one_of_le h

theorem version_known_ensure {p : Path} (known : (s.ensure p).1.registry.Known id r) :
    s.registry.version id = r.version :=
  (Registry.version_ensure s.registry p id).symm.trans (Registry.version_of_record? known.1)

theorem version_moved (known : s.registry.Known id r) (editor : Editor) (opened : Bool) :
    ((s.touch id editor opened).analyze id).registry.version id = r.version + 1 := by
  rw [registry_analyze]
  exact Registry.version_of_record? (((record?_touch known.1 editor opened id)).trans (if_pos rfl))

theorem touch_eq_setOpened (s : Service) (id : Nat) (editor : Editor) (opened : Bool) :
    ({ s with editor } : Service).setOpened id opened = s.touch id editor opened := by
  simp only [setOpened, bump, touch, modifyRecord, Registry.modify, List.modify_modify_eq]
  rfl

theorem touch_eq_bump (hr : s.registry.record? id = some r) (editor : Editor) :
    ({ s with editor } : Service).bump id = s.touch id editor r.opened := by
  have hr' : ({ s with editor } : Service).registry.record? id = some r := hr
  rw [bump, touch, modifyRecord_eq hr' Record.bump, modifyRecord_eq hr' fun r' => r'.moved r.opened]
  rfl

theorem Kept.known_ensure (k : s.Kept leaving) (p : Path) :
    ∃ r, (s.ensure p).1.registry.Known (s.ensure p).2 r ∧ r.path.same p = true :=
  k.registry.known_ensure p

theorem known_touch (known : s.registry.Known id r) (editor : Editor) (opened : Bool) :
    (s.touch id editor opened).registry.Known id (r.moved opened) :=
  ⟨by rw [record?_touch known.1, if_pos rfl], known.2⟩

/-- Only the document that has another text is due. -/
theorem Tended.touch (t : s.Tended due) (hr : s.registry.record? id = some r) (editor : Editor)
    (opened : Bool) : (s.touch id editor opened).Tended fun n => due n ∨ n = id := by
  refine t.change rfl (fun h => h) (fun _ hx => hx) rfl (fun _ hj => hj) fun n r' hk hw => ?_
  by_cases hn : n = id
  · exact Or.inl (Or.inr hn)
  · refine Or.inr ⟨⟨?_, hk.2⟩, hw, Or.inl⟩
    have h := hk.1
    rwa [record?_touch hr, if_neg hn] at h

/-- A path that gets a record: that is due if it is new. -/
theorem Tended.ensure (t : s.Tended due) (p : Path) :
    (s.ensure p).1.Tended fun n => due n ∨ n = (s.ensure p).2 := by
  refine t.change rfl (fun h => h) (fun _ hx => hx) rfl (fun _ hj => hj) fun n r' hk hw => ?_
  by_cases hn : n = (s.ensure p).2
  · exact Or.inl (Or.inr hn)
  · exact Or.inr ⟨Registry.known_of_ensure hk hn, hw, Or.inl⟩

/-- A record that is forgotten is not due any more. -/
theorem Tended.forget (t : s.Tended due) (known : s.registry.Known id r) :
    (s.forget r.path).Tended fun n => due n ∧ n ≠ id := by
  refine t.change rfl (fun h => h) (fun _ hx => hx) rfl (fun _ hj => hj) fun n r₁ hk hw => ?_
  obtain ⟨hk, hn⟩ := (Registry.known_forget known).1 hk
  exact Or.inr ⟨hk, hw, fun hd => ⟨hd, hn⟩⟩

/-- A document that has another text is analyzed. -/
theorem Orderly.move (h : Orderly s) (p : Path) {r : Record}
    (known : (s.ensure p).1.registry.Known (s.ensure p).2 r) (editor : Editor) (opened : Bool)
    (room : r.version < r.version + 1)
    (far : ∀ q, r.path.same q = false → editor.text? q = s.editor.text? q)
    (text : opened = true → ∃ text, editor.text? r.path = some text)
    (out : s.settings.wants r.opened = true → s.settings.wants opened = true) :
    Orderly (((s.ensure p).1.touch (s.ensure p).2 editor opened).analyze (s.ensure p).2) := by
  have k := (h.kept.ensure p).touch known editor opened room far text (fun hw => Or.inl (out hw))
    fun _ hn => hn
  have t := (h.tended.ensure p).touch known.1 editor opened
  refine ⟨k.analyze fun r' hr' => ?_, (t.analyze k.push _).narrow ?_⟩
  · rw [record?_touch known.1, if_pos rfl] at hr'
    cases hr'
    exact known.2
  · rintro n - - - ⟨(hn | hn) | hn, hne⟩
    · exact hn
    · exact hne hn
    · exact hne hn

/-- A document that has another text and does not count has its diagnostics taken back. -/
theorem Orderly.moveOut (h : Orderly s) (p : Path) {r : Record}
    (known : (s.ensure p).1.registry.Known (s.ensure p).2 r) (editor : Editor) (opened : Bool)
    (room : r.version < r.version + 1)
    (far : ∀ q, r.path.same q = false → editor.text? q = s.editor.text? q)
    (text : opened = true → ∃ text, editor.text? r.path = some text)
    (out : s.settings.wants opened = false) :
    Orderly (((s.ensure p).1.touch (s.ensure p).2 editor opened).retract (s.ensure p).2) := by
  have k₀ := h.kept.ensure p
  have k : ((s.ensure p).1.touch (s.ensure p).2 editor opened).Kept fun n => n = (s.ensure p).2 :=
    k₀.touch known editor opened room far text (fun _ => Or.inr rfl) fun _ hn => hn.elim
  have known' := known_touch known editor opened
  have t := ((h.tended.ensure p).touch known.1 editor opened).quiet (retract_quiet _ (s.ensure p).2)
  refine ⟨k.retract known' (k₀.unused_touch known.1 room editor opened) fun _ hn hl => hn hl,
    t.narrow fun n r' hk hw hd => ?_⟩
  have hn : n = (s.ensure p).2 := hd.elim (fun hd => hd.elim False.elim (fun hd => hd)) fun hd => hd
  subst hn
  obtain ⟨sequence, display, hrecord⟩ := record?_retract known'.1
  obtain rfl := Option.some.inj (((hrecord _).trans (if_pos rfl)).symm.trans hk.1)
  rw [(retract_quiet _ (s.ensure p).2).settings] at hw
  exact nomatch hw.symm.trans out

theorem wants_true {settings : Settings} {opened : Bool} (h : settings.wants opened = true) :
    settings.wants true = true := by
  simp only [Settings.wants, Bool.and_eq_true] at h ⊢
  exact ⟨h.1, by simp⟩

theorem far_of_same {p q : Path} (hs : r.path.same p = true) (hq : r.path.same q = false) :
    p.same q = false := by
  rwa [← PathMap.same_congr hs]

theorem Orderly.didOpen (h : Orderly s) {uri : Uri} {text : List Char} {version : Int} {t : Service}
    (ht : s.didOpen uri text version = .ok t) (st : Steady s t) : Orderly t := by
  obtain ⟨p, -, rfl⟩ := didOpen_eq ht
  obtain ⟨r, known, hs⟩ := h.kept.known_ensure p
  have hp : p.same r.path = true := by rwa [Path.same_comm]
  have moved : (({ s with editor := s.editor.opened p text version } : Service).ensure p).1.setOpened
      (s.ensure p).2 true = (s.ensure p).1.touch (s.ensure p).2 (s.editor.opened p text version) true :=
    touch_eq_setOpened (s.ensure p).1 _ _ _
  rw [moved] at st ⊢
  have room := st.room (version_known_ensure known) (version_moved known _ true)
  refine h.move p known _ true room (fun q hq => ?_) (fun _ => ⟨text, ?_⟩) wants_true
  · rw [Editor.opened, Editor.text?_insert, far_of_same hs hq]
    rfl
  · rw [Editor.opened, Editor.text?_insert, if_pos hp]

theorem Orderly.didChange (h : Orderly s) {uri : Uri} {edits : List Document.Edit} {version : Int}
    {t : Service} (ht : s.didChange uri edits version = .ok t) (st : Steady s t) : Orderly t := by
  obtain ⟨p, editor, -, hedit, rfl⟩ := didChange_eq ht
  obtain ⟨r, known, hs⟩ := h.kept.known_ensure p
  have hp : p.same r.path = true := by rwa [Path.same_comm]
  have moved : (({ s with editor } : Service).ensure p).1.bump (s.ensure p).2 =
      (s.ensure p).1.touch (s.ensure p).2 editor r.opened := touch_eq_bump known.1 editor
  rw [moved] at st ⊢
  have room := st.room (version_known_ensure known) (version_moved known _ _)
  obtain ⟨d, -, rfl⟩ := Option.map_eq_some_iff.1 hedit
  refine h.move p known _ r.opened room (fun q hq => ?_)
    (fun _ => ⟨Document.applyAll edits d.text, ?_⟩) fun hw => hw
  · rw [Editor.text?_insert, far_of_same hs hq]
    rfl
  · rw [Editor.text?_insert, if_pos hp]

/-- A document that is closed and then does not count has its diagnostics taken back. -/
theorem Orderly.didClose (h : Orderly s) {uri : Uri} {t : Service} (ht : s.didClose uri = .ok t)
    (st : Steady s t) : Orderly t := by
  obtain ⟨p, -, rfl⟩ := didClose_eq ht
  obtain ⟨r, known, hs⟩ := h.kept.known_ensure p
  have moved : (({ s with editor := s.editor.closed p } : Service).ensure p).1.setOpened
      (s.ensure p).2 false = (s.ensure p).1.touch (s.ensure p).2 (s.editor.closed p) false :=
    touch_eq_setOpened (s.ensure p).1 _ _ _
  have known' := known_touch known (s.editor.closed p) false
  have far : ∀ q, r.path.same q = false → (s.editor.closed p).text? q = s.editor.text? q := by
    intro q hq
    rw [Editor.text?_closed, far_of_same hs hq]
    rfl
  dsimp only at st ⊢
  rw [moved] at st ⊢
  cases hw : s.settings.diagnostics.workspace with
  | true =>
    rw [hw, if_pos rfl] at st
    rw [if_pos rfl]
    have room := st.room (version_known_ensure known) (version_moved known _ false)
    refine h.move p known _ false room far (fun ho => nomatch ho) fun h => ?_
    simpa [Settings.wants, hw] using h
  | false =>
    rw [hw, if_neg (by decide)] at st
    rw [if_neg (by decide)]
    obtain ⟨sequence, display, hrecord⟩ := record?_retract known'.1
    have room := st.room (version_known_ensure known)
      (Registry.version_of_record? ((hrecord _).trans (if_pos rfl)))
    exact h.moveOut p known _ false room far (fun ho => nomatch ho) (by simp [Settings.wants, hw])

/-! ### Taking back for good -/

theorem unlessOpened_eq (hr : s.registry.record? id = some r) (f : Service → Service) :
    s.unlessOpened id f = if r.opened then s else f s := by
  simp only [unlessOpened, hr]

theorem bump_eq_touch (hr : s.registry.record? id = some r) : s.bump id = s.touch id s.editor r.opened :=
  touch_eq_bump hr s.editor

/-- The records after the diagnostics of one have been taken back for good. -/
theorem record?_takeBack (hr : s.registry.record? id = some r) :
    ∃ sequence display, ∀ n, ((s.bump id).retract id).registry.record? n =
      if n = id then some { r.moved r.opened with sequence, display } else s.registry.record? n := by
  rw [bump_eq_touch hr]
  obtain ⟨sequence, display, h⟩ :=
    record?_retract ((record?_touch hr s.editor r.opened id).trans (if_pos rfl))
  refine ⟨sequence, display, fun n => ?_⟩
  rw [h, record?_touch hr]
  split <;> rfl

theorem find?_takeBack (s : Service) (id : Nat) (p : Path) :
    ((s.bump id).retract id).registry.find? p = s.registry.find? p :=
  (retract_quiet _ id).find? p

/-- A record gets a new version when its diagnostics are taken back for good. -/
theorem version_takeBack (hr : s.registry.record? id = some r) (n : Nat) :
    ((s.bump id).retract id).registry.version n =
      if n = id then r.version + 1 else s.registry.version n := by
  obtain ⟨sequence, display, h⟩ := record?_takeBack hr
  split
  next hn =>
    subst hn
    exact Registry.version_of_record? ((h n).trans (if_pos rfl))
  next hn => exact Registry.version_congr ((h n).trans (if_neg hn))

/-- The record of a document whose diagnostics have been taken back for good: its token is new, and
nothing is shown for it. -/
structure TakenBack (t : Service) (id : Nat) (r r' : Record) : Prop where
  known : t.registry.Known id r'
  path : r'.path = r.path
  opened : r'.opened = r.opened
  unused : t.Unused id r'
  silent : ∀ uri, Uri.ofPath? r.path = some uri → t.last? uri = some []

theorem Kept.takeBack (k : s.Kept leaving) (known : s.registry.Known id r)
    (room : r.version < r.version + 1) (mono : ∀ n, n ≠ id → leaving n → leaving' n) :
    ((s.bump id).retract id).Kept leaving' ∧ ∃ r', TakenBack ((s.bump id).retract id) id r r' := by
  rw [bump_eq_touch known.1]
  have k₁ := k.touch known s.editor r.opened room (fun _ _ => rfl)
    (fun ho => ((k.records id r known.1).opened ho).2) Or.inl fun _ hn => hn
  have known₁ := known_touch known s.editor r.opened
  have unused₁ := k.unused_touch known.1 room s.editor r.opened
  have q := retract_quiet (s.touch id s.editor r.opened) id
  obtain ⟨sequence, display, hrecord⟩ := record?_retract known₁.1
  have hlast := last?_retract k₁.push known₁.1
  have grows : (r.moved r.opened).Grows { r.moved r.opened with sequence, display } :=
    ⟨rfl, rfl, rfl, .refl _, .refl _⟩
  exact ⟨k₁.retract known₁ unused₁ mono, { r.moved r.opened with sequence, display },
    ⟨(hrecord id).trans (if_pos rfl), (q.find? _).trans known₁.2⟩, rfl, rfl,
    unused₁.same rfl q.jobs (q.tokenOf grows), fun uri hu => (hlast uri).trans (if_pos hu)⟩

theorem Kept.forgetTakenBack {t : Service} {r' : Record} (k : t.Kept leaving) (b : TakenBack t id r r')
    (closed : r.opened = false) : (t.forget r.path).Kept leaving := by
  have silent : ∀ uri found, Uri.ofPath? r'.path = some uri → t.last? uri = some found → found ≠ [] →
      ¬ t.Live leaving id r' := by
    intro uri found hu hl hne
    rw [b.silent uri (b.path ▸ hu)] at hl
    exact absurd (Option.some.inj hl).symm hne
  have kf := k.forget b.known b.unused (b.opened.trans closed) silent
  rwa [b.path] at kf

/-! ### Files -/

theorem ensure_of_find? {p : Path} (h : s.registry.find? p = some id) : s.ensure p = (s, id) := by
  simp only [ensure, Registry.ensure, h]

/-- A document that the editor has open has had its record before. -/
theorem ensure_of_opened {p : Path} (hr : (s.ensure p).1.registry.record? (s.ensure p).2 = some r)
    (ho : r.opened = true) : (s.ensure p).1 = s := by
  cases hf : s.registry.find? p with
  | some id => rw [ensure_of_find? hf]
  | none =>
    rcases Registry.record?_ensure hr with hold | ⟨-, -, -, rfl⟩
    · have hid : (s.ensure p).2 = s.registry.records.length := by simp only [ensure, Registry.ensure, hf]
      rw [hid] at hold
      exact absurd (List.getElem?_eq_some_iff.1 hold).1 (Nat.lt_irrefl _)
    · cases ho

theorem Orderly.diskAdd (h : Orderly s) (p : Path) : Orderly (s.diskAdd p) := by
  obtain ⟨r, known, -⟩ := h.kept.known_ensure p
  have he : s.diskAdd p = if r.opened then (s.ensure p).1 else (s.ensure p).1.analyze (s.ensure p).2 := by
    unfold Service.diskAdd
    exact unlessOpened_eq known.1 _
  rw [he]
  split
  next ho => rwa [ensure_of_opened known.1 ho]
  · have k := h.kept.ensure p
    refine ⟨k.analyze fun r' hr' => ?_, ((h.tended.ensure p).analyze k.push _).narrow ?_⟩
    · obtain rfl := Option.some.inj (known.1.symm.trans hr')
      exact known.2
    · rintro n - - - ⟨hn | hn, hne⟩
      · exact hn
      · exact hne hn

theorem Orderly.diskChange (h : Orderly s) (p : Path) (st : Steady s (s.diskChange p)) :
    Orderly (s.diskChange p) := by
  obtain ⟨r, known, -⟩ := h.kept.known_ensure p
  have he : s.diskChange p = if r.opened then (s.ensure p).1
      else ((s.ensure p).1.bump (s.ensure p).2).analyze (s.ensure p).2 := by
    unfold Service.diskChange
    exact unlessOpened_eq known.1 _
  rw [he] at st ⊢
  split
  next ho => rwa [ensure_of_opened known.1 ho]
  next ho =>
    rw [if_neg ho, bump_eq_touch known.1] at st
    rw [bump_eq_touch known.1]
    have room := st.room (version_known_ensure known) (version_moved known _ _)
    exact h.move p known s.editor r.opened room (fun _ _ => rfl)
      (fun ho' => absurd ho' ho) fun hw => hw

/-- A document that is deleted on disk while only documents that are open count has nothing shown. -/
theorem Kept.forgetMoved (k : s.Kept nobody) (known : s.registry.Known id r)
    (room : r.version < r.version + 1) (closed : r.opened = false)
    (out : s.settings.wants r.opened = false) : ((s.bump id).forget r.path).Kept nobody := by
  rw [bump_eq_touch known.1]
  have text : r.opened = true → ∃ text, s.editor.text? r.path = some text := fun ho =>
    ((k.records id r known.1).opened ho).2
  have k' : (s.touch id s.editor r.opened).Kept nobody :=
    k.touch known _ _ room (fun _ _ => rfl) text Or.inl fun _ hn => hn
  have outside : ¬ Live nobody (s.touch id s.editor r.opened) id (r.moved r.opened) := fun hl =>
    nomatch (hl.wants : s.settings.wants r.opened = true).symm.trans out
  have gone := k'.forget (known_touch known _ _) (k.unused_touch known.1 room _ _) closed
    fun _ _ _ _ _ => outside
  exact gone

theorem Orderly.diskDelete (h : Orderly s) (p : Path) (st : Steady s (s.diskDelete p)) :
    Orderly (s.diskDelete p) := by
  cases hf : s.registry.find? p with
  | none => simpa only [Service.diskDelete, hf] using h
  | some id =>
    obtain ⟨r, known, hs⟩ := h.kept.registry.of_find? hf
    have he : s.diskDelete p = if r.opened then s else
        (if s.settings.diagnostics.workspace then (s.bump id).retract id
          else s.bump id).forget r.path := by
      simp only [Service.diskDelete, hf, unlessOpened_eq known.1, Service.forget, forget_congr hs]
      rfl
    rw [he] at st ⊢
    split
    · exact h
    next ho =>
      have closed : r.opened = false := by simpa using ho
      rw [if_neg ho] at st
      have known' : (s.bump id).registry.Known id (r.moved r.opened) :=
        bump_eq_touch known.1 ▸ known_touch known s.editor r.opened
      have t : (s.bump id).Tended (fun n => n = id) := by
        rw [bump_eq_touch known.1]
        exact (h.tended.touch known.1 _ _).narrow fun n _ _ _ hd => hd.elim False.elim fun hn => hn
      cases hw : s.settings.diagnostics.workspace with
      | true =>
        rw [hw, if_pos rfl] at st
        rw [if_pos rfl]
        have room := st.room (Registry.version_of_record? known.1)
          ((version_takeBack known.1 id).trans (if_pos rfl))
        obtain ⟨k, r', b⟩ := h.kept.takeBack known room fun _ _ hn => hn
        have forgotten := b.path ▸ (t.quiet (retract_quiet _ id)).forget b.known
        exact ⟨k.forgetTakenBack b closed, forgotten.narrow fun _ _ _ _ hn => hn.2 hn.1⟩
      | false =>
        rw [hw, if_neg (by decide)] at st
        rw [if_neg (by decide)]
        have room := st.room (Registry.version_of_record? known.1) (Registry.version_of_record? known'.1)
        refine ⟨h.kept.forgetMoved known room closed (by simp [Settings.wants, hw, closed]), ?_⟩
        exact (t.forget known').narrow fun _ _ _ _ hn => hn.2 hn.1

theorem Orderly.fileEvent (h : Orderly s) (e : Message.FileEvent) (st : Steady s (s.fileEvent e)) :
    Orderly (s.fileEvent e) := by
  unfold Service.fileEvent at st ⊢
  split
  · exact h
  next p hp =>
    rw [hp] at st
    dsimp only at st
    split
    next hm =>
      rw [if_pos hm] at st
      split
      · exact h.diskAdd p
      next hk => rw [hk] at st; exact h.diskChange p st
      next hk => rw [hk] at st; exact h.diskDelete p st
      · exact h
    · exact h

end Service

end ShaderDiagnostics
