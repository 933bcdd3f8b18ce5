import ShaderDiagnostics.Proofs.Service.Deeds
import ShaderDiagnostics.Proofs.Service.ResultIds

/-!
# What new settings take back

Settings that come in go over the known documents up to three times. Those that are not open and belong to no
stage any more have their diagnostics taken back and are forgotten. Then those of all that are left are taken
back if validation has been switched off, or else of those that are not open if these have ceased to count.
What is left is analyzed.

Each of these loops sends nothing but empty diagnostics, for some of the records that it goes over
(`Service.Sweeps`), and no record is met by two of them that would take its diagnostics back
(`Service.configure_sweeps`). As known documents differ in their URIs, no URI gets empty diagnostics twice, and
it can be said beforehand which do (`Service.configure_retracts`).
-/

namespace ShaderDiagnostics

/-- Whether new settings take back the diagnostics of a known document at a path, which the editor may have
open: documents that are not open and belong to no stage any more are forgotten; the others lose their
diagnostics if validation is switched off, or if they are not open and such documents have ceased to count. -/
def Settings.takesBack (old new : Settings) (p : Path) (opened : Bool) : Bool :=
  let change := SettingsChange.between old new
  change.extensions && !opened && !(new.extensions.stageOfPath p).isSome ||
    (change.enable && !new.diagnostics.enable ||
      change.workspace && !new.diagnostics.workspace && !opened)

/-- Whether new settings lead to a document being forgotten: it is not open and belongs to no stage any more. -/
def Settings.drops (old new : Settings) (p : Path) (opened : Bool) : Bool :=
  (SettingsChange.between old new).extensions && !opened && !(new.extensions.stageOfPath p).isSome

/-- Whether new settings leave a document that is still known without diagnostics. -/
def Settings.hides (old new : Settings) (_ : Path) (opened : Bool) : Bool :=
  let change := SettingsChange.between old new
  change.enable && !new.diagnostics.enable || change.workspace && !new.diagnostics.workspace && !opened

/-- Diagnostics are taken back of the documents that are forgotten and of those that are left without any. -/
theorem Settings.takesBack_eq (old new : Settings) (p : Path) (opened : Bool) :
    old.takesBack new p opened = (old.drops new p opened || old.hides new p opened) := rfl

namespace Service

variable {s s' t : Service} {id : Nat} {r : Record} {ids ids' : List Nat} {settings : Settings}

/-! ### Loops over records -/

/-- The path of a record and whether the editor has its document open. -/
def look (s : Service) (id : Nat) : Option (Path × Bool) :=
  (s.registry.record? id).map fun r => (r.path, r.opened)

/-- The URI under which the diagnostics of a record are published. -/
def uriOf (s : Service) (id : Nat) : Option Uri := (s.look id).bind fun d => Uri.ofPath? d.1

/-- Whether the document of a record is one of those that are meant. -/
def meets (s : Service) (meant : Path → Bool → Bool) (id : Nat) : Bool :=
  (s.look id).any fun d => meant d.1 d.2

theorem look_of_record? (hr : s.registry.record? id = some r) : s.look id = some (r.path, r.opened) := by
  rw [look, hr]
  rfl

theorem uriOf_of_record? (hr : s.registry.record? id = some r) : s.uriOf id = Uri.ofPath? r.path := by
  rw [uriOf, look_of_record? hr]
  rfl

theorem meets_of_record? (hr : s.registry.record? id = some r) (meant : Path → Bool → Bool) :
    s.meets meant id = meant r.path r.opened := by
  rw [meets, look_of_record? hr]
  rfl

/-- The known documents that are meant. -/
theorem mem_filter_meets (h : s.registry.Sound) (meant : Path → Bool → Bool) (id : Nat) :
    id ∈ s.registry.all.filter (s.meets meant) ↔
      ∃ r, s.registry.Known id r ∧ meant r.path r.opened = true := by
  rw [List.mem_filter, h.mem_all]
  constructor
  · rintro ⟨⟨r, known⟩, here⟩
    exact ⟨r, known, (meets_of_record? known.1 meant).symm.trans here⟩
  · rintro ⟨r, known, here⟩
    exact ⟨⟨r, known⟩, (meets_of_record? known.1 meant).trans here⟩

/-- If none are meant, then there are none. -/
theorem filter_meets_none (s : Service) (l : List Nat) : l.filter (s.meets fun _ _ => false) = [] :=
  List.filter_eq_nil_iff.2 fun n _ => by cases hd : s.look n <;> simp [meets, hd]

theorem Quiet.look (q : Quiet s s') (id : Nat) : s'.look id = s.look id := by
  cases hr : s.registry.record? id with
  | some r =>
    obtain ⟨r', hr', g⟩ := q.records id r hr
    rw [look_of_record? hr, look_of_record? hr', g.path, g.opened]
  | none =>
    cases hr' : s'.registry.record? id with
    | some r' =>
      obtain ⟨r, hr₁, -⟩ := q.of_record? hr'
      exact nomatch hr.symm.trans hr₁
    | none => rw [Service.look, Service.look, hr, hr']

/-- The diagnostics of some records have been taken back, one after another, and nothing else has been sent. -/
structure Sweeps (s s' : Service) (ids : List Nat) : Prop where
  delivery : s'.delivery = s.delivery
  settings : s'.settings = s.settings
  look : ∀ id, s'.look id = s.look id
  unsent : s.delivery.isPush = false → s'.outbox = s.outbox
  published : s.delivery.isPush = true →
    s'.published = ((ids.filterMap s.uriOf).map fun uri => (uri, [])).reverse ++ s.published

namespace Sweeps

/-- Nothing has been taken back. -/
theorem of_outbox (delivery : s'.delivery = s.delivery) (settings : s'.settings = s.settings)
    (look : ∀ id, s'.look id = s.look id) (outbox : s'.outbox = s.outbox) : Sweeps s s' [] :=
  ⟨delivery, settings, look, fun _ => outbox, fun _ => by simp only [Service.published, outbox]; rfl⟩

theorem refl (s : Service) : Sweeps s s [] := .of_outbox rfl rfl (fun _ => rfl) rfl

theorem uriOf (h : Sweeps s s' ids) : s'.uriOf = s.uriOf := by
  funext id
  rw [Service.uriOf, Service.uriOf, h.look]

theorem meets (h : Sweeps s s' ids) (meant : Path → Bool → Bool) : s'.meets meant = s.meets meant := by
  funext id
  rw [Service.meets, Service.meets, h.look]

theorem trans (h : Sweeps s s' ids) (h' : Sweeps s' t ids') : Sweeps s t (ids ++ ids') where
  delivery := h'.delivery.trans h.delivery
  settings := h'.settings.trans h.settings
  look id := (h'.look id).trans (h.look id)
  unsent pull := (h'.unsent (h.delivery ▸ pull)).trans (h.unsent pull)
  published push := by
    rw [h'.published (h.delivery ▸ push), h.published push, h.uriOf, List.filterMap_append, List.map_append,
      List.reverse_append, List.append_assoc]

/-- A loop that takes back the diagnostics of the documents that are meant, if any. -/
theorem foldl {f : Service → Nat → Service} {meant : Path → Bool → Bool}
    (h : ∀ t n, t.settings = s.settings → Sweeps t (f t n) ([n].filter (t.meets meant))) (l : List Nat) :
    Sweeps s (l.foldl f s) (l.filter (s.meets meant)) := by
  induction l using List.reverseRecOn with
  | nil => exact .refl s
  | append_singleton l n ih =>
    have last := h (l.foldl f s) n ih.settings
    rw [ih.meets] at last
    rw [List.foldl_append, List.filter_append]
    exact ih.trans last

end Sweeps

/-- What one round of a loop does to its record, if there is one. -/
theorem sweeps_round (meant : Path → Bool → Bool) (absent : s.registry.record? id = none → Sweeps s s' [])
    (there : ∀ r, s.registry.record? id = some r → Sweeps s s' (if meant r.path r.opened then [id] else [])) :
    Sweeps s s' ([id].filter (s.meets meant)) := by
  cases hr : s.registry.record? id with
  | none =>
    have none : s.meets meant id = false := by rw [meets, look, hr]; rfl
    rw [List.filter_cons_of_neg (by simp [none])]
    exact absent hr
  | some r =>
    have h := there r hr
    rw [← meets_of_record? hr meant] at h
    simpa only [List.filter_cons, List.filter_nil] using h

theorem sweeps_bump (s : Service) (id : Nat) : Sweeps s (s.bump id) [] := by
  refine .of_outbox rfl rfl (fun n => ?_) rfl
  unfold look bump
  rw [record?_modifyRecord]
  split
  · cases s.registry.record? n <;> rfl
  · rfl

theorem sweeps_forget (s : Service) (p : Path) : Sweeps s (s.forget p) [] := .of_outbox rfl rfl (fun _ => rfl) rfl

theorem sweeps_analyze (s : Service) (id : Nat) : Sweeps s (s.analyze id) [] := by
  rcases analyze_cases s id with same | ⟨b, same⟩
  · exact same.symm ▸ .refl s
  · exact same.symm ▸ .of_outbox rfl rfl (fun _ => rfl) rfl

theorem sweeps_retract (hr : s.registry.record? id = some r) : Sweeps s (s.retract id) [id] := by
  have q := retract_quiet s id
  refine ⟨q.delivery, q.settings, q.look, fun pull => ?_, fun push => ?_⟩
  · unfold retract publish
    split
    · rfl
    · rw [if_neg (by simp [show (s.show_ id none).delivery = s.delivery from rfl, pull])]
      rfl
  · rw [List.filterMap_cons, uriOf_of_record? hr]
    rcases published_retract push hr with ⟨hu, hp⟩ | ⟨uri, hu, hp⟩
    · rw [hu, hp]
      rfl
    · rw [hu, hp]
      rfl

theorem sweeps_takeBack (hr : s.registry.record? id = some r) : Sweeps s ((s.bump id).retract id) [id] :=
  (sweeps_bump s id).trans (sweeps_retract (r := r.bump) (by rw [bump, record?_modifyRecord, if_pos rfl, hr]; rfl))

/-! ### The loops of new settings -/

theorem sweeps_analyzeAll (s : Service) : Sweeps s s.analyzeAll [] := by
  have h : Sweeps s s.analyzeAll (s.registry.all.filter (s.meets fun _ _ => false)) :=
    .foldl (fun t n _ => sweeps_round (fun _ _ => false) (fun _ => sweeps_analyze t n)
      fun _ _ => sweeps_analyze t n) _
  rwa [filter_meets_none] at h

theorem sweeps_retractAll (s : Service) :
    Sweeps s s.retractAll (s.registry.all.filter (s.meets fun _ _ => true)) := by
  refine .foldl (fun t n _ => sweeps_round _ (fun absent => ?_) fun r hr => sweeps_retract hr) _
  have q := retract_quiet t n
  refine .of_outbox q.delivery q.settings q.look ?_
  have hidden : (t.show_ n none).registry.record? n = none := by
    rw [show_, record?_modifyRecord, absent]
    split <;> rfl
  unfold retract publish
  rw [hidden]
  rfl

theorem sweeps_withdraw (s : Service) (id : Nat) :
    Sweeps s (s.withdraw id) ([id].filter (s.meets fun _ opened => !opened)) := by
  refine sweeps_round _ (fun absent => ?_) fun r hr => ?_
  · unfold withdraw unlessOpened
    rw [absent]
    exact .refl s
  · rw [withdraw_eq hr]
    cases r.opened with
    | true => exact .refl s
    | false => exact sweeps_takeBack hr

theorem sweeps_dropUnmapped (s : Service) (id : Nat) :
    Sweeps s (s.dropUnmapped id) ([id].filter (s.meets fun p opened => !opened && !s.isMapped p)) := by
  refine sweeps_round _ (fun absent => ?_) fun r hr => ?_
  · unfold dropUnmapped
    rw [absent]
    exact .refl s
  · rw [dropUnmapped_eq hr]
    cases r.opened <;> cases s.isMapped r.path
    · exact (sweeps_takeBack hr).trans (sweeps_forget _ _)
    all_goals exact .refl s

theorem sweeps_dropAllUnmapped (s : Service) :
    Sweeps s s.dropAllUnmapped
      (s.registry.all.filter (s.meets fun p opened => !opened && !s.isMapped p)) := by
  refine .foldl (fun t n same => ?_) _
  have mapped : t.isMapped = s.isMapped := by
    funext p
    rw [isMapped, isMapped, same]
  rw [← mapped]
  exact sweeps_dropUnmapped t n

/-! ### New settings -/

theorem sweeps_takeSettings (s : Service) (settings : Settings) :
    Sweeps (s.replaceSettings settings) (s.takeSettings settings)
      (s.registry.all.filter ((s.replaceSettings settings).meets (s.settings.drops settings))) := by
  rw [takeSettings_eq]
  unfold Settings.drops
  cases (SettingsChange.between s.settings settings).extensions with
  | true =>
    simp only [Bool.true_and, if_true]
    exact sweeps_dropAllUnmapped (s.replaceSettings settings)
  | false =>
    simp only [Bool.false_and, filter_meets_none]
    exact .refl _

/-- A known document stays known under new settings unless these drop it. -/
theorem known_takeSettings_iff (h : s.registry.Sound) :
    (s.takeSettings settings).registry.Known id r ↔
      s.registry.Known id r ∧ s.settings.drops settings r.path r.opened = false := by
  rw [takeSettings_eq]
  unfold Settings.drops
  cases (SettingsChange.between s.settings settings).extensions with
  | true =>
    have d : Dropping (s.replaceSettings settings) _ [] := dropping_all h
    simp only [Bool.true_and, if_true, Bool.and_eq_false_iff, Bool.not_eq_false']
    constructor
    · intro known
      refine ⟨d.old id r known, ?_⟩
      by_contra gone
      simp only [not_or, Bool.not_eq_true] at gone
      exact (d.gone id r (d.old id r known) List.not_mem_nil gone.1 gone.2).2 r known
    · rintro ⟨known, stays⟩
      exact d.kept id r known (Or.inr stays)
  | false =>
    simp only [Bool.false_and, and_true]
    exact Iff.rfl

/-- Bringing the known documents in line takes back the diagnostics of all, or of those that are not open. -/
theorem reconsider_sweeps (s : Service) {change : SettingsChange}
    (outdates : change.enable = true → change.bumps = true) :
    ∃ t, Sweeps s t (s.registry.all.filter (s.meets fun _ opened =>
        change.enable && !s.settings.diagnostics.enable ||
          change.workspace && !s.settings.diagnostics.workspace && !opened)) ∧
      s.reconsider change = if change.bumps || change.workspace then t.refresh else t := by
  rw [reconsider_eq]
  cases off : change.enable && !s.settings.diagnostics.enable with
  | true =>
    have bumps : change.bumps = true := outdates ((Bool.and_eq_true _ _).mp off).1
    refine ⟨s.retractAll, ?_, by rw [bumps]; rfl⟩
    simp only [Bool.true_or]
    exact sweeps_retractAll s
  | false =>
    have withdrawn : Sweeps s (s.withdrawClosed change) (s.registry.all.filter (s.meets fun _ opened =>
        change.workspace && !s.settings.diagnostics.workspace && !opened)) := by
      unfold withdrawClosed
      cases change.workspace && !s.settings.diagnostics.workspace with
      | true => exact .foldl (fun t n _ => sweeps_withdraw t n) _
      | false =>
        simp only [Bool.false_and, filter_meets_none]
        exact .refl s
    simp only [Bool.false_or, Bool.false_eq_true, if_false]
    cases change.bumps || change.workspace with
    | true =>
      have analyzed := withdrawn.trans (sweeps_analyzeAll _)
      rw [List.append_nil] at analyzed
      exact ⟨_, analyzed, rfl⟩
    | false => exact ⟨_, withdrawn, rfl⟩

/-- New settings of a service whose settings are known take back the diagnostics of the known documents that
they are to take back, each once, and ask the editor at the end, if it can be asked, to ask again. -/
theorem configure_sweeps (h : s.registry.Sound) (ready : s.ready = true) (settings : Settings) :
    let change := SettingsChange.between s.settings settings
    ∃ t ids, Sweeps (s.replaceSettings settings) t ids ∧ ids.Nodup ∧
      (∀ id, id ∈ ids ↔ ∃ r, s.registry.Known id r ∧
        s.settings.takesBack settings r.path r.opened = true) ∧
      s.configure settings = if change.bumps || change.workspace then t.refresh else t := by
  intro change
  let taken := s.takeSettings settings
  have sound : taken.registry.Sound := sound_takeSettings h
  have outdates : change.enable = true → change.bumps = true := fun on => by
    simp only [change, SettingsChange.between] at on
    simp [change, SettingsChange.bumps, SettingsChange.between, on]
  obtain ⟨t, sweeps, configured⟩ := reconsider_sweeps taken outdates
  rw [show taken.settings = settings from (takeSettings_onward s settings).settings] at sweeps
  have dropped := mem_filter_meets (s := s.replaceSettings settings) h (s.settings.drops settings)
  have hidden := mem_filter_meets sound (s.settings.hides settings)
  refine ⟨t, _, (sweeps_takeSettings s settings).trans sweeps, ?_, fun id => ?_, ?_⟩
  · refine List.Nodup.append (h.nodup_all.filter _) (sound.nodup_all.filter _) fun id hid hid' => ?_
    obtain ⟨r, known, drop⟩ := (dropped id).1 hid
    obtain ⟨r', known', -⟩ := (hidden id).1 hid'
    obtain ⟨known', keep⟩ := (known_takeSettings_iff h).1 known'
    obtain rfl := Option.some.inj (known.1.symm.trans known'.1)
    rw [drop] at keep
    cases keep
  · rw [List.mem_append]
    refine (or_congr (dropped id) (hidden id)).trans ⟨?_, ?_⟩
    · rintro (⟨r, known, drop⟩ | ⟨r, known, hide⟩)
      · exact ⟨r, known, by rw [Settings.takesBack_eq, drop, Bool.true_or]⟩
      · exact ⟨r, ((known_takeSettings_iff h).1 known).1, by rw [Settings.takesBack_eq, hide, Bool.or_true]⟩
    · rintro ⟨r, known, back⟩
      cases drop : s.settings.drops settings r.path r.opened with
      | true => exact Or.inl ⟨r, known, drop⟩
      | false =>
        rw [Settings.takesBack_eq, drop, Bool.false_or] at back
        exact Or.inr ⟨r, (known_takeSettings_iff h).2 ⟨known, drop⟩, back⟩
  · rw [configure, if_pos ready]
    exact configured

/-! ### What the editor is told -/

/-- Known documents with the same URI are the same. -/
theorem nodup_uris (nodup : ids.Nodup) (known : ∀ id ∈ ids, ∃ r, s.registry.Known id r) :
    (ids.filterMap s.uriOf).Nodup := by
  refine List.pairwise_filterMap.2 (List.Pairwise.imp_of_mem ?_ nodup)
  rintro m n hm hn apart u hu v hv rfl
  obtain ⟨r, known₁⟩ := known m hm
  obtain ⟨r', known₂⟩ := known n hn
  rw [uriOf_of_record? known₁.1] at hu
  rw [uriOf_of_record? known₂.1] at hv
  exact apart (Registry.Sound.unique known₁ known₂ (Uri.same_of_ofPath? hu hv))

/-- A document that has diagnostics still has some under new settings, unless these take them back. -/
theorem wants_of_takesBack {old new : Settings} {p : Path} {opened : Bool} (wanted : old.wants opened = true)
    (keeps : old.takesBack new p opened = false) :
    new.wants opened = true ∧ old.drops new p opened = false := by
  simp only [Settings.wants, Settings.takesBack, Settings.drops, SettingsChange.between] at wanted keeps ⊢
  revert wanted keeps
  cases old.diagnostics.enable <;> cases new.diagnostics.enable <;>
    cases old.diagnostics.workspace <;> cases new.diagnostics.workspace <;> cases opened <;>
      cases (new.extensions.stageOfPath p).isSome <;> cases (old.extensions != new.extensions) <;> decide

/-- A known document in scope is known and in scope after new settings, unless they take its diagnostics
back. -/
theorem inScope_configure (h : s.registry.Sound) (ready : s.ready = true) (known : s.registry.Known id r)
    (scope : s.inScope r = true) (keeps : s.settings.takesBack settings r.path r.opened = false) :
    ∃ r', (s.configure settings).registry.Known id r' ∧ (s.configure settings).inScope r' = true := by
  rw [inScope_eq, Bool.and_eq_true] at scope
  obtain ⟨wanted, stays⟩ := wants_of_takesBack scope.2 keeps
  have taken : (s.takeSettings settings).registry.Known id r :=
    (known_takeSettings_iff h).2 ⟨known, stays⟩
  obtain ⟨r', known', opened⟩ : ∃ r', (s.configure settings).registry.Known id r' ∧ r'.opened = r.opened := by
    rw [configure, if_pos ready]
    have deeds : Deeds (fun _ => False) (s.takeSettings settings) _ :=
      reconsider_deeds (sound_takeSettings h) (.between s.settings settings)
    refine (deeds.lasting
      (I := fun t => t.registry.Sound ∧ ∃ r', t.registry.Known id r' ∧ r'.opened = r.opened) ?_
      ⟨sound_takeSettings h, r, taken, rfl⟩).2
    rintro t t' d ⟨sound, r₁, known₁, opened₁⟩
    obtain ⟨r₂, known₂, -, opened₂⟩ := d.known sound known₁ fun no => no
    exact ⟨d.sound sound, r₂, known₂, opened₂.trans opened₁⟩
  have o := configure_onward s settings
  refine ⟨r', known', ?_⟩
  rw [inScope_eq, o.host, o.settings, opened]
  exact (Bool.and_eq_true _ _).mpr ⟨scope.1, wanted⟩

/-- **Retraction.** In a session in which diagnostics are published, and whose settings are known, new settings
publish nothing by themselves but empty diagnostics, once each for the URIs of the known documents whose
diagnostics they take back. These are all documents that had diagnostics and that are not known or out of scope
afterwards; and if validation is switched off, all that were known. -/
theorem configure_retracts {host : Host} {versions waits : Bool} {initial : Settings} {es : List Event}
    (ready : (session host (.push versions) initial waits es).ready = true) (new : Settings) :
    let s := session host (.push versions) initial waits es
    let s' := s.step (.configured new)
    ∃ told : List Uri,
      s'.published = (told.map fun uri => (uri, [])).reverse ++ s.published ∧ told.Nodup ∧
      (∀ uri, uri ∈ told ↔ ∃ id r, s.registry.Known id r ∧ Uri.ofPath? r.path = some uri ∧
        s.settings.takesBack new r.path r.opened = true) ∧
      (∀ id r uri, s.registry.Known id r → Uri.ofPath? r.path = some uri → s.inScope r = true →
        (∀ r', s'.registry.Known id r' → s'.inScope r' = false) → told.count uri = 1) ∧
      (s.settings.diagnostics.enable = true → new.diagnostics.enable = false →
        ∀ id r uri, s.registry.Known id r → Uri.ofPath? r.path = some uri → told.count uri = 1) := by
  intro s s'
  have sound : s.registry.Sound := (session_intact host (.push versions) initial waits es).registry
  have push : s.delivery.isPush = true := by
    rw [show s.delivery = .push versions from session_delivery host _ initial waits es]
    rfl
  obtain ⟨t, ids, sweeps, nodup, mem, configured⟩ := configure_sweeps sound ready new
  have quietly : s' = t := by
    have same : t.refresh = t := refresh_of_push (sweeps.delivery ▸ push)
    rw [same, ite_self] at configured
    exact configured
  have there : ∀ id ∈ ids, ∃ r, s.registry.Known id r := fun id hid => ((mem id).1 hid).imp fun _ h => h.1
  have told : ∀ uri, uri ∈ ids.filterMap s.uriOf ↔ ∃ id r, s.registry.Known id r ∧
      Uri.ofPath? r.path = some uri ∧ s.settings.takesBack new r.path r.opened = true := by
    intro uri
    rw [List.mem_filterMap]
    constructor
    · rintro ⟨id, hid, hu⟩
      obtain ⟨r, known, back⟩ := (mem id).1 hid
      rw [uriOf_of_record? known.1] at hu
      exact ⟨id, r, known, hu, back⟩
    · rintro ⟨id, r, known, hu, back⟩
      exact ⟨id, (mem id).2 ⟨r, known, back⟩, (uriOf_of_record? known.1).trans hu⟩
  have once : ∀ {id r uri}, s.registry.Known id r → Uri.ofPath? r.path = some uri →
      s.settings.takesBack new r.path r.opened = true → (ids.filterMap s.uriOf).count uri = 1 :=
    fun known hu back => List.count_eq_one_of_mem (nodup_uris nodup there) ((told _).2 ⟨_, _, known, hu, back⟩)
  refine ⟨ids.filterMap s.uriOf, ?_, nodup_uris nodup there, told, fun id r uri known hu scope out => ?_,
    fun on off id r uri known hu => ?_⟩
  · rw [quietly]
    exact sweeps.published push
  · refine once known hu (Bool.of_not_eq_false fun keeps => ?_)
    obtain ⟨r', known', scope'⟩ := inScope_configure sound ready known scope keeps
    exact nomatch (out r' known').symm.trans scope'
  · refine once known hu ?_
    simp [Settings.takesBack, SettingsChange.between, on, off]

/-- Settings that switch validation off, leave out documents that are not open and know no vertex shaders. -/
def bareSettings : Settings :=
  { Settings.standard with
    diagnostics := { DiagnosticSettings.standard with enable := false }
    extensions := { StageExtensions.standard with vertex := [] } }

/-- A shader on disk is lost to all three changes at once, and has its diagnostics taken back once. -/
theorem appearing_retracts :
    let s := session (diskHost "x".toList) (.push true) workspaceSettings false appearing
    s.ready = true ∧ s.published = [(shaderUri, fault 0)] ∧
      ∃ told : List Uri, (s.step (.configured bareSettings)).published =
        (told.map fun uri => (uri, [])).reverse ++ s.published ∧ told.count shaderUri = 1 := by
  intro s
  have ready : s.ready = true := by decide +kernel
  have look : ((s.registry.record? 0).any fun r =>
      decide (s.registry.find? r.path = some 0) && decide (Uri.ofPath? r.path = some shaderUri)) = true := by
    decide +kernel
  obtain ⟨r, hr, found⟩ := (Option.any_eq_true _ _).1 look
  simp only [Bool.and_eq_true, decide_eq_true_eq] at found
  obtain ⟨told, published, -, -, -, all⟩ := configure_retracts ready bareSettings
  exact ⟨ready, by decide +kernel, told, published,
    all (by decide +kernel) rfl 0 r shaderUri ⟨hr, found.1⟩ found.2⟩

end Service

end ShaderDiagnostics
