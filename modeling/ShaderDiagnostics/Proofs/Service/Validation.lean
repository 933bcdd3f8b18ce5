import ShaderDiagnostics.Proofs.Service.Upkeep
import ShaderDiagnostics.Proofs.Uri.Spelling

/-!
# Validations keep house

However far a poll lets a validation go, the invariant stays (`Kept.pollValidation`). The text that a
validation for the current token takes is the one that the document has as long as that token is current;
so when it ends, what it publishes is right at that moment.
-/

namespace ShaderDiagnostics.Service

variable {leaving : Nat → Prop} {s s' : Service} {id n : Nat} {r : Record} {v : ValidationRun}

/-! ### Notes -/

theorem Kept.noteCall (k : s.Kept leaving) (x : Exchange) (held : Bool) :
    (s.noteCall x held).Kept leaving := by
  refine k.aside (noteCall_quiet s x held) ?_ ?_ <;> unfold Service.noteCall <;> split <;> rfl

theorem Kept.measure (k : s.Kept leaving) (measurements : Measurements) :
    Kept leaving { s with measurements } :=
  k.aside (measure_quiet s measurements) rfl rfl

@[simp] theorem record?_noteCall (s : Service) (x : Exchange) (held : Bool) :
    (s.noteCall x held).registry = s.registry := by
  unfold noteCall
  split <;> rfl

@[simp] theorem published_noteCall (s : Service) (x : Exchange) (held : Bool) :
    (s.noteCall x held).published = s.published := by
  unfold noteCall
  split <;> rfl

theorem noteCall_modifyRecord (s : Service) (x : Exchange) (held : Bool) (f : Record → Record) :
    (s.modifyRecord id f).noteCall x held = (s.noteCall x held).modifyRecord id f := by
  unfold noteCall
  split <;> rfl

/-! ### The work of a validation -/

/-- The work of a validation may change as long as what is said of it stays true. -/
theorem Kept.modifyWork (k : s.Kept leaving) (hr : s.registry.record? id = some r)
    {f : Validation → Validation}
    (kept : ∀ v, r.results.run? n = some v → s.RunKept id r.path { v with work := f v.work })
    (current : ∀ v, r.results.run? n = some v → v.version = s.tokenOf r →
      s.RunCurrent leaving id r { v with work := f v.work }) :
    (s.modifyRecord id fun r => { r with results := r.results.modifyWork n f }).Kept leaving := by
  rw [modifyRecord_eq hr]
  have h := k.records id r hr
  have grows := Cache.grows_modifyWork r.results n f
  have g := r.grows_results grows
  have a := (replace_quiet hr g).around leaving id r
  refine k.replace hr g (h.withResults a (h.results.modifyWork n f) (h.latest.modifyWork n f) grows
    (fun m w hw => ?_) (fun m w hw ht => ?_) r.sequence)
  · rcases Cache.run?_modifyWork_cases hw with ⟨v, -, hv, rfl⟩ | ⟨-, hw⟩
    · exact (kept v hv).mono a.log
    · exact (h.runs m w hw).mono a.log
  · rcases Cache.run?_modifyWork_cases hw with ⟨v, -, hv, rfl⟩ | ⟨-, hw⟩
    · exact (current v hv ht).around a (.refl r) fun _ _ _ _ => rfl
    · exact (h.current m w hw ht).around a (.refl r) fun _ _ _ _ => rfl

theorem Kept.join (k : s.Kept leaving) (hr : s.registry.record? id = some r) (run job : Nat) :
    (s.join id run job).Kept leaving := by
  have h := k.records id r hr
  refine k.modifyWork hr (fun v hv => ?_) fun v hv ht => ?_
  · exact ⟨(h.runs run v hv).asked, (h.runs run v hv).failed⟩
  · have c := h.current run v hv ht
    exact ⟨c.live, c.agrees, c.reading, c.running, c.accurate, c.published⟩

/-- A validation waits for a read of the text that the document has. -/
theorem Kept.setReading (k : s.Kept leaving) (hr : s.registry.record? id = some r)
    (hv : r.results.run? n = some v) {m : Nat}
    (reading : v.version = s.tokenOf r → r.opened = false ∧ ∃ t, r.texts.run? m = some t ∧
      t.version = r.version) : (s.setProgress id n (.reading m)).Kept leaving := by
  have h := k.records id r hr
  refine k.modifyWork hr (fun w hw => ?_) fun w hw ht => ?_ <;>
    obtain rfl := Option.some.inj (hv.symm.trans hw)
  · refine ⟨fun _ _ _ hp => ?_, (h.runs n v hv).failed⟩
    cases hp
  · have c := h.current n v hv ht
    refine ⟨c.live, c.agrees, fun _ _ hm => ?_, fun _ _ _ _ hp => ?_, c.accurate, c.published⟩
    · cases hm
      exact reading ht
    · cases hp

/-- A validation runs the validator on the text that the document has. -/
theorem Kept.setRunning (k : s.Kept leaving) (hr : s.registry.record? id = some r)
    (hv : r.results.run? n = some v) {text : List Char} {since : Nat} {call : Pending (List Char)}
    {stage : Stage} {program : Path} (hm : v.work.snapshot.means? r.path = some (stage, program))
    (hx : HasRun s.log id ⟨program, v.work.snapshot.settings.arguments stage, text⟩ call.outcome)
    (running : v.version = s.tokenOf r → s.HasText id r text) :
    (s.setProgress id n (.running text since call)).Kept leaving := by
  have h := k.records id r hr
  refine k.modifyWork hr (fun w hw => ?_) fun w hw ht => ?_ <;>
    obtain rfl := Option.some.inj (hv.symm.trans hw)
  · refine ⟨fun _ _ _ hp => ?_, (h.runs n v hv).failed⟩
    cases hp
    exact ⟨stage, program, hm, hx⟩
  · have c := h.current n v hv ht
    refine ⟨c.live, c.agrees, fun _ _ hp => ?_, fun _ _ _ _ hp => ?_, c.accurate, c.published⟩
    · cases hp
    · cases hp
      exact running ht

/-! ### The end of a validation -/

/-- What the end of a validation tells the editor: what it has found is published if its token is current
and the path has a URI, and nothing else is. -/
structure Told (s s' : Service) (r : Record) (v : ValidationRun)
    (outcome : Except ServiceError (List Diagnostic)) : Prop where
  own : ∀ found uri, outcome = .ok found → v.version = s.tokenOf r → Uri.ofPath? r.path = some uri →
    s'.published = (uri, found) :: s.published
  others : (∀ found uri, outcome = .ok found → v.version = s.tokenOf r →
    Uri.ofPath? r.path ≠ some uri) → s'.published = s.published

theorem isCurrent_iff (hr : s.registry.record? id = some r) (t : Token) :
    s.isCurrent id t = true ↔ t = s.tokenOf r := by
  simp only [isCurrent, hr, beq_iff_eq]
  exact eq_comm

theorem conclude_ok (s : Service) (id n : Nat) (token : Token) (found : List Diagnostic) :
    s.conclude id n token (.ok found) =
      (if s.isCurrent id token then s.publish id found else s).modifyRecord id fun r =>
        { r with results := r.results.finish Token.covers n (.ok found) } := rfl

theorem record?_finish {t : Service} (ht : t.registry = s.registry) (hr : s.registry.record? id = some r)
    (outcome : Except ServiceError (List Diagnostic)) (m : Nat) :
    (t.modifyRecord id fun r =>
        { r with results := r.results.finish Token.covers n outcome }).registry.record? m =
      if m = id then some { r with results := r.results.finish Token.covers n outcome }
      else s.registry.record? m := by
  rw [record?_modifyRecord, ht]
  split
  next hm => rw [hm, hr]; rfl
  · rfl

/-- What becomes of the records when a validation ends: its own has a new result, and a new number if the
result is published. -/
theorem record?_conclude (push : s.delivery.isPush = true) (hr : s.registry.record? id = some r)
    (token : Token) (outcome : Except ServiceError (List Diagnostic)) :
    ∃ sequence, ∀ m, (s.conclude id n token outcome).registry.record? m =
      if m = id then some { r with results := r.results.finish Token.covers n outcome, sequence }
      else s.registry.record? m := by
  cases outcome with
  | error e => exact ⟨r.sequence, record?_finish rfl hr _⟩
  | ok found =>
    rw [conclude_ok]
    split
    · rcases publish_eq push hr found with ⟨-, hp⟩ | ⟨uri, outbox, -, hp, -⟩
      · rw [hp]
        exact ⟨r.sequence, record?_finish rfl hr _⟩
      · have advanced : (s.modifyRecord id Record.advance).registry.record? id = some r.advance := by
          rw [record?_modifyRecord, if_pos rfl, hr]
          rfl
        refine ⟨r.sequence + 1, fun m => ?_⟩
        rw [hp]
        refine (record?_finish (s := s.modifyRecord id Record.advance) rfl advanced _ m).trans ?_
        rw [record?_modifyRecord]
        split <;> rfl
    · exact ⟨r.sequence, record?_finish rfl hr _⟩

theorem told_conclude (push : s.delivery.isPush = true) (hr : s.registry.record? id = some r)
    (outcome : Except ServiceError (List Diagnostic)) :
    Told s (s.conclude id n v.version outcome) r v outcome := by
  cases outcome with
  | error e => exact ⟨fun _ _ h => (nomatch h), fun _ => rfl⟩
  | ok found =>
    rw [conclude_ok]
    split
    next hc =>
      have ht := (isCurrent_iff hr v.version).1 hc
      rcases publish_eq push hr found with ⟨hu, hp⟩ | ⟨uri, outbox, hu, -, hl⟩
      · rw [hp]
        exact ⟨fun _ _ _ _ h => (nomatch hu.symm.trans h), fun _ => rfl⟩
      · refine ⟨fun found' uri' ho _ hu' => ?_, fun h => absurd hu (h found uri rfl ht)⟩
        cases ho
        rw [hu] at hu'
        cases hu'
        exact hl
    next hc => exact ⟨fun _ _ _ ht => absurd ((isCurrent_iff hr v.version).2 ht) hc, fun _ => rfl⟩

theorem Told.last? {outcome : Except ServiceError (List Diagnostic)} (t : Told s s' r v outcome)
    (uri : Uri) :
    (∃ found, outcome = .ok found ∧ v.version = s.tokenOf r ∧ Uri.ofPath? r.path = some uri ∧
      s'.last? uri = some found) ∨
    (¬ (∃ found, outcome = .ok found ∧ v.version = s.tokenOf r ∧ Uri.ofPath? r.path = some uri) ∧
      s'.last? uri = s.last? uri) := by
  by_cases h : ∃ found uri', outcome = .ok found ∧ v.version = s.tokenOf r ∧
      Uri.ofPath? r.path = some uri'
  · obtain ⟨found, uri', ho, ht, hu⟩ := h
    have hl := last?_cons (t.own found uri' ho ht hu) uri
    by_cases he : uri = uri'
    · subst he
      exact Or.inl ⟨found, ho, ht, hu, by rw [hl, if_pos rfl]⟩
    · refine Or.inr ⟨?_, by rw [hl, if_neg he]⟩
      rintro ⟨-, -, -, hu'⟩
      exact he (Option.some.inj (hu'.symm.trans hu))
  · refine Or.inr ⟨fun ⟨found, ho, ht, hu⟩ => h ⟨found, uri, ho, ht, hu⟩,
      last?_of_published (t.others fun found uri' ho ht hu => h ⟨found, uri', ho, ht, hu⟩) uri⟩

/-- The record of a validation that ends: for its current token nothing else is shown, since no other run
for that token has ended well. -/
theorem RecordKept.conclude (h : s.RecordKept leaving id r) (a : Around leaving leaving s s' id r)
    (hv : r.results.run? n = some v) (ho : v.outcome = none)
    {outcome : Except ServiceError (List Diagnostic)} (told : Told s s' r v outcome)
    (right : ∀ found, outcome = .ok found → v.version = s.tokenOf r →
      s.Accurate v.work.snapshot id r found)
    (failing : ∀ e, outcome = .error e → s.Failing) (sequence : Int32) :
    s'.RecordKept leaving id { r with results := r.results.finish Token.covers n outcome, sequence } := by
  have only : ∀ m w, v.version = s.tokenOf r → r.results.run? m = some w → w.version = s.tokenOf r →
      Cache.Unfailed w → m = n := fun m w ht hw hwt hu =>
    h.latest.once m n w v hw hv hwt ht hu (Cache.unfailed_of_none ho)
  refine h.withResults a (h.results.finish n outcome)
    (h.latest.finish Token.covers_antisymm h.results n outcome) (Cache.grows_finish _ _ _ _)
    (fun i w hw => ?_) (fun i w hw ht => ?_) sequence
  · rcases Cache.run?_finish_cases hv ho hw with ⟨rfl, rfl⟩ | ⟨-, hw⟩
    · have hk := (h.runs i v hv).mono a.log
      exact ⟨hk.asked, fun e he => (failing e (Option.some.inj he)).mono a.log⟩
    · exact (h.runs i w hw).mono a.log
  · rcases Cache.run?_finish_cases hv ho hw with ⟨rfl, rfl⟩ | ⟨hne, hw⟩
    · have c := h.current i v hv ht
      refine ⟨a.live c.live, c.agrees.trans (a.agrees c.live), fun hn => ?_, fun hn => ?_,
        fun found hf => ?_, fun found hf uri hu => ?_⟩
      · cases hn
      · cases hn
      · exact (right found (Option.some.inj hf) ht).around a (.refl r) c.live.found
      · rw [last?_cons (told.own found uri (Option.some.inj hf) ht hu), if_pos rfl]
    · refine (h.current i w hw ht).around a (.refl r) fun found hf uri hu => ?_
      rcases told.last? uri with ⟨-, -, hvt, -⟩ | ⟨-, hl⟩
      · exact absurd (only i w hvt hw ht (Cache.unfailed_of_ok hf)) hne
      · exact hl

/-- A validation ends: for the current token it has found what is right, or the host has failed. -/
theorem Kept.conclude (k : s.Kept leaving) (hr : s.registry.record? id = some r)
    (hv : r.results.run? n = some v) (ho : v.outcome = none)
    {outcome : Except ServiceError (List Diagnostic)}
    (right : ∀ found, outcome = .ok found → v.version = s.tokenOf r →
      s.Accurate v.work.snapshot id r found)
    (failing : ∀ e, outcome = .error e → s.Failing) :
    (s.conclude id n v.version outcome).Kept leaving := by
  have q := conclude_quiet s id n v.version outcome
  have told : Told s (s.conclude id n v.version outcome) r v outcome := told_conclude k.push hr outcome
  obtain ⟨sequence, hrecords⟩ := record?_conclude (n := n) k.push hr v.version outcome
  generalize s.conclude id n v.version outcome = s' at q told hrecords
  refine k.quiet q (fun m r₁ h₁ => ?_) fun uri found hu hne => ?_
  · rw [hrecords] at h₁
    split at h₁
    next hm =>
      subst hm
      cases h₁
      exact (k.records m r hr).conclude (q.around leaving m r) hv ho told right failing sequence
    next hm =>
      refine (k.records m r₁ h₁).around (q.around leaving m r₁) (fun hlive uri hu => ?_) r₁.sequence
        r₁.display
      rcases told.last? uri with ⟨-, -, hvt, hu', -⟩ | ⟨-, hl⟩
      · have hl := ((k.records id r hr).current n v hv hvt).live
        exact absurd (Registry.Sound.unique ⟨h₁, hlive.found⟩ ⟨hr, hl.found⟩
          (Uri.same_of_ofPath? hu hu')) hm
      · exact hl
  · rcases told.last? uri with ⟨-, -, hvt, hu', -⟩ | ⟨-, hl⟩
    · obtain ⟨r', hr', g⟩ := q.records id r hr
      have live := ((k.records id r hr).current n v hv hvt).live
      exact ⟨id, r', hr', ((q.around leaving id r).live live).grows g, g.path ▸ hu'⟩
    · obtain ⟨m, r₁, h₁, hlive, hp⟩ := k.owned uri found (hl ▸ hu) hne
      obtain ⟨r', hr', g⟩ := q.records m r₁ h₁
      exact ⟨m, r', hr', ((q.around leaving m r₁).live hlive).grows g, g.path ▸ hp⟩

/-- From the one state to the other, a validation of the record for a token, which is the current one, has
ended, and what it has found has been published, as the only thing. -/
def Publishes (s s' : Service) (id : Nat) (token : Token) (uri : Uri) (found : List Diagnostic) : Prop :=
  ∃ n r v, s'.registry.record? id = some r ∧ r.results.run? n = some v ∧ v.version = token ∧
    s'.tokenOf r = token ∧ v.outcome = some (.ok found) ∧ Uri.ofPath? r.path = some uri ∧
    (∀ r₀ v₀, s.registry.record? id = some r₀ → r₀.results.run? n = some v₀ → v₀.outcome = none) ∧
    s'.published = (uri, found) :: s.published

/-- Nothing has been published but what a validation of the record has found. -/
def Announces (s s' : Service) (id : Nat) : Prop :=
  s'.published = s.published ∨ ∃ token uri found, Publishes s s' id token uri found

theorem Announces.after {s₀ : Service} (h : Announces s s' id) (q : Quiet s₀ s)
    (same : s.published = s₀.published) : Announces s₀ s' id := by
  rcases h with h | ⟨token, uri, found, n, r, v, hr, hv, ht, hc, ho, hu, before, sent⟩
  · exact Or.inl (h.trans same)
  · refine Or.inr ⟨token, uri, found, n, r, v, hr, hv, ht, hc, ho, hu, fun r₀ v₀ h₀ hv₀ => ?_,
      same ▸ sent⟩
    obtain ⟨r₁, h₁, g⟩ := q.records id r₀ h₀
    obtain ⟨v₁, hv₁, -, hend⟩ := g.results n v₀ hv₀
    cases hv₀o : v₀.outcome with
    | none => rfl
    | some o => exact nomatch (before r₁ v₁ h₁ hv₁).symm.trans (hend o hv₀o)

theorem conclude_announces (push : s.delivery.isPush = true) (hr : s.registry.record? id = some r)
    (hv : r.results.run? n = some v) (ho : v.outcome = none)
    (outcome : Except ServiceError (List Diagnostic)) :
    Announces s (s.conclude id n v.version outcome) id := by
  have q := conclude_quiet s id n v.version outcome
  have told : Told s (s.conclude id n v.version outcome) r v outcome := told_conclude push hr outcome
  obtain ⟨sequence, hrecords⟩ := record?_conclude (n := n) push hr v.version outcome
  generalize s.conclude id n v.version outcome = s' at q told hrecords
  by_cases h : ∃ found uri, outcome = .ok found ∧ v.version = s.tokenOf r ∧
      Uri.ofPath? r.path = some uri
  · obtain ⟨found, uri, rfl, ht, hu⟩ := h
    have hr' := hrecords id
    have hv' : (r.results.finish Token.covers n (.ok found)).run? n = _ :=
      Cache.run?_finish hv ho (.ok found) n
    rw [if_pos rfl] at hr' hv'
    refine Or.inr ⟨v.version, uri, found, n, _, _, hr', hv', rfl, ?_, rfl, hu, fun r₀ v₀ h₀ hv₀ => ?_,
      told.own found uri rfl ht hu⟩
    · rw [ht]
      simp only [tokenOf, Record.token, q.settingsVersion]
    · rw [hr] at h₀
      cases h₀
      rw [hv] at hv₀
      cases hv₀
      exact ho
  · exact Or.inl (told.others fun found uri ho ht hu => h ⟨found, uri, ho, ht, hu⟩)

/-! ### Polls -/

/-- A validation that goes on keeps house. -/
structure GoesOn (leaving : Nat → Prop) (s s' : Service) (id : Nat) : Prop where
  kept : s'.Kept leaving
  announces : Announces s s' id

theorem GoesOn.after {s₀ : Service} (h : GoesOn leaving s s' id) (q : Quiet s₀ s)
    (same : s.published = s₀.published) : GoesOn leaving s₀ s' id :=
  ⟨h.kept, h.announces.after q same⟩

theorem Kept.conclude_goesOn (k : s.Kept leaving) (hr : s.registry.record? id = some r)
    (hv : r.results.run? n = some v) (ho : v.outcome = none)
    {outcome : Except ServiceError (List Diagnostic)}
    (right : ∀ found, outcome = .ok found → v.version = s.tokenOf r →
      s.Accurate v.work.snapshot id r found)
    (failing : ∀ e, outcome = .error e → s.Failing) :
    GoesOn leaving s (s.conclude id n v.version outcome) id :=
  ⟨k.conclude hr hv ho right failing, conclude_announces k.push hr hv ho outcome⟩

section

variable {stage : Stage} {program : Path} {text : List Char}

theorem Kept.pollRun (k : s.Kept leaving) (hr : s.registry.record? id = some r)
    (hv : r.results.run? n = some v) (ho : v.outcome = none)
    (hm : v.work.snapshot.means? r.path = some (stage, program)) {call : Pending (List Char)}
    (hx : HasRun s.log id ⟨program, v.work.snapshot.settings.arguments stage, text⟩ call.outcome)
    (running : v.version = s.tokenOf r → s.HasText id r text) (since : Nat) :
    GoesOn leaving s (s.pollRun id n v.version v.work.snapshot text since call) id := by
  unfold Service.pollRun
  split
  · split
    next e he =>
      obtain ⟨m, hx⟩ := hx
      refine k.conclude_goesOn hr hv ho (fun _ h => nomatch h) fun _ _ => ⟨_, hx, ?_⟩
      rw [he]
      rfl
    next output hout =>
      have q := measure_quiet s (s.measurements.add ((s.clock - since) * 1000000))
      have k' := k.measure (s.measurements.add ((s.clock - since) * 1000000))
      refine (k'.conclude_goesOn hr hv ho (fun found hf ht => ?_) fun _ h => ?_).after q rfl
      · cases hf
        unfold Accurate
        rw [hm]
        exact ⟨text, output, running ht, hout ▸ hx, rfl⟩
      · cases h
  · exact ⟨k, Or.inl rfl⟩

/-- The record and its validation after a note on how far the validation has come. -/
theorem record?_setProgress (hr : s.registry.record? id = some r) (hv : r.results.run? n = some v)
    (p : Progress) :
    ∃ r', (s.setProgress id n p).registry.record? id = some r' ∧ r.Grows r' ∧
      r'.results.run? n = some { v with work := { v.work with progress := p } } := by
  refine ⟨_, by rw [setProgress, record?_modifyRecord, if_pos rfl, hr]; rfl,
    r.grows_results (Cache.grows_modifyWork _ _ _), ?_⟩
  rw [Cache.run?_modifyWork, if_pos rfl, hv]
  rfl

theorem Kept.invoke (k : s.Kept leaving) (hr : s.registry.record? id = some r)
    (hv : r.results.run? n = some v) (ho : v.outcome = none)
    (hm : v.work.snapshot.means? r.path = some (stage, program))
    (running : v.version = s.tokenOf r → s.HasText id r text) :
    GoesOn leaving s (s.invoke id n v.version v.work.snapshot stage program text) id := by
  let i : Invocation := ⟨program, v.work.snapshot.settings.arguments stage, text⟩
  let call := s.call (s.host.run i) s.host.holdsRuns
  let s₁ := s.noteCall (.run id n i (s.host.run i)) s.host.holdsRuns
  let s₂ := s₁.setProgress id n (.running text s₁.clock call)
  have q₁ : Quiet s s₁ := noteCall_quiet s _ _
  have q₂ : Quiet s₁ s₂ := setProgress_quiet s₁ id n _
  have k₁ : s₁.Kept leaving := k.noteCall _ _
  have hr₁ : s₁.registry.record? id = some r := by
    show (s.noteCall _ _).registry.record? id = some r
    rwa [record?_noteCall]
  have hx₁ : HasRun s₁.log id i call.outcome := ⟨n, mem_log_noteCall s _ _⟩
  have running₁ : v.version = s₁.tokenOf r → s₁.HasText id r text := by
    intro ht
    have ht' : v.version = s.tokenOf r := ht.trans (q₁.tokenOf (.refl r))
    exact (running ht').around (q₁.around leaving id r) (.refl r)
      ((k.records id r hr).current n v hv ht').live.found
  have k₂ : s₂.Kept leaving := k₁.setRunning hr₁ hv hm hx₁ running₁
  obtain ⟨r₂, hr₂, g, hv₂⟩ := record?_setProgress hr₁ hv (.running text s₁.clock call)
  refine (k₂.pollRun hr₂ hv₂ ho (g.path ▸ hm) (hx₁.mono q₂.log) (fun ht => ?_) s₁.clock).after
    (q₁.trans q₂) (published_noteCall s _ _)
  have ht₁ : v.version = s₁.tokenOf r := ht.trans (q₂.tokenOf g)
  exact (running₁ ht₁).around (q₂.around leaving id r) g
    ((k₁.records id r hr₁).current n v hv ht₁).live.found

/-- A read that is looked after. If it has ended then, it is as it was said to be when it started. -/
theorem Kept.pollText (k : s.Kept leaving) (hr : s.registry.record? id = some r) (m : Nat) :
    (s.modifyRecord id fun _ => (r.pollText m s.closed).1).Kept leaving ∧
      ∀ o, (r.pollText m s.closed).2 = some o → ∃ t, r.texts.run? m = some t ∧ t.work.outcome = o := by
  have h := k.records id r hr
  have same : (s.modifyRecord id fun _ => r).Kept leaving :=
    k.replace hr (.refl r) (h.around ((replace_quiet hr (.refl r)).around leaving id r) (fun _ _ _ => rfl)
      r.sequence r.display)
  unfold Record.pollText
  split
  · exact ⟨same, fun _ ho => nomatch ho⟩
  next t ht =>
    have kt := h.reads m t ht
    split
    next o ho =>
      refine ⟨same, fun o' ho' => ⟨t, ht, ?_⟩⟩
      cases ho'
      exact (kt.outcome o ho).symm
    next ho =>
      split
      · have grows := Cache.grows_finish Record.coversText r.texts m t.work.outcome
        have a := (replace_quiet hr (r.grows_texts grows)).around leaving id r
        refine ⟨k.replace hr (r.grows_texts grows) (h.withTexts a rfl (h.texts.finish m _) grows
          fun i u hu => ?_), fun o' ho' => ⟨t, ht, Option.some.inj ho'⟩⟩
        rcases Cache.run?_finish_cases ht ho hu with ⟨rfl, rfl⟩ | ⟨-, hu⟩
        · exact ⟨kt.version, kt.logged.mono a.log, fun o ho => (Option.some.inj ho).symm⟩
        · exact (h.reads i u hu).mono a.log (UInt32.le_refl _)
      · exact ⟨same, fun _ ho => nomatch ho⟩

theorem results_pollText (r : Record) (m : Nat) (closed : List Nat) :
    (r.pollText m closed).1.results = r.results := by
  unfold Record.pollText
  split
  · rfl
  · split
    · rfl
    · split <;> rfl

theorem Kept.pollRead (k : s.Kept leaving) (hr : s.registry.record? id = some r)
    (hv : r.results.run? n = some v) (ho : v.outcome = none)
    (hm : v.work.snapshot.means? r.path = some (stage, program)) {m : Nat}
    (reading : v.version = s.tokenOf r →
      r.opened = false ∧ ∃ t, r.texts.run? m = some t ∧ t.version = r.version) :
    GoesOn leaving s (s.pollRead id n v.version v.work.snapshot stage program m) id := by
  unfold Service.pollRead
  simp only [hr]
  obtain ⟨k', ended⟩ := k.pollText hr m
  have g := r.grows_pollText m s.closed
  have hv' : (r.pollText m s.closed).1.results.run? n = some v := by rwa [results_pollText]
  have q := replace_quiet hr g
  have hr' : (s.modifyRecord id fun _ => (r.pollText m s.closed).1).registry.record? id =
      some (r.pollText m s.closed).1 := by
    rw [record?_modifyRecord, if_pos rfl, hr]
    rfl
  generalize r.pollText m s.closed = p at k' ended g hv' q hr'
  obtain ⟨r', o⟩ := p
  have current : v.version = (s.modifyRecord id fun _ => r').tokenOf r' → v.version = s.tokenOf r :=
    fun ht => ht.trans (q.tokenOf g)
  match o with
  | none =>
    refine ⟨k'.setReading hr' hv' fun ht => ?_, Or.inl rfl⟩
    obtain ⟨hc, t, ht, htv⟩ := reading (current ht)
    obtain ⟨t', ht', hv', -⟩ := g.texts m t ht
    exact ⟨g.opened.trans hc, t', ht', (hv'.trans htv).trans g.version.symm⟩
  | some (.ok text) =>
    refine (k'.invoke hr' hv' ho (g.path ▸ hm) fun ht => ?_).after q rfl
    obtain ⟨hc, t, ht, htv⟩ := reading (current ht)
    obtain ⟨t', ht', hto⟩ := ended _ rfl
    obtain rfl := Option.some.inj (ht.symm.trans ht')
    have logged := ((k.records id r hr).reads m t ht).logged
    rw [hto, htv] at logged
    unfold HasText
    rw [g.opened, g.path, g.version, hc]
    exact logged
  | some (.error e) =>
    refine (k'.conclude_goesOn hr' hv' ho (fun _ h => ?_) fun _ _ => ?_).after q rfl
    · cases h
    · obtain ⟨t, ht, hto⟩ := ended _ rfl
      obtain ⟨m, logged⟩ := ((k.records id r hr).reads m t ht).logged
      refine ⟨_, logged, ?_⟩
      rw [hto]
      rfl

/-- The text of a document that is not open is asked for: it is known already, a read is under way that
does, or a read starts. -/
theorem requestText_closed (closed : r.opened = false) (editor : Editor) (call : Pending (List Char)) :
    (∃ u text, r.texts.completed = some (u, text) ∧ Record.coversText u r.version = true ∧
      r.requestText editor call = (r, .known text)) ∨
    (∃ m t, r.texts.run? m = some t ∧ Record.coversText t.version r.version = true ∧
      r.requestText editor call = (r, .read m false)) ∨
    (Cache.coveredBy Record.coversText r.texts.completedVersion r.version = false ∧
      r.requestText editor call =
        ({ r with texts := r.texts.start r.version call }, .read r.texts.runs.length true)) := by
  have ha := Cache.request_answered Record.coversText r.texts r.version call
  unfold Record.requestText
  rw [if_neg (by simp [closed])]
  generalize r.texts.request Record.coversText r.version call = p at ha
  cases ha with
  | completed slot covered => exact Or.inl ⟨_, _, slot, covered, rfl⟩
  | joined slot run covered => exact Or.inr (Or.inl ⟨_, _, run, covered, rfl⟩)
  | started bare free => exact Or.inr (Or.inr ⟨bare, rfl⟩)

/-- Asking for the text of a document that is not open. The text is known already, or a read for the
version that the document has is under way, which has started just now or before. -/
theorem requestText_cases (h : s.RecordKept leaving id r) (ho : r.opened = false) (held : Bool) :
    (∃ text, r.requestText s.editor (s.call (s.host.read r.path) held) = (r, .known text) ∧
      s.HasText id r text) ∨
    (∃ m t, r.requestText s.editor (s.call (s.host.read r.path) held) = (r, .read m false) ∧
      r.texts.run? m = some t ∧ t.version = r.version) ∨
    ∃ c m, r.requestText s.editor (s.call (s.host.read r.path) held) =
        ({ r with texts := c }, .read m true) ∧
      c = r.texts.start r.version (s.call (s.host.read r.path) held) ∧ m = r.texts.runs.length ∧
      c.Sound Record.coversText := by
  have exactly : ∀ {m t}, r.texts.run? m = some t → Record.coversText t.version r.version = true →
      t.version = r.version := fun ht hc =>
    UInt32.le_antisymm (h.reads _ _ ht).version (by simpa [Record.coversText] using hc)
  rcases requestText_closed ho s.editor (s.call (s.host.read r.path) held) with
    ⟨u, text, slot, covered, he⟩ | ⟨m, t, ht, covered, he⟩ | ⟨bare, he⟩
  · refine Or.inl ⟨text, he, ?_⟩
    obtain ⟨m, t, ht, rfl, hto⟩ := h.texts.completed u text slot
    have logged := (h.reads m t ht).logged
    rw [← (h.reads m t ht).outcome _ hto, exactly ht covered] at logged
    unfold HasText
    rw [ho]
    exact logged
  · exact Or.inr (Or.inl ⟨m, t, he, ht, exactly ht covered⟩)
  · exact Or.inr (Or.inr ⟨_, _, he, rfl, rfl, h.texts.start _ bare⟩)

/-- A read starts for the version that the document has, and it is noted what it will answer. -/
theorem Kept.startRead (k : s.Kept leaving) (hr : s.registry.record? id = some r) {held : Bool}
    (sound : (r.texts.start r.version (s.call (s.host.read r.path) held)).Sound Record.coversText) :
    ((s.modifyRecord id fun _ =>
      { r with texts := r.texts.start r.version (s.call (s.host.read r.path) held) }).noteCall
        (.read id n r.path r.version (s.host.read r.path)) held).Kept leaving := by
  rw [noteCall_modifyRecord]
  have q := noteCall_quiet s (.read id n r.path r.version (s.host.read r.path)) held
  have k₁ := k.noteCall (.read id n r.path r.version (s.host.read r.path)) held
  have noted := mem_log_noteCall s (.read id n r.path r.version (s.host.read r.path)) held
  have hr₁ : (s.noteCall (.read id n r.path r.version (s.host.read r.path)) held).registry.record? id =
      some r := by rwa [record?_noteCall]
  have grows := Cache.grows_start r.texts r.version (s.call (s.host.read r.path) held)
  have h₁ := k₁.records id r hr₁
  have q₁ := replace_quiet hr₁ (r.grows_texts grows)
  refine k₁.replace hr₁ (r.grows_texts grows) (h₁.withTexts (q₁.around leaving id r) rfl sound grows
    fun i u hu => ?_)
  rcases Cache.run?_start_cases hu with ⟨-, rfl⟩ | ⟨-, hu⟩
  · exact ⟨UInt32.le_refl _, ⟨n, q₁.log _ noted⟩, fun _ ho => nomatch ho⟩
  · exact (h₁.reads i u hu).mono q₁.log (UInt32.le_refl _)

theorem Kept.takeText (k : s.Kept leaving) (hr : s.registry.record? id = some r)
    (hv : r.results.run? n = some v) (ho : v.outcome = none)
    (hm : v.work.snapshot.means? r.path = some (stage, program)) :
    GoesOn leaving s (s.takeText id n v.version v.work.snapshot stage program) id := by
  have h := k.records id r hr
  unfold Service.takeText
  simp only [hr]
  cases hop : r.opened with
  | true =>
    obtain ⟨-, text, ht⟩ := h.opened hop
    have known : r.requestText s.editor (s.call (s.host.read r.path) s.host.holdsReads) =
        (r, .known text) := by
      simp only [Record.requestText, hop, ht, if_true]
    rw [known]
    refine k.invoke hr hv ho hm fun _ => ?_
    unfold HasText
    rw [hop]
    exact ht
  | false =>
    rcases requestText_cases h hop s.host.holdsReads with
      ⟨text, he, ht⟩ | ⟨m, t, he, ht, htv⟩ | ⟨c, m, he, rfl, rfl, sound⟩
    · rw [he]
      exact k.invoke hr hv ho hm fun _ => ht
    · rw [he]
      have q := replace_quiet hr (.refl r)
      have k' : (s.modifyRecord id fun _ => r).Kept leaving :=
        k.replace hr (.refl r) (h.around (q.around leaving id r) (fun _ _ _ => rfl) r.sequence r.display)
      have hr' : (s.modifyRecord id fun _ => r).registry.record? id = some r := by
        rw [record?_modifyRecord, if_pos rfl, hr]
        rfl
      exact (k'.pollRead hr' hv ho hm fun _ => ⟨hop, t, ht, htv⟩).after q rfl
    · rw [he]
      have grows := Cache.grows_start r.texts r.version (s.call (s.host.read r.path) s.host.holdsReads)
      have q := (replace_quiet hr (r.grows_texts grows)).trans
        (noteCall_quiet _ (.read id n r.path r.version (s.host.read r.path)) s.host.holdsReads)
      have new := Cache.run?_start r.texts r.version (s.call (s.host.read r.path) s.host.holdsReads)
        r.texts.runs.length
      rw [if_pos rfl] at new
      have k' := k.startRead (n := n) hr sound
      refine (k'.pollRead (r := { r with texts := r.texts.start r.version _ }) ?_ hv ho hm fun _ =>
        ⟨hop, _, new, rfl⟩).after q (published_noteCall _ _ _)
      rw [record?_noteCall, record?_modifyRecord, if_pos rfl, hr]
      rfl

end

/-- A validation of a record goes on. -/
theorem Kept.pollValidation (k : s.Kept leaving) (id n : Nat) :
    GoesOn leaving s (s.pollValidation id n) id := by
  unfold Service.pollValidation
  cases hval : s.validation? id n with
  | none => exact ⟨k, Or.inl rfl⟩
  | some v =>
    obtain ⟨r, hr, hv⟩ := Option.bind_eq_some_iff.1 hval
    have h := k.records id r hr
    dsimp only
    cases ho : v.outcome with
    | some _ => exact ⟨k, Or.inl rfl⟩
    | none =>
      rw [if_neg (by decide), means?_eq hr]
      cases hm : v.work.snapshot.means? r.path with
      | none =>
        refine k.conclude_goesOn hr hv ho (fun found hf _ => ?_) fun _ hf => ?_
        · cases hf
          unfold Accurate
          rw [hm]
        · cases hf
      | some m =>
        obtain ⟨stage, program⟩ := m
        cases hp : v.work.progress with
        | fresh => exact k.takeText hr hv ho hm
        | reading m => exact k.pollRead hr hv ho hm fun ht => (h.current n v hv ht).reading ho m hp
        | running text since call =>
          obtain ⟨stage', program', hm', hx⟩ := (h.runs n v hv).asked text since call hp
          obtain ⟨rfl, rfl⟩ := Prod.mk.inj (Option.some.inj (hm.symm.trans hm'))
          exact k.pollRun hr hv ho hm hx (fun ht => (h.current n v hv ht).running ho text since call hp)
            since

end ShaderDiagnostics.Service
