import ShaderDiagnostics.Proofs.Service.Provenance
import ShaderDiagnostics.Proofs.Service.Published

/-!
# Settings that validations cannot tell apart

Results are kept under the version of the settings, which rises only if a change of the settings counts as one
that outdates results. So whatever validations get from the settings must be part of that comparison: the stage
of a path, the name of the validator, its arguments and how its report is read. It is all that they get: at
every poll a validation does the same under settings that agree (`Service.goOn_agree`).

Settings come in one after another, and results are kept over many of them. As agreeing is an equivalence
relation, the settings of any two moments agree as long as the version has not risen in between, and what has
followed from the settings of the one follows from those of the other (`Service.unbumped_invisible`).
-/

namespace ShaderDiagnostics.Service

variable {s s₀ : Service} {id n : Nat} {p : Path} {c : UInt32} {v : ValidationRun} {sn sn' : Snapshot} {e : Event}
  {es : List Event} {log : List Exchange} {found : List Diagnostic} {resolve : String → Option Path}

/-! ### One poll of a validation -/

/-- A validation goes on as far as it can, by a snapshot that need not be its own. -/
def goOn (s : Service) (id n : Nat) (v : ValidationRun) (sn : Snapshot) : Service :=
  if v.outcome.isSome then s
  else
    match s.means? id sn with
    | none => s.conclude id n v.version (.ok [])
    | some (stage, program) =>
      match v.work.progress with
      | .fresh => s.takeText id n v.version sn stage program
      | .reading read => s.pollRead id n v.version sn stage program read
      | .running text since call => s.pollRun id n v.version sn text since call

/-- A validation that is polled goes on by its own snapshot. -/
theorem pollValidation_eq (hv : s.validation? id n = some v) :
    s.pollValidation id n = s.goOn id n v v.work.snapshot := by
  unfold pollValidation
  split
  next none => exact nomatch hv.symm.trans none
  next w hw =>
    obtain rfl := Option.some.inj (hv.symm.trans hw)
    exact rfl

theorem means?_agree (h : sn.Agree sn') (s : Service) (id : Nat) : s.means? id sn = s.means? id sn' := by
  unfold means?
  rw [h.validator, h.settings.extensions]

theorem pollRun_agree (h : sn.Agree sn') (s : Service) (id n : Nat) (token : Token) (text : List Char)
    (since : Nat) (call : Pending (List Char)) :
    s.pollRun id n token sn text since call = s.pollRun id n token sn' text since call := by
  unfold pollRun
  rw [h.settings.marking]

theorem invoke_agree (h : sn.Agree sn') (s : Service) (id n : Nat) (token : Token) (stage : Stage)
    (program : Path) (text : List Char) :
    s.invoke id n token sn stage program text = s.invoke id n token sn' stage program text := by
  simp only [invoke, h.settings.arguments stage, pollRun_agree h]

theorem pollRead_agree (h : sn.Agree sn') (s : Service) (id n : Nat) (token : Token) (stage : Stage)
    (program : Path) (read : Nat) :
    s.pollRead id n token sn stage program read = s.pollRead id n token sn' stage program read := by
  simp only [pollRead, invoke_agree h]

theorem takeText_agree (h : sn.Agree sn') (s : Service) (id n : Nat) (token : Token) (stage : Stage)
    (program : Path) : s.takeText id n token sn stage program = s.takeText id n token sn' stage program := by
  simp only [takeText, invoke_agree h, pollRead_agree h]

/-- Under snapshots that agree a validation does the same: it asks the host for the same, and leaves the same
result in the cache and the same messages. -/
theorem goOn_agree (h : sn.Agree sn') (s : Service) (id n : Nat) (v : ValidationRun) :
    s.goOn id n v sn = s.goOn id n v sn' := by
  simp only [goOn, means?_agree h, takeText_agree h, pollRead_agree h, pollRun_agree h]

/-- Under snapshots that agree the same diagnostics follow. -/
theorem Derived.agree (h : Derived s₀ es log id p c sn found) (ha : sn.Agree sn') :
    Derived s₀ es log id p c sn' found := by
  unfold Derived at h ⊢
  rw [← ha.means?]
  split at h
  · exact h
  next stage program hm =>
    obtain ⟨text, output, supplied, run, hf⟩ := h
    refine ⟨text, output, supplied, ?_, ?_⟩
    · rwa [← ha.settings.arguments]
    · rwa [← ha.settings.marking]

/-! ### The settings of a session -/

/-- A poll leaves alone what validations go by. -/
theorem Intact.poll_onward (h : s.Intact) (job : Nat) : Onward s (s.poll job) := by
  rcases h.poll_cases job with same | ⟨b, t, -, course, leaves⟩
  · rw [same]
    exact .refl s
  · obtain ⟨jobs, outbox, he⟩ := leaves.beside
    have beside : Onward { t with outbox } { t with outbox, jobs } :=
      beside_onward _ _ _ _ _ fun _ r hr => ⟨r, hr, rfl, .refl _⟩
    rw [he]
    exact (course.quiet.onward.trans (outbox_quiet t outbox).onward).trans beside

/-- Only new settings and a new host change what validations go by. -/
theorem Intact.step_onward (h : s.Intact) (settings : ∀ settings, e ≠ .configured settings)
    (host : ∀ host, e ≠ .host host) : Onward s (s.step e) := by
  have spawned : ∀ (t : Service) (b : Job), Onward t (t.spawn b) := fun t b =>
    beside_onward t _ _ _ _ fun _ r hr => ⟨r, hr, rfl, .refl _⟩
  cases e with
  | pulled request p =>
    refine orUnchanged_ind (.refl s) fun t ht => ?_
    obtain ⟨path, -, rfl | ⟨reply, rfl⟩ | ⟨r, -, -, rfl⟩⟩ := pullDocument_eq ht
    · exact ensure_onward s path
    · exact (ensure_onward s path).trans (outbox_quiet _ _).onward
    · exact (ensure_onward s path).trans (spawned _ _)
  | pulledAll request known => exact spawned s _
  | _ => exact Service.step_onward h.poll_onward rfl settings host

/-- The service goes by the validator that the host finds, as long as all hosts find the same. -/
theorem Intact.equipped_after (h : s.Intact) (q : Equipped s resolve)
    (same : ∀ host, .host host ∈ es → host.resolve = resolve) : Equipped (s.after es) resolve := by
  induction es generalizing s with
  | nil => exact q
  | cons e es ih =>
    have first : Equipped (s.step e) resolve :=
      q.step_of_onward h.step_onward fun host he => same host (he ▸ List.mem_cons_self)
    exact ih (h.step e) first fun host hm => same host (List.mem_cons_of_mem e hm)

/-- An event that does not raise the version of the settings leaves the service with a snapshot that agrees. -/
theorem Intact.agree_of_level (h : s.Intact) (q : Equipped s resolve)
    (same : ∀ host, e = .host host → host.resolve = resolve)
    (level : (s.step e).settingsVersion = s.settingsVersion) :
    s.snapshot.Agree (s.step e).snapshot := by
  have equipped : Equipped (s.step e) resolve := q.step_of_onward h.step_onward same
  have settled : s.settings.Agree (s.step e).settings := by
    by_cases configured : ∃ settings, e = .configured settings
    · obtain ⟨settings, rfl⟩ := configured
      have taken := configure_onward s settings
      have version := level.symm.trans taken.settingsVersion
      rw [show (s.step (.configured settings)).settings = settings from taken.settings]
      refine SettingsChange.bumps_between.1 ((Bool.eq_false_or_eq_true _).resolve_left fun bumps => ?_)
      exact absurd (UInt32.left_eq_add.1 (version.trans (if_pos bumps))) (by decide)
    · by_cases host : ∃ host, e = .host host
      · obtain ⟨host, rfl⟩ := host
        exact .refl _
      · have onward := h.step_onward (fun new he => configured ⟨new, he⟩) fun host' he => host ⟨host', he⟩
        rw [onward.settings]
        exact .refl _
  refine ⟨settled, ?_⟩
  show s.validator = (s.step e).validator
  rw [q.validator, equipped.validator, settled.validator]

/-- The snapshots of two moments agree if the version of the settings has not risen in between. -/
theorem Intact.agree_after (h : s.Intact) (q : Equipped s resolve)
    (same : ∀ host, .host host ∈ es → host.resolve = resolve)
    (level : rises Service.settingsVersion s es = 0) : s.snapshot.Agree (s.after es).snapshot := by
  induction es generalizing s with
  | nil => exact .refl _
  | cons e es ih =>
    obtain ⟨first, rest⟩ := rises_cons_eq_zero level
    have found : ∀ host, e = .host host → host.resolve = resolve := fun host he =>
      same host (he ▸ List.mem_cons_self)
    exact (h.agree_of_level q found first).trans (ih (h.step e) (q.step_of_onward h.step_onward found)
      (fun host hm => same host (List.mem_cons_of_mem e hm)) rest)

/-- Changes of the settings that do not outdate results make no difference to validations. Not to outdate
results is an equivalence relation on settings. Across such a change validation stays on or off, a path keeps
its stage, and the validator its name, its arguments and the way its report is read; with validators found by
their names, a validation does at every poll what it would do under the other settings. So in a session in which
the version of the settings does not rise from one moment to another, any diagnostics follow from what the
settings were at the one if and only if they follow from what they are at the other. -/
theorem unbumped_invisible :
    Equivalence (fun a b : Settings => (SettingsChange.between a b).bumps = false) ∧
      (∀ a b : Settings, (SettingsChange.between a b).bumps = false →
        a.diagnostics.enable = b.diagnostics.enable ∧
          (∀ p, a.extensions.stageOfPath p = b.extensions.stageOfPath p) ∧
          a.validator = b.validator ∧ (∀ stage, a.arguments stage = b.arguments stage) ∧
          a.marking = b.marking ∧
          ∀ (resolve : String → Option Path) (s : Service) (id n : Nat) (v : ValidationRun),
            s.validation? id n = some v → v.work.snapshot = ⟨a, resolve a.validator⟩ →
              s.pollValidation id n = s.goOn id n v ⟨b, resolve b.validator⟩) ∧
      ∀ (host : Host) (delivery : Delivery) (settings : Settings) (waits : Bool) (es es' : List Event),
        (∀ other, .host other ∈ es ++ es' → other.resolve = host.resolve) →
          rises Service.settingsVersion (session host delivery settings waits es) es' = 0 →
            ∀ s₀ moments log id p c found,
              Derived s₀ moments log id p c (session host delivery settings waits es).snapshot found ↔
                Derived s₀ moments log id p c
                  (session host delivery settings waits (es ++ es')).snapshot found := by
  refine ⟨⟨fun a => ?_, fun h => ?_, fun hab hbc => ?_⟩, fun a b level => ?_,
    fun host delivery settings waits es es' same level s₀ moments log id p c found => ?_⟩
  · exact SettingsChange.bumps_between.2 (.refl a)
  · exact SettingsChange.bumps_between.2 (SettingsChange.bumps_between.1 h).symm
  · exact SettingsChange.bumps_between.2
      ((SettingsChange.bumps_between.1 hab).trans (SettingsChange.bumps_between.1 hbc))
  · have agree : a.Agree b := SettingsChange.bumps_between.1 level
    refine ⟨agree.enable, fun p => by rw [agree.extensions], agree.validator, agree.arguments, agree.marking,
      fun resolve s id n v hv goesBy => ?_⟩
    have snapshots : Snapshot.Agree ⟨a, resolve a.validator⟩ ⟨b, resolve b.validator⟩ :=
      ⟨agree, congrArg resolve agree.validator⟩
    rw [pollValidation_eq hv, goesBy]
    exact goOn_agree snapshots s id n v
  · have intact := session_intact host delivery settings waits
    have equipped : Equipped (session host delivery settings waits es) host.resolve :=
      (intact []).equipped_after ⟨rfl, rfl⟩ fun other ho => same other (List.mem_append_left es' ho)
    have agree := (intact es).agree_after equipped
      (fun other ho => same other (List.mem_append_right es ho)) level
    have later : session host delivery settings waits (es ++ es') =
        (session host delivery settings waits es).after es' := after_append _ es es'
    rw [later]
    exact ⟨fun h => h.agree agree, fun h => h.agree agree.symm⟩

/-- Settings by which documents that are not open count, and which call the default validator by its name. -/
def patientSettings : Settings where
  diagnostics := { promptSettings.diagnostics with workspace := true, delay := 50 }
  compiler := { promptSettings.compiler with path := some "glslangValidator" }
  extensions := promptSettings.extensions

/-- The shader is opened and the validator is held back on it; new settings with another delay, scope and
spelling of the validator come in. The validation goes on as under the new settings, and what follows from the
ones follows from the others. -/
theorem patience_invisible :
    let host : Host := { strictHost with holdsRuns := true }
    let s := session host (.push true) promptSettings false visit
    let s' := session host (.push true) promptSettings false (visit ++ [.configured patientSettings])
    (SettingsChange.between promptSettings patientSettings).bumps = false ∧
      (SettingsChange.between patientSettings promptSettings).bumps = false ∧
      promptSettings.arguments .vertex = patientSettings.arguments .vertex ∧
      (∃ v, s.validation? 0 0 = some v ∧ v.outcome.isNone = true ∧
        s.pollValidation 0 0 = s.goOn 0 0 v ⟨patientSettings, host.resolve patientSettings.validator⟩) ∧
      rises Service.settingsVersion s [.configured patientSettings] = 0 ∧
      ∀ found, Derived (start host (.push true) promptSettings false) visit s.log 0 (Path.ofString "/a.vert") 2
          s.snapshot found ↔
        Derived (start host (.push true) promptSettings false) visit s.log 0 (Path.ofString "/a.vert") 2
          s'.snapshot found := by
  intro host s s'
  obtain ⟨equivalence, pair, across⟩ := unbumped_invisible
  have level : (SettingsChange.between promptSettings patientSettings).bumps = false := by decide +kernel
  obtain ⟨-, -, -, arguments, -, polls⟩ := pair _ _ level
  have begun : (s.validation? 0 0).any (fun v => v.outcome.isNone &&
      decide (v.work.snapshot.settings = promptSettings) &&
      decide (v.work.snapshot.validator = host.resolve promptSettings.validator)) = true := by decide +kernel
  obtain ⟨v, hv, begun⟩ := (Option.any_eq_true _ _).1 begun
  simp only [Bool.and_eq_true, decide_eq_true_eq] at begun
  obtain ⟨⟨pending, settings⟩, validator⟩ := begun
  have snapshot : v.work.snapshot = ⟨promptSettings, host.resolve promptSettings.validator⟩ := by
    rw [← validator, ← settings]
  have still : rises Service.settingsVersion s [.configured patientSettings] = 0 := by decide +kernel
  have same : ∀ other, .host other ∈ visit ++ [.configured patientSettings] → other.resolve = host.resolve := by
    simp [visit]
  exact ⟨level, equivalence.symm level, arguments .vertex,
    ⟨v, hv, pending, polls _ _ _ _ _ hv snapshot⟩, still,
    fun found => across host (.push true) promptSettings false visit _ same still _ _ _ _ _ _ _⟩

end ShaderDiagnostics.Service
