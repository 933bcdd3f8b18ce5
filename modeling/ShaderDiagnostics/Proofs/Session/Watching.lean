import ShaderDiagnostics.Proofs.Service.Refreshing
import ShaderDiagnostics.Proofs.Session.Registrations
import ShaderDiagnostics.Proofs.Session.Turns
import ShaderDiagnostics.Proofs.Settings.Extensions

/-!
# The files that are watched

An editor that watches files is told at the end of the handshake which ones, and again whenever the extensions in the
settings change, whichever way the new settings have come. Nothing else registers anything (`Session.Steady`). So what
the editor has registered follows the settings (`Session.Mirrors`): the files watched are at any time those that may
have a stage (`Session.watches_stages`), and the editor is never asked to register what is still registered, or to
unregister what is not.
-/

namespace ShaderDiagnostics

/-! ### The service registers nothing -/

theorem Outbox.Sends.registered {o o' : Outbox} (h : o.Sends o') : o'.registered? = o.registered? := by
  obtain ⟨news, sent, plain⟩ := h
  refine registered_of_sends sent fun m hm rs => ?_
  cases m with
  | question n q =>
    obtain rfl := plain _ hm n q rfl
    rfl
  | _ => rfl

theorem Service.step_registered {s : Service} (h : s.registry.Sound) (e : Event) :
    (s.step e).outbox.registered? = s.outbox.registered? :=
  step_lasting (I := fun t => t.outbox.registered? = s.outbox.registered?) h (fun _ _ same => same)
    (fun _ _ _ same => same) (fun _ d same => d.sends.registered.trans same) rfl

/-! ### What the settings say is registered -/

/-- What is registered if these files are watched, or none, and settings are followed or not. -/
def Registration.expected (watched : Bool) (extensions : List String) (told : Bool) : List Registration :=
  (if watched then [watching extensions] else []) ++ if told then [following] else []

theorem Registration.apart (extensions : List String) (told : Bool) :
    ∀ k ∈ expected false extensions told, k.id ≠ watchName := by
  cases told <;> simp [expected, following, followName, watchName]

/-- Of what is registered, one thing is about files. -/
theorem Registration.files_expected (extensions : List String) (told : Bool) :
    (expected true extensions told).filter (fun r => r.method == watchMethod) = [watching extensions] := by
  cases told <;> simp [expected, watching, following, watchMethod, followMethod]

namespace Session

variable {s t : Session} {h : Happening} {hs : List Happening} {told : Bool}

/-! ### What changes neither the settings nor the registrations -/

/-- The session has gone on under the same settings, and nothing has been registered or unregistered. -/
structure Steady (s t : Session) : Prop where
  support : t.support = s.support
  watching : t.watching = s.watching
  settings : t.service.settings = s.service.settings
  registered : t.service.outbox.registered? = s.service.outbox.registered?

theorem steady_step (sound : s.service.registry.Sound) {e : Event} (other : ∀ settings, e ≠ .configured settings) :
    Steady s (s.update fun v => v.step e) :=
  ⟨rfl, rfl, (Service.step_aside sound other).settings, Service.step_registered sound e⟩

theorem Treats.steady {id : RequestId} (h : Treats s id t) (sound : s.service.registry.Sound) : Steady s t := by
  cases h with
  | refuses code message => exact ⟨rfl, rfl, rfl, Outbox.registered_send _ fun _ => rfl⟩
  | fails name e =>
    have told : (s.service.report name e).outbox.registered? = s.service.outbox.registered? :=
      Outbox.registered_send _ fun _ => rfl
    exact ⟨rfl, rfl, rfl, (Outbox.registered_send _ fun _ => rfl).trans told⟩
  | shutsDown =>
    have told : (s.service.tell (.usage s.service.usage)).outbox.registered? = s.service.outbox.registered? :=
      Outbox.registered_send _ fun _ => rfl
    exact ⟨rfl, rfl, rfl, (Outbox.registered_send _ fun _ => rfl).trans told⟩
  | @pulls p v accepted =>
    have step : s.service.step (.pulled id p) = v := by
      rw [Service.step, accepted]
      rfl
    exact step ▸ steady_step (e := .pulled id p) sound fun settings same => by cases same
  | pullsAll known => exact steady_step (e := .pulledAll id known) sound fun settings same => by cases same

/-- Documents and files that change leave the settings and the registrations alone. -/
theorem steady_documents {es : List Event} (intact : s.service.Intact) (all : ∀ e ∈ es, e.isDocument = true) :
    Steady s (s.update fun v => v.after es) := by
  induction es generalizing s with
  | nil => exact ⟨rfl, rfl, rfl, rfl⟩
  | cons e es ih =>
    have other : ∀ settings, e ≠ .configured settings := by
      rintro settings rfl
      cases all _ List.mem_cons_self
    have first := steady_step intact.registry other
    have rest := @ih (s.update fun v => v.step e) (intact.step e) fun e' he => all e' (List.mem_cons_of_mem e he)
    exact ⟨rest.support.trans first.support, rest.watching.trans first.watching, rest.settings.trans first.settings,
      rest.registered.trans first.registered⟩

/-! ### The registrations mirror the settings -/

/-- The editor watches files, and has registered what belongs to the settings. -/
structure Mirrors (s : Session) (told : Bool) : Prop where
  support : s.support.watchesFiles = true
  registers : s.service.outbox.Registers (Registration.expected s.watching s.service.settings.extensions.distinct told)

theorem Steady.mirrors (steady : Steady s t) (h : Mirrors s told) : Mirrors t told where
  support := steady.support ▸ h.support
  registers := by
    rw [steady.watching, steady.settings]
    exact h.registers.of_eq steady.registered

/-- The files to be watched are registered, and those that were watched before, if any, are not any more. -/
theorem watchFiles_mirrors {extensions : List String} (support : s.support.watchesFiles = true)
    (h : s.service.outbox.Registers (Registration.expected s.watching extensions told)) :
    Mirrors s.watchFiles told ∧ s.watchFiles.watching = true := by
  have watched : ∀ t : Session, t.support.watchesFiles = true →
      t.service.outbox.Registers (Registration.expected false extensions told) →
        Mirrors { t.update fun v => v.ask (.watch v.settings.extensions.distinct) with watching := true } told :=
    fun t support h => ⟨support, h.watch (Registration.apart extensions told)⟩
  unfold watchFiles
  rw [if_pos support]
  dsimp only
  refine ⟨?_, rfl⟩
  cases already : s.watching with
  | false => exact watched s support (already ▸ h)
  | true =>
    rw [already] at h
    exact watched (s.update fun v => v.ask .unwatch) support (h.unwatch (Registration.apart extensions told))

/-- New settings are mirrored. -/
theorem configure_mirrors (sound : s.service.registry.Sound) (h : Mirrors s told) (settings : Settings) :
    Mirrors (s.configure settings) told ∧ (s.watching = true → (s.configure settings).watching = true) := by
  have registers : (s.service.configure settings).outbox.Registers
      (Registration.expected s.watching s.service.settings.extensions.distinct told) :=
    h.registers.of_eq (Service.step_registered sound (.configured settings))
  have taken : (s.service.configure settings).settings = settings :=
    (Service.configure_onward s.service settings).settings
  unfold configure
  dsimp only
  split
  next changed =>
    obtain ⟨mirrors, watched⟩ := watchFiles_mirrors (s := s.update fun v => v.configure settings) h.support registers
    exact ⟨mirrors, fun _ => watched⟩
  next same =>
    have same : s.service.settings.extensions = settings.extensions := by simpa using same
    refine ⟨⟨h.support, ?_⟩, id⟩
    show (s.service.configure settings).outbox.Registers
      (Registration.expected s.watching (s.service.configure settings).settings.extensions.distinct told)
    rw [taken, ← same]
    exact registers

theorem steady_askSettings (s : Session) : Steady s s.askSettings :=
  ⟨rfl, rfl, rfl, Outbox.registered_askSettings _⟩

/-- The editor is asked to tell when settings change. -/
theorem Mirrors.follow (h : Mirrors s false) (watched : s.watching = true) :
    Mirrors (s.update fun v => v.ask .followSettings) true where
  support := h.support
  registers := by
    have registers := h.registers
    have free : ∀ k ∈ Registration.expected true s.service.settings.extensions.distinct false,
        k.id ≠ followName := by
      simp [Registration.expected, Registration.watching, followName, watchName]
    rw [watched] at registers
    show ((s.service.outbox).ask .followSettings).Registers
      (Registration.expected s.watching s.service.settings.extensions.distinct true)
    rw [watched]
    exact (registers.follow free).perm (.swap _ _ _)

/-- The end of the handshake has files watched and, if the editor can tell, settings followed. -/
theorem Mirrors.initialized (h : Mirrors s false) :
    Mirrors s.initialized s.support.tellsSettings ∧ s.initialized.watching = true := by
  obtain ⟨mirrors, watched⟩ := watchFiles_mirrors h.support h.registers
  -- after the files, the settings are followed, and the editor is asked for them last
  have asked : ∀ {t : Session} {told}, Mirrors t told ∧ t.watching = true → ∀ answers : Bool,
      Mirrors (if answers then t.askSettings else t) told ∧
        (if answers then t.askSettings else t).watching = true := by
    intro t told kept answers
    cases answers with
    | false => exact kept
    | true => exact ⟨(steady_askSettings t).mirrors kept.1, kept.2⟩
  unfold Session.initialized
  dsimp only
  rw [← (goes_watchFiles s).support]
  cases s.watchFiles.support.tellsSettings with
  | false => exact asked ⟨mirrors, watched⟩ _
  | true => exact asked ⟨mirrors.follow watched, watched⟩ _

/-! ### Chores and turns -/

theorem Chore.mirrors (c : Chore s t) (intact : s.service.Intact) (h : Mirrors s told) :
    Mirrors t told ∧ (s.watching = true → t.watching = true) := by
  have still : ∀ {t}, Steady s t → Mirrors t told ∧ (s.watching = true → t.watching = true) :=
    fun steady => ⟨steady.mirrors h, steady.watching.trans⟩
  cases c with
  | documents es all => exact still (steady_documents intact all)
  | reports name e => exact still ⟨rfl, rfl, rfl, Outbox.registered_send _ fun _ => rfl⟩
  | asks => exact still (steady_askSettings s)
  | closes => exact still ⟨rfl, rfl, rfl, rfl⟩
  | configures settings => exact configure_mirrors intact.registry h settings

theorem Chores.mirrors (c : Chores s t) (intact : s.service.Intact) (h : Mirrors s told) :
    Mirrors t told ∧ (s.watching = true → t.watching = true) := by
  induction c with
  | refl => exact ⟨h, id⟩
  | tail before chore ih =>
    obtain ⟨mirrors, watched⟩ := chore.mirrors (Chores.intact before intact) ih.1
    exact ⟨mirrors, watched ∘ ih.2⟩

theorem Turn.mirrors (turn : Turn s h t) (intact : s.service.Intact) (m : Mirrors s told) :
    Mirrors t told ∧ (s.watching = true → t.watching = true) := by
  have still : ∀ {t}, Steady s t → Mirrors t told ∧ (s.watching = true → t.watching = true) :=
    fun steady => ⟨steady.mirrors m, steady.watching.trans⟩
  cases turn with
  | request treats => exact still (treats.steady intact.registry)
  | other _ chores => exact chores.mirrors intact m
  | @event h e event =>
    refine still (steady_step intact.registry ?_)
    rintro settings rfl
    cases h <;> cases event

/-! ### Sessions -/

/-- What has been registered mirrors the settings as long as the session goes on. -/
theorem Mirrors.after {s₀ : Session} (m : Mirrors s₀ told) (intact : s₀.service.Intact)
    (reached : s₀.after hs = some s) :
    s.service.Intact ∧ Mirrors s told ∧ (s₀.watching = true → s.watching = true) :=
  after_lasting (I := fun _ t => t.service.Intact ∧ Mirrors t told ∧ (s₀.watching = true → t.watching = true))
    ⟨intact, m, id⟩
    (fun turn ⟨intact, m, watched⟩ =>
      have next := turn.mirrors intact m
      ⟨turn.intact intact, next.1, next.2 ∘ watched⟩)
    reached

theorem start_mirrors {host : Host} {support : ClientSupport} {settings : Settings}
    (watches : support.watchesFiles = true) : Mirrors (start host support settings) false :=
  ⟨watches, [], rfl, .refl _⟩

/-- **The files watched mirror the settings.** Whatever happens in a session with an editor that watches files, before
the end of the handshake and after it: the editor has never been asked to register an id that was still registered,
or to unregister one that was not; exactly one of its registrations is about files; and that one is about the files
that end with an extension of some stage, each extension being named once. Those are the files that have a stage. -/
theorem watches_stages {host : Host} {support : ClientSupport} {settings : Settings} {before since : List Happening}
    {s₀ : Session} (watches : support.watchesFiles = true)
    (begun : (start host support settings).after before = some s₀)
    (reached : s₀.initialized.after since = some s) :
    ∃ (rs : List Registration) (r : Registration) (xs : List String),
      s.service.outbox.registered? = some rs ∧ rs.filter (fun r => r.method == watchMethod) = [r] ∧
      r.globs? = some (xs.map ("**/*" ++ ·)) ∧ xs.Nodup ∧
      (∀ x, x ∈ xs ↔ x ≠ "" ∧ ∃ stage, x ∈ s.service.settings.extensions.of stage) ∧
      ∀ text : String, (s.service.settings.extensions.stageOfPath (Path.ofString text)).isSome ↔
        ∃ x ∈ xs, x.toList <:+ text.toList := by
  obtain ⟨intact₀, m₀, -⟩ := (start_mirrors watches).after (Service.intact_start _ _ _ _) begun
  obtain ⟨m, watched⟩ := m₀.initialized
  obtain ⟨-, ⟨-, rs, read, perm⟩, watching⟩ := m.after (initialized_intact intact₀) reached
  rw [watching watched] at perm
  refine ⟨rs, .watching s.service.settings.extensions.distinct, s.service.settings.extensions.distinct, read,
    ?_, Registration.globs_watching _, StageExtensions.nodup_distinct _, fun x => StageExtensions.mem_distinct,
    StageExtensions.isSome_stageOfPath⟩
  exact List.perm_singleton.1 (Registration.files_expected _ _ ▸ perm.filter _)

/-- An editor that watches files and tells when settings change, but answers no questions for them. -/
def watchfulSupport : ClientSupport where
  delivery := .push false
  answersSettings := false
  watchesFiles := true
  tellsSettings := true

/-- The editor tells that the extensions of vertex and fragment shaders have changed. -/
def renames (vertex fragment : List String) : Happening :=
  .received (.notification "workspace/didChangeConfiguration" (Json.object [("settings",
    Json.object [(Settings.sectionName, Json.object [("fileExtensions", Json.object [
      ("vertexShader", .arr (vertex.map .str)), ("fragmentShader", .arr (fragment.map .str))])])])]))

/-- The extensions change before the end of the handshake, and again after it: one of them then belongs to two
stages, and one is empty. -/
theorem renaming_watches_stages :
    ∃ s₀ s, (start Service.strictHost watchfulSupport Settings.standard).after [renames [".vs"] [".fs"]] = some s₀ ∧
      s₀.initialized.after [renames [".vs", ".glsl"] [".glsl", ""]] = some s ∧
      s.service.outbox.registered?.map (fun rs => rs.map fun r => (r.id, r.globs?)) =
        some [("glsl-lsp/configuration", none), ("glsl-lsp/file-watchers",
          some ["**/*.vs", "**/*.glsl", "**/*.tesc", "**/*.tese", "**/*.geom", "**/*.comp"])] ∧
      ∃ (rs : List Registration) (r : Registration) (xs : List String),
        s.service.outbox.registered? = some rs ∧ rs.filter (fun r => r.method == watchMethod) = [r] ∧
          r.globs? = some (xs.map ("**/*" ++ ·)) ∧
          ((s.service.settings.extensions.stageOfPath (Path.ofString "/a.glsl")).isSome ↔
            ∃ x ∈ xs, x.toList <:+ "/a.glsl".toList) := by
  have look : (((start Service.strictHost watchfulSupport Settings.standard).after [renames [".vs"] [".fs"]]).bind
      fun s₀ => s₀.initialized.after [renames [".vs", ".glsl"] [".glsl", ""]]).map
        (fun s => s.service.outbox.registered?.map fun rs => rs.map fun r => (r.id, r.globs?)) =
      some (some [("glsl-lsp/configuration", none), ("glsl-lsp/file-watchers",
        some ["**/*.vs", "**/*.glsl", "**/*.tesc", "**/*.tese", "**/*.geom", "**/*.comp"])]) := by decide +kernel
  obtain ⟨s, both, registered⟩ := Option.map_eq_some_iff.1 look
  obtain ⟨s₀, begun, reached⟩ := Option.bind_eq_some_iff.1 both
  obtain ⟨rs, r, xs, read, files, globs, -, -, stages⟩ := watches_stages rfl begun reached
  exact ⟨s₀, s, begun, reached, registered, rs, r, xs, read, files, globs, stages _⟩

end Session

end ShaderDiagnostics
