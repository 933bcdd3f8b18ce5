import ShaderDiagnostics.Host.Scripted
import ShaderDiagnostics.Proofs.Service.Moments

/-!
# What the editor is shown

What holds of a session in which diagnostics are published, whatever happens in whatever order. Nothing is
shown for a document that is out of scope or not known (`shown_in_scope`). What a validation publishes is
right for its document at that very moment, and it is published once (`publishes_current`). And once the
jobs have come to their ends, every document in scope has its diagnostics (`settled`).
-/

namespace ShaderDiagnostics.Service

variable {host : Host} {delivery : Delivery} {settings : Settings} {waits : Bool} {es : List Event}

/-! ### Documents out of scope -/

/-- Diagnostics that are shown are those of a known document in scope. -/
theorem shown_in_scope (h : Publishing (start host delivery settings waits) es) {uri : Uri}
    {found : List Diagnostic}
    (shown : (session host delivery settings waits es).last? uri = some found) (any : found ≠ []) :
    ∃ id r, (session host delivery settings waits es).registry.Known id r ∧
      Uri.ofPath? r.path = some uri ∧ (session host delivery settings waits es).inScope r = true := by
  have o := h.orderly (orderly_start host settings waits h.push)
  obtain ⟨id, r, hr, live, hu⟩ := o.kept.owned uri found shown any
  exact ⟨id, r, ⟨hr, live.found⟩, hu, live.inScope⟩

section

/-- The validator finds fault with an `x` in texts that contain something. -/
def faulting (part : List Char) : HostRule :=
  ⟨part, .prints "ERROR: 0:1: 'x' : undeclared identifier\n".toList⟩

/-- The file of the shader is empty, and the validator finds fault with every text. -/
def strictScript : ScriptedHost where
  files := PathMap.empty.insert (Path.ofString "/a.vert") []
  missing := []
  rules := [faulting []]
  holdsRuns := false
  holdsReads := false

/-- A host with an empty shader on disk and a validator that finds fault with every text. -/
def strictHost : Host := strictScript.host

/-- The default settings, but for the delay. -/
def promptSettings : Settings :=
  { Settings.standard with diagnostics := { DiagnosticSettings.standard with delay := 0 } }

/-- A vertex shader. -/
def shaderUri : Uri := ⟨"file:///a.vert", by decide +kernel⟩

/-- The shader is opened, and its diagnostics are asked for. -/
def visit : List Event := [.opened shaderUri "x".toList 1, .polled 0]

theorem publishing_visit : Publishing (start strictHost (.push true) promptSettings false) visit :=
  publishing_of_short strictHost promptSettings false rfl (by decide) (by decide)

/-- The fault is shown for the shader, which is in scope as long as it is open. -/
theorem visit_shown_in_scope :
    ∃ id r, (session strictHost (.push true) promptSettings false visit).registry.Known id r ∧
      Uri.ofPath? r.path = some shaderUri ∧
      (session strictHost (.push true) promptSettings false visit).inScope r = true := by
  have shown : (session strictHost (.push true) promptSettings false visit).last? shaderUri =
      some [⟨⟨⟨0, 0⟩, ⟨0, 1⟩⟩, some .error, some "glslang", "'x' : undeclared identifier"⟩] := by
    decide +kernel
  exact shown_in_scope publishing_visit shown (by decide)

end

/-! ### Moments of publication -/

variable {leaving : Nat → Prop} {s s' : Service} {id : Nat} {token : Token} {uri : Uri}
  {found : List Diagnostic}

/-- What a validation publishes is right at that moment. -/
theorem Publishes.current (p : Publishes s s' id token uri found) (k : s'.Kept nobody) :
    ∃ r, s'.registry.Known id r ∧ Uri.ofPath? r.path = some uri ∧ s'.inScope r = true ∧
      s'.tokenOf r = token ∧ s'.Accurate s'.snapshot id r found := by
  obtain ⟨n, r, v, hr, hv, ht, hc, ho, hu, -, -⟩ := p
  have c := (k.records id r hr).current n v hv (ht.trans hc.symm)
  exact ⟨r, ⟨hr, c.live.found⟩, hu, c.live.inScope, hc, (c.accurate found ho).agree c.agrees⟩

/-- A validation for a token that has been published is not published again. -/
theorem Publishes.once {t t' : Service} {uri' : Uri} {found' : List Diagnostic}
    (p : Publishes s s' id token uri found) (l : Lasts s' t) (l' : Lasts t t') (k : t'.Kept leaving) :
    ¬ Publishes t t' id token uri' found' := by
  rintro ⟨m, r₂, w, hr₂, hw, hwt, hwc, hwo, -, before, -⟩
  obtain ⟨n, r, v, hr, hv, ht, -, ho, -, -, -⟩ := p
  obtain ⟨r₁, hr₁, -, g₁⟩ := l.records id r hr
  obtain ⟨v₁, hv₁, hver₁, hend₁⟩ := g₁ n v hv
  obtain ⟨r₂', hr₂', -, g₂⟩ := l'.records id r₁ hr₁
  obtain rfl := Option.some.inj (hr₂'.symm.trans hr₂)
  obtain ⟨v₂, hv₂, hver₂, hend₂⟩ := g₂ n v₁ hv₁
  have ended := hend₂ _ (hend₁ _ ho)
  have same : n = m := (k.records id r₂' hr₂).latest.once n m v₂ w hv₂ hw
    (((hver₂.trans hver₁).trans ht).trans hwc.symm) (hwt.trans hwc.symm)
    (Cache.unfailed_of_ok ended) (Cache.unfailed_of_ok hwo)
  subst same
  have waiting := before r₁ v₁ hr₁ hv₁
  rw [hend₁ _ ho] at waiting
  cases waiting

/-- A poll of a job publishes nothing but what is right at that moment. -/
theorem Orderly.poll_publishes {resolve : String → Option Path} (o : Orderly s) (q : Equipped s resolve)
    (job : Nat) : (s.poll job).published = s.published ∨ ∃ id r uri found,
      Publishes s (s.poll job) id ((s.poll job).tokenOf r) uri found ∧
        (s.poll job).registry.Known id r ∧ Uri.ofPath? r.path = some uri ∧
        (s.poll job).inScope r = true ∧
        (s.poll job).Accurate ⟨(s.poll job).settings, resolve (s.poll job).settings.validator⟩ id r
          found := by
  obtain ⟨id, goes⟩ := o.kept.poll job
  rcases goes.announces with same | ⟨token, uri, found, p⟩
  · exact Or.inl same
  · obtain ⟨r, known, hu, scope, rfl, right⟩ := p.current goes.kept
    refine Or.inr ⟨id, r, uri, found, p, known, hu, scope, ?_⟩
    rw [← (q.onward (o.kept.poll_onward job)).validator]
    exact right

/-- Whenever a validation publishes diagnostics, they are those of a known document in scope, for its
token, and they are right under the settings of that moment. For a record and a token that happens
once. -/
theorem publishes_current (h : Publishing (start host delivery settings waits) es)
    (same : ∀ other, .host other ∈ es → other.resolve = host.resolve) :
    (∀ before job rest, es = before ++ .polled job :: rest →
      let s := session host delivery settings waits before
      let s' := s.poll job
      s'.published = s.published ∨ ∃ id r uri found,
        Publishes s s' id (s'.tokenOf r) uri found ∧ s'.registry.Known id r ∧
          Uri.ofPath? r.path = some uri ∧ s'.inScope r = true ∧
          s'.Accurate ⟨s'.settings, host.resolve s'.settings.validator⟩ id r found) ∧
    ∀ before job between job' rest, es = before ++ .polled job :: (between ++ .polled job' :: rest) →
      let s := session host delivery settings waits before
      let t := session host delivery settings waits (before ++ .polled job :: between)
      ∀ id token uri found uri' found', Publishes s (s.poll job) id token uri found →
        ¬ Publishes t (t.poll job') id token uri' found' := by
  have begun : Orderly (start host delivery settings waits) := orderly_start host settings waits h.push
  constructor
  · rintro before job rest rfl
    have o := h.take.orderly begun
    exact o.poll_publishes (h.take.equipped begun ⟨rfl, rfl⟩ fun other hm =>
      same other (List.mem_append_left _ hm)) job
  · rintro before job between job' rest rfl s t id token uri found uri' found' p
    have o := h.take.orderly begun
    rw [List.append_cons] at h
    have polled : (start host delivery settings waits).after (before ++ [.polled job]) = s.poll job :=
      after_snoc _ _ _
    have later : t = (s.poll job).after between := by
      show (start host delivery settings waits).after (before ++ .polled job :: between) = _
      rw [List.append_cons, after_append, polled]
    have rest' := polled ▸ h.drop (polled ▸ (o.poll job).kept.push)
    have l := rest'.take.lasts (o.poll job)
    have k := (rest'.take.orderly (o.poll job)).kept
    rw [← later] at l k
    obtain ⟨id', goes⟩ := k.poll job'
    exact p.once l (k.poll_onward job').lasts goes.kept

/-- The poll that asks for the diagnostics of the shader publishes them. -/
theorem visit_publishes_current :
    let s := session strictHost (.push true) promptSettings false [.opened shaderUri "x".toList 1]
    (s.poll 0).published ≠ s.published ∧ ∃ id r uri found,
      Publishes s (s.poll 0) id ((s.poll 0).tokenOf r) uri found ∧ (s.poll 0).registry.Known id r ∧
        Uri.ofPath? r.path = some uri ∧ (s.poll 0).inScope r = true ∧
        (s.poll 0).Accurate ⟨(s.poll 0).settings, strictHost.resolve (s.poll 0).settings.validator⟩
          id r found := by
  intro s
  have news : (s.poll 0).published ≠ s.published := by decide +kernel
  have h := publishes_current publishing_visit fun other ho => by simp [visit] at ho
  exact ⟨news, (h.1 [.opened shaderUri "x".toList 1] 0 [] rfl).resolve_left news⟩

/-! ### Sessions at rest -/

/-- Once no job is left, every document in scope is shown the diagnostics that are right for it, if the
host has done all that it was asked for. -/
theorem settled (h : Publishing (start host delivery settings waits) es)
    (same : ∀ other, .host other ∈ es → other.resolve = host.resolve)
    (succeeds : ∀ x ∈ (session host delivery settings waits es).log, x.failed = false)
    (ready : (session host delivery settings waits es).ready = true)
    (idle : (session host delivery settings waits es).jobs = []) {r : Record}
    (known : (session host delivery settings waits es).registry.Known id r)
    (scope : (session host delivery settings waits es).inScope r = true)
    (hu : Uri.ofPath? r.path = some uri) :
    ∃ found, (session host delivery settings waits es).last? uri = some found ∧
      (session host delivery settings waits es).Accurate
        ⟨(session host delivery settings waits es).settings,
          host.resolve (session host delivery settings waits es).settings.validator⟩ id r found := by
  have begun : Orderly (start host delivery settings waits) := orderly_start host settings waits h.push
  have o : Orderly (session host delivery settings waits es) := h.orderly begun
  have q : Equipped (session host delivery settings waits es) host.resolve :=
    h.equipped begun ⟨rfl, rfl⟩ same
  simp only [inScope_eq, Bool.and_eq_true, Bool.not_eq_true'] at scope
  have attended := (o.tended scope.1 ready id r known scope.2).resolve_left False.elim
  cases attended with
  | failing failing =>
    obtain ⟨x, hx, hf⟩ := failing
    rw [succeeds x hx] at hf
    cases hf
  | job mem =>
    rw [idle] at mem
    cases mem
  | @done _ _ found run token ended =>
    have c := (o.kept.records id r known.1).current _ _ run token
    refine ⟨found, c.published found ended uri hu, ?_⟩
    rw [← q.validator]
    exact (c.accurate found ended).agree c.agrees

/-- After the visit the shader is shown what the validator finds. -/
theorem visit_settled :
    let s := session strictHost (.push true) promptSettings false visit
    s.jobs = [] ∧ ∃ r, s.registry.Known 0 r ∧ ∃ found, s.last? shaderUri = some found ∧
      s.Accurate ⟨s.settings, strictHost.resolve s.settings.validator⟩ 0 r found := by
  intro s
  have idle : s.jobs = [] := List.isEmpty_iff.1 (by decide +kernel)
  have look : (s.registry.record? 0).map (fun r => (r.path, r.opened)) =
      some (Path.ofString "/a.vert", true) := by decide +kernel
  obtain ⟨r, hr, hv⟩ := Option.map_eq_some_iff.1 look
  obtain ⟨path, opened⟩ := Prod.mk.inj hv
  have known : s.registry.Known 0 r := ⟨hr, by rw [path]; decide +kernel⟩
  have scope : s.inScope r = true := by
    rw [inScope_eq, opened]
    decide +kernel
  have succeeds : ∀ x ∈ s.log, x.failed = false := by
    have all : (s.log.all fun x => !x.failed) = true := by decide +kernel
    simpa using all
  exact ⟨idle, r, known, settled publishing_visit (fun other ho => by simp [visit] at ho) succeeds
    (by decide +kernel) idle known scope (by rw [path]; decide +kernel)⟩

end ShaderDiagnostics.Service
