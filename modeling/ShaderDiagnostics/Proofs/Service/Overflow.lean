import Mathlib.Data.List.Infix
import ShaderDiagnostics.Proofs.Service.Bursts
import ShaderDiagnostics.Proofs.Service.Freshness

/-!
# Versions that come round

Versions are counters of 32 bits, and nothing keeps them from coming round. A document that is not open may
change on disk as often as one likes: if it is not in scope, then each change raises its version and does nothing
else (`Service.after_changes`). So after 2³² - 3 changes and its opening a document has the greatest version there
is, and an edit brings it round to nought.

Versions are compared as numbers all the same. A request that came in before the edit may be answered from the text
after it, whose version is not the later one (`Service.overflown_unfresh`), and what has been validated before the
edit covers the token after it, so that the edit is never validated (`Service.overflown_undebounced`). That is why
`Service.report_fresh` and `Service.edits_debounced` bound how often the version of a document rises.
-/

namespace ShaderDiagnostics.Service

variable {s : Service} {id : Nat} {r : Record} {p : Path} {uri : Uri} {es before : List Event} {e : Event}
  {n : Nat}

/-! ### Changes on disk -/

/-- A document that is not open and not in scope changes on disk. -/
theorem step_change (hp : uri.path? = some p) (mapped : s.isMapped p = true)
    (known : s.registry.find? p = some id) (hr : s.registry.record? id = some r) (closed : r.opened = false)
    (narrow : s.settings.diagnostics.workspace = false) : s.step (.file ⟨uri, 2⟩) = s.bump id := by
  have outside : (s.bump id).analyze id = s.bump id := by
    have bumped : (s.bump id).registry.record? id = some r.bump := by
      rw [bump, record?_modifyRecord, if_pos rfl, hr]
      rfl
    have out : (s.bump id).inScope r.bump = false := by
      have shut : r.bump.opened = false := closed
      have slim : (s.bump id).settings.diagnostics.workspace = false := narrow
      rw [inScope, shut, slim, Bool.or_false, Bool.and_false]
    unfold analyze
    simp only [bumped, out, Bool.and_false, Bool.false_eq_true, if_false]
  simp only [step, fileEvent, hp, mapped, if_true, diskChange, ensure_of_find? known, unlessOpened, hr, closed,
    Bool.false_eq_true, if_false, outside]

/-- What happens to files does not concern the editor. -/
theorem fileEvent_editor (s : Service) (e : Message.FileEvent) : (s.fileEvent e).editor = s.editor := by
  have analyzed : ∀ (t : Service) id, (t.analyze id).editor = t.editor := fun t id => by
    rcases analyze_cases t id with same | ⟨b, same⟩
    · rw [same]
    · rw [same]
      rfl
  refine fileEvent_ind (P := fun t => t.editor = s.editor) rfl (fun _ _ => rfl) (fun _ _ => analyzed _ _)
    (fun _ _ => analyzed _ _) fun p _ _ => diskDelete_ind (P := fun t => t.editor = s.editor) rfl fun id _ _ _ _ => ?_
  show (if s.settings.diagnostics.workspace then (s.bump id).retract id else s.bump id).editor = _
  split
  · exact (retract_quiet _ id).editor
  · rfl

theorem editor_after_replicate (s : Service) (f : Message.FileEvent) (n : Nat) :
    (s.after (List.replicate n (.file f))).editor = s.editor := by
  induction n with
  | zero => rfl
  | succ n ih =>
    rw [List.replicate_succ', after_snoc]
    exact (fileEvent_editor _ f).trans ih

/-- As often as a document changes on disk that is not open and not in scope, its version rises. -/
theorem after_changes (hp : uri.path? = some p) (mapped : s.isMapped p = true)
    (known : s.registry.find? p = some id) (hr : s.registry.record? id = some r) (closed : r.opened = false)
    (narrow : s.settings.diagnostics.workspace = false) (n : Nat) :
    s.after (List.replicate n (.file ⟨uri, 2⟩)) =
      s.modifyRecord id fun r => { r with version := r.version + UInt32.ofNat n } := by
  rw [modifyRecord_eq hr]
  induction n with
  | zero =>
    rw [show UInt32.ofNat 0 = 0 from rfl, UInt32.add_zero]
    exact (modifyRecord_self hr).symm
  | succ n ih =>
    let t := s.modifyRecord id fun _ => { r with version := r.version + UInt32.ofNat n }
    have there : t.registry.record? id = some { r with version := r.version + UInt32.ofNat n } := by
      rw [record?_modifyRecord, if_pos rfl, hr]
      rfl
    rw [List.replicate_succ', after_snoc, ih, step_change (s := t) hp mapped known there closed narrow, bump,
      modifyRecord_eq there]
    simp only [t, modifyRecord, Registry.modify, List.modify_modify_eq, Record.bump, UInt32.ofNat_add,
      UInt32.add_assoc]
    rfl

/-- What comes first of an event that is repeated and other events after it. -/
theorem prefix_replicate_append (h : before <+: List.replicate n e ++ es) :
    (∃ k, before = List.replicate k e) ∨ ∃ mid, mid <+: es ∧ before = List.replicate n e ++ mid := by
  rcases List.prefix_or_prefix_of_prefix h (List.prefix_append (List.replicate n e) es) with short | ⟨mid, rfl⟩
  · exact Or.inl ⟨_, List.eq_replicate_of_mem fun x hx => List.eq_of_mem_replicate (short.subset hx)⟩
  · exact Or.inr ⟨mid, (List.prefix_append_right_inj _).1 h, rfl⟩

/-! ### The shader wears out its versions -/

/-- The file of the shader changes. -/
def changing : Event := .file ⟨shaderUri, 2⟩

/-- The file of the shader changes 2³² - 3 times. -/
def wearing : List Event := List.replicate 4294967293 changing

theorem eq_of_mem_wearing (h : e ∈ wearing) : e = changing := List.eq_of_mem_replicate h

/-- A session after the first change. -/
def changedOnce (host : Host) (delivery : Delivery) (settings : Settings) : Service :=
  (start host delivery settings false).step changing

/-- A session after the changes. -/
def worn (host : Host) (delivery : Delivery) (settings : Settings) : Service :=
  (changedOnce host delivery settings).modifyRecord 0 fun r =>
    { r with version := r.version + UInt32.ofNat 4294967292 }

/-- The shader is known after the first change, but not in scope. -/
structure Wears (host : Host) (delivery : Delivery) (settings : Settings) : Prop where
  mapped : (changedOnce host delivery settings).isMapped shaderPath = true
  known : (changedOnce host delivery settings).registry.find? shaderPath = some 0
  closed : ((changedOnce host delivery settings).registry.record? 0).map (·.opened) = some false
  narrow : (changedOnce host delivery settings).settings.diagnostics.workspace = false

namespace Wears

variable {host : Host} {delivery : Delivery} {settings : Settings} {m : Service}

/-- More changes do nothing but raise the version of the shader. -/
theorem after_replicate (h : Wears host delivery settings) (n : Nat) :
    (start host delivery settings false).after (List.replicate (n + 1) changing) =
      (changedOnce host delivery settings).modifyRecord 0 fun r =>
        { r with version := r.version + UInt32.ofNat n } := by
  obtain ⟨r, hr, closed⟩ := Option.map_eq_some_iff.1 h.closed
  have path : shaderUri.path? = some shaderPath := by decide +kernel
  exact after_changes path h.mapped h.known hr closed h.narrow n

/-- What happens after the changes. -/
theorem after_wearing (h : Wears host delivery settings) (es : List Event) :
    (start host delivery settings false).after (wearing ++ es) = (worn host delivery settings).after es :=
  (after_append _ wearing es).trans (congrArg (after · es) (h.after_replicate 4294967292))

/-- A moment comes during the changes, when the editor still has what it had, or after them. -/
theorem been (h : Wears host delivery settings)
    (been : Been (start host delivery settings false) (wearing ++ es) m) :
    m.editor = PathMap.empty ∨ ∃ mid, mid <+: es ∧ m = (worn host delivery settings).after mid := by
  obtain ⟨before, past, rfl⟩ := been
  rcases prefix_replicate_append past with ⟨k, rfl⟩ | ⟨mid, hm, rfl⟩
  · exact Or.inl (editor_after_replicate _ _ k)
  · exact Or.inr ⟨mid, hm, h.after_wearing mid⟩

end Wears

/-! ### Answers to old requests -/

theorem HasRun.mem_calls {i : Invocation} {answer : Except ServiceError (List Char)}
    (h : HasRun s.log id i answer) : HostCall.run id i ∈ s.calls := by
  obtain ⟨n, h⟩ := h
  exact List.mem_map.2 ⟨_, h, rfl⟩

theorem HasRead.mem_calls {version : UInt32} {answer : Except ServiceError (List Char)}
    (h : HasRead s.log id p version answer) : HostCall.read id p ∈ s.calls := by
  obtain ⟨n, h⟩ := h
  exact List.mem_map.2 ⟨_, h, rfl⟩

theorem wears_pull : Wears strictHost (.pull false) promptSettings :=
  ⟨by decide +kernel, by decide +kernel, by decide +kernel, by decide +kernel⟩

/-- The shader is opened, asked for and edited, and then the job of the request is polled. -/
def revisit : List Event := opening ++ asking :: revising ++ [.polled 1]

/-- The editor has the second text of the shader under no version but nought. -/
theorem young_of_revised {m : Service} {r : Record}
    (been : Been (start strictHost (.pull false) promptSettings false) (wearing ++ revisit) m)
    (hr : m.registry.record? 0 = some r) (had : m.editor.text? shaderPath = some "y x".toList) :
    r.version < 4294967295 := by
  rcases wears_pull.been been with empty | ⟨mid, hm, rfl⟩
  · rw [empty] at had
    cases had
  · have young : ∀ mid ∈ revisit.inits,
        ((worn strictHost (.pull false) promptSettings).after mid).editor.text? shaderPath =
            some "y x".toList →
          (((worn strictHost (.pull false) promptSettings).after mid).registry.record? 0).all
            (fun r => r.version < 4294967295) = true := by
      decide +kernel
    have low := young mid ((List.mem_inits _ _).2 hm) had
    rw [hr] at low
    exact of_decide_eq_true low

/-- The shader is asked for when it has the greatest version, and edited before the answer: the text that the
answer goes by is that of the edit, which the shader has had under no version but nought. -/
theorem overflown_unfresh :
    let s₀ := start strictHost (.pull false) promptSettings false
    let before := wearing ++ opening
    let all := untilAnswer s₀ before asking revising
    ∃ r, Served s₀ before asking revising 0 r (.full (some ⟨4294967295, 0⟩) (fault 2)) ∧
      (s₀.after (before ++ [asking])).tokenOf r = ⟨4294967295, 0⟩ ∧
      ¬ ∃ m, Been s₀ all m ∧ 0 ≤ m.settingsVersion ∧
        Derived s₀ all (s₀.after all).log 0 r.path 4294967295 m.snapshot (fault 2) := by
  intro s₀ before all
  have now : s₀.after before = (worn strictHost (.pull false) promptSettings).after opening :=
    wears_pull.after_wearing opening
  have later : ∀ es, s₀.after (before ++ es) =
      (worn strictHost (.pull false) promptSettings).after (opening ++ es) := fun es => by
    rw [after_append, now, after_append]
  obtain ⟨r, served⟩ : ∃ r, Served s₀ before asking revising 0 r (.full (some ⟨4294967295, 0⟩) (fault 2)) :=
    served_of_sent (by rw [later]; decide +kernel) (by rw [later, now]; decide +kernel)
      (by rw [later, now]; decide +kernel)
  have look : ((s₀.after (before ++ [asking])).registry.record? 0).map
      (fun r => (r.path, (s₀.after (before ++ [asking])).tokenOf r)) = some (shaderPath, ⟨4294967295, 0⟩) := by
    rw [later]
    decide +kernel
  rw [served.known.1] at look
  obtain ⟨path, token⟩ := Prod.mk.inj (Option.some.inj look)
  refine ⟨r, served, token, ?_⟩
  rintro ⟨m, -, -, derived⟩
  have whole : all = wearing ++ revisit := by
    have number : (s₀.after before).nextJob = 1 := by rw [now]; decide +kernel
    simp only [all, before, revisit, untilAnswer, number, List.append_assoc]
  have calls : (s₀.after all).calls =
      [.run 0 ⟨Path.ofString "glslangValidator", promptSettings.arguments .vertex, "y x".toList⟩] := by
    rw [whole, wears_pull.after_wearing]
    decide +kernel
  unfold Derived at derived
  split at derived
  · exact absurd derived (by decide)
  obtain ⟨text, output, supplied, run, -⟩ := derived
  have ran := run.mem_calls
  rw [calls] at ran
  obtain rfl := (Invocation.mk.inj (HostCall.run.inj (List.mem_singleton.1 ran)).2).2.2
  rw [path, whole] at supplied
  cases supplied with
  | editor been there _ since had => exact UInt32.not_lt.2 since (young_of_revised been there had)
  | disk _ _ _ _ _ read =>
    have called := read.mem_calls
    rw [← whole, calls] at called
    cases List.mem_singleton.1 called

/-! ### Edits that are not validated -/

theorem wears_push : Wears strictHost (.push true) Settings.standard :=
  ⟨by decide +kernel, by decide +kernel, by decide +kernel, by decide +kernel⟩

/-- A job wakes up. -/
def waking (job : Nat) : List Event := [.polled job, .elapsed 300, .polled job]

/-- The shader is opened and validated under the greatest version, and then edited. The job of the edit finds its
token current when it wakes up, but no validation is started for it. -/
theorem overflown_undebounced :
    let s := session strictHost (.push true) Settings.standard false
    let before := wearing ++ (opening ++ waking 0)
    Delaying strictHost (.push true) Settings.standard false (before ++ revising ++ waking 1) 300 ∧
      (s before).ready = true ∧ Burst (s before) 0 300 revising ∧
      Wakes (s (before ++ revising)) 1 300 (waking 1) ∧ (s (before ++ revising)).latest 0 = ⟨0, 0⟩ ∧
      (s before).orders 0 = [(⟨4294967295, 0⟩, [0])] ∧
      (s (before ++ revising ++ waking 1)).latest 0 = ⟨0, 0⟩ ∧
      (s (before ++ revising ++ waking 1)).orders 0 = [(⟨4294967295, 0⟩, [0])] ∧
      (s (before ++ revising ++ waking 1)).jobs = [] := by
  intro s before
  have reached : ∀ es, s (wearing ++ es) = (worn strictHost (.push true) Settings.standard).after es :=
    wears_push.after_wearing
  have path : shaderUri.path? = some shaderPath := by decide +kernel
  have quiet : ∀ e ∈ before ++ revising ++ waking 1, e.isPull = false ∧ e.isConfigured = false := by
    have later : ∀ e ∈ opening ++ (waking 0 ++ (revising ++ waking 1)),
        e.isPull = false ∧ e.isConfigured = false := by decide
    intro e he
    simp only [before, List.append_assoc] at he
    rcases List.mem_append.1 he with change | he
    · rw [eq_of_mem_wearing change]
      exact ⟨rfl, rfl⟩
    · exact later e he
  have delaying : Delaying strictHost (.push true) Settings.standard false
      (before ++ revising ++ waking 1) 300 :=
    delaying_of_unset (by decide) (fun e he => (quiet e he).1) fun e he => (quiet e he).2
  simp only [before, List.append_assoc] at delaying ⊢
  simp only [reached]
  refine ⟨delaying, by decide +kernel, .first (edits_of_any path (by decide +kernel) (by decide +kernel)),
    ⟨[], [.elapsed 300], [], rfl, by decide +kernel⟩, by decide +kernel, by decide +kernel, by decide +kernel,
    by decide +kernel, List.isEmpty_iff.1 (by decide +kernel)⟩

end ShaderDiagnostics.Service
