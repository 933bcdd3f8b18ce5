import ShaderDiagnostics.Proofs.Service.Reconfiguring
import Mathlib.Data.List.Induction

/-!
# Runs keep house

Every event of a run in which diagnostics are published keeps the service in order (`Orderly.step`), and
so does the whole run (`Publishing.orderly`). If hosts do not change what they find under the names of
validators, then the service goes by the validator that its settings name (`Service.Equipped`).
-/

namespace ShaderDiagnostics.Service

variable {s s' : Service} {e : Event} {es : List Event}

/-! ### One event -/

theorem Orderly.poll (h : Orderly s) (job : Nat) : Orderly (s.poll job) := by
  obtain ⟨id, goes⟩ := h.kept.poll job
  exact ⟨goes.kept, h.tended.poll h.kept job⟩

theorem Orderly.aside (h : Orderly s) (q : Quiet s s') (hr : s'.registry = s.registry)
    (same : s'.published = s.published) : Orderly s' :=
  ⟨h.kept.aside q hr same, h.tended.quiet q⟩

/-- Another host makes no difference to what has been done and is under way. -/
theorem Orderly.withHost (h : Orderly s) {host : Host} (same : host.embedded = s.host.embedded) :
    Orderly (s.withHost host) := by
  constructor
  · refine h.kept.beside rfl rfl rfl (fun id r _ => ?_) h.kept.jobs h.kept.distinct h.kept.fresh
    exact .of_same rfl rfl same rfl rfl rfl (fun hf => ⟨hf, rfl⟩) fun _ hl => hl
  · intro he hready id r hk hw
    refine (h.tended (same.symm.trans he) hready id r hk hw).imp_right fun ha => ?_
    exact ha.mono (fun _ hx => hx) rfl fun _ hj => hj

/-- An event keeps the service in order, unless a version wraps around. -/
theorem Orderly.step (h : Orderly s) (pull : e.isPull = false) (st : Steady s (s.step e)) :
    Orderly (s.step e) := by
  cases e with
  | opened uri text version =>
    exact orUnchanged_ind h fun t ht => h.didOpen ht (by rwa [Service.step, ht] at st)
  | edited uri edits version =>
    exact orUnchanged_ind h fun t ht => h.didChange ht (by rwa [Service.step, ht] at st)
  | closed uri => exact orUnchanged_ind h fun t ht => h.didClose ht (by rwa [Service.step, ht] at st)
  | file e => exact h.fileEvent e st
  | configured settings => exact h.configure st
  | pulled id p => cases pull
  | pulledAll id known => cases pull
  | polled job => exact h.poll job
  | elapsed milliseconds => exact h.aside (elapse_quiet s milliseconds) rfl rfl
  | released gate => exact h.aside (release_quiet s gate) rfl rfl
  | host host => exact h.withHost rfl

/-! ### All events -/

/-- There is nothing to keep at the start. -/
theorem orderly_start (host : Host) {delivery : Delivery} (settings : Settings) (waits : Bool)
    (push : delivery.isPush = true) : Orderly (start host delivery settings waits) := by
  refine ⟨⟨push, Registry.sound_empty, fun id r hr => ?_, fun j hj => ?_, List.nodup_nil, fun j hj => ?_,
    fun uri found hu => ?_⟩, fun _ _ id r hk => ?_⟩
  · simp [start, Registry.empty, Registry.record?] at hr
  · cases hj
  · cases hj
  · cases hu
  · simp [start, Registry.empty, Registry.Known, Registry.record?] at hk

theorem Publishing.orderly (h : Publishing s es) (ho : Orderly s) : Orderly (s.after es) := by
  induction es using List.reverseRecOn with
  | nil => exact ho
  | append_singleton es e ih =>
    obtain ⟨pull, st⟩ := h.last
    rw [after_snoc]
    exact (ih h.take).step pull st

/-- Whatever comes after some events, records and validations last. -/
theorem Publishing.lasts (h : Publishing s es) (ho : Orderly s) : Lasts s (s.after es) := by
  induction es using List.reverseRecOn with
  | nil => exact .refl s
  | append_singleton es e ih =>
    rw [after_snoc]
    exact (ih h.take).trans ((h.take.orderly ho).kept.step_lasts h.last.1)

/-! ### The validator -/

/-- The service goes by the validator that is found under the name in its settings. -/
structure Equipped (s : Service) (resolve : String → Option Path) : Prop where
  host : s.host.resolve = resolve
  validator : s.validator = resolve s.settings.validator

variable {resolve : String → Option Path}

theorem Equipped.onward (q : Equipped s resolve) (o : Onward s s') : Equipped s' resolve :=
  ⟨o.host ▸ q.host, by rw [o.validator, o.settings, q.validator]⟩

/-- The validator is looked up when its name changes. -/
theorem Equipped.replaceSettings (q : Equipped s resolve) (settings : Settings) :
    Equipped (s.replaceSettings settings) resolve := by
  refine ⟨q.host, ?_⟩
  unfold Service.replaceSettings
  dsimp only
  split
  · rw [q.host]
  next same =>
    simp only [Bool.or_eq_true, not_or, bne_iff_ne, ne_eq, Decidable.not_not] at same
    rw [q.validator, same.2]

/-- The validator stays the right one over an event that leaves it and the host alone, or else brings new
settings or a host that finds the same validators. -/
theorem Equipped.step_of_onward (q : Equipped s resolve)
    (onward : (∀ settings, e ≠ .configured settings) → (∀ host, e ≠ .host host) → Onward s (s.step e))
    (same : ∀ host, e = .host host → host.resolve = resolve) : Equipped (s.step e) resolve := by
  by_cases settings : ∃ settings, e = .configured settings
  · obtain ⟨settings, rfl⟩ := settings
    exact (q.replaceSettings settings).onward (configure_onward s settings)
  · by_cases host : ∃ host, e = .host host
    · obtain ⟨host, rfl⟩ := host
      exact ⟨same host rfl, q.validator⟩
    · exact q.onward (onward (fun new he => settings ⟨new, he⟩) fun h he => host ⟨h, he⟩)

theorem Equipped.step {leaving : Nat → Prop} (q : Equipped s resolve) (k : s.Kept leaving)
    (pull : e.isPull = false) (same : ∀ host, e = .host host → host.resolve = resolve) :
    Equipped (s.step e) resolve :=
  q.step_of_onward (k.step_onward pull) same

theorem Publishing.equipped (h : Publishing s es) (ho : Orderly s) (q : Equipped s resolve)
    (same : ∀ host, .host host ∈ es → host.resolve = resolve) : Equipped (s.after es) resolve := by
  induction es using List.reverseRecOn with
  | nil => exact q
  | append_singleton es e ih =>
    rw [after_snoc]
    refine (ih h.take fun host hm => same host (List.mem_append_left _ hm)).step
      (h.take.orderly ho).kept h.last.1 fun host he => same host ?_
    simp [he]

end ShaderDiagnostics.Service
