import ShaderDiagnostics.Proofs.Service.Invocations
import ShaderDiagnostics.Proofs.Service.Published

/-!
# How often the validator runs

The caches of records are asked with tokens of moments of the session, and of two such tokens one covers
the other as long as versions do not get around. So the validator is not run again for what it has been
run for, unless a validation has failed (`Service.validates_once`): what the completed result of a record
covers it covers from then on, and at most one run more is made for a token than validations fail whose
tokens cover it.

A validation runs the validator once at most, which is what makes the number of validations bound that of
the runs (`Service.session_ran`).
-/

namespace ShaderDiagnostics

open Cache (Ranked Within Thrifty Sound)

namespace Service

variable {P : Token → Prop} {asks : Inquiry → Prop} {s : Service} {id : Nat} {r r' : Record}
  {xs : List Exchange}

/-! ### Acts -/

/-- The cache of a record is asked with tokens of a kind and keeps to one run of each. -/
structure Economical (P : Token → Prop) (r : Record) : Prop where
  sound : r.results.Sound Token.covers
  within : r.results.Within P
  thrifty : r.results.Thrifty Token.covers P

theorem economical_new (results : r.results = Cache.empty) : Economical P r := by
  refine ⟨?_, ?_, ?_⟩ <;> rw [results]
  · exact Cache.sound_empty
  · exact Cache.within_empty
  · exact Cache.thrifty_empty

namespace Economical

/-- Only the diagnostics of the record matter. -/
theorem of_same (h : Economical P r) (results : r'.results = r.results) : Economical P r' := by
  obtain ⟨sound, within, thrifty⟩ := h
  rw [← results] at sound within thrifty
  exact ⟨sound, within, thrifty⟩

/-- The work of a validation has changed. -/
theorem modifyWork (h : Economical P r) (n : Nat) (f : Validation → Validation) :
    Economical P { r with results := r.results.modifyWork n f } where
  sound := h.sound.modifyWork n f
  within := h.within.modifyWork n f
  thrifty := h.thrifty.modifyWork n f

theorem request (h : Economical P r) (ranked : Ranked Token.covers P) {t : Token} (ht : P t)
    (sn : Snapshot) :
    Economical P { r with results := (r.results.request Token.covers t ⟨sn, .fresh, []⟩).1 } where
  sound := h.sound.request t _
  within := h.within.request ht _
  thrifty := h.thrifty.request ranked h.within ht _

theorem finish (h : Economical P r) (ranked : Ranked Token.covers P) (n : Nat)
    (o : Except ServiceError (List Diagnostic)) :
    Economical P { r with results := r.results.finish Token.covers n o } where
  sound := h.sound.finish n o
  within := h.within.finish n o
  thrifty := h.thrifty.finish ranked h.within h.sound n o

end Economical

/-- An act keeps house. -/
theorem Act.economical (a : Act asks s id r r' xs) (ranked : Ranked Token.covers P)
    (known : ∀ i, asks i → i.record = id → P i.token) (h : Economical P r) : Economical P r' := by
  cases a with
  | publishes => exact h.of_same rfl
  | shows => exact h.of_same rfl
  | requests asked own => exact h.request ranked (known _ asked own) _
  | joins _ _ n job => exact h.modifyWork n _
  | reads => exact h.of_same rfl
  | gets => exact h.of_same rfl
  | waits => exact h.modifyWork _ _
  | runs => exact h.modifyWork _ _
  | ends => exact h.finish ranked _ _

/-- What the completed result covers it covers after an act. -/
theorem Act.covered (a : Act asks s id r r' xs) (ranked : Ranked Token.covers P)
    (h : Economical P r) {t : Token} (ht : P t)
    (covered : Cache.coveredBy Token.covers r.results.completedVersion t = true) :
    Cache.coveredBy Token.covers r'.results.completedVersion t = true := by
  cases a with
  | publishes => exact covered
  | shows => exact covered
  | @requests i =>
    show Cache.coveredBy Token.covers
      (r.results.request Token.covers i.token ⟨i.snapshot, .fresh, []⟩).1.completedVersion t = true
    rcases Cache.request_cases Token.covers r.results i.token ⟨i.snapshot, .fresh, []⟩ with
      same | ⟨-, new⟩
    · rwa [same]
    · rw [new]
      exact covered
  | joins => exact covered
  | reads => exact covered
  | gets => exact covered
  | waits => exact covered
  | runs => exact covered
  | ends => exact Cache.covered_finish ranked h.within h.sound _ _ ht covered

/-! ### Sessions -/

variable {host : Host} {delivery : Delivery} {settings : Settings} {waits : Bool} {es es' : List Event}
  {e : Event}

/-- A token that a job has asked for the diagnostics of a record with. -/
def Passed (s₀ : Service) (es : List Event) (id : Nat) (t : Token) : Prop :=
  ∃ m i, Been s₀ es m ∧ m.Asked i ∧ i.record = id ∧ i.token = t

/-- Jobs ask with tokens that the document has had. -/
theorem Passed.hadToken {t : Token}
    (h : Passed (start host delivery settings waits) es id t) :
    HadToken (start host delivery settings waits) es id t := by
  obtain ⟨m, i, ⟨before, hb, rfl⟩, asked, rfl, rfl⟩ := h
  exact ((session_taken host delivery settings waits before asked).mono hb).hadToken

section

variable (few : contentRises host delivery settings waits id es +
  settingsRises host delivery settings waits es < UInt32.size)
include few

/-- The cache of a record keeps house through a session. -/
theorem session_economical (hp : es' <+: es)
    (hr : (session host delivery settings waits es').registry.record? id = some r) :
    Economical (HadToken (start host delivery settings waits) es id) r := by
  have ranked := tokens_ranked few
  have known : ∀ before i, before <+: es' → (session host delivery settings waits before).Asked i →
      i.record = id → HadToken (start host delivery settings waits) es id i.token := by
    rintro before i hb asked rfl
    exact ((session_taken host delivery settings waits before asked).mono (hb.trans hp)).hadToken
  exact session_record (I := fun _ _ r => Economical (HadToken (start host delivery settings waits) es id) r)
    (fun _ results _ => economical_new results) (fun _ _ results h => h.of_same results) (fun _ h => h)
    (fun hb _ _ a h => a.economical ranked (fun i => known _ i hb) h) (fun _ h => h) hr

/-- What the completed result of a record covers it covers after an event. -/
theorem covered_step (hp : es' ++ [e] <+: es) {t : Token}
    (ht : HadToken (start host delivery settings waits) es id t)
    (hr : (session host delivery settings waits es').registry.record? id = some r)
    (covered : Cache.coveredBy Token.covers r.results.completedVersion t = true) :
    ∃ r', (session host delivery settings waits (es' ++ [e])).registry.record? id = some r' ∧
      Cache.coveredBy Token.covers r'.results.completedVersion t = true := by
  have ranked := tokens_ranked few
  have past : es' <+: es := (List.prefix_append es' [e]).trans hp
  have intact := session_intact host delivery settings waits es'
  have known : ∀ i, (session host delivery settings waits es').Asked i → i.record = id →
      HadToken (start host delivery settings waits) es id i.token := by
    rintro i asked rfl
    exact ((session_taken host delivery settings waits es' asked).mono past).hadToken
  obtain ⟨r', hr', -, h⟩ := intact.record (I := fun _ r =>
      Economical (HadToken (start host delivery settings waits) es id) r ∧
        Cache.coveredBy Token.covers r.results.completedVersion t = true) e
    (fun _ _ results h => ⟨h.1.of_same results, results ▸ h.2⟩)
    (fun _ _ a h => ⟨a.economical ranked known h.1, a.covered ranked h.1 ht h.2⟩)
    (fun _ h => h) hr ⟨session_economical few past hr, covered⟩
  rw [session_snoc]
  exact ⟨r', hr', h⟩

/-- What the completed result of a record covers it covers from then on. -/
theorem covered_later {es₁ es₂ : List Event} (h₁ : es₁ <+: es₂) (h₂ : es₂ <+: es) {t : Token}
    (ht : HadToken (start host delivery settings waits) es id t)
    (hr : (session host delivery settings waits es₁).registry.record? id = some r)
    (covered : Cache.coveredBy Token.covers r.results.completedVersion t = true) :
    ∃ r', (session host delivery settings waits es₂).registry.record? id = some r' ∧
      Cache.coveredBy Token.covers r'.results.completedVersion t = true := by
  obtain ⟨rest, rfl⟩ := h₁
  induction rest using List.reverseRecOn with
  | nil => exact ⟨r, by rwa [List.append_nil], covered⟩
  | append_singleton rest e ih =>
    rw [← List.append_assoc] at h₂ ⊢
    obtain ⟨r', hr', covered'⟩ := ih ((List.prefix_append _ [e]).trans h₂)
    exact covered_step few h₂ ht hr' covered'

/-- **One run for a token.** Let the versions of a document and of the settings together rise fewer than
2³² times in a session. Of any two tokens that jobs pass to the cache of the document's record one covers
the other. What the completed result covers it covers from then on. And the validator is run for the
record by validations only, for a token at most once more than validations fail whose tokens cover it. -/
theorem validates_once :
    (∀ t t', Passed (start host delivery settings waits) es id t →
      Passed (start host delivery settings waits) es id t' → t.covers t' = true ∨ t'.covers t = true) ∧
    (∀ es₁ es₂ r₁ t, es₁ <+: es₂ → es₂ <+: es →
      (session host delivery settings waits es₁).registry.record? id = some r₁ →
      Cache.coveredBy Token.covers r₁.results.completedVersion t = true →
      ∃ r₂, (session host delivery settings waits es₂).registry.record? id = some r₂ ∧
        Cache.coveredBy Token.covers r₂.results.completedVersion t = true) ∧
    ∀ r, (session host delivery settings waits es).registry.record? id = some r →
      ((session host delivery settings waits es).log.filter (Exchange.isRun id)).Perm (r.ran id) ∧
      ∀ t, r.invocations t ≤ 1 + r.results.failures Token.covers t := by
  refine ⟨fun t t' ht ht' => (tokens_ranked few).total t t' ht.hadToken ht'.hadToken,
    fun es₁ es₂ r₁ t h₁ h₂ hr covered => ?_, fun r hr => ?_⟩
  · obtain ⟨u, hu, hut⟩ := Cache.coveredBy_iff.1 covered
    have economical := session_economical few (h₁.trans h₂) hr
    have pu := economical.within.completedVersion economical.sound hu
    obtain ⟨r₂, hr₂, covered₂⟩ := covered_later few h₁ h₂ pu hr
      (Cache.coveredBy_iff.2 ⟨u, hu, Token.covers_refl u⟩)
    obtain ⟨w, hw, hwu⟩ := Cache.coveredBy_iff.1 covered₂
    exact ⟨r₂, hr₂, Cache.coveredBy_iff.2 ⟨w, hw, Token.covers_trans hwu hut⟩⟩
  · have economical := session_economical few List.prefix_rfl hr
    exact ⟨session_ran hr, fun t =>
      Nat.le_trans (r.invocations_le_started t) (economical.thrifty.le economical.within t)⟩

end

/-- A host whose validator does not start. -/
def brokenHost : Host :=
  ({ strictScript with rules := [⟨[], .doesNotStart "not executable"⟩] } : ScriptedHost).host

/-- The validator does not start for the shader; then it is mended, and the editor asks again. -/
def mend : List Event :=
  [.opened shaderUri "x".toList 1, .polled 0, .host strictHost, .pulled (.number 1) ⟨shaderUri, none⟩,
    .polled 1]

/-- The validator is run twice for the shader, once more than it fails. -/
theorem mend_validates_once :
    contentRises brokenHost (.pull false) promptSettings false 0 mend +
        settingsRises brokenHost (.pull false) promptSettings false mend < UInt32.size ∧
      ∃ r, (session brokenHost (.pull false) promptSettings false mend).registry.record? 0 = some r ∧
        r.invocations ⟨2, 0⟩ = 2 ∧
        r.invocations ⟨2, 0⟩ ≤ 1 + r.results.failures Token.covers ⟨2, 0⟩ := by
  have few : contentRises brokenHost (.pull false) promptSettings false 0 mend +
      settingsRises brokenHost (.pull false) promptSettings false mend < UInt32.size := by
    decide +kernel
  have twice : ((session brokenHost (.pull false) promptSettings false mend).registry.record? 0).map
      (fun r => r.invocations ⟨2, 0⟩) = some 2 := by decide +kernel
  obtain ⟨r, hr, two⟩ := Option.map_eq_some_iff.1 twice
  exact ⟨few, r, hr, two, ((validates_once few).2.2 r hr).2 _⟩

end Service

end ShaderDiagnostics
