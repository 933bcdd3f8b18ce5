import ShaderDiagnostics.Proofs.Cache.Thrift
import ShaderDiagnostics.Proofs.Service.Versions

/-!
# Moments of a run

A run goes through moments: the states after some of its first events (`Service.Been`). Versions are
counters of 32 bits, and an event raises each by one at most, so what a version is at a moment is known from
how many times it has risen (`Service.session_version`). A document's version never falls as long as it
does not get around (`Service.version_le`), and as long as the versions of a document and of the settings
together rise fewer than 2³² times, of any two tokens that the document has had one covers the other
(`Service.tokens_ranked`).
-/

namespace ShaderDiagnostics.Service

variable {s s₀ m : Service} {es es' : List Event} {e : Event} {id : Nat}

/-! ### Moments -/

/-- The state of the service after some of the first events of a run. -/
def Been (s₀ : Service) (es : List Event) (m : Service) : Prop :=
  ∃ before, before <+: es ∧ m = s₀.after before

theorem been_now (s₀ : Service) (es : List Event) : Been s₀ es (s₀.after es) :=
  ⟨es, List.prefix_rfl, rfl⟩

theorem Been.mono (h : Been s₀ es m) (hp : es <+: es') : Been s₀ es' m := by
  obtain ⟨before, hb, rfl⟩ := h
  exact ⟨before, hb.trans hp, rfl⟩

/-! ### How versions rise -/

/-- How many times a version rises over a run. -/
def rises (version : Service → UInt32) (s : Service) : List Event → Nat
  | [] => 0
  | e :: es =>
    (if version (s.step e) = version s then 0 else 1) + rises version (s.step e) es

variable {version : Service → UInt32}

theorem rises_append (s : Service) (es es' : List Event) :
    rises version s (es ++ es') = rises version s es + rises version (s.after es) es' := by
  induction es generalizing s with
  | nil => exact (Nat.zero_add _).symm
  | cons e es ih =>
    show _ + rises version (s.step e) (es ++ es') = _ + rises version (s.step e) es + _
    rw [ih, Nat.add_assoc]
    rfl

theorem rises_mono (s : Service) (h : es <+: es') : rises version s es ≤ rises version s es' := by
  obtain ⟨rest, rfl⟩ := h
  rw [rises_append]
  exact Nat.le_add_right _ _

/-- A version that does not rise over a run is what it was after the first event, and does not rise over the rest. -/
theorem rises_cons_eq_zero {version : Service → UInt32} (none : rises version s (e :: es) = 0) :
    version (s.step e) = version s ∧ rises version (s.step e) es = 0 := by
  obtain ⟨first, rest⟩ := Nat.add_eq_zero_iff.1 none
  refine ⟨?_, rest⟩
  by_contra raised
  rw [if_neg raised] at first
  cases first

/-- An event raises a version once at most. -/
theorem rises_le_length (s : Service) (es : List Event) : rises version s es ≤ es.length := by
  induction es generalizing s with
  | nil => exact Nat.le_refl 0
  | cons e es ih =>
    have rest := ih (s.step e)
    unfold rises
    rw [List.length_cons]
    split <;> omega

variable (version) in
/-- A version that every event raises by one at most is as high as it has risen. -/
theorem version_after
    (raised : ∀ before e, version ((s.after before).step e) = version (s.after before) ∨
      version ((s.after before).step e) = version (s.after before) + 1) (es : List Event) :
    version (s.after es) = version s + UInt32.ofNat (rises version s es) := by
  induction es using List.reverseRecOn with
  | nil => exact (UInt32.add_zero (version s)).symm
  | append_singleton es e ih =>
    have last : rises version (s.after es) [e] =
        if version ((s.after es).step e) = version (s.after es) then 0 else 1 := Nat.add_zero _
    rw [rises_append, last, after_snoc]
    by_cases same : version ((s.after es).step e) = version (s.after es)
    · rw [if_pos same, same, ih, Nat.add_zero]
    · rw [if_neg same, (raised es e).resolve_left same, ih, UInt32.ofNat_add, UInt32.add_assoc]
      rfl

variable (host : Host) (delivery : Delivery) (settings : Settings) (waits : Bool)

/-- The version of the settings is as high as it has risen. -/
theorem session_settingsVersion (es : List Event) :
    (session host delivery settings waits es).settingsVersion =
      UInt32.ofNat (rises Service.settingsVersion (start host delivery settings waits) es) := by
  have h := version_after Service.settingsVersion (s := start host delivery settings waits)
    (fun before e => ((session_intact host delivery settings waits before).raised e).settings) es
  exact h.trans (UInt32.zero_add _)

/-- The first version of a document is one, and from then on it is as high as it has risen. -/
theorem session_version (es : List Event) (id : Nat) :
    (session host delivery settings waits es).registry.version id =
      1 + UInt32.ofNat
        (rises (fun s => s.registry.version id) (start host delivery settings waits) es) :=
  version_after (fun s => s.registry.version id) (s := start host delivery settings waits)
    (fun before e => ((session_intact host delivery settings waits before).raised e).records id) es

/-- How many times the version of a document rises over a session. -/
def contentRises (id : Nat) (es : List Event) : Nat :=
  rises (fun s => s.registry.version id) (start host delivery settings waits) es

/-- How many times the version of the settings rises over a session. -/
def settingsRises (es : List Event) : Nat :=
  rises Service.settingsVersion (start host delivery settings waits) es

variable {host delivery settings waits}

theorem toNat_version (few : contentRises host delivery settings waits id es + 1 < UInt32.size) :
    ((session host delivery settings waits es).registry.version id).toNat =
      1 + contentRises host delivery settings waits id es := by
  rw [session_version, UInt32.toNat_add, UInt32.toNat_ofNat']
  show (1 + contentRises host delivery settings waits id es % UInt32.size) % UInt32.size = _
  rw [Nat.mod_eq_of_lt (a := contentRises host delivery settings waits id es) (by omega),
    Nat.mod_eq_of_lt (by omega)]

/-- The version of a document does not fall, unless it gets around. -/
theorem version_le (few : contentRises host delivery settings waits id es' + 1 < UInt32.size)
    (h : es <+: es') :
    (session host delivery settings waits es).registry.version id ≤
      (session host delivery settings waits es').registry.version id := by
  have mono : contentRises host delivery settings waits id es ≤
      contentRises host delivery settings waits id es' := rises_mono _ h
  rw [UInt32.le_iff_toNat_le, toNat_version few, toNat_version (Nat.lt_of_le_of_lt (by omega) few)]
  omega

/-- The version of the settings does not fall, unless it gets around. -/
theorem settingsVersion_le (few : settingsRises host delivery settings waits es' < UInt32.size)
    (h : es <+: es') :
    (session host delivery settings waits es).settingsVersion ≤
      (session host delivery settings waits es').settingsVersion := by
  have mono : settingsRises host delivery settings waits es ≤
      settingsRises host delivery settings waits es' := rises_mono _ h
  rw [session_settingsVersion, session_settingsVersion, UInt32.le_iff_toNat_le, UInt32.toNat_ofNat',
    UInt32.toNat_ofNat']
  show settingsRises host delivery settings waits es % UInt32.size ≤
    settingsRises host delivery settings waits es' % UInt32.size
  rw [Nat.mod_eq_of_lt (by omega), Nat.mod_eq_of_lt (by omega)]
  exact mono

/-- Later tokens of a document cover earlier ones, unless a version gets around. -/
theorem later_covers (few : contentRises host delivery settings waits id es' + 1 < UInt32.size)
    (few' : settingsRises host delivery settings waits es' < UInt32.size) (h : es <+: es') :
    Token.covers
        ⟨(session host delivery settings waits es').registry.version id,
          (session host delivery settings waits es').settingsVersion⟩
        ⟨(session host delivery settings waits es).registry.version id,
          (session host delivery settings waits es).settingsVersion⟩ = true := by
  simp [Token.covers, version_le few h, settingsVersion_le few' h]

/-- No version wraps around if the version of the settings rises fewer than 2³² times and that of each document
fewer than 2³² - 1 times: as the first version of a document is one, exactly 2³² - 1 rises bring it round to
nought. -/
theorem publishing_of_few (push : delivery.isPush = true) (unasked : ∀ e ∈ es, e.isPull = false)
    (few : ∀ id, contentRises host delivery settings waits id es + 1 < UInt32.size)
    (few' : settingsRises host delivery settings waits es < UInt32.size) :
    Publishing (start host delivery settings waits) es where
  push := push
  unasked := unasked
  steady before e rest hes := by
    have past : before ++ [e] <+: es := ⟨rest, by rw [hes, List.append_assoc]; rfl⟩
    have next : before <+: before ++ [e] := List.prefix_append before [e]
    have fewer_settings : settingsRises host delivery settings waits (before ++ [e]) < UInt32.size :=
      Nat.lt_of_le_of_lt (rises_mono _ past) few'
    have fewer_content : ∀ id, contentRises host delivery settings waits id (before ++ [e]) + 1 < UInt32.size :=
      fun id => Nat.lt_of_le_of_lt (Nat.add_le_add_right (rises_mono _ past) 1) (few id)
    rw [← after_snoc]
    exact ⟨settingsVersion_le fewer_settings next, fun id => version_le (fewer_content id) next⟩

/-- No version wraps around in a session of fewer than 2³² - 1 events. -/
theorem publishing_of_short (host : Host) {delivery : Delivery} (settings : Settings) (waits : Bool)
    (push : delivery.isPush = true) (unasked : ∀ e ∈ es, e.isPull = false)
    (short : es.length < UInt32.size - 1) : Publishing (start host delivery settings waits) es := by
  refine publishing_of_few push unasked (fun id => ?_) ?_
  · have le : contentRises host delivery settings waits id es ≤ es.length := rises_le_length _ es
    omega
  · have le : settingsRises host delivery settings waits es ≤ es.length := rises_le_length _ es
    omega

/-- A token that a document has had at some moment of a session. -/
def HadToken (s₀ : Service) (es : List Event) (id : Nat) (t : Token) : Prop :=
  ∃ m, Been s₀ es m ∧ t = ⟨m.registry.version id, m.settingsVersion⟩

/-- Of any two tokens that a document has had, one covers the other, if the versions of the document and
of the settings together rise fewer than 2³² times. -/
theorem tokens_ranked
    (few : contentRises host delivery settings waits id es + settingsRises host delivery settings waits es
      < UInt32.size) :
    Cache.Ranked Token.covers (HadToken (start host delivery settings waits) es id) where
  trans u v w _ _ _ huv hvw := Token.covers_trans huv hvw
  total := by
    rintro u v ⟨m, ⟨before, hb, rfl⟩, rfl⟩ ⟨m', ⟨before', hb', rfl⟩, rfl⟩
    have less : ∀ {es₁}, es₁ <+: es → contentRises host delivery settings waits id es₁ +
        settingsRises host delivery settings waits es₁ < UInt32.size := fun h =>
      Nat.lt_of_le_of_lt (Nat.add_le_add (rises_mono _ h) (rises_mono _ h)) few
    have unchanged : ∀ {es₁ es₂}, es₁ <+: es₂ → settingsRises host delivery settings waits es₂ = 0 →
        (session host delivery settings waits es₁).settingsVersion =
          (session host delivery settings waits es₂).settingsVersion := by
      intro es₁ es₂ h none
      have none' : settingsRises host delivery settings waits es₁ = 0 :=
        Nat.le_zero.1 (none ▸ rises_mono _ h)
      rw [session_settingsVersion, session_settingsVersion]
      exact congrArg UInt32.ofNat (none'.trans none.symm)
    have compare : ∀ {es₁ es₂}, es₁ <+: es₂ → es₂ <+: es →
        Token.covers ⟨((start host delivery settings waits).after es₁).registry.version id,
            ((start host delivery settings waits).after es₁).settingsVersion⟩
          ⟨((start host delivery settings waits).after es₂).registry.version id,
            ((start host delivery settings waits).after es₂).settingsVersion⟩ = true ∨
        Token.covers ⟨((start host delivery settings waits).after es₂).registry.version id,
            ((start host delivery settings waits).after es₂).settingsVersion⟩
          ⟨((start host delivery settings waits).after es₁).registry.version id,
            ((start host delivery settings waits).after es₁).settingsVersion⟩ = true := by
      intro es₁ es₂ h h₂
      have few₂ := less h₂
      by_cases none : settingsRises host delivery settings waits es₂ = 0
      · -- the document's version may get around, but all tokens are for the first settings
        have same : ((start host delivery settings waits).after es₁).settingsVersion =
          ((start host delivery settings waits).after es₂).settingsVersion := unchanged h none
        rw [same]
        simpa [Token.covers] using UInt32.le_total _ _
      · exact Or.inr (later_covers (by omega) (by omega) h)
    rcases List.prefix_or_prefix_of_prefix hb hb' with h | h
    · exact compare h hb'
    · exact (compare h hb).symm

/-! ### What validations go by -/

/-- The token of a document and a snapshot of the same moment. -/
def Taken (s₀ : Service) (es : List Event) (id : Nat) (t : Token) (sn : Snapshot) : Prop :=
  ∃ m, Been s₀ es m ∧ t = ⟨m.registry.version id, m.settingsVersion⟩ ∧ sn = m.snapshot

theorem Taken.mono {t : Token} {sn : Snapshot} (h : Taken s₀ es id t sn) (hp : es <+: es') :
    Taken s₀ es' id t sn := by
  obtain ⟨m, been, ht, hs⟩ := h
  exact ⟨m, been.mono hp, ht, hs⟩

theorem Taken.hadToken {t : Token} {sn : Snapshot} (h : Taken s₀ es id t sn) : HadToken s₀ es id t := by
  obtain ⟨m, been, ht, -⟩ := h
  exact ⟨m, been, ht⟩

/-- Jobs ask with the token of the document and the snapshot of one moment. -/
theorem session_taken (host : Host) (delivery : Delivery) (settings : Settings) (waits : Bool)
    (es : List Event) {i : Inquiry} (asked : (session host delivery settings waits es).Asked i) :
    Taken (start host delivery settings waits) es i.record i.token i.snapshot := by
  induction es using List.reverseRecOn generalizing i with
  | nil =>
    obtain ⟨j, hj, -⟩ := asked
    cases hj
  | append_singleton es e ih =>
    have intact := session_intact host delivery settings waits es
    obtain ⟨j, hj, hi⟩ := asked
    rw [session_snoc] at hj
    rcases intact.mem_jobs e hj with ⟨b, hb, same⟩ | ⟨asks, -⟩
    · obtain ⟨i₀, hi₀, same⟩ := same.inquiries i hi
      rw [same]
      exact (ih ⟨_, hb, hi₀⟩).mono (List.prefix_append es [e])
    · obtain ⟨-, snapshot, r, hr, token⟩ := asks.inquiries i hi
      have now : (session host delivery settings waits es).step e =
          (start host delivery settings waits).after (es ++ [e]) := (after_snoc _ es e).symm
      rw [now] at snapshot hr token
      exact ⟨_, been_now _ _, by rw [Registry.version_of_record? hr]; exact token, snapshot⟩

/-- What lasts for a record through a whole session: it holds of a record that is new, only the path and
the caches of the record matter to it, and it lasts over every act of a poll. -/
theorem session_record {I : List Event → List Exchange → Record → Prop}
    (new : ∀ {before log r}, r.texts = Cache.empty → r.results = Cache.empty →
      (∀ x ∈ log, x.isFor id = false) → I before log r)
    (same : ∀ {before log r r'}, r'.path = r.path → r'.texts = r.texts → r'.results = r.results →
      I before log r → I before log r')
    (later : ∀ {before e log r}, before ++ [e] <+: es → I before log r → I (before ++ [e]) log r)
    (own : ∀ {before t r r' xs}, before <+: es → Quiet (session host delivery settings waits before) t →
      t.registry.record? id = some r →
      Act (session host delivery settings waits before).Asked t id r r' xs →
      I before t.log r → I before (xs ++ t.log) r')
    (others : ∀ {before log r xs}, (∀ x ∈ xs, x.isFor id = false) → I before log r →
      I before (xs ++ log) r) {r : Record}
    (hr : (session host delivery settings waits es).registry.record? id = some r) :
    I es (session host delivery settings waits es).log r := by
  induction es using List.reverseRecOn generalizing r with
  | nil => cases hr
  | append_singleton es e ih =>
    have intact := session_intact host delivery settings waits es
    have past : es <+: es ++ [e] := List.prefix_append es [e]
    rw [session_snoc] at hr ⊢
    cases hr₀ : (session host delivery settings waits es).registry.record? id with
    | none =>
      obtain ⟨texts, results, unheard⟩ := intact.record_new e hr hr₀
      exact new texts results unheard
    | some r₀ =>
      obtain ⟨r', hr', h⟩ := intact.record (I := I es) e same (own past) others hr₀
        (ih (fun hb => later (hb.trans past)) (fun hb => own (hb.trans past)) hr₀)
      obtain rfl := Option.some.inj (hr'.symm.trans hr)
      exact later List.prefix_rfl h

end ShaderDiagnostics.Service
