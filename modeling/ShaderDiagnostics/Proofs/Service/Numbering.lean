import Mathlib
import ShaderDiagnostics.Proofs.Service.Deeds

/-!
# The numbers of published diagnostics

Diagnostics are published for a URI and numbered by the record of the document, which counts from one. So
what has been published for a URI has, taken together, the numbers from one on of each record that the
document has had (`Service.numbered`). As long as the document keeps its record the numbers grow. A document
that has been forgotten gets another record when it is met again, which starts over.
-/

namespace ShaderDiagnostics

/-! ### Counting from one -/

/-- The first so many numbers, from one on. -/
def firstNumbers (count : Nat) : List Int := (List.range count).map fun n : Nat => (n : Int) + 1

@[simp] theorem length_firstNumbers (k : Nat) : (firstNumbers k).length = k := by
  simp [firstNumbers]

theorem firstNumbers_succ (k : Nat) : firstNumbers (k + 1) = firstNumbers k ++ [(k : Int) + 1] := by
  simp [firstNumbers, List.range_succ]

theorem mem_firstNumbers {k : Nat} {v : Int} : v ∈ firstNumbers k ↔ 1 ≤ v ∧ v ≤ k := by
  simp only [firstNumbers, List.mem_map, List.mem_range]
  constructor
  · rintro ⟨n, hn, rfl⟩
    omega
  · rintro ⟨low, high⟩
    exact ⟨(v - 1).toNat, by omega, by omega⟩

theorem firstNumbers_increase (k : Nat) : (firstNumbers k).Pairwise (· < ·) := by
  refine List.pairwise_map.2 (List.pairwise_lt_range.imp fun h => ?_)
  omega

theorem disjoint_firstNumbers {j k : Nat} :
    (firstNumbers j).Disjoint (firstNumbers k) ↔ j = 0 ∨ k = 0 := by
  constructor
  · intro apart
    by_contra both
    exact apart (mem_firstNumbers.2 ⟨le_refl 1, by omega⟩) (mem_firstNumbers.2 ⟨le_refl 1, by omega⟩)
  · rintro h v hj hk
    rw [mem_firstNumbers] at hj hk
    omega

/-! ### What records count -/

namespace Record

/-- How many diagnostics have been published for the document. -/
def count (r : Record) : Nat := r.sequence.toUInt32.toNat

/-- The numbers that the record has given to diagnostics of a URI. -/
def issued (r : Record) (uri : Uri) : List Int :=
  if Uri.ofPath? r.path = some uri then firstNumbers r.count else []

variable {r : Record} {uri : Uri} {k : Nat}

@[simp] theorem issued_new (p : Path) (uri : Uri) : (new p).issued uri = [] := by
  unfold issued
  split <;> rfl

theorem issued_congr {r' : Record} (path : r'.path = r.path) (sequence : r'.sequence = r.sequence)
    (uri : Uri) : r'.issued uri = r.issued uri := by
  unfold issued count
  rw [path, sequence]

theorem count_eq_zero : r.count = 0 ↔ r.sequence = 0 := by
  constructor
  · intro h
    exact Int32.toBitVec.inj (BitVec.eq_of_toNat_eq h)
  · intro h
    rw [count, h]
    rfl

/-- The next number is one more than the last, unless there is no room for it. -/
theorem count_advance (room : r.count + 1 < 2 ^ 31) :
    r.advance.count = r.count + 1 ∧ (r.sequence + 1).toInt = (r.count : Int) + 1 := by
  have next : r.advance.count = r.count + 1 := by
    show (r.sequence + 1).toUInt32.toNat = _
    rw [Int32.toUInt32_add, UInt32.toNat_add]
    change (r.count + 1) % 2 ^ 32 = r.count + 1
    omega
  refine ⟨next, ?_⟩
  have signed : (r.sequence + 1).toBitVec.toInt = (r.advance.count : Int) :=
    BitVec.toInt_eq_toNat_of_lt (by change 2 * r.advance.count < 2 ^ 32; omega)
  rw [next] at signed
  exact signed

theorem nodup_issued (r : Record) (uri : Uri) : (r.issued uri).Nodup := by
  unfold issued
  split
  · exact (firstNumbers_increase _).imp fun less => less.ne
  · exact List.nodup_nil

/-- Two records share no number exactly if not both have used one. -/
theorem disjoint_issued_iff {r' : Record} : (r.issued uri).Disjoint (r'.issued uri) ↔
    (Uri.ofPath? r.path = some uri → Uri.ofPath? r'.path = some uri → r.sequence = 0 ∨ r'.sequence = 0) := by
  unfold issued
  by_cases own : Uri.ofPath? r.path = some uri
  · by_cases own' : Uri.ofPath? r'.path = some uri
    · simp [own, own', disjoint_firstNumbers, count_eq_zero]
    · simp [own']
  · simp [own]

end Record

namespace Service

variable {s s' t : Service} {id : Nat} {r : Record} {uri : Uri} {found : List Diagnostic}
  {es : List Event}

/-- The numbers of the diagnostics published for a URI, in the order in which they were published. -/
def numbers (s : Service) (uri : Uri) : List Int :=
  s.outbox.sent.reverse.filterMap fun
    | .notice (.diagnostics other _ (some number)) => if other = uri then some number else none
    | _ => none

/-- The numbers that records have given to diagnostics of a URI, record by record. -/
def issued (s : Service) (uri : Uri) : List Int := s.registry.records.flatMap fun r => r.issued uri

/-- The records have counted, together, what has been published for a URI, which is in order if no number has
been used twice. -/
structure Numbered (s : Service) (uri : Uri) : Prop where
  counted : (s.numbers uri).Perm (s.issued uri)
  ordered : (s.numbers uri).Nodup → s.numbers uri = firstNumbers (s.numbers uri).length

/-! ### One deed -/

/-- Nothing has been published for a URI. -/
structure Mute (s s' : Service) (uri : Uri) : Prop where
  numbers : s'.numbers uri = s.numbers uri
  issued : s'.issued uri = s.issued uri

theorem Mute.trans (h : Mute s s' uri) (h' : Mute s' t uri) : Mute s t uri :=
  ⟨h'.numbers.trans h.numbers, h'.issued.trans h.issued⟩

/-- Something has been published for a URI, with the next number of a record. -/
structure Voiced (s s' : Service) (uri : Uri) (r : Record) (before after : List Int) : Prop where
  numbers : s'.numbers uri = s.numbers uri ++ [(r.sequence + 1).toInt]
  own : Uri.ofPath? r.path = some uri
  issued : s.issued uri = before ++ r.issued uri ++ after
  advanced : s'.issued uri = before ++ r.advance.issued uri ++ after

/-- A record that changes gives other numbers, and only that record does. -/
theorem issued_modifyRecord (hr : s.registry.record? id = some r) (f : Record → Record) (uri : Uri) :
    ∃ before after, s.issued uri = before ++ r.issued uri ++ after ∧
      (s.modifyRecord id f).issued uri = before ++ (f r).issued uri ++ after := by
  obtain ⟨there, hget⟩ := List.getElem?_eq_some_iff.1 hr
  have whole : s.registry.records.modify id (fun r => r) = s.registry.records := List.modify_id _ _
  rw [List.modify_eq_take_cons_drop there, hget] at whole
  have split : ∀ r' : Record, (s.registry.records.take id ++ r' :: s.registry.records.drop (id + 1)).flatMap
      (fun r => r.issued uri) = (s.registry.records.take id).flatMap (fun r => r.issued uri) ++
        r'.issued uri ++ (s.registry.records.drop (id + 1)).flatMap fun r => r.issued uri := by
    intro r'
    rw [List.flatMap_append, List.flatMap_cons, ← List.append_assoc]
  refine ⟨_, _, (congrArg _ whole.symm).trans (split r), ?_⟩
  rw [← split (f r), issued, modifyRecord, Registry.modify, List.modify_eq_take_cons_drop there, hget]

theorem mute_modifyRecord (hr : s.registry.record? id = some r) {f : Record → Record}
    (path : (f r).path = r.path) (sequence : (f r).sequence = r.sequence) :
    Mute s (s.modifyRecord id f) uri := by
  obtain ⟨before, after, old, new⟩ := issued_modifyRecord hr f uri
  rw [Record.issued_congr path sequence] at new
  exact ⟨rfl, new.trans old.symm⟩

theorem mute_touch (hr : s.registry.record? id = some r) (editor : Editor) (opened : Bool) :
    Mute s (s.touch id editor opened) uri := by
  have there : ({ s with editor } : Service).registry.record? id = some r := hr
  have mute : Mute { s with editor } (s.touch id editor opened) uri := mute_modifyRecord there rfl rfl
  exact ⟨mute.numbers, mute.issued⟩

/-- What is published for a URI has the next number of its record. -/
theorem publish_voices (push : s.delivery = .push true) (id : Nat) (found : List Diagnostic) (uri : Uri) :
    Mute s (s.publish id found) uri ∨
      ∃ r before after, Voiced s (s.publish id found) uri r before after := by
  unfold publish
  split
  · exact Or.inl ⟨rfl, rfl⟩
  next r hr =>
    obtain ⟨before, after, old, new⟩ := issued_modifyRecord hr Record.advance uri
    rw [if_pos (by rw [push]; rfl)]
    split
    · exact Or.inl ⟨rfl, rfl⟩
    next own hown =>
      dsimp only
      by_cases same : own = uri
      · refine Or.inr ⟨r, before, after, ?_, same ▸ hown, old, new⟩
        simp [numbers, modifyRecord, push, Outbox.publish, Outbox.tell, Outbox.send, same]
      · refine Or.inl ⟨?_, ?_⟩
        · simp [numbers, modifyRecord, push, Outbox.publish, Outbox.tell, Outbox.send, same]
        · have other : ∀ r' : Record, r'.path = r.path → r'.issued uri = [] := by
            intro r' path
            rw [Record.issued, path, hown, if_neg fun h => same (Option.some.inj h)]
          rw [other r rfl] at old
          rw [other r.advance rfl] at new
          exact new.trans old.symm

/-- A deed publishes at most one thing. -/
theorem Deed.voices {lost : Path → Prop} (d : Deed lost s s') (push : s.delivery = .push true) (uri : Uri) :
    Mute s s' uri ∨ ∃ r before after, Voiced s s' uri r before after := by
  cases d with
  | publishes id found => exact publish_voices push id found uri
  | @retracts id r known =>
    have shown : Mute s (s.show_ id none) uri := mute_modifyRecord known.1 rfl rfl
    rcases publish_voices (s := s.show_ id none) push id [] uri with mute | ⟨r, before, after, voiced⟩
    · exact Or.inl (shown.trans mute)
    · obtain ⟨numbers, own, issued, advanced⟩ := voiced
      rw [shown.numbers] at numbers
      rw [shown.issued] at issued
      exact Or.inr ⟨r, before, after, numbers, own, issued, advanced⟩
  | ensures p =>
    refine Or.inl ⟨rfl, ?_⟩
    change (s.registry.ensure p).1.records.flatMap _ = s.registry.records.flatMap _
    unfold Registry.ensure
    split
    · rfl
    · simp
  | changes known => exact Or.inl (mute_touch known.1 _ _)
  | @works id f alike =>
    refine Or.inl ?_
    cases hr : s.registry.record? id with
    | none =>
      refine ⟨rfl, ?_⟩
      unfold modifyRecord Registry.modify issued
      rw [List.modify_eq_self (List.getElem?_eq_none_iff.1 hr)]
    | some r => exact mute_modifyRecord hr (alike r hr).path (alike r hr).sequence
  | @analyzes id =>
    rcases analyze_cases s id with same | ⟨b, same⟩
    · exact Or.inl (same.symm ▸ ⟨rfl, rfl⟩)
    · exact Or.inl (same.symm ▸ ⟨rfl, rfl⟩)
  | refreshes =>
    refine Or.inl ⟨?_, rfl⟩
    rw [refresh, push]
    rfl
  | reports => exact Or.inl ⟨by simp [report, tell, Outbox.tell, Outbox.send, numbers, ServiceError.notice], rfl⟩
  | _ => exact Or.inl ⟨by simp [reply, refuse, Outbox.send, numbers, forget, spawn], rfl⟩

/-! ### Sessions -/

theorem Numbered.mute (h : Numbered s uri) (m : Mute s s' uri) : Numbered s' uri := by
  obtain ⟨counted, ordered⟩ := h
  rw [← m.numbers] at counted ordered
  exact ⟨m.issued ▸ counted, ordered⟩

/-- The record that publishes has counted all there is if no number has been used twice: then the numbers up
to its own last one are there, and its next one is not. -/
theorem Numbered.voiced {before after : List Int} (h : Numbered s uri) (v : Voiced s s' uri r before after)
    (few : (s'.numbers uri).length < 2 ^ 31) : Numbered s' uri := by
  have own : ∀ r' : Record, r'.path = r.path → r'.issued uri = firstNumbers r'.count := by
    intro r' path
    rw [Record.issued, path, if_pos v.own]
  have mine : firstNumbers r.count ⊆ s.numbers uri := by
    intro x hx
    refine h.counted.symm.subset ?_
    rw [v.issued, own r rfl]
    exact List.mem_append_left _ (List.mem_append_right _ hx)
  have counted : r.count ≤ (s.numbers uri).length := by
    have := congrArg List.length v.issued
    rw [own r rfl, ← h.counted.length_eq, List.length_append, List.length_append,
      length_firstNumbers] at this
    omega
  have length : (s'.numbers uri).length = (s.numbers uri).length + 1 := by
    rw [v.numbers, List.length_append, List.length_singleton]
  obtain ⟨next, number⟩ := Record.count_advance (r := r) (by omega)
  have numbers : s'.numbers uri = s.numbers uri ++ [(r.count : Int) + 1] := number ▸ v.numbers
  constructor
  · rw [numbers, v.advanced, own r.advance rfl, next, firstNumbers_succ, ← own r rfl]
    have given := h.counted.append_right [(r.count : Int) + 1]
    rw [v.issued] at given
    refine given.trans ?_
    have last : (after ++ [(r.count : Int) + 1]).Perm ([(r.count : Int) + 1] ++ after) := List.perm_append_comm
    simp only [List.append_assoc]
    exact (last.append_left _).append_left _
  · intro apart
    rw [numbers, List.nodup_append] at apart
    obtain ⟨apart, -, fresh⟩ := apart
    have ordered := h.ordered apart
    have above : (s.numbers uri).length ≤ r.count := by
      by_contra below
      refine fresh _ ?_ _ (List.mem_singleton_self _) rfl
      rw [ordered, mem_firstNumbers]
      omega
    have all : r.count = (s.numbers uri).length := le_antisymm counted above
    rw [length, firstNumbers_succ, ← ordered, numbers, all]

/-- The records count what is published in every session with diagnostics that are published and numbered. -/
theorem session_numbered (host : Host) (settings : Settings) (waits : Bool) (es : List Event) (uri : Uri)
    (few : ((session host (.push true) settings waits es).numbers uri).length < 2 ^ 31) :
    Numbered (session host (.push true) settings waits es) uri := by
  refine (session_lasting (I := fun s => s.delivery = .push true ∧
    ((s.numbers uri).length < 2 ^ 31 → Numbered s uri)) ⟨rfl, fun _ => ⟨.refl _, fun _ => rfl⟩⟩
    (fun _ h => ⟨h.1, fun few => (h.2 few).mute ⟨rfl, rfl⟩⟩)
    (fun known _ h => ⟨h.1, fun few => (h.2 few).mute (mute_touch known.1 _ _)⟩)
    (fun _ d h => ⟨d.delivery.trans h.1, fun few => ?_⟩) es).2 few
  obtain ⟨push, numbered⟩ := h
  rcases d.voices push uri with mute | ⟨r, before, after, voiced⟩
  · exact (numbered (mute.numbers ▸ few)).mute mute
  · refine (numbered ?_).voiced voiced few
    rw [voiced.numbers, List.length_append] at few
    omega

/-- The numbers grow if and only if none has been used twice. -/
theorem Numbered.increase_iff (h : Numbered s uri) :
    (s.numbers uri).Pairwise (· < ·) ↔ (s.numbers uri).Nodup := by
  constructor
  · exact fun increase => increase.imp fun less => less.ne
  · intro apart
    rw [h.ordered apart]
    exact firstNumbers_increase _

/-- No number has been used twice if and only if one record has given all of them. -/
theorem Numbered.nodup_iff (h : Numbered s uri) : (s.numbers uri).Nodup ↔
    ∀ m n r r', s.registry.record? m = some r → s.registry.record? n = some r' →
      Uri.ofPath? r.path = some uri → Uri.ofPath? r'.path = some uri →
        r.sequence ≠ 0 → r'.sequence ≠ 0 → m = n := by
  rw [h.counted.nodup_iff, issued, List.nodup_flatMap, List.pairwise_iff_getElem]
  constructor
  · rintro ⟨-, apart⟩ m n r r' hr hr' own own' spoken spoken'
    have alone : ∀ {i j : Nat} {a b : Record}, s.registry.record? i = some a →
        s.registry.record? j = some b → Uri.ofPath? a.path = some uri → Uri.ofPath? b.path = some uri →
          a.sequence ≠ 0 → b.sequence ≠ 0 → ¬ i < j := by
      intro i j a b ha hb owna ownb spokena spokenb less
      obtain ⟨hi, rfl⟩ := List.getElem?_eq_some_iff.1 ha
      obtain ⟨hj, rfl⟩ := List.getElem?_eq_some_iff.1 hb
      exact (Record.disjoint_issued_iff.1 (apart i j hi hj less) owna ownb).elim spokena spokenb
    rcases lt_trichotomy m n with less | same | less
    · exact absurd less (alone hr hr' own own' spoken spoken')
    · exact same
    · exact absurd less (alone hr' hr own' own spoken' spoken)
  · intro alone
    refine ⟨fun r _ => r.nodup_issued uri, fun i j hi hj less => Record.disjoint_issued_iff.2 fun own own' => ?_⟩
    by_contra spoken
    obtain ⟨spoken, spoken'⟩ := not_or.1 spoken
    exact less.ne (alone i j _ _ (List.getElem?_eq_getElem hi) (List.getElem?_eq_getElem hj) own own' spoken spoken')

section

variable {host : Host} {settings : Settings} {waits : Bool}

/-- **The numbers of published diagnostics.** In every session with numbered diagnostics, whatever happens,
what has been published for a URI has, taken together, the numbers that the records of the document have
counted, each from one on, as long as there is room for them. So the numbers grow if and only if all of them
come from one record, and then they are one, two, three and so on; and they do if no record of the document
has ever been forgotten. -/
theorem numbered (few : ((session host (.push true) settings waits es).numbers uri).length < 2 ^ 31) :
    let s := session host (.push true) settings waits es
    (s.numbers uri).Perm (s.issued uri) ∧
      ((s.numbers uri).Pairwise (· < ·) ↔ s.numbers uri = firstNumbers (s.numbers uri).length) ∧
      ((s.numbers uri).Pairwise (· < ·) ↔
        ∀ m n r r', s.registry.record? m = some r → s.registry.record? n = some r' →
          Uri.ofPath? r.path = some uri → Uri.ofPath? r'.path = some uri →
            r.sequence ≠ 0 → r'.sequence ≠ 0 → m = n) ∧
      ((∀ id r, s.registry.record? id = some r → Uri.ofPath? r.path = some uri →
        s.registry.find? r.path = some id) → (s.numbers uri).Pairwise (· < ·)) := by
  intro s
  have h : Numbered s uri := session_numbered host settings waits es uri few
  have alone := h.increase_iff.trans h.nodup_iff
  refine ⟨h.counted, ⟨fun increase => h.ordered (h.increase_iff.1 increase), fun counts => ?_⟩, alone,
    fun kept => alone.2 fun m n r r' hr hr' own own' _ _ => ?_⟩
  · rw [counts]
    exact firstNumbers_increase _
  · exact Registry.Sound.unique ⟨hr, kept m r hr own⟩ ⟨hr', kept n r' hr' own'⟩ (Uri.same_of_ofPath? own own')

end

/-- The file of the shader is created. -/
def creation : Event := .file ⟨shaderUri, 1⟩

/-- The file of the shader is there, its diagnostics are published, and it is deleted. -/
def stay : List Event := [creation, .polled 0, deletion]

/-- What is published for the shader while its file stays has growing numbers. -/
theorem stay_numbered :
    (session strictHost (.push true) wideSettings false stay).numbers shaderUri = [1, 2] ∧
      ((session strictHost (.push true) wideSettings false stay).numbers shaderUri).Pairwise (· < ·) := by
  have numbers : (session strictHost (.push true) wideSettings false stay).numbers shaderUri = [1, 2] := by
    decide +kernel
  refine ⟨numbers, (numbered (by rw [numbers]; decide)).2.1.2 ?_⟩
  rw [numbers]
  rfl

/-- The numbers start over once the file of the shader is created again. -/
theorem stay_renumbered :
    let s := session strictHost (.push true) wideSettings false (stay ++ [creation, .polled 1])
    s.numbers shaderUri = [1, 2, 1] ∧ ¬ (s.numbers shaderUri).Pairwise (· < ·) := by
  intro s
  have numbers : s.numbers shaderUri = [1, 2, 1] := by decide +kernel
  refine ⟨numbers, ?_⟩
  rw [numbers]
  decide

end Service

end ShaderDiagnostics
