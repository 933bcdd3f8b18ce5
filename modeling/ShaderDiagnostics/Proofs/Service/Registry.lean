import ShaderDiagnostics.Service.Record
import Mathlib.Data.List.Pairwise

/-!
# The registry

A record that is known is found under its own path, and under no other path (`Registry.Known`). Records
keep their numbers and their paths; a record that has been forgotten is still there, but it is not known
any more, and the same path may get another record.

`Registry.Sound` holds from the start: no path stands twice in the table of known records, in whatever
spellings, and each path there is that of its record.
-/

namespace ShaderDiagnostics

/-! ### Tables by path -/

namespace PathMap

variable {α : Type} {m : PathMap α}

/-- No path stands twice in the table. -/
def Apart (m : PathMap α) : Prop := m.entries.Pairwise fun a b => a.1.same b.1 = false

/-- Spellings of one path find the same. -/
theorem get?_congr (m : PathMap α) {p q : Path} (h : p.same q = true) : m.get? p = m.get? q := by
  have hpq : (fun e : Path × α => e.1.same p) = fun e => e.1.same q := by
    funext e
    rw [Path.same_comm, same_congr h, Path.same_comm]
  unfold get?
  rw [hpq]

theorem mem_of_get? {p : Path} {a : α} (h : m.get? p = some a) :
    ∃ q, (q, a) ∈ m.entries ∧ q.same p = true := by
  obtain ⟨e, he, rfl⟩ := Option.map_eq_some_iff.1 h
  exact ⟨e.1, List.mem_of_find?_eq_some he, by simpa using List.find?_some he⟩

/-- What stands in the table under a path is found there. -/
theorem Apart.get?_of_mem (h : m.Apart) {p q : Path} {a : α} (he : (q, a) ∈ m.entries)
    (hp : q.same p = true) : m.get? p = some a := by
  obtain ⟨es⟩ := m
  unfold get?
  induction es with
  | nil => cases he
  | cons e rest ih =>
    obtain ⟨he', hrest⟩ := List.pairwise_cons.1 h
    rcases List.mem_cons.1 he with rfl | he
    · simp [hp]
    · have hep : e.1.same p = false := by
        rw [Path.same_comm, ← same_congr hp, Path.same_comm]
        exact he' _ he
      rw [List.find?_cons, hep]
      exact ih hrest he

theorem put_of_find?_none {p : Path} {a : α} {es : List (Path × α)}
    (h : es.find? (fun e => e.1.same p) = none) : put p a es = es ++ [(p, a)] := by
  induction es with
  | nil => rfl
  | cons e rest ih =>
    rw [List.find?_cons] at h
    split at h
    · cases h
    next he => simp [put, he, ih h]

/-- A path that is not in the table goes to its end. -/
theorem entries_insert {p : Path} (h : m.get? p = none) (a : α) :
    (m.insert p a).entries = m.entries ++ [(p, a)] :=
  put_of_find?_none (Option.map_eq_none_iff.1 h)

theorem Apart.insert (h : m.Apart) {p : Path} (hp : m.get? p = none) (a : α) : (m.insert p a).Apart := by
  unfold Apart
  rw [entries_insert hp]
  refine List.pairwise_append.2 ⟨h, List.pairwise_singleton _ _, ?_⟩
  rintro e he _ hs
  obtain rfl := List.mem_singleton.1 hs
  simpa using List.find?_eq_none.1 (Option.map_eq_none_iff.1 hp) e he

theorem Apart.erase (h : m.Apart) (p : Path) : (m.erase p).Apart := List.Pairwise.filter _ h

end PathMap

namespace Registry

variable {g : Registry}

/-! ### Records -/

theorem record?_modify (g : Registry) (id n : Nat) (f : Record → Record) :
    (g.modify id f).record? n = if n = id then (g.record? n).map f else g.record? n := by
  simp only [record?, modify, List.getElem?_modify]
  by_cases h : n = id
  · subst h; simp [Option.map]
  · simp [h, Ne.symm h]

theorem find?_forget (g : Registry) (p q : Path) :
    (g.forget p).find? q = if p.same q then none else g.find? q := PathMap.get?_erase _ _ _

theorem record?_ensure_of_record? {id : Nat} {r : Record} (h : g.record? id = some r) (p : Path) :
    (g.ensure p).1.record? id = some r := by
  unfold ensure
  split
  · exact h
  · exact (List.getElem?_append_left (List.getElem?_eq_some_iff.1 h).1).trans h

/-- A record is either there before the path has a record or has just been made for it. -/
theorem record?_ensure {p : Path} {id : Nat} {r : Record} (h : (g.ensure p).1.record? id = some r) :
    g.record? id = some r ∨
      g.record? id = none ∧ g.find? p = none ∧ id = (g.ensure p).2 ∧ r = Record.new p := by
  unfold ensure at h ⊢
  split at h
  · exact Or.inl h
  next hp =>
    simp only [record?] at h ⊢
    rw [hp]
    rcases Nat.lt_trichotomy id g.records.length with hl | hl | hl
    · rw [List.getElem?_append_left hl] at h
      exact Or.inl h
    · rw [hl, List.getElem?_concat_length] at h
      exact Or.inr ⟨List.getElem?_eq_none (Nat.le_of_eq hl.symm), rfl, hl, (Option.some.inj h).symm⟩
    · rw [List.getElem?_eq_none (by simpa using Nat.succ_le_of_lt hl)] at h
      cases h

/-- The version of the content of a record. A record that has not been made yet will have the first
one. -/
def version (g : Registry) (id : Nat) : UInt32 := (g.record? id).elim 1 Record.version

theorem version_of_record? {id : Nat} {r : Record} (h : g.record? id = some r) :
    g.version id = r.version := by
  rw [version, h]
  rfl

theorem version_congr {g' : Registry} {id : Nat} (h : g'.record? id = g.record? id) :
    g'.version id = g.version id := by
  rw [version, version, h]

theorem version_ensure (g : Registry) (p : Path) (id : Nat) :
    (g.ensure p).1.version id = g.version id := by
  cases h : (g.ensure p).1.record? id with
  | some r =>
    rcases record?_ensure h with h' | ⟨h', -, -, rfl⟩
    · rw [version_of_record? h, version_of_record? h']
    · rw [version_of_record? h, version, h']
      rfl
  | none =>
    cases h' : g.record? id with
    | none => rw [version, version, h, h']
    | some r =>
      rw [record?_ensure_of_record? h' p] at h
      cases h

/-- Every path keeps its record, and the one asked for has one. -/
theorem find?_ensure (g : Registry) (p q : Path) :
    (g.ensure p).1.find? q = if p.same q then some (g.ensure p).2 else g.find? q := by
  unfold ensure
  split
  next id hid =>
    split
    next hs =>
      exact (PathMap.get?_congr _ hs).symm.trans hid
    · rfl
  · exact PathMap.get?_insert _ _ _ _

/-! ### What is known -/

/-- The record of this number is known under its own path. -/
def Known (g : Registry) (id : Nat) (r : Record) : Prop :=
  g.record? id = some r ∧ g.find? r.path = some id

/-- The table of known records is as it should be. -/
structure Sound (g : Registry) : Prop where
  /-- No path stands twice in the table. -/
  apart : g.known.Apart
  /-- Each path is that of its record. -/
  known : ∀ p id, (p, id) ∈ g.known.entries → ∃ r, g.record? id = some r ∧ p.same r.path = true

theorem sound_empty : Sound empty := ⟨List.Pairwise.nil, by simp [empty, PathMap.empty]⟩

namespace Sound

/-- What is found under a path is a record that is known, with the same path. -/
theorem of_find? (h : g.Sound) {p : Path} {id : Nat} (hf : g.find? p = some id) :
    ∃ r, g.Known id r ∧ r.path.same p = true := by
  obtain ⟨q, hq, hs⟩ := PathMap.mem_of_get? hf
  obtain ⟨r, hr, hp⟩ := h.known q id hq
  exact ⟨r, ⟨hr, h.apart.get?_of_mem hq hp⟩, by rw [← PathMap.same_congr hp, hs]⟩

/-- Of two known records with the same path there is only one. -/
theorem unique {id id' : Nat} {r r' : Record} (hr : g.Known id r) (hr' : g.Known id' r')
    (hs : r.path.same r'.path = true) : id = id' := by
  have hp : g.find? r.path = g.find? r'.path := PathMap.get?_congr _ hs
  exact Option.some.inj ((hr.2.symm.trans hp).trans hr'.2)

/-- The numbers of all known records are those of the records that are known. -/
theorem mem_all (h : g.Sound) {id : Nat} : id ∈ g.all ↔ ∃ r, g.Known id r := by
  constructor
  · intro hid
    obtain ⟨⟨p, _⟩, he, rfl⟩ := List.mem_map.1 hid
    obtain ⟨r, hr, hp⟩ := h.known _ _ he
    exact ⟨r, hr, h.apart.get?_of_mem he hp⟩
  · rintro ⟨r, -, hf⟩
    obtain ⟨q, hq, -⟩ := PathMap.mem_of_get? hf
    exact List.mem_map.2 ⟨_, hq, rfl⟩

theorem nodup_all (h : g.Sound) : g.all.Nodup := by
  refine List.pairwise_map.2 (List.Pairwise.imp_of_mem ?_ h.apart)
  rintro ⟨p, id⟩ ⟨q, id'⟩ hp hq hs rfl
  obtain ⟨r, hr, hpr⟩ := h.known _ _ hp
  obtain ⟨r', hr', hqr⟩ := h.known _ _ hq
  obtain rfl := Option.some.inj (hr.symm.trans hr')
  rw [PathMap.same_congr hpr, Path.same_comm, hqr] at hs
  cases hs

/-- A change of a record that leaves its path alone does not matter. -/
theorem modify (h : g.Sound) (id : Nat) {f : Record → Record} (hf : ∀ r, (f r).path = r.path) :
    (g.modify id f).Sound where
  apart := h.apart
  known p n hp := by
    obtain ⟨r, hr, hs⟩ := h.known p n hp
    rw [record?_modify, hr]
    split
    · exact ⟨f r, rfl, by rwa [hf]⟩
    · exact ⟨r, rfl, hs⟩

theorem ensure (h : g.Sound) (p : Path) : (g.ensure p).1.Sound := by
  have old : ∀ q id, (q, id) ∈ g.known.entries → ∃ r, (g.ensure p).1.record? id = some r ∧
      q.same r.path = true := by
    intro q id hq
    obtain ⟨r, hr, hs⟩ := h.known q id hq
    exact ⟨r, record?_ensure_of_record? hr p, hs⟩
  revert old
  unfold Registry.ensure
  split
  · exact fun _ => h
  next hp =>
    refine fun old => ⟨h.apart.insert hp _, fun q id hq => ?_⟩
    have hq' : (q, id) ∈ g.known.entries ++ [(p, g.records.length)] := PathMap.entries_insert hp _ ▸ hq
    rcases List.mem_append.1 hq' with hq' | hq'
    · exact old q id hq'
    · obtain ⟨rfl, rfl⟩ := Prod.mk.inj (List.mem_singleton.1 hq')
      exact ⟨Record.new q, List.getElem?_concat_length, Path.same_refl q⟩

theorem forget (h : g.Sound) (p : Path) : (g.forget p).Sound where
  apart := h.apart.erase p
  known q id hq := h.known q id (List.mem_filter.1 hq).1

end Sound

theorem Known.ensure {id : Nat} {r : Record} (h : g.Known id r) (hg : g.Sound) (p : Path) :
    (g.ensure p).1.Known id r := by
  refine ⟨record?_ensure_of_record? h.1 p, ?_⟩
  rw [find?_ensure]
  split
  next hs =>
    unfold Registry.ensure
    split
    next n hn =>
      obtain ⟨r', hr', hs'⟩ := hg.of_find? hn
      rw [Sound.unique hr' h (by rw [PathMap.same_congr hs', hs])]
    next hn =>
      have hf : g.find? p = g.find? r.path := PathMap.get?_congr _ hs
      rw [hf, h.2] at hn
      cases hn
  · exact h.2

/-- The record that a path has, once it has one. -/
theorem Sound.known_ensure (h : g.Sound) (p : Path) :
    ∃ r, (g.ensure p).1.Known (g.ensure p).2 r ∧ r.path.same p = true :=
  (h.ensure p).of_find? (by rw [find?_ensure, if_pos (Path.same_refl p)])

/-- Another record that is known stays so when the record of a path is forgotten. -/
theorem known_forget {id n : Nat} {r r' : Record} (h : g.Known id r) :
    (g.forget r.path).Known n r' ↔ g.Known n r' ∧ n ≠ id := by
  constructor
  · rintro ⟨hr, hf⟩
    rw [find?_forget] at hf
    split at hf
    · cases hf
    next hs =>
      refine ⟨⟨hr, hf⟩, ?_⟩
      rintro rfl
      obtain rfl := Option.some.inj (h.1.symm.trans hr)
      exact hs (Path.same_refl _)
  · rintro ⟨hk, hne⟩
    refine ⟨hk.1, ?_⟩
    rw [find?_forget, if_neg, hk.2]
    exact fun hs => hne (Sound.unique hk h (by rwa [Path.same_comm]))

end Registry

end ShaderDiagnostics
