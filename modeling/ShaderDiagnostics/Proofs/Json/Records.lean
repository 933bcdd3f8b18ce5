import ShaderDiagnostics.Json.Decoder
import ShaderDiagnostics.Proofs.Json.Members

/-!
# Records with defaults

A record all of whose fields have defaults is read from any members, whatever is missing and in whatever order they
come. What comes out depends on which keys are there. Let `kept` say what the record looks like when certain keys are
there: if reading the value of a field leads from one such record to the next one, then reading all members leads from
the record without any key to the one with all of them (`RecordForm.decode_members`).
-/

namespace ShaderDiagnostics.Json

/-! ### Values that have been written -/

namespace Decoder

theorem u64_nat {n : Nat} (h : n < UInt64.size) : u64 (.nat n) = .ok n := by
  have below : (n : Int) ≤ 18446744073709551615 := by
    have : UInt64.size = 18446744073709551616 := rfl
    omega
  simp [u64, integer, Json.nat, below, Except.map]

theorem list_map_str (texts : List String) : string.list (.arr (texts.map Json.str)) = .ok texts := by
  show (texts.map Json.str).mapM string = .ok texts
  induction texts with
  | nil => rfl
  | cons text rest ih => rw [List.map_cons, List.mapM_cons, ih]; rfl

/-- Texts by keys are read as they have been written, if the keys are in order. -/
theorem map_object {texts : List (String × String)} (h : Ascending texts) :
    string.map (Json.object (texts.map fun t => (t.1, .str t.2))) = .ok texts := by
  have order : Ascending (texts.map fun t => (t.1, Json.str t.2)) := List.pairwise_map.2 h
  rw [object_of_ascending order]
  show (texts.map fun t => (t.1, Json.str t.2)).mapM (fun m => (string m.2).map fun a => (m.1, a)) = .ok texts
  clear order h
  induction texts with
  | nil => rfl
  | cons text rest ih => rw [List.map_cons, List.mapM_cons, ih]; rfl

theorem optional_orNull (text : Option String) : string.optional (.orNull (text.map Json.str)) = .ok text := by
  cases text <;> rfl

end Decoder

/-! ### Reading members -/

/-- One more key among those that are there. -/
def mark (key : String) (there : String → Bool) : String → Bool := fun k => key == k || there k

namespace RecordForm

variable {σ : Type} {form : RecordForm σ} {kept : (String → Bool) → σ}

theorem missing?_eq_none (defaulted : ∀ f ∈ form.fields, f.presence = .defaulted)
    (members : List (String × Json)) : form.missing? members = none := by
  rw [missing?, Option.map_eq_none_iff, List.find?_eq_none]
  intro f mem
  rw [defaulted f mem]
  exact Bool.false_ne_true

/-- What the records with certain keys have to do with reading a field, and with other keys. -/
structure Keeps (form : RecordForm σ) (kept : (String → Bool) → σ) (members : List (String × Json)) : Prop where
  defaulted : ∀ f ∈ form.fields, f.presence = .defaulted
  known : ∀ f ∈ form.fields, ∀ v, (f.key, v) ∈ members → ∀ there,
    f.read v (kept there) = .ok (kept (mark f.key there))
  unknown : ∀ key, (∀ f ∈ form.fields, key ≠ f.key) → ∀ there, kept (mark key there) = kept there

theorem Keeps.tail {m : String × Json} {members : List (String × Json)} (h : form.Keeps kept (m :: members)) :
    form.Keeps kept members :=
  ⟨h.defaulted, fun f mem v hv => h.known f mem v (List.mem_cons_of_mem m hv), h.unknown⟩

/-- Reading members adds their keys to those that are there. -/
theorem readMembers_eq {members : List (String × Json)} (h : form.Keeps kept members) (there : String → Bool) :
    form.readMembers members (kept there) = .ok (kept fun key => members.any (fun m => m.1 == key) || there key) := by
  induction members generalizing there with
  | nil => rfl
  | cons m rest ih =>
    obtain ⟨key, v⟩ := m
    have next : kept (fun k => ((key, v) :: rest).any (fun m => m.1 == k) || there k) =
        kept fun k => rest.any (fun m => m.1 == k) || mark key there k := by
      congr 1
      funext k
      simp only [List.any_cons, mark, Bool.or_assoc, Bool.or_left_comm]
    rw [next, readMembers]
    split
    next none =>
      have other : ∀ f ∈ form.fields, key ≠ f.key := fun f mem same => by
        simpa [same] using List.find?_eq_none.1 none f mem
      rw [← h.unknown key other there]
      exact ih h.tail _
    next f found =>
      have named : (f.key == key) = true := by simpa using List.find?_some found
      obtain rfl : f.key = key := eq_of_beq named
      rw [h.known f (List.mem_of_find?_eq_some found) v List.mem_cons_self there]
      exact ih h.tail _

/-- A record with defaults is read from any members. -/
theorem decode_members {members : List (String × Json)} (h : form.Keeps kept members) :
    form.decode (kept fun _ => false) (.obj members) =
      .ok (kept fun key => (get? (.obj members) key).isSome) := by
  rw [decode, readMembers_eq h]
  dsimp only
  rw [missing?_eq_none h.defaulted]
  simp only [Bool.or_false, isSome_get?]

/-! ### Records that have been written -/

/-- The records with certain keys, when each field is read from the form that the whole record has been written in. -/
structure Writes (form : RecordForm σ) (kept : (String → Bool) → σ) (whole : Json) : Prop where
  defaulted : ∀ f ∈ form.fields, f.presence = .defaulted
  written : ∀ f ∈ form.fields, ∃ w, whole.get? f.key = some w ∧
    ∀ there, f.read w (kept there) = .ok (kept (mark f.key there))
  unknown : ∀ key, (∀ f ∈ form.fields, key ≠ f.key) → ∀ there, kept (mark key there) = kept there

theorem read_defaulted {α : Type} {d : Decoder α} {v : Json} {a : α} (reads : d v = .ok a) (key : String)
    (set : α → σ → σ) (r : σ) : (RecordField.defaulted key d set).read v r = .ok (set a r) := by
  show (d v).map (fun a => set a r) = _
  rw [reads]
  rfl

theorem known_defaulted {α : Type} {key : String} {d : Decoder α} {set : α → σ → σ} {members : List (String × Json)}
    {a : α} (reads : ∀ v, (key, v) ∈ members → d v = .ok a) (sets : ∀ there, set a (kept there) = kept (mark key there))
    (v : Json) (mem : ((RecordField.defaulted key d set).key, v) ∈ members) (there : String → Bool) :
    (RecordField.defaulted key d set).read v (kept there) =
      .ok (kept (mark (RecordField.defaulted key d set).key there)) := by
  rw [read_defaulted (reads v mem), sets]
  rfl

theorem written_defaulted {α : Type} {key : String} {d : Decoder α} {set : α → σ → σ} {whole w : Json} {a : α}
    (found : whole.get? key = some w) (reads : d w = .ok a)
    (sets : ∀ there, set a (kept there) = kept (mark key there)) :
    ∃ w, whole.get? (RecordField.defaulted key d set).key = some w ∧
      ∀ there, (RecordField.defaulted key d set).read w (kept there) =
        .ok (kept (mark (RecordField.defaulted key d set).key there)) := by
  refine ⟨w, found, fun there => ?_⟩
  rw [read_defaulted reads, sets]
  rfl

/-- A part of what has been written gives the record with the keys that are in it. -/
theorem Writes.decode_part {whole j : Json} (h : form.Writes kept whole) (part : Part 1 whole j) :
    form.decode (kept fun _ => false) j = .ok (kept fun key => (j.get? key).isSome) := by
  obtain ⟨members, rfl, -, parts⟩ := part.exists_members
  refine decode_members ⟨h.defaulted, fun f mem v hv there => ?_, h.unknown⟩
  obtain ⟨w, found, reads⟩ := h.written f mem
  obtain rfl : v = w := part_zero_iff.1 (parts (f.key, v) hv w found)
  exact reads there

end RecordForm

end ShaderDiagnostics.Json
