import Mathlib.Data.List.Infix
import ShaderDiagnostics.Proofs.Cache.Failures
import ShaderDiagnostics.Proofs.Cache.Thrift
import ShaderDiagnostics.Token

/-!
# How long coverage lasts

A result that comes in takes the place of the completed one unless that covers it. The rule looks one way only: it
does not ask whether the new result covers what the completed one did. Where versions rank that makes no difference.
Tokens are ordered in part: a result for 3:1 takes the place of one for 2:2, and 2:2 is covered no more
(`Callers.crossing_uncovers`).

Main statement: a token stays covered exactly until a run ends well whose token neither covers it nor is covered by the
completed result; so it stays covered for good if the tokens that callers ask for can all be compared
(`Callers.stays_covered_iff`).
-/

namespace ShaderDiagnostics

namespace Cache

variable {V W D E : Type} {covers : V → V → Bool} {c c' : Cache V W D E} {t v : V}

/-! ### Runs that end well -/

/-- From one state of a cache to a later one, a run for the version ends well. -/
def EndsWell (c c' : Cache V W D E) (t : V) : Prop :=
  ∃ n r d, c'.run? n = some r ∧ r.version = t ∧ r.outcome = some (.ok d) ∧
    ∀ r', c.run? n = some r' → r'.outcome = none

/-- A run that starts is under way, so it makes no difference whether it is there already. -/
theorem endsWell_start_iff {u : V} {w : W} : EndsWell (c.start u w) c' t ↔ EndsWell c c' t := by
  constructor
  · rintro ⟨n, r, d, run, version, ok, before⟩
    exact ⟨n, r, d, run, version, ok, fun r' old => before r' (run?_start_of_run? old u w)⟩
  · rintro ⟨n, r, d, run, version, ok, before⟩
    refine ⟨n, r, d, run, version, ok, fun r' started => ?_⟩
    rcases run?_start_cases started with ⟨-, rfl⟩ | ⟨-, old⟩
    · rfl
    · exact before r' old

/-- Nothing ends well if whatever has ended had ended before. -/
theorem not_endsWell (old : ∀ n r, c'.run? n = some r → r.outcome = none ∨
    ∃ r', c.run? n = some r' ∧ r'.outcome = r.outcome) : ¬ EndsWell c c' t := by
  rintro ⟨n, r, d, run, -, ok, before⟩
  rcases old n r run with running | ⟨r', run', same⟩
  · rw [running] at ok
    cases ok
  · rw [← same, before r' run'] at ok
    cases ok

section

variable {n : Nat} {r : Run V W D E} (hr : c.run? n = some r) (ho : r.outcome = none)
include hr ho

/-- When a run is ended, no other one ends. -/
theorem endsWell_finish_iff {o : Except E D} :
    EndsWell c (c.finish covers n o) t ↔ t = r.version ∧ ∃ d, o = .ok d := by
  constructor
  · rintro ⟨m, s, d, run, rfl, ok, before⟩
    rcases run?_finish_cases hr ho run with ⟨rfl, rfl⟩ | ⟨-, run'⟩
    · exact ⟨rfl, d, Option.some.inj ok⟩
    · rw [before s run'] at ok
      cases ok
  · rintro ⟨rfl, d, rfl⟩
    refine ⟨n, { r with outcome := some (.ok d) }, d, by rw [run?_finish hr ho, if_pos rfl], rfl, rfl, fun r' run' => ?_⟩
    rwa [← Option.some.inj (hr.symm.trans run')]

/-- What the end of a run does to the completed result. -/
theorem completed_finish_cases (covers : V → V → Bool) (o : Except E D) :
    ((c.finish covers n o).completed = c.completed ∧
        ∀ t, EndsWell c (c.finish covers n o) t → coveredBy covers c.completedVersion t = true) ∨
      ∃ t d, (c.finish covers n o).completed = some (t, d) ∧ coveredBy covers c.completedVersion t = false ∧
        ∀ u, EndsWell c (c.finish covers n o) u ↔ u = t := by
  cases o with
  | error e =>
    refine .inl ⟨completed_finish_error hr ho e, fun t ends => ?_⟩
    obtain ⟨-, d, ok⟩ := (endsWell_finish_iff hr ho).1 ends
    cases ok
  | ok d =>
    rw [finish_ok hr ho, completed_setOutcome, completed_record, ← finish_ok hr ho]
    cases covered : coveredBy covers c.completedVersion r.version with
    | true =>
      refine .inl ⟨if_pos rfl, fun t ends => ?_⟩
      rw [((endsWell_finish_iff hr ho).1 ends).1, covered]
    | false =>
      refine .inr ⟨r.version, d, if_neg Bool.false_ne_true, covered, fun u => ?_⟩
      exact (endsWell_finish_iff hr ho).trans (and_iff_left ⟨d, rfl⟩)

end

/-- A move leaves the completed result, which covers whatever run ends well, or puts that of the one run that ends well
in its place. -/
theorem Moves.completed_cases (hm : Moves covers c c') :
    (c'.completed = c.completed ∧ ∀ t, EndsWell c c' t → coveredBy covers c.completedVersion t = true) ∨
      ∃ t d, c'.completed = some (t, d) ∧ coveredBy covers c.completedVersion t = false ∧
        ∀ u, EndsWell c c' u ↔ u = t := by
  cases hm with
  | idle => exact .inl ⟨rfl, fun t ends => absurd ends (not_endsWell fun n r run => .inr ⟨r, run, rfl⟩)⟩
  | works n f =>
    refine .inl ⟨rfl, fun t ends => absurd ends (not_endsWell fun m s run => .inr ?_)⟩
    rcases run?_modifyWork_cases run with ⟨r, rfl, old, rfl⟩ | ⟨-, old⟩
    · exact ⟨r, old, rfl⟩
    · exact ⟨s, old, rfl⟩
  | starts u w =>
    refine .inl ⟨rfl, fun t ends => absurd ends (not_endsWell fun n r run => ?_)⟩
    rcases run?_start_cases run with ⟨-, rfl⟩ | ⟨-, old⟩
    · exact .inl rfl
    · exact .inr ⟨r, old, rfl⟩
  | ends run running o => exact completed_finish_cases run running covers o
  | startsEnds u w o =>
    have cases := completed_finish_cases (run?_start_self c u w) rfl covers o
    simp only [endsWell_start_iff] at cases
    exact cases

/-- Over one move a version stays covered exactly if every run that ends well is for a version that covers it or that
the completed result covers. -/
theorem Moves.covered_iff (hm : Moves covers c c') (covered : coveredBy covers c.completedVersion v = true) :
    coveredBy covers c'.completedVersion v = true ↔
      ∀ t, EndsWell c c' t → covers t v = true ∨ coveredBy covers c.completedVersion t = true := by
  rcases hm.completed_cases with ⟨same, old⟩ | ⟨t, d, new, bare, only⟩
  · refine ⟨fun _ t ends => .inr (old t ends), fun _ => ?_⟩
    rwa [completedVersion, same]
  · have now : coveredBy covers c'.completedVersion v = covers t v := by simp [completedVersion, new, coveredBy]
    rw [now]
    constructor
    · intro covers u ends
      exact .inl ((only u).1 ends ▸ covers)
    · intro all
      exact (all t ((only t).2 rfl)).resolve_right (by simp [bare])

end Cache

namespace Callers

open Cache (Sound Within Moves coveredBy)

variable {K V D E : Type} [DecidableEq K] {covers : V → V → Bool} {acts more : List (Action K V D E)} {v : V}

/-! ### Sessions -/

/-- After the actions the completed result covers the version. -/
def Covered (covers : V → V → Bool) (acts : List (Action K V D E)) (v : V) : Prop :=
  coveredBy covers (after covers acts).cache.completedVersion v = true

instance (acts : List (Action K V D E)) (v : V) : Decidable (Covered covers acts v) :=
  inferInstanceAs (Decidable (_ = true))

/-- By an action after others a run for the version ends well. -/
def EndsWell (covers : V → V → Bool) (acts : List (Action K V D E)) (a : Action K V D E) (t : V) : Prop :=
  (after covers acts).cache.EndsWell (after covers (acts ++ [a])).cache t

theorem after_moves (acts : List (Action K V D E)) (a : Action K V D E) :
    Moves covers (after covers acts).cache (after covers (acts ++ [a])).cache := by
  rw [after_snoc]
  exact step_moves covers _ a

/-- A version stays covered over some actions as long as no action displaces it. -/
theorem covered_throughout (covered : Covered covers acts v)
    (kept : ∀ past a t, past ++ [a] <+: more → Covered covers (acts ++ past) v → EndsWell covers (acts ++ past) a t →
      covers t v = true ∨ Covered covers (acts ++ past) t) (past : List (Action K V D E)) (within : past <+: more) :
    Covered covers (acts ++ past) v := by
  induction past using List.reverseRecOn with
  | nil => simpa using covered
  | append_singleton past a ih =>
    have before := ih ((List.prefix_append past [a]).trans within)
    rw [← List.append_assoc]
    exact ((after_moves (acts ++ past) a).covered_iff before).2 fun t ends => kept past a t within before ends

/-- An action that displaces a version leaves it uncovered. -/
theorem covered_throughout_iff (covered : Covered covers acts v) :
    (∀ past, past <+: more → Covered covers (acts ++ past) v) ↔
      ∀ past a t, past ++ [a] <+: more → EndsWell covers (acts ++ past) a t →
        covers t v = true ∨ Covered covers (acts ++ past) t := by
  constructor
  · intro lasts past a t within ends
    have before := lasts past ((List.prefix_append past [a]).trans within)
    have behind := lasts (past ++ [a]) within
    rw [← List.append_assoc] at behind
    exact ((after_moves (acts ++ past) a).covered_iff before).1 behind t ends
  · exact fun kept => covered_throughout covered fun past a t within _ => kept past a t within

/-- Runs are started only for versions that callers ask for. -/
theorem within_requested (acts : List (Action K V D E)) :
    Within (Requested covers acts) (after covers acts).cache := by
  induction acts using List.reverseRecOn with
  | nil => exact Cache.within_empty
  | append_singleton acts a ih =>
    have old : Within (Requested covers (acts ++ [a])) (after covers acts).cache :=
      ih.mono fun _ asked => asked.snoc a
    rw [after_snoc]
    refine step_keeps (I := Within (Requested covers (acts ++ [a]))) (fun c n f h => h.modifyWork n f)
      (fun c n o h => h.finish n o) a (fun name u ready poll idle h => h.request ?_ _) old
    exact ⟨acts, name, [], ready, by rw [poll], idle⟩

theorem Requested.append {t : V} (h : Requested covers acts t) (more : List (Action K V D E)) :
    Requested covers (acts ++ more) t := by
  obtain ⟨before, name, rest, ready, rfl, idle⟩ := h
  exact ⟨before, name, rest ++ more, ready, by simp, idle⟩

/-- The version of the completed result is one that a caller has asked for. -/
theorem requested_completedVersion {u : V} (hu : (after covers acts).cache.completedVersion = some u) :
    Requested covers acts u :=
  (within_requested acts).completedVersion (Served.inv acts).sound hu

/-- A run that ends well was started for a version that a caller has asked for. -/
theorem EndsWell.requested {a : Action K V D E} {t : V} (h : EndsWell covers acts a t) :
    Requested covers (acts ++ [a]) t := by
  obtain ⟨n, r, d, run, rfl, -⟩ := h
  exact within_requested (acts ++ [a]) n r run

/-! ### Tokens -/

/-- **How long coverage lasts.** Let the completed result cover a token after some actions. Over any further actions it
goes on to cover the token throughout, exactly if each run that ends well meanwhile was started for a token that covers
the given one or that is covered by the completed result before the run ends. That is so if of any two tokens that
callers ask for one covers the other. -/
theorem stays_covered_iff (acts more : List (Action K Token D E)) (v : Token)
    (covered : Covered Token.covers acts v) :
    ((∀ past, past <+: more → Covered Token.covers (acts ++ past) v) ↔
      ∀ past a t, past ++ [a] <+: more → EndsWell Token.covers (acts ++ past) a t →
        t.covers v = true ∨ Covered Token.covers (acts ++ past) t) ∧
    ((∀ t u, Requested Token.covers (acts ++ more) t → Requested Token.covers (acts ++ more) u →
        t.covers u = true ∨ u.covers t = true) →
      ∀ past, past <+: more → Covered Token.covers (acts ++ past) v) := by
  refine ⟨covered_throughout_iff covered, fun compared => covered_throughout covered ?_⟩
  rintro past a t ⟨rest, rfl⟩ before ends
  obtain ⟨u, completed, covers⟩ := Cache.coveredBy_iff.1 before
  have asked : Requested Token.covers (acts ++ (past ++ [a] ++ rest)) t := by
    simpa using ends.requested.append rest
  have asked' : Requested Token.covers (acts ++ (past ++ [a] ++ rest)) u := by
    simpa using (requested_completedVersion completed).append (a :: rest)
  rcases compared t u asked asked' with above | below
  · exact .inl (Token.covers_trans above covers)
  · exact .inr (Cache.coveredBy_iff.2 ⟨u, completed, below⟩)

/-- A caller asks for 2:2 and has its result. -/
def earlier : List (Action Nat Token Nat Unit) := [.create 0 ⟨2, 2⟩ (some (.ok 1)), .poll 0]

/-- A caller asks for 3:1 and has its result. -/
def crossing : List (Action Nat Token Nat Unit) := [.create 1 ⟨3, 1⟩ (some (.ok 2)), .poll 1]

/-- What both tokens cover stays covered, so nothing has ended well meanwhile that would not cover it. -/
theorem crossing_keeps_common :
    Covered Token.covers earlier ⟨2, 1⟩ ∧
      ∀ past a t, past ++ [a] <+: crossing → EndsWell Token.covers (earlier ++ past) a t →
        t.covers ⟨2, 1⟩ = true ∨ Covered Token.covers (earlier ++ past) t := by
  have covered : Covered Token.covers earlier ⟨2, 1⟩ := by decide
  refine ⟨covered, (stays_covered_iff earlier crossing ⟨2, 1⟩ covered).1.1 fun past within => ?_⟩
  have moments : past = [] ∨ past = [crossing[0]] ∨ past = crossing := by
    simpa [crossing] using (List.mem_inits past crossing).2 within
  rcases moments with rfl | rfl | rfl <;> decide

/-- A result for 3:1 takes the place of one for 2:2, which then is covered no more. -/
theorem crossing_uncovers :
    Covered Token.covers earlier ⟨2, 2⟩ ∧ ¬ Covered Token.covers (earlier ++ crossing) ⟨2, 2⟩ := by
  decide

end Callers

end ShaderDiagnostics
