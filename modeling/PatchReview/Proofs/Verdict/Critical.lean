import PatchReview.Proofs.Scan.Issues
import PatchReview.Verdict

-- Critical findings, which fail a scan.  A filter may name a severity, and then only findings of
-- that severity are kept; of the rules three are critical, and each looks at one line.
namespace PatchReview

namespace Verdict

variable {filter : Option Text}

-- A filter that is no name of a severity, in any case.
def UnknownLevel (filter : Option Text) : Prop :=
  ∃ given, filter = some given ∧ given ≠ [] ∧ ∀ level : Severity, Text.lower given ≠ level.name

def KeepsCritical (filter : Option Text) : Prop :=
  ∀ given, filter = some given → given = [] ∨ Text.lower given = Severity.critical.name

-- A filter asks for a level by its name, in any case; none, and an empty one, ask for all of them.
inductive AsksFor : Option Text → Option Severity → Prop
  | absent : AsksFor none none
  | empty : AsksFor (some []) none
  | level {given : Text} {level : Severity} (named : Text.lower given = level.name) :
    AsksFor (some given) (some level)

-- How a filter is read.
inductive Asked (filter : Option Text) : Except Refusal (Option Severity) → Prop
  | unknown {given : Text} (same : filter = some given) (unknown : UnknownLevel filter) :
    Asked filter (.error (.severity given))
  | known {wanted : Option Severity} (asks : AsksFor filter wanted) : Asked filter (.ok wanted)

-- What a filter asks for, if it is one.
inductive Wanting (filter : Option Text) : Except Refusal (Option Severity) → Prop
  | unknown {cause : Refusal} (unknown : UnknownLevel filter) : Wanting filter (.error cause)
  | known {wanted : Option Severity} (known : ¬UnknownLevel filter)
      (critical : wanted.all (· = .critical) = true ↔ KeepsCritical filter) :
    Wanting filter (.ok wanted)

theorem name_inj {one two : Severity} (same : one.name = two.name) : one = two := by
  cases one <;> cases two <;> first | rfl | exact absurd same (by decide)

theorem name_ne_nil (level : Severity) : level.name ≠ [] := by
  cases level <;> decide

theorem asked (filter : Option Text) : Asked filter (wantedSeverity filter) := by
  unfold wantedSeverity
  cases filter with
  | none => exact .known .absent
  | some given =>
    by_cases empty : given = []
    · rw [empty]
      exact .known .empty
    · rw [Option.filter_some, if_pos (by simpa using empty)]
      dsimp only
      cases named : (Named.ofName? (Text.lower given) : Option Severity) with
      | none =>
        refine .unknown rfl ⟨given, rfl, empty, fun level same => ?_⟩
        have listed : level ∈ (Named.all : List Severity) := by cases level <;> decide
        exact List.find?_eq_none.mp named level listed (decide_eq_true same.symm)
      | some level =>
        unfold Named.ofName? at named
        have first := List.find?_some named
        exact .known (.level (of_decide_eq_true first).symm)

namespace AsksFor

variable {wanted : Option Severity}

theorem known (asks : AsksFor filter wanted) : ¬UnknownLevel filter := by
  rintro ⟨other, same, filled, unnamed⟩
  cases asks with
  | absent => cases same
  | empty => exact filled (Option.some.inj same).symm
  | @level given level named =>
    cases same
    exact unnamed level named

theorem critical_iff (asks : AsksFor filter wanted) :
    wanted.all (· = .critical) = true ↔ KeepsCritical filter := by
  cases asks with
  | absent => exact ⟨fun _ => nofun, fun _ => rfl⟩
  | empty => exact ⟨fun _ given same => .inl (Option.some.inj same).symm, fun _ => rfl⟩
  | @level given level named =>
    rw [Option.all_some, decide_eq_true_eq]
    constructor
    · intro critical other same
      rw [← Option.some.inj same, named, critical]
      exact .inr rfl
    · intro keeps
      rcases keeps given rfl with empty | critical
      · rw [empty] at named
        exact absurd named.symm (name_ne_nil level)
      · exact name_inj (named.symm.trans critical)

end AsksFor

theorem wanting (filter : Option Text) : Wanting filter (wantedSeverity filter) := by
  have read := asked filter
  generalize wantedSeverity filter = answer at read
  cases read with
  | unknown _ unknown => exact .unknown unknown
  | known asks => exact .known asks.known asks.critical_iff

-- How the findings of a review can be ranked.
inductive Ranking (review : ReviewSet) (filter : Option Text) :
    Except Refusal (List (Text × Finding)) → Prop
  | unknown {cause : Refusal} (unknown : UnknownLevel filter) :
    Ranking review filter (.error cause)
  | ranked {found : List (Text × Finding)} (known : ¬UnknownLevel filter)
      (critical : anyCritical found = true ↔
        KeepsCritical filter ∧ ∃ pair ∈ securityPairs review, pair.2.severity = .critical) :
    Ranking review filter (.ok found)

theorem ranking (review : ReviewSet) (filter : Option Text) :
    Ranking review filter (mostSevereFirst review filter) := by
  unfold mostSevereFirst
  have asked := wanting filter
  generalize wantedSeverity filter = answer at asked
  cases asked with
  | unknown unknown => exact .unknown unknown
  | @known wanted known critical =>
    refine .ranked known ?_
    rw [← critical]
    unfold anyCritical
    simp only [List.any_eq_true, List.mem_mergeSort, List.mem_filter, decide_eq_true_eq]
    constructor
    · rintro ⟨pair, ⟨member, kept⟩, severe⟩
      exact ⟨by rwa [severe] at kept, pair, member, severe⟩
    · rintro ⟨kept, pair, member, severe⟩
      exact ⟨pair, ⟨member, by rwa [severe]⟩, severe⟩

end Verdict
end PatchReview
