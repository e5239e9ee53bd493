import AccessNetwork.Proofs.Moments
import Mathlib.Data.List.DropRight

/-!
Sums over a run. Each step weighs something in the world that it acts on, and a tally adds the
weights up, over the whole run or over the part after the last step that starts the count again. A
quantity that every step either brings back to zero or raises by its weight is such a tally, and
what the restarts take away from it is not lost.
-/

namespace AccessNetwork

set_option autoImplicit false

namespace World

def tally (world : World) (weight : World → Step → Nat) : List Step → Nat
  | [] => 0
  | next :: rest => weight world next + (world.step next).tally weight rest

/-- The tally of the steps after the last one that restarts the count. -/
def tallySince (world : World) (restarts : Step → Bool) (weight : World → Step → Nat)
    (steps : List Step) : Nat :=
  (world.run (steps.rdropWhile fun step => !restarts step)).tally weight
    (steps.rtakeWhile fun step => !restarts step)

theorem tally_snoc (world : World) (weight : World → Step → Nat) (steps : List Step)
    (step : Step) :
    world.tally weight (steps ++ [step]) =
      world.tally weight steps + weight (world.run steps) step := by
  induction steps generalizing world with
  | nil => simp [tally, run]
  | cons next rest induction =>
      rw [List.cons_append, tally, tally, induction (world.step next), Nat.add_assoc]
      rfl

theorem tally_since_snoc (world : World) (restarts : Step → Bool) (weight : World → Step → Nat)
    (steps : List Step) (step : Step) :
    world.tallySince restarts weight (steps ++ [step]) =
      if restarts step then 0
      else world.tallySince restarts weight steps + weight (world.run steps) step := by
  unfold tallySince
  by_cases restarting : restarts step
  · rw [List.rtakeWhile_concat_neg _ _ _ (by simp [restarting]), if_pos restarting]
    rfl
  · have going : (!restarts step) = true := by simp [restarting]
    rw [List.rtakeWhile_concat_pos (fun step => !restarts step) steps step going,
      List.rdropWhile_concat_pos (fun step => !restarts step) steps step going,
      if_neg restarting, tally_snoc, ← run_append, List.rdropWhile_append_rtakeWhile]

section Restarting

variable (level : World → Nat) {restarts : Step → Bool} {weight : World → Step → Nat}

theorem level_run_eq_tally_since
    (law : ∀ world step, level (world.step step) =
      if restarts step then 0 else level world + weight world step)
    (world : World) (zero : level world = 0) (steps : List Step) :
    level (world.run steps) = world.tallySince restarts weight steps := by
  induction steps using List.reverseRecOn with
  | nil => exact zero
  | append_singleton steps step induction =>
      rw [run_snoc, law, tally_since_snoc, induction]

/-- What the restarts take away and what is left make up all that was ever added. -/
theorem tally_taken_add_level
    (law : ∀ world step, level (world.step step) =
      if restarts step then 0 else level world + weight world step)
    (idle : ∀ world step, restarts step → weight world step = 0)
    (world : World) (zero : level world = 0) (steps : List Step) :
    world.tally (fun before step => if restarts step then level before else 0) steps +
        level (world.run steps) =
      world.tally weight steps := by
  induction steps using List.reverseRecOn with
  | nil =>
      rw [tally, tally, Nat.zero_add]
      exact zero
  | append_singleton steps step induction =>
      rw [tally_snoc, tally_snoc, run_snoc, law, ← induction]
      by_cases restarting : restarts step
      · rw [if_pos restarting, if_pos restarting, idle _ step restarting]
      · rw [if_neg restarting, if_neg restarting, Nat.add_zero, Nat.add_assoc]

end Restarting

end World

end AccessNetwork
