/-! # Backing off

After a failed request an endpoint is left alone for a while: a second after the first failure, then
twice as long each time up to sixteen seconds, and a random fifth more or less.

* `Backoff.pause` — the pause after a failed request;
* `Backoff.longest`, `Backoff.total` — the longest pause it can be, and such pauses together.

Main statements: `pause_le_longest` and `total_succ`. -/

namespace TokenAudit.Backoff

/-- The pause after the first failure. -/
def first : Nat := 1000

/-- Pauses grow up to this. -/
def cap : Nat := 16000

/-- How many percent of a pause chance may add or take away. -/
def jitterPercent : Nat := 20

/-- No pause is shorter than this. -/
def least : Nat := 100

/-- The pause after so many failures, without chance. -/
def base (failures : Nat) : Nat := min cap (first <<< min (failures - 1) 64)

/-- How much chance may add or take away. -/
def jitter (failures : Nat) : Nat := base failures * jitterPercent / 100

/-- The pause after so many failures when `draw` is the number that chance gives. -/
def pause (failures draw : Nat) : Nat :=
  max least (base failures - jitter failures + draw % (2 * jitter failures + 1))

/-- The longest pause that there can be after so many failures. -/
def longest (failures : Nat) : Nat := max least (base failures + jitter failures)

/-- The longest pauses after the first, the second, and so on up to the given number of failures.
From the fifth on they are all as long as the fifth. -/
def total (failures : Nat) : Nat :=
  (List.range (min failures 5)).foldl (fun sum i => sum + longest (i + 1)) 0 +
    (failures - 5) * longest 5

/-- Chance takes away no more than there is. -/
theorem jitter_le_base (failures : Nat) : jitter failures ≤ base failures := by
  unfold jitter jitterPercent
  omega

/-- No pause is longer than the longest one, whatever chance gives. -/
theorem pause_le_longest (failures draw : Nat) : pause failures draw ≤ longest failures := by
  have h := jitter_le_base failures
  have hd : draw % (2 * jitter failures + 1) < 2 * jitter failures + 1 := Nat.mod_lt _ (by omega)
  unfold pause longest
  omega

/-- From the fifth failure on, pauses do not grow. -/
theorem base_of_five_le {failures : Nat} (h : 5 ≤ failures) : base failures = base 5 := by
  have hp := Nat.pow_le_pow_right (show 0 < 2 by decide) (show 4 ≤ min (failures - 1) 64 by omega)
  have h5 : base 5 = 16000 := by decide
  rw [h5, base, cap, first, Nat.shiftLeft_eq]
  omega

/-- From the fifth failure on, the longest pauses do not grow. -/
theorem longest_of_five_le {failures : Nat} (h : 5 ≤ failures) : longest failures = longest 5 := by
  rw [longest, longest, jitter, jitter, base_of_five_le h]

/-- One more failure adds its longest pause. -/
theorem total_succ (failures : Nat) :
    total (failures + 1) = total failures + longest (failures + 1) := by
  by_cases h : failures < 5
  · rw [total, total, show min (failures + 1) 5 = failures + 1 by omega,
      show min failures 5 = failures by omega, show failures + 1 - 5 = 0 by omega,
      show failures - 5 = 0 by omega, List.range_succ]
    simp
  · rw [longest_of_five_le (show 5 ≤ failures + 1 by omega), total, total,
      show min (failures + 1) 5 = 5 by omega, show min failures 5 = 5 by omega,
      show failures + 1 - 5 = failures - 5 + 1 by omega, Nat.succ_mul]
    omega

end TokenAudit.Backoff
