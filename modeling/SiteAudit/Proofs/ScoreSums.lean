import SiteAudit.Finding.Report

/-!
# The score and the sum of all points

A report is to say what is left of one hundred once the points of all findings are
taken off.  The subtraction stops at zero, whatever the sum before it is, but the sum
itself does not: it is taken in 32 bits, and an addition that does not fit is an error.
The program stops there, and findings that should leave nothing of the score leave no
report at all.  (Built without checks, as for speed, the program does not notice: the
sum begins again at zero, and the score is too high.)

So there is a report exactly where the points of all findings fit in 32 bits, and then
its score is exact.  Points are never negative, and an addition on the way does not fit
only if the whole sum does not: the order of the findings does not matter.

The findings of an audit cost fifteen points at most, and it takes hundreds of millions
of them to get there.  Findings with points of their own, or read from a stored report,
get there with two.

## Main results

* `foldlM_addPoints`, `deduction_eq_some_iff` — the checked sum is the exact one, where
  there is one.
* `ofFindings_eq_none_iff`, `toNat_score` — which findings have a report, and its score.
* `score_exact_iff` — all of it together, and what follows for longer lists and for
  costly findings.
* `points_overflow` — two findings without a report.
-/

namespace SiteAudit.Report

variable {findings findings' : List Finding} {r : Report}

/-! ## Exact sums -/

/-- The exact sum of the points of all findings. -/
def total (findings : List Finding) : Nat :=
  findings.foldr (fun f sum => f.impact.toNat + sum) 0

/-- The points of all findings fit in 32 bits. -/
def Fits (findings : List Finding) : Prop := total findings < UInt32.size

instance : Decidable (Fits findings) := inferInstanceAs (Decidable (_ < _))

theorem total_nil : total [] = 0 := rfl

theorem total_cons (f : Finding) (rest : List Finding) :
    total (f :: rest) = f.impact.toNat + total rest := rfl

theorem total_append (earlier later : List Finding) :
    total (earlier ++ later) = total earlier + total later := by
  induction earlier with
  | nil => exact (Nat.zero_add _).symm
  | cons f rest ih => rw [List.cons_append, total_cons, total_cons, ih, Nat.add_assoc]

/-- Points are added up in any order. -/
theorem total_eq_of_perm (h : (findings.map Finding.impact).Perm (findings'.map Finding.impact)) :
    total findings = total findings' := by
  have hpoints : ∀ findings, total findings =
      (findings.map Finding.impact).foldr (fun points sum => points.toNat + sum) 0 := by
    intro findings
    rw [List.foldr_map]
    rfl
  rw [hpoints, hpoints]
  exact h.foldr_eq' (fun points _ points' _ sum =>
    Nat.add_left_comm points'.toNat points.toNat sum) 0

/-- Findings without points may be left out. -/
theorem total_filter {p : Finding → Bool} (h : ∀ f ∈ findings, p f = false → f.impact = 0) :
    total (findings.filter p) = total findings := by
  induction findings with
  | nil => rfl
  | cons f rest ih =>
      have hrest := ih fun g hg => h g (List.mem_cons_of_mem f hg)
      by_cases hp : p f = true
      · rw [List.filter_cons_of_pos hp, total_cons, total_cons, hrest]
      · have hfree : f.impact = 0 := h f List.mem_cons_self (Bool.eq_false_iff.2 hp)
        rw [List.filter_cons_of_neg hp, total_cons, hrest, hfree, UInt32.toNat_zero, Nat.zero_add]

/-- No finding costs more than all of them. -/
theorem impact_le_total {f : Finding} (hf : f ∈ findings) : f.impact.toNat ≤ total findings := by
  obtain ⟨earlier, later, rfl⟩ := List.append_of_mem hf
  rw [total_append, total_cons]
  omega

/-- Where no finding costs more than this many points, all of them cost this much each at most. -/
theorem total_le_length_mul {bound : Nat} (h : ∀ f ∈ findings, f.impact.toNat ≤ bound) :
    total findings ≤ findings.length * bound := by
  induction findings with
  | nil => exact Nat.zero_le _
  | cons f rest ih =>
      have hf := h f List.mem_cons_self
      have hrest := ih fun g hg => h g (List.mem_cons_of_mem f hg)
      rw [total_cons, List.length_cons, Nat.succ_mul]
      omega

/-- The part of a list that comes first fits if all of it does. -/
theorem Fits.left {earlier later : List Finding} (h : Fits (earlier ++ later)) : Fits earlier := by
  rw [Fits, total_append] at h
  exact Nat.lt_of_le_of_lt (Nat.le_add_right _ _) h

/-! ## Checked sums -/

/-- Points that are added up one after the other, from any sum on, are the exact sum in 32 bits.
Since no points are negative, an addition fails on the way exactly if the whole sum does not
fit. -/
theorem foldlM_addPoints (findings : List Finding) (sum : UInt32) :
    findings.foldlM (fun sum f => addPoints? sum f.impact) sum =
      if sum.toNat + total findings < UInt32.size then
        some (.ofNat (sum.toNat + total findings))
      else none := by
  induction findings generalizing sum with
  | nil =>
      rw [total_nil, Nat.add_zero, if_pos sum.toNat_lt_size, UInt32.ofNat_toNat]
      rfl
  | cons f rest ih =>
      rw [List.foldlM_cons, total_cons, ← Nat.add_assoc, addPoints?]
      by_cases hfits : sum.toNat + f.impact.toNat < UInt32.size
      · have hsum : (sum + f.impact).toNat = sum.toNat + f.impact.toNat := by
          rw [UInt32.toNat_add]
          exact Nat.mod_eq_of_lt hfits
        rw [if_pos hfits, ← hsum]
        exact ih (sum + f.impact)
      · rw [if_neg hfits, if_neg (by omega)]
        rfl

theorem deduction_eq (findings : List Finding) :
    deduction? findings = if Fits findings then some (.ofNat (total findings)) else none := by
  rw [deduction?, foldlM_addPoints, UInt32.toNat_zero, Nat.zero_add]
  rfl

/-- The checked sum is the exact one, and there is one exactly if the exact one fits. -/
theorem deduction_eq_some_iff {deduction : UInt32} :
    deduction? findings = some deduction ↔ deduction.toNat = total findings := by
  rw [deduction_eq]
  constructor
  · intro h
    split at h
    · next hfits =>
      cases h
      exact UInt32.toNat_ofNat_of_lt' hfits
    · cases h
  · intro h
    rw [← h, UInt32.ofNat_toNat, if_pos]
    rw [Fits, ← h]
    exact deduction.toNat_lt_size

/-! ## Reports -/

/-- Without a report, and without a score, are the findings whose points do not fit. -/
theorem ofFindings_eq_none_iff : ofFindings? findings = none ↔ ¬Fits findings := by
  rw [ofFindings?, Option.map_eq_none_iff, deduction_eq]
  split <;> simp [*]

theorem Fits.exists_report (h : Fits findings) : ∃ r, ofFindings? findings = some r :=
  Option.ne_none_iff_exists'.1 fun hnone => ofFindings_eq_none_iff.1 hnone h

theorem fits_of_ofFindings (h : ofFindings? findings = some r) : Fits findings := by
  obtain ⟨deduction, hdeduction, _⟩ := ofFindings_eq_some_iff.1 h
  rw [Fits, ← deduction_eq_some_iff.1 hdeduction]
  exact deduction.toNat_lt_size

/-- Findings that cost the same have the same score, or no report either. -/
theorem map_score_congr (h : total findings = total findings') :
    (ofFindings? findings).map score = (ofFindings? findings').map score := by
  have hsum : deduction? findings = deduction? findings' :=
    Option.ext fun deduction => by rw [deduction_eq_some_iff, deduction_eq_some_iff, h]
  have hscore : ∀ findings,
      (ofFindings? findings).map score = (deduction? findings).map remaining := by
    intro findings
    rw [ofFindings?, Option.map_map]
    rfl
  rw [hscore, hscore, hsum]

/-! ## Scores -/

/-- The subtraction stops at zero, as it does on natural numbers. -/
theorem toNat_remaining (deduction : UInt32) :
    (remaining deduction).toNat = 100 - deduction.toNat := by
  have hmax : maxScore.toNat = 100 := rfl
  rw [remaining]
  split
  · next h =>
    have hover : maxScore.toNat < deduction.toNat := UInt32.lt_iff_toNat_lt.1 h
    rw [UInt32.toNat_zero]
    omega
  · next h =>
    rw [UInt32.toNat_sub_of_le _ _ (UInt32.not_lt.1 h), hmax]

/-- The score of a report is exact. -/
theorem toNat_score (h : ofFindings? findings = some r) :
    r.score.toNat = 100 - total findings := by
  obtain ⟨deduction, hdeduction, rfl⟩ := ofFindings_eq_some_iff.1 h
  rw [← deduction_eq_some_iff.1 hdeduction]
  exact toNat_remaining deduction

/-- Findings that come first have a report of their own, and further findings never raise its
score. -/
theorem exists_report_of_append {earlier later : List Finding}
    (h : ofFindings? (earlier ++ later) = some r) :
    ∃ s, ofFindings? earlier = some s ∧ r.score ≤ s.score := by
  obtain ⟨s, hs⟩ := (fits_of_ofFindings h).left.exists_report
  refine ⟨s, hs, ?_⟩
  rw [UInt32.le_iff_toNat_le, toNat_score h, toNat_score hs, total_append]
  omega

/-- In a report, a finding of a hundred points leaves nothing. -/
theorem score_eq_zero {f : Finding} (h : ofFindings? findings = some r) (hf : f ∈ findings)
    (hcostly : 100 ≤ f.impact) : r.score = 0 := by
  have hpoints : 100 ≤ f.impact.toNat := UInt32.le_iff_toNat_le.1 hcostly
  have hle := impact_le_total hf
  apply UInt32.toNat_inj.1
  rw [toNat_score h, UInt32.toNat_zero]
  omega

/-- **When the score is exact.**  Findings have a report whose score is one hundred less all of
their points, or zero, exactly if these points fit in 32 bits.  Otherwise there is no report, since
their sum is an error.  There is never a report with another score.  Where there is one, every
part of the findings that comes first has a report as well, whose score is not lower, and a single
finding of a hundred points makes the score zero. -/
theorem score_exact_iff (findings : List Finding) :
    ((∃ r, ofFindings? findings = some r ∧ r.score.toNat = 100 - total findings) ↔
        total findings < UInt32.size) ∧
      (ofFindings? findings = none ↔ UInt32.size ≤ total findings) ∧
      ∀ r, ofFindings? findings = some r →
        r.score.toNat = 100 - total findings ∧
        (∀ earlier later, findings = earlier ++ later →
          ∃ s, ofFindings? earlier = some s ∧ r.score ≤ s.score) ∧
        ∀ f ∈ findings, 100 ≤ f.impact → r.score = 0 := by
  refine ⟨⟨?_, fun hfits => ?_⟩, ofFindings_eq_none_iff.trans Nat.not_lt, fun r hr =>
    ⟨toNat_score hr, ?_, fun f hf hcostly => score_eq_zero hr hf hcostly⟩⟩
  · rintro ⟨r, hr, _⟩
    exact fits_of_ofFindings hr
  · obtain ⟨r, hr⟩ := Fits.exists_report hfits
    exact ⟨r, hr, toNat_score hr⟩
  · rintro earlier later rfl
    exact exists_report_of_append hr

/-- A finding that was stored with so many points. -/
def storedFinding (points : UInt32) : Finding :=
  (Finding.ofKind .permissiveRule "Open").withSeverity .critical points

/-- All but five of the points that fit, and then these five. -/
theorem score_exact_iff_justFits :
    let first := storedFinding 4294967290
    let findings := [first, storedFinding 5]
    total findings = 4294967295 ∧ 100 ≤ first.impact ∧
      ∃ r, ofFindings? findings = some r ∧ r.score.toNat = 100 - total findings ∧ r.score = 0 ∧
        ∃ s, ofFindings? [first] = some s ∧ r.score ≤ s.score := by
  intro first findings
  obtain ⟨hexists, _, hreport⟩ := score_exact_iff findings
  obtain ⟨r, hr, hscore⟩ := hexists.2 (by decide)
  obtain ⟨_, happended, hzero⟩ := hreport r hr
  exact ⟨by decide, by decide, r, hr, hscore, hzero first (by simp [findings]) (by decide),
    happended [first] [storedFinding 5] rfl⟩

/-- **Points that do not fit.**  One finding with as many points as fit in 32 bits leaves nothing of
the score.  With a second one of a single point there is no report any more. -/
theorem points_overflow :
    let first := storedFinding 4294967295
    let second := storedFinding 1
    total [first, second] = 4294967296 ∧ ofFindings? [first, second] = none ∧
      (ofFindings? [first]).map score = some 0 ∧
      ¬(∀ findings, ∃ r, ofFindings? findings = some r ∧
        r.score.toNat = 100 - total findings) ∧
      ¬(∀ findings more r, ofFindings? findings = some r →
        ∃ s, ofFindings? (findings ++ more) = some s ∧ s.score ≤ r.score) ∧
      ¬∀ findings, ∀ f ∈ findings, 100 ≤ f.impact →
        ∃ r, ofFindings? findings = some r ∧ r.score = 0 := by
  intro first second
  have hnone : ofFindings? [first, second] = none := by decide
  have hzero : (ofFindings? [first]).map score = some 0 := by decide
  refine ⟨by decide, hnone, hzero, fun hexact => ?_, fun happended => ?_, fun hcostly => ?_⟩
  · obtain ⟨r, hr, _⟩ := hexact [first, second]
    rw [hnone] at hr
    cases hr
  · obtain ⟨r, hr, _⟩ := Option.map_eq_some_iff.1 hzero
    obtain ⟨s, hs, _⟩ := happended [first] [second] r hr
    rw [show [first] ++ [second] = [first, second] from rfl, hnone] at hs
    cases hs
  · obtain ⟨r, hr, _⟩ := hcostly [first, second] first (by simp) (by decide)
    rw [hnone] at hr
    cases hr

end SiteAudit.Report
