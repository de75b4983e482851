import Mathlib.Data.Char
import Mathlib.Data.List.Lex
import Mathlib.Data.Prod.Lex
import BareStrings.Report.Basic

namespace BareStrings.Report

/-- A severity is ranked by its place among the severities. -/
theorem Severity.rank_eq_idxOf (severity : Severity) : severity.rank = all.idxOf severity := by
  cases severity <;> rfl

/-- What a finding is ranked by: its severity, its path by code points, its line and its column. Each of them
counts only between findings that have all before it in common. -/
def Finding.rank (finding : Finding) : ℕ ×ₗ List Char ×ₗ ℕ ×ₗ ℕ :=
  toLex (Severity.all.idxOf finding.severity, toLex (finding.path, toLex (finding.line, finding.column)))

private theorem Finding.isOrdered_iff {a b : Finding} : a.isOrdered b = true ↔ a.rank ≤ b.rank := by
  simp only [rank, Prod.Lex.toLex_le_toLex, ← Severity.rank_eq_idxOf]
  by_cases hseverity : a.severity.rank = b.severity.rank
  · by_cases hpath : a.path = b.path
    · by_cases hline : a.line = b.line
      · simp [isOrdered, hseverity, hpath, hline]
      · simp [isOrdered, hseverity, hpath, hline]
    · simp [isOrdered, hseverity, hpath]
  · simp [isOrdered, hseverity]

/-- A list is a ranking of findings: it holds all of them by rank, and those of each rank in the order that
they have among the findings. -/
structure IsRanking (findings ordered : List Finding) : Prop where
  perm : ordered.Perm findings
  ascending : ordered.Pairwise fun a b => a.rank ≤ b.rank
  stable : ∀ rank, ordered.filter (·.rank = rank) = findings.filter (·.rank = rank)

/-- Sorting findings ranks them. -/
private theorem isRanking_mergeSort (findings : List Finding) :
    IsRanking findings (findings.mergeSort Finding.isOrdered) := by
  have htrans (a b c : Finding) (hab : a.isOrdered b = true) (hbc : b.isOrdered c = true) :
      a.isOrdered c = true := by
    rw [Finding.isOrdered_iff] at hab hbc ⊢
    exact hab.trans hbc
  have htotal (a b : Finding) : (a.isOrdered b || b.isOrdered a) = true := by
    rw [Bool.or_eq_true, Finding.isOrdered_iff, Finding.isOrdered_iff]
    exact le_total a.rank b.rank
  have hperm := List.mergeSort_perm findings Finding.isOrdered
  refine ⟨hperm, ?_, fun rank => ?_⟩
  · exact (List.pairwise_mergeSort htrans htotal findings).imp Finding.isOrdered_iff.1
  · -- The findings of one rank are in order as they stand, so the sort leaves them one after another.
    have hordered : (findings.filter (·.rank = rank)).Pairwise fun a b => a.isOrdered b = true := by
      refine List.pairwise_of_forall_mem_list fun a ha b hb => ?_
      have ha : a.rank = rank := by simpa using List.of_mem_filter ha
      have hb : b.rank = rank := by simpa using List.of_mem_filter hb
      exact Finding.isOrdered_iff.2 (ha.trans hb.symm).le
    have hsublist := List.sublist_mergeSort htrans htotal hordered List.filter_sublist
    have hfiltered := hsublist.filter (·.rank = rank)
    rw [List.filter_filter] at hfiltered
    simp only [Bool.and_self] at hfiltered
    exact (hfiltered.eq_of_length (hperm.filter _).length_eq.symm).symm

/-- A finding is told by those of its rank. -/
theorem mem_of_filter_eq {items others : List Finding} {finding : Finding}
    (hsame : items.filter (·.rank = finding.rank) = others.filter (·.rank = finding.rank))
    (hmem : finding ∈ items) : finding ∈ others := by
  have hkept : finding ∈ items.filter (·.rank = finding.rank) := List.mem_filter.2 ⟨hmem, by simp⟩
  exact (List.mem_filter.1 (hsame ▸ hkept)).1

/-- Two lists by rank are the same if they have the same findings of each rank in the same order. -/
theorem eq_of_filter_eq {items others : List Finding} (hitems : items.Pairwise fun a b => a.rank ≤ b.rank)
    (hothers : others.Pairwise fun a b => a.rank ≤ b.rank)
    (hsame : ∀ rank, items.filter (·.rank = rank) = others.filter (·.rank = rank)) : items = others := by
  induction items generalizing others with
  | nil =>
    refine (List.eq_nil_iff_forall_not_mem.2 fun finding hmem => ?_).symm
    exact absurd (mem_of_filter_eq (hsame finding.rank).symm hmem) List.not_mem_nil
  | cons a items ih =>
    cases others with
    | nil => exact absurd (mem_of_filter_eq (hsame a.rank) List.mem_cons_self) List.not_mem_nil
    | cons b others =>
      -- Each of the two heads stands in the other list, so neither ranks behind the other.
      have hrank : a.rank = b.rank := by
        apply le_antisymm
        · obtain rfl | hlater := List.mem_cons.1 (mem_of_filter_eq (hsame b.rank).symm List.mem_cons_self)
          · exact le_rfl
          · exact List.rel_of_pairwise_cons hitems hlater
        · obtain rfl | hlater := List.mem_cons.1 (mem_of_filter_eq (hsame a.rank) List.mem_cons_self)
          · exact le_rfl
          · exact List.rel_of_pairwise_cons hothers hlater
      have hheads := hsame a.rank
      rw [List.filter_cons_of_pos (by simp), List.filter_cons_of_pos (by simp [hrank]), List.cons.injEq] at hheads
      obtain ⟨rfl, htails⟩ := hheads
      refine congrArg (a :: ·) (ih hitems.of_cons hothers.of_cons fun rank => ?_)
      by_cases hfirst : a.rank = rank
      · exact hfirst ▸ htails
      · have hrest := hsame rank
        rwa [List.filter_cons_of_neg (by simpa using hfirst), List.filter_cons_of_neg (by simpa using hfirst)]
          at hrest

private theorem length_upTo {α : Type} (limit : Int) (items : List α) :
    ((upTo limit items).length : Int) =
      if 0 ≤ limit then min limit items.length else max 0 (items.length + limit) := by
  unfold upTo
  split
  · rw [List.length_take]
    omega
  · rw [List.length_take]
    omega

private theorem upTo_prefix {α : Type} (limit : Int) (items : List α) : upTo limit items <+: items := by
  unfold upTo
  split
  · exact List.take_prefix _ items
  · exact List.take_prefix _ items

/-- A report shows the front of the one ranking of its findings: as many as the limit says, or if it is
negative, all but as many as it says. Nothing that is left out ranks before anything shown. What is shown is
a list of its own, so the findings of the report keep the order in which they were added. -/
theorem topFindings_prefix_ranking (report : Report) (limit : Int) :
    ∃ ordered omitted, IsRanking report.findings ordered ∧
      (∀ other, IsRanking report.findings other → other = ordered) ∧
      ordered = report.topFindings limit ++ omitted ∧
      ((report.topFindings limit).length : Int) =
        (if 0 ≤ limit then min limit report.findings.length else max 0 (report.findings.length + limit)) ∧
      ∀ shown ∈ report.topFindings limit, ∀ finding ∈ omitted, shown.rank ≤ finding.rank := by
  have hranking := isRanking_mergeSort report.findings
  obtain ⟨omitted, hsplit⟩ := upTo_prefix limit (report.findings.mergeSort Finding.isOrdered)
  refine ⟨report.findings.mergeSort Finding.isOrdered, omitted, hranking, ?_, hsplit.symm, ?_, ?_⟩
  · intro other hother
    refine eq_of_filter_eq hother.ascending hranking.ascending fun rank => ?_
    rw [hother.stable, hranking.stable]
  · rw [topFindings, length_upTo, hranking.perm.length_eq]
  · have hascending := hranking.ascending
    rw [← hsplit, List.pairwise_append] at hascending
    exact hascending.2.2

end BareStrings.Report
