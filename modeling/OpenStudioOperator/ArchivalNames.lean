import OpenStudioOperator.Archival
import OpenStudioOperator.Foundation.Regex

/-!
# Names of archival Jobs

The name of a Job is a fixed head, what is left of the analysis id, and the first
digits of the digest of the id.
-/

namespace OpenStudioOperator

open Foundation

/-- `[a-z]`. -/
def labelLetter (c : Char) : Bool := 'a' ≤ c && c ≤ 'z'

/-- `[a-z0-9]`. -/
def labelEnd (c : Char) : Bool := labelLetter c || ('0' ≤ c && c ≤ '9')

/-- `[-a-z0-9]`. -/
def labelInner (c : Char) : Bool := c = '-' || labelEnd c

/-- `[a-z]([-a-z0-9]*[a-z0-9])?`. -/
def dns1035 : Regex :=
  .seq (.cls labelLetter) (.opt (.seq (.star (.cls labelInner)) (.cls labelEnd)))

structure Dns1035Label (name : String) : Prop where
  grammar : dns1035.Matches name.toList
  length_le : name.length ≤ 63

/-- The digits of `hexdigest`. -/
def lowerHexDigit (c : Char) : Bool := ('0' ≤ c && c ≤ '9') || ('a' ≤ c && c ≤ 'f')

/-- A SHA-256 digest as `hexdigest` writes it. -/
structure HexDigest (digest : String) : Prop where
  length_eq : digest.length = 64
  digits : forall c, c ∈ digest.toList -> lowerHexDigit c = true

/-!
## Characters
-/

theorem labelInner_of_kept {c : Char} (h : keptInJobName c = true) : labelInner c = true := by
  simp only [keptInJobName, labelInner, labelEnd, labelLetter, Bool.or_eq_true] at h ⊢
  tauto

theorem labelEnd_of_hex {c : Char} (h : lowerHexDigit c = true) : labelEnd c = true := by
  simp only [lowerHexDigit, labelEnd, labelLetter, Bool.or_eq_true, Bool.and_eq_true,
    decide_eq_true_eq] at h ⊢
  rcases h with hdigit | ⟨hle, hge⟩
  · exact Or.inr hdigit
  · exact Or.inl ⟨hle, Nat.le_trans hge (by decide)⟩

theorem labelInner_of_end {c : Char} (h : labelEnd c = true) : labelInner c = true := by
  rw [labelInner, h, Bool.or_true]

theorem kept_of_mem_sanitizeChars (cs : List Char) :
    forall inRun c, c ∈ sanitizeChars inRun cs -> keptInJobName c = true := by
  induction cs with
  | nil => exact fun inRun c hc => absurd hc (by cases inRun <;> exact List.not_mem_nil)
  | cons x rest ih =>
      intro inRun c hc
      simp only [sanitizeChars] at hc
      by_cases hkept : keptInJobName x = true
      · rw [if_pos hkept] at hc
        rcases List.mem_cons.mp hc with rfl | hrest
        · exact hkept
        · exact ih false c hrest
      · rw [if_neg hkept] at hc
        cases inRun with
        | true => exact ih true c hc
        | false =>
            rcases List.mem_cons.mp hc with rfl | hrest
            · decide
            · exact ih true c hrest

theorem stripRight_sublist (cs : List Char) : (stripRight cs).Sublist cs := by
  have h := (List.dropWhile_sublist (l := cs.reverse) (p := (· = '-'))).reverse
  rw [List.reverse_reverse] at h
  exact h

theorem strip_sublist (cs : List Char) : (strip cs).Sublist cs :=
  (stripRight_sublist _).trans (List.dropWhile_sublist _)

/-!
## Names
-/

/-- The first digits of the digest of an id. -/
def shortDigest (text : TextOps) (analysisId : String) : List Char :=
  (text.sha256Hex analysisId).toList.take digestLen

section Names

variable {text : TextOps}

/-- Between the head and the digest stands nothing, or the shortened id and a dash. -/
theorem archivalJobName_eq (text : TextOps) (analysisId : String) :
    exists middle, (archivalJobName text analysisId).toList =
        jobNameHead.toList ++ middle ++ shortDigest text analysisId ∧
      middle.length ≤ 42 ∧ forall c, c ∈ middle -> labelInner c = true := by
  let sanitized := strip (sanitizeChars false (text.lower analysisId).toList)
  have hbudget : maxNameLen - jobNameHead.length - digestLen - 1 = 41 := by decide
  by_cases hempty : sanitized.isEmpty = true
  · refine ⟨[], ?_, Nat.zero_le _, fun c hc => absurd hc List.not_mem_nil⟩
    simp only [archivalJobName]
    rw [if_pos hempty, String.toList_append, String.toList_ofList, List.append_nil]
    rfl
  · let cut := stripRight (sanitized.take 41)
    have hcut : cut.Sublist (sanitized.take 41) := stripRight_sublist _
    refine ⟨cut ++ ['-'], ?_, ?_, ?_⟩
    · simp only [archivalJobName, hbudget]
      rw [if_neg hempty]
      simp only [String.toList_append, String.toList_ofList, List.append_assoc]
      rfl
    · have hlength := hcut.length_le
      rw [List.length_take] at hlength
      rw [List.length_append, List.length_singleton]
      omega
    · intro c hc
      rcases List.mem_append.mp hc with hmem | hdash
      · have hsanitized := List.mem_of_mem_take (hcut.subset hmem)
        exact labelInner_of_kept
          (kept_of_mem_sanitizeChars _ false c ((strip_sublist _).subset hsanitized))
      · rw [List.mem_singleton.mp hdash]
        decide

theorem HexDigest.length_short {analysisId : String} (h : HexDigest (text.sha256Hex analysisId)) :
    (shortDigest text analysisId).length = 8 := by
  have hlength : (text.sha256Hex analysisId).toList.length = 64 := by
    rw [String.length_toList]
    exact h.length_eq
  rw [shortDigest, List.length_take, hlength]
  decide

/-- A letter, inner characters, and a last character that is not a dash. -/
theorem dns1035_matches {first last : Char} {inner : List Char}
    (hfirst : labelLetter first = true) (hinner : forall c, c ∈ inner -> labelInner c = true)
    (hlast : labelEnd last = true) : dns1035.Matches (first :: (inner ++ [last])) :=
  .seq (u := [first]) (.cls hfirst)
    (Regex.matches_opt.mpr (Or.inl (.seq (Regex.matches_star_cls hinner) (.cls hlast))))

theorem archivalJobName_label {analysisId : String}
    (h : HexDigest (text.sha256Hex analysisId)) :
    Dns1035Label (archivalJobName text analysisId) := by
  rcases archivalJobName_eq text analysisId with ⟨middle, hname, hmiddle, hinner⟩
  have hshort := h.length_short
  have hhex : forall c, c ∈ shortDigest text analysisId -> labelEnd c = true :=
    fun c hc => labelEnd_of_hex (h.digits c (List.mem_of_mem_take hc))
  constructor
  · rcases List.eq_nil_or_concat (shortDigest text analysisId) with hnil | ⟨digits, last, hdigits⟩
    · rw [hnil] at hshort
      cases hshort
    · rw [hdigits] at hname hhex
      have hhead : jobNameHead.toList = 'o' :: "scm-archive-".toList := by decide +kernel
      have hword : (archivalJobName text analysisId).toList =
          'o' :: ("scm-archive-".toList ++ middle ++ digits ++ [last]) := by
        rw [hname, hhead]
        simp only [List.concat_eq_append, List.cons_append, List.append_assoc]
      rw [hword]
      refine dns1035_matches (by decide) ?_ (hhex last (by simp))
      intro c hc
      rcases List.mem_append.mp hc with hc | hc
      · rcases List.mem_append.mp hc with hc | hc
        · exact List.all_eq_true.mp
            (by decide +kernel : "scm-archive-".toList.all labelInner = true) c hc
        · exact hinner c hc
      · exact labelInner_of_end (hhex c (by simp [hc]))
  · have hlength : (archivalJobName text analysisId).toList.length = 13 + middle.length + 8 := by
      rw [hname, List.length_append, List.length_append, hshort]
      rfl
    rw [String.length_toList] at hlength
    omega

/-- Names end in the digest, so ids whose digests begin differently have different
names. -/
theorem archivalJobName_ne {analysisId analysisId' : String}
    (h : HexDigest (text.sha256Hex analysisId)) (h' : HexDigest (text.sha256Hex analysisId'))
    (hne : shortDigest text analysisId ≠ shortDigest text analysisId') :
    archivalJobName text analysisId ≠ archivalJobName text analysisId' := by
  intro heq
  rcases archivalJobName_eq text analysisId with ⟨middle, hname, _, _⟩
  rcases archivalJobName_eq text analysisId' with ⟨middle', hname', _, _⟩
  rw [heq, hname'] at hname
  have hparts := List.append_inj' hname (h'.length_short.trans h.length_short.symm)
  exact hne hparts.2.symm

/-- Every name is a DNS-1035 label, and names keep apart what the digests keep
apart, whatever is left of the ids. -/
theorem archivalJobName_wellFormed (text : TextOps)
    (hdigest : forall id, HexDigest (text.sha256Hex id)) :
    (forall id, Dns1035Label (archivalJobName text id)) ∧
    forall id id', (text.sha256Hex id).toList.take 8 ≠ (text.sha256Hex id').toList.take 8 ->
      archivalJobName text id ≠ archivalJobName text id' :=
  ⟨fun id => archivalJobName_label (hdigest id),
    fun id id' hne => archivalJobName_ne (hdigest id) (hdigest id') hne⟩

/-- Lower case of ASCII, and the digests of two ids. -/
def twoDigests : TextOps where
  lower s := s.map Char.toLower
  sha256Hex id :=
    if id = "Run 1" then "4fdc933206ff29fa0cc079c72262c533be8a59d300e031ae613705b4b51fb17a"
    else "4e65d3fbe8ad6535681b021b30785b12b6c0e3f8878859a4148b3f58b8835db0"

theorem twoDigests_hex (id : String) : HexDigest (twoDigests.sha256Hex id) := by
  simp only [twoDigests]
  split
  · exact ⟨by decide +kernel, List.all_eq_true.mp (by decide +kernel)⟩
  · exact ⟨by decide +kernel, List.all_eq_true.mp (by decide +kernel)⟩

/-- Two ids with one sanitised form. -/
theorem archivalJobName_wellFormed_two :
    archivalJobName twoDigests "Run 1" = "oscm-archive-run-1-4fdc9332" ∧
    archivalJobName twoDigests "run-1" = "oscm-archive-run-1-4e65d3fb" ∧
    Dns1035Label (archivalJobName twoDigests "Run 1") ∧
    archivalJobName twoDigests "Run 1" ≠ archivalJobName twoDigests "run-1" :=
  ⟨by decide +kernel, by decide +kernel,
    (archivalJobName_wellFormed twoDigests twoDigests_hex).1 "Run 1",
    (archivalJobName_wellFormed twoDigests twoDigests_hex).2 "Run 1" "run-1"
      (by decide +kernel)⟩

end Names

end OpenStudioOperator
