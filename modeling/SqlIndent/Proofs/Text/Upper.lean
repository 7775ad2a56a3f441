import Mathlib.Tactic.Common
import SqlIndent.Text.Blank
import SqlIndent.Text.Upper
import SqlIndent.Text.WordChar

/-!
# What upper-casing keeps

Three facts about the case tables carry everything that is proved about upper-cased words:

* characters that are no word characters are their own upper case;
* the upper case of a word character consists of *plain* characters, which are neither blank nor
  mean anything to the division into spans;
* upper-casing twice is upper-casing once.

The tables hold some fourteen hundred characters, so they are checked interval by interval, never
character by character.
-/

namespace SqlIndent.Text

/-! ## Intervals inside a table -/

/-- Whether one of the closed intervals of an increasing list reaches from `lo` to `hi`. -/
def spannedBy : List (Nat × Nat) → Nat → Nat → Bool
  | [], _, _ => false
  | (first, last) :: rest, lo, hi =>
    Nat.ble first lo && (Nat.ble hi last || spannedBy rest lo hi)

/-- Everything between `lo` and `hi` lies in the intervals that reach from one to the other. -/
lemma inRanges_of_spannedBy {ranges : List (Nat × Nat)} {lo hi n : Nat}
    (h : spannedBy ranges lo hi = true) (hlo : lo ≤ n) (hhi : n ≤ hi) :
    inRanges ranges n = true := by
  induction ranges with
  | nil => simp [spannedBy] at h
  | cons r rest ih =>
    simp only [spannedBy, Bool.and_eq_true, Bool.or_eq_true, Nat.ble_eq] at h
    simp only [inRanges, Bool.and_eq_true, Bool.or_eq_true, decide_eq_true_eq]
    refine ⟨Nat.le_trans h.1 hlo, ?_⟩
    rcases h.2 with hlast | hrest
    · exact Or.inl (Nat.le_trans hhi hlast)
    · exact Or.inr (ih hrest)

/-- A number in a list of intervals lies in one of them. -/
lemma exists_mem_of_inRanges {ranges : List (Nat × Nat)} {n : Nat}
    (h : inRanges ranges n = true) : ∃ r ∈ ranges, r.1 ≤ n ∧ n ≤ r.2 := by
  induction ranges with
  | nil => simp [inRanges] at h
  | cons r rest ih =>
    simp only [inRanges, Bool.and_eq_true, Bool.or_eq_true, decide_eq_true_eq] at h
    rcases h.2 with hlast | hrest
    · exact ⟨r, by simp, h.1, hlast⟩
    · obtain ⟨q, hq, hn⟩ := ih hrest
      exact ⟨q, by simp [hq], hn⟩

/-! ## Plain characters -/

/-- Letters, digits, the underscore and everything outside ASCII that is not blank. -/
def plainRanges : List (Nat × Nat) :=
  [(0x30, 0x39), (0x41, 0x5A), (0x5F, 0x5F), (0x61, 0x7A), (0xA1, 0x167F), (0x1681, 0x1FFF),
   (0x200B, 0x2027), (0x202A, 0x202E), (0x2030, 0x205E), (0x2060, 0x2FFF), (0x3001, 0xD7FF),
   (0xE000, 0x10FFFF)]

/-- Characters that are not blank and play no part in literals, comments or lists. -/
def isPlain (c : Char) : Bool :=
  inRanges plainRanges c.toNat

lemma isBlank_eq_false_of_isPlain {c : Char} (h : isPlain c = true) : isBlank c = false := by
  rw [← Bool.not_eq_true]
  intro hb
  simp only [isPlain, plainRanges, isBlank, blankRanges, inRanges, Bool.and_eq_true,
    Bool.or_eq_true, decide_eq_true_eq, Bool.false_eq_true, or_false] at h hb
  omega

/-- A plain character differs from every character that is not plain. -/
lemma ne_of_isPlain {c d : Char} (hc : isPlain c = true) (hd : isPlain d = false) : c ≠ d := by
  rintro rfl
  rw [hc] at hd
  exact absurd hd (by decide)

/-- The letters and digits lie in the plain ranges: one comparison of the tables. -/
lemma alphanumericRanges_plain :
    alphanumericRanges.all (fun r => spannedBy plainRanges r.1 r.2) = true := by
  decide +kernel

lemma isPlain_of_isWordChar {c : Char} (h : isWordChar c = true) : isPlain c = true := by
  simp only [isWordChar, Bool.or_eq_true, beq_iff_eq] at h
  rcases h with rfl | h
  · decide
  · obtain ⟨r, hr, hfirst, hlast⟩ := exists_mem_of_inRanges h
    have hspan := List.all_eq_true.1 alphanumericRanges_plain r hr
    exact inRanges_of_spannedBy hspan hfirst hlast

lemma isWordChar_eq_false_of_isBlank {c : Char} (h : isBlank c = true) : isWordChar c = false := by
  rw [← Bool.not_eq_true]
  intro hw
  rw [isBlank_eq_false_of_isPlain (isPlain_of_isWordChar hw)] at h
  exact absurd h (by decide)

/-! ## Looking up the case tables -/

lemma findRun_eq_some {n : Nat} {runs : List CaseRun} {r : CaseRun}
    (h : findRun n runs = some r) : r ∈ runs ∧ r.covers n = true := by
  induction runs with
  | nil => simp [findRun] at h
  | cons q rest ih =>
    unfold findRun at h
    split at h
    · simp at h
    · split at h
      next hq =>
        rw [Option.some.injEq] at h
        subst h
        exact ⟨by simp, hq⟩
      · have hrest := ih h
        exact ⟨by simp [hrest.1], hrest.2⟩

lemma findRun_eq_none {n : Nat} {runs : List CaseRun}
    (h : ∀ r ∈ runs, r.covers n = false) : findRun n runs = none := by
  cases hr : findRun n runs with
  | none => rfl
  | some r =>
    obtain ⟨hmem, hcovers⟩ := findRun_eq_some hr
    rw [h r hmem] at hcovers
    exact absurd hcovers (by decide)

lemma findExpansion_eq_some {n : Nat} {table : List (Nat × List Nat)} {images : List Nat}
    (h : findExpansion n table = some images) : (n, images) ∈ table := by
  induction table with
  | nil => simp [findExpansion] at h
  | cons e rest ih =>
    obtain ⟨k, ks⟩ := e
    unfold findExpansion at h
    split at h
    · simp at h
    · split at h
      next hk =>
        rw [Option.some.injEq] at h
        rw [beq_iff_eq] at hk
        simp [h, hk]
      · exact List.mem_cons_of_mem _ (ih h)

/-- A character is its own upper case, moves with a run, or is expanded. -/
lemma upperChar_cases (c : Char) :
    upperChar c = [c] ∨
    (∃ r ∈ caseRuns, r.covers c.toNat = true ∧ upperChar c = [Char.ofNat (r.image c.toNat)]) ∨
    ∃ images, (c.toNat, images) ∈ caseExpansions ∧ upperChar c = images.map Char.ofNat := by
  unfold upperChar
  split
  next images he => exact Or.inr (Or.inr ⟨images, findExpansion_eq_some he, rfl⟩)
  · split
    next r hr =>
      have hrun := findRun_eq_some hr
      exact Or.inr (Or.inl ⟨r, hrun.1, hrun.2, rfl⟩)
    · exact Or.inl rfl

/-! ## Checks over the case tables -/

/-- One code point, as a run that stays in place. -/
def CaseRun.point (n : Nat) : CaseRun :=
  ⟨n, n, 1, 0⟩

/-- The runs of code points that upper-casing changes. -/
def changedRuns : List CaseRun :=
  caseRuns ++ caseExpansions.map fun e => .point e.1

/-- The runs whose images are the results of upper-casing a changed character. -/
def imageRuns : List CaseRun :=
  caseRuns ++ caseExpansions.flatMap fun e => e.2.map .point

/-- Whether no image of `r` is covered by `q`: they are apart, or they interleave. -/
def CaseRun.avoids (r q : CaseRun) : Bool :=
  Nat.blt (r.image r.last) q.first || Nat.blt q.last (r.image r.first) ||
    (Nat.beq q.step 2 && (Nat.beq r.step 2 || Nat.beq r.first r.last) &&
      (Nat.blt 0 (r.image r.first) && Nat.beq ((r.image r.first + q.first) % 2) 1))

/-- Only letters and digits change to a single character. -/
lemma caseRuns_alphanumeric :
    caseRuns.all (fun r => spannedBy alphanumericRanges r.first r.last) = true := by
  decide +kernel

lemma caseExpansions_alphanumeric :
    caseExpansions.all (fun e => spannedBy alphanumericRanges e.1 e.1) = true := by
  decide +kernel

/-- The upper-case letters that runs lead to are plain. -/
lemma imageRuns_plain :
    imageRuns.all (fun r => spannedBy plainRanges (r.image r.first) (r.image r.last)) = true := by
  decide +kernel

/-- No run leads to a letter that changes once more; this is why upper-casing twice is upper-casing
once. -/
lemma imageRuns_avoid_changedRuns :
    imageRuns.all (fun r => changedRuns.all fun q => r.avoids q) = true := by
  decide +kernel

lemma expansions_ne_nil : caseExpansions.all (fun e => !e.2.isEmpty) = true := by
  decide +kernel

/-! ## Consequences for single characters -/

lemma CaseRun.covers_iff {r : CaseRun} {n : Nat} :
    r.covers n = true ↔ r.first ≤ n ∧ n ≤ r.last ∧ (n - r.first) % r.step = 0 := by
  simp [covers, and_assoc]

/-- The images of a run lie between the images of its ends. -/
lemma CaseRun.image_mem {r : CaseRun} {n : Nat} (h : r.covers n = true) :
    r.image r.first ≤ r.image n ∧ r.image n ≤ r.image r.last := by
  rw [covers_iff] at h
  unfold image
  omega

/-- If a run avoids another one, what it leads to is not covered by that one. -/
lemma CaseRun.covers_image_eq_false {r q : CaseRun} {n : Nat} (h : r.avoids q = true)
    (hn : r.covers n = true) : q.covers (r.image n) = false := by
  rw [← Bool.not_eq_true]
  intro hq
  have himage := image_mem hn
  rw [covers_iff] at hn hq
  simp only [avoids, Bool.or_eq_true, Bool.and_eq_true, Nat.blt_eq, Nat.beq_eq] at h
  rcases h with (hbefore | hafter) | ⟨⟨hqstep, hr⟩, hpos, hodd⟩
  · omega
  · omega
  · -- the images of `r` share the parity of the first one, the members of `q` the other parity
    have hparity : r.image n % 2 = r.image r.first % 2 := by
      unfold image at hpos ⊢
      rcases hr with hrstep | hsingle
      · rw [hrstep] at hn
        omega
      · have : n = r.first := by omega
        rw [this]
    rw [hqstep] at hq
    omega

/-- A code point that no run of changes covers is its own upper case. -/
lemma upperChar_eq_self {c : Char} (h : ∀ q ∈ changedRuns, q.covers c.toNat = false) :
    upperChar c = [c] := by
  have hruns : findRun c.toNat caseRuns = none :=
    findRun_eq_none fun r hr => h r (by simp [changedRuns, hr])
  have hexpansions : findExpansion c.toNat caseExpansions = none := by
    cases he : findExpansion c.toNat caseExpansions with
    | none => rfl
    | some images =>
      have hmem := findExpansion_eq_some he
      have hpoint := h (.point c.toNat) (by
        simp only [changedRuns, List.mem_append, List.mem_map]
        exact Or.inr ⟨_, hmem, rfl⟩)
      simp [CaseRun.point, CaseRun.covers] at hpoint
  simp [upperChar, hruns, hexpansions]

/-- What upper-casing makes of a changed character: images of runs. -/
lemma mem_upperChar {c x : Char} (hx : x ∈ upperChar c) :
    x = c ∧ upperChar c = [c] ∨
    ∃ r ∈ imageRuns, ∃ n, r.covers n = true ∧ x = Char.ofNat (r.image n) := by
  rcases upperChar_cases c with h | ⟨r, hr, hcovers, h⟩ | ⟨images, he, h⟩
  · rw [h, List.mem_singleton] at hx
    exact Or.inl ⟨hx, h⟩
  · rw [h, List.mem_singleton] at hx
    exact Or.inr ⟨r, by simp [imageRuns, hr], _, hcovers, hx⟩
  · rw [h, List.mem_map] at hx
    obtain ⟨n, hn, rfl⟩ := hx
    refine Or.inr ⟨.point n, ?_, n, by simp [CaseRun.point, CaseRun.covers], ?_⟩
    · simp only [imageRuns, List.mem_append, List.mem_flatMap, List.mem_map]
      exact Or.inr ⟨_, he, n, hn, rfl⟩
    · simp [CaseRun.point, CaseRun.image]

lemma toNat_ofNat_of_plain {n : Nat} (h : inRanges plainRanges n = true) :
    (Char.ofNat n).toNat = n := by
  have hvalid : n.isValidChar := by
    simp only [plainRanges, inRanges, Bool.and_eq_true, Bool.or_eq_true, decide_eq_true_eq,
      Bool.false_eq_true, or_false] at h
    unfold Nat.isValidChar
    omega
  rw [Char.ofNat, dif_pos hvalid]
  rfl

lemma inRanges_plainRanges_image {r : CaseRun} {n : Nat} (hr : r ∈ imageRuns)
    (hn : r.covers n = true) : inRanges plainRanges (r.image n) = true := by
  have himage := CaseRun.image_mem hn
  exact inRanges_of_spannedBy (List.all_eq_true.1 imageRuns_plain r hr) himage.1 himage.2

/-- Only word characters have another upper case. -/
theorem upperChar_of_not_isWordChar {c : Char} (h : isWordChar c = false) :
    upperChar c = [c] := by
  have hranges : inRanges alphanumericRanges c.toNat = false := by
    simp only [isWordChar, Bool.or_eq_false_iff] at h
    exact h.2
  rcases upperChar_cases c with hc | ⟨r, hr, hcovers, -⟩ | ⟨images, he, -⟩
  · exact hc
  · rw [CaseRun.covers_iff] at hcovers
    have hspan := List.all_eq_true.1 caseRuns_alphanumeric r hr
    rw [inRanges_of_spannedBy hspan hcovers.1 hcovers.2.1] at hranges
    exact absurd hranges (by decide)
  · have hspan := List.all_eq_true.1 caseExpansions_alphanumeric _ he
    rw [inRanges_of_spannedBy hspan (Nat.le_refl _) (Nat.le_refl _)] at hranges
    exact absurd hranges (by decide)

/-- The upper case of a word character is plain. -/
theorem isPlain_of_mem_upperChar {c x : Char} (hc : isWordChar c = true) (hx : x ∈ upperChar c) :
    isPlain x = true := by
  rcases mem_upperChar hx with ⟨rfl, -⟩ | ⟨r, hr, n, hn, rfl⟩
  · exact isPlain_of_isWordChar hc
  · have hplain := inRanges_plainRanges_image hr hn
    rw [isPlain, toNat_ofNat_of_plain hplain]
    exact hplain

/-- No character vanishes in upper-casing. -/
theorem upperChar_ne_nil (c : Char) : upperChar c ≠ [] := by
  rcases upperChar_cases c with h | ⟨r, -, -, h⟩ | ⟨images, he, h⟩
  · simp [h]
  · simp [h]
  · have hne := List.all_eq_true.1 expansions_ne_nil _ he
    cases images with
    | nil => simp at hne
    | cons n ns => simp [h]

/-- An upper-cased character does not change any more. -/
theorem upperChar_of_mem_upperChar {c x : Char} (hx : x ∈ upperChar c) : upperChar x = [x] := by
  rcases mem_upperChar hx with ⟨rfl, h⟩ | ⟨r, hr, n, hn, rfl⟩
  · exact h
  · apply upperChar_eq_self
    intro q hq
    rw [toNat_ofNat_of_plain (inRanges_plainRanges_image hr hn)]
    have havoids := List.all_eq_true.1 (List.all_eq_true.1 imageRuns_avoid_changedRuns r hr) q hq
    exact CaseRun.covers_image_eq_false havoids hn

/-! ## Upper-casing texts -/

@[simp] lemma upper_nil : upper [] = [] := rfl

@[simp] lemma upper_cons (c : Char) (t : Text) : upper (c :: t) = upperChar c ++ upper t := rfl

lemma upper_eq_self {t : Text} (h : ∀ c ∈ t, upperChar c = [c]) : upper t = t := by
  induction t with
  | nil => rfl
  | cons c t ih =>
    rw [upper_cons, h c (by simp), ih fun x hx => h x (by simp [hx])]
    rfl

/-- Upper-casing twice is upper-casing once. -/
@[simp] theorem upper_upper (t : Text) : upper (upper t) = upper t := by
  apply upper_eq_self
  intro x hx
  obtain ⟨c, -, hc⟩ := List.mem_flatMap.1 hx
  exact upperChar_of_mem_upperChar hc

lemma upper_eq_nil {t : Text} : upper t = [] ↔ t = [] := by
  cases t with
  | nil => simp
  | cons c t => simp [upperChar_ne_nil]

end SqlIndent.Text
