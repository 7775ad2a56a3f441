import Mathlib.Tactic.Common
import SqlIndent.Toml.Quoted
import SqlIndent.Toml.Written

/-!
# Reading written strings

A text is written in one of the four forms of TOML strings, and read back from each of them. The
forms over several lines are the delicate ones: marks at the end of the text run together with the
closing marks, so the reader meets the closing three too early and takes up to two marks after them
as part of the text.
-/

namespace SqlIndent.Toml

/-! ## Escapes -/

lemma codePoint?_append (count : Nat) (ds rest : Text) (h : ds.length = count) :
    codePoint? count (ds ++ rest) = (codePoint? count ds).map fun r => (r.1, rest) := by
  have htake : (ds ++ rest).take count = ds.take count := by
    rw [List.take_append_of_le_length (by omega)]
  have hdrop : (ds ++ rest).drop count = rest := by
    rw [← h, List.drop_left]
  simp only [codePoint?, htake, hdrop, Option.bind_eq_bind]
  cases (ds.take count).mapM hexValue? with
  | none => rfl
  | some digits =>
    simp only [Option.bind_some]
    split <;> rfl

/-- The two digits of a control character are read back. -/
lemma codePoint?_of_needsEscape {c : Char} (h : needsEscape c = true) (rest : Text) :
    codePoint? 4
        (['0', '0', upperHexDigit (c.toNat / 16), upperHexDigit (c.toNat % 16)] ++ rest)
      = some (c, rest) := by
  have htable : (List.range 128).all (fun n => !needsEscape (Char.ofNat n) ||
      codePoint? 4 ['0', '0', upperHexDigit (n / 16), upperHexDigit (n % 16)]
        == some (Char.ofNat n, [])) = true := by
    decide +kernel
  have hascii : c.toNat < 128 := by
    simp only [needsEscape, Bool.or_eq_true, Bool.and_eq_true, decide_eq_true_eq,
      beq_iff_eq] at h
    omega
  have hentry := List.all_eq_true.1 htable c.toNat (List.mem_range.2 hascii)
  rw [Char.ofNat_toNat, h, Bool.not_true, Bool.false_or, beq_iff_eq] at hentry
  rw [codePoint?_append 4 _ rest rfl, hentry]
  rfl

/-- Characters that need no escape can stand in every form, the line feed in some of them. -/
lemma isPlain_or_eq_lineFeed {c : Char} (h : needsEscape c = false) :
    isPlain c = true ∨ c = '\n' := by
  by_cases htab : c = '\t'
  · exact Or.inl (by simp [isPlain, htab])
  by_cases hfeed : c = '\n'
  · exact Or.inr hfeed
  have htab' : (c != '\t') = true := by simpa using htab
  have hfeed' : (c != '\n') = true := by simpa using hfeed
  simp only [needsEscape, htab', hfeed', Bool.and_true, Bool.or_eq_false_iff,
    decide_eq_false_iff_not, beq_eq_false_iff_ne] at h
  refine Or.inl ?_
  simp only [isPlain, Bool.or_eq_true, Bool.and_eq_true, decide_eq_true_eq, bne_iff_ne]
  exact Or.inr ⟨by omega, h.2⟩

/-- A character other than a line feed is written as it stands if that is allowed, or as a backslash
and an escape that stands for it. No escape looks like the end of a line. -/
lemma escaped_cases {c : Char} (hc : c ≠ '\n') :
    (escaped c = [c] ∧ c ≠ '\\' ∧ c ≠ '\r' ∧ isPlain c = true) ∨
      ∃ e, escaped c = '\\' :: e ∧ ∀ rest, escape? (e ++ rest) = some (c, rest) ∧
        newline? (skipBlanks (e ++ rest)) = none := by
  unfold escaped
  split
  next h => exact Or.inr ⟨['\\'], rfl, fun rest => ⟨by subst h; rfl, rfl⟩⟩
  next hbackslash =>
  split
  next h => exact Or.inr ⟨['b'], rfl, fun rest => ⟨by subst h; rfl, rfl⟩⟩
  split
  next h => exact Or.inr ⟨['t'], rfl, fun rest => ⟨by subst h; rfl, rfl⟩⟩
  split
  next h => exact Or.inr ⟨['f'], rfl, fun rest => ⟨by subst h; rfl, rfl⟩⟩
  split
  next h => exact Or.inr ⟨['r'], rfl, fun rest => ⟨by subst h; rfl, rfl⟩⟩
  next hreturn =>
  split
  next h => exact Or.inr ⟨_, rfl, fun rest => ⟨codePoint?_of_needsEscape h rest, rfl⟩⟩
  next h =>
    rw [Bool.not_eq_true] at h
    exact Or.inl ⟨rfl, hbackslash, hreturn, (isPlain_or_eq_lineFeed h).resolve_right hc⟩

/-! ## Strings on one line -/

lemma basicRest_plain {c : Char} (hplain : isPlain c = true) (hquote : c ≠ '"')
    (hbackslash : c ≠ '\\') (rest : Text) :
    basicRest (c :: rest) = (basicRest rest).map (consRead c) := by
  rw [basicRest.eq_4 _ _ hquote hbackslash, if_pos hplain]

lemma basicRest_escape {c : Char} {e rest : Text} (h : escape? e = some (c, rest)) :
    basicRest ('\\' :: e) = (basicRest rest).map (consRead c) := by
  rw [basicRest]
  split
  next c' rest' h' =>
    rw [h, Option.some.injEq, Prod.mk.injEq] at h'
    rw [h'.1, h'.2]
  next h' => simp [h] at h'

/-- A text is read back from between quotation marks. -/
lemma basicRest_basicBody (t rest : Text) :
    basicRest (basicBody t ++ '"' :: rest) = some (t, rest) := by
  induction t with
  | nil => rw [basicBody, List.flatMap_nil, List.nil_append, basicRest]
  | cons c t ih =>
    have hcons : basicBody (c :: t) ++ '"' :: rest
        = (if c = '"' then ['\\', '"'] else if c = '\n' then ['\\', 'n'] else escaped c)
          ++ (basicBody t ++ '"' :: rest) := by
      simp [basicBody]
    rw [hcons]
    split
    next hquote =>
      subst hquote
      rw [List.cons_append, basicRest_escape rfl]
      simp [ih, consRead]
    next hquote =>
    split
    next hfeed =>
      subst hfeed
      rw [List.cons_append, basicRest_escape rfl]
      simp [ih, consRead]
    next hfeed =>
      rcases escaped_cases hfeed with ⟨hself, hbackslash, -, hplain⟩ | ⟨e, he, hread⟩
      · rw [hself, List.singleton_append, basicRest_plain hplain hquote hbackslash, ih]
        rfl
      · rw [he, List.cons_append, basicRest_escape (hread _).1, ih]
        rfl

/-- A text without apostrophes and control characters is read back from between apostrophes. -/
lemma literalRest_append {t : Text} (ht : ∀ c ∈ t, isPlain c = true ∧ c ≠ '\'') (rest : Text) :
    literalRest (t ++ '\'' :: rest) = some (t, rest) := by
  induction t with
  | nil => rw [List.nil_append, literalRest]
  | cons c t ih =>
    obtain ⟨hplain, hmark⟩ := ht c (by simp)
    rw [List.cons_append, literalRest.eq_3 _ _ hmark, if_pos hplain,
      ih fun x hx => ht x (by simp [hx])]
    rfl

/-! ## Closing marks -/

/-- Of the marks after the closing three, up to two belong to the text. -/
lemma closingMarks_replicate {mark : Char} {count : Nat} (hcount : count ≤ 2) {rest : Text}
    (hrest : rest.head? ≠ some mark) :
    closingMarks mark (List.replicate count mark ++ rest) = (List.replicate count mark, rest) := by
  obtain rfl | rfl | rfl : count = 0 ∨ count = 1 ∨ count = 2 := by omega
  all_goals
    cases rest with
    | nil => simp [closingMarks]
    | cons d rest =>
      have hd : d ≠ mark := by simpa using hrest
      simp [closingMarks, List.replicate, hd]

/-! ## Strings between tripled quotation marks -/

/-- An ordinary character of a string of several lines stands for itself. -/
lemma multilineBasicRest_plain {c : Char} (hplain : isPlain c = true) (hquote : c ≠ '"')
    (hbackslash : c ≠ '\\') (hreturn : c ≠ '\r') (hfeed : c ≠ '\n') (rest : Text) :
    multilineBasicRest (c :: rest) = (multilineBasicRest rest).map (consRead c) := by
  rw [multilineBasicRest.eq_7 _ _ (fun _ h _ => hquote h) hquote hbackslash
    (fun _ h _ => hreturn h) hfeed, if_pos hplain]

/-- An escape in a string of several lines stands for its character, unless it is a backslash at the
end of a line. -/
lemma multilineBasicRest_escape {c : Char} {e rest : Text} (h : escape? e = some (c, rest))
    (hend : newline? (skipBlanks e) = none) :
    multilineBasicRest ('\\' :: e) = (multilineBasicRest rest).map (consRead c) := by
  rw [multilineBasicRest.eq_4]
  split
  next h' => simp [hend] at h'
  · split
    next c' rest' h' =>
      rw [h, Option.some.injEq, Prod.mk.injEq] at h'
      rw [h'.1, h'.2]
    next h' => simp [h] at h'

/-- A quote is written as it is while fewer than two stand before it. -/
lemma multilineBody_mark {marks : Nat} (h : marks ≠ 2) (t : Text) :
    multilineBody marks ('"' :: t) = '"' :: multilineBody (marks + 1) t := by
  simp [multilineBody, h]

/-- Every third quote in a row is escaped, so that three never meet. -/
lemma multilineBody_third (t : Text) :
    multilineBody 2 ('"' :: t) = '\\' :: '"' :: multilineBody 0 t := by
  simp [multilineBody]

lemma multilineBody_lineFeed (marks : Nat) (t : Text) :
    multilineBody marks ('\n' :: t) = '\n' :: multilineBody 0 t := by
  simp [multilineBody]

lemma multilineBody_other {c : Char} (hquote : c ≠ '"') (hfeed : c ≠ '\n') (marks : Nat)
    (t : Text) : multilineBody marks (c :: t) = escaped c ++ multilineBody 0 t := by
  simp [multilineBody, hquote, hfeed]

/-- A character other than the quotation mark is not written with one in front. -/
lemma head?_multilineBody_cons {c : Char} (hquote : c ≠ '"') (marks : Nat) (t rest : Text) :
    (multilineBody marks (c :: t) ++ rest).head? ≠ some '"' := by
  by_cases hfeed : c = '\n'
  · subst hfeed
    rw [multilineBody_lineFeed]
    simp
  · rw [multilineBody_other hquote hfeed]
    rcases escaped_cases hfeed with ⟨hself, -⟩ | ⟨e, he, -⟩
    · simpa [hself] using hquote
    · simp [he]

/-- After a mark, two more of them stand right at the beginning only where the text ends. -/
lemma eq_of_marks_ahead {marks : Nat} (hpos : 1 ≤ marks) (hmarks : marks ≤ 2) {t rest u : Text}
    (h : multilineBody marks t ++ '"' :: '"' :: '"' :: rest = '"' :: '"' :: u) :
    t = [] ∨ marks = 1 ∧ t = ['"'] := by
  cases t with
  | nil => exact Or.inl rfl
  | cons c t =>
    by_cases hc : c = '"'
    · subst hc
      by_cases htwo : marks = 2
      · subst htwo
        rw [multilineBody_third] at h
        simp at h
      · obtain rfl : marks = 1 := by omega
        rw [multilineBody_mark (by omega), List.cons_append, List.cons.injEq] at h
        cases t with
        | nil => exact Or.inr ⟨rfl, rfl⟩
        | cons d t =>
          -- the third mark in a row would be escaped, and another character is no mark
          by_cases hd : d = '"'
          · subst hd
            rw [multilineBody_third] at h
            simp at h
          · have hhead := head?_multilineBody_cons hd 2 t ('"' :: '"' :: '"' :: rest)
            rw [h.2] at hhead
            simp at hhead
    · have hhead := head?_multilineBody_cons hc marks t ('"' :: '"' :: '"' :: rest)
      rw [h] at hhead
      simp at hhead

/-- A text is read back from between tripled quotation marks. The induction keeps the number of
marks right before, which the writer counts and the reader does not. -/
lemma multilineBasicRest_multilineBody {rest : Text} (hrest : rest.head? ≠ some '"') (t : Text) :
    ∀ marks ≤ 2, multilineBasicRest (multilineBody marks t ++ '"' :: '"' :: '"' :: rest)
      = some (t, rest) := by
  induction t with
  | nil =>
    intro marks _
    have hnone := closingMarks_replicate (Nat.zero_le 2) hrest
    rw [multilineBody, List.nil_append, multilineBasicRest.eq_2]
    exact congrArg some hnone
  | cons c t ih =>
    intro marks hmarks
    by_cases hquote : c = '"'
    · subst hquote
      by_cases htwo : marks = 2
      · subst htwo
        rw [multilineBody_third, List.cons_append, List.cons_append,
          multilineBasicRest_escape rfl rfl, ih 0 (by omega)]
        rfl
      rw [multilineBody_mark htwo, List.cons_append]
      by_cases hahead : ∃ u, multilineBody (marks + 1) t ++ '"' :: '"' :: '"' :: rest
          = '"' :: '"' :: u
      · -- the text ends in one or two marks, which the reader finds after the closing three
        obtain ⟨u, hu⟩ := hahead
        rcases eq_of_marks_ahead (by omega) (by omega) hu with rfl | ⟨hone, rfl⟩
        · have hmark := closingMarks_replicate (show 1 ≤ 2 by omega) hrest
          rw [multilineBody, List.nil_append, multilineBasicRest.eq_2]
          exact congrArg some hmark
        · have hmark := closingMarks_replicate (Nat.le_refl 2) hrest
          rw [hone, multilineBody_mark (by omega), multilineBody, List.singleton_append,
            multilineBasicRest.eq_2]
          exact congrArg some hmark
      · rw [multilineBasicRest.eq_3 _ fun u hu => hahead ⟨u, hu⟩, ih (marks + 1) (by omega)]
        rfl
    by_cases hfeed : c = '\n'
    · subst hfeed
      rw [multilineBody_lineFeed, List.cons_append, multilineBasicRest.eq_6, ih 0 (by omega)]
      rfl
    rw [multilineBody_other hquote hfeed, List.append_assoc]
    rcases escaped_cases hfeed with ⟨hself, hbackslash, hreturn, hplain⟩ | ⟨e, he, hread⟩
    · rw [hself, List.singleton_append,
        multilineBasicRest_plain hplain hquote hbackslash hreturn hfeed, ih 0 (by omega)]
      rfl
    · rw [he, List.cons_append, multilineBasicRest_escape (hread _).1 (hread _).2,
        ih 0 (by omega)]
      rfl

/-! ## Strings between tripled apostrophes -/

lemma le_longestRun_go (mark : Char) (n : Nat) (t : Text) : n ≤ longestRun.go mark n t := by
  induction t generalizing n with
  | nil => exact Nat.le_refl n
  | cons c t ih =>
    rw [longestRun.go]
    split
    · exact Nat.le_trans (Nat.le_succ n) (ih (n + 1))
    · exact Nat.le_max_left _ _

lemma longestRun_go_mono (mark : Char) {n m : Nat} (h : n ≤ m) (t : Text) :
    longestRun.go mark n t ≤ longestRun.go mark m t := by
  induction t generalizing n m with
  | nil => exact h
  | cons c t ih =>
    rw [longestRun.go, longestRun.go]
    split
    · exact ih (by omega)
    · omega

/-- What follows the first character has no longer run than the whole text. -/
lemma longestRun_cons {mark c : Char} {t : Text} {n : Nat} (h : longestRun mark (c :: t) ≤ n) :
    longestRun mark t ≤ n := by
  rw [longestRun, longestRun.go] at h
  rw [longestRun]
  split at h
  · exact Nat.le_trans (longestRun_go_mono mark (by omega) t) h
  · omega

/-- After an apostrophe, two more of them stand right at the beginning only where the text ends. -/
lemma eq_of_apostrophes_ahead {t rest u : Text} (hrun : longestRun '\'' ('\'' :: t) ≤ 2)
    (h : t ++ '\'' :: '\'' :: '\'' :: rest = '\'' :: '\'' :: u) : t = [] ∨ t = ['\''] := by
  match t with
  | [] => exact Or.inl rfl
  | [c] =>
    rw [List.singleton_append, List.cons.injEq] at h
    exact Or.inr (by rw [h.1])
  | c :: d :: t =>
    rw [List.cons_append, List.cons_append, List.cons.injEq, List.cons.injEq] at h
    obtain ⟨rfl, rfl, -⟩ := h
    have hthree := le_longestRun_go '\'' 3 t
    simp only [longestRun, longestRun.go, if_true] at hrun
    exact absurd (Nat.le_trans hthree hrun) (by omega)

/-- A character of a literal string of several lines stands for itself, unless it begins the three
closing marks. -/
lemma multilineLiteralRest_plain {c : Char} {rest : Text} (hplain : isPlain c = true)
    (hmark : c = '\'' → ∀ u, rest ≠ '\'' :: '\'' :: u) :
    multilineLiteralRest (c :: rest) = (multilineLiteralRest rest).map (consRead c) := by
  have hreturn : c ≠ '\r' := by
    rintro rfl
    exact absurd hplain (by decide)
  have hfeed : c ≠ '\n' := by
    rintro rfl
    exact absurd hplain (by decide)
  rw [multilineLiteralRest.eq_5 _ _ (fun u hc hu => hmark hc u hu) (fun _ h _ => hreturn h) hfeed,
    if_pos hplain]

/-- A text is read back from between tripled apostrophes. -/
lemma multilineLiteralRest_append {rest : Text} (hrest : rest.head? ≠ some '\'') {t : Text}
    (ht : ∀ c ∈ t, isPlain c = true ∨ c = '\n') (hrun : longestRun '\'' t ≤ 2) :
    multilineLiteralRest (t ++ '\'' :: '\'' :: '\'' :: rest) = some (t, rest) := by
  induction t with
  | nil =>
    have hnone := closingMarks_replicate (Nat.zero_le 2) hrest
    rw [List.nil_append, multilineLiteralRest.eq_2]
    exact congrArg some hnone
  | cons c t ih =>
    have hread := ih (fun x hx => ht x (by simp [hx])) (longestRun_cons hrun)
    rw [List.cons_append]
    rcases ht c (by simp) with hplain | rfl
    · by_cases hahead : c = '\'' ∧ ∃ u, t ++ '\'' :: '\'' :: '\'' :: rest = '\'' :: '\'' :: u
      · obtain ⟨rfl, u, hu⟩ := hahead
        -- the text ends in one or two marks, which the reader finds after the closing three
        rcases eq_of_apostrophes_ahead hrun hu with rfl | rfl
        · have hmark := closingMarks_replicate (show 1 ≤ 2 by omega) hrest
          rw [List.nil_append, multilineLiteralRest.eq_2]
          exact congrArg some hmark
        · have hmark := closingMarks_replicate (Nat.le_refl 2) hrest
          rw [List.singleton_append, multilineLiteralRest.eq_2]
          exact congrArg some hmark
      · rw [multilineLiteralRest_plain hplain fun hc u hu => hahead ⟨hc, u, hu⟩, hread]
        rfl
    · rw [multilineLiteralRest.eq_4, hread]
      rfl

/-! ## All forms -/

lemma skipNewline_eq_self {t : Text} (hfeed : t.head? ≠ some '\n') (hreturn : t.head? ≠ some '\r') :
    skipNewline t = t := by
  unfold skipNewline newline?
  split
  · simp at hfeed
  · simp at hreturn
  · rfl

/-- What a form may hold is decided before it is chosen. -/
lemma ofText_eq_literal {t : Text} (h : StringForm.ofText t = .literal) :
    ∀ c ∈ t, isPlain c = true ∧ c ≠ '\'' := by
  have hchosen : (!t.any needsEscape && !t.contains '\'' && !t.contains '\n') = true := by
    by_contra hnot
    simp only [StringForm.ofText, if_neg hnot] at h
    repeat' split at h
    all_goals exact absurd h (by decide)
  simp only [Bool.and_eq_true, Bool.not_eq_true', List.any_eq_false, List.contains_eq_mem,
    decide_eq_false_iff_not, Bool.not_eq_true] at hchosen
  obtain ⟨⟨hcontrol, hmark⟩, hfeed⟩ := hchosen
  intro c hc
  refine ⟨(isPlain_or_eq_lineFeed (hcontrol c hc)).resolve_right ?_, ?_⟩
  · rintro rfl
    exact hfeed hc
  · rintro rfl
    exact hmark hc

/-- A literal string of several lines is chosen only if nothing needs an escape and no three
apostrophes meet. -/
lemma ofText_eq_multilineLiteral {t : Text} (h : StringForm.ofText t = .multilineLiteral) :
    (∀ c ∈ t, needsEscape c = false) ∧ longestRun '\'' t ≤ 2 := by
  have hchosen : (!t.any needsEscape && decide (longestRun '\'' t ≤ 2)) = true := by
    by_contra hnot
    simp only [StringForm.ofText, if_neg hnot] at h
    repeat' split at h
    all_goals exact absurd h (by decide)
  simp only [Bool.and_eq_true, Bool.not_eq_true', List.any_eq_false, Bool.not_eq_true,
    decide_eq_true_eq] at hchosen
  exact hchosen

/-- The body of a basic string that is not empty does not begin like its end. -/
lemma head?_basicBody_cons (c : Char) (t rest : Text) :
    (basicBody (c :: t) ++ rest).head? ≠ some '"' := by
  rw [basicBody, List.flatMap_cons]
  split
  · simp
  next hquote =>
  split
  · simp
  next hfeed =>
    rcases escaped_cases hfeed with ⟨hself, -⟩ | ⟨e, he, -⟩
    · simpa [hself] using hquote
    · simp [he]

/-- A string on one line is not taken for one over several lines, unless marks follow it. -/
lemma string?_basic {rest : Text} (hrest : rest.head? ≠ some '"') (t : Text) :
    string? ('"' :: (basicBody t ++ '"' :: rest)) = some (t, rest) := by
  rw [string?.eq_3]
  · exact basicRest_basicBody t rest
  · intro u hu
    rw [List.cons.injEq] at hu
    cases t with
    | nil =>
      rw [basicBody, List.flatMap_nil, List.nil_append, List.cons.injEq] at hu
      exact hrest (by rw [hu.2.2]; rfl)
    | cons c t => exact head?_basicBody_cons c t ('"' :: rest) (by rw [hu.2]; rfl)
  · simp

/-- A text without apostrophes between two of them is read as it stands. -/
lemma string?_literal {t rest : Text} (hrest : rest.head? ≠ some '\'')
    (ht : ∀ c ∈ t, isPlain c = true ∧ c ≠ '\'') :
    string? ('\'' :: (t ++ '\'' :: rest)) = some (t, rest) := by
  rw [string?.eq_3]
  · exact literalRest_append ht rest
  · simp
  · intro u hu
    rw [List.cons.injEq] at hu
    cases t with
    | nil =>
      rw [List.nil_append, List.cons.injEq] at hu
      exact hrest (by rw [hu.2.2]; rfl)
    | cons c t =>
      rw [List.cons_append, List.cons.injEq] at hu
      exact (ht c (by simp)).2 hu.2.1

/-- The line end after the opening marks is there exactly if the text has one. -/
lemma skipNewline_body {t body : Text} (hfeed : '\n' ∉ t → body.head? ≠ some '\n')
    (hreturn : body.head? ≠ some '\r') :
    skipNewline ((if t.contains '\n' then ['\n'] else []) ++ body) = body := by
  split
  · rfl
  next hnone =>
    rw [List.nil_append]
    exact skipNewline_eq_self (hfeed (by simpa using hnone)) hreturn

lemma mem_of_head?_append {t rest : Text} {c d : Char} (h : (t ++ d :: rest).head? = some c) :
    c = d ∨ c ∈ t := by
  cases t with
  | nil => exact Or.inl (by simpa [eq_comm] using h)
  | cons e t => exact Or.inr (by simp [show e = c by simpa using h])

/-- What is not written by a quote or a backslash is a character of the text, and no carriage
return. -/
lemma head?_multilineBody {t rest : Text} {c : Char} (hquote : c ≠ '"') (hbackslash : c ≠ '\\')
    (h : (multilineBody 0 t ++ '"' :: rest).head? = some c) : c ≠ '\r' ∧ c ∈ t := by
  cases t with
  | nil => exact absurd (by simpa [multilineBody] using h) (Ne.symm hquote)
  | cons d t =>
    by_cases hd : d = '"'
    · subst hd
      rw [multilineBody_mark (by omega)] at h
      exact absurd (by simpa using h) (Ne.symm hquote)
    by_cases hfeed : d = '\n'
    · subst hfeed
      rw [multilineBody_lineFeed] at h
      have hc : '\n' = c := by simpa using h
      exact ⟨by simp [← hc], by simp [← hc]⟩
    · rw [multilineBody_other hd hfeed] at h
      rcases escaped_cases hfeed with ⟨hself, -, hreturn, -⟩ | ⟨e, he, -⟩
      · have hc : d = c := by simpa [hself] using h
        exact ⟨by rwa [← hc], by simp [hc]⟩
      · exact absurd (by simpa [he] using h) (Ne.symm hbackslash)

/-- **Strings are read back.** A written text is read as that text, whatever comes after it, as long
as no further mark does. -/
theorem string?_writeString {rest : Text} (hquote : rest.head? ≠ some '"')
    (hmark : rest.head? ≠ some '\'') (t : Text) :
    string? (writeString t ++ rest) = some (t, rest) := by
  unfold writeString
  cases hform : StringForm.ofText t with
  | basic =>
    simpa [enclose] using string?_basic hquote t
  | literal =>
    simpa [enclose] using string?_literal hmark (ofText_eq_literal hform)
  | multilineBasic =>
    have hread := multilineBasicRest_multilineBody hquote t 0 (by omega)
    have hskip : skipNewline ((if t.contains '\n' then ['\n'] else [])
        ++ (multilineBody 0 t ++ '"' :: '"' :: '"' :: rest))
          = multilineBody 0 t ++ '"' :: '"' :: '"' :: rest := by
      apply skipNewline_body
      · intro hnone hhead
        exact hnone (head?_multilineBody (by decide) (by decide) hhead).2
      · intro hhead
        exact (head?_multilineBody (by decide) (by decide) hhead).1 rfl
    rw [← hskip] at hread
    simpa [enclose, string?] using hread
  | multilineLiteral =>
    obtain ⟨hplain, hrun⟩ := ofText_eq_multilineLiteral hform
    have hread := multilineLiteralRest_append hmark
      (fun c hc => isPlain_or_eq_lineFeed (hplain c hc)) hrun
    have hskip : skipNewline ((if t.contains '\n' then ['\n'] else [])
        ++ (t ++ '\'' :: '\'' :: '\'' :: rest)) = t ++ '\'' :: '\'' :: '\'' :: rest := by
      apply skipNewline_body
      · intro hnone hhead
        exact hnone ((mem_of_head?_append hhead).resolve_left (by decide))
      · intro hhead
        have hmem := (mem_of_head?_append hhead).resolve_left (by decide)
        exact absurd (hplain _ hmem) (by decide)
    rw [← hskip] at hread
    simpa [enclose, string?] using hread

end SqlIndent.Toml
