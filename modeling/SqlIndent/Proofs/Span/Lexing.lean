import SqlIndent.Proofs.Span.Neighbours

/-!
# The spans of a text

The spans of a text are described by what can be seen at each of them: its text has the shape of its
kind, it starts where the spans before it end, and it is spaced exactly if a run of blanks stands
right before it. There is exactly one sequence of spans of which all of this is true, the one that
`lex` finds (`lex_eq_iff`).
-/

namespace SqlIndent

open Lexeme

/-- The text that spans make up. -/
def sourceOf (spans : List Span) : Text :=
  spans.flatMap Span.text

@[simp] lemma sourceOf_nil : sourceOf [] = [] := rfl

@[simp] lemma sourceOf_cons (s : Span) (spans : List Span) :
    sourceOf (s :: spans) = s.text ++ sourceOf spans := rfl

lemma sourceOf_concat (spans : List Span) (s : Span) :
    sourceOf (spans ++ [s]) = sourceOf spans ++ s.text := by
  simp [sourceOf]

lemma spelling_map_lexeme (spans : List Span) :
    spelling (spans.map Span.lexeme) = sourceOf spans := by
  rw [spelling, sourceOf, List.flatMap_map]
  rfl

/-! ## The grammar -/

/-- Every closing brace stands right after an opening one. -/
def BracesPaired (t : Text) : Prop :=
  ∀ before after, t = before ++ '}' :: after → before.getLast? = some '{'

/-- What stands between the delimiters of a literal. In a brace literal closing braces stand right
after opening ones only; in the others the closer occurs in pairs only. -/
def IsLiteralBody (d : Delimiter) (body : Text) : Prop :=
  if d = .brace then BracesPaired body else Doubled d.closer body

/-- Where the closer of a literal is not taken for one half of a pair: a closing brace does not pair
up with an opening one before it, and no other closer with one after it. -/
def ClosesAlone (d : Delimiter) (body after : Text) : Prop :=
  if d = .brace then body.getLast? ≠ some '{' else after.head? ≠ some d.closer

/-- A run of characters of a class that cannot be extended. To the left only a comment may end in
such a character, because comments keep their trailing blanks. -/
structure MaximalRun (p : Char → Bool) (before : List Span) (run : Text) (after : List Span) :
    Prop where
  all : ∀ c ∈ run, p c = true
  next : ∀ c ∈ (sourceOf after).head?, p c = false
  previous : ∀ b ∈ before.getLast?, b.kind ≠ .comment → ∀ c ∈ b.text.getLast?, p c = false

/-- The shape of a span of each kind between the spans `before` and `after` it. -/
def Span.HasShape (before after : List Span) (s : Span) : Prop :=
  match s.kind, s.terminated with
  | .literal d, true =>
    ∃ body, s.text = d.opener :: (body ++ [d.closer]) ∧ IsLiteralBody d body ∧
      ClosesAlone d body (sourceOf after)
  | .literal d, false => after = [] ∧ ∃ body, s.text = d.opener :: body ∧ IsLiteralBody d body
  | .comment, true =>
    ∃ body, s.text = '-' :: '-' :: body ∧ (∀ c ∈ body, c ≠ '\n' ∧ c ≠ '\r') ∧
      ∀ c ∈ (sourceOf after).head?, c = '\n' ∨ c = '\r'
  | .word, true => MaximalRun Text.isWordChar before s.text after
  | .blank, true => MaximalRun Text.isBlank before s.text after
  | .punctuation, true =>
    ∃ c, s.text = [c] ∧ Text.isWordChar c = false ∧ Text.isBlank c = false ∧
      (∀ d : Delimiter, c ≠ d.opener) ∧ ¬(c = '-' ∧ (sourceOf after).head? = some '-')
  | _, false => False

/-- What is true of a span between the spans before and after it. -/
structure Span.InPlace (before after : List Span) (s : Span) : Prop where
  nonempty : s.text ≠ []
  start_eq : s.start = (sourceOf before).utf8Length
  spaced_iff : s.spaced = true ↔ ∃ b ∈ before.getLast?, b.kind = .blank
  shape : s.HasShape before after

/-- The spans make up the text, and each of them is in its place. -/
structure IsLexing (t : Text) (spans : List Span) : Prop where
  source_eq : sourceOf spans = t
  inPlace : ∀ before s after, spans = before ++ s :: after → s.InPlace before after

/-! ## Shapes and fitting lexemes -/

/-- The inductive description of a body in braces gives the one by what stands before a closing
brace. -/
lemma Lexeme.Braced.bracesPaired {t : Text} (h : Braced t) : BracesPaired t := by
  induction h with
  | nil =>
    intro before after heq
    simp at heq
  | @plain c t hc _ ih =>
    intro before after heq
    cases before with
    | nil =>
      rw [List.nil_append, List.cons.injEq] at heq
      exact absurd heq.1 hc
    | cons b before =>
      rw [List.cons_append, List.cons.injEq] at heq
      simp [List.getLast?_cons, ih before after heq.2]
  | @pair t _ ih =>
    intro before after heq
    match before with
    | [] => simp at heq
    | [b] =>
      rw [List.cons_append, List.cons.injEq] at heq
      simp [← heq.1]
    | b :: b' :: before =>
      rw [List.cons_append, List.cons_append, List.cons.injEq, List.cons.injEq] at heq
      simp [List.getLast?_cons, ih before after heq.2.2]

/-- Texts in which every closing brace stands right after an opening one are built of pairs of
braces and of single characters. -/
lemma braced_iff {t : Text} : Braced t ↔ BracesPaired t := by
  refine ⟨Braced.bracesPaired, fun h => ?_⟩
  rcases braceBody_cases t with ⟨body, rest, -, hlast, heq, -⟩ | ⟨hbraced, -⟩
  · exact absurd (h body rest heq) hlast
  · exact hbraced

lemma ofOpener?_eq_none_iff {c : Char} :
    Delimiter.ofOpener? c = none ↔ ∀ d : Delimiter, c ≠ d.opener := by
  constructor
  · rintro hnone d rfl
    rw [Delimiter.ofOpener?_opener] at hnone
    exact absurd hnone (by simp)
  · intro hne
    cases hd : Delimiter.ofOpener? c with
    | none => rfl
    | some d => exact absurd (opener_of_ofOpener? hd) (hne d)

lemma isLineEnd_iff {c : Char} : isLineEnd c = true ↔ c = '\n' ∨ c = '\r' := by
  simp [isLineEnd]

lemma isLineEnd_eq_false_iff {c : Char} : isLineEnd c = false ↔ c ≠ '\n' ∧ c ≠ '\r' := by
  simp [isLineEnd]

/-- A closed literal fits where its closer is not taken for one half of a pair. -/
lemma fits_closedLiteral_iff {d : Delimiter} {text after : Text} :
    Fits ⟨.literal d, text, true⟩ after.head? ↔
      ∃ body, text = d.opener :: (body ++ [d.closer]) ∧ IsLiteralBody d body ∧
        ClosesAlone d body after := by
  constructor
  · intro h
    cases h with
    | @doubled _ body _ hd hbody hnext =>
      exact ⟨body, rfl, by rwa [IsLiteralBody, if_neg hd], by rwa [ClosesAlone, if_neg hd]⟩
    | @brace body _ hbody hlast =>
      exact ⟨body, rfl, by rwa [IsLiteralBody, if_pos rfl, ← braced_iff],
        by rwa [ClosesAlone, if_pos rfl]⟩
  · rintro ⟨body, rfl, hbody, hclose⟩
    by_cases hd : d = .brace
    · subst hd
      rw [IsLiteralBody, if_pos rfl, ← braced_iff] at hbody
      rw [ClosesAlone, if_pos rfl] at hclose
      exact .brace hbody hclose
    · rw [IsLiteralBody, if_neg hd] at hbody
      rw [ClosesAlone, if_neg hd] at hclose
      exact .doubled hd hbody hclose

/-- A literal without its closer fits at the end of the text only. -/
lemma fits_openLiteral_iff {d : Delimiter} {text : Text} {next : Option Char} :
    Fits ⟨.literal d, text, false⟩ next ↔
      next = none ∧ ∃ body, text = d.opener :: body ∧ IsLiteralBody d body := by
  constructor
  · intro h
    cases h with
    | @openDoubled _ body hd hbody => exact ⟨rfl, body, rfl, by rwa [IsLiteralBody, if_neg hd]⟩
    | @openBrace body hbody =>
      exact ⟨rfl, body, rfl, by rwa [IsLiteralBody, if_pos rfl, ← braced_iff]⟩
  · rintro ⟨rfl, body, rfl, hbody⟩
    by_cases hd : d = .brace
    · subst hd
      rw [IsLiteralBody, if_pos rfl, ← braced_iff] at hbody
      exact .openBrace hbody
    · rw [IsLiteralBody, if_neg hd] at hbody
      exact .openDoubled hd hbody

/-- A span of the right shape fits before what comes after it. -/
lemma Span.HasShape.fits {before after : List Span} {s : Span} (h : s.HasShape before after)
    (hne : s.text ≠ []) : Fits s.lexeme (sourceOf after).head? := by
  obtain ⟨kind, text, start, spaced, terminated⟩ := s
  unfold Span.HasShape at h
  cases kind with
  | literal d =>
    cases terminated with
    | true => exact fits_closedLiteral_iff.2 h
    | false =>
      obtain ⟨rfl, hbody⟩ := h
      exact fits_openLiteral_iff.2 ⟨rfl, hbody⟩
  | comment =>
    cases terminated with
    | true =>
      obtain ⟨body, rfl, hline, hend⟩ := h
      exact .comment (fun c hc => isLineEnd_eq_false_iff.2 (hline c hc))
        fun c hc => isLineEnd_iff.2 (hend c hc)
    | false => exact h.elim
  | word =>
    cases terminated with
    | true => exact .word hne h.all h.next
    | false => exact h.elim
  | blank =>
    cases terminated with
    | true => exact .blank hne h.all h.next
    | false => exact h.elim
  | punctuation =>
    cases terminated with
    | true =>
      obtain ⟨c, rfl, hword, hblank, hopener, hhyphen⟩ := h
      exact .punctuation (ofOpener?_eq_none_iff.2 hopener) hword hblank
        fun hc hnext => hhyphen ⟨hc, hnext⟩
    | false => exact h.elim

/-- What fits before a word or a run of blanks does not end in a character that belongs to it,
unless it is a comment. -/
lemma Lexeme.Fits.getLast?_before {p : Char → Bool} {x : Lexeme} {next : Char}
    (h : Fits x (some next)) (hcomment : x.kind ≠ .comment) (hnext : p next = true)
    (hp : p = Text.isWordChar ∨ p = Text.isBlank) : ∀ c ∈ x.text.getLast?, p c = false := by
  intro c hc
  cases h with
  | @doubled d body _ _ _ _ =>
    rw [← List.cons_append, List.getLast?_concat, Option.mem_def, Option.some.injEq] at hc
    rcases hp with rfl | rfl <;> cases d <;> subst hc <;> decide +kernel
  | @brace body _ _ _ =>
    rw [← List.cons_append, List.getLast?_concat, Option.mem_def, Option.some.injEq] at hc
    rcases hp with rfl | rfl <;> subst hc <;> decide +kernel
  | comment _ _ => exact absurd rfl hcomment
  | word _ ht hend =>
    have hword : Text.isWordChar c = true := ht c (List.mem_of_getLast? hc)
    rcases hp with rfl | rfl
    · exact absurd hnext (by simp [hend next rfl])
    · exact Text.isBlank_eq_false_of_isPlain (Text.isPlain_of_isWordChar hword)
  | blank _ ht hend =>
    have hblank : Text.isBlank c = true := ht c (List.mem_of_getLast? hc)
    rcases hp with rfl | rfl
    · exact Text.isWordChar_eq_false_of_isBlank hblank
    · exact absurd hnext (by simp [hend next rfl])
  | @punctuation d _ _ hword hblank _ =>
    have hd : c = d := by simpa [eq_comm] using hc
    subst hd
    rcases hp with rfl | rfl
    · exact hword
    · exact hblank

/-- A run that fits is maximal, if what comes before it fits before it. -/
lemma maximalRun_of_fits {p : Char → Bool} (hp : p = Text.isWordChar ∨ p = Text.isBlank)
    {before after : List Span} {run : Text} (hne : run ≠ [])
    (hbefore : ∀ b ∈ before.getLast?, Fits b.lexeme run.head?)
    (hall : ∀ c ∈ run, p c = true) (hnext : ∀ c ∈ (sourceOf after).head?, p c = false) :
    MaximalRun p before run after where
  all := hall
  next := hnext
  previous b hb hcomment := by
    obtain ⟨c, t, rfl⟩ := List.exists_cons_of_ne_nil hne
    exact (hbefore b hb).getLast?_before hcomment (hall c (by simp)) hp

/-- A span that fits before what comes after it, and before which the previous one fits, has the
shape of its kind. -/
lemma hasShape_of_fits {before after : List Span} {s : Span}
    (h : Fits s.lexeme (sourceOf after).head?)
    (hbefore : ∀ b ∈ before.getLast?, Fits b.lexeme s.text.head?)
    (hafter : ∀ a ∈ after, a.text ≠ []) : s.HasShape before after := by
  have hne : s.text ≠ [] := h.text_ne_nil
  obtain ⟨kind, text, start, spaced, terminated⟩ := s
  change Fits ⟨kind, text, terminated⟩ _ at h
  unfold Span.HasShape
  cases kind with
  | literal d =>
    cases terminated with
    | true => exact fits_closedLiteral_iff.1 h
    | false =>
      obtain ⟨hnone, hbody⟩ := fits_openLiteral_iff.1 h
      refine ⟨?_, hbody⟩
      -- nothing follows, and spans are not empty
      cases after with
      | nil => rfl
      | cons a after =>
        obtain ⟨c, t, hc⟩ := List.exists_cons_of_ne_nil (hafter a (by simp))
        simp [hc] at hnone
  | comment =>
    obtain ⟨hterm, ⟨body, htext, hline⟩, hend⟩ := h.comment_shape rfl
    obtain rfl : terminated = true := hterm
    exact ⟨body, htext, fun c hc => isLineEnd_eq_false_iff.1 (hline c hc),
      fun c hc => isLineEnd_iff.1 (hend c hc)⟩
  | word =>
    obtain ⟨-, hall, hend⟩ := h.word_shape rfl
    cases h
    exact maximalRun_of_fits (Or.inl rfl) hne hbefore hall hend
  | blank =>
    obtain ⟨-, hall, hend⟩ := h.blank_shape rfl
    cases h
    exact maximalRun_of_fits (Or.inr rfl) hne hbefore hall hend
  | punctuation =>
    cases h with
    | @punctuation c _ hopener hword hblank hhyphen =>
      exact ⟨c, rfl, hword, hblank, ofOpener?_eq_none_iff.1 hopener,
        fun hboth => hhyphen hboth.1 hboth.2⟩

/-! ## Located lexemes -/

/-- Whether blanks come right before what follows the given spans, where `spaced` tells it of the
first one. -/
def spacedAfter (spaced : Bool) (before : List Span) : Bool :=
  (before.getLast?.map (·.kind == .blank)).getD spaced

lemma spacedAfter_cons (spaced : Bool) (s : Span) (before : List Span) :
    spacedAfter spaced (s :: before) = spacedAfter (s.kind == .blank) before := by
  cases h : before.getLast? <;> simp [spacedAfter, List.getLast?_cons, h]

/-- Located lexemes start where those before them end. -/
lemma locate_eq_append {xs : List Lexeme} {start : Nat} {spaced : Bool} {before after : List Span}
    {s : Span} (h : locate start spaced xs = before ++ s :: after) :
    s.start = start + (sourceOf before).utf8Length ∧ s.spaced = spacedAfter spaced before := by
  induction before generalizing xs start spaced with
  | nil =>
    cases xs with
    | nil => simp [locate] at h
    | cons x xs =>
      rw [locate, List.nil_append, List.cons.injEq] at h
      simp [← h.1, spacedAfter]
  | cons b before ih =>
    cases xs with
    | nil => simp [locate] at h
    | cons x xs =>
      rw [locate, List.cons_append, List.cons.injEq] at h
      obtain ⟨hstart, hspaced⟩ := ih h.2
      rw [spacedAfter_cons, hstart, hspaced, ← h.1]
      simp [Nat.add_assoc]

/-- Spans that start where those before them end are their located lexemes. -/
lemma locate_map_lexeme {before spans : List Span}
    (h : ∀ u s v, spans = u ++ s :: v → s.start = (sourceOf (before ++ u)).utf8Length ∧
      s.spaced = spacedAfter false (before ++ u)) :
    locate (sourceOf before).utf8Length (spacedAfter false before) (spans.map Span.lexeme)
      = spans := by
  induction spans generalizing before with
  | nil => rfl
  | cons s spans ih =>
    obtain ⟨hstart, hspaced⟩ := h [] s spans rfl
    rw [List.append_nil] at hstart hspaced
    have hrest := @ih (before ++ [s]) (fun u r v heq => by
      have hr := h (s :: u) r v (by rw [heq]; rfl)
      rwa [List.append_assoc])
    have hnext : spacedAfter false (before ++ [s]) = (s.kind == .blank) := by
      simp [spacedAfter]
    rw [hnext, sourceOf_concat, Text.utf8Length_append] at hrest
    rw [List.map_cons, locate, Span.lexeme_kind, Span.lexeme_text, hrest, ← hstart, ← hspaced]
    rfl

/-! ## Existence and uniqueness -/

lemma Cut.of_append {xs ys : List Lexeme} (h : Cut (xs ++ ys)) : Cut ys := by
  induction xs with
  | nil => exact h
  | cons x xs ih => exact ih h.2

/-- No lexeme of a cut is empty, so each takes a part of the text. -/
lemma Cut.text_ne_nil {xs : List Lexeme} (h : Cut xs) : ∀ x ∈ xs, x.text ≠ [] := by
  intro x hx
  obtain ⟨ys, zs, rfl⟩ := List.append_of_mem hx
  exact h.of_append.1.text_ne_nil

lemma map_lexeme_lex (t : Text) : (lex t).map Span.lexeme = lexemes t :=
  map_lexeme_locate 0 false (lexemes t)

/-- Blanks stand right before a place just if the last span before it is blank. -/
lemma spacedAfter_false_iff {before : List Span} :
    spacedAfter false before = true ↔ ∃ b ∈ before.getLast?, b.kind = .blank := by
  cases h : before.getLast? <;> simp [spacedAfter, h]

/-- Every span that `lex` finds is in its place. -/
lemma inPlace_of_lex_eq {t : Text} {before after : List Span} {s : Span}
    (h : lex t = before ++ s :: after) : s.InPlace before after := by
  have hmap := map_lexeme_lex t
  rw [h, List.map_append, List.map_cons] at hmap
  have hcut : Cut (before.map Span.lexeme ++ s.lexeme :: after.map Span.lexeme) :=
    hmap ▸ cut_lexemes t
  have hfits : Fits s.lexeme (sourceOf after).head? := by
    rw [← spelling_map_lexeme]
    exact hcut.of_append.1
  obtain ⟨hstart, hspaced⟩ := locate_eq_append h
  refine ⟨hfits.text_ne_nil, by rw [hstart, Nat.zero_add], ?_, hasShape_of_fits hfits ?_ ?_⟩
  · rw [hspaced, spacedAfter_false_iff]
  · intro b hb
    -- the span right before `s` fits before the text from `s` on, which starts as `s` does
    obtain ⟨first, rfl⟩ := List.getLast?_eq_some_iff.1 (Option.mem_def.1 hb)
    rw [List.map_append, List.map_singleton, List.append_assoc] at hcut
    have hprevious := hcut.of_append
    have hhead := head?_spelling_cons hprevious.2
    exact hhead ▸ hprevious.1
  · intro a ha
    exact hcut.text_ne_nil a.lexeme (by simp [List.mem_map_of_mem ha])

/-- Spans that are all in their places are cut as `lex` cuts. -/
lemma cut_of_inPlace {spans : List Span}
    (h : ∀ before s after, spans = before ++ s :: after → s.InPlace before after) :
    Cut (spans.map Span.lexeme) := by
  have hsuffix : ∀ before after, spans = before ++ after → Cut (after.map Span.lexeme) := by
    intro before after heq
    induction after generalizing before with
    | nil => trivial
    | cons s after ih =>
      have hplace := h before s after heq
      refine ⟨?_, ih (before ++ [s]) (by rw [heq, List.append_assoc]; rfl)⟩
      rw [spelling_map_lexeme]
      exact hplace.shape.fits hplace.nonempty
  exact hsuffix [] spans rfl

/-- **The spans of a text.** `lex` finds the one sequence of spans that make up the text and are all
in their places: each starts where those before it end, is spaced exactly after a run of blanks,
and has the shape of its kind. -/
theorem lex_eq_iff (t : Text) (spans : List Span) : lex t = spans ↔ IsLexing t spans := by
  constructor
  · rintro rfl
    refine ⟨?_, fun before s after => inPlace_of_lex_eq⟩
    rw [← spelling_map_lexeme, map_lexeme_lex, spelling_lexemes]
  · rintro ⟨rfl, hplace⟩
    have hlexemes : lexemes (sourceOf spans) = spans.map Span.lexeme := by
      rw [lexemes_eq_iff, spelling_map_lexeme]
      exact ⟨rfl, cut_of_inPlace hplace⟩
    have hlocated := @locate_map_lexeme [] spans fun u s v heq => by
      have hs := hplace u s v heq
      refine ⟨hs.start_eq, ?_⟩
      rw [Bool.eq_iff_iff, hs.spaced_iff, List.nil_append, spacedAfter_false_iff]
    rw [lex, hlexemes]
    exact hlocated

/-- A doubled closer, a pair of braces and a third hyphen at the end of a text. -/
example : ["'''", "\x7b\x7b\x7d", "[]]", "---"].map
      (fun t => (lex t.toList).map fun s => (s.kind, s.text.length, s.terminated))
    = [[(.literal .single, 3, false)], [(.literal .brace, 3, false)],
       [(.literal .bracket, 3, false)], [(.comment, 3, true)]] := by
  decide +kernel

end SqlIndent
