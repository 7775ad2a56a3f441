import Mathlib.Data.List.Forall2
import SqlIndent.Glob
import SqlIndent.Proofs.Path

/-!
# Which paths a pattern spells

A pattern is compared with paths, whatever stands at the end of them. Its parts are gone through from
left to right: a name is put after the path so far as it is, a part with wildcards stands for a name
or for dots, and `**` with the part after it stands for names on the way down. So a pattern spells a
set of paths from the root or from the working directory on (`Glob.Matches`), told without a
directory tree. Wildcards stand for a text if it can be cut into one piece for each of them
(`matchTokens_iff_standFor`).
-/

namespace SqlIndent

namespace Glob

/-! ## Wildcards -/

/-- What a token may stand for: a star for any piece of text, another token for one character. -/
def Token.StandsFor (piece : Text) : Token → Prop
  | .anyChars => True
  | token => ∃ c, piece = [c] ∧ token.accepts c = true

/-- Tokens stand for a text that can be cut into one piece for each of them. -/
def StandFor (tokens : List Token) (t : Text) : Prop :=
  ∃ pieces, List.Forall₂ (fun token piece => token.StandsFor piece) tokens pieces ∧
    pieces.flatten = t

/-- A token other than `*` stands for one character that it accepts. -/
lemma standsFor_iff {token : Token} (h : token ≠ .anyChars) {piece : Text} :
    token.StandsFor piece ↔ ∃ c, piece = [c] ∧ token.accepts c = true := by
  cases token with
  | anyChars => exact absurd rfl h
  | _ => rfl

lemma standFor_nil {t : Text} : StandFor [] t ↔ t = [] := by
  constructor
  · rintro ⟨pieces, hpieces, rfl⟩
    rw [List.forall₂_nil_left_iff.1 hpieces]
    rfl
  · rintro rfl
    exact ⟨[], .nil, rfl⟩

/-- The first token takes a piece from the beginning. -/
lemma standFor_cons {token : Token} {tokens : List Token} {t : Text} :
    StandFor (token :: tokens) t ↔
      ∃ piece rest, t = piece ++ rest ∧ token.StandsFor piece ∧ StandFor tokens rest := by
  constructor
  · rintro ⟨pieces, hpieces, rfl⟩
    obtain ⟨piece, pieces, hpiece, htokens, rfl⟩ := List.forall₂_cons_left_iff.1 hpieces
    exact ⟨piece, pieces.flatten, rfl, hpiece, pieces, htokens, rfl⟩
  · rintro ⟨piece, rest, rfl, hpiece, pieces, htokens, rfl⟩
    exact ⟨piece :: pieces, .cons hpiece htokens, rfl⟩

/-- A `*` matches some beginning of a text, and the other tokens match the rest. -/
lemma matchTokens_anyChars_iff {tokens : List Token} {t : Text} :
    matchTokens (.anyChars :: tokens) t = true ↔
      ∃ piece rest, t = piece ++ rest ∧ matchTokens tokens rest = true := by
  induction t with
  | nil =>
    rw [matchTokens_anyChars_nil]
    constructor
    · exact fun h => ⟨[], [], rfl, h⟩
    · rintro ⟨piece, rest, hnil, h⟩
      rwa [(List.append_eq_nil_iff.1 hnil.symm).2] at h
  | cons c t ih =>
    rw [matchTokens_anyChars_cons, Bool.or_eq_true, ih]
    constructor
    · rintro (h | ⟨piece, rest, rfl, h⟩)
      · exact ⟨[], c :: t, rfl, h⟩
      · exact ⟨c :: piece, rest, rfl, h⟩
    · rintro ⟨piece, rest, hsplit, h⟩
      cases piece with
      | nil =>
        rw [List.nil_append] at hsplit
        exact Or.inl (hsplit ▸ h)
      | cons d piece =>
        rw [List.cons_append, List.cons.injEq] at hsplit
        exact Or.inr ⟨piece, rest, hsplit.2, h⟩

/-- A token other than `*` matches the first character, and the other tokens match the rest. -/
lemma matchTokens_cons_iff {token : Token} (h : token ≠ .anyChars) {tokens : List Token}
    {t : Text} :
    matchTokens (token :: tokens) t = true ↔
      ∃ c rest, t = c :: rest ∧ token.accepts c = true ∧ matchTokens tokens rest = true := by
  cases t with
  | nil => simp [matchTokens_cons_nil h]
  | cons c t =>
    rw [matchTokens_cons_cons h, Bool.and_eq_true]
    constructor
    · exact fun hc => ⟨c, t, rfl, hc⟩
    · rintro ⟨d, rest, hsplit, hd⟩
      obtain ⟨rfl, rfl⟩ := List.cons.inj hsplit
      exact hd

/-- **Tokens match just the texts that they stand for.** -/
theorem matchTokens_iff_standFor {tokens : List Token} {t : Text} :
    matchTokens tokens t = true ↔ StandFor tokens t := by
  induction tokens generalizing t with
  | nil => rw [matchTokens_nil, List.isEmpty_iff, standFor_nil]
  | cons token tokens ih =>
    rw [standFor_cons]
    by_cases h : token = .anyChars
    · subst h
      rw [matchTokens_anyChars_iff]
      simp only [ih, Token.StandsFor, true_and]
    · rw [matchTokens_cons_iff h]
      constructor
      · rintro ⟨c, rest, rfl, hc, hrest⟩
        exact ⟨[c], rest, rfl, (standsFor_iff h).2 ⟨c, rfl, hc⟩, ih.1 hrest⟩
      · rintro ⟨piece, rest, rfl, hpiece, hrest⟩
        obtain ⟨c, rfl, hc⟩ := (standsFor_iff h).1 hpiece
        exact ⟨c, rest, rfl, hc, ih.2 hrest⟩

/-! ## Parts -/

/-- The names that a part stands for. By itself `**` stands for none. -/
def Part.Names (name : Text) : Part → Prop
  | .name text => name = text
  | .wild tokens => StandFor tokens name
  | .anyDepth => False

/-- The test of a name agrees with what a part other than `**` means. -/
lemma accepts_iff_names {part : Part} (h : part ≠ .anyDepth) {name : Text} :
    part.accepts name = true ↔ part.Names name := by
  cases part with
  | name text => exact beq_iff_eq
  | wild tokens => exact matchTokens_iff_standFor
  | anyDepth => exact absurd rfl h

/-- The parts of a pattern, put after a path, spell another one. Where a part is not a name of a
file or directory, the path up to there is looked up, so it has to be one that may lead somewhere. At
the end of a pattern `**` stands for directories only; so no path to a file is spelled by it. -/
inductive Spells : List Part → Text → Text → Prop
  | done (p : Text) : Spells [] p p
  /-- A name stands for itself, and so do dots, and the empty part between two slashes. -/
  | name {text p q : Text} {parts : List Part}
      (hlead : Path.MayLead (Path.join (Path.withoutHere p) text))
      (hrest : Spells parts (Path.join (Path.withoutHere p) text) q) :
      Spells (.name text :: parts) p q
  /-- Wildcards stand for names. -/
  | wild {tokens : List Token} {name p q : Text} {parts : List Part}
      (hname : Path.isName name = true) (htokens : StandFor tokens name)
      (hrest : Spells parts (Path.join (Path.withoutHere p) name) q) :
      Spells (.wild tokens :: parts) p q
  /-- Wildcards stand for dots only after a dot. -/
  | dots {tokens : List Token} {dots p q : Text} {parts : List Part}
      (hdots : dots ∈ [Path.above, Path.here]) (hdot : tokens.head? = some (.char '.'))
      (htokens : StandFor tokens dots) (hlead : Path.MayLead (Path.join p dots))
      (hrest : Spells parts (Path.join p dots) q) :
      Spells (.wild tokens :: parts) p q
  /-- After `**` there are any names on the way down, then a name for the next part. -/
  | anyDepth {part : Part} {names : List Text} {name p q : Text} {parts : List Part}
      (hnames : ∀ n ∈ names ++ [name], Path.isName n = true) (hpart : part.Names name)
      (hrest : Spells parts (Path.joinAll (Path.withoutHere p) (names ++ [name])) q) :
      Spells (.anyDepth :: part :: parts) p q
  /-- A second `**` right after the first adds nothing. -/
  | again {p q : Text} {parts : List Part} (hrest : Spells (.anyDepth :: parts) p q) :
      Spells (.anyDepth :: .anyDepth :: parts) p q

lemma getLast?_cons_cases {part last : Part} {parts : List Part}
    (h : (part :: parts).getLast? = some last) :
    parts = [] ∧ part = last ∨ parts.getLast? = some last := by
  cases parts with
  | nil => exact Or.inl ⟨rfl, by simpa using h⟩
  | cons next parts => exact Or.inr (by rwa [List.getLast?_cons_cons] at h)

/-- The last part of a pattern that ends in a slash is empty, and leaves the slash at the end of what
is spelled. -/
lemma Spells.getLast? {parts : List Part} {p q : Text} (h : Spells parts p q)
    (hlast : parts.getLast? = some (.name [])) : q.getLast? = some '/' := by
  induction h with
  | done p => simp at hlast
  | name hlead hrest ih =>
    rcases getLast?_cons_cases hlast with ⟨rfl, hpart⟩ | hlast
    · rw [Part.name.injEq] at hpart
      subst hpart
      cases hrest
      exact Path.getLast?_join_nil hlead.1
    · exact ih hlast
  | wild _ _ _ ih | dots _ _ _ _ _ ih =>
    rcases getLast?_cons_cases hlast with ⟨-, hpart⟩ | hlast
    · simp at hpart
    · exact ih hlast
  | anyDepth hnames hpart _ ih =>
    rw [List.getLast?_cons_cons] at hlast
    rcases getLast?_cons_cases hlast with ⟨-, rfl⟩ | hlast
    · -- the part after `**` stands for a name, and no name is empty
      exact absurd hpart (Path.ne_nil_of_isName (hnames _ (by simp)))
    · exact ih hlast
  | again _ ih => exact ih (by rwa [List.getLast?_cons_cons] at hlast)

/-! ## Patterns -/

/-- Whether every part of a pattern can be read. -/
def IsValid (pattern : Text) : Prop :=
  ∀ text ∈ texts pattern, (part? text).isSome = true

/-- Whether a path matches a pattern: the parts of the pattern spell it from where the pattern
starts. -/
def Matches (pattern path : Text) : Prop :=
  ∃ parts, List.Forall₂ (fun text part => part? text = some part) (texts pattern) parts ∧
    Spells parts (start pattern) path

lemma mapM_part?_eq_some_iff {texts : List Text} {parts : List Part} :
    texts.mapM part? = some parts ↔
      List.Forall₂ (fun text part => part? text = some part) texts parts := by
  induction texts generalizing parts with
  | nil => simp [eq_comm]
  | cons text texts ih =>
    simp only [List.mapM_cons, Option.bind_eq_bind, Option.bind_eq_some_iff, ih,
      List.forall₂_cons_left_iff, Option.pure_def, Option.some.injEq]
    constructor
    · rintro ⟨part, hpart, rest, hrest, rfl⟩
      exact ⟨part, rest, hpart, hrest, rfl⟩
    · rintro ⟨part, rest, hpart, hrest, rfl⟩
      exact ⟨part, hpart, rest, hrest, rfl⟩

/-- A pattern is read just if it is not empty, does not end in a slash, and each of its parts is
read. -/
lemma parse?_eq_some_iff {pattern : Text} {parts : List Part} :
    parse? pattern = some parts ↔
      (pattern ≠ [] ∧ pattern.getLast? ≠ some '/') ∧
        List.Forall₂ (fun text part => part? text = some part) (texts pattern) parts := by
  rw [parse?, ← mapM_part?_eq_some_iff]
  split
  next h =>
    simp only [Bool.or_eq_true, List.isEmpty_iff, beq_iff_eq] at h
    simp only [reduceCtorEq, false_iff, not_and, and_imp]
    intro hne hslash
    simp [hne, hslash] at h
  next h =>
    rw [Bool.not_eq_true, Bool.or_eq_false_iff, List.isEmpty_eq_false_iff,
      beq_eq_false_iff_ne] at h
    exact (and_iff_right h).symm

@[simp] lemma part?_nil : part? [] = some (.name []) := by
  simp [part?, tokens?, plainText?]

/-- Only a pattern that can be read is matched. -/
lemma Matches.isValid {pattern path : Text} (h : Matches pattern path) : IsValid pattern := by
  obtain ⟨parts, hparts, -⟩ := h
  intro text htext
  obtain ⟨i, hi, rfl⟩ := List.mem_iff_getElem.1 htext
  exact Option.isSome_of_eq_some ((List.forall₂_iff_get.1 hparts).2 i hi (hparts.length_eq ▸ hi))

/-- The empty pattern is not matched. -/
lemma Matches.ne_nil {pattern path : Text} (h : Matches pattern path) : pattern ≠ [] := by
  rintro rfl
  obtain ⟨parts, hparts, hspells⟩ := h
  obtain ⟨part, parts, hpart, -, rfl⟩ := List.forall₂_cons_left_iff.1 hparts
  rw [part?_nil] at hpart
  obtain rfl := Option.some.inj hpart
  cases hspells with
  | name hlead _ => exact hlead.1 rfl

/-- The last part of a pattern that ends in a slash is empty. -/
lemma exists_texts_of_getLast? {pattern : Text} (hslash : pattern.getLast? = some '/') :
    ∃ before, texts pattern = before ++ [[]] := by
  have hparts : ∀ p : Text, p = [] ∨ p.getLast? = some '/' →
      ∃ before, Path.parts p = before ++ [[]] := by
    rintro p (rfl | hp)
    · exact ⟨[], rfl⟩
    · obtain ⟨before, rfl⟩ := List.getLast?_eq_some_iff.1 hp
      exact ⟨Path.parts before, Path.parts_append_slash before []⟩
  unfold texts
  split
  next habsolute =>
    obtain ⟨rest, rfl⟩ := List.head?_eq_some_iff.1 (beq_iff_eq.1 habsolute)
    refine hparts rest ?_
    cases rest with
    | nil => exact Or.inl rfl
    | cons c rest => exact Or.inr (by rwa [List.getLast?_cons_cons] at hslash)
  next => exact hparts pattern (Or.inr hslash)

/-- A pattern that ends in a slash is matched only by paths that do. -/
lemma Matches.getLast? {pattern path : Text} (h : Matches pattern path)
    (hslash : pattern.getLast? = some '/') : path.getLast? = some '/' := by
  obtain ⟨parts, hparts, hspells⟩ := h
  obtain ⟨before, htexts⟩ := exists_texts_of_getLast? hslash
  rw [htexts] at hparts
  have hreverse := List.forall₂_reverse_iff.2 hparts
  rw [List.reverse_append, List.reverse_singleton, List.singleton_append] at hreverse
  obtain ⟨part, rest, hpart, -, hrest⟩ := List.forall₂_cons_left_iff.1 hreverse
  rw [part?_nil] at hpart
  obtain rfl := Option.some.inj hpart
  exact hspells.getLast? (by rw [← List.head?_reverse, hrest, List.head?_cons])

end Glob
end SqlIndent
