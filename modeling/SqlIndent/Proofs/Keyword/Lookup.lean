import SqlIndent.Layout
import SqlIndent.Proofs.Keyword.Canonical

/-!
# What a keyword set tells of its word lists

Of the lists from which a keyword set is built, only the keys of their words are kept: neither the
order of the words nor how often or in which spelling they stand there, and no blank word. A key is
looked up with success if a word of the list has it, with one exception: `END` opens no block. So
lists with the same keys give equal sets, and with these the same formatted texts
(`keywords_told_by_keys`).
-/

namespace SqlIndent

/-- A key that a word of the list has. The empty key, which blank words have, does not count. -/
def IsKeyAmong (ws : List Text) (key : Text) : Prop :=
  key ≠ [] ∧ ∃ w ∈ ws, w.key = key

/-- Lists whose words have the same keys. -/
structure KeywordLists.SameKeys (lists others : KeywordLists) : Prop where
  keywords : ∀ key, IsKeyAmong lists.keywords key ↔ IsKeyAmong others.keywords key
  indent : ∀ key, IsKeyAmong lists.indent key ↔ IsKeyAmong others.indent key
  newline : ∀ key, IsKeyAmong lists.newline key ↔ IsKeyAmong others.newline key

/-! ## Sets of words -/

namespace WordSet

/-- A set made of words is asked by their keys. -/
lemma contains_ofWords {ws : List Text} {key : Text} :
    (ofWords ws).contains key = true ↔ IsKeyAmong ws key :=
  contains_iff.trans mem_ofWords

/-- Words that give equal sets have the same keys. -/
lemma isKeyAmong_congr {ws vs : List Text} (h : ofWords ws = ofWords vs) (key : Text) :
    IsKeyAmong ws key ↔ IsKeyAmong vs key := by
  rw [← contains_ofWords, h, contains_ofWords]

lemma contains_erase {s : WordSet} {key w : Text} :
    (s.erase w).contains key = true ↔ key ≠ w ∧ s.contains key = true := by
  rw [contains_iff, mem_toList_erase, contains_iff, and_comm]

/-- A set is settled by what it contains. -/
lemma ext_of_contains {s t : WordSet}
    (h : ∀ key, s.contains key = true ↔ t.contains key = true) : s = t := by
  apply ext_of_mem
  intro key
  rw [← contains_iff, h, contains_iff]

/-- A key that is a member is trimmed and upper-cased already. -/
lemma IsKeyed.trim_upper {s : WordSet} (h : s.IsKeyed) {w : Text} (hw : w ∈ s.toList) :
    w ≠ [] ∧ Text.trim w = w ∧ w.upper = w := by
  obtain ⟨hne, hkey⟩ := h w hw
  have htrim : Text.trim w.key = w.key := Text.trim_upper_trim w
  have hupper : w.key.upper = w.key := Text.upper_upper (Text.trim w)
  rw [hkey] at htrim hupper
  exact ⟨hne, htrim, hupper⟩

end WordSet

/-! ## Keyword sets -/

namespace KeywordSet

variable {lists others : KeywordLists} {key : Text}

/-- A word is a keyword just if its key is among those of the first list. -/
lemma isKeyword_ofLists :
    (ofLists lists).isKeyword key = true ↔ IsKeyAmong lists.keywords key :=
  WordSet.contains_ofWords

/-- A word starts a new line just if its key is among those of the third list. -/
lemma isNewline_ofLists :
    (ofLists lists).isNewline key = true ↔ IsKeyAmong lists.newline key :=
  WordSet.contains_ofWords

/-- `END` opens no block, in whatever spelling it is given. -/
lemma isIndent_ofLists :
    (ofLists lists).isIndent key = true ↔ key ≠ dedentKey ∧ IsKeyAmong lists.indent key :=
  WordSet.contains_erase.trans (and_congr_right fun _ => WordSet.contains_ofWords)

/-- Keyword sets are equal if every key is looked up in them alike. -/
lemma ext_of_lookups {s t : KeywordSet}
    (hkeywords : ∀ key, s.isKeyword key = true ↔ t.isKeyword key = true)
    (hindent : ∀ key, s.isIndent key = true ↔ t.isIndent key = true)
    (hnewline : ∀ key, s.isNewline key = true ↔ t.isNewline key = true) : s = t := by
  obtain ⟨keywords, indent, newline, _⟩ := s
  obtain ⟨keywords', indent', newline', _⟩ := t
  rw [mk.injEq]
  exact ⟨WordSet.ext_of_contains hkeywords, WordSet.ext_of_contains hindent,
    WordSet.ext_of_contains hnewline⟩

/-- Lists give equal sets just if their words have the same keys, `END` left aside among the words
that open a block. -/
theorem ofLists_eq_iff :
    ofLists lists = ofLists others ↔
      (∀ key, IsKeyAmong lists.keywords key ↔ IsKeyAmong others.keywords key) ∧
      (∀ key, key ≠ dedentKey →
        (IsKeyAmong lists.indent key ↔ IsKeyAmong others.indent key)) ∧
      ∀ key, IsKeyAmong lists.newline key ↔ IsKeyAmong others.newline key := by
  constructor
  · intro heq
    refine ⟨fun key => ?_, fun key hkey => ?_, fun key => ?_⟩
    · rw [← isKeyword_ofLists, heq, isKeyword_ofLists]
    · have hindent := @isIndent_ofLists lists key
      rw [heq, isIndent_ofLists] at hindent
      simpa [hkey] using hindent.symm
    · rw [← isNewline_ofLists, heq, isNewline_ofLists]
  · rintro ⟨hkeywords, hindent, hnewline⟩
    refine ext_of_lookups (fun key => ?_) (fun key => ?_) fun key => ?_
    · rw [isKeyword_ofLists, hkeywords, isKeyword_ofLists]
    · rw [isIndent_ofLists, isIndent_ofLists]
      exact and_congr_right (hindent key)
    · rw [isNewline_ofLists, hnewline, isNewline_ofLists]

/-- The lists of a set are in increasing order, and their words are trimmed and upper-cased. -/
lemma canonical_toLists (lists : KeywordLists) :
    ∀ words ∈ [(ofLists lists).toLists.keywords, (ofLists lists).toLists.indent,
        (ofLists lists).toLists.newline],
      words.Pairwise (· < ·) ∧
        ∀ w ∈ words, w ≠ [] ∧ Text.trim w = w ∧ w.upper = w := by
  have hcanonical : ∀ s : WordSet, s.IsKeyed →
      s.toList.Pairwise (· < ·) ∧ ∀ w ∈ s.toList, w ≠ [] ∧ Text.trim w = w ∧ w.upper = w :=
    fun s hs => ⟨s.increasing, fun w hw => hs.trim_upper hw⟩
  intro words hwords
  simp only [List.mem_cons, List.not_mem_nil, or_false] at hwords
  rcases hwords with rfl | rfl | rfl
  · exact hcanonical _ (WordSet.isKeyed_ofWords lists.keywords)
  · exact hcanonical _ ((WordSet.isKeyed_ofWords lists.indent).erase dedentKey)
  · exact hcanonical _ (WordSet.isKeyed_ofWords lists.newline)

end KeywordSet

/-- **Keys tell a keyword set.** The key of a text is found if a word of the list has the same key
and it is not empty; as a word that opens a block `END` is never found. The lists of the set are
strictly increasing lists of trimmed, upper-cased words that are not empty, and they describe the
set itself. Lists with the same keys give equal sets, and so the same formatted texts. -/
theorem keywords_told_by_keys (lists : KeywordLists) :
    let set := KeywordSet.ofLists lists
    (∀ t : Text,
      (set.isKeyword t.key = true ↔ t.key ≠ [] ∧ ∃ w ∈ lists.keywords, w.key = t.key) ∧
      (set.isNewline t.key = true ↔ t.key ≠ [] ∧ ∃ w ∈ lists.newline, w.key = t.key) ∧
      (set.isIndent t.key = true ↔
        t.key ≠ dedentKey ∧ t.key ≠ [] ∧ ∃ w ∈ lists.indent, w.key = t.key)) ∧
    (∀ words ∈ [set.toLists.keywords, set.toLists.indent, set.toLists.newline],
      words.Pairwise (· < ·) ∧ ∀ w ∈ words, w ≠ [] ∧ Text.trim w = w ∧ w.upper = w) ∧
    KeywordSet.ofLists set.toLists = set ∧
    ∀ others : KeywordLists, lists.SameKeys others →
      KeywordSet.ofLists others = set ∧
      ∀ (options : Options) (source : Text),
        format options (KeywordSet.ofLists others) source = format options set source := by
  intro set
  refine ⟨fun t => ?_, KeywordSet.canonical_toLists lists,
    KeywordSet.ofLists_toLists_ofLists lists, fun others hkeys => ?_⟩
  · exact ⟨KeywordSet.isKeyword_ofLists, KeywordSet.isNewline_ofLists,
      KeywordSet.isIndent_ofLists⟩
  · have hset : KeywordSet.ofLists others = set :=
      (KeywordSet.ofLists_eq_iff.2 ⟨hkeys.keywords, fun key _ => hkeys.indent key,
        hkeys.newline⟩).symm
    exact ⟨hset, fun options source => by rw [hset]⟩

/-- Two lists with the same keys: a sharp s against two letters, a ligature against its letters,
blanks around words, blank words, and two spellings of `END`, which indents in neither. -/
theorem keywords_told_by_keys_spellings :
    let lists : KeywordLists :=
      { keywords := ["Select".toList], indent := [" stra\u00dfe".toList, "end".toList],
        newline := ["\ufb01".toList, "go".toList, "".toList] }
    let others : KeywordLists :=
      { keywords := ["SELECT\t".toList, "select".toList],
        indent := ["End ".toList, "\u3000".toList, "STRASSE".toList],
        newline := ["Go".toList, "fi".toList] }
    lists.SameKeys others ∧
      KeywordSet.ofLists others = KeywordSet.ofLists lists ∧
      format {} (KeywordSet.ofLists others) "x go y".toList = "X\nGO Y".toList ∧
      (KeywordSet.ofLists lists).isIndent (Text.key "strasse".toList) = true ∧
      (KeywordSet.ofLists lists).isIndent (Text.key " End".toList) = false := by
  intro lists others
  have hkeys : lists.SameKeys others :=
    ⟨WordSet.isKeyAmong_congr (by decide +kernel), WordSet.isKeyAmong_congr (by decide +kernel),
      WordSet.isKeyAmong_congr (by decide +kernel)⟩
  obtain ⟨hlookups, -, -, hothers⟩ := keywords_told_by_keys lists
  obtain ⟨hset, hformat⟩ := hothers others hkeys
  refine ⟨hkeys, hset, (hformat {} _).trans (by decide +kernel), ?_, ?_⟩
  · refine (hlookups "strasse".toList).2.2.2 ⟨by decide +kernel, by decide +kernel, ?_⟩
    exact ⟨" stra\u00dfe".toList, by decide, by decide +kernel⟩
  · rw [← Bool.not_eq_true, (hlookups " End".toList).2.2]
    rintro ⟨hne, -⟩
    exact hne (by decide +kernel)

end SqlIndent
