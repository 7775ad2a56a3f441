import SqlIndent.Keyword.WordSet

/-!
# Keyword sets

Layout reacts to marker words only. Three lists of words say which these are: general keywords,
which are carried along and shown but not consulted, words that open an indented block, and words
that start a new line. The word `END` closes a block; it never opens one.
-/

namespace SqlIndent

/-- The word lists as they are written in a configuration. -/
structure KeywordLists where
  keywords : List Text := []
  indent : List Text := []
  newline : List Text := []
deriving DecidableEq, Repr

/-- The key of the word that closes a block. -/
def dedentKey : Text := ['E', 'N', 'D']

/-- The marker words, by key. -/
structure KeywordSet where
  keywords : WordSet
  /-- The words after which lines are indented one level more. -/
  indent : WordSet
  /-- The words before which a new line starts. -/
  newline : WordSet
  /-- No word both opens and closes a block. -/
  dedent_not_indent : dedentKey ∉ indent.toList
deriving DecidableEq

namespace KeywordSet

/-- The set that word lists describe; `END` is left out of the words that open a block. -/
def ofLists (t : KeywordLists) : KeywordSet where
  keywords := .ofWords t.keywords
  indent := (WordSet.ofWords t.indent).erase dedentKey
  newline := .ofWords t.newline
  dedent_not_indent := by simp

/-- The members, each list in increasing order. -/
def toLists (s : KeywordSet) : KeywordLists where
  keywords := s.keywords.toList
  indent := s.indent.toList
  newline := s.newline.toList

/-- Whether a key is a general keyword. -/
def isKeyword (s : KeywordSet) (key : Text) : Bool :=
  s.keywords.contains key

/-- Whether a key opens a block. -/
def isIndent (s : KeywordSet) (key : Text) : Bool :=
  s.indent.contains key

/-- Whether a key starts a new line. -/
def isNewline (s : KeywordSet) (key : Text) : Bool :=
  s.newline.contains key

end KeywordSet

/-- Whether a key closes a block, whatever the keyword set. -/
def isDedent (key : Text) : Bool :=
  key == dedentKey

end SqlIndent
