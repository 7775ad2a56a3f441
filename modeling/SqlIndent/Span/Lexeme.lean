import SqlIndent.Span

/-!
# Cutting a text into spans

A text is cut from the left, one lexeme at a time. Every text can be cut: a literal without its
closing delimiter takes the whole rest. The texts of the lexemes, one after another, are the source
text; locating them afterwards adds byte offsets and the note whether blanks come before.
-/

namespace SqlIndent

/-- A span that is not located yet. -/
structure Lexeme where
  kind : Kind
  text : Text
  /-- False only for a literal that lacks its closing delimiter. -/
  terminated : Bool
deriving DecidableEq, Repr

namespace Lexeme

/-- What a literal with a doubling closer takes after its opener, and whether it is closed. A pair
of closers belongs to the literal; the first closer that stands alone ends it. -/
def doubledBody (closer : Char) : Text → Text × Bool
  | [] => ([], false)
  | [c] => ([c], c == closer)
  | c :: d :: rest =>
    if c = closer then
      if d = closer then
        let (body, closed) := doubledBody closer rest
        (c :: d :: body, closed)
      else ([c], true)
    else
      let (body, closed) := doubledBody closer (d :: rest)
      (c :: body, closed)

/-- What a brace literal takes after its opener, and whether it is closed. The pair `{}` belongs to
the literal; any other closing brace ends it. -/
def braceBody : Text → Text × Bool
  | [] => ([], false)
  | '{' :: '}' :: rest =>
    let (body, closed) := braceBody rest
    ('{' :: '}' :: body, closed)
  | c :: rest =>
    if c = '}' then ([c], true)
    else
      let (body, closed) := braceBody rest
      (c :: body, closed)

/-- What a literal takes after its opener, its closer included, and whether it is closed. -/
def literalBody : Delimiter → Text → Text × Bool
  | .brace, t => braceBody t
  | d, t => doubledBody d.closer t

/-- Characters that end a line, and with it a comment. -/
def isLineEnd (c : Char) : Bool :=
  c == '\n' || c == '\r'

/-- The first lexeme of the text `c :: rest`. -/
def first (c : Char) (rest : Text) : Lexeme :=
  match Delimiter.ofOpener? c with
  | some d =>
    let (body, closed) := literalBody d rest
    ⟨.literal d, c :: body, closed⟩
  | none =>
    if c = '-' ∧ rest.head? = some '-' then
      ⟨.comment, c :: rest.takeWhile (!isLineEnd ·), true⟩
    else if Text.isWordChar c then
      ⟨.word, c :: rest.takeWhile Text.isWordChar, true⟩
    else if Text.isBlank c then
      ⟨.blank, c :: rest.takeWhile Text.isBlank, true⟩
    else
      ⟨.punctuation, [c], true⟩

theorem first_text_length_pos (c : Char) (rest : Text) : 0 < (first c rest).text.length := by
  unfold first
  repeat' split
  all_goals simp

end Lexeme

/-- The lexemes of a text, from left to right. -/
def lexemes : Text → List Lexeme
  | [] => []
  | c :: rest =>
    Lexeme.first c rest :: lexemes ((c :: rest).drop (Lexeme.first c rest).text.length)
termination_by t => t.length
decreasing_by
  have := Lexeme.first_text_length_pos c rest
  simp only [List.length_drop, List.length_cons]
  omega

/-- Places lexemes one after another from byte `start` on; `spaced` tells whether a run of blanks
comes before the first of them. -/
def locate (start : Nat) (spaced : Bool) : List Lexeme → List Span
  | [] => []
  | x :: xs =>
    ⟨x.kind, x.text, start, spaced, x.terminated⟩ ::
      locate (start + x.text.utf8Length) (x.kind == .blank) xs

/-- All spans of a text, runs of blanks included. -/
def lex (t : Text) : List Span :=
  locate 0 false (lexemes t)

/-- The spans of a text other than runs of blanks. -/
def significant (t : Text) : List Span :=
  (lex t).filter (·.kind != .blank)

end SqlIndent
