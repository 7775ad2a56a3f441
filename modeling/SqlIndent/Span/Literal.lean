import SqlIndent.Span

/-!
# The written form of a literal

A quoted literal is written word by word: each of its words gets quotes of its own. Brace and
bracket literals, and literals that lack their closing delimiter, are written as they stand.
-/

namespace SqlIndent

/-- A text between two quotes. -/
def quoted (quote : Char) (t : Text) : Text :=
  quote :: (t ++ [quote])

/-- What stands between the first and the last character. -/
def Text.inner (t : Text) : Text :=
  t.tail.dropLast

/-- The pieces into which a literal with the quote character `quote` is split: one for each word
between the quotes, and an empty one where there is no word. -/
def quotedWords (quote : Char) (t : Text) : List Text :=
  match t.inner.words with
  | [] => [quoted quote []]
  | ws => ws.map (quoted quote)

/-- The text that is written for a span, before any change of case. -/
def Span.written (s : Span) : Text :=
  match s.kind with
  | .literal d =>
    if d.isQuote && s.terminated then Text.joinWith [' '] (quotedWords d.opener s.text)
    else s.text
  | _ => s.text

end SqlIndent
