import DesignTokens.Text.Basic

/-!
# Comments in style text

A style text is a sequence of pieces: characters that count, and comment spans.  A span opens
with slash and star and reaches to the first star and slash behind that; an opening that is
never closed is plain text.  Removing and blanking comments are two readings of the same pieces,
so they agree on what a comment is.
-/

namespace DesignTokens

namespace Style

/-- A style text is made of characters that count and of comment spans. -/
inductive Piece
  /-- A character outside all comments. -/
  | code (c : Char)
  /-- A whole comment, its delimiters included. -/
  | comment (span : Text)
  deriving Repr, DecidableEq

/-- Cut behind the first star and slash: the text up to and with it, and the rest. -/
def closing? : Text → Option (Text × Text)
  | [] => none
  | [_] => none
  | a :: b :: cs =>
      if a = '*' ∧ b = '/' then some ([a, b], cs)
      else (closing? (b :: cs)).map fun (inside, rest) => (a :: inside, rest)

/-- A text is cut behind the closing mark, and nothing of it is lost. -/
theorem closing?_append {t inside rest : Text} (h : closing? t = some (inside, rest)) :
    t = inside ++ rest := by
  induction t using closing?.induct generalizing inside rest with
  | case1 => simp [closing?] at h
  | case2 => simp [closing?] at h
  | case3 a b cs hab =>
      simp only [closing?, hab, and_self, if_true, Option.some.injEq, Prod.mk.injEq] at h
      obtain ⟨rfl, rfl⟩ := h
      simp [hab]
  | case4 a b cs hab ih =>
      simp only [closing?, hab, if_false, Option.map_eq_some_iff, Prod.mk.injEq] at h
      obtain ⟨⟨i, r⟩, hi, rfl, rfl⟩ := h
      simp [ih hi]

/-- The comment at the front of a text, with the rest behind it. -/
def comment? : Text → Option (Text × Text)
  | '/' :: '*' :: t => (closing? t).map fun (inside, rest) => ('/' :: '*' :: inside, rest)
  | _ => none

/-- A comment at the front and the rest behind it make up the text. -/
theorem comment?_append {t span rest : Text} (h : comment? t = some (span, rest)) :
    t = span ++ rest := by
  unfold comment? at h
  split at h
  · simp only [Option.map_eq_some_iff, Prod.mk.injEq] at h
    obtain ⟨⟨i, r⟩, hi, rfl, rfl⟩ := h
    simp [closing?_append hi]
  · simp at h

/-- Behind a comment less text is left. -/
theorem comment?_shorter {t span rest : Text} (h : comment? t = some (span, rest)) :
    rest.length < t.length := by
  have split := comment?_append h
  unfold comment? at h
  split at h
  · simp only [Option.map_eq_some_iff, Prod.mk.injEq] at h
    obtain ⟨⟨i, r⟩, _, rfl, _⟩ := h
    simp [split]
    omega
  · simp at h

/-- The pieces of a style text, in order. -/
def pieces (t : Text) : List Piece :=
  match h : comment? t with
  | some (span, rest) =>
      have : rest.length < t.length := comment?_shorter h
      .comment span :: pieces rest
  | none =>
      match t with
      | [] => []
      | c :: cs => .code c :: pieces cs
termination_by t.length

/-- What a piece leaves when comments are removed. -/
def Piece.kept : Piece → Text
  | .code c => [c]
  | .comment _ => []

/-- What a piece leaves when comments are blanked: a span becomes spaces of the same length,
and its line feeds stay. -/
def Piece.blanked : Piece → Text
  | .code c => [c]
  | .comment span => span.map fun c => if c = '\n' then '\n' else ' '

/-- The text without its comments. -/
def removeComments (t : Text) : Text :=
  (pieces t).flatMap Piece.kept

/-- The text with every comment blanked, so that no position moves. -/
def blankComments (t : Text) : Text :=
  (pieces t).flatMap Piece.blanked

end Style

end DesignTokens
