import DesignTokens.Text.Basic

/-!
# Alternatives in patterns

A pattern may list alternatives between braces, separated by commas.  The leftmost group without
a group inside it is replaced by each of its alternatives in turn, until no group is left; a
brace that belongs to no group stays.
-/

namespace DesignTokens

namespace Glob

/-- Is the character a brace? -/
def isBrace (c : Char) : Bool :=
  c == '\x7b' || c == '\x7d'

/-- A pattern cut at a group: what stands before it, inside it and behind it. -/
structure Group where
  /-- The text before the opening brace. -/
  before : Text
  /-- The text between the braces. -/
  inside : Text
  /-- The text behind the closing brace. -/
  behind : Text
  deriving Repr, DecidableEq

namespace Group

/-- The pattern with the group replaced by a text. -/
def fill (g : Group) (option : Text) : Text :=
  g.before ++ option ++ g.behind

/-- The pattern that was cut. -/
def text (g : Group) : Text :=
  g.fill ('\x7b' :: (g.inside ++ ['\x7d']))

/-- The alternatives of the group. -/
def options (g : Group) : List Text :=
  g.inside.splitOn ','

end Group

/-- The leftmost group without a brace inside. -/
def group? : Text → Option Group
  | [] => none
  | c :: cs =>
      let inside := cs.takeWhile fun c => !isBrace c
      match cs.dropWhile fun c => !isBrace c with
      | d :: behind =>
          if c = '\x7b' ∧ d = '\x7d' then some ⟨[], inside, behind⟩
          else (group? cs).map fun g => { g with before := c :: g.before }
      | [] => none

/-- The parts of a group make up the text in which it was found. -/
theorem text_of_group? {t : Text} {g : Group} (h : group? t = some g) : g.text = t := by
  induction t generalizing g with
  | nil => simp [group?] at h
  | cons c cs ih =>
      simp only [group?] at h
      split at h
      · next d behind hd =>
          split at h
          · next hcd =>
              simp only [Option.some.injEq] at h
              subst h
              have := List.takeWhile_append_dropWhile (p := fun c => !isBrace c) (l := cs)
              rw [hd, hcd.2] at this
              simp [Group.text, Group.fill, hcd.1, this]
          · simp only [Option.map_eq_some_iff] at h
            obtain ⟨g', hg, rfl⟩ := h
            simpa [Group.text, Group.fill] using ih hg
      · simp at h

/-- A group has no other group inside it. -/
theorem inside_of_group? {t : Text} {g : Group} (h : group? t = some g) :
    ∀ c ∈ g.inside, isBrace c = false := by
  induction t generalizing g with
  | nil => simp [group?] at h
  | cons c cs ih =>
      simp only [group?] at h
      split at h
      · split at h
        · simp only [Option.some.injEq] at h
          subst h
          intro x hx
          have := List.all_eq_true.1 (List.all_takeWhile (l := cs) (p := fun c => !isBrace c)) x hx
          simpa using this
        · simp only [Option.map_eq_some_iff] at h
          obtain ⟨g', hg, rfl⟩ := h
          simpa using ih hg
      · simp at h

/-- Patterns whose groups are replaced; each step removes one opening brace of the `depth` that
the pattern has. -/
def expand : (depth : Nat) → Text → List Text
  | 0, t => [t]
  | depth + 1, t =>
      match group? t with
      | none => [t]
      | some g => g.options.flatMap fun option => expand depth (g.fill option)

/-- All patterns that a pattern with alternatives stands for, in order. -/
def expandBraces (t : Text) : List Text :=
  expand (t.count '\x7b') t

end Glob

end DesignTokens
