import DesignTokens.Text.Blank
import DesignTokens.Text.Word

/-!
# References to tokens

A reference is a call that names a token and may give a fallback.  White space may stand around
the name; the fallback is everything up to the closing parenthesis, and may hold parentheses one
level deep.  Which characters a name may have is a parameter of the reader.

Reading is deterministic: a reference that begins at a position ends at one place, and its parts
put together give back exactly the text that was read.
-/

namespace DesignTokens

namespace Style

/-- A call that names a token. -/
structure Reference where
  /-- The white space before the name. -/
  lead : Text
  /-- The name, with its two dashes. -/
  name : Text
  /-- The white space behind the name. -/
  gap : Text
  /-- The text between the comma and the closing parenthesis. -/
  fallback : Option Text
  deriving Repr, DecidableEq

namespace Reference

/-- What every reference begins with. -/
def opening : Text :=
  "var(".toList

/-- The text of a reference. -/
def text (r : Reference) : Text :=
  opening ++ r.lead ++ r.name ++ r.gap ++ (r.fallback.elim [] fun f => ',' :: f) ++ [')']

/-- The fallback without white space around it, unless nothing is left. -/
def trimmedFallback? (r : Reference) : Option Text :=
  (r.fallback.map Text.strip).filter fun f => !f.isEmpty

end Reference

/-- Read a fallback up to the parenthesis that closes the call; `inGroup` says whether a
parenthesis is open inside it. -/
def fallback? (inGroup : Bool) : Text → Option (Text × Text)
  | [] => none
  | c :: cs =>
      let keep (inGroup : Bool) := (fallback? inGroup cs).map fun (f, rest) => (c :: f, rest)
      if c = '(' then if inGroup then none else keep true
      else if c = ')' then if inGroup then keep false else some ([], cs)
      else keep inGroup

/-- A fallback, its closing parenthesis and the rest make up the text. -/
theorem fallback?_append {inGroup : Bool} {t f rest : Text}
    (h : fallback? inGroup t = some (f, rest)) : t = f ++ ')' :: rest := by
  induction t generalizing inGroup f rest with
  | nil => simp [fallback?] at h
  | cons c cs ih =>
      have keep : ∀ g, (fallback? g cs).map (fun (f, rest) => (c :: f, rest)) = some (f, rest) →
          c :: cs = f ++ ')' :: rest := by
        intro g hg
        simp only [Option.map_eq_some_iff, Prod.mk.injEq] at hg
        obtain ⟨⟨f', r'⟩, h', rfl, rfl⟩ := hg
        simp [ih h']
      unfold fallback? at h
      split at h
      · split at h
        · simp at h
        · exact keep _ h
      · split at h
        · next hc =>
            split at h
            · exact keep _ h
            · simp only [Option.some.injEq, Prod.mk.injEq] at h
              obtain ⟨rfl, rfl⟩ := h
              simp [hc]
        · exact keep _ h

/-- Read a name: two dashes and at least one name character. -/
def referenceName? (isName : Char → Bool) (t : Text) : Option (Text × Text) :=
  match Text.after? "--".toList t with
  | none => none
  | some t =>
      if (t.takeWhile isName).isEmpty then none
      else some ('-' :: '-' :: t.takeWhile isName, t.dropWhile isName)

/-- A name and the rest behind it make up the text. -/
theorem referenceName?_append {isName : Char → Bool} {t name rest : Text}
    (h : referenceName? isName t = some (name, rest)) : t = name ++ rest := by
  unfold referenceName? at h
  split at h
  · simp at h
  · next u hu =>
      split at h
      · simp at h
      · simp only [Option.some.injEq, Prod.mk.injEq] at h
        obtain ⟨rfl, rfl⟩ := h
        rw [Text.after?_eq_some_iff] at hu
        simp [hu, List.takeWhile_append_dropWhile]

/-- Read what may follow the name and the white space behind it: a fallback, or nothing. -/
def referenceTail? : Text → Option (Option Text × Text)
  | ')' :: rest => some (none, rest)
  | ',' :: t => (fallback? false t).map fun (f, rest) => (some f, rest)
  | _ => none

/-- A tail, with or without a fallback, and the rest make up the text. -/
theorem referenceTail?_append {t rest : Text} {f : Option Text}
    (h : referenceTail? t = some (f, rest)) :
    t = (f.elim [] fun f => ',' :: f) ++ ')' :: rest := by
  unfold referenceTail? at h
  split at h
  · simp only [Option.some.injEq, Prod.mk.injEq] at h
    obtain ⟨rfl, rfl⟩ := h
    rfl
  · simp only [Option.map_eq_some_iff, Prod.mk.injEq] at h
    obtain ⟨⟨f', r'⟩, h', rfl, rfl⟩ := h
    simp [fallback?_append h']
  · simp at h

/-- The reference at the front of a text, with the rest behind it. -/
def reference? (isName : Char → Bool) (t : Text) : Option (Reference × Text) := do
  let t ← Text.after? Reference.opening t
  let (name, u) ← referenceName? isName (Text.stripLeft t)
  let (fallback, rest) ← referenceTail? (Text.stripLeft u)
  return (⟨t.takeWhile isBlank, name, u.takeWhile isBlank, fallback⟩, rest)

/-- A reference and the rest behind it make up the text that was read. -/
theorem reference?_append {isName : Char → Bool} {t rest : Text} {r : Reference}
    (h : reference? isName t = some (r, rest)) : t = r.text ++ rest := by
  simp only [reference?, Option.bind_eq_bind, Option.bind_eq_some_iff, Prod.exists,
    Option.pure_def, Option.some.injEq, Prod.mk.injEq] at h
  obtain ⟨u, hu, name, v, hv, f, r', hf, rfl, rfl⟩ := h
  have lead := List.takeWhile_append_dropWhile (p := isBlank) (l := u)
  have gap := List.takeWhile_append_dropWhile (p := isBlank) (l := v)
  have name_eq := referenceName?_append hv
  have tail_eq := referenceTail?_append hf
  simp only [Text.stripLeft] at name_eq tail_eq
  rw [tail_eq] at gap
  rw [name_eq, ← gap] at lead
  rw [Text.after?_eq_some_iff] at hu
  simp [hu, Reference.text, lead]

/-- Behind a reference less text is left. -/
theorem reference?_shorter {isName : Char → Bool} {t rest : Text} {r : Reference}
    (h : reference? isName t = some (r, rest)) : rest.length < t.length := by
  rw [reference?_append h]
  simp [Reference.text]
  omega

/-- A text is made of plain characters and of references. -/
inductive Segment
  /-- A character outside all references. -/
  | plain (c : Char)
  /-- A whole reference. -/
  | call (r : Reference)
  deriving Repr, DecidableEq

/-- The text of a segment. -/
def Segment.text : Segment → Text
  | .plain c => [c]
  | .call r => r.text

/-- The segments of a text: references are found left to right and do not overlap. -/
def segments (isName : Char → Bool) (t : Text) : List Segment :=
  match h : reference? isName t with
  | some (r, rest) =>
      have : rest.length < t.length := reference?_shorter h
      .call r :: segments isName rest
  | none =>
      match t with
      | [] => []
      | c :: cs => .plain c :: segments isName cs
termination_by t.length

/-- No character is lost: the segments put together are the text. -/
theorem flatMap_text_segments (isName : Char → Bool) (t : Text) :
    (segments isName t).flatMap Segment.text = t := by
  induction t using segments.induct isName with
  | case1 t r rest h _ ih =>
      rw [segments]
      split
      · next r' rest' h' =>
          rw [h] at h'
          simp only [Option.some.injEq, Prod.mk.injEq] at h'
          obtain ⟨rfl, rfl⟩ := h'
          simp [ih, Segment.text, ← reference?_append h]
      · next h' => rw [h] at h'; simp at h'
  | case2 h =>
      rw [segments]
      split
      · next h' => rw [h] at h'; simp at h'
      · rfl
  | case3 c cs h ih =>
      rw [segments]
      split
      · next h' => rw [h] at h'; simp at h'
      · simp [ih, Segment.text]

end Style

end DesignTokens
