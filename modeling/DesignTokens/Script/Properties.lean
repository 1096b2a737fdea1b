import DesignTokens.OrderedMap
import DesignTokens.Text.Blank
import DesignTokens.Text.Word

/-!
# Token properties of a theme configuration

A theme configuration is a script.  The words for tokens, followed by a colon and a block
without inner blocks, hold token properties; a property is a key, a colon and a quoted text
without line feeds.  Everything else in the script is passed over.
-/

namespace DesignTokens

namespace Script

/-- The inside of a token block at the front of a text, with the rest behind the block. -/
def block? (t : Text) : Option (Text × Text) := do
  let t ← Text.after? "token".toList t
  let t ← Text.after? ":".toList (Text.stripLeft t)
  let t ← Text.after? "\x7b".toList (Text.stripLeft t)
  let isInside (c : Char) := !(c == '\x7b' || c == '\x7d')
  let rest ← Text.after? "\x7d".toList (t.dropWhile isInside)
  return (t.takeWhile isInside, rest)

/-- What follows a lead is shorter than the text by the length of the lead. -/
theorem after?_length_le {lead t rest : Text} (h : Text.after? lead t = some rest) :
    lead.length + rest.length ≤ t.length := by
  rw [Text.after?_eq_some_iff] at h
  simp [h]

/-- Behind a block less text is left. -/
theorem block?_shorter {t inside rest : Text} (h : block? t = some (inside, rest)) :
    rest.length < t.length := by
  simp only [block?, Option.bind_eq_bind, Option.bind_eq_some_iff, Option.pure_def,
    Option.some.injEq, Prod.mk.injEq] at h
  obtain ⟨a, ha, b, hb, c, hc, d, hd, _, rfl⟩ := h
  have ha := after?_length_le ha
  have hb := after?_length_le hb
  have hc := after?_length_le hc
  have hd := after?_length_le hd
  have := (List.dropWhile_sublist (l := a) isBlank).length_le
  have := (List.dropWhile_sublist (l := b) isBlank).length_le
  have := (List.dropWhile_sublist (l := c) (fun c => !(c == '\x7b' || c == '\x7d'))).length_le
  simp only [Text.stripLeft] at hb hc
  simp at ha
  omega

/-- A token block that begins a word: no word character stands before it. -/
def wordBlock? (previous : Option Char) (t : Text) : Option (Text × Text) :=
  if previous.any isWordChar then none else block? t

/-- Behind a block with its word less text is left. -/
theorem wordBlock?_shorter {previous : Option Char} {t inside rest : Text}
    (h : wordBlock? previous t = some (inside, rest)) : rest.length < t.length := by
  unfold wordBlock? at h
  split at h
  · simp at h
  · exact block?_shorter h

/-- The insides of the token blocks of a text; `previous` is the character before it. -/
def blocks (previous : Option Char) (t : Text) : List Text :=
  match h : wordBlock? previous t with
  | some (inside, rest) =>
      have : rest.length < t.length := wordBlock?_shorter h
      inside :: blocks (some '\x7d') rest
  | none =>
      match t with
      | [] => []
      | c :: cs => blocks (some c) cs
termination_by t.length

/-- May a key begin with the character? -/
def isKeyStart (c : Char) : Bool :=
  c.isAlpha || c == '_' || c == '$'

/-- May the character stand inside a key? -/
def isKeyChar (c : Char) : Bool :=
  isWordChar c || c == '$'

/-- Is the character one of the three quotes? -/
def isQuote (c : Char) : Bool :=
  c == '\x27' || c == '\x22' || c == '\x60'

/-- The text between a quote and its next occurrence on the same line, with the rest. -/
def quotedBody? (quote : Char) : Text → Option (Text × Text)
  | [] => none
  | c :: cs =>
      if c = quote then some ([], cs)
      else if c = '\n' then none
      else (quotedBody? quote cs).map fun (body, rest) => (c :: body, rest)

/-- Behind a quoted body less text is left. -/
theorem quotedBody?_shorter {quote : Char} {t body rest : Text}
    (h : quotedBody? quote t = some (body, rest)) : rest.length < t.length := by
  induction t generalizing body rest with
  | nil => simp [quotedBody?] at h
  | cons c cs ih =>
      unfold quotedBody? at h
      split at h
      · simp only [Option.some.injEq, Prod.mk.injEq] at h
        simp [h.2]
      · split at h
        · simp at h
        · simp only [Option.map_eq_some_iff, Prod.mk.injEq] at h
          obtain ⟨⟨b, r⟩, hb, _, rfl⟩ := h
          have := ih hb
          simp only [List.length_cons]
          omega

/-- The property at the front of a text, with the rest behind it. -/
def property? (t : Text) : Option ((Text × Text) × Text) :=
  match t with
  | c :: cs =>
      if isKeyStart c then
        match Text.after? ":".toList (Text.stripLeft (cs.dropWhile isKeyChar)) with
        | none => none
        | some u =>
            match Text.stripLeft u with
            | quote :: v =>
                if isQuote quote then
                  (quotedBody? quote v).map fun (body, rest) =>
                    ((c :: cs.takeWhile isKeyChar, body), rest)
                else none
            | [] => none
      else none
  | [] => none

/-- Behind a property less text is left. -/
theorem property?_shorter {t rest : Text} {entry : Text × Text}
    (h : property? t = some (entry, rest)) : rest.length < t.length := by
  unfold property? at h
  split at h
  · next c cs =>
      split at h
      · split at h
        · simp at h
        · next u hu =>
            split at h
            · next quote v hv =>
                split at h
                · simp only [Option.map_eq_some_iff, Prod.mk.injEq] at h
                  obtain ⟨⟨b, r⟩, hb, _, rfl⟩ := h
                  have h1 := quotedBody?_shorter hb
                  have h2 := after?_length_le hu
                  have h3 := (List.dropWhile_sublist (l := u) isBlank).length_le
                  have h4 :=
                    (List.dropWhile_sublist (l := cs.dropWhile isKeyChar) isBlank).length_le
                  have h5 := (List.dropWhile_sublist (l := cs) isKeyChar).length_le
                  simp only [Text.stripLeft] at hv h2
                  rw [hv] at h3
                  simp only [List.length_cons] at h3 ⊢
                  omega
                · simp at h
            · simp at h
      · simp at h
  · simp at h

/-- The properties of a block, in order. -/
def blockProperties (t : Text) : List (Text × Text) :=
  match h : property? t with
  | some (entry, rest) =>
      have : rest.length < t.length := property?_shorter h
      entry :: blockProperties rest
  | none =>
      match t with
      | [] => []
      | _ :: cs => blockProperties cs
termination_by t.length

/-- The token properties of a script; a later one overrides an earlier one with its key. -/
def properties (t : Text) : OrderedMap Text Text :=
  OrderedMap.ofList ((blocks none t).flatMap blockProperties)

end Script

end DesignTokens
