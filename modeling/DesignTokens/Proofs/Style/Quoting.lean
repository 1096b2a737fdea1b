import DesignTokens.Proofs.Style.Definition
import DesignTokens.Proofs.Style.Layout
import DesignTokens.Proofs.Text.Stretch

/-!
# Strings in values

A stylesheet is described here as its author sees it: strings and comments are units, and marks in
them do not count.  The reader of variables knows no strings.  It removes comments, cuts the text at
braces and at semicolons, and collapses white space, wherever the quotes are.

So the reader sees what the author sees if the strings have no semicolon, no brace and no white
space but single spaces in them, and if no comment that is opened in a string is closed
(`Sheet.IsHarmless.variablesOf_text`).  No more can be said of a single string: if it has one of
these in it, or the opening of a comment, then there is a sheet in which it does harm, beside a
string that does none (`strings_read_opaquely`).
-/

namespace DesignTokens

namespace Style

/-! ### What the author writes -/

/-- What a stylesheet is made of in the eyes of its author. -/
inductive Atom
  /-- A character that is neither in a string nor in a comment. -/
  | plain (c : Char)
  /-- A string with its quotes. -/
  | quoted (quote : Char) (content : Text)
  /-- A comment with its delimiters. -/
  | comment (inside : Text)
  deriving DecidableEq

/-- A string may have anything in it but its own quote, a backslash, a line feed, or white space
beside white space. -/
structure IsQuotable (quote : Char) (content : Text) : Prop where
  /-- There are two kinds of quotes. -/
  quote_cases : quote = '\x22' ∨ quote = '\x27'
  /-- No character ends the string or its line, or escapes. -/
  plain : ∀ c ∈ content, c ≠ quote ∧ c ≠ '\x5c' ∧ c ≠ '\n'
  /-- No two characters of white space stand side by side. -/
  no_run : content.IsChain fun c d => ¬ (isBlank c ∧ isBlank d)

instance (quote : Char) (content : Text) : Decidable (IsQuotable quote content) :=
  decidable_of_iff ((quote = '\x22' ∨ quote = '\x27') ∧
      (∀ c ∈ content, c ≠ quote ∧ c ≠ '\x5c' ∧ c ≠ '\n') ∧
      content.IsChain fun c d => ¬ (isBlank c ∧ isBlank d))
    ⟨fun h => ⟨h.1, h.2.1, h.2.2⟩, fun h => ⟨h.quote_cases, h.plain, h.no_run⟩⟩

namespace Atom

/-- The text of an atom. -/
def text : Atom → Text
  | .plain c => [c]
  | .quoted quote content => quote :: (content ++ [quote])
  | .comment inside => '/' :: '*' :: (inside ++ ['*', '/'])

/-- Is the atom a comment? -/
def isComment : Atom → Bool
  | .comment _ => true
  | _ => false

/-- Is the atom white space? -/
def isSpace : Atom → Bool
  | .plain c => isBlank c
  | _ => false

/-- What the atom leaves when comments are removed. -/
def kept (b : Atom) : Text :=
  if b.isComment then [] else b.text

/-- The same atom, with nothing in its string. -/
def hollow : Atom → Atom
  | .quoted quote _ => .quoted quote []
  | b => b

/-- The atom is a character of a kind, or a string of a kind, or a comment that is closed at its end
only. -/
def OfKind (p : Char → Prop) (s : Char → Text → Prop) : Atom → Prop
  | .plain c => p c
  | .quoted quote content => s quote content
  | .comment inside => ¬ ['*', '/'] <:+: inside

/-- The atom is a character of a kind, or a comment. -/
def IsCode (p : Char → Prop) : Atom → Prop :=
  OfKind p fun _ _ => False

instance (p : Char → Prop) (s : Char → Text → Prop) [DecidablePred p]
    [∀ quote content, Decidable (s quote content)] (b : Atom) : Decidable (b.OfKind p s) :=
  match b with
  | .plain c => inferInstanceAs (Decidable (p c))
  | .quoted quote content => inferInstanceAs (Decidable (s quote content))
  | .comment inside => inferInstanceAs (Decidable (¬ ['*', '/'] <:+: inside))

instance (p : Char → Prop) [DecidablePred p] (b : Atom) : Decidable (b.IsCode p) :=
  inferInstanceAs (Decidable (b.OfKind p _))

end Atom

/-- The atoms without the comments. -/
def visible (bs : List Atom) : List Atom :=
  bs.filter fun b => !b.isComment

/-- The text of atoms without comments: strings stay as they are, and of other white space single
spaces are left between what stands around it. -/
def squeeze : List Atom → Text
  | [] => []
  | b :: bs =>
      if b.isSpace then squeeze bs
      else b.text ++
        if bs.head?.any Atom.isSpace && !bs.all Atom.isSpace then ' ' :: squeeze bs else squeeze bs

/-- All atoms of some rules and of what stands behind them. -/
def atomsOf (rules : List (Layout (List Atom))) (behind : List Atom) : List Atom :=
  rules.flatMap (Layout.render Atom.plain) ++ behind

/-- A stylesheet of accepted rules, with strings in their values. -/
structure Sheet where
  /-- The rules. -/
  rules : List (Layout (List Atom))
  /-- What stands behind the last rule. -/
  behind : List Atom
  /-- No brace is in a selector. -/
  selectors : ∀ r ∈ rules, ∀ b ∈ r.selector, b.IsCode fun c => c ≠ '\x7b' ∧ c ≠ '\x7d'
  /-- No colon, semicolon or brace is in a name. -/
  names : ∀ r ∈ rules, ∀ d ∈ r.declarations, ∀ b ∈ d.1,
    b.IsCode fun c => isValueChar c ∧ c ≠ ':'
  /-- Outside strings, no semicolon, brace or quote is in a value. -/
  values : ∀ r ∈ rules, ∀ d ∈ r.declarations, ∀ b ∈ d.2,
    b.OfKind (fun c => isValueChar c ∧ c ≠ '\x22' ∧ c ≠ '\x27') IsQuotable
  /-- Behind the last semicolon of a block there are only white space and comments. -/
  endings : ∀ r ∈ rules, ∀ e ∈ r.ending, ∀ b ∈ e, b.IsCode fun c => isBlank c
  /-- Behind the last rule there are only white space and comments. -/
  behind_blank : ∀ b ∈ behind, b.IsCode fun c => isBlank c
  /-- Every selector is one under which tokens may be defined. -/
  accepted : ∀ r ∈ rules,
    Acceptance.scopes.selector (Text.collapse (r.selector.flatMap Atom.kept))
  /-- Outside strings and comments, no comment is opened. -/
  no_opening : ¬ [Atom.plain '/', Atom.plain '*'] <:+: atomsOf rules behind

namespace Sheet

/-- All atoms of the sheet. -/
def atoms (s : Sheet) : List Atom :=
  atomsOf s.rules s.behind

/-- The text of the sheet. -/
def text (s : Sheet) : Text :=
  s.atoms.flatMap Atom.text

/-- A string stands in a value of the sheet. -/
def HasString (s : Sheet) (quote : Char) (content : Text) : Prop :=
  ∃ r ∈ s.rules, ∃ d ∈ r.declarations, Atom.quoted quote content ∈ d.2

end Sheet

/-- What the rule defines: its custom properties with the atoms of their values, but for blank
values. -/
def Layout.definitions (r : Layout (List Atom)) : List (Text × List Atom) :=
  r.declarations.filterMap fun d =>
    let name := Text.strip (d.1.flatMap Atom.kept)
    if isCustomProperty name && !(visible d.2).all Atom.isSpace then some (name, visible d.2)
    else none

/-- What the sheet defines. -/
def Sheet.definitions (s : Sheet) : List (Text × List Atom) :=
  s.rules.flatMap Layout.definitions

/-- A sheet is another one with letters in its strings. -/
structure Sheet.IsLettered (s t : Sheet) : Prop where
  /-- Outside their strings the rules are the same. -/
  rules : t.rules.map (Layout.map (List.map Atom.hollow))
    = s.rules.map (Layout.map (List.map Atom.hollow))
  /-- The same stands behind them. -/
  behind : t.behind = s.behind
  /-- There are only letters in the strings. -/
  letters : ∀ quote content, t.HasString quote content → ∀ c ∈ content, c.isAlpha

/-- The reader of variables does not look into the strings of a sheet. -/
structure ReadsOpaquely (s : Sheet) : Prop where
  /-- It returns each value as it was written, with its strings intact. -/
  intact : variablesOf .scopes s.text
    = OrderedMap.ofList (s.definitions.map fun d => (d.1, squeeze d.2))
  /-- With letters in the strings it returns the same names, and the same value for each of them
  that has no string. -/
  others : ∀ t : Sheet, s.IsLettered t →
    (variablesOf .scopes t.text).keys = (variablesOf .scopes s.text).keys ∧
    ∀ name value, (OrderedMap.ofList s.definitions).get? name = some value →
      (∀ quote content, Atom.quoted quote content ∉ value) →
      (variablesOf .scopes t.text).get? name = (variablesOf .scopes s.text).get? name

/-- The string has no mark of a block in it, and collapsing leaves it as it is. -/
structure IsHarmless (content : Text) : Prop where
  /-- There is no semicolon and no brace in it. -/
  marks : ∀ c ∈ content, isValueChar c
  /-- There is no white space but spaces in it. -/
  spaces : ∀ c ∈ content, isBlank c → c = ' '

/-- No comment that is opened in a string is closed, in the string or behind it. -/
def IsClear (bs : List Atom) : Prop :=
  ∀ x quote content y, bs = x ++ Atom.quoted quote content :: y →
    ∀ u v, content = u ++ '/' :: '*' :: v →
      ¬ ['*', '/'] <:+: v ++ quote :: y.flatMap Atom.text

/-- All strings of the sheet are harmless, and none of them begins a comment. -/
structure Sheet.IsHarmless (s : Sheet) : Prop where
  /-- Each string is harmless. -/
  strings : ∀ quote content, s.HasString quote content → Style.IsHarmless content
  /-- No string begins a comment. -/
  clear : IsClear s.atoms

/-! ### Atoms -/

namespace Atom

variable {b : Atom} {p p' : Char → Prop} {s s' : Char → Text → Prop}

/-- An atom of a kind is of every wider kind. -/
lemma OfKind.mono (h : b.OfKind p s) (hp : ∀ c, p c → p' c)
    (hs : ∀ quote content, s quote content → s' quote content) : b.OfKind p' s' := by
  cases b with
  | plain c => exact hp c h
  | quoted quote content => exact hs quote content h
  | comment inside => exact h

/-- What an atom leaves are characters of its kind, if a string of its kind is made of them. -/
lemma OfKind.kept (h : b.OfKind p s)
    (hs : ∀ quote content, s quote content → ∀ c ∈ quote :: (content ++ [quote]), p c) :
    ∀ c ∈ b.kept, p c := by
  intro c hc
  cases b with
  | plain d =>
    rw [List.mem_singleton.mp hc]
    exact h
  | quoted quote content => exact hs quote content h c hc
  | comment inside => cases hc

/-- What code leaves when comments are removed are characters of its kind. -/
lemma IsCode.flatMap_kept {bs : List Atom} (h : ∀ b ∈ bs, b.IsCode p) :
    ∀ c ∈ bs.flatMap Atom.kept, p c := by
  intro c hc
  obtain ⟨b, hb, hc⟩ := List.mem_flatMap.mp hc
  exact OfKind.kept (h b hb) (fun _ _ hnone => hnone.elim) c hc

/-- Without strings there is nothing to empty. -/
lemma map_hollow {bs : List Atom} (h : ∀ quote content, Atom.quoted quote content ∉ bs) :
    bs.map hollow = bs := by
  refine (List.map_congr_left fun b hb => ?_).trans (List.map_id bs)
  cases b with
  | plain c => rfl
  | quoted quote content => exact absurd hb (h quote content)
  | comment inside => rfl

/-- An atom is a comment whatever is in its string. -/
@[simp] lemma isComment_hollow (b : Atom) : b.hollow.isComment = b.isComment := by
  cases b <;> rfl

/-- An atom is white space whatever is in its string. -/
@[simp] lemma isSpace_hollow (b : Atom) : b.hollow.isSpace = b.isSpace := by
  cases b <;> rfl

end Atom

/-- What is kept is the text of the visible atoms. -/
lemma flatMap_kept (bs : List Atom) : bs.flatMap Atom.kept = (visible bs).flatMap Atom.text := by
  induction bs with
  | nil => rfl
  | cons b bs ih =>
    rw [List.flatMap_cons, ih, Atom.kept]
    cases hb : b.isComment <;> simp [visible, hb]

/-- Without the opening of a comment in a string, none is closed. -/
lemma isClear_of_no_opening {bs : List Atom}
    (h : ∀ quote content, Atom.quoted quote content ∈ bs → ¬ ['/', '*'] <:+: content) :
    IsClear bs := by
  rintro x quote content y rfl u v rfl
  refine absurd ?_ (h quote _ (List.mem_append_right x List.mem_cons_self))
  exact ⟨u, v, by simp⟩

/-- Where no comment is closed behind the first string, none begins in a string. -/
lemma isClear_append {bs cs : List Atom} (hbs : ∀ b ∈ bs, b.IsCode fun _ => True)
    (hcs : ¬ ['*', '/'] <:+: cs.flatMap Atom.text) : IsClear (bs ++ cs) := by
  intro x quote content y hsplit u v hcontent hclosed
  have hbehind : ∃ z, cs = z ++ Atom.quoted quote content :: y := by
    obtain ⟨z, -, hy⟩ | ⟨z, rfl, hy⟩ := List.append_eq_append_iff.mp hsplit
    · exact ⟨z, hy⟩
    · cases z with
      | nil => exact ⟨[], hy.symm⟩
      | cons b z =>
        rw [List.cons_append, List.cons.injEq] at hy
        refine (hbs (.quoted quote content) ?_).elim
        rw [hy.1]
        exact List.mem_append_right x List.mem_cons_self
  obtain ⟨z, rfl⟩ := hbehind
  refine hcs (hclosed.trans ⟨z.flatMap Atom.text ++ quote :: (u ++ ['/', '*']), [], ?_⟩)
  rw [hcontent]
  simp [Atom.text]

/-- A slash outside strings begins no comment if no star outside strings is behind it. -/
lemma comment?_plain_eq_none {c : Char} {bs : List Atom}
    (hbs : ∀ b ∈ bs, b.OfKind (fun _ => True) fun quote _ => quote = '\x22' ∨ quote = '\x27')
    (hopening : ¬ [Atom.plain '/', Atom.plain '*'] <+: .plain c :: bs) :
    comment? (c :: bs.flatMap Atom.text) = none := by
  refine comment?_cons_eq_none ?_
  rintro rfl hstar
  cases bs with
  | nil => cases hstar
  | cons b bs =>
    cases b with
    | plain d =>
      cases hstar
      exact hopening (List.prefix_append [Atom.plain '/', Atom.plain '*'] bs)
    | quoted quote content =>
      have hquote : quote = '\x22' ∨ quote = '\x27' := hbs _ List.mem_cons_self
      cases hstar
      rcases hquote with hquote | hquote <;> cases hquote
    | comment inside => cases hstar

/-- No comment begins in a string if none that is opened there is closed. -/
lemma comment?_quoted_eq_none {quote : Char} {content v : Text} {bs : List Atom}
    (hquote : quote = '\x22' ∨ quote = '\x27') (hclear : IsClear (.quoted quote content :: bs))
    (hne : v ≠ []) (hv : v <:+ quote :: (content ++ [quote])) :
    comment? (v ++ bs.flatMap Atom.text) = none := by
  have hmark : quote ≠ '/' ∧ quote ≠ '*' := by
    rcases hquote with rfl | rfl <;> decide
  rcases List.suffix_cons_iff.mp hv with rfl | hv
  · exact comment?_of_ne_slash hmark.1 _
  obtain rfl | ⟨w, rfl, u, hu⟩ := List.suffix_concat_iff.mp hv
  · exact absurd rfl hne
  match w with
  | [] => exact comment?_of_ne_slash hmark.1 _
  | [c] => exact comment?_of_ne_star hmark.2 _
  | c :: d :: w =>
    by_cases hc : c = '/'
    · by_cases hd : d = '*'
      · subst hc hd
        have hopen := hclear [] quote content bs rfl u w hu.symm
        have hbehind : '/' :: '*' :: w ++ [quote] ++ bs.flatMap Atom.text
            = '/' :: '*' :: (w ++ quote :: bs.flatMap Atom.text) := by simp
        rw [hbehind, comment?_eq_none_iff_closing?]
        exact closing?_eq_none_iff.mpr hopen
      · exact comment?_of_ne_star hd _
    · exact comment?_of_ne_slash hc _

/-- The comments are what is removed: neither other characters nor strings begin one. -/
lemma removeComments_flatMap_text {bs : List Atom}
    (hbs : ∀ b ∈ bs, b.OfKind (fun _ => True) fun quote _ => quote = '\x22' ∨ quote = '\x27')
    (hopening : ¬ [Atom.plain '/', Atom.plain '*'] <:+: bs) (hclear : IsClear bs) :
    removeComments (bs.flatMap Atom.text) = bs.flatMap Atom.kept := by
  induction bs with
  | nil => exact removeComments_nil
  | cons b bs ih =>
    rw [List.forall_mem_cons] at hbs
    rw [List.infix_cons_iff, not_or] at hopening
    have hrest := ih hbs.2 hopening.2 fun x quote content y hsplit =>
      hclear (b :: x) quote content y (by rw [hsplit, List.cons_append])
    rw [List.flatMap_cons, List.flatMap_cons]
    cases b with
    | plain c =>
      have hcode := comment?_plain_eq_none hbs.2 hopening.1
      exact (removeComments_of_code hcode).trans (congrArg _ hrest)
    | quoted quote content =>
      have hcode := fun v => comment?_quoted_eq_none (v := v) hbs.1 hclear
      exact (removeComments_code_append hcode).trans (congrArg _ hrest)
    | comment inside =>
      have htext : (Atom.comment inside).text ++ bs.flatMap Atom.text
          = '/' :: '*' :: (inside ++ '*' :: '/' :: bs.flatMap Atom.text) := by
        simp [Atom.text]
      rw [htext, removeComments_comment_append hbs.1, hrest]
      rfl

/-! ### Values -/

/-- A harmless string is tight with its quotes. -/
lemma IsHarmless.isTight {quote : Char} {content : Text} (h : IsHarmless content)
    (hquotable : IsQuotable quote content) : Text.IsTight (quote :: (content ++ [quote])) := by
  have hquote : isBlank quote = false := by
    rcases hquotable.quote_cases with rfl | rfl <;> decide
  exact Text.isTight_cons_concat hquote hquote h.spaces hquotable.no_run

/-- The atom is white space, or it stays as it is when white space is collapsed. -/
def Atom.IsUnit (b : Atom) : Prop :=
  (∃ c, b = .plain c ∧ isBlank c) ∨ b.isSpace = false ∧ Text.IsTight b.text

/-- A plain character is a unit. -/
lemma Atom.isUnit_plain (c : Char) : (Atom.plain c).IsUnit := by
  cases hc : isBlank c with
  | false => exact Or.inr ⟨hc, .single hc⟩
  | true => exact Or.inl ⟨c, rfl, hc⟩

/-- The text of units begins with white space exactly if the first unit is white space. -/
lemma head?_flatMap_text {bs : List Atom} (hbs : ∀ b ∈ bs, b.IsUnit) :
    (bs.flatMap Atom.text).head?.any isBlank = bs.head?.any Atom.isSpace := by
  cases bs with
  | nil => rfl
  | cons b bs =>
    rw [List.forall_mem_cons] at hbs
    rcases hbs.1 with ⟨c, rfl, -⟩ | ⟨hspace, htight⟩
    · rfl
    · obtain ⟨c, u, htext, hc⟩ := htight.exists_cons
      rw [List.flatMap_cons, htext]
      simp [hc, hspace]

/-- The text of units is blank exactly if all of them are white space. -/
lemma all_flatMap_text {bs : List Atom} (hbs : ∀ b ∈ bs, b.IsUnit) :
    (bs.flatMap Atom.text).all isBlank = bs.all Atom.isSpace := by
  induction bs with
  | nil => rfl
  | cons b bs ih =>
    rw [List.forall_mem_cons] at hbs
    rw [List.flatMap_cons, List.all_append, ih hbs.2, List.all_cons]
    rcases hbs.1 with ⟨c, rfl, -⟩ | ⟨hspace, htight⟩
    · simp [Atom.text, Atom.isSpace]
    · obtain ⟨c, u, htext, hc⟩ := htight.exists_cons
      rw [htext]
      simp [hc, hspace]

/-- Collapsing the text of atoms leaves what the author sees. -/
lemma collapse_flatMap_text {bs : List Atom} (hbs : ∀ b ∈ bs, b.IsUnit) :
    Text.collapse (bs.flatMap Atom.text) = squeeze bs := by
  induction bs with
  | nil => rfl
  | cons b bs ih =>
    rw [List.forall_mem_cons] at hbs
    rw [List.flatMap_cons, squeeze, ← ih hbs.2]
    rcases hbs.1 with ⟨c, rfl, hc⟩ | ⟨hspace, htight⟩
    · have hblank : ∀ d ∈ (Atom.plain c).text, isBlank d := by
        intro d hd
        rwa [List.mem_singleton.mp hd]
      have hspace : (Atom.plain c).isSpace = true := hc
      rw [if_pos hspace, Text.collapse_append_of_blank hblank]
    · have hcounts : ¬ b.isSpace = true := Bool.eq_false_iff.mp hspace
      rw [if_neg hcounts, htight.collapse_append, head?_flatMap_text hbs.2, all_flatMap_text hbs.2]

/-! ### Sheets with harmless strings -/

namespace Sheet

variable {s : Sheet}

/-- The values of a harmless sheet have harmless strings and characters that a value may hold. -/
lemma IsHarmless.value (h : s.IsHarmless) {r : Layout (List Atom)} (hr : r ∈ s.rules)
    {d : List Atom × List Atom} (hd : d ∈ r.declarations) :
    ∀ b ∈ d.2, b.OfKind (fun c => isValueChar c) fun quote content =>
      IsQuotable quote content ∧ Style.IsHarmless content := by
  intro b hb
  have hkind := s.values r hr d hd b hb
  cases b with
  | plain c => exact hkind.1
  | quoted quote content => exact ⟨hkind, h.strings quote content ⟨r, hr, d, hd, hb⟩⟩
  | comment inside => exact hkind

/-- Whatever holds of code and of what is in the values holds of all that is in the sheet. -/
lemma forall_mem_atoms {p : Atom → Prop} (hcode : ∀ b : Atom, b.IsCode (fun _ => True) → p b)
    (hvalues : ∀ r ∈ s.rules, ∀ d ∈ r.declarations, ∀ b ∈ d.2, p b) : ∀ b ∈ s.atoms, p b := by
  have hany : ∀ {q : Char → Prop} {b : Atom}, b.IsCode q → p b :=
    fun hb => hcode _ (hb.mono (fun _ _ => trivial) fun _ _ hnone => hnone)
  intro b hb
  rcases List.mem_append.mp hb with hb | hb
  · obtain ⟨r, hr, hb⟩ := List.mem_flatMap.mp hb
    refine Layout.forall_mem_render (fun c => hcode (.plain c) trivial) ?_ ?_ (hvalues r hr) ?_ b hb
    · exact fun b hb => hany (s.selectors r hr b hb)
    · exact fun d hd b hb => hany (s.names r hr d hd b hb)
    · exact fun e he b hb => hany (s.endings r hr e he b hb)
  · exact hany (s.behind_blank b hb)

/-- Each string of a sheet stands in a value. -/
lemma hasString_of_mem {quote : Char} {content : Text}
    (h : Atom.quoted quote content ∈ s.atoms) : s.HasString quote content := by
  refine forall_mem_atoms (p := fun b => b = .quoted quote content → s.HasString quote content)
    ?_ ?_ _ h rfl
  · rintro b hb rfl
    exact hb.elim
  · rintro r hr d hd b hb rfl
    exact ⟨r, hr, d, hd, hb⟩

/-- The text without comments is what the atoms leave. -/
lemma IsHarmless.removeComments_text (h : s.IsHarmless) :
    removeComments s.text = s.atoms.flatMap Atom.kept := by
  refine removeComments_flatMap_text (forall_mem_atoms ?_ ?_) s.no_opening h.clear
  · exact fun b hb => hb.mono (fun _ hc => hc) fun _ _ hnone => hnone.elim
  · exact fun r hr d hd b hb => (s.values r hr d hd b hb).mono (fun _ _ => trivial)
      fun _ _ hstring => hstring.quote_cases

/-- What a rule leaves has no mark in its pieces. -/
lemma IsHarmless.isPlain (h : s.IsHarmless) {r : Layout (List Atom)} (hr : r ∈ s.rules) :
    (r.map fun p => p.flatMap Atom.kept).IsPlain where
  selector := Atom.IsCode.flatMap_kept (s.selectors r hr)
  names := by
    intro e he
    obtain ⟨d, hd, rfl⟩ := List.mem_map.mp he
    exact Atom.IsCode.flatMap_kept (s.names r hr d hd)
  values := by
    intro e he c hc
    obtain ⟨d, hd, rfl⟩ := List.mem_map.mp he
    obtain ⟨b, hb, hc⟩ := List.mem_flatMap.mp hc
    refine (h.value hr hd b hb).kept ?_ c hc
    rintro quote content ⟨hquotable, hharmless⟩ c hc
    have hquote : isValueChar quote := by
      rcases hquotable.quote_cases with rfl | rfl <;> decide
    rw [List.mem_cons, List.mem_append, List.mem_singleton] at hc
    rcases hc with rfl | hc | rfl
    · exact hquote
    · exact hharmless.marks c hc
    · exact hquote
  ending := by
    intro p hp
    obtain ⟨e, he, rfl⟩ := Option.map_eq_some_iff.mp hp
    exact Atom.IsCode.flatMap_kept (s.endings r hr e he)

/-- A value is read as the author sees it. -/
lemma IsHarmless.collapse_value (h : s.IsHarmless) {r : Layout (List Atom)} (hr : r ∈ s.rules)
    {d : List Atom × List Atom} (hd : d ∈ r.declarations) :
    Text.collapse (d.2.flatMap Atom.kept) = squeeze (visible d.2) ∧
      (squeeze (visible d.2) = [] ↔ (visible d.2).all Atom.isSpace) := by
  have hunits : ∀ b ∈ visible d.2, b.IsUnit := by
    intro b hb
    obtain ⟨hb, hcomment⟩ := List.mem_filter.mp hb
    have hkind := h.value hr hd b hb
    cases b with
    | plain c => exact Atom.isUnit_plain c
    | quoted quote content => exact Or.inr ⟨rfl, hkind.2.isTight hkind.1⟩
    | comment inside => cases hcomment
  refine ⟨?_, ?_⟩
  · rw [flatMap_kept, collapse_flatMap_text hunits]
  · rw [← collapse_flatMap_text hunits, Text.collapse_eq_nil_iff, all_flatMap_text hunits]

/-- The declarations of a rule are its definitions and those of other properties. -/
lemma IsHarmless.filter_written (h : s.IsHarmless) {r : Layout (List Atom)} (hr : r ∈ s.rules) :
    ((r.map fun p => p.flatMap Atom.kept).declarations.filterMap written?).filter
        (fun d => isCustomProperty d.1)
      = r.definitions.map fun d => (d.1, squeeze d.2) := by
  rw [Layout.map, List.filterMap_map, Layout.definitions, List.map_filterMap,
    List.filter_filterMap]
  refine List.filterMap_congr fun d hd => ?_
  obtain ⟨hvalue, hempty⟩ := h.collapse_value hr hd
  simp only [Function.comp_apply, written?, hvalue]
  generalize Text.strip (d.1.flatMap Atom.kept) = name
  cases hcustom : isCustomProperty name with
  | false => split <;> simp [hcustom]
  | true =>
    have hname : name ≠ [] := by
      rintro rfl
      cases hcustom
    cases hall : (visible d.2).all Atom.isSpace with
    | true =>
      rw [if_pos (Or.inr (hempty.mpr hall))]
      rfl
    | false =>
      have hsome : ¬ (name = [] ∨ squeeze (visible d.2) = []) := by
        rw [hempty, hall]
        simp [hname]
      rw [if_neg hsome]
      simp [Option.filter, hcustom]

/-- The variables of a sheet with harmless strings are those that its author defines. -/
theorem IsHarmless.variablesOf_text (h : s.IsHarmless) :
    variablesOf .scopes s.text
      = OrderedMap.ofList (s.definitions.map fun d => (d.1, squeeze d.2)) := by
  have hbehind : '\x7d' ∉ s.behind.flatMap Atom.kept := by
    intro hmem
    have hblank := Atom.IsCode.flatMap_kept s.behind_blank _ hmem
    revert hblank
    decide
  have hmark : ∀ c, (Atom.plain c).kept = [c] := fun _ => rfl
  have hrender : s.atoms.flatMap Atom.kept
      = (s.rules.map (Layout.map fun p => p.flatMap Atom.kept)).flatMap (Layout.render id)
        ++ s.behind.flatMap Atom.kept := by
    rw [atoms, atomsOf, List.flatMap_append, List.flatMap_assoc, List.flatMap_map]
    simp only [Layout.flatMap_render hmark]
  have hplain : ∀ r ∈ s.rules.map (Layout.map fun p => p.flatMap Atom.kept), r.IsPlain := by
    intro r' hr'
    obtain ⟨r, hr, rfl⟩ := List.mem_map.mp hr'
    exact h.isPlain hr
  have haccepted : ∀ r ∈ s.rules.map (Layout.map fun p => p.flatMap Atom.kept),
      Acceptance.scopes.selector (Text.collapse r.selector) := by
    intro r' hr'
    obtain ⟨r, hr, rfl⟩ := List.mem_map.mp hr'
    exact s.accepted r hr
  rw [variablesOf_eq, h.removeComments_text, hrender,
    Layout.ofList_definitions_render hplain haccepted hbehind, List.flatMap_map, definitions,
    List.map_flatMap, List.flatMap_congr fun r hr => h.filter_written hr]

/-! ### Sheets with the same text outside their strings -/

/-- A rule with hollow strings defines the same names with the hollow values. -/
lemma definitions_hollow {r : Layout (List Atom)} (hr : r ∈ s.rules) :
    (r.map (List.map Atom.hollow)).definitions
      = r.definitions.map fun d => (d.1, d.2.map Atom.hollow) := by
  rw [Layout.definitions, Layout.definitions, Layout.map, List.filterMap_map, List.map_filterMap]
  refine List.filterMap_congr fun d hd => ?_
  have hname : d.1.map Atom.hollow = d.1 :=
    Atom.map_hollow fun _ _ hmem => (s.names r hr d hd _ hmem).elim
  have hvisible : visible (d.2.map Atom.hollow) = (visible d.2).map Atom.hollow := by
    simp [visible, List.filter_map, Function.comp_def]
  have hall : ((visible d.2).map Atom.hollow).all Atom.isSpace
      = (visible d.2).all Atom.isSpace := by
    simp [List.all_map, Function.comp_def]
  simp only [Function.comp_apply, hname, hvisible, hall]
  split <;> rfl

/-- With other strings a sheet defines the same names, and the same values but for strings. -/
lemma IsLettered.map_definitions {t : Sheet} (h : s.IsLettered t) :
    t.definitions.map (fun d => (d.1, d.2.map Atom.hollow))
      = s.definitions.map fun d => (d.1, d.2.map Atom.hollow) := by
  have hollowed : ∀ u : Sheet, u.definitions.map (fun d => (d.1, d.2.map Atom.hollow))
      = (u.rules.map (Layout.map (List.map Atom.hollow))).flatMap Layout.definitions := by
    intro u
    rw [definitions, List.map_flatMap, List.flatMap_map,
      List.flatMap_congr fun r hr => definitions_hollow hr]
  rw [hollowed, hollowed, h.rules]

/-- A letter may stand in a value, is no white space and opens no comment. -/
lemma letter_cases {c : Char} (hc : c.isAlpha) :
    isValueChar c ∧ isBlank c = false ∧ c ≠ '/' := by
  have hcode := Text.toNat_of_isAlpha hc
  refine ⟨isValueChar_iff.mpr ⟨?_, ?_, ?_⟩, ?_, ?_⟩
  · rintro rfl
    cases hc
  · rintro rfl
    cases hc
  · rintro rfl
    cases hc
  · simp only [isBlank, Bool.or_eq_false_iff, Bool.and_eq_false_iff, decide_eq_false_iff_not,
      beq_eq_false_iff_ne]
    omega
  · rintro rfl
    cases hc

/-- Strings without the opening of a comment begin none. -/
lemma isHarmless_of_no_opening
    (h : ∀ q w, s.HasString q w → Style.IsHarmless w ∧ ¬ ['/', '*'] <:+: w) : s.IsHarmless where
  strings := fun q w hstring => (h q w hstring).1
  clear := isClear_of_no_opening fun q w hmem => (h q w (hasString_of_mem hmem)).2

/-- Letters are harmless, and begin no comment. -/
lemma IsLettered.isHarmless {t : Sheet} (h : s.IsLettered t) : t.IsHarmless := by
  refine isHarmless_of_no_opening fun q w hstring => ?_
  have hletters := h.letters q w hstring
  refine ⟨⟨fun c hc => (letter_cases (hletters c hc)).1, fun c hc hblank => ?_⟩, fun hopening => ?_⟩
  · rw [(letter_cases (hletters c hc)).2.1] at hblank
    cases hblank
  · exact (letter_cases (hletters '/' (hopening.subset List.mem_cons_self))).2.2 rfl

/-- A sheet with harmless strings is read opaquely. -/
lemma IsHarmless.readsOpaquely (h : s.IsHarmless) : ReadsOpaquely s := by
  refine ⟨h.variablesOf_text, fun t ht => ?_⟩
  have htext := h.variablesOf_text
  have hdefinitions := ht.map_definitions
  rw [htext, ht.isHarmless.variablesOf_text]
  refine ⟨?_, ?_⟩
  · have hnames : ∀ {α : Type} (g : List Atom → α) (u : Sheet),
        (u.definitions.map fun d => (d.1, g d.2)).map Prod.fst = u.definitions.map Prod.fst :=
      fun _ _ => List.map_map
    have hsame := congrArg (List.map Prod.fst) hdefinitions
    rw [hnames, hnames] at hsame
    rw [OrderedMap.keys_ofList, OrderedMap.keys_ofList, hnames, hnames, hsame]
  · intro name value hvalue hnone
    have hfound := congrArg (fun ds => (OrderedMap.ofList ds).get? name) hdefinitions
    simp only [OrderedMap.get?_ofList_map, hvalue, Option.map_some, Atom.map_hollow hnone] at hfound
    obtain ⟨value', hvalue', hsame⟩ := Option.map_eq_some_iff.mp hfound
    have hnone' : ∀ quote content, Atom.quoted quote content ∉ value' := by
      intro quote content hmem
      have hhollow : Atom.hollow (.quoted quote content) ∈ value'.map Atom.hollow :=
        List.mem_map_of_mem hmem
      rw [hsame] at hhollow
      exact hnone quote [] hhollow
    rw [Atom.map_hollow hnone'] at hsame
    rw [OrderedMap.get?_ofList_map, OrderedMap.get?_ofList_map, hvalue', hvalue, hsame]

end Sheet

/-! ### Strings that do harm -/

/-- A value that the reader returns is collapsed from a text that is left when comments are removed,
and that has no mark in it. -/
lemma exists_of_get?_variablesOf {a : Acceptance} {t name value : Text}
    (h : (variablesOf a t).get? name = some value) :
    ∃ v, v <:+: removeComments t ∧ (∀ c ∈ v, isValueChar c) ∧ value = Text.collapse v := by
  obtain ⟨r, hr, hdefined⟩ := List.mem_flatMap.mp (OrderedMap.mem_of_get?_ofList h)
  obtain ⟨before, raw, block, behind, hplace, hcontent⟩ :=
    exists_mem_rules_iff.mp ⟨r, (List.mem_filter.mp hr).1, rfl⟩
  obtain ⟨-, -, hsays⟩ := blockContent?_eq_some_iff.mp hcontent
  have hfound := OrderedMap.mem_entries_iff.mp (List.mem_filter.mp hdefined).1
  rw [show r.declarations = blockDeclarations block from (congrArg Prod.snd hsays).symm] at hfound
  obtain ⟨part, hpart, hdeclared⟩ := List.mem_filterMap.mp (OrderedMap.mem_of_get?_ofList hfound)
  obtain ⟨x, b, v, hsplit, -, -, -, -, -, hvalue⟩ := exists_of_declaration? hdeclared
  have hv : v <:+ part := ⟨x ++ (name ++ (b ++ [':'])), by rw [hsplit]; simp⟩
  have hblock := Text.infix_of_mem_splitOn hpart
  have htext : block <:+: removeComments t :=
    ⟨before ++ (raw ++ ['\x7b']), '\x7d' :: behind, by rw [hplace.text]; simp⟩
  refine ⟨v, hv.isInfix.trans (hblock.trans htext), fun c hc => ?_, hvalue⟩
  have hmem : c ∈ part := hv.subset hc
  refine isValueChar_iff.mpr ⟨?_, ?_, ?_⟩
  · rintro rfl
    exact Text.not_mem_of_mem_splitOn hpart hmem
  · rintro rfl
    exact hplace.block.1 (hblock.subset hmem)
  · rintro rfl
    exact hplace.block.2 (hblock.subset hmem)

variable {quote : Char} {content : Text}

/-- The end of a comment may be in a string. -/
lemma isQuotable_closing (h : quote = '\x22' ∨ quote = '\x27') : IsQuotable quote ['*', '/'] := by
  rcases h with rfl | rfl <;> decide

/-- The end of a comment is a harmless string that opens no comment. -/
lemma isHarmless_closing : IsHarmless ['*', '/'] ∧ ¬ ['/', '*'] <:+: ['*', '/'] :=
  ⟨⟨by decide, by decide⟩, by decide⟩

/-- A sheet with the string in its only value, and the end of a comment in another string. -/
def probe (h : IsQuotable quote content) : Sheet where
  rules := [⟨":root".toList.map .plain,
    [("--a".toList.map .plain, [.quoted quote content, .quoted quote ['*', '/']])], none⟩]
  behind := []
  selectors := by
    rw [List.forall_mem_singleton]
    dsimp only
    decide
  names := by
    rw [List.forall_mem_singleton, List.forall_mem_singleton]
    dsimp only
    decide
  values := by
    rw [List.forall_mem_singleton, List.forall_mem_singleton, List.forall_mem_cons,
      List.forall_mem_singleton]
    exact ⟨h, isQuotable_closing h.quote_cases⟩
  endings := by simp
  behind_blank := by simp
  accepted := by
    rw [List.forall_mem_singleton]
    dsimp only
    decide +kernel
  no_opening := by
    intro hopening
    have hslash : Atom.plain '/' ∈ atomsOf _ _ := hopening.subset List.mem_cons_self
    simp [atomsOf, Layout.render, Layout.block, Layout.parts] at hslash

/-- The probe defines one name, with both strings in its value. -/
lemma definitions_probe (h : IsQuotable quote content) :
    (probe h).definitions
      = [("--a".toList, [.quoted quote content, .quoted quote ['*', '/']])] :=
  rfl

/-- The text of the probe. -/
lemma text_probe (h : IsQuotable quote content) :
    (probe h).text = ":root\x7b--a:".toList ++
      (quote :: (content ++ [quote]) ++ quote :: '*' :: '/' :: [quote] ++ ['\x7d']) := by
  simp [Sheet.text, Sheet.atoms, atomsOf, probe, Layout.render, Layout.block, Layout.parts,
    Atom.text]

/-- The value of the probe as it was written. -/
lemma squeeze_probe (quote : Char) (content : Text) :
    squeeze [.quoted quote content, .quoted quote ['*', '/']]
      = quote :: (content ++ [quote]) ++ quote :: '*' :: '/' :: [quote] := by
  simp [squeeze, Atom.isSpace, Atom.text]

/-- If the reader returns the value of the probe as it was written, the string is harmless, and
opens no comment. -/
lemma isHarmless_of_intact_probe (h : IsQuotable quote content)
    (hintact : variablesOf .scopes (probe h).text
      = OrderedMap.ofList ((probe h).definitions.map fun d => (d.1, squeeze d.2))) :
    IsHarmless content ∧ ¬ ['/', '*'] <:+: content := by
  have hget : (variablesOf .scopes (probe h).text).get? "--a".toList
      = some (quote :: (content ++ [quote]) ++ quote :: '*' :: '/' :: [quote]) := by
    rw [hintact, definitions_probe, ← squeeze_probe]
    rfl
  obtain ⟨v, hv, hmarks, hvalue⟩ := exists_of_get?_variablesOf hget
  have hcontent : ∀ c ∈ content, c ∈ Text.collapse v := by
    intro c hc
    rw [← hvalue]
    simp [hc]
  refine ⟨⟨?_, ?_⟩, ?_⟩
  · intro c hc
    cases hblank : isBlank c with
    | true => exact isValueChar_of_blank hblank
    | false => exact hmarks c (Text.mem_of_mem_collapse (hcontent c hc) hblank)
  · exact fun c hc hblank => Text.eq_space_of_mem_collapse (hcontent c hc) hblank
  · -- The comment that the string opens is removed, and its slashes are missing in the value.
    rintro ⟨x, y, rfl⟩
    let s : Text :=
      '/' :: '*' :: (y ++ [quote] ++ (quote :: '*' :: '/' :: [quote] ++ ['\x7d']))
    have hs : s <:+ (probe h).text := by
      refine ⟨":root\x7b--a:".toList ++ quote :: x, ?_⟩
      rw [text_probe]
      simp [s]
    have hcomment : comment? s ≠ none := by
      rw [ne_eq, comment?_eq_none_iff_closing?]
      exact fun hopen => closing?_eq_none_iff.mp hopen
        ⟨y ++ [quote, quote], [quote, '\x7d'], by simp⟩
    have hlost := count_removeComments_lt hs hcomment
    have hkept := hv.sublist.count_le '/'
    have hslashes := congrArg (List.count '/') hvalue
    rw [Text.count_collapse (by decide)] at hslashes
    have hwhole := congrArg (List.count '/') (text_probe h)
    have hopening : ":root\x7b--a:".toList.count '/' = 0 := by decide
    have hclosing : ['\x7d'].count '/' = 0 := by decide
    rw [List.count_append, List.count_append, hopening, hclosing] at hwhole
    omega

/-- The reader reads a sheet as its author does if all strings in it are harmless, and no comment
that is opened in one of them is closed.  A string that does harm, or opens a comment, stands in a
sheet that is not read so though its other strings do neither. -/
theorem strings_read_opaquely :
    (∀ s : Sheet, s.IsHarmless → ReadsOpaquely s) ∧
      ∀ quote content, IsQuotable quote content →
        ((∀ s : Sheet, (∀ q w, s.HasString q w →
              (IsHarmless w ∧ ¬ ['/', '*'] <:+: w) ∨ (q = quote ∧ w = content)) → ReadsOpaquely s)
          ↔ IsHarmless content ∧ ¬ ['/', '*'] <:+: content) := by
  refine ⟨fun s hs => hs.readsOpaquely, fun quote content h => ⟨fun hall => ?_, ?_⟩⟩
  · refine isHarmless_of_intact_probe h (hall (probe h) ?_).intact
    rintro q w ⟨r, hr, d, hd, hmem⟩
    obtain rfl := List.mem_singleton.mp hr
    obtain rfl := List.mem_singleton.mp hd
    rcases List.mem_pair.mp hmem with heq | heq
    · exact Or.inr (Atom.quoted.inj heq)
    · rw [(Atom.quoted.inj heq).2]
      exact Or.inl isHarmless_closing
  · intro hharmless s hs
    refine (Sheet.isHarmless_of_no_opening fun q w hstring => ?_).readsOpaquely
    rcases hs q w hstring with hw | ⟨-, rfl⟩
    · exact hw
    · exact hharmless

/-- A sheet with marks of comments and a colon in its string, and a comment before it. -/
def urlSheet : Sheet where
  rules := [⟨":root ".toList.map .plain,
    [("--gap ".toList.map .plain,
        "1px\t ".toList.map .plain ++ .comment " ; \x7d ".toList :: "2px".toList.map .plain),
      ("\n--icon".toList.map .plain,
        " url(".toList.map .plain ++ [.quoted '\x22' "a:b/*, c".toList, .plain ')'])], none⟩]
  behind := [.plain '\n']
  selectors := by decide +kernel
  names := by decide +kernel
  values := by decide +kernel
  endings := by decide +kernel
  behind_blank := by decide +kernel
  accepted := by decide +kernel
  no_opening := by decide +kernel

/-- The string of this sheet is returned as it was written.  A string that is a semicolon does harm
in some sheet. -/
theorem variablesOf_urlSheet :
    urlSheet.text
        = ":root \x7b--gap :1px\t /* ; \x7d */2px;\n--icon: url(\"a:b/*, c\")\x7d\n".toList ∧
      variablesOf .scopes urlSheet.text = OrderedMap.ofList
        [("--gap".toList, "1px 2px".toList), ("--icon".toList, "url(\"a:b/*, c\")".toList)] ∧
      ¬ ∀ s : Sheet, (∀ q w, s.HasString q w →
          (IsHarmless w ∧ ¬ ['/', '*'] <:+: w) ∨ (q = '\x22' ∧ w = [';'])) → ReadsOpaquely s := by
  have hdefinitions : urlSheet.definitions.map (fun d => (d.1, squeeze d.2))
      = [("--gap".toList, "1px 2px".toList), ("--icon".toList, "url(\"a:b/*, c\")".toList)] := by
    decide +kernel
  have hstrings : ∀ r ∈ urlSheet.rules, ∀ d ∈ r.declarations, ∀ b ∈ d.2,
      b.OfKind (fun _ => True) fun _ w =>
        (∀ c ∈ w, isValueChar c) ∧ ∀ c ∈ w, isBlank c → c = ' ' := by
    decide +kernel
  have hharmless : urlSheet.IsHarmless := by
    refine ⟨?_, ?_⟩
    · rintro q w ⟨r, hr, d, hd, hmem⟩
      obtain ⟨hmarks, hspaces⟩ := hstrings r hr d hd _ hmem
      exact ⟨hmarks, hspaces⟩
    · rw [← List.take_append_drop 30 urlSheet.atoms]
      exact isClear_append (by decide +kernel) (by decide +kernel)
  refine ⟨by decide +kernel, ?_, fun hall => ?_⟩
  · rw [(strings_read_opaquely.1 urlSheet hharmless).intact, hdefinitions]
  · have hsemicolon := ((strings_read_opaquely.2 '\x22' [';'] (by decide)).mp hall).1
    have hmark := hsemicolon.marks ';' List.mem_cons_self
    revert hmark
    decide

/-- A sheet with a semicolon in its string. -/
def semicolonSheet : Sheet where
  rules := [⟨":root ".toList.map .plain,
    [(" --a".toList.map .plain, [.plain ' ', .quoted '\x22' "x;y".toList])], some [.plain ' ']⟩]
  behind := []
  selectors := by decide +kernel
  names := by decide +kernel
  values := by decide +kernel
  endings := by decide +kernel
  behind_blank := by simp
  accepted := by decide +kernel
  no_opening := by decide +kernel

/-- The value of this sheet ends at the semicolon in its string. -/
theorem not_readsOpaquely_semicolonSheet :
    semicolonSheet.text = ":root \x7b --a: \"x;y\"; \x7d".toList ∧
      ¬ ReadsOpaquely semicolonSheet := by
  refine ⟨by decide +kernel, fun h => ?_⟩
  have hget := congrArg (fun m => OrderedMap.get? m "--a".toList) h.intact
  revert hget
  decide +kernel

end Style

end DesignTokens
