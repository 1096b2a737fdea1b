import DesignTokens.Proofs.Script.Property

/-!
# Theme configurations as they are written

A theme configuration is a script with one block of tokens.  The entries of the block are separated
by commas, and an entry is an identifier, a colon and a value: a string, a number, a nested object,
or a conditional expression of strings and other code.  Each kind of value comes with what makes a
text one of this kind, so that a `Config` is the text of such a script in its parts, with the
knowledge that no other block of tokens is in it.

What begins in an entry cannot go on behind it: an entry is followed by a comma or by the brace at
the end of the block (`Stops`, `exists_of_stops`).  Therefore a block is in an entry or not whatever
stands around the entry (`NoBlock`), and small configurations are built from the entries of others
(`Config.ofEntries`).
-/

namespace DesignTokens

namespace Script

open Text (Braceless Balanced)

variable {a s t x y z : Text} {c d q : Char}

/-! ### What an entry is made of -/

/-- A text that is nothing but white space. -/
abbrev Blank :=
  {b : Text // ∀ c ∈ b, isBlank c}

instance : Inhabited Blank :=
  ⟨[], List.forall_mem_nil _⟩

/-- A text in quotes.  Its own quote is not in it, nor a line feed, nor a brace. -/
structure Quoted where
  /-- One of the three quotes. -/
  quote : Char
  /-- What stands between the quotes. -/
  body : Text
  isQuote_quote : isQuote quote
  quote_not_mem : quote ∉ body
  lineFeed_not_mem : '\n' ∉ body
  braceless : Braceless body

/-- The text with its quotes. -/
def Quoted.text (s : Quoted) : Text :=
  s.quote :: (s.body ++ [s.quote])

/-- May the character stand in an identifier?  Outside ASCII every character may that is not
white space. -/
def isIdentifierChar (c : Char) : Bool :=
  isAsciiAlnum c || c == '_' || c == '$' || (0x80 ≤ c.toNat && !isBlank c)

/-- Is the text an identifier? -/
def isIdentifier : Text → Bool
  | [] => false
  | c :: t => !isAsciiDigit c && (c :: t).all isIdentifierChar

/-- May the character stand in a number? -/
def isNumberChar (c : Char) : Bool :=
  isAsciiAlnum c || c == '_' || c == '.' || c == '+' || c == '-'

/-- Is the text a number?  It begins with a digit, the point or a sign. -/
def isNumber : Text → Bool
  | [] => false
  | c :: t => (isAsciiDigit c || c == '.' || c == '+' || c == '-') && (c :: t).all isNumberChar

/-- A piece of an expression: a string, or a character of an identifier, of an operator or of the
white space between them. -/
inductive Piece where
  | code (c : Char) (isCode : (isQuote c || Glob.isBrace c || c == ',') = false)
  | string (s : Quoted)

/-- The text of a piece. -/
def Piece.text : Piece → Text
  | .code c _ => [c]
  | .string s => s.text

/-- The text of an expression. -/
def expressionText (ps : List Piece) : Text :=
  ps.flatMap Piece.text

/-- The value of an entry. -/
inductive Value where
  | string (s : Quoted)
  | number (t : Text) (isNumber_text : isNumber t)
  | object (inside : Text) (balanced : Balanced inside)
  | conditional (test consequent alternative : List Piece)

/-- The text of a value. -/
def Value.text : Value → Text
  | .string s => s.text
  | .number t _ => t
  | .object inside _ => '\x7b' :: (inside ++ ['\x7d'])
  | .conditional test consequent alternative =>
      expressionText test ++ '?' :: (expressionText consequent ++ ':' :: expressionText alternative)

/-- Is the value a nested object? -/
def Value.IsObject : Value → Prop
  | .object _ _ => True
  | _ => False

/-- Is the value a conditional? -/
def Value.IsConditional : Value → Prop
  | .conditional _ _ _ => True
  | _ => False

/-- An entry of a block, with the white space around its parts. -/
structure Entry where
  lead : Blank
  key : Text
  isIdentifier_key : isIdentifier key
  gap : Blank
  gap' : Blank
  value : Value
  trail : Blank

/-- The text of an entry. -/
def Entry.text (e : Entry) : Text :=
  e.lead.1 ++ (e.key ++ (e.gap.1 ++ ':' :: (e.gap'.1 ++ (e.value.text ++ e.trail.1))))

/-- An entry without white space. -/
def Entry.plain (key : Text) (isIdentifier_key : isIdentifier key) (value : Value) : Entry where
  lead := default
  key := key
  isIdentifier_key := isIdentifier_key
  gap := default
  gap' := default
  value := value
  trail := default

/-- The key and the contents of an entry whose value is a string. -/
def Entry.string? (e : Entry) : Option (Text × Text) :=
  match e.value with
  | .string s => some (e.key, s.body)
  | _ => none

/-! ### Configurations -/

/-- The inside of a block.  What comes behind the last entry may be white space and a comma. -/
def insideText (es : List Entry) (tail : Text) : Text :=
  [','].intercalate (es.map Entry.text) ++ tail

/-- A block of tokens, and the text behind it. -/
def blockText (b₁ b₂ : Blank) (inside rest : Text) : Text :=
  "token".toList ++ (b₁.1 ++ ':' :: (b₂.1 ++ '\x7b' :: (inside ++ '\x7d' :: rest)))

/-- A script with a block of tokens. -/
structure Layout where
  /-- What stands before the block. -/
  before : Text
  gap : Blank
  gap' : Blank
  entries : List Entry
  /-- What stands behind the last entry. -/
  tail : Text
  isTail : ∀ c ∈ tail, isBlank c ∨ c = ','
  /-- What stands behind the block. -/
  after : Text

/-- The inside of the block. -/
def Layout.inside (l : Layout) : Text :=
  insideText l.entries l.tail

/-- The text of the script. -/
def Layout.text (l : Layout) : Text :=
  l.before ++ blockText l.gap l.gap' l.inside l.after

/-- The strings among the entries, by their keys: the last one counts of those with one key. -/
def Layout.strings (l : Layout) : OrderedMap Text Text :=
  OrderedMap.ofList (l.entries.filterMap Entry.string?)

/-- A script with one block of tokens: no word is cut where it begins, and no block begins
elsewhere. -/
structure Config extends Layout where
  wordStart : ∀ c ∈ toLayout.before.getLast?, isWordChar c = false
  unique : ∀ x y, toLayout.text = x ++ y → BlockAt x y → x = toLayout.before

/-! ### Braces -/

/-- A class of characters without certain marks has none of them. -/
lemma eq_false_of_class {p m : Char → Bool} {marks : List Char} (hm : ∀ c, m c → c ∈ marks)
    (hp : ∀ a ∈ marks, p a = false) (hc : p c) : m c = false := by
  by_contra hmark
  rw [hp c (hm c (Bool.not_eq_false _ ▸ hmark))] at hc
  cases hc

/-- Characters of a class without braces. -/
lemma braceless_of_forall {p : Char → Bool} (hp : ∀ a ∈ ['\x7b', '\x7d'], p a = false)
    (h : ∀ c ∈ t, p c) : Braceless t :=
  fun c hc => eq_false_of_class (fun d hd => by simpa [Glob.isBrace] using hd) hp (h c hc)

/-- White space has no braces. -/
lemma Blank.braceless (b : Blank) : Braceless b.1 :=
  braceless_of_forall (by decide) b.2

/-- An identifier is made of the characters of identifiers. -/
lemma forall_isIdentifierChar (h : isIdentifier t) : ∀ c ∈ t, isIdentifierChar c := by
  cases t with
  | nil => exact List.forall_mem_nil _
  | cons c t => exact List.all_eq_true.mp (Bool.and_eq_true _ _ ▸ h).2

/-- A number is made of the characters of numbers. -/
lemma forall_isNumberChar (h : isNumber t) : ∀ c ∈ t, isNumberChar c := by
  cases t with
  | nil => exact List.forall_mem_nil _
  | cons c t => exact List.all_eq_true.mp (Bool.and_eq_true _ _ ▸ h).2

/-- A text in quotes has no braces. -/
lemma Quoted.braceless_text (s : Quoted) : Braceless s.text := by
  have hquote : Glob.isBrace s.quote = false := by
    have hs := s.isQuote_quote
    rw [isQuote, Bool.or_eq_true, Bool.or_eq_true, beq_iff_eq, beq_iff_eq, beq_iff_eq] at hs
    rcases hs with (hs | hs) | hs <;> rw [hs] <;> rfl
  refine List.forall_mem_cons.mpr ⟨hquote, s.braceless.append ?_⟩
  exact List.forall_mem_singleton.mpr hquote

/-- An expression has no braces. -/
lemma braceless_expressionText (ps : List Piece) : Braceless (expressionText ps) := by
  intro c hc
  obtain ⟨p, -, hcp⟩ := List.mem_flatMap.mp hc
  cases p with
  | code d isCode =>
    obtain rfl := List.mem_singleton.mp hcp
    rw [Bool.or_eq_false_iff, Bool.or_eq_false_iff] at isCode
    exact isCode.1.2
  | string s => exact s.braceless_text c hcp

/-- A value that is no object has no braces. -/
lemma Value.braceless_text {v : Value} (h : ¬ v.IsObject) : Braceless v.text := by
  cases v with
  | string s => exact s.braceless_text
  | number t isNumber_text =>
    exact braceless_of_forall (by decide) (forall_isNumberChar isNumber_text)
  | object inside balanced => exact absurd trivial h
  | conditional test consequent alternative =>
    refine (braceless_expressionText test).append (List.forall_mem_cons.mpr ⟨by decide, ?_⟩)
    refine (braceless_expressionText consequent).append (List.forall_mem_cons.mpr ⟨by decide, ?_⟩)
    exact braceless_expressionText alternative

/-- The braces of a value are balanced. -/
lemma Value.balanced_text (v : Value) : Balanced v.text := by
  by_cases h : v.IsObject
  · cases v with
    | object inside balanced => exact balanced.group (t := []) rfl
    | _ => exact h.elim
  · exact (Value.braceless_text h).balanced

/-- The braces of an entry are those of its value. -/
lemma Entry.exists_text (e : Entry) : ∃ f t, e.text = f ++ (e.value.text ++ t) ∧ Braceless f ∧
    Braceless t := by
  have hkey : Braceless e.key :=
    braceless_of_forall (by decide) (forall_isIdentifierChar e.isIdentifier_key)
  refine ⟨e.lead.1 ++ (e.key ++ (e.gap.1 ++ ':' :: e.gap'.1)), e.trail.1, by simp [Entry.text],
    ?_, e.trail.braceless⟩
  refine e.lead.braceless.append (hkey.append (e.gap.braceless.append ?_))
  exact List.forall_mem_cons.mpr ⟨by decide, e.gap'.braceless⟩

/-- An entry has no braces unless its value is a nested object. -/
lemma Entry.braceless_text {e : Entry} (h : ¬ e.value.IsObject) : Braceless e.text := by
  obtain ⟨f, t, htext, hf, ht⟩ := e.exists_text
  rw [htext]
  exact hf.append ((Value.braceless_text h).append ht)

/-- The braces of an entry are balanced. -/
lemma Entry.balanced_text (e : Entry) : Balanced e.text := by
  obtain ⟨f, t, htext, hf, ht⟩ := e.exists_text
  rw [htext]
  exact hf.balanced.append (e.value.balanced_text.append ht.balanced)

/-! ### The inside of a block -/

/-- Without entries the inside of a block is what comes behind them. -/
lemma insideText_nil (tail : Text) : insideText [] tail = tail :=
  List.nil_append tail

/-- A single entry stands alone. -/
lemma insideText_singleton (e : Entry) (tail : Text) : insideText [e] tail = e.text ++ tail := by
  rw [insideText, List.map_singleton, List.intercalate_singleton]

/-- A comma separates an entry from the next one. -/
lemma insideText_cons_cons (e f : Entry) (es : List Entry) (tail : Text) :
    insideText (e :: f :: es) tail = e.text ++ ',' :: insideText (f :: es) tail := by
  rw [insideText, List.map_cons, List.intercalate_cons_of_ne_nil (by simp), insideText]
  simp

/-- What holds of the entries, of a comma and of what stands behind the last entry holds of the
inside, if it holds of two texts in a row when it holds of each. -/
lemma insideText_induction {P : Text → Prop} {es : List Entry} {tail : Text}
    (append : ∀ s t, P s → P t → P (s ++ t)) (comma : P [',']) (tail_mem : P tail)
    (entry : ∀ e ∈ es, P e.text) : P (insideText es tail) := by
  induction es with
  | nil => exact (insideText_nil tail).symm ▸ tail_mem
  | cons e es ih =>
    rw [List.forall_mem_cons] at entry
    cases es with
    | nil =>
      rw [insideText_singleton]
      exact append _ _ entry.1 tail_mem
    | cons f es =>
      rw [insideText_cons_cons]
      exact append _ _ entry.1 (append [','] _ comma (ih entry.2))

/-- What comes behind the last entry has no braces. -/
lemma Layout.braceless_tail (l : Layout) : Braceless l.tail :=
  braceless_of_forall (p := fun c => isBlank c || c == ',') (by decide) fun c hc => by
    simpa using l.isTail c hc

/-- The braces inside the block are balanced. -/
lemma Layout.balanced_inside (l : Layout) : Balanced l.inside :=
  insideText_induction (fun _ _ => Balanced.append) rfl l.braceless_tail.balanced
    fun e _ => e.balanced_text

/-- Without nested objects there are no braces inside. -/
lemma Layout.braceless_inside {l : Layout} (h : ∀ e ∈ l.entries, ¬ e.value.IsObject) :
    Braceless l.inside :=
  insideText_induction (fun _ _ => Braceless.append) (by decide) l.braceless_tail
    fun e he => Entry.braceless_text (h e he)

/-- An entry stands at the beginning of the inside, or behind a comma. -/
lemma exists_insideText {e : Entry} {es : List Entry} (he : e ∈ es) (tail : Text) :
    ∃ x y, insideText es tail = x ++ (e.text ++ y) ∧ ∀ c ∈ x.getLast?, c = ',' := by
  induction es with
  | nil => cases he
  | cons f es ih =>
    rcases List.mem_cons.mp he with rfl | he
    · cases es with
      | nil => exact ⟨[], tail, insideText_singleton e tail, nofun⟩
      | cons f es => exact ⟨[], _, insideText_cons_cons e f es tail, nofun⟩
    · obtain ⟨x, y, heq, hx⟩ := ih he
      obtain ⟨g, gs, rfl⟩ := List.exists_cons_of_ne_nil (List.ne_nil_of_mem he)
      refine ⟨f.text ++ ',' :: x, y, by rw [insideText_cons_cons, heq]; simp, ?_⟩
      intro c hc
      rw [Text.getLast?_append_cons, Option.mem_def, Option.or_eq_some_iff] at hc
      rcases hc with hc | ⟨-, hc⟩
      · exact hx c hc
      · exact (Option.some.inj hc).symm

/-! ### What an entry ends with -/

/-- The characters that end an entry. -/
def isStop (c : Char) : Bool :=
  c == ',' || c == '\x7d'

/-- The text begins with a character that ends an entry, if white space does not count. -/
def Stops (t : Text) : Prop :=
  ∀ c ∈ (Text.stripLeft t).head?, isStop c

/-- A text that begins with the end of an entry stops. -/
lemma stops_cons (hc : isStop c) (t : Text) : Stops (c :: t) := by
  have hvisible : isBlank c = false := by
    rw [isStop, Bool.or_eq_true, beq_iff_eq, beq_iff_eq] at hc
    rcases hc with rfl | rfl <;> decide
  intro d hd
  rw [Text.stripLeft, List.dropWhile_cons_of_neg (by simp [hvisible])] at hd
  cases hd
  exact hc

/-- What comes behind the last entry is followed by the end of the block. -/
lemma Layout.stops_tail (l : Layout) : Stops l.tail := by
  intro c hc
  have hmem : c ∈ l.tail := (List.dropWhile_sublist isBlank).subset (List.mem_of_mem_head? hc)
  rcases l.isTail c hmem with hblank | rfl
  · have hnot := List.head?_dropWhile_not isBlank l.tail
    rw [← Text.stripLeft, Option.mem_def.mp hc] at hnot
    exact absurd hblank (Bool.eq_false_iff.mp hnot)
  · rfl

/-- A class of characters without comma and closing brace has none that ends an entry. -/
lemma isStop_eq_false {p : Char → Bool} (hp : ∀ a ∈ [',', '\x7d'], p a = false) (hc : p c) :
    isStop c = false :=
  eq_false_of_class (fun d hd => by simpa [isStop] using hd) hp hc

/-- White space does not end an entry. -/
lemma isStop_of_blank (hc : isBlank c) : isStop c = false :=
  isStop_eq_false (by decide) hc

/-- What has no character that ends an entry in it, and no white space at its end, does not go on
behind the entry. -/
lemma exists_of_stops (hx : ∀ d ∈ x, isStop d = false) (hc : isBlank c = false)
    (hc' : isStop c = false) (hz : Stops z) (h : a ++ z = x ++ c :: y) :
    ∃ a', a = x ++ c :: a' ∧ y = a' ++ z := by
  rcases Text.append_eq_append_cons h with ⟨m, rfl, rfl⟩ | hin
  · rw [Stops, Text.stripLeft_append_cons hc] at hz
    cases hm : Text.stripLeft m with
    | nil =>
      rw [hm] at hz
      rw [hz c rfl] at hc'
      cases hc'
    | cons d m' =>
      rw [hm] at hz
      have hmem : d ∈ m := by
        refine (List.dropWhile_sublist isBlank).subset ?_
        rw [← Text.stripLeft, hm]
        exact List.mem_cons_self
      have hstop := hx d (List.mem_append_right a hmem)
      rw [hz d rfl] at hstop
      cases hstop
  · exact hin

/-! ### Where no block begins -/

/-- No block begins in the text. -/
def NoBlock (t : Text) : Prop :=
  ∀ x y, t = x ++ y → ¬ BlockAt x y

/-- Where a block begins behind a text, it begins behind every end of that text. -/
lemma BlockAt.of_append (h : BlockAt (s ++ x) y) : BlockAt x y := by
  refine ⟨fun c hc => h.1 c ?_, h.2⟩
  rw [List.getLast?_append, Option.mem_def.mp hc]
  rfl

/-- A block that begins in an entry has its opening brace there. -/
lemma opens_of_append (hz : Stops z) (h : Opens (a ++ z)) : Opens a := by
  obtain ⟨b₁, b₂, rest, hb₁, hb₂, heq⟩ := h
  have hword : ∀ d ∈ "token".toList ++ (b₁ ++ ':' :: b₂), isStop d = false := by
    refine List.forall_mem_append.mpr ⟨by decide, List.forall_mem_append.mpr ⟨?_, ?_⟩⟩
    · exact fun d hd => isStop_of_blank (hb₁ d hd)
    · exact List.forall_mem_cons.mpr ⟨rfl, fun d hd => isStop_of_blank (hb₂ d hd)⟩
  obtain ⟨a', rfl, -⟩ := exists_of_stops (c := '\x7b') (y := rest) hword (by decide) rfl hz
    (by rw [heq]; simp)
  exact ⟨b₁, b₂, a', hb₁, hb₂, by simp⟩

/-- Whatever follows the brace that is opened, a block is opened. -/
lemma Opens.append (h : Opens t) (s : Text) : Opens (t ++ s) := by
  obtain ⟨b₁, b₂, rest, hb₁, hb₂, rfl⟩ := h
  exact ⟨b₁, b₂, rest ++ s, hb₁, hb₂, by simp⟩

/-- In the empty text no block begins. -/
lemma noBlock_nil : NoBlock [] := by
  intro x y heq hblock
  obtain ⟨-, rfl⟩ := List.append_eq_nil_iff.mp heq.symm
  obtain ⟨b₁, b₂, rest, -, -, hopens⟩ := hblock.2
  cases hopens

/-- No block begins in two texts if none does in either and the second one stops the entry. -/
lemma NoBlock.append (ht : NoBlock t) (hz : NoBlock z) (hstops : Stops z) : NoBlock (t ++ z) := by
  intro x y heq hblock
  rcases List.append_eq_append_iff.mp heq with ⟨a, rfl, rfl⟩ | ⟨a, rfl, rfl⟩
  · exact hz a y rfl hblock.of_append
  · exact ht x a rfl ⟨hblock.1, opens_of_append hstops hblock.2⟩

/-- A block begins with the first letter of its word. -/
lemma NoBlock.append_left (ht : NoBlock t) (hs : 't' ∉ s) : NoBlock (s ++ t) := by
  intro x y heq hblock
  rcases List.append_eq_append_iff.mp heq with ⟨a, rfl, rfl⟩ | ⟨a, rfl, rfl⟩
  · exact ht a y rfl hblock.of_append
  · cases a with
    | nil =>
      rw [List.nil_append] at hblock
      exact ht [] t rfl ⟨nofun, hblock.2⟩
    | cons c a =>
      obtain ⟨b₁, b₂, rest, -, -, hopens⟩ := hblock.2
      have hfirst : c = 't' := Option.some.inj (congrArg List.head? hopens)
      exact hs (List.mem_append_right x (hfirst ▸ List.mem_cons_self))

/-- A text without the first letter of the word has no block. -/
lemma noBlock_of_not_mem (h : 't' ∉ t) : NoBlock t := by
  have hnone := noBlock_nil.append_left h
  rwa [List.append_nil] at hnone

/-- No block begins in an entry of a configuration: it would be another one. -/
lemma Config.noBlock_entry (c : Config) {e : Entry} (he : e ∈ c.entries) : NoBlock e.text := by
  intro x y heq hblock
  obtain ⟨u, v, hinside, hu⟩ := exists_insideText he c.tail
  set front := c.before ++ ("token".toList ++ (c.gap.1 ++ ':' :: c.gap'.1)) with hfront
  have htext : c.text = (front ++ '\x7b' :: (u ++ x)) ++ (y ++ (v ++ '\x7d' :: c.after)) := by
    rw [Layout.text, blockText, Layout.inside, hinside, heq, hfront]
    simp
  have hbefore := c.unique _ _ htext ⟨?_, hblock.2.append _⟩
  · have hlength := congrArg List.length hbefore
    simp [hfront] at hlength
  · -- In front of the entry stands the opening brace of the block, or a comma.
    intro d hd
    rw [Text.getLast?_append_cons, List.getLast?_append, Option.mem_def, Option.or_eq_some_iff,
      Option.or_eq_some_iff] at hd
    rcases hd with (hd | ⟨-, hd⟩) | ⟨-, hd⟩
    · exact hblock.1 d hd
    · rw [hu d hd]
      decide
    · rw [← Option.some.inj hd]
      decide

/-- No block begins among the entries of a block if none does in each of them. -/
lemma noBlock_insideText {es : List Entry} (h : ∀ e ∈ es, NoBlock e.text) :
    NoBlock (insideText es [] ++ ['\x7d']) := by
  have hend : NoBlock ['\x7d'] := noBlock_of_not_mem (by decide)
  induction es with
  | nil => exact hend
  | cons e es ih =>
    rw [List.forall_mem_cons] at h
    cases es with
    | nil =>
      rw [insideText_singleton, List.append_nil]
      exact h.1.append hend (stops_cons rfl [])
    | cons f es =>
      rw [insideText_cons_cons, List.append_assoc, List.cons_append]
      exact h.1.append ((ih h.2).append_left (s := [',']) (by decide)) (stops_cons rfl _)

/-- Entries in which no block begins make a configuration. -/
def Config.ofEntries (es : List Entry) (h : ∀ e ∈ es, NoBlock e.text) : Config where
  before := []
  gap := default
  gap' := default
  entries := es
  tail := []
  isTail := nofun
  after := []
  wordStart := nofun
  unique := by
    have hrest : NoBlock ("oken:\x7b".toList ++ (insideText es [] ++ ['\x7d'])) :=
      (noBlock_insideText h).append_left (by decide)
    intro x y heq hblock
    cases x with
    | nil => rfl
    | cons c x =>
      have hlater : BlockAt x y := BlockAt.of_append (s := [c]) hblock
      exact absurd hlater (hrest x y (List.cons.inj heq).2)

/-- In a text with the word of the block at one place only, no other block begins. -/
lemma Layout.eq_before_of_blockAt (l : Layout)
    (h : ∀ n ∈ List.range (l.text.length + 1), "token".toList.isPrefixOf (l.text.drop n) →
      n = l.before.length)
    (x y : Text) (heq : l.text = x ++ y) (hblock : BlockAt x y) : x = l.before := by
  have hword : "token".toList.isPrefixOf y := by
    obtain ⟨b₁, b₂, rest, -, -, rfl⟩ := hblock.2
    exact List.isPrefixOf_iff_prefix.mpr (List.prefix_append _ _)
  have hlength : x.length = l.before.length := by
    refine h x.length (List.mem_range.mpr ?_) ?_
    · rw [heq, List.length_append]
      omega
    · rwa [heq, List.drop_left]
  rw [Layout.text] at heq
  exact (List.append_inj_left heq hlength.symm).symm

end Script

end DesignTokens
